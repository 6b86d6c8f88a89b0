import LoadServer.CommandLine.Spelling
import LoadServer.Connection.Delivery
import LoadServer.Main
import LoadServer.Proofs.CommandLine.Counts
import LoadServer.Proofs.Connection.Failing
import LoadServer.Proofs.Connection.Sleeping
import LoadServer.Proofs.Server.AdmissionOrder
import LoadServer.Proofs.Server.Create
import LoadServer.Proofs.Server.FailedAccepts
import LoadServer.Proofs.Server.Isolation
import LoadServer.Proofs.Server.SettledLog
import LoadServer.Proofs.Settings.Precedence
import LoadServer.Proofs.Settings.Sources
import LoadServer.Proofs.Settings.Written
import LoadServer.Proofs.Wire.Framing
import LoadServer.Proofs.Wire.Room
import LoadServer.Proofs.Workload.Calibration
import LoadServer.Wire.Buffer

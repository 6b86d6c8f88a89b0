import LoadServer.Server.Permits
import LoadServer.Settings.Basic

/-! A server that is ready to accept connections. -/

namespace LoadServer

/-- A server with its settings, the host's factor, and permits if connections are limited. -/
structure Server where
  settings : Settings
  factor : Factor
  permits : Option Permits
  deriving DecidableEq, Repr

/-- A server for these settings, unless the limit of connections is beyond the greatest number of
permits. -/
def Server.create (settings : Settings) (factor : Factor) : Except TooManyPermits Server :=
  match settings.maxConnections with
  | none => .ok ⟨settings, factor, none⟩
  | some limit => (Permits.ofLimit limit.toNat).map fun permits => ⟨settings, factor, some permits⟩

end LoadServer

import LoadServer.Workload.Factor

/-! Calibration: timing a run of known length to find the host's factor. -/

namespace LoadServer.Calibration

/-- The sample size of a calibration that is not told another one. -/
def defaultIterations : UInt64 := 10000000

/-- How often a run is timed while the clock shows no time to have passed. -/
def maxAttempts : Nat := 3

/-- A thousandth, the least number of microseconds that a run is taken to last, in units. -/
def leastMicros : Nat := Binary64.nearest Binary64.one 1000

/-- Times runs until one shows time to have passed, and gives its nanoseconds, or zero after the
last attempt. -/
def timed {m : Type → Type} [Monad m] (timeRun : m Nat) : (attempts : Nat) → m Nat
  | 0 => pure 0
  | attempts + 1 => do
    let nanos ← timeRun
    if nanos = 0 then timed timeRun attempts else pure nanos

/-- The number of iterations divided by the microseconds that they took, rounded at every step. -/
def rate (iterations : UInt64) (nanos : Nat) : Factor :=
  let count := Binary64.nearest iterations.toNat 1
  let micros := Binary64.nearest (Binary64.nearest nanos 1 * Binary64.one) 1000
  let quotient := Binary64.nearest (count * Binary64.one * Binary64.one) (max micros leastMicros)
  ⟨UInt64.ofNat (Binary64.bits quotient)⟩

/-- Measures the factor with runs of at least one iteration. -/
def calibrate {m : Type → Type} [Monad m] (iterations : UInt64) (timeRun : UInt64 → m Nat) :
    m Factor := do
  let sample := max iterations 1
  let nanos ← timed (timeRun sample) maxAttempts
  pure (rate sample nanos)

end LoadServer.Calibration

/-! The delay word of a request: its top bit chooses sleeping, its other bits count microseconds. -/

namespace LoadServer

/-- How a request wants its time spent. -/
inductive Delay where
  /-- Keep a processor busy for this many microseconds. -/
  | spin (micros : UInt64)
  /-- Wait for this many microseconds without holding a processor. -/
  | sleep (micros : UInt64)
  deriving DecidableEq, Repr

namespace Delay

/-- The bit of a delay word that asks for sleep. -/
def sleepFlag : UInt64 := 0x8000000000000000

/-- The bits of a delay word that count microseconds. -/
def microsMask : UInt64 := ~~~ sleepFlag

/-- The microseconds asked for. -/
def micros : Delay → UInt64
  | .spin micros => micros
  | .sleep micros => micros

/-- Reads a delay word. -/
def ofWord (word : UInt64) : Delay :=
  if word &&& sleepFlag ≠ 0 then .sleep (word &&& microsMask) else .spin word

/-- The word of a delay: a count too wide for its bits loses the top bit, never the kind. -/
def toWord : Delay → UInt64
  | .spin micros => micros &&& microsMask
  | .sleep micros => (micros &&& microsMask) ||| sleepFlag

end Delay

end LoadServer

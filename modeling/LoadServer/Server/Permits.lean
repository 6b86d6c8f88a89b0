/-! Permits for serving connections, of which there is a fixed number. -/

namespace LoadServer

/-- Permits that are free, and whether they are still handed out. -/
structure Permits where
  free : Nat
  closed : Bool := false
  deriving DecidableEq, Repr

/-- A limit that is beyond the greatest number of permits. -/
structure TooManyPermits where
  limit : Nat
  deriving DecidableEq, Repr

/-- What comes of asking for a permit. -/
inductive Acquisition where
  /-- A permit is handed out, and these are left. -/
  | granted (left : Permits)
  /-- None is free now. -/
  | waiting
  /-- None will be handed out any more. -/
  | refused
  deriving DecidableEq, Repr

namespace Permits

/-- The greatest number of permits. -/
def greatest : Nat := (UInt64.size - 1) / 8

/-- As many free permits as a limit tells. -/
def ofLimit (limit : Nat) : Except TooManyPermits Permits :=
  if limit ≤ greatest then .ok { free := limit } else .error ⟨limit⟩

/-- Asks for a permit. -/
def acquire (permits : Permits) : Acquisition :=
  if permits.closed then .refused
  else if permits.free = 0 then .waiting
  else .granted { permits with free := permits.free - 1 }

/-- Gives a permit back. -/
def release (permits : Permits) : Permits :=
  { permits with free := permits.free + 1 }

end Permits

/-- What is reported of a limit that is too great. -/
def TooManyPermits.message (_fault : TooManyPermits) : String :=
  s!"a semaphore may not have more than MAX_PERMITS permits ({Permits.greatest})"

end LoadServer

/-!
# Clocks

A clock is a schedule of readings in microseconds, consumed one reading at a time.  Time never
passes the largest 64-bit number: additions stop there.
-/

namespace RagdollDynamics

def latestTime : UInt64 := 18446744073709551615

/-- The sum of two times, or the latest time there is if the sum lies past it. -/
def addTime (a b : UInt64) : UInt64 := if latestTime - a < b then latestTime else a + b

/-- The time from `a` to `b`, or nothing if `b` is earlier. -/
def timeSince (a b : UInt64) : UInt64 := if b < a then 0 else b - a

structure Clock where
  /-- What the clock shows when it is read for the `n`-th time, counted from zero. -/
  schedule : Nat → UInt64
  reads : Nat

namespace Clock

/-- A clock that starts at `start` and advances by `tick` after every reading. -/
def ticking (start tick : UInt64) : Clock where
  schedule := fun n => UInt64.ofNat (min (start.toNat + n * tick.toNat) latestTime.toNat)
  reads := 0

def still (start : UInt64) : Clock := ticking start 0

def now (c : Clock) : UInt64 := c.schedule c.reads

def next (c : Clock) : Clock := { c with reads := c.reads + 1 }

def advance (c : Clock) (time : UInt64) : Clock :=
  { c with schedule := fun n => addTime (c.schedule n) time }

end Clock

end RagdollDynamics

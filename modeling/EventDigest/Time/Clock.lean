import EventDigest.Time.Stamp

/-! # Clocks

A clock is a sequence of readings and how many of them were taken. Nothing is assumed of the
readings: they may stand still or go backwards, with or without an offset.
-/
set_option autoImplicit false
namespace EventDigest.Time

structure Clock where
  reading : Nat → Stamp
  taken : Nat

namespace Clock

def read (clock : Clock) : Stamp × Clock :=
  (clock.reading clock.taken, { clock with taken := clock.taken + 1 })

/-- A clock that moves by as many microseconds after each reading; at the end of time it stands. -/
def ticking (start : Stamp) (micros : Int) : Clock where
  reading n := match start.later (n * micros) with
    | .ok s => s
    | .error _ => start
  taken := 0

end EventDigest.Time.Clock

import EventDigest.Time.Instant

/-! # Stamps

A stamp is a date and time as somebody wrote it: a wall clock reading with or without its distance
from universal time. A reading without an offset is one of universal time.
-/
set_option autoImplicit false
namespace EventDigest.Time

/-- The wall clock reading is held as the instant at which universal time shows it; the offset is
in microseconds, ahead of universal time counting up. -/
structure Stamp where
  wall : Instant
  offset : Option Int
  deriving DecidableEq, Repr

namespace Stamp

def ofInstant (t : Instant) : Stamp := ⟨t, some 0⟩

def toInstant (s : Stamp) : Except OutOfSpan Instant :=
  match s.offset with
  | none => .ok s.wall
  | some offset => s.wall.shift (-offset)

/-- The point in time that a stamp means, in microseconds since the start of year 1 in universal
time. It may lie outside the years 1 to 9999. -/
def universalMicros (s : Stamp) : Int := s.wall.micros - s.offset.getD 0

theorem toInstant_eq_ok_iff {s : Stamp} {t : Instant} :
    s.toInstant = .ok t ↔ (t.micros : Int) = s.universalMicros := by
  obtain ⟨wall, offset⟩ := s
  cases offset with
  | none =>
    obtain ⟨m, hm⟩ := wall
    obtain ⟨n, hn⟩ := t
    change _ ↔ (n : Int) = (m : Int) - 0
    simp only [toInstant, Except.ok.injEq, Instant.mk.injEq]
    omega
  | some offset =>
    change Instant.ofMicros? (wall.micros + -offset) = .ok t ↔
      (t.micros : Int) = wall.micros - offset
    rw [Instant.ofMicros?_eq_ok_iff, Int.sub_eq_add_neg]

theorem exists_toInstant {s : Stamp} (hFrom : 0 ≤ s.universalMicros)
    (hUpTo : s.universalMicros < spanMicros) : ∃ t, s.toInstant = .ok t := by
  have hSpan : s.universalMicros.toNat < spanMicros := by omega
  exact ⟨⟨_, hSpan⟩, toInstant_eq_ok_iff.mpr (Int.toNat_of_nonneg hFrom)⟩

theorem toInstant_eq_error_iff {s : Stamp} : s.toInstant = .error .outOfSpan ↔
    s.universalMicros < 0 ∨ spanMicros ≤ s.universalMicros := by
  constructor
  · intro h
    by_cases hWithin : 0 ≤ s.universalMicros ∧ s.universalMicros < spanMicros
    · obtain ⟨t, ht⟩ := exists_toInstant hWithin.1 hWithin.2
      cases h.symm.trans ht
    · omega
  · intro hOutside
    cases hAnswer : s.toInstant with
    | error fault => rfl
    | ok t =>
      have hMicros := toInstant_eq_ok_iff.mp hAnswer
      have hSpan := t.inSpan
      omega

def later (s : Stamp) (micros : Int) : Except OutOfSpan Stamp := do
  return { s with wall := ← s.wall.shift micros }

end Stamp

def digit? (c : Char) : Option Nat :=
  if '0' ≤ c && c ≤ '9' then some (c.toNat - '0'.toNat) else none

/-- A number of exactly `width` digits at the start of a text. -/
def readDigits : Nat → Nat → List Char → Option (Nat × List Char)
  | 0, n, s => some (n, s)
  | _ + 1, _, [] => none
  | width + 1, n, c :: rest =>
    match digit? c with
    | some d => readDigits width (10 * n + d) rest
    | none => none

def readMark (mark : Char) : List Char → Option (List Char)
  | c :: rest => if c = mark then some rest else none
  | [] => none

/-- Hours, minutes and, after another colon, seconds: their length in seconds. -/
def readClock (s : List Char) : Option (Nat × List Char) := do
  let (hours, s) ← readDigits 2 0 s
  let s ← readMark ':' s
  let (minutes, s) ← readDigits 2 0 s
  if 23 < hours || 59 < minutes then none
  match s with
  | ':' :: s =>
    let (seconds, s) ← readDigits 2 0 s
    if 59 < seconds then none
    return (hours * 3600 + minutes * 60 + seconds, s)
  | s => return (hours * 3600 + minutes * 60, s)

def readFraction (s : List Char) : Option (Nat × List Char) :=
  match s with
  | '.' :: s =>
    let digits := s.takeWhile (fun c => (digit? c).isSome)
    if digits.isEmpty || 6 < digits.length then none
    else do
      let (n, s) ← readDigits digits.length 0 s
      return (n * Nat.pow 10 (6 - digits.length), s)
  | s => some (0, s)

/-- The distance from universal time. One that is less than a second counts as none. -/
def readOffset (s : List Char) : Option (Option Int) :=
  match s with
  | [] => some none
  | ['Z'] => some (some 0)
  | sign :: s =>
    if sign = '+' || sign = '-' then do
      let (seconds, s) ← readClock s
      let (micros, s) ← readFraction s
      if !s.isEmpty then none
      let length : Int := if seconds = 0 then 0 else seconds * microsPerSecond + micros
      return some (if sign = '-' then -length else length)
    else none

def readDate (s : List Char) : Option (Date × List Char) := do
  let (year, s) ← readDigits 4 0 s
  let s ← readMark '-' s
  let (month, s) ← readDigits 2 0 s
  let s ← readMark '-' s
  let (day, s) ← readDigits 2 0 s
  let date : Date := ⟨year, month, day⟩
  if date.isValid then some (date, s) else none

/-- Reads date, time, fraction and offset; nothing may follow. -/
def readStamp (s : List Char) : Option Stamp := do
  let (date, s) ← readDate s
  let s ← readMark 'T' s
  let (seconds, s) ← readClock s
  let (micros, s) ← readFraction s
  let offset ← readOffset s
  let wall ← (Instant.ofMicros?
    (date.dayNumber * microsPerDay + seconds * microsPerSecond + micros : Nat)).toOption
  return ⟨wall, offset⟩

def Stamp.read? (s : String) : Option Stamp := readStamp s.toList

end EventDigest.Time

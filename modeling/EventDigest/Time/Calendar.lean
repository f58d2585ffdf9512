/-! # Calendar days

Days of the Gregorian calendar, extended to all years, counted from the first of January of year 1.
-/
set_option autoImplicit false
namespace EventDigest.Time

structure Date where
  year : Nat
  month : Nat
  day : Nat
  deriving DecidableEq, Repr

def isLeap (year : Nat) : Bool := year % 4 == 0 && (year % 100 != 0 || year % 400 == 0)

def monthLengths (leap : Bool) : List Nat :=
  [31, if leap then 29 else 28, 31, 30, 31, 30, 31, 31, 30, 31, 30, 31]

def daysBeforeYear (year : Nat) : Nat :=
  let past := year - 1
  365 * past + past / 4 - past / 100 + past / 400

namespace Date

def dayNumber (d : Date) : Nat :=
  let months := (monthLengths (isLeap d.year)).take (d.month - 1)
  daysBeforeYear d.year + months.foldr (· + ·) 0 + (d.day - 1)

/-- Finds the month, counted from one, and the day in it of the day with the given index in a
year. -/
def inMonths : List Nat → Nat → Nat × Nat
  | [], index => (1, index + 1)
  | length :: lengths, index =>
    if index < length then (1, index + 1)
    else
      let (month, day) := inMonths lengths (index - length)
      (month + 1, day)

/-- Splits by cycles of four hundred, one hundred, four years and one year; the last year of a cycle
may be a day longer than the others. -/
def ofDayNumber (n : Nat) : Date :=
  let centuries := min (n % 146097 / 36524) 3
  let inCentury := n % 146097 - centuries * 36524
  let years := min (inCentury % 1461 / 365) 3
  let year := 400 * (n / 146097) + 100 * centuries + 4 * (inCentury / 1461) + years + 1
  let (month, day) := inMonths (monthLengths (isLeap year)) (inCentury % 1461 - years * 365)
  ⟨year, month, day⟩

def isValid (d : Date) : Bool :=
  1 ≤ d.year && 1 ≤ d.month && 1 ≤ d.day &&
    (match (monthLengths (isLeap d.year))[d.month - 1]? with
      | some length => d.day ≤ length
      | none => false)

end Date

end EventDigest.Time

import EventDigest.Time.Calendar

/-! # Instants

Points in time between the years 1 and 9999 to the microsecond, and their texts.
-/
set_option autoImplicit false
namespace EventDigest.Time

def microsPerSecond : Nat := 1000000
def microsPerMinute : Nat := 60 * microsPerSecond
def microsPerDay : Nat := 1440 * microsPerMinute

def spanMicros : Nat := 3652059 * microsPerDay

/-- Microseconds since the start of year 1 in universal time. -/
structure Instant where
  micros : Nat
  inSpan : micros < spanMicros
  deriving DecidableEq, Repr

/-- The only thing that can go wrong with a conversion: its result is outside the years 1 to
9999. -/
inductive OutOfSpan
  | outOfSpan
  deriving DecidableEq, Repr

def OutOfSpan.message : OutOfSpan → String
  | .outOfSpan => "date value out of range"

namespace Instant

instance : LT Instant := ⟨fun a b => a.micros < b.micros⟩
instance : LE Instant := ⟨fun a b => a.micros ≤ b.micros⟩
instance (a b : Instant) : Decidable (a < b) := inferInstanceAs (Decidable (a.micros < b.micros))
instance (a b : Instant) : Decidable (a ≤ b) := inferInstanceAs (Decidable (a.micros ≤ b.micros))

def first : Instant := ⟨0, by decide⟩

instance : Inhabited Instant := ⟨first⟩

def ofMicros? (micros : Int) : Except OutOfSpan Instant :=
  if h : micros.toNat < spanMicros then
    if 0 ≤ micros then .ok ⟨micros.toNat, h⟩ else .error .outOfSpan
  else .error .outOfSpan

theorem ofMicros?_eq_ok_iff {micros : Int} {t : Instant} :
    ofMicros? micros = .ok t ↔ (t.micros : Int) = micros := by
  obtain ⟨n, hn⟩ := t
  change _ ↔ (n : Int) = micros
  unfold ofMicros?
  split
  · split
    · rw [Except.ok.injEq, Instant.mk.injEq]
      omega
    · simp only [reduceCtorEq, false_iff]
      omega
  · simp only [reduceCtorEq, false_iff]
    omega

def shift (t : Instant) (micros : Int) : Except OutOfSpan Instant := ofMicros? (t.micros + micros)

def date (t : Instant) : Date := Date.ofDayNumber (t.micros / microsPerDay)

end Instant

def padded (width n : Nat) : List Char :=
  let digits := Nat.toDigits 10 n
  List.replicate (width - digits.length) '0' ++ digits

def clockChars (t : Instant) : List Char :=
  let seconds := t.micros % microsPerDay / microsPerSecond
  padded 2 (seconds / 3600) ++ ':' :: padded 2 (seconds / 60 % 60) ++ ':' :: padded 2 (seconds % 60)

/-- Six digits of a second, and nothing on the whole second. -/
def fractionChars (t : Instant) : List Char :=
  let micros := t.micros % microsPerSecond
  if micros = 0 then [] else '.' :: padded 6 micros

def dayChars (yearWidth : Nat) (d : Date) : List Char :=
  padded yearWidth d.year ++ '-' :: padded 2 d.month ++ '-' :: padded 2 d.day

def isoChars (t : Instant) : List Char :=
  dayChars 4 t.date ++ 'T' :: clockChars t ++ fractionChars t

def Instant.wallText (t : Instant) : String := String.ofList (isoChars t)

def Instant.offsetText (t : Instant) : String := String.ofList (isoChars t ++ "+00:00".toList)

/-- Date and time with the letter of universal time: the form of every document. -/
def Instant.text (t : Instant) : String := String.ofList (isoChars t ++ ['Z'])

def textOrUnknown : Option Instant → String
  | none => "Unknown"
  | some t => t.text

end EventDigest.Time

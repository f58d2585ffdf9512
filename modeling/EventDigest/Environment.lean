import EventDigest.Binary64
import EventDigest.Fields
import EventDigest.Text.Blank
import EventDigest.Text.Case
import EventDigest.Text.Digit
import EventDigest.Text.Split

/-! # Environment variables

Named texts from outside, and the three ways in which a text is read as a value: as a switch, as a
whole number and as a floating-point number. The sizes of the connection pool are read more freely,
with the digits of any script, and fall back when they cannot be read.
-/
set_option autoImplicit false
namespace EventDigest

abbrev Environment := Fields String

namespace Environment

def asciiLower (s : String) : String := String.ofList (s.toList.map Char.toLower)

/-- A variable whose name is compared without regard to case; of several the last one counts. -/
def lookup? (env : Environment) (name : String) : Option String :=
  ((env.filter fun (key, _) => Text.lower key = Text.lower name).getLast?).map (·.2)

def readSwitch (s : String) : Option Bool :=
  let s := asciiLower s
  if ["1", "t", "y", "on", "yes", "true"].contains s then some true
  else if ["0", "f", "n", "off", "no", "false"].contains s then some false
  else none

def isAsciiDigit (c : Char) : Bool := '0' ≤ c && c ≤ '9'

def digitsValue (digits : List Nat) : Nat := digits.foldl (fun n d => 10 * n + d) 0

def asciiValue (digits : List Char) : Nat :=
  digitsValue (digits.map fun c => c.toNat - '0'.toNat)

/-- A sign and the text behind it. -/
def readSign (s : List Char) : Bool × List Char :=
  match s with
  | '-' :: rest => (true, rest)
  | '+' :: rest => (false, rest)
  | rest => (false, rest)

def groupedDigits (digit? : Char → Option Nat) : List Char → Option (List Nat)
  | [] => none
  | [c] => (digit? c).map ([·])
  | c :: '_' :: rest => do return (← digit? c) :: (← groupedDigits digit? rest)
  | c :: rest => do return (← digit? c) :: (← groupedDigits digit? rest)

def asciiDigit? (c : Char) : Option Nat :=
  if isAsciiDigit c then some (c.toNat - '0'.toNat) else none

def signed (negative : Bool) (n : Nat) : Int := if negative then -(n : Int) else n

/-- A whole number; a fraction of zeros alone may follow it. -/
def readWhole (s : String) : Option Int := do
  let (negative, unsigned) := readSign (Text.trimmed s.toList)
  let whole := unsigned.takeWhile (· ≠ '.')
  let fraction := unsigned.dropWhile (· ≠ '.')
  if (fraction.drop 1).any (· ≠ '0') then none
  return signed negative (digitsValue (← groupedDigits asciiDigit? whole))

def specialNumbers : List (String × Binary64) :=
  [("inf", .infinite false), ("infinity", .infinite false), ("nan", .nan)]

def withSign (negative : Bool) : Binary64 → Binary64
  | .infinite _ => .infinite negative
  | x => x

def readPower (s : List Char) : Option Int :=
  match s with
  | [] => some 0
  | _ :: rest =>
    let (negative, digits) := readSign rest
    if digits.isEmpty || !digits.all isAsciiDigit then none
    else some (signed negative (asciiValue digits))

def readDecimal (negative : Bool) (s : List Char) : Option Binary64 := do
  let isPowerMark (c : Char) := c = 'e' || c = 'E'
  let mantissa := s.takeWhile (!isPowerMark ·)
  let power ← readPower (s.dropWhile (!isPowerMark ·))
  let whole := mantissa.takeWhile (· ≠ '.')
  let fraction := (mantissa.dropWhile (· ≠ '.')).drop 1
  let digits := whole ++ fraction
  if digits.isEmpty || !digits.all isAsciiDigit then none
  return .ofDecimal negative (asciiValue digits) (power - fraction.length)

def readSigned (s : List Char) : Option Binary64 :=
  let (negative, unsigned) := readSign s
  match specialNumbers.lookup (asciiLower (String.ofList unsigned)) with
  | some x => some (withSign negative x)
  | none => readDecimal negative unsigned

def isGrouped (s : List Char) : Bool :=
  s.head? ≠ some '_' && s.getLast? ≠ some '_' && !(s.zip (s.drop 1)).contains ('_', '_')

/-- A number with blanks around it or underscores inside it, but not both. -/
def readNumber (s : String) : Option Binary64 :=
  match readSigned (Text.trimmed s.toList) with
  | some x => some x
  | none => if isGrouped s.toList then readSigned (s.toList.filter (· ≠ '_')) else none

def mostDigits : Nat := 4300

def poolSize (env : Environment) (name : String) (fallback : Int) : Int :=
  let (negative, unsigned) := readSign (Text.trimmed ((Fields.get? env name).getD "").toList)
  match groupedDigits Text.digitValue? unsigned with
  | none => fallback
  | some digits =>
    if mostDigits < digits.length then fallback else signed negative (digitsValue digits)

structure Pool where
  size : Int
  overflow : Int
  recycle : Int
  timeout : Int
  deriving DecidableEq, Repr

/-- A database in a file needs no pool. -/
def pool? (env : Environment) (url : String) : Option Pool :=
  if Text.startsWith "sqlite" url then none
  else some
    { size := env.poolSize "DB_POOL_SIZE" 5
      overflow := env.poolSize "DB_MAX_OVERFLOW" 10
      recycle := env.poolSize "DB_POOL_RECYCLE_SEC" 1800
      timeout := env.poolSize "DB_POOL_TIMEOUT_SEC" 30 }

end EventDigest.Environment

import EventDigest.Binary64

/-! # Shortest decimals

A finite number is written with the fewest significant digits that read back as the same number,
and among those with the digits nearest to its value. The digits come from exact arithmetic: for
one, two, … seventeen digits the two neighbours of the value on that decimal grid are read back.
-/
set_option autoImplicit false
namespace EventDigest.Binary64

structure Decimal where
  digits : Nat
  exponent : Int
  deriving DecidableEq, Repr

def leadingExponent (num den : Nat) : Int :=
  if den ≤ num then digitCount (num / den) - 1
  else -(digitCount ((den + num - 1) / num - 1) : Int)

/-- The neighbours of `num / den` among the multiples of `10 ^ k`, the nearer one first; of two
equally near ones the even one is first. -/
def neighbours (num den : Nat) (k : Int) : List Decimal :=
  let (num, den) :=
    if 0 ≤ k then (num, den * Nat.pow 10 k.toNat) else (num * Nat.pow 10 (-k).toNat, den)
  let q := num / den
  let r := num % den
  let up := den < 2 * r || (den == 2 * r && q % 2 == 1)
  if up then [⟨q + 1, k⟩, ⟨q, k⟩] else [⟨q, k⟩, ⟨q + 1, k⟩]

def exactDecimal (m : Nat) (e : Int) : Decimal :=
  if 0 ≤ e then ⟨m * Nat.pow 2 e.toNat, 0⟩ else ⟨m * Nat.pow 5 (-e).toNat, e⟩

def shortest (m : Nat) (e : Int) : Decimal :=
  let (num, den) := if 0 ≤ e then (m * Nat.pow 2 e.toNat, 1) else (m, Nat.pow 2 (-e).toNat)
  let lead := leadingExponent num den
  let candidates := (List.range 17).flatMap fun (n : Nat) => neighbours num den (lead - n)
  (candidates.find? fun d => ofDecimal false d.digits d.exponent == .finite false m e).getD
    (exactDecimal m e)

/-- How a decimal is laid out: positional while the point stands between `leastPoint` and
`mostPoint`, counted from the first digit, and otherwise with an exponent of two digits at least. -/
structure Layout where
  leastPoint : Int
  mostPoint : Int
  nan : String
  infinity : String
  deriving Repr

def plainLayout : Layout := ⟨-3, 16, "nan", "inf"⟩

def jsonLayout : Layout := { plainLayout with nan := "NaN", infinity := "Infinity" }

def exponentDigits (n : Nat) : List Char :=
  let digits := Nat.toDigits 10 n
  if digits.length < 2 then '0' :: digits else digits

def layDigits (layout : Layout) (digits : List Char) (point : Int) : List Char :=
  if layout.leastPoint ≤ point && point ≤ layout.mostPoint then
    if point ≤ 0 then '0' :: '.' :: List.replicate (-point).toNat '0' ++ digits
    else
      let whole := digits.take point.toNat
      let fraction := digits.drop point.toNat
      whole ++ List.replicate (point.toNat - digits.length) '0' ++
        '.' :: (if fraction.isEmpty then ['0'] else fraction)
  else
    let fraction := digits.drop 1
    let e := point - 1
    digits.take 1 ++ (if fraction.isEmpty then [] else '.' :: fraction) ++
      'e' :: (if e < 0 then '-' else '+') :: exponentDigits e.natAbs

def signChars (negative : Bool) : List Char := if negative then ['-'] else []

def toChars (layout : Layout) : Binary64 → List Char
  | .nan => layout.nan.toList
  | .infinite negative => signChars negative ++ layout.infinity.toList
  | .finite negative m e =>
    if m = 0 then signChars negative ++ ['0', '.', '0']
    else
      let d := shortest m e
      let digits := Nat.toDigits 10 d.digits
      let kept := (digits.reverse.dropWhile (· = '0')).reverse
      signChars negative ++ layDigits layout kept (digits.length + d.exponent)

def text (x : Binary64) : String := String.ofList (x.toChars plainLayout)

end EventDigest.Binary64

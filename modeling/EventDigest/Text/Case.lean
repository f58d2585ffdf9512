import EventDigest.Text.CaseTable

/-! # Lower and upper case

The full case mappings of texts, not of single characters: an image may be longer than one
character, and a capital sigma that ends a word becomes the final form of its small letter.
-/
set_option autoImplicit false
namespace EventDigest.Text
open CaseTable

/-- The image of a code point under the first run of a table that covers it. -/
def runImage (runs : List (Nat × Nat × Nat × Nat)) (n : Nat) : Option Nat :=
  runs.findSome? fun (first, last, stride, image) =>
    if first ≤ n && n ≤ last && (n - first) % stride == 0 then some (image + (n - first)) else none

def inRanges (ranges : List (Nat × Nat)) (n : Nat) : Bool :=
  ranges.any fun (first, last) => first ≤ n && n ≤ last

/-- ASCII letters move by the distance between the two cases; the tables decide beyond ASCII. -/
def lowerChar (c : Char) : List Char :=
  if c.toNat < 128 then [c.toLower]
  else match lowerExpansions.lookup c.toNat with
    | some image => image.map Char.ofNat
    | none => [((runImage lowerRuns c.toNat).map Char.ofNat).getD c]

def upperChar (c : Char) : List Char :=
  if c.toNat < 128 then [c.toUpper]
  else match upperExpansions.lookup c.toNat with
    | some image => image.map Char.ofNat
    | none => [((runImage upperRuns c.toNat).map Char.ofNat).getD c]

def isTransparent (c : Char) : Bool := inRanges transparentRanges c.toNat

def isCased (c : Char) : Bool := inRanges casedRanges c.toNat

/-- Whether the nearest character that is not transparent is a letter with case. -/
def meetsLetter (s : List Char) : Bool := ((s.dropWhile isTransparent).head?.map isCased).getD false

/-- Lowers a text, given the characters before it with the nearest first. -/
def lowerAfter (before : List Char) : List Char → List Char
  | [] => []
  | c :: rest =>
    let image :=
      if c = 'Σ' then [if meetsLetter before && !meetsLetter rest then 'ς' else 'σ']
      else lowerChar c
    image ++ lowerAfter (c :: before) rest

def lower (s : String) : String := String.ofList (lowerAfter [] s.toList)

def upper (s : String) : String := String.ofList (s.toList.flatMap upperChar)

end EventDigest.Text

import EventDigest.Text.PrintTable
import EventDigest.Text.Case

/-! # Quoted text

A text between quotes on one line, as log lines and messages show it: apostrophes unless the text
holds an apostrophe and no double quote, and an escape for each character without a glyph.
-/
set_option autoImplicit false
namespace EventDigest.Text

def isHidden (c : Char) : Bool := inRanges PrintTable.hiddenRanges c.toNat

def hexDigits (width n : Nat) : List Char :=
  ((Nat.toDigits 16 n).reverse ++ List.replicate width '0').take width |>.reverse

def quoteMark (s : List Char) : Char := if s.contains '\'' && !s.contains '"' then '"' else '\''

def quotedChar (mark c : Char) : List Char :=
  if c = mark || c = '\\' then ['\\', c]
  else if c = '\t' then ['\\', 't']
  else if c = '\n' then ['\\', 'n']
  else if c = '\r' then ['\\', 'r']
  else if ' ' ≤ c && c ≤ '~' then [c]
  else if !isHidden c then [c]
  else if c.toNat < 0x100 then '\\' :: 'x' :: hexDigits 2 c.toNat
  else if c.toNat < 0x10000 then '\\' :: 'u' :: hexDigits 4 c.toNat
  else '\\' :: 'U' :: hexDigits 8 c.toNat

def quotedChars (s : List Char) : List Char :=
  let mark := quoteMark s
  mark :: s.flatMap (quotedChar mark) ++ [mark]

def quoted (s : String) : String := String.ofList (quotedChars s.toList)

end EventDigest.Text

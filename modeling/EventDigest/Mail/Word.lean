import EventDigest.Text.Blank

/-! # Words of a mail header

Blanks with comments, words, and the parts that names and old local parts are made of. A quote or a
comment that is never closed ends with the header.
-/
set_option autoImplicit false
namespace EventDigest.Mail

/-- What makes a header unusable, by the place of the damage. -/
inductive AddressFault
  | endsEarly
  | lacksContent
  | dotAtNameEdge
  | dotBehindBlank
  | openLiteral
  | blankLiteral
  | behindGroup
  | lineBreak
  deriving DecidableEq, Repr

/-- A reader stops where another reading may still succeed, or for good. -/
inductive Stop
  | mismatch
  | fault (fault : AddressFault)
  deriving DecidableEq, Repr

def isSpaceTab (c : Char) : Bool := c = ' ' || c = '\t'

def specials : List Char := "()<>@,:;.\\\"[]".toList

def isSpecial (c : Char) : Bool := specials.contains c

def endsAtom (c : Char) : Bool := isSpecial c || isSpaceTab c

/-- Names go on over dots, quotes and comments. -/
def endsPhrase (c : Char) : Bool := isSpecial c && c ≠ '.' && c ≠ '"' && c ≠ '('

/-- Text up to a blank or one of the given characters; a backslash protects the next character. -/
def readPlain (ends : List Char) : Bool → List Char → List Char × List Char
  | _, [] => ([], [])
  | protect, c :: rest =>
    if isSpaceTab c then ([], c :: rest)
    else if c = '\\' && !protect then readPlain ends true rest
    else if !protect && ends.contains c then ([], c :: rest)
    else
      let (text, rest) := readPlain ends false rest
      (c :: text, rest)

/-- The text behind a comment, given how many comments are open. Every round reads a character. -/
def skipComment : Nat → Nat → List Char → List Char
  | 0, _, s => s
  | _, _, [] => []
  | fuel + 1, depth, c :: rest =>
    if c = ')' then if depth ≤ 1 then rest else skipComment fuel (depth - 1) rest
    else if c = '(' then skipComment fuel (depth + 1) rest
    else if isSpaceTab c then skipComment fuel depth (rest.dropWhile Text.isBlank)
    else skipComment fuel depth (readPlain ['(', ')'] false (c :: rest)).2

def skipBlanks : Nat → List Char → List Char
  | 0, s => s
  | _, [] => []
  | fuel + 1, c :: rest =>
    if isSpaceTab c then skipBlanks fuel (rest.dropWhile Text.isBlank)
    else if c = '(' then skipBlanks fuel (skipComment rest.length 1 rest)
    else c :: rest

/-- Whether blanks or comments begin a text, and the text behind them. -/
def readBlanks (s : List Char) : Bool × List Char :=
  match s with
  | [] => (false, [])
  | c :: _ => if isSpaceTab c || c = '(' then (true, skipBlanks s.length s) else (false, s)

/-- The inside of a quoted text and what is behind it; `s` begins behind the opening quote. -/
def readQuoted : Nat → List Char → List Char × List Char
  | 0, s => ([], s)
  | _, [] => ([], [])
  | fuel + 1, c :: rest =>
    if c = '"' then ([], rest)
    else
      let (part, behind) :=
        if isSpaceTab c then
          (c :: rest.takeWhile Text.isBlank, rest.dropWhile Text.isBlank)
        else readPlain ['"'] false (c :: rest)
      let (more, behind) := readQuoted fuel behind
      (part ++ more, behind)

/-- A word with whether blanks surround it. -/
structure Word where
  text : List Char
  blankBefore : Bool
  blankBehind : Bool
  deriving Repr

def readAtomText (s : List Char) : List Char × List Char :=
  (s.takeWhile (!endsAtom ·), s.dropWhile (!endsAtom ·))

def closeWord (blankBefore : Bool) (text rest : List Char) : Word × List Char :=
  let (blankBehind, rest) := readBlanks rest
  (⟨text, blankBefore, blankBehind⟩, rest)

def readWord (s : List Char) : Except Stop (Word × List Char) :=
  let (blankBefore, s) := readBlanks s
  match s with
  | [] => .error .mismatch
  | '"' :: rest =>
    let (text, rest) := readQuoted rest.length rest
    .ok (closeWord blankBefore text rest)
  | c :: _ =>
    if isSpecial c then .error .mismatch
    else
      let (text, rest) := readAtomText s
      .ok (closeWord blankBefore text rest)

inductive Piece
  | word (word : Word)
  | dot
  | blank
  | stray (c : Char)
  deriving Repr

/-- Parts up to a character that ends them; old local parts go on over stray backslashes. Every
round reads a character. -/
def readPieces (overBackslash : Bool) : Nat → List Char → List Piece × List Char
  | 0, s => ([], s)
  | _, [] => ([], [])
  | fuel + 1, c :: rest =>
    let s := c :: rest
    let next (piece : Piece) (rest : List Char) : List Piece × List Char :=
      let (pieces, rest) := readPieces overBackslash fuel rest
      (piece :: pieces, rest)
    if c = '.' then next .dot rest
    else if c = '\\' && overBackslash then next (.stray c) rest
    else if endsPhrase c then ([], s)
    else match readWord s with
      | .ok (word, rest) => next (.word word) rest
      | .error _ => next .blank (readBlanks s).2

def Piece.isBlank : Piece → Bool
  | .blank => true
  | _ => false

def Piece.isDot : Piece → Bool
  | .dot => true
  | _ => false

def readPhrase (s : List Char) : List Piece × List Char := readPieces false s.length s

def blankText (blank : Bool) : List Char := if blank then [' '] else []

def Word.written (w : Word) : List Char :=
  blankText w.blankBefore ++ w.text ++ blankText w.blankBehind

def Piece.written : Piece → List Char
  | .word w => w.written
  | .dot => ['.']
  | .blank => [' ']
  | .stray c => [c]

end EventDigest.Mail

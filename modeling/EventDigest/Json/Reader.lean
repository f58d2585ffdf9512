import EventDigest.Json

/-! # Reading JSON

A reader that names the first fault of a text and where it stands. Beyond the standard it accepts
the names of the three special floating-point values; a repeated member name keeps its last value.
Integers are limited in length, since reading them takes more than linear time.
-/
set_option autoImplicit false
namespace EventDigest.Json

inductive Fault
  | byteOrderMark
  | value
  | memberName
  | colon
  | comma
  | extra
  | unterminated
  | escape
  | unitEscape
  | control
  | longInteger (digits : Nat)
  deriving DecidableEq, Repr

/-- A fault with the text that was still to be read where it stands. -/
structure Stop where
  fault : Fault
  rest : List Char
  deriving Repr

def isSpace (c : Char) : Bool := c = ' ' || c = '\t' || c = '\n' || c = '\r'

def skipSpace (s : List Char) : List Char := s.dropWhile isSpace

def hexValue? (c : Char) : Option Nat :=
  if '0' ≤ c && c ≤ '9' then some (c.toNat - '0'.toNat)
  else if 'a' ≤ c && c ≤ 'f' then some (c.toNat - 'a'.toNat + 10)
  else if 'A' ≤ c && c ≤ 'F' then some (c.toNat - 'A'.toNat + 10)
  else none

def unitValue? (a b c d : Char) : Option Nat := do
  return (← hexValue? a) * 0x1000 + (← hexValue? b) * 0x100 + (← hexValue? c) * 0x10 +
    (← hexValue? d)

def simpleEscape? : Char → Option Char
  | '"' => some '"'
  | '\\' => some '\\'
  | '/' => some '/'
  | 'b' => some '\x08'
  | 'f' => some '\x0c'
  | 'n' => some '\n'
  | 'r' => some '\r'
  | 't' => some '\t'
  | _ => none

def isHighSurrogate (n : Nat) : Bool := 0xD800 ≤ n && n < 0xDC00

def isLowSurrogate (n : Nat) : Bool := 0xDC00 ≤ n && n < 0xE000

/-- The character of a code unit; a surrogate that stands alone has none and is replaced. -/
def unitChar (n : Nat) : Char :=
  if isHighSurrogate n || isLowSurrogate n then '\uFFFD' else Char.ofNat n

/-- What an escape of four hexadecimal digits stands for, with the text after it. Some character has
to follow the digits. -/
def readUnit (s : List Char) : Except Stop (Nat × List Char) :=
  match s with
  | 'u' :: a :: b :: c :: d :: next :: rest =>
    match unitValue? a b c d with
    | some n => .ok (n, next :: rest)
    | none => .error ⟨.unitEscape, s⟩
  | _ => .error ⟨.unitEscape, s⟩

/-- The low half of a surrogate pair, if a second escape follows that is not the end of the text. -/
def readLowUnit? (s : List Char) : Except Stop (Option (Nat × List Char)) :=
  match s with
  | '\\' :: 'u' :: a :: b :: c :: d :: next :: rest => do
    let (n, rest) ← readUnit ('u' :: a :: b :: c :: d :: next :: rest)
    return if isLowSurrogate n then some (n, rest) else none
  | _ => .ok none

def readEscape (start s : List Char) : Except Stop (Char × List Char) :=
  match s with
  | [] => .error ⟨.unterminated, start⟩
  | 'u' :: rest => do
    let (n, rest) ← readUnit ('u' :: rest)
    if isHighSurrogate n then
      match ← readLowUnit? rest with
      | some (low, rest) =>
        return (Char.ofNat (0x10000 + (n - 0xD800) * 0x400 + (low - 0xDC00)), rest)
      | none => return (unitChar n, rest)
    else return (unitChar n, rest)
  | c :: rest =>
    match simpleEscape? c with
    | some image => .ok (image, rest)
    | none => .error ⟨.escape, '\\' :: s⟩

/-- The inside of a string literal up to its closing quote; `start` is the text from the opening
quote on. Every round reads a character, so the length of the text is fuel enough. -/
def readText (start : List Char) : Nat → List Char → List Char → Except Stop (String × List Char)
  | 0, _, _ => .error ⟨.unterminated, start⟩
  | fuel + 1, reversed, s =>
    match s with
    | [] => .error ⟨.unterminated, start⟩
    | '"' :: rest => .ok (String.ofList reversed.reverse, rest)
    | '\\' :: rest =>
      match readEscape start rest with
      | .error stop => .error stop
      | .ok (c, rest) => readText start fuel (c :: reversed) rest
    | c :: rest =>
      if c < ' ' then .error ⟨.control, s⟩ else readText start fuel (c :: reversed) rest

def isDigit (c : Char) : Bool := '0' ≤ c && c ≤ '9'

def digitsValue (digits : List Char) : Nat :=
  digits.foldl (fun n c => 10 * n + (c.toNat - '0'.toNat)) 0

/-- The whole part of a number: a zero alone, or digits that do not begin with one. -/
def readWhole (s : List Char) : Option (List Char × List Char) :=
  match s with
  | '0' :: rest => some (['0'], rest)
  | c :: _ => if isDigit c then some (s.takeWhile isDigit, s.dropWhile isDigit) else none
  | [] => none

def readFraction (s : List Char) : List Char × List Char :=
  match s with
  | '.' :: rest =>
    let digits := rest.takeWhile isDigit
    if digits.isEmpty then ([], s) else (digits, rest.dropWhile isDigit)
  | _ => ([], s)

def readExponent (s : List Char) : Option (Int × List Char) :=
  match s with
  | [] => none
  | e :: rest =>
    if e = 'e' || e = 'E' then
      let (negative, unsigned) := match rest with
        | '-' :: rest => (true, rest)
        | '+' :: rest => (false, rest)
        | rest => (false, rest)
      let digits := unsigned.takeWhile isDigit
      if digits.isEmpty then none
      else
        let n : Int := digitsValue digits
        some (if negative then -n else n, unsigned.dropWhile isDigit)
    else none

def maxIntegerDigits : Nat := 4300

/-- A number, which is a floating-point one when it has a fraction or an exponent. -/
def readNumber (s : List Char) : Except Stop (Json × List Char) :=
  let (negative, unsigned) := match s with
    | '-' :: rest => (true, rest)
    | rest => (false, rest)
  match readWhole unsigned with
  | none => .error ⟨.value, s⟩
  | some (whole, rest) =>
    let (fraction, rest) := readFraction rest
    match readExponent rest with
    | some (e, rest) =>
      .ok (.float (.ofDecimal negative (digitsValue (whole ++ fraction)) (e - fraction.length)),
        rest)
    | none =>
      if fraction.isEmpty then
        if maxIntegerDigits < whole.length then .error ⟨.longInteger whole.length, s⟩
        else
          let n : Int := digitsValue whole
          .ok (.int (if negative then -n else n), rest)
      else
        .ok (.float (.ofDecimal negative (digitsValue (whole ++ fraction)) (-fraction.length)),
          rest)

def names : List (String × Json) :=
  [("null", .null), ("true", .bool true), ("false", .bool false), ("NaN", .float .nan),
    ("Infinity", .float (.infinite false)), ("-Infinity", .float (.infinite true))]

def readName (s : List Char) : Option (Json × List Char) :=
  names.findSome? fun (name, value) =>
    if name.toList.isPrefixOf s then some (value, s.drop name.length) else none

mutual

/-- One value. Each call and each further member of a container reads a character at least, so the
length of the text is fuel enough. -/
def readValue : Nat → List Char → Except Stop (Json × List Char)
  | 0, s => .error ⟨.value, s⟩
  | fuel + 1, s =>
    match s with
    | '"' :: rest => do
      let (t, rest) ← readText s s.length [] rest
      return (.text t, rest)
    | '[' :: rest =>
      match skipSpace rest with
      | ']' :: rest => .ok (.array [], rest)
      | rest => do
        let (items, rest) ← readItems fuel rest
        return (.array items, rest)
    | '{' :: rest =>
      match skipSpace rest with
      | '}' :: rest => .ok (.object [], rest)
      | rest => do
        let (members, rest) ← readMembers fuel [] rest
        return (.object members, rest)
    | _ =>
      match readName s with
      | some found => .ok found
      | none => readNumber s

def readItems : Nat → List Char → Except Stop (List Json × List Char)
  | 0, s => .error ⟨.value, s⟩
  | fuel + 1, s => do
    let (item, rest) ← readValue fuel s
    match skipSpace rest with
    | ']' :: rest => return ([item], rest)
    | ',' :: rest =>
      let (items, rest) ← readItems fuel (skipSpace rest)
      return (item :: items, rest)
    | rest => throw ⟨.comma, rest⟩

def readMembers :
    Nat → List (String × Json) → List Char → Except Stop (List (String × Json) × List Char)
  | 0, _, s => .error ⟨.memberName, s⟩
  | fuel + 1, members, s =>
    match s with
    | '"' :: rest => do
      let (name, rest) ← readText s s.length [] rest
      match skipSpace rest with
      | ':' :: rest =>
        let (value, rest) ← readValue fuel (skipSpace rest)
        let members := Fields.put name value members
        match skipSpace rest with
        | '}' :: rest => return (members, rest)
        | ',' :: rest => readMembers fuel members (skipSpace rest)
        | rest => throw ⟨.comma, rest⟩
      | rest => throw ⟨.colon, rest⟩
    | _ => .error ⟨.memberName, s⟩

end

def readDocument (s : List Char) : Except Stop Json := do
  if s.head? = some '\uFEFF' then throw ⟨.byteOrderMark, s⟩
  let (value, rest) ← readValue (s.length + 1) (skipSpace s)
  match skipSpace rest with
  | [] => return value
  | rest => throw ⟨.extra, rest⟩

def Fault.text : Fault → String
  | .byteOrderMark => "Unexpected UTF-8 BOM (decode using utf-8-sig)"
  | .value => "Expecting value"
  | .memberName => "Expecting property name enclosed in double quotes"
  | .colon => "Expecting ':' delimiter"
  | .comma => "Expecting ',' delimiter"
  | .extra => "Extra data"
  | .unterminated => "Unterminated string starting at"
  | .escape => "Invalid \\escape"
  | .unitEscape => "Invalid \\uXXXX escape"
  | .control => "Invalid control character at"
  | .longInteger digits =>
    "Exceeds the limit (4300 digits) for integer string conversion: value has " ++
      toString digits ++ " digits; use sys.set_int_max_str_digits() to increase the limit"

/-- The place behind the given characters: line and column count from one, the offset from zero. -/
def placeText (read : List Char) : String :=
  let line := read.count '\n' + 1
  let column := (read.reverse.takeWhile (· ≠ '\n')).length + 1
  s!"line {line} column {column} (char {read.length})"

def Stop.message (s : List Char) (stop : Stop) : String :=
  match stop.fault with
  | .longInteger _ => stop.fault.text
  | fault => fault.text ++ ": " ++ placeText (s.take (s.length - stop.rest.length))

/-- Reads a whole text as one value; the error is the message about the first fault. -/
def read (s : String) : Except String Json :=
  match readDocument s.toList with
  | .ok value => .ok value
  | .error stop => .error (stop.message s.toList)

end EventDigest.Json

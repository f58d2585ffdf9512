import EventDigest.Json

/-! # Message templates

A template is read once into literal pieces and references to the seven fields of a message; the
values put in are never read again. A doubled dollar stands for one dollar, and a dollar that begins
no reference to a field stays in the text together with the name behind it.
-/
set_option autoImplicit false
namespace EventDigest

namespace Template

inductive Field
  | title
  | content
  | level
  | group
  | scope
  | timestamp
  | subject
  deriving DecidableEq, Repr

def Field.name : Field → String
  | .title => "title"
  | .content => "content"
  | .level => "level"
  | .group => "group"
  | .scope => "scope"
  | .timestamp => "timestamp"
  | .subject => "subject_json"

def fields : List Field := [.title, .content, .level, .group, .scope, .timestamp, .subject]

def fieldNamed? (name : List Char) : Option Field := fields.find? (·.name.toList == name)

inductive Segment
  | literal (text : List Char)
  | field (field : Field)
  deriving DecidableEq, Repr

def isNameStart (c : Char) : Bool := c.isAlpha || c = '_'

def isNamePart (c : Char) : Bool := c.isAlphanum || c = '_'

def readName (s : List Char) : Option (List Char × List Char) :=
  match s with
  | c :: _ => if isNameStart c then some (s.takeWhile isNamePart, s.dropWhile isNamePart) else none
  | [] => none

/-- A name in braces; `s` begins behind the opening one. -/
def readBraced (s : List Char) : Option (List Char × List Char) :=
  match readName s with
  | some (name, '}' :: rest) => some (name, rest)
  | _ => none

def reference (name written : List Char) : Segment :=
  match fieldNamed? name with
  | some field => .field field
  | none => .literal written

/-- What stands behind a dollar, and the text after it. -/
def afterDollar (s : List Char) : Segment × List Char :=
  match s with
  | '$' :: rest => (.literal ['$'], rest)
  | '{' :: rest =>
    match readBraced rest with
    | some (name, rest) => (reference name ('$' :: '{' :: name ++ ['}']), rest)
    | none => (.literal ['$'], s)
  | _ =>
    match readName s with
    | some (name, rest) => (reference name ('$' :: name), rest)
    | none => (.literal ['$'], s)

/-- Every round takes a character at least, so the length of the text is fuel enough. -/
def segmentsFrom : Nat → List Char → List Segment
  | 0, _ => []
  | _, [] => []
  | fuel + 1, '$' :: rest =>
    let (segment, rest) := afterDollar rest
    segment :: segmentsFrom fuel rest
  | fuel + 1, c :: rest => .literal [c] :: segmentsFrom fuel rest

def segments (template : String) : List Segment :=
  segmentsFrom template.length template.toList

def Segment.filled (value : Field → String) : Segment → List Char
  | .literal text => text
  | .field f => (value f).toList

def fill (template : String) (value : Field → String) : String :=
  String.ofList ((segments template).flatMap (·.filled value))

end EventDigest.Template

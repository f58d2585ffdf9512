import EventDigest.Binary64.Shortest
import EventDigest.Json
import EventDigest.Text.Quoted

/-! # Writing JSON

Documents are written in ASCII: a character outside the printable ASCII range becomes an escape, one
beyond the basic plane a surrogate pair. The compact layout stays on one line, the indented one puts
each member on its own line.
-/
set_option autoImplicit false
namespace EventDigest.Json

def unitEscape (n : Nat) : List Char := '\\' :: 'u' :: Text.hexDigits 4 n

def escapedChar (c : Char) : List Char :=
  if c = '"' then ['\\', '"']
  else if c = '\\' then ['\\', '\\']
  else if c = '\n' then ['\\', 'n']
  else if c = '\r' then ['\\', 'r']
  else if c = '\t' then ['\\', 't']
  else if c = '\x0c' then ['\\', 'f']
  else if c = '\x08' then ['\\', 'b']
  else if ' ' ≤ c && c ≤ '~' then [c]
  else if c.toNat < 0x10000 then unitEscape c.toNat
  else
    let n := c.toNat - 0x10000
    unitEscape (0xD800 + n / 0x400) ++ unitEscape (0xDC00 + n % 0x400)

def escaped (s : List Char) : List Char := s.flatMap escapedChar

def escape (s : String) : String := String.ofList (escaped s.toList)

def literal (s : String) : List Char := '"' :: escaped s.toList ++ ['"']

inductive Layout
  | compact
  | indented (step : Nat)
  deriving DecidableEq, Repr

/-- What stands before the first and after the last member of a container at a depth. -/
def Layout.edge : Layout → Nat → List Char
  | .compact, _ => []
  | .indented step, depth => '\n' :: List.replicate (step * depth) ' '

/-- What stands between two members of a container at a depth. -/
def Layout.gap : Layout → Nat → List Char
  | .compact, _ => [',', ' ']
  | .indented step, depth => ',' :: '\n' :: List.replicate (step * depth) ' '

mutual

def written (layout : Layout) (depth : Nat) : Json → List Char
  | .null => "null".toList
  | .bool b => if b then "true".toList else "false".toList
  | .int n => (toString n).toList
  | .float x => x.toChars Binary64.jsonLayout
  | .text s => literal s
  | .array items => '[' :: writtenItems layout depth items
  | .object members => '{' :: writtenMembers layout depth members

def writtenItems (layout : Layout) (depth : Nat) : List Json → List Char
  | [] => [']']
  | item :: rest =>
    layout.edge (depth + 1) ++ written layout (depth + 1) item ++ writtenItemsTail layout depth rest

def writtenItemsTail (layout : Layout) (depth : Nat) : List Json → List Char
  | [] => layout.edge depth ++ [']']
  | item :: rest =>
    layout.gap (depth + 1) ++ written layout (depth + 1) item ++ writtenItemsTail layout depth rest

def writtenMembers (layout : Layout) (depth : Nat) : List (String × Json) → List Char
  | [] => ['}']
  | (name, value) :: rest =>
    layout.edge (depth + 1) ++ literal name ++ ':' :: ' ' :: written layout (depth + 1) value ++
      writtenMembersTail layout depth rest

def writtenMembersTail (layout : Layout) (depth : Nat) : List (String × Json) → List Char
  | [] => layout.edge depth ++ ['}']
  | (name, value) :: rest =>
    layout.gap (depth + 1) ++ literal name ++ ':' :: ' ' :: written layout (depth + 1) value ++
      writtenMembersTail layout depth rest

end

def compact (v : Json) : String := String.ofList (v.written .compact 0)

def pretty (v : Json) : String := String.ofList (v.written (.indented 2) 0)

end EventDigest.Json

import EventDigest.Binary64.Shortest
import EventDigest.Json
import EventDigest.Text.Quoted

/-! # Values in running text

How log lines and messages show a value: a text as it is, anything inside a container with its
texts quoted.
-/
set_option autoImplicit false
namespace EventDigest.Json

mutual

def shown : Json → List Char
  | .null => "None".toList
  | .bool b => if b then "True".toList else "False".toList
  | .int n => (toString n).toList
  | .float x => x.toChars Binary64.plainLayout
  | .text s => Text.quotedChars s.toList
  | .array [] => ['[', ']']
  | .array (item :: rest) => '[' :: shown item ++ shownItems rest
  | .object [] => ['{', '}']
  | .object ((name, value) :: rest) =>
    '{' :: Text.quotedChars name.toList ++ ':' :: ' ' :: shown value ++ shownMembers rest

def shownItems : List Json → List Char
  | [] => [']']
  | item :: rest => ',' :: ' ' :: shown item ++ shownItems rest

def shownMembers : List (String × Json) → List Char
  | [] => ['}']
  | (name, value) :: rest =>
    ',' :: ' ' :: Text.quotedChars name.toList ++ ':' :: ' ' :: shown value ++ shownMembers rest

end

def display : Json → String
  | .text s => s
  | v => String.ofList v.shown

def displayOrEmpty : Json → String
  | .null => ""
  | v => v.display

end EventDigest.Json

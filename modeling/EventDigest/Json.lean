import EventDigest.Binary64
import EventDigest.Fields

/-! # JSON values

Integers are exact and distinct from floating-point numbers, and an object keeps the order of its
members.
-/
set_option autoImplicit false
namespace EventDigest

inductive Json
  | null
  | bool (value : Bool)
  | int (value : Int)
  | float (value : Binary64)
  | text (value : String)
  | array (items : List Json)
  | object (members : List (String × Json))
  deriving Repr, BEq, Inhabited

namespace Json

/-- The name of a value's kind, as messages about a wrong kind give it. -/
def kindName : Json → String
  | .null => "NoneType"
  | .bool _ => "bool"
  | .int _ => "int"
  | .float _ => "float"
  | .text _ => "str"
  | .array _ => "list"
  | .object _ => "dict"

/-- Null, false, zero and everything empty count as not given. -/
def isGiven : Json → Bool
  | .null => false
  | .bool b => b
  | .int n => n != 0
  | .float x => !x.isZero
  | .text s => s != ""
  | .array items => !items.isEmpty
  | .object members => !members.isEmpty

def ofOption {α : Type} (f : α → Json) : Option α → Json
  | none => .null
  | some a => f a

def member? (name : String) : Json → Option Json
  | .object members => Fields.get? members name
  | _ => none

def texts (items : List String) : Json := .array (items.map .text)

end EventDigest.Json

import EventDigest.Json

/-! # Project references -/
set_option autoImplicit false
namespace EventDigest

structure ProjectRef where
  id : String
  name : String
  version : Option String
  deriving DecidableEq, Repr

def ProjectRef.toJson (p : ProjectRef) : Json :=
  .object [("uuid", .text p.id), ("name", .text p.name), ("version", .text (p.version.getD ""))]

end EventDigest

/-! # Publisher descriptors

A descriptor names a publisher by the key of its registration and carries the template that goes
into every delivery.
-/
set_option autoImplicit false
namespace EventDigest

structure Descriptor where
  name : String
  key : Option String
  template : Option String
  mimeType : Option String
  scheduled : Bool
  deriving DecidableEq, Repr

end EventDigest

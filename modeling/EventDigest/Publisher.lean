import EventDigest.Task

/-! # Publishers

A publisher delivers a notification under a configuration. A targeted one can be given recipients
besides those of the configuration; any other fails when it is.
-/
set_option autoImplicit false
namespace EventDigest

structure Publisher (β : Type) where
  className : String
  isTargeted : Bool
  inform : Context → Notification → Config → Task β Unit
  informTargets : Context → Notification → Config → List Target → Task β Unit

/-- A publisher that knows no recipients besides those of the configuration. -/
def Publisher.untargeted {β : Type} (className : String)
    (inform : Context → Notification → Config → Task β Unit) : Publisher β where
  className
  isTargeted := false
  inform
  informTargets _ _ _ _ := throw (.entryPointMissing className)

/-- What a construction yields: a publisher, or a thing of a class that is none. -/
inductive Product (β : Type)
  | publisher (publisher : Publisher β)
  | thing (className : String)

def Product.className {β : Type} : Product β → String
  | .publisher p => p.className
  | .thing name => name

end EventDigest

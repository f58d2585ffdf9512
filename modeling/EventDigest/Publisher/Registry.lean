import EventDigest.Publisher.Mail
import EventDigest.Publisher.Webhook

/-! # The registry of publishers

A descriptor leads to a publisher by its key. Keys are compared without blanks around them and in
small letters, and a later registration of a key replaces an earlier one. Whether recipients besides
those of the configuration reach a publisher is decided by its registration alone.
-/
set_option autoImplicit false
namespace EventDigest

/-- A registered construction of a publisher; it may remember how often it was tried. -/
structure Registration (β : Type) where
  key : String
  targeted : Bool
  construct : Settings → β → Except Fault (Product β) × β

abbrev Registry (β : Type) := Fields (Registration β)

namespace Registry
variable {β : Type}

def normalKey (key : String) : String := Text.lower (Text.trim key)

def register (registry : Registry β) (key : String) (targeted : Bool)
    (construct : Settings → β → Except Fault (Product β) × β) : Registry β :=
  Fields.put (normalKey key) ⟨normalKey key, targeted, construct⟩ registry

def find? (registry : Registry β) (key : Option String) : Option (Registration β) :=
  Fields.get? registry (normalKey (key.getD ""))

def keys (registry : Registry β) : List String := (Fields.names registry).mergeSort (· ≤ ·)

/-- The publisher of a product, if it is of the class that the registration demands. -/
def usable? (targeted : Bool) : Product β → Option (Publisher β)
  | .publisher p => if targeted && !p.isTargeted then none else some p
  | .thing _ => none

def registrationOf (registry : Registry β) :
    Option Descriptor → Except ResolutionFault (Registration β)
  | none => .error .unassigned
  | some descriptor =>
    if !descriptor.scheduled then .error (.notScheduled descriptor.name)
    else match registry.find? descriptor.key with
      | none => .error (.unknownKey descriptor.key descriptor.name)
      | some registration => .ok registration

def resolve (registry : Registry β) (settings : Settings) (descriptor : Option Descriptor) :
    Task β (Registration β × Publisher β) := do
  match registry.registrationOf descriptor with
  | .error fault => throw (.resolution fault)
  | .ok registration =>
    match ← Task.ask (registration.construct settings) with
    | .error fault => throw (.resolution (.notConstructed registration.key fault.message))
    | .ok made =>
      match usable? registration.targeted made with
      | some publisher => return (registration, publisher)
      | none =>
        throw (.resolution (.wrongClass registration.key made.className registration.targeted))

def dispatch (registry : Registry β) (settings : Settings) (logger : String) (ctx : Context)
    (notification : Notification) (descriptor : Option Descriptor) (config : Config)
    (targets : List Target) : Task β Unit := do
  let (registration, publisher) ← registry.resolve settings descriptor
  if registration.targeted && !targets.isEmpty then
    Task.log (.debug logger
      s!"Dispatching to {registration.key} with {targets.length} target(s) ({ctx.text})")
    publisher.informTargets ctx notification config targets
  else
    Task.log (.debug logger s!"Dispatching to {registration.key} ({ctx.text})")
    publisher.inform ctx notification config

def always (make : Settings → Publisher β) : Settings → β → Except Fault (Product β) × β :=
  fun settings outside => (.ok (.publisher (make settings)), outside)

def constructConsole : Settings → β → Except Fault (Product β) × β := always fun _ => .console

def constructWebhook (transport : Transport β) : Settings → β → Except Fault (Product β) × β :=
  always fun settings => .webhook transport settings.webhookTimeout

def constructMail (transport : Transport β) : Settings → β → Except Fault (Product β) × β :=
  always fun settings => .mail transport (.ofSettings settings)

def standard (transport : Transport β) : Registry β :=
  let console := register [] "console" false constructConsole
  let webhook := register console "webhook" false (constructWebhook transport)
  register webhook "email" true (constructMail transport)

end EventDigest.Registry

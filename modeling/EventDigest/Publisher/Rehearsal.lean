import EventDigest.Publisher.Registry

/-! # Publishers for rehearsals

Publishers that deliver nothing: one records what it is given or fails for chosen groups, others do
not know their entry points. Their constructions can be made to fail.
-/
set_option autoImplicit false
namespace EventDigest.Publisher

/-- How often each construction has failed so far. -/
abbrev Attempts := Fields Nat

variable {β : Type}

/-- Records every notification but those of the groups that it is to fail for. -/
def recording (failing : List String) (fault : Fault) : Publisher β where
  className := "Recording"
  isTargeted := true
  inform _ notification config := recordOr notification config none
  informTargets _ notification config targets := recordOr notification config (some targets)
where
  recordOr (notification : Notification) (config : Config) (targets : Option (List Target)) :
      Task β Unit :=
    if failing.contains notification.group.name then throw fault
    else Task.deliver (.rehearsed notification config targets)

def unfinished : Publisher β := .untargeted "Plain" fun _ _ _ => throw .unimplemented

def unfinishedTargeted : Publisher β where
  className := "PlainTargeted"
  isTargeted := true
  inform _ _ _ := throw .unimplemented
  informTargets _ _ _ _ := throw .unimplemented

/-- A construction that fails its first tries, counted under a name of its own. -/
def constructAfter (name : String) (failures : Nat) (fault : Fault)
    (publisher : Publisher Attempts) :
    Settings → Attempts → Except Fault (Product Attempts) × Attempts :=
  fun _ attempts =>
    let failed := (Fields.get? attempts name).getD 0
    if failed < failures then (.error fault, Fields.put name (failed + 1) attempts)
    else (.ok (.publisher publisher), attempts)

def constructNever (fault : Fault) : Settings → β → Except Fault (Product β) × β :=
  fun _ outside => (.error fault, outside)

def constructThing (className : String) : Settings → β → Except Fault (Product β) × β :=
  fun _ outside => (.ok (.thing className), outside)

end EventDigest.Publisher

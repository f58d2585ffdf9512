/-! # Notification groups

A group names a kind of event. Two groups can be collected over a window of time; every other name
is a group that cannot be delivered on a schedule.
-/
set_option autoImplicit false
namespace EventDigest

inductive Group
  | vulnerability
  | violation
  | other (name : String)
  deriving DecidableEq, Repr, Inhabited

namespace Group

def name : Group → String
  | .vulnerability => "NEW_VULNERABILITY"
  | .violation => "POLICY_VIOLATION"
  | .other name => name

def ofName (name : String) : Group :=
  if name = "NEW_VULNERABILITY" then .vulnerability
  else if name = "POLICY_VIOLATION" then .violation
  else .other name

/-- The categories of a group's events, the gravest first: severities of vulnerabilities, types of
policy violations. -/
def categories : Group → List String
  | .vulnerability => ["CRITICAL", "HIGH", "MEDIUM", "LOW", "INFO", "UNASSIGNED"]
  | .violation => ["LICENSE", "SECURITY", "OPERATIONAL"]
  | .other _ => []

theorem name_ofName (name : String) : (ofName name).name = name := by
  unfold ofName
  split
  · rename_i h; exact h.symm
  · split
    · rename_i h; exact h.symm
    · rfl

theorem eq_of_ofName {name other : String} (h : ofName name = .other other) : other = name := by
  rw [← name_ofName name, h]
  rfl

end EventDigest.Group

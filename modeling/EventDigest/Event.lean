import EventDigest.Json
import EventDigest.Text.Case
import EventDigest.Time.Instant

/-! # Events

An event is one finding or one policy violation in the common form in which it is counted and
reported.
-/
set_option autoImplicit false
namespace EventDigest
open Time

/-- The category of a finding is its severity and its identifier the vulnerability; the category of
a violation is its type and its identifier the policy. -/
structure Event where
  id : Int
  project : String
  component : String
  componentVersion : Option String
  category : String
  identifier : String
  occurredAt : Instant
  suppressed : Bool
  title : Option String
  description : Option String
  attributes : Fields Json
  deriving Repr

namespace Event

/-- Two events concern the same component when project, name and version agree; an absent version is
an empty one. -/
def componentKey (e : Event) : String × String × String :=
  (e.project, e.component, e.componentVersion.getD "")

/-- The attributes of an event are put over its common members. -/
def toJson (e : Event) : Json :=
  let members : Fields Json :=
    [("id", .int e.id),
      ("component", .object
        [("name", .text e.component), ("version", .text (e.componentVersion.getD ""))]),
      ("category", .text e.category),
      ("identifier", .text e.identifier),
      ("occurredAt", .text e.occurredAt.text),
      ("suppressed", .bool e.suppressed),
      ("title", .text (e.title.getD "")),
      ("description", .text (e.description.getD ""))]
  .object (members.update e.attributes)

end Event

/-- A category is compared in capitals; an absent or empty one is unassigned. -/
def categoryOf (raw : Option String) : String :=
  let raw := raw.getD ""
  Text.upper (if raw = "" then "UNASSIGNED" else raw)

structure Finding where
  id : Int
  project : String
  component : String
  componentVersion : Option String
  vulnerability : String
  source : Option String
  severity : Option String
  score : Json
  title : Option String
  description : Option String
  publishedAt : Option Instant
  attributedOn : Instant
  suppressed : Bool
  analysis : Option String
  deriving Repr

def Finding.toEvent (f : Finding) : Event where
  id := f.id
  project := f.project
  component := f.component
  componentVersion := f.componentVersion
  category := categoryOf f.severity
  identifier := f.vulnerability
  occurredAt := f.attributedOn
  suppressed := f.suppressed
  title := f.title
  description := f.description
  attributes :=
    [("source", .text (f.source.getD "")),
      ("cvssScore", f.score),
      ("published", .text (textOrUnknown f.publishedAt)),
      ("analysisState", .text (f.analysis.getD ""))]

structure Violation where
  id : Int
  project : String
  component : String
  componentVersion : Option String
  policy : String
  condition : Option String
  type : Option String
  state : Option String
  raisedAt : Instant
  suppressed : Bool
  deriving Repr

def Violation.toEvent (v : Violation) : Event where
  id := v.id
  project := v.project
  component := v.component
  componentVersion := v.componentVersion
  category := categoryOf v.type
  identifier := v.policy
  occurredAt := v.raisedAt
  suppressed := v.suppressed
  title := v.condition
  description := none
  attributes := [("violationState", .text (v.state.getD ""))]

end EventDigest

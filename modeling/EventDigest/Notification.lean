import EventDigest.Digest
import EventDigest.Fault
import EventDigest.Time.Stamp

/-! # Notifications

The message that announces a digest, and the context that names a message in log lines.
-/
set_option autoImplicit false
namespace EventDigest
open Time

/-- What a notification is about: a digest, or a document from elsewhere. -/
inductive Subject
  | digest (digest : Digest)
  | document (value : Json)
  deriving Repr

def Subject.toJson : Subject → Json
  | .digest d => d.toJson
  | .document v => v

structure Notification where
  scope : String
  group : Group
  level : String
  title : String
  content : String
  timestamp : Option Instant
  subject : Subject
  deriving Repr

def informational : String := "INFORMATIONAL"

namespace Notification

def timestampText (n : Notification) : String := textOrUnknown n.timestamp

def toJson (n : Notification) : Json :=
  .object
    [("scope", .text n.scope),
      ("group", .text n.group.name),
      ("level", .text n.level),
      ("title", .text n.title),
      ("content", .text n.content),
      ("timestamp", .text n.timestampText),
      ("subject", n.subject.toJson)]

/-- How a supported group names its events in a title and in a lead-in. -/
def eventNouns? : Group → Option (String × String)
  | .vulnerability => some ("Vulnerability(s)", "vulnerabilities")
  | .violation => some ("Policy Violation(s)", "policy violations")
  | .other _ => none

/-- Announces the digest of a rule. The lead-in shows the start of the window in a display zone. -/
def announce (ruleName scope : String) (digest : Digest) (now : Stamp) (zone : Zone) :
    Except Fault Notification := do
  let since ← Fault.ofSpan (localText zone digest.windowStart)
  match eventNouns? digest.group with
  | none => throw (.unsupportedGroup digest.group.name)
  | some (titleNoun, leadNoun) =>
    let timestamp ← Fault.ofSpan now.toInstant
    let overview := digest.overview
    return {
      scope
      group := digest.group
      level := informational
      title := s!"{overview.newCount} new {titleNoun} in {overview.affectedComponents} " ++
        s!"component(s) in Scheduled Rule '{ruleName}'"
      content := s!"Find below a summary of new {leadNoun} since {since} " ++
        s!"in Scheduled Notification Rule '{ruleName}'."
      timestamp := some timestamp
      subject := .digest digest }

end Notification

/-- Names a notification, and the rule behind it if there is one. -/
structure Context where
  group : String
  level : String
  scope : String
  timestamp : String
  ruleId : Option String
  ruleName : Option String
  deriving Repr

namespace Context

def ofNotification (n : Notification) : Context :=
  ⟨n.group.name, n.level, n.scope, n.timestampText, none, none⟩

def withRule (c : Context) (id : String) (name : Option String) : Context :=
  { c with ruleId := some id, ruleName := name }

def text (c : Context) : String :=
  s!"group={c.group} level={c.level} scope={c.scope} timestamp={c.timestamp} " ++
    s!"rule_id={c.ruleId.getD nothing} rule_name={quotedOrNone c.ruleName}"
where
  nothing : String := "None"

end Context

end EventDigest

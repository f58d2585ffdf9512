import EventDigest.Json.Display
import EventDigest.Mail.Word
import EventDigest.Text.Quoted
import EventDigest.Time.Zone

/-! # Faults

Everything that can stop a step of the work, by cause, with the wording of each. Faults of the
configuration, of the choice of a publisher and of a delivery belong to one group of a rule; any
other fault ends the run.
-/
set_option autoImplicit false
namespace EventDigest

/-- The publisher configuration of a rule is no JSON object. -/
inductive ConfigFault
  | notJson (message : String)
  | notObject (kind : String)
  deriving DecidableEq, Repr

/-- A publisher descriptor leads to no usable publisher. -/
inductive ResolutionFault
  | unassigned
  | notScheduled (publisher : String)
  | unknownKey (key : Option String) (publisher : String)
  | notConstructed (key message : String)
  | wrongClass (key made : String) (targeted : Bool)
  deriving DecidableEq, Repr

inductive PublishFault
  | noDestination (context : String)
  | fieldKind (field kind : String)
  | destinationKind (kind : String)
  | requestFailed (url message : String)
  | statusRefused (status : Int) (url body : String)
  | noRecipients (context : String)
  | noMailHost
  | mailFailed (message : String)
  | reported (message : String)
  deriving DecidableEq, Repr

/-- An event query of a project failed in the store. -/
inductive AggregationFault
  | query (project group message : String)
  | count (project group message : String)
  deriving DecidableEq, Repr

inductive OutsideKind
  | connection
  | timeout
  | request
  | mail
  | system
  | value
  | state
  | key
  deriving DecidableEq, Repr

inductive Fault
  | config (fault : ConfigFault)
  | resolution (fault : ResolutionFault)
  | publish (fault : PublishFault)
  | unsupportedGroup (name : String)
  | aggregation (fault : AggregationFault)
  | ruleMissing (id : String)
  | store (message : String)
  | noEventSource (group : String)
  | outOfSpan
  | zone (fault : Time.ZoneFault)
  | kindLacks (kind operation : String)
  | notIterable (kind : String)
  | headerLineBreak
  | address (fault : Mail.AddressFault)
  | entryPointMissing (className : String)
  | unimplemented
  | tokenNotAscii
  | outside (kind : OutsideKind) (message : String)
  deriving DecidableEq, Repr

def ConfigFault.message : ConfigFault → String
  | .notJson message => s!"Publisher configuration is not valid JSON: {message}"
  | .notObject kind => s!"Publisher configuration must be a JSON object, got {kind}"

def quotedOrNone : Option String → String
  | none => "None"
  | some s => Text.quoted s

def ResolutionFault.message : ResolutionFault → String
  | .unassigned => "Rule has no notification publisher assigned"
  | .notScheduled publisher =>
    s!"Publisher {Text.quoted publisher} does not support scheduled delivery"
  | .unknownKey key publisher =>
    s!"Unknown publisher key {quotedOrNone key} for publisher {Text.quoted publisher}"
  | .notConstructed key message =>
    s!"Publisher {Text.quoted key} could not be constructed: {message}"
  | .wrongClass key made targeted =>
    let expected := if targeted then "TargetedPublisher" else "Publisher"
    s!"Publisher {Text.quoted key} produced {made}, not a {expected}"

def PublishFault.message : PublishFault → String
  | .noDestination context => s!"Webhook destination is not configured ({context})"
  | .fieldKind field kind =>
    s!"Publisher config {Text.quoted field} must be a string, got {kind}"
  | .destinationKind kind =>
    "Publisher config 'destination' must be a string or a list of strings, got " ++ kind
  | .requestFailed url message => s!"Webhook request failed url={url}: {message}"
  | .statusRefused status url body => s!"Webhook returned status={status} url={url} body={body}"
  | .noRecipients context => s!"No email recipients resolved ({context})"
  | .noMailHost => "SMTP_HOST is not configured"
  | .mailFailed message => s!"SMTP send failed: {message}"
  | .reported message => message

def AggregationFault.message : AggregationFault → String
  | .query project group message =>
    s!"Event query failed project={project} group={group}: {message}"
  | .count project group message =>
    s!"Event count failed project={project} group={group}: {message}"

def zoneFaultMessage : Time.ZoneFault → String
  | .unknown name => Text.quoted s!"No time zone found with key {name}"
  | .absolute name => s!"ZoneInfo keys may not be absolute paths, got: {name}"
  | .notNormal name => s!"ZoneInfo keys must be normalized relative paths, got: {name}"
  | .outside name => s!"ZoneInfo keys must refer to subdirectories of TZPATH, got: {name}"

def addressFaultMessage : Mail.AddressFault → String
  | .endsEarly => "string index out of range"
  | .lacksContent => "list index out of range"
  | .dotAtNameEdge => "'str' object has no attribute 'token_type'"
  | .dotBehindBlank => "'ValueTerminal' object does not support item assignment"
  | .openLiteral => "'InvalidHeaderDefect' object has no attribute 'all_defects'"
  | .blankLiteral => "cannot access local variable 'pos' where it is not associated with a value"
  | .behindGroup => "'Group' object has no attribute 'local_part'"
  | .lineBreak => "invalid arguments; address parts cannot contain CR or LF"

def Fault.message : Fault → String
  | .config fault => fault.message
  | .resolution fault => fault.message
  | .publish fault => fault.message
  | .unsupportedGroup name =>
    s!"{name} is not a supported notification group for scheduled publishing"
  | .aggregation fault => fault.message
  | .ruleMissing id => s!"Scheduled notification rule not found: {id}"
  | .store message => message
  | .noEventSource group => s!"No event source for group {group}"
  | .outOfSpan => Time.OutOfSpan.outOfSpan.message
  | .zone fault => zoneFaultMessage fault
  | .kindLacks kind operation => s!"'{kind}' object has no attribute '{operation}'"
  | .notIterable kind => s!"'{kind}' object is not iterable"
  | .headerLineBreak => "Header values may not contain linefeed or carriage return characters"
  | .address fault => addressFaultMessage fault
  | .entryPointMissing className =>
    s!"'{className}' object has no attribute 'inform_with_targets'"
  | .unimplemented => ""
  | .tokenNotAscii => "comparing strings with non-ASCII characters is not supported"
  | .outside .key message => Text.quoted message
  | .outside _ message => message

namespace Fault

def isRequestFault : Fault → Bool
  | .outside kind _ => kind = .connection || kind = .timeout || kind = .request
  | _ => false

/-- Faults of a mail session and of the system below it; a request fault is one of the system. -/
def isMailFault : Fault → Bool
  | .outside kind _ => kind ≠ .value && kind ≠ .state && kind ≠ .key
  | _ => false

def ofSpan {α : Type} : Except Time.OutOfSpan α → Except Fault α
  | .ok a => .ok a
  | .error _ => .error .outOfSpan

theorem ofSpan_eq_ok_iff {α : Type} (answer : Except Time.OutOfSpan α) (a : α) :
    ofSpan answer = .ok a ↔ answer = .ok a := by
  cases answer with
  | error => simp [ofSpan]
  | ok => simp [ofSpan]

end EventDigest.Fault

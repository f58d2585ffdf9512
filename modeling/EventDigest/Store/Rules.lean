import EventDigest.Journal
import EventDigest.Json.Printer
import EventDigest.Store.Scope
import EventDigest.Time.Clock

/-! # Rules of the store

Loading, listing and creating rules, and moving a watermark. A watermark only ever moves forward.
-/
set_option autoImplicit false
namespace EventDigest
open Time

namespace Rule

/-- The groups that a rule watches, by the names under which they were stored. -/
def groupNames (rule : Rule) : Except Fault (List String) :=
  if !rule.notifyOn.isGiven then .ok []
  else match rule.notifyOn with
    | .array items => .ok (items.map Json.display)
    | .text s => .ok (s.toList.map fun c => String.ofList [c])
    | .object members => .ok (Fields.names members)
    | v => .error (.notIterable v.kindName)

end Rule

/-- A team with the addresses of its members; members without one are left out. -/
def Team.target (team : Team) : Target where
  name := team.name
  addresses := (team.members.map fun address => Text.trim (address.getD "")).filter (· ≠ "")

namespace Store

def rule? (store : Store) (id : String) : Option Rule := store.rules.find? (·.id = id)

def watermark? (store : Store) (id : String) : Option Instant := (store.rule? id).map (·.watermark)

def loadRule (store : Store) (id : String) : Except Fault Rule := do
  match ← store.read .rules (·.rule? id) with
  | some rule => return rule
  | none => throw (.ruleMissing id)

/-- Rules by name; rules of one name in the order of their creation. -/
def listedRules (store : Store) (enabledOnly : Bool) : List Rule :=
  (store.rules.filter fun rule => !enabledOnly || rule.enabled).mergeSort fun a b => a.name ≤ b.name

def listRules (store : Store) (enabledOnly : Bool) : Except Fault (List Rule) :=
  store.read .rules (·.listedRules enabledOnly)

def loadScope (store : Store) (rule : Rule) : Except Fault (List ProjectRef) :=
  store.read .projects (·.scope rule)

def teamsOf (store : Store) (rule : Rule) : List Team :=
  (store.teams.filter fun team => rule.teams.contains team.id).mergeSort fun a b => a.name ≤ b.name

def loadTargets (store : Store) (rule : Rule) : Except Fault (List Target) := do
  let teams ← store.read .teams (·.teamsOf rule)
  if teams.isEmpty then return []
  store.read .members fun _ => teams.map Team.target

def withWatermark (store : Store) (id : String) (t : Instant) : Store :=
  { store with
    rules := store.rules.map fun rule =>
      if rule.id = id then { rule with watermark := t } else rule }

/-- What a request to move a watermark came to. -/
structure Advance where
  store : Store
  moved : Bool
  journal : Journal
  deriving Repr

def refusal (id : String) (current requested : Instant) : Entry :=
  .warning "rule_store"
    (s!"Refusing to move watermark backward rule_id={id} current={current.offsetText} " ++
      s!"requested={requested.offsetText}")

/-- Moves the watermark of a rule to a requested time if that is later than where it stands. -/
def advance (store : Store) (id : String) (requested : Stamp) : Except Fault Advance := do
  let rule ← store.loadRule id
  let requested ← Fault.ofSpan requested.toInstant
  if requested.micros ≤ rule.watermark.micros then
    return ⟨store, false, [refusal id rule.watermark requested]⟩
  return ⟨store.withWatermark id requested, true, []⟩

/-- What is given for a new rule. The configuration is a text or a document to be stored as one. -/
structure RuleDraft where
  id : Option String
  name : String
  scope : String
  notifyOn : Json
  cron : String
  onlyWithUpdates : Bool
  includeSuppressed : Bool
  notifyChildren : Bool
  publisher : Option String
  config : Json
  last : Option Stamp
  projects : List String
  teams : List String
  deriving Repr

/-- The stored form of a list of groups: a text falls into its characters. -/
def storedGroups (notifyOn : Json) : Except Fault Json :=
  match notifyOn with
  | .array items => .ok (.array items)
  | .text s => .ok (.array (s.toList.map fun c => .text (String.ofList [c])))
  | .object members => .ok (Json.texts (Fields.names members))
  | v => .error (.notIterable v.kindName)

def storedConfig : Json → Option String
  | .null => none
  | .text s => some s
  | v => some v.compact

/-- Creates a rule. Without a time of its own its window starts at the present. -/
def createRule (store : Store) (clock : Clock) (draft : RuleDraft) :
    Except Fault (Store × Clock × Rule) := do
  let notifyOn ← storedGroups draft.notifyOn
  let (last, clock) := match draft.last with
    | some last => (last, clock)
    | none => clock.read
  let watermark ← Fault.ofSpan last.toInstant
  let (now, clock) := clock.read
  let createdAt ← Fault.ofSpan now.toInstant
  let rule : Rule :=
    { id := draft.id.getD store.nextId
      name := draft.name
      scope := draft.scope
      enabled := true
      notifyOn
      cron := draft.cron
      onlyWithUpdates := draft.onlyWithUpdates
      includeSuppressed := draft.includeSuppressed
      notifyChildren := draft.notifyChildren
      logsSuccess := false
      publisher := draft.publisher
      config := storedConfig draft.config
      watermark
      createdAt
      projects := draft.projects
      teams := draft.teams }
  let issued := if draft.id.isNone then store.issued + 1 else store.issued
  return ({ store with issued, rules := store.rules ++ [rule] }, clock, rule)

end EventDigest.Store

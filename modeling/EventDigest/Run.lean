import EventDigest.Outcome
import EventDigest.Publisher.Registry
import EventDigest.Store.Events
import EventDigest.Store.Publishers
import EventDigest.Store.Rules

/-! # Runs of a rule

A run collects the window of every group of a rule, publishes one notification per group and then
decides whether the watermark moves. What fails in the configuration, in the choice of the publisher
or in the delivery belongs to its group and never stops the groups after it; any other fault ends
the run and leaves the watermark where it is.
-/
set_option autoImplicit false
namespace EventDigest
open Time

structure World (β : Type) where
  store : Store
  clock : Clock
  desk : Desk β

abbrev Run (β α : Type) := ExceptT Fault (StateM (World β)) α

namespace Run
variable {β α : Type}

def log (entry : Entry) : Run β Unit :=
  modify fun world =>
    { world with desk := { world.desk with journal := world.desk.journal ++ [entry] } }

def logAll (journal : Journal) : Run β Unit :=
  modify fun world =>
    { world with desk := { world.desk with journal := world.desk.journal ++ journal } }

def now : Run β Stamp :=
  modifyGet fun world =>
    let (stamp, clock) := world.clock.read
    (stamp, { world with clock })

def ofExcept : Except Fault α → Run β α
  | .ok a => pure a
  | .error fault => throw fault

def query (question : Store → Except Fault α) : Run β α := do ofExcept (question (← get).store)

/-- Carries out a task and hands over its fault, if it failed. -/
def attempt (task : Task β α) : Run β (Except Fault α) :=
  modifyGet fun world =>
    let (answer, desk) := task.run.run world.desk
    (answer, { world with desk })

end Run

/-- The result of a group with the notification that was built for it, if one was. -/
structure GroupReport where
  result : GroupResult
  notification : Option Notification
  deriving Repr

/-- How rules are run: through which publishers, under which settings, and with which events. -/
structure Executor (β : Type) where
  registry : Registry β
  settings : Settings
  zone : Zone
  source : Store → EventSource Fault

namespace Executor
variable {β : Type}

/-- The executor over the events of the store. Without a zone of its own it takes the one of the
settings. -/
def ofSettings (registry : Registry β) (settings : Settings) (zones : Zones)
    (zone : Option Zone) : Except Fault (Executor β) := do
  let zone ← match zone with
    | some zone => pure zone
    | none => (zones.ofSetting settings.displayZone).mapError .zone
  return { registry, settings, zone, source := Store.eventSource }

def logger : String := "scheduled_notifications"

/-- Reports a fault of a group and makes it the result. -/
def recordFailure (group : String) (ctx : Context) (heading : String) (fault : Fault) :
    Run β GroupResult := do
  Run.log (.report logger heading [("context", .text s!"({ctx.text})")] fault)
  return ⟨group, .failed, some fault.message⟩

def configHeading : String :=
  "An error occurred while preparing the configuration for the notification publisher"

/-- The heading under which a fault of a dispatch is reported, if it belongs to the group. -/
def heading? : Fault → Option String
  | .resolution _ => some "An error occurred while instantiating a notification publisher"
  | .publish _ => some "An error occurred during the publication of the notification"
  | _ => none

/-- Records a fault of a dispatch as the result of its group, or ends the run with it. -/
def failGroup (group : String) (ctx : Context) (fault : Fault) : Run β GroupResult :=
  match heading? fault with
  | none => throw fault
  | some heading => recordFailure group ctx heading fault

def deliver (executor : Executor β) (ctx : Context) (notification : Notification)
    (descriptor : Option Descriptor) (config : Config) (targets : List Target) : Task β Unit := do
  let config ← match descriptor with
    | none => pure config
    | some descriptor =>
      match config.overriddenWarning? logger with
      | some warning => Task.log warning
      | none => pure ()
      pure (config.merged descriptor)
  executor.registry.dispatch executor.settings logger ctx notification descriptor config targets

def collect (executor : Executor β) (projects : List ProjectRef) (windowStart : Instant)
    (group : Group) (includeSuppressed : Bool) : Run β Digest := do
  let source := executor.source (← get).store
  Run.logAll (windowEntries source group includeSuppressed windowStart (distinct projects))
  Run.ofExcept (Digest.collect source projects windowStart group includeSuppressed)

def announce (executor : Executor β) (rule : Rule) (digest : Digest) : Run β Notification := do
  Run.ofExcept (Notification.announce rule.name rule.scope digest (← Run.now) executor.zone)

def publish (executor : Executor β) (rule : Rule) (notification : Notification)
    (targets : List Target) : Run β GroupResult := do
  let group := notification.group.name
  let ctx := (Context.ofNotification notification).withRule rule.id (some rule.name)
  match Config.parse rule.config with
  | .error fault => recordFailure group ctx configHeading (.config fault)
  | .ok config =>
    let publisher ← Run.query (·.loadPublisher rule)
    let task := executor.deliver ctx notification (publisher.map (·.descriptor)) config targets
    match ← Run.attempt task with
    | .error fault => failGroup group ctx fault
    | .ok () =>
      if rule.logsSuccess then
        Run.log (.info logger s!"Published {notification.title} ({ctx.text})")
      return ⟨group, .published, none⟩

def processGroup (executor : Executor β) (rule : Rule) (windowStart : Instant)
    (projects : List ProjectRef) (targets : List Target) (name : String) : Run β GroupReport := do
  match Group.ofName name with
  | .other name =>
    let fault := Fault.unsupportedGroup name
    Run.log (.warning logger
      s!"{fault.message} (rule_id={rule.id} rule_name={Text.quoted rule.name})")
    return ⟨⟨name, .unsupported, some fault.message⟩, none⟩
  | group =>
    let digest ← executor.collect projects windowStart group rule.includeSuppressed
    if digest.overview.newCount = 0 && rule.onlyWithUpdates then
      Run.log (.info logger
        s!"No new events for group {name} in rule {rule.id}; skipping publish")
      return ⟨⟨name, .skipped, none⟩, none⟩
    let notification ← executor.announce rule digest
    let result ← executor.publish rule notification targets
    return ⟨result, some notification⟩

def processGroups (executor : Executor β) (rule : Rule) (windowStart : Instant)
    (projects : List ProjectRef) (targets : List Target) : List String → Run β (List GroupReport)
  | [] => pure []
  | name :: rest => do
    let report ← executor.processGroup rule windowStart projects targets name
    return report :: (← executor.processGroups rule windowStart projects targets rest)

/-- Moves the watermark of a rule to the present, if that is later. -/
def advance (rule : Rule) : Run β (Option Instant) := do
  let now ← Run.now
  let advance ← Run.query (·.advance rule.id now)
  modify fun world => { world with store := advance.store }
  Run.logAll advance.journal
  return if advance.moved then now.toInstant.toOption else none

def conclude (rule : Rule) (results : List GroupResult) : Run β Outcome := do
  let windowStart := rule.watermark
  let newWatermark ← if shouldAdvance results then do
      let newWatermark ← advance rule
      Run.log (.info logger
        ("Successfully processed notification publishing for scheduled notification rule " ++
          rule.id))
      pure newWatermark
    else do
      Run.log (.error logger
        ("Errors occurred while processing notification publishing for scheduled notification " ++
          s!"rule {rule.id}; last execution time left at {windowStart.offsetText}"))
      pure none
  return {
    ruleId := rule.id
    ruleName := rule.name
    windowStart := some windowStart
    results
    advanced := newWatermark.isSome
    newWatermark
    disabled := false }

def perform (executor : Executor β) (ruleId : String) : Run β (Outcome × List GroupReport) := do
  let rule ← Run.query (·.loadRule ruleId)
  if !rule.enabled then
    Run.log (.info logger s!"Scheduled notification rule {rule.id} is disabled; nothing to do")
    return (⟨rule.id, rule.name, none, [], false, none, true⟩, [])
  Run.log (.info logger
    s!"Processing notification publishing for scheduled notification rule {rule.id}")
  let projects ← Run.query (·.loadScope rule)
  let targets ← Run.query (·.loadTargets rule)
  let groups ← Run.ofExcept rule.groupNames
  let reports ← executor.processGroups rule rule.watermark projects targets groups
  let outcome ← conclude rule (reports.map (·.result))
  return (outcome, reports)

def execute (executor : Executor β) (ruleId : String) : Run β Outcome := do
  let (outcome, _) ← executor.perform ruleId
  return outcome

/-- Runs a rule for a scheduler, which learns of faults through the journal alone. -/
def runScheduled (executor : Executor β) (ruleId : Option String) : StateM (World β) Unit := do
  let id := ruleId.getD "None"
  match ← (executor.execute id).run with
  | .ok _ => return ()
  | .error fault =>
    let entry := Entry.report logger
      "An error occurred while processing scheduled notification rule"
      [("rule_id", Json.ofOption .text ruleId)] fault
    modify fun world =>
      { world with desk := { world.desk with journal := world.desk.journal ++ [entry] } }

end EventDigest.Executor

import EventDigest.Proofs.Watermark
import EventDigest.Publisher.Rehearsal

/-! # Runs of an enabled rule

What a run of an enabled rule has done when it returns: which groups it reported on, what it
delivered of the store that it found, and what it left the watermark at.
-/
set_option autoImplicit false
namespace EventDigest
open Time
variable {β : Type}

namespace Executor
variable {rule : Rule} {world after : World β}

/-- Everything that holds of a run of an enabled rule when it has returned. -/
structure Performed (executor : Executor β) (rule : Rule) (world after : World β)
    (outcome : Outcome) (reports : List GroupReport) : Prop where
  names : rule.groupNames = .ok (reports.map (·.result.group))
  reported : ∀ report ∈ reports, executor.Reports rule rule.watermark (world.store.scope rule)
    world.store report.result.group report
  windowStart : outcome.windowStart = some rule.watermark
  results : outcome.results = reports.map (·.result)
  advanced : outcome.advanced = outcome.newWatermark.isSome
  reading : after.clock.reading = world.clock.reading
  concluded : Concludes rule outcome.results world after outcome.newWatermark

section
variable {executor : Executor β} {id : String} {projects : List ProjectRef}
  {targets : List Target} {names : List String}

/-- Everything that a run of a rule looks up before the first group. -/
structure Loads (world : World β) (id : String) (rule : Rule) (projects : List ProjectRef)
    (targets : List Target) (names : List String) : Prop where
  loaded : world.store.loadRule id = .ok rule
  covered : world.store.loadScope rule = .ok projects
  addressed : world.store.loadTargets rule = .ok targets
  named : rule.groupNames = .ok names

/-- A run that returns has looked its rule up. -/
theorem loadRule_of_perform {answer : Outcome × List GroupReport}
    (hRule : world.store.rule? id = some rule)
    (h : (executor.perform id).Returns world answer after) :
    world.store.loadRule id = .ok rule := by
  obtain ⟨loaded, _, hQuery, _⟩ := Run.returns_bind_iff.mp h
  obtain ⟨hLoaded, _⟩ := Run.returns_query_iff.mp hQuery
  obtain rfl : loaded = rule := Option.some.inj ((Store.loadRule_eq_ok hLoaded).symm.trans hRule)
  exact hLoaded

theorem loads_of_perform {outcome : Outcome} {reports : List GroupReport}
    (hRule : world.store.rule? id = some rule) (hEnabled : rule.enabled = true)
    (h : (executor.perform id).Returns world (outcome, reports) after) :
    ∃ projects targets names, Loads world id rule projects targets names := by
  have hRead := loadRule_of_perform hRule h
  obtain ⟨loaded, _, hQuery, h⟩ := Run.returns_bind_iff.mp h
  obtain ⟨hLoaded, rfl⟩ := Run.returns_query_iff.mp hQuery
  obtain rfl := Except.ok.inj (hLoaded.symm.trans hRead)
  rw [hEnabled] at h
  obtain ⟨_, _, hLog, h⟩ := Run.returns_bind_iff.mp h
  obtain rfl := Run.returns_modify_iff.mp hLog
  obtain ⟨projects, _, hQuery, h⟩ := Run.returns_bind_iff.mp h
  obtain ⟨hProjects, rfl⟩ := Run.returns_query_iff.mp hQuery
  obtain ⟨targets, _, hQuery, h⟩ := Run.returns_bind_iff.mp h
  obtain ⟨hTargets, rfl⟩ := Run.returns_query_iff.mp hQuery
  obtain ⟨names, _, hAnswer, h⟩ := Run.returns_bind_iff.mp h
  obtain ⟨hNames, rfl⟩ := Run.returns_ofExcept_iff.mp hAnswer
  exact ⟨projects, targets, names, hLoaded, hProjects, hTargets, hNames⟩

/-- The world once the beginning of a run is in the journal. -/
def begun (rule : Rule) (world : World β) : World β :=
  { world with
    desk := { world.desk with
      journal := world.desk.journal ++ [.info logger
        s!"Processing notification publishing for scheduled notification rule {rule.id}"] } }

theorem Loads.start_perform (h : Loads world id rule projects targets names)
    (hEnabled : rule.enabled = true) (executor : Executor β) :
    (executor.perform id).start world =
      (executor.processGroups rule rule.watermark projects targets names >>= fun reports =>
        conclude rule (reports.map (·.result)) >>= fun outcome =>
          pure (outcome, reports)).start (begun rule world) := by
  rw [perform, Run.start_bind, Run.start_query, h.loaded]
  dsimp only
  rw [hEnabled, Bool.not_true, if_neg Bool.false_ne_true, Run.start_bind, Run.start_log]
  dsimp only
  rw [Run.start_bind, Run.start_query]
  dsimp only
  rw [h.covered]
  dsimp only
  rw [Run.start_bind, Run.start_query]
  dsimp only
  rw [h.addressed, h.named]
  rfl

theorem Loads.phases (hLoads : Loads world id rule projects targets names)
    (hEnabled : rule.enabled = true) {outcome : Outcome} {reports : List GroupReport}
    (h : (executor.perform id).Returns world (outcome, reports) after) :
    ∃ mid, (executor.processGroups rule rule.watermark projects targets names).Returns
        (begun rule world) reports mid ∧
      (conclude rule (reports.map (·.result))).Returns mid outcome after := by
  rw [Run.Returns, hLoads.start_perform hEnabled] at h
  obtain ⟨made, mid, hGroups, h⟩ := Run.returns_bind_iff.mp h
  obtain ⟨ended, _, hConclude, h⟩ := Run.returns_bind_iff.mp h
  obtain ⟨hPair, rfl⟩ := Run.returns_pure_iff.mp h
  obtain ⟨rfl, rfl⟩ := Prod.mk.inj hPair
  exact ⟨mid, hGroups, hConclude⟩

theorem start_perform_disabled (executor : Executor β)
    (hLoaded : world.store.loadRule id = .ok rule) (hDisabled : rule.enabled = false) :
    (executor.perform id).start world =
      (.ok (⟨rule.id, rule.name, none, [], false, none, true⟩, []),
        { world with desk := { world.desk with journal := world.desk.journal ++ [.info logger
          s!"Scheduled notification rule {rule.id} is disabled; nothing to do"] } }) := by
  rw [perform, Run.start_bind, Run.start_query, hLoaded]
  dsimp only
  rw [hDisabled]
  rfl

end

/-- A run of an enabled rule writes one line to the journal, processes the groups and concludes. -/
theorem perform_phases {executor : Executor β} {id : String} {outcome : Outcome}
    {reports : List GroupReport} (hRule : world.store.rule? id = some rule)
    (hEnabled : rule.enabled = true)
    (h : (executor.perform id).Returns world (outcome, reports) after) :
    ∃ start targets names mid, world.Follows start ∧ world.desk.Idle start.desk ∧
      world.store.loadTargets rule = .ok targets ∧ rule.groupNames = .ok names ∧
      (executor.processGroups rule rule.watermark (world.store.scope rule) targets names).Returns
        start reports mid ∧
      (conclude rule (reports.map (·.result))).Returns mid outcome after := by
  obtain ⟨projects, targets, names, hLoads⟩ := loads_of_perform hRule hEnabled h
  obtain rfl := Store.read_eq_ok hLoads.covered
  obtain ⟨mid, hGroups, hConclude⟩ := hLoads.phases hEnabled h
  refine ⟨begun rule world, targets, names, mid, ?_, ?_, hLoads.addressed, hLoads.named, hGroups,
    hConclude⟩
  · exact ⟨rfl, rfl, Nat.le_refl _⟩
  · exact ⟨rfl, rfl⟩

theorem perform_returns {executor : Executor β} {id : String} {outcome : Outcome}
    {reports : List GroupReport} (hRule : world.store.rule? id = some rule)
    (hEnabled : rule.enabled = true)
    (h : (executor.perform id).Returns world (outcome, reports) after) :
    executor.Performed rule world after outcome reports := by
  obtain ⟨start, targets, names, mid, hStart, _, _, hNames, hGroups, hConclude⟩ :=
    perform_phases hRule hEnabled h
  have hMid := hStart.trans ((quiet_processGroups _ _ _ _ _ _).follows hGroups)
  obtain ⟨hMade, hReported⟩ := processGroups_returns hGroups
  rw [hStart.store_eq] at hReported
  have hStored : mid.store.rule? rule.id = some rule := by
    rw [hMid.store_eq, Store.id_of_rule? hRule, hRule]
  obtain ⟨hWindow, hResults, hAdvanced, hReading, hConcluded⟩ := conclude_returns hStored hConclude
  refine ⟨hMade ▸ hNames, hReported, hWindow, hResults, hAdvanced,
    hReading.trans hMid.reading_eq, ?_⟩
  rw [hResults]
  exact hConcluded.of_follows hMid

theorem execute_returns_iff {executor : Executor β} {id : String} {outcome : Outcome} :
    (executor.execute id).Returns world outcome after ↔
      ∃ reports, (executor.perform id).Returns world (outcome, reports) after := by
  rw [execute, Run.returns_bind_iff]
  constructor
  · rintro ⟨⟨made, reports⟩, mid, hPerform, h⟩
    obtain ⟨rfl, rfl⟩ := Run.returns_pure_iff.mp h
    exact ⟨reports, hPerform⟩
  · rintro ⟨reports, hPerform⟩
    exact ⟨(outcome, reports), after, hPerform, Run.returns_pure_iff.mpr ⟨rfl, rfl⟩⟩

section
variable {executor : Executor β} {outcome : Outcome} {reports : List GroupReport}

theorem Performed.exists_delivered (hRun : executor.Performed rule world after outcome reports)
    {report : GroupReport} (hReport : report ∈ reports)
    (hStatus : report.result.status = .published) :
    ∃ n, Delivered reports report.result.group n := by
  obtain ⟨n, hBuilt⟩ := (hRun.reported report hReport).exists_notification hStatus
  exact ⟨n, report, hReport, rfl, hStatus, hBuilt⟩

theorem Performed.mem_events_iff (hSource : executor.source = Store.eventSource)
    (hRun : executor.Performed rule world after outcome reports) {group : String} {n : Notification}
    (hDelivered : Delivered reports group n) (e : Event) :
    e ∈ n.events ↔ e ∈ world.store.events (Group.ofName group) ∧
      (∃ project ∈ world.store.scope rule, project.id = e.project) ∧
        rule.watermark < e.occurredAt ∧ (rule.includeSuppressed = true ∨ e.suppressed = false) := by
  obtain ⟨report, hReport, rfl, _, hBuilt⟩ := hDelivered
  exact (hRun.reported report hReport).mem_events_iff hSource hBuilt e

theorem Performed.rule?_eq {id : String} (hRule : world.store.rule? id = some rule)
    (hRun : executor.Performed rule world after outcome reports) :
    after.store.rule? id =
      some { rule with watermark := outcome.newWatermark.getD rule.watermark } := by
  have hId := Store.id_of_rule? hRule
  subst hId
  exact hRun.concluded.rule?_eq hRule

theorem Performed.last_of_advanced (hRun : executor.Performed rule world after outcome reports)
    (hAdvanced : outcome.advanced = true) :
    ∃ now, outcome.newWatermark = some now ∧ after.clock.last.toInstant = .ok now := by
  rw [hRun.advanced, Option.isSome_iff_exists] at hAdvanced
  obtain ⟨now, hNow⟩ := hAdvanced
  exact ⟨now, hNow, ((hRun.concluded.eq_some_iff now).mp hNow).2.1⟩

theorem Performed.exists_eq_singleton (hRun : executor.Performed rule world after outcome reports)
    {group : String} (hNames : rule.groupNames = .ok [group]) :
    ∃ report, reports = [report] ∧ report.result.group = group := by
  have hGroups := hRun.names
  rw [hNames, Except.ok.injEq] at hGroups
  exact List.map_eq_singleton_iff.mp hGroups.symm

/-- Over a clock that stands past the watermark a run leaves the watermark at one of the two. -/
theorem Performed.newWatermark_of_stands
    (hRun : executor.Performed rule world after outcome reports) {t : Instant}
    (hStands : world.clock.Stands t) (hAhead : rule.watermark < t) :
    (Settles outcome.results → outcome.newWatermark = some t) ∧
      (¬Settles outcome.results → outcome.newWatermark = none) := by
  have hLast : after.clock.last.toInstant = .ok t := by
    rw [Clock.last, hRun.reading]
    exact hStands _
  constructor
  · intro hSettles
    exact (hRun.concluded.eq_some_iff t).mpr ⟨hSettles, hLast, hAhead⟩
  · intro hStays
    rw [Option.eq_none_iff_forall_ne_some]
    intro now hNow
    exact hStays ((hRun.concluded.eq_some_iff now).mp hNow).1

end

end Executor

/-! A small store with a project and its child, and an executor whose publisher rehearses. -/
namespace Sample

def instant (micros : Nat) : Instant :=
  if h : micros < spanMicros then ⟨micros, h⟩ else .first

def finding (id : Int) (project : String) (t : Instant) : Finding where
  id
  project
  component := "lodash"
  componentVersion := none
  vulnerability := "CVE-2024-0001"
  source := none
  severity := some "HIGH"
  score := .null
  title := none
  description := none
  publishedAt := none
  attributedOn := t
  suppressed := false
  analysis := none

def rule (names : List String) (watermark : Instant) : Rule where
  id := "r1"
  name := "Nightly digest"
  scope := "PORTFOLIO"
  enabled := true
  notifyOn := Json.texts names
  cron := "0 12 * * *"
  onlyWithUpdates := false
  includeSuppressed := true
  notifyChildren := true
  logsSuccess := false
  publisher := some "pub-1"
  config := none
  watermark
  createdAt := .first
  projects := ["p1"]
  teams := []

def store (rule : Rule) (findings : List Finding) : Store where
  created := true
  outage := none
  issued := 0
  projects := [⟨"p1", "Acme", none, true, none⟩, ⟨"p2", "Acme Labs", none, true, some "p1"⟩]
  findings
  violations := []
  teams := []
  publishers := [⟨"pub-1", "Recorder", none, "recording", none, "text/plain", false, true⟩]
  rules := [rule]

def executor (failing : List String) : Executor Publisher.Attempts where
  registry := Registry.register [] "recording" true <| Registry.always fun _ =>
    .recording failing (.publish (.reported "delivery failed"))
  settings := .standard
  zone := .universal
  source := Store.eventSource

def desk : Desk Publisher.Attempts := ⟨[], [], []⟩

/-- The rule watches a group that cannot be collected and one that can, and the clock runs by seven
between its readings. -/
def mixedWorld : World Publisher.Attempts :=
  ⟨store (rule ["BOM_CONSUMED", "NEW_VULNERABILITY"] (instant 100))
    [finding 1 "p1" (instant 150)], .ticking (.ofInstant (instant 200)) 7, desk⟩

end Sample

namespace Executor
variable {rule : Rule} {world after : World β}

end Executor

end EventDigest

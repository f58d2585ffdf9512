import EventDigest.Proofs.Performed
import EventDigest.Proofs.Reachable
import EventDigest.Proofs.Suppression

/-! # Groups that are passed over

Whether a group is passed over is decided by the tables and by the rule's own window, before
anything is asked about a publisher. A run that passes over all its groups still moves the
watermark.
-/
set_option autoImplicit false
namespace EventDigest
open Time
variable {β : Type}

namespace Rule

def Covers (rule : Rule) (store : Store) (project : String) : Prop :=
  ∃ p ∈ store.scope rule, p.id = project

/-- The table of the group holds a row that is not suppressed, belongs to a covered project and
happened after the watermark. -/
def HasNews (rule : Rule) (store : Store) : Group → Prop
  | .vulnerability => ∃ f ∈ store.findings,
      rule.Covers store f.project ∧ rule.watermark < f.attributedOn ∧ f.suppressed = false
  | .violation => ∃ v ∈ store.violations,
      rule.Covers store v.project ∧ rule.watermark < v.raisedAt ∧ v.suppressed = false
  | .other _ => False

/-- The group is a supported one, the rule asks for updates only and there are none. -/
def PassesOver (rule : Rule) (store : Store) (name : String) : Prop :=
  Group.ofName name ≠ .other name ∧ rule.onlyWithUpdates = true ∧
    ¬rule.HasNews store (Group.ofName name)

/-- The result of a group says that it was skipped when the rule passes over the group, and never
else. -/
def Skips (rule : Rule) (store : Store) (name : String) (result : GroupResult) : Prop :=
  result.group = name ∧ (result.status = .skipped ↔ rule.PassesOver store name)

/-- The rule with another publisher, another configuration and another wish for suppressed
events. -/
def rewired (rule : Rule) (publisher config : Option String) (includeSuppressed : Bool) : Rule :=
  { rule with publisher, config, includeSuppressed }

theorem hasNews_iff (rule : Rule) (store : Store) (group : Group) :
    rule.HasNews store group ↔ ∃ e ∈ store.events group,
      rule.Covers store e.project ∧ rule.watermark < e.occurredAt ∧ e.suppressed = false := by
  cases group with
  | vulnerability | violation =>
    simp only [HasNews, Store.events, List.mem_map, exists_exists_and_eq_and]
    rfl
  | other name => simp [HasNews, Store.events]

theorem passesOver_rewired {store other : Store} (hProjects : other.projects = store.projects)
    (hFindings : other.findings = store.findings)
    (hViolations : other.violations = store.violations) (rule : Rule)
    (publisher config : Option String) (includeSuppressed : Bool) (name : String) :
    (rule.rewired publisher config includeSuppressed).PassesOver other name ↔
      rule.PassesOver store name := by
  have hScope : other.scope (rule.rewired publisher config includeSuppressed) = store.scope rule :=
    Store.scope_congr hProjects rfl rfl
  have hNews : ∀ group, (rule.rewired publisher config includeSuppressed).HasNews other group ↔
      rule.HasNews store group := by
    intro group
    cases group with
    | vulnerability =>
      simp only [HasNews, Covers, hScope, hFindings]
      rfl
    | violation =>
      simp only [HasNews, Covers, hScope, hViolations]
      rfl
    | other => exact Iff.rfl
  rw [PassesOver, PassesOver, hNews]
  rfl

end Rule

/-- A digest counts nothing as new when the tables hold no news. -/
theorem Store.newCount_eq_zero_iff_of_collect {store : Store} {rule : Rule} {group : Group}
    {includeSuppressed : Bool} {digest : Digest}
    (h : Digest.collect store.eventSource (store.scope rule) rule.watermark group
      includeSuppressed = .ok digest) :
    digest.overview.newCount = 0 ↔ ¬rule.HasNews store group := by
  rw [Digest.newCount_eq_zero_iff h, rule.hasNews_iff]
  constructor
  · rintro hNone ⟨e, hRow, hCovered, hLater, hShown⟩
    have hHidden := hNone e ((mem_collected_iff h e).mpr ⟨hRow, hCovered, hLater, .inr hShown⟩)
    rw [hShown] at hHidden
    cases hHidden
  · intro hNone e he
    obtain ⟨hRow, hCovered, hLater, _⟩ := (mem_collected_iff h e).mp he
    by_contra hShown
    exact hNone ⟨e, hRow, hCovered, hLater, by simpa using hShown⟩

namespace Executor
variable {executor : Executor β} {rule : Rule} {targets : List Target} {world after : World β}

theorem processGroup_skips (hSource : executor.source = Store.eventSource) {name : String}
    {report : GroupReport}
    (h : (executor.processGroup rule rule.watermark (world.store.scope rule) targets name).Returns
      world report after) : rule.Skips world.store name report.result := by
  refine ⟨(processGroup_returns h).group_eq, ?_⟩
  cases hGroup : Group.ofName name with
  | other unknown =>
    obtain rfl := Group.eq_of_ofName hGroup
    rw [(processGroup_unknown hGroup h).1, Rule.PassesOver]
    exact iff_of_false Status.noConfusion fun hPasses => hPasses.1 hGroup
  | _ =>
    have hKnown : ∀ unknown, Group.ofName name ≠ .other unknown := by simp [hGroup]
    obtain ⟨digest, hDigest, hCase⟩ := processGroup_collected hKnown h
    rw [hSource] at hDigest
    have hNone := Store.newCount_eq_zero_iff_of_collect hDigest
    rcases hCase with ⟨hZero, hOnly, hStatus, _⟩ | ⟨hShown, hStatus, _⟩
    · exact iff_of_true hStatus ⟨hKnown name, hOnly, hNone.mp hZero⟩
    · exact iff_of_false hStatus fun hPasses => hShown ⟨hNone.mpr hPasses.2.2, hPasses.2.1⟩

theorem processGroups_skips (hSource : executor.source = Store.eventSource) {store : Store}
    {names : List String} {reports : List GroupReport} (hStore : world.store = store)
    (h : (executor.processGroups rule rule.watermark (store.scope rule) targets names).Returns
      world reports after) :
    List.Forall₂ (rule.Skips store) names (reports.map (·.result)) := by
  rw [List.forall₂_map_right_iff]
  refine (forall₂_of_processGroups h).imp ?_
  rintro name report ⟨start, _, hStart, hGroup⟩
  obtain rfl : start.store = store := hStart.store_eq.trans hStore
  exact processGroup_skips hSource hGroup

/-- Two lists that go with one list go with each other. -/
theorem forall₂_of_shared {α γ δ : Type} {Left : α → γ → Prop} {Right : α → δ → Prop}
    {Both : γ → δ → Prop} (hBoth : ∀ a c d, Left a c → Right a d → Both c d) {as : List α}
    {cs : List γ} {ds : List δ} (hLeft : List.Forall₂ Left as cs)
    (hRight : List.Forall₂ Right as ds) : List.Forall₂ Both cs ds := by
  induction hLeft generalizing ds with
  | nil =>
    cases hRight
    exact .nil
  | cons hHead _ ih =>
    cases hRight with
    | cons hOther hRest => exact .cons (hBoth _ _ _ hHead hOther) (ih hRest)

theorem execute_skips (hSource : executor.source = Store.eventSource) {id : String}
    {outcome : Outcome} (hRule : world.store.rule? id = some rule) (hEnabled : rule.enabled = true)
    (h : (executor.execute id).Returns world outcome after) :
    ∃ names, rule.groupNames = .ok names ∧
      List.Forall₂ (rule.Skips world.store) names outcome.results := by
  obtain ⟨reports, hPerform⟩ := execute_returns_iff.mp h
  have hResults := (perform_returns hRule hEnabled hPerform).results
  obtain ⟨start, targets, names, mid, hStart, _, _, hNames, hGroups, _⟩ :=
    perform_phases hRule hEnabled hPerform
  rw [hResults]
  exact ⟨names, hNames, processGroups_skips hSource hStart.store_eq hGroups⟩

theorem exists_collect_returns {projects : List ProjectRef} {windowStart : Instant} {group : Group}
    {includeSuppressed : Bool} {digest : Digest}
    (h : Digest.collect (executor.source world.store) projects windowStart group
      includeSuppressed = .ok digest) :
    ∃ mid, (executor.collect projects windowStart group includeSuppressed).Returns world digest
        mid ∧ mid.store = world.store ∧ mid.clock = world.clock := by
  have hGot : Run.Returns get world world world := Run.returns_get_iff.mpr ⟨rfl, rfl⟩
  exact ⟨_, hGot.bind ((Run.returns_logAll _ world).bind (Run.returns_ofExcept_iff.mpr ⟨h, rfl⟩)),
    rfl, rfl⟩

theorem exists_log_returns {α : Type} (entry : Entry) (a : α) (world : World β) :
    ∃ mid, (Run.log entry >>= fun _ => pure a).Returns world a mid ∧
      mid.store = world.store ∧ mid.clock = world.clock :=
  ⟨_, (Run.returns_log entry world).bind (Run.returns_pure a _), rfl, rfl⟩

/-- Passing over a group asks the store for nothing but its events. -/
theorem processGroup_passes (hSource : executor.source = Store.eventSource)
    (hReachable : world.store.Reachable) (targets : List Target) {name : String}
    (hPasses : rule.PassesOver world.store name) :
    ∃ mid, (executor.processGroup rule rule.watermark (world.store.scope rule) targets
        name).Returns world ⟨⟨name, .skipped, none⟩, none⟩ mid ∧
      mid.store = world.store ∧ mid.clock = world.clock := by
  obtain ⟨hGroup, hOnly, hNoNews⟩ := hPasses
  have hKnown : ∀ unknown, Group.ofName name ≠ .other unknown := by
    intro unknown hUnknown
    obtain rfl := Group.eq_of_ofName hUnknown
    exact hGroup hUnknown
  obtain ⟨digest, hDigest⟩ := hReachable.exists_collect hKnown (world.store.scope rule)
    rule.watermark rule.includeSuppressed
  have hNone := (Store.newCount_eq_zero_iff_of_collect hDigest).mpr hNoNews
  rw [← hSource] at hDigest
  obtain ⟨mid, hCollect, hStore, hClock⟩ := exists_collect_returns hDigest
  unfold processGroup
  split
  · rename_i unknown hUnknown
    exact (hKnown unknown hUnknown).elim
  · obtain ⟨last, hLog, hLast, hRead⟩ := exists_log_returns (.info logger
      s!"No new events for group {name} in rule {rule.id}; skipping publish")
      (⟨⟨name, .skipped, none⟩, none⟩ : GroupReport) mid
    refine ⟨last, hCollect.bind ?_, hLast.trans hStore, hRead.trans hClock⟩
    rw [if_pos (by rw [hNone, hOnly]; rfl)]
    exact hLog

theorem processGroups_passes (hSource : executor.source = Store.eventSource) {store : Store}
    (hReachable : store.Reachable) (targets : List Target) {names : List String}
    (hPasses : ∀ name ∈ names, rule.PassesOver store name) (hStore : world.store = store) :
    ∃ reports mid, (executor.processGroups rule rule.watermark (store.scope rule) targets
        names).Returns world reports mid ∧
      reports.map (·.result) = names.map (⟨·, .skipped, none⟩) ∧
      mid.store = store ∧ mid.clock = world.clock := by
  induction names generalizing world with
  | nil => exact ⟨[], world, Run.returns_pure [] world, rfl, hStore, rfl⟩
  | cons name rest ih =>
    subst hStore
    obtain ⟨hHead, hTail⟩ := List.forall_mem_cons.mp hPasses
    obtain ⟨mid, hFirst, hMid, hClock⟩ := processGroup_passes hSource hReachable targets hHead
    obtain ⟨reports, last, hRest, hResults, hLast, hRead⟩ := ih hTail hMid
    refine ⟨_ :: reports, last, hFirst.bind (hRest.bind (Run.returns_pure _ last)), ?_, hLast,
      hRead.trans hClock⟩
    rw [List.map_cons, List.map_cons, hResults]

theorem settles_of_skipped {results : List GroupResult}
    (h : ∀ result ∈ results, result.status = .skipped) : Settles results := by
  refine .inl fun result hResult => ?_
  rw [h result hResult]
  exact ⟨Status.noConfusion, Status.noConfusion⟩

/-- The conclusion of a run that settles takes one reading of the clock. -/
theorem clock_of_conclude {results : List GroupResult} {outcome : Outcome}
    (hRule : world.store.rule? rule.id = some rule) (hSettles : Settles results)
    (h : (conclude rule results).Returns world outcome after) :
    after.clock = { world.clock with taken := world.clock.taken + 1 } := by
  rw [conclude, if_pos (shouldAdvance_iff.mpr hSettles)] at h
  obtain ⟨_, _, hAdvance, h⟩ := Run.returns_bind_iff.mp h
  obtain ⟨_, _, hLog, h⟩ := Run.returns_bind_iff.mp h
  obtain rfl := Run.returns_modify_iff.mp hLog
  obtain ⟨_, rfl⟩ := Run.returns_pure_iff.mp h
  exact (advance_returns hRule hAdvance).1

theorem exists_conclude_returns {results : List GroupResult} {now : Instant}
    (hLoaded : world.store.loadRule rule.id = .ok rule) (hSettles : Settles results)
    (hNow : (world.clock.reading world.clock.taken).toInstant = .ok now)
    (hAhead : rule.watermark < now) :
    ∃ outcome after, (conclude rule results).Returns world outcome after ∧
      outcome.results = results ∧ outcome.newWatermark = some now ∧
      after.store.watermark? rule.id = some now := by
  rcases Run.returns_or_fails (conclude rule results) world with
    ⟨outcome, after, h⟩ | ⟨fault, hFails⟩
  · have hRule := Store.loadRule_eq_ok hLoaded
    obtain ⟨_, hResults, _, _, hConcluded⟩ := conclude_returns hRule h
    have hLast : after.clock.last.toInstant = .ok now := by
      rw [Time.Clock.last, clock_of_conclude hRule hSettles h]
      exact hNow
    have hNew := (hConcluded.eq_some_iff now).mpr ⟨hSettles, hLast, hAhead⟩
    refine ⟨outcome, after, h, hResults, hNew, ?_⟩
    rw [hConcluded.watermark?_eq hRule, hNew, Option.getD_some]
  · obtain ⟨_, _, hTime⟩ := fault_of_conclude hLoaded hFails
    rw [hNow] at hTime
    cases hTime

/-- A run that passes over all its groups returns, whatever its publisher and its configuration. -/
theorem execute_passes (hSource : executor.source = Store.eventSource)
    (hReachable : world.store.Reachable) {id : String} {names : List String} {now : Instant}
    (hRule : world.store.rule? id = some rule) (hEnabled : rule.enabled = true)
    (hNames : rule.groupNames = .ok names)
    (hPasses : ∀ name ∈ names, rule.PassesOver world.store name)
    (hNow : (world.clock.reading world.clock.taken).toInstant = .ok now)
    (hAhead : rule.watermark < now) :
    ∃ outcome after, (executor.execute id).Returns world outcome after ∧
      outcome.results = names.map (⟨·, .skipped, none⟩) ∧ outcome.newWatermark = some now ∧
      after.store.watermark? id = some now := by
  have hId := Store.id_of_rule? hRule
  have hLoaded := hReachable.loadRule_eq hRule
  have hLoads : Loads world id rule (world.store.scope rule)
      ((world.store.teamsOf rule).map Team.target) names :=
    ⟨hLoaded, hReachable.read_eq .projects _, hReachable.loadTargets_eq rule, hNames⟩
  obtain ⟨reports, mid, hGroups, hResults, hStore, hClock⟩ :=
    processGroups_passes hSource hReachable ((world.store.teamsOf rule).map Team.target) hPasses
      (show (begun rule world).store = world.store from rfl)
  have hSettles : Settles (reports.map (·.result)) := by
    apply settles_of_skipped
    intro result hResult
    rw [hResults] at hResult
    obtain ⟨name, _, rfl⟩ := List.mem_map.mp hResult
    rfl
  obtain ⟨outcome, after, hConclude, hReported, hNew, hMoved⟩ :=
    exists_conclude_returns (show mid.store.loadRule rule.id = .ok rule by
      rw [hStore, hId, hLoaded]) hSettles (by rw [hClock]; exact hNow) hAhead
  refine ⟨outcome, after, execute_returns_iff.mpr ⟨reports, ?_⟩, hReported.trans hResults, hNew,
    hId ▸ hMoved⟩
  rw [Run.Returns, hLoads.start_perform hEnabled]
  exact hGroups.bind (hConclude.bind (Run.returns_pure (outcome, reports) after))

/-- A supported group is skipped when the rule asks for updates only and the table of the group
holds no news for it, and never else. Neither the publisher nor its registration, neither the
configuration nor the wish for suppressed events has a say in it, and skipping every group moves the
watermark. -/
theorem skipped_iff_no_news {id : String} (hSource : executor.source = Store.eventSource)
    (hRule : world.store.rule? id = some rule) (hEnabled : rule.enabled = true) :
    (∀ outcome after, (executor.execute id).Returns world outcome after →
      (∃ names, rule.groupNames = .ok names ∧
        List.Forall₂ (rule.Skips world.store) names outcome.results) ∧
      (∀ (γ : Type) (other : Executor γ) (otherWorld otherAfter : World γ)
        (publisher config : Option String) (includeSuppressed : Bool) (otherOutcome : Outcome),
        other.source = Store.eventSource → otherWorld.store.projects = world.store.projects →
        otherWorld.store.findings = world.store.findings →
        otherWorld.store.violations = world.store.violations →
        otherWorld.store.rule? id = some (rule.rewired publisher config includeSuppressed) →
        (other.execute id).Returns otherWorld otherOutcome otherAfter →
        List.Forall₂ (fun result otherResult => otherResult.group = result.group ∧
          (otherResult.status = .skipped ↔ result.status = .skipped))
          outcome.results otherOutcome.results) ∧
      ((∀ result ∈ outcome.results, result.status = .skipped) →
        ∃ now, after.clock.last.toInstant = .ok now ∧ (rule.watermark < now →
          outcome.newWatermark = some now ∧ after.store.watermark? id = some now))) ∧
    ∀ names now, world.store.Reachable → rule.groupNames = .ok names →
      (∀ name ∈ names, rule.PassesOver world.store name) →
      (world.clock.reading world.clock.taken).toInstant = .ok now → rule.watermark < now →
      ∃ outcome after, (executor.execute id).Returns world outcome after ∧
        outcome.results = names.map (⟨·, .skipped, none⟩) ∧ outcome.newWatermark = some now ∧
        after.store.watermark? id = some now := by
  refine ⟨fun outcome after h => ?_, fun names now hReachable hNames hPasses hNow hAhead =>
    execute_passes hSource hReachable hRule hEnabled hNames hPasses hNow hAhead⟩
  obtain ⟨names, hNames, hSkips⟩ := execute_skips hSource hRule hEnabled h
  refine ⟨⟨names, hNames, hSkips⟩, ?_, ?_⟩
  · intro γ other otherWorld otherAfter publisher config includeSuppressed otherOutcome
      hOtherSource hProjects hFindings hViolations hOtherRule hOther
    obtain ⟨otherNames, hOtherNames, hOtherSkips⟩ :=
      execute_skips hOtherSource hOtherRule hEnabled hOther
    obtain rfl : otherNames = names := Except.ok.inj (hOtherNames.symm.trans hNames)
    have hSame : ∀ name result otherResult, rule.Skips world.store name result →
        (rule.rewired publisher config includeSuppressed).Skips otherWorld.store name otherResult →
        otherResult.group = result.group ∧
          (otherResult.status = .skipped ↔ result.status = .skipped) := by
      rintro name result otherResult ⟨rfl, hResult⟩ ⟨hGroup, hOtherResult⟩
      rw [hOtherResult, hResult]
      exact ⟨hGroup, Rule.passesOver_rewired hProjects hFindings hViolations ..⟩
    exact forall₂_of_shared hSame hSkips hOtherSkips
  · intro hAll
    obtain ⟨reports, hPerform⟩ := execute_returns_iff.mp h
    have hRun := perform_returns hRule hEnabled hPerform
    have hSettles := settles_of_skipped hAll
    obtain ⟨_, now, hLast⟩ := hRun.concluded.last_read hSettles
    refine ⟨now, hLast, fun hAhead => ?_⟩
    have hNew := (hRun.concluded.eq_some_iff now).mpr ⟨hSettles, hLast, hAhead⟩
    have hId := Store.id_of_rule? hRule
    subst hId
    refine ⟨hNew, ?_⟩
    rw [hRun.concluded.watermark?_eq hRule, hNew, Option.getD_some]

end Executor

/-! The rule names no publisher and its configuration cannot be read. What is in the table of
findings is too old, suppressed or of another project. -/
namespace Sample

def violation (id : Int) (project : String) (t : Instant) : Violation where
  id
  project
  component := "lodash"
  componentVersion := none
  policy := "No GPL"
  condition := none
  type := some "LICENSE"
  state := none
  raisedAt := t
  suppressed := false

def patientRule (names : List String) : Rule :=
  { rule names (instant 100) with
    onlyWithUpdates := true, publisher := none, config := some "\x7b" }

def patientStore (names : List String) : Store :=
  { store (patientRule names)
      [finding 1 "p1" (instant 100), { finding 2 "p2" (instant 150) with suppressed := true },
        finding 3 "p9" (instant 150)] with
    violations := [violation 1 "p2" (instant 150)] }

def patientWorld (names : List String) : World Publisher.Attempts :=
  ⟨patientStore names, .ticking (.ofInstant (instant 200)) 7, desk⟩

def rewiredWorld (names : List String) : World Publisher.Attempts :=
  ⟨{ patientStore names with rules := [(patientRule names).rewired (some "pub-1") none false] },
    .ticking (.ofInstant (instant 300)) 0, desk⟩

def watched : List String := ["NEW_VULNERABILITY", "BOM_CONSUMED", "POLICY_VIOLATION"]

theorem not_hasNews_patient : ¬(patientRule ["NEW_VULNERABILITY"]).HasNews
    (patientStore ["NEW_VULNERABILITY"]) .vulnerability := by
  rintro ⟨f, hRow, ⟨p, hScope, hCovered⟩, hLater, hShown⟩
  have hProjects : (patientStore ["NEW_VULNERABILITY"]).scope
      (patientRule ["NEW_VULNERABILITY"]) = [acme, labs] := by decide +kernel
  rw [hProjects] at hScope
  simp only [patientStore, store, List.mem_cons, List.not_mem_nil, or_false] at hRow hScope
  rcases hRow with rfl | rfl | rfl
  · exact absurd hLater (by decide)
  · cases hShown
  · rcases hScope with rfl | rfl
    · exact absurd hCovered (by decide)
    · exact absurd hCovered (by decide)

end Sample

theorem Executor.skipped_iff_no_news_without_publisher :
    (∃ names outcome after other last,
      ((Sample.executor []).execute "r1").Returns (Sample.patientWorld Sample.watched) outcome
        after ∧
      ((Sample.executor []).execute "r1").Returns (Sample.rewiredWorld Sample.watched) other last ∧
      outcome.results.map (·.status) = [.skipped, .unsupported, .failed] ∧
      other.results.map (·.status) = [.skipped, .unsupported, .published] ∧
      List.Forall₂ ((Sample.patientRule Sample.watched).Skips (Sample.patientStore Sample.watched))
        names outcome.results ∧
      List.Forall₂ (fun result otherResult => otherResult.group = result.group ∧
          (otherResult.status = .skipped ↔ result.status = .skipped))
        outcome.results other.results) ∧
    ∃ outcome after, ((Sample.executor []).execute "r1").Returns
        (Sample.patientWorld ["NEW_VULNERABILITY"]) outcome after ∧
      outcome.results = [⟨"NEW_VULNERABILITY", .skipped, none⟩] ∧
      after.store.watermark? "r1" = some (Sample.instant 200) := by
  have hSource : (Sample.executor []).source = Store.eventSource := rfl
  have hRule : ∀ names, (Sample.patientWorld names).store.rule? "r1" =
      some (Sample.patientRule names) := fun _ => rfl
  constructor
  · obtain ⟨outcome, after, h, hTest⟩ := Run.returnsWith_iff.mp
      (show ((Sample.executor []).execute "r1").returnsWith (Sample.patientWorld Sample.watched)
        (fun outcome _ => outcome.results.map (·.status) = [.skipped, .unsupported, .failed]) =
          true by decide +kernel)
    obtain ⟨other, last, hOther, hOtherTest⟩ := Run.returnsWith_iff.mp
      (show ((Sample.executor []).execute "r1").returnsWith (Sample.rewiredWorld Sample.watched)
        (fun other _ => other.results.map (·.status) = [.skipped, .unsupported, .published]) =
          true by decide +kernel)
    obtain ⟨hReturned, _⟩ := skipped_iff_no_news hSource (hRule Sample.watched) rfl
    obtain ⟨⟨names, _, hSkips⟩, hAlike, _⟩ := hReturned outcome after h
    have hOtherRule : (Sample.rewiredWorld Sample.watched).store.rule? "r1" =
        some ((Sample.patientRule Sample.watched).rewired (some "pub-1") none false) := rfl
    exact ⟨names, outcome, after, other, last, h, hOther, of_decide_eq_true hTest,
      of_decide_eq_true hOtherTest, hSkips,
      hAlike Publisher.Attempts (Sample.executor []) (Sample.rewiredWorld Sample.watched) last
        (some "pub-1") none false other hSource rfl rfl rfl hOtherRule hOther⟩
  · have hPasses : ∀ name ∈ ["NEW_VULNERABILITY"],
        (Sample.patientRule ["NEW_VULNERABILITY"]).PassesOver
          (Sample.patientStore ["NEW_VULNERABILITY"]) name := by
      intro name hName
      obtain rfl := List.mem_singleton.mp hName
      exact ⟨by decide, rfl, Sample.not_hasNews_patient⟩
    obtain ⟨_, hSkipped⟩ := skipped_iff_no_news hSource (hRule ["NEW_VULNERABILITY"]) rfl
    obtain ⟨outcome, after, h, hResults, _, hMoved⟩ := hSkipped ["NEW_VULNERABILITY"]
      (Sample.instant 200) ⟨rfl, rfl⟩ rfl hPasses rfl (by decide)
    exact ⟨outcome, after, h, hResults, hMoved⟩

end EventDigest

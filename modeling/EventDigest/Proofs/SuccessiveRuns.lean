import EventDigest.Proofs.Performed

/-! # Successive runs

What two runs of a rule deliver, one after the other. A window is open at its end, so the watermark
that the first run leaves is all that parts their windows: what happened up to it is not delivered
again, what happened after it is, and what is recorded late is delivered when it happened after it.
-/
set_option autoImplicit false
namespace EventDigest.Executor
open Time
variable {β : Type}

/-- Every reading of the clock that the first run took is earlier than every one of the second. -/
def ReadsBefore (world₁ after₁ world₂ after₂ : World β) : Prop :=
  ∀ i j s t, world₁.clock.taken ≤ i → i < after₁.clock.taken → world₂.clock.taken ≤ j →
    j < after₂.clock.taken → (world₁.clock.reading i).toInstant = .ok s →
      (world₂.clock.reading j).toInstant = .ok t → s < t

end EventDigest.Executor

namespace EventDigest.Sample
open Time Executor

/-- The clock runs by seven between its readings, and one event is dated far ahead of it. -/
def firstWorld : World Publisher.Attempts :=
  ⟨store (rule ["NEW_VULNERABILITY"] (instant 100))
    [finding 1 "p1" (instant 150), finding 2 "p2" (instant 900)],
    .ticking (.ofInstant (instant 200)) 7, desk⟩

def secondWorld (after : World Publisher.Attempts) (late : List Finding) :
    World Publisher.Attempts :=
  ⟨{ after.store with findings := after.store.findings ++ late },
    .ticking (.ofInstant (instant 300)) 0, desk⟩

def publishesAt (reports : List GroupReport) (timestamp : Instant) : Bool :=
  reports.map (fun report => (report.result.group, report.result.status,
    report.notification.bind (·.timestamp))) =
      [("NEW_VULNERABILITY", .published, some timestamp)]

theorem exists_delivered {reports : List GroupReport} {timestamp : Instant}
    (h : publishesAt reports timestamp = true) :
    ∃ n, Delivered reports "NEW_VULNERABILITY" n ∧ n.timestamp = some timestamp := by
  have hReports := of_decide_eq_true h
  obtain ⟨report, rfl, hReport⟩ := List.map_eq_singleton_iff.mp hReports
  rw [Prod.mk.injEq, Prod.mk.injEq, Option.bind_eq_some_iff] at hReport
  obtain ⟨hGroup, hStatus, n, hBuilt, hTimestamp⟩ := hReport
  exact ⟨n, ⟨report, List.mem_singleton_self report, hGroup, hStatus, hBuilt⟩, hTimestamp⟩

def publishesTwice (late : List Finding) : Bool :=
  Run.returnsWith ((executor []).perform "r1") firstWorld fun made after =>
    made.1.newWatermark = some (instant 207) && publishesAt made.2 (instant 200) &&
      decide (after.clock.taken = 2) &&
        Run.returnsWith ((executor []).perform "r1") (secondWorld after late) fun made _ =>
          publishesAt made.2 (instant 300)

structure TwoRuns (late : List Finding) where
  after₁ : World Publisher.Attempts
  after₂ : World Publisher.Attempts
  outcome₁ : Outcome
  outcome₂ : Outcome
  reports₁ : List GroupReport
  reports₂ : List GroupReport
  n₁ : Notification
  n₂ : Notification
  first : ((executor []).perform "r1").Returns firstWorld (outcome₁, reports₁) after₁
  second : ((executor []).perform "r1").Returns (secondWorld after₁ late)
    (outcome₂, reports₂) after₂
  watermark : outcome₁.newWatermark = some (instant 207)
  taken : after₁.clock.taken = 2
  delivered₁ : Delivered reports₁ "NEW_VULNERABILITY" n₁
  timestamp₁ : n₁.timestamp = some (instant 200)
  delivered₂ : Delivered reports₂ "NEW_VULNERABILITY" n₂

theorem nonempty_twoRuns {late : List Finding} (h : publishesTwice late = true) :
    Nonempty (TwoRuns late) := by
  obtain ⟨⟨outcome₁, reports₁⟩, after₁, hFirst, h⟩ := Run.returnsWith_iff.mp h
  rw [Bool.and_eq_true, Bool.and_eq_true, Bool.and_eq_true] at h
  obtain ⟨⟨⟨hWatermark, hReports₁⟩, hTaken⟩, hSecond⟩ := h
  obtain ⟨⟨outcome₂, reports₂⟩, after₂, hSecond, hReports₂⟩ := Run.returnsWith_iff.mp hSecond
  obtain ⟨n₁, hDelivered₁, hTimestamp₁⟩ := exists_delivered hReports₁
  obtain ⟨n₂, hDelivered₂, _⟩ := exists_delivered hReports₂
  exact ⟨⟨after₁, after₂, outcome₁, outcome₂, reports₁, reports₂, n₁, n₂, hFirst, hSecond,
    of_decide_eq_true hWatermark, of_decide_eq_true hTaken, hDelivered₁, hTimestamp₁,
    hDelivered₂⟩⟩

/-- Findings that happened after the first notification was stamped, before and after the watermark
was moved. -/
def late : List Finding :=
  [finding 3 "p1" (instant 203), finding 4 "p1" (instant 250)]

theorem covered : ∀ id ∈ ["p1", "p2"], ∃ project ∈
    firstWorld.store.scope (rule ["NEW_VULNERABILITY"] (instant 100)), project.id = id := by
  decide +kernel

namespace TwoRuns
variable {late : List Finding} (runs : TwoRuns late)
include runs

theorem performed₁ :
    (executor []).Performed (rule ["NEW_VULNERABILITY"] (instant 100)) firstWorld runs.after₁
      runs.outcome₁ runs.reports₁ :=
  perform_returns rfl rfl runs.first

theorem rule?_between :
    (secondWorld runs.after₁ late).store.rule? "r1" =
      some (rule ["NEW_VULNERABILITY"] (instant 207)) := by
  have hRule := runs.performed₁.rule?_eq (show firstWorld.store.rule? "r1" = some _ from rfl)
  rw [runs.watermark] at hRule
  exact hRule

theorem performed₂ :
    (executor []).Performed (rule ["NEW_VULNERABILITY"] (instant 207))
      (secondWorld runs.after₁ late) runs.after₂ runs.outcome₂ runs.reports₂ :=
  perform_returns runs.rule?_between rfl runs.second

theorem advanced : runs.outcome₁.advanced = true := by
  rw [runs.performed₁.advanced, runs.watermark]
  rfl

theorem mem₁ {id : Int} {project : String} {t : Instant}
    (hRow : finding id project t ∈ firstWorld.store.findings) (hProject : project ∈ ["p1", "p2"])
    (hLater : instant 100 < t) : (finding id project t).toEvent ∈ runs.n₁.events := by
  rw [runs.performed₁.mem_events_iff rfl runs.delivered₁]
  exact ⟨List.mem_map_of_mem hRow, covered project hProject, hLater, .inl rfl⟩

theorem covered₂ {id : String} (hId : id ∈ ["p1", "p2"]) (t : Instant) :
    ∃ project ∈ (secondWorld runs.after₁ late).store.scope (rule ["NEW_VULNERABILITY"] t),
      project.id = id := by
  have hFrame := congrArg Store.projects runs.performed₁.concluded.rules_only
  have hScope : (secondWorld runs.after₁ late).store.scope (rule ["NEW_VULNERABILITY"] t) =
      firstWorld.store.scope (rule ["NEW_VULNERABILITY"] (instant 100)) :=
    Store.scope_congr hFrame rfl rfl
  rw [hScope]
  exact covered id hId

theorem row₂ {f : Finding} (hRow : f ∈ firstWorld.store.findings ++ late) :
    f.toEvent ∈ (secondWorld runs.after₁ late).store.events (Group.ofName "NEW_VULNERABILITY") := by
  have hFrame := congrArg Store.findings runs.performed₁.concluded.rules_only
  refine List.mem_map_of_mem ?_
  change f ∈ runs.after₁.store.findings ++ late
  rw [hFrame]
  exact hRow

theorem mem₂_iff {id : Int} {project : String} {t : Instant}
    (hRow : finding id project t ∈ firstWorld.store.findings ++ late)
    (hProject : project ∈ ["p1", "p2"]) :
    (finding id project t).toEvent ∈ runs.n₂.events ↔ instant 207 < t := by
  rw [runs.performed₂.mem_events_iff rfl runs.delivered₂]
  constructor
  · exact fun hMem => hMem.2.2.1
  · exact fun hLater => ⟨runs.row₂ hRow, runs.covered₂ hProject _, hLater, .inl rfl⟩

theorem readsBefore :
    ReadsBefore firstWorld runs.after₁ (secondWorld runs.after₁ late) runs.after₂ := by
  intro i j s t _ hi _ _ hs ht
  have hEarly : s ≤ instant 207 := by
    rw [runs.taken] at hi
    have hCases : i = 0 ∨ i = 1 := by omega
    rcases hCases with rfl | rfl
    · rw [← Except.ok.inj (show Except.ok (instant 200) = Except.ok s from hs)]
      decide
    · rw [← Except.ok.inj (show Except.ok (instant 207) = Except.ok s from hs)]
      decide
  have hLate : instant 300 = t := by
    rw [secondWorld, Clock.stands_ticking, Except.ok.injEq] at ht
    exact ht
  rw [← hLate]
  exact Nat.lt_of_le_of_lt hEarly (by decide)

end TwoRuns

end EventDigest.Sample

namespace EventDigest.Executor
open Time
variable {β : Type}

variable {first second : Executor β} {id group : String} {rule₁ rule₂ : Rule}
  {world₁ after₁ world₂ after₂ : World β} {outcome₁ outcome₂ : Outcome}
  {reports₁ reports₂ : List GroupReport} {n₁ n₂ : Notification}

/-- An event that two successive runs deliver happened after the watermark that the first one set;
and every such event is delivered again when the store was left alone in between. -/
theorem redelivered_iff_later (hSource₁ : first.source = Store.eventSource)
    (hSource₂ : second.source = Store.eventSource) (hRule₁ : world₁.store.rule? id = some rule₁)
    (hEnabled₁ : rule₁.enabled = true) (hRule₂ : world₂.store.rule? id = some rule₂)
    (hEnabled₂ : rule₂.enabled = true)
    (h₁ : (first.perform id).Returns world₁ (outcome₁, reports₁) after₁)
    (h₂ : (second.perform id).Returns world₂ (outcome₂, reports₂) after₂)
    (hAdvanced : outcome₁.advanced = true)
    (hForward : ∀ left, after₁.store.watermark? id = some left → left ≤ rule₂.watermark)
    (hDelivered₁ : Delivered reports₁ group n₁) (hDelivered₂ : Delivered reports₂ group n₂) :
    ∃ now, after₁.clock.last.toInstant = .ok now ∧
      (∀ e ∈ n₁.events, e ∈ n₂.events → now < e.occurredAt) ∧
      (world₂.store = after₁.store →
        ∀ e ∈ n₁.events, now < e.occurredAt → e ∈ n₂.events) := by
  have hRun₁ := perform_returns hRule₁ hEnabled₁ h₁
  have hRun₂ := perform_returns hRule₂ hEnabled₂ h₂
  obtain ⟨now, hNew, hLast⟩ := hRun₁.last_of_advanced hAdvanced
  have hLeft := hRun₁.rule?_eq hRule₁
  rw [hNew, Option.getD_some] at hLeft
  refine ⟨now, hLast, ?_, ?_⟩
  · intro e _ he
    have hAfter := ((hRun₂.mem_events_iff hSource₂ hDelivered₂ e).mp he).2.2.1
    have hBound := hForward now (by rw [Store.watermark?, hLeft, Option.map_some])
    exact Nat.lt_of_le_of_lt hBound hAfter
  · intro hStore e he hLater
    obtain ⟨hRow, hCovered, _, hShown⟩ := (hRun₁.mem_events_iff hSource₁ hDelivered₁ e).mp he
    have hSame : { rule₁ with watermark := now } = rule₂ := by
      rw [hStore, hLeft] at hRule₂
      exact Option.some.inj hRule₂
    have hFrame := hRun₁.concluded.rules_only
    have hScope : world₂.store.scope rule₂ = world₁.store.scope rule₁ := by
      rw [hStore, hFrame, ← hSame]
      exact Store.scope_congr rfl rfl rfl
    rw [hRun₂.mem_events_iff hSource₂ hDelivered₂, hScope, hStore, hFrame, ← hSame]
    exact ⟨hRow, hCovered, hLater, hShown⟩

/-- Without its bound on the time of the event the law fails: an event of the future is delivered by
both runs, though nothing was changed between them and the clock only ran forward. -/
theorem event_of_the_future_redelivered :
    ∃ after₁ after₂ outcome₁ outcome₂ reports₁ reports₂ n₁ n₂, ∃ rule : Rule,
      Sample.firstWorld.store.rule? "r1" = some rule ∧ rule.enabled = true ∧
      rule.groupNames = .ok ["NEW_VULNERABILITY"] ∧
      ((Sample.executor []).perform "r1").Returns Sample.firstWorld (outcome₁, reports₁) after₁ ∧
      ((Sample.executor []).perform "r1").Returns (Sample.secondWorld after₁ [])
        (outcome₂, reports₂) after₂ ∧
      (Sample.secondWorld after₁ []).store = after₁.store ∧ outcome₁.advanced = true ∧
      ReadsBefore Sample.firstWorld after₁ (Sample.secondWorld after₁ []) after₂ ∧
      Delivered reports₁ "NEW_VULNERABILITY" n₁ ∧ Delivered reports₂ "NEW_VULNERABILITY" n₂ ∧
      ∃ e ∈ n₁.events, e ∈ n₂.events := by
  obtain ⟨runs⟩ := Sample.nonempty_twoRuns (show Sample.publishesTwice [] = true by decide +kernel)
  refine ⟨runs.after₁, runs.after₂, runs.outcome₁, runs.outcome₂, runs.reports₁, runs.reports₂,
    runs.n₁, runs.n₂, _, rfl, rfl, rfl, runs.first, runs.second, ?_, runs.advanced,
    runs.readsBefore, runs.delivered₁, runs.delivered₂,
    (Sample.finding 2 "p2" (Sample.instant 900)).toEvent, runs.mem₁ ?_ (by decide) (by decide),
    (runs.mem₂_iff ?_ (by decide)).mpr (by decide)⟩
  · simp [Sample.secondWorld]
  · simp [Sample.firstWorld, Sample.store]
  · simp [Sample.firstWorld, Sample.store]

theorem redelivered_iff_later_at_two_runs :
    ∃ after₁ after₂ outcome₁ outcome₂ reports₁ reports₂ n₁ n₂,
      ((Sample.executor []).perform "r1").Returns Sample.firstWorld (outcome₁, reports₁) after₁ ∧
      ((Sample.executor []).perform "r1").Returns (Sample.secondWorld after₁ [])
        (outcome₂, reports₂) after₂ ∧
      Delivered reports₁ "NEW_VULNERABILITY" n₁ ∧ Delivered reports₂ "NEW_VULNERABILITY" n₂ ∧
      (Sample.finding 1 "p1" (Sample.instant 150)).toEvent ∈ n₁.events ∧
      (Sample.finding 1 "p1" (Sample.instant 150)).toEvent ∉ n₂.events ∧
      (Sample.finding 2 "p2" (Sample.instant 900)).toEvent ∈ n₂.events := by
  obtain ⟨runs⟩ := Sample.nonempty_twoRuns (show Sample.publishesTwice [] = true by decide +kernel)
  have hOld : (Sample.finding 1 "p1" (Sample.instant 150)).toEvent ∈ runs.n₁.events :=
    runs.mem₁ (by simp [Sample.firstWorld, Sample.store]) (by decide) (by decide)
  have hFuture : (Sample.finding 2 "p2" (Sample.instant 900)).toEvent ∈ runs.n₁.events :=
    runs.mem₁ (by simp [Sample.firstWorld, Sample.store]) (by decide) (by decide)
  have hStore : (Sample.secondWorld runs.after₁ []).store = runs.after₁.store := by
    simp [Sample.secondWorld]
  have hForward : ∀ left, runs.after₁.store.watermark? "r1" = some left →
      left ≤ Sample.instant 207 := by
    intro left hLeft
    rw [Store.watermark?, ← hStore, runs.rule?_between] at hLeft
    exact Nat.le_of_eq (congrArg Instant.micros (Option.some.inj hLeft).symm)
  obtain ⟨now, hLast, hOnce, hAgain⟩ := redelivered_iff_later rfl rfl rfl rfl runs.rule?_between rfl
    runs.first runs.second runs.advanced hForward runs.delivered₁ runs.delivered₂
  obtain ⟨stored, hStored, hNow⟩ := runs.performed₁.last_of_advanced runs.advanced
  rw [runs.watermark, Option.some.injEq] at hStored
  rw [← hStored, hLast, Except.ok.injEq] at hNow
  subst hNow
  exact ⟨runs.after₁, runs.after₂, runs.outcome₁, runs.outcome₂, runs.reports₁, runs.reports₂,
    runs.n₁, runs.n₂, runs.first, runs.second, runs.delivered₁, runs.delivered₂, hOld,
    fun hTwice => absurd (hOnce _ hOld hTwice) (by decide), hAgain hStore _ hFuture (by decide)⟩

/-- An event that is recorded after a run is in the next notification exactly when it happened after
the watermark that the run left: the last reading of its clock, or else where the watermark was. -/
theorem recorded_late_iff (hSource₂ : second.source = Store.eventSource)
    (hRule₁ : world₁.store.rule? id = some rule₁) (hEnabled₁ : rule₁.enabled = true)
    (hRule₂ : world₂.store.rule? id = after₁.store.rule? id)
    (h₁ : (first.perform id).Returns world₁ (outcome₁, reports₁) after₁)
    (h₂ : (second.perform id).Returns world₂ (outcome₂, reports₂) after₂)
    (hDelivered₂ : Delivered reports₂ group n₂) {e : Event}
    (hRow : e ∈ world₂.store.events (Group.ofName group))
    (hCovered : ∃ project ∈ world₂.store.scope rule₁, project.id = e.project)
    (hNew : e.suppressed = false) :
    ∃ left, after₁.store.watermark? id = some left ∧
      (outcome₁.advanced = true → after₁.clock.last.toInstant = .ok left) ∧
      (outcome₁.advanced = false → left = rule₁.watermark) ∧
      (e ∈ n₂.events ↔ left < e.occurredAt) := by
  have hRun₁ := perform_returns hRule₁ hEnabled₁ h₁
  have hLeft := hRun₁.rule?_eq hRule₁
  have hRun₂ := perform_returns (hRule₂.trans hLeft) hEnabled₁ h₂
  refine ⟨_, by rw [Store.watermark?, hLeft, Option.map_some], ?_, ?_, ?_⟩
  · intro hAdvanced
    obtain ⟨now, hNow, hLast⟩ := hRun₁.last_of_advanced hAdvanced
    rwa [hNow, Option.getD_some]
  · intro hStays
    rw [hRun₁.advanced, Option.isSome_eq_false_iff, Option.isNone_iff_eq_none] at hStays
    rw [hStays, Option.getD_none]
  · rw [hRun₂.mem_events_iff hSource₂ hDelivered₂]
    constructor
    · exact fun h => h.2.2.1
    · exact fun hLater => ⟨hRow, hCovered, hLater, .inr hNew⟩

/-- With the timestamp of the first notification in place of the watermark the law fails: an event
that happened between the two readings of the clock is in no notification. -/
theorem event_between_readings_lost :
    ∃ after₁ after₂ outcome₁ outcome₂ reports₁ reports₂ n₁ n₂, ∃ rule : Rule, ∃ e : Event,
      Sample.firstWorld.store.rule? "r1" = some rule ∧ rule.enabled = true ∧
      ((Sample.executor []).perform "r1").Returns Sample.firstWorld (outcome₁, reports₁) after₁ ∧
      ((Sample.executor []).perform "r1").Returns (Sample.secondWorld after₁ Sample.late)
        (outcome₂, reports₂) after₂ ∧
      (Sample.secondWorld after₁ Sample.late).store.rule? "r1" = after₁.store.rule? "r1" ∧
      Delivered reports₁ "NEW_VULNERABILITY" n₁ ∧ Delivered reports₂ "NEW_VULNERABILITY" n₂ ∧
      (∃ timestamp, n₁.timestamp = some timestamp ∧ timestamp < e.occurredAt) ∧
      e ∉ after₁.store.events .vulnerability ∧
      e ∈ (Sample.secondWorld after₁ Sample.late).store.events .vulnerability ∧
      e.suppressed = false ∧
      (∃ project ∈ (Sample.secondWorld after₁ Sample.late).store.scope rule,
        project.id = e.project) ∧
      e ∉ n₂.events := by
  obtain ⟨runs⟩ := Sample.nonempty_twoRuns
    (show Sample.publishesTwice Sample.late = true by decide +kernel)
  refine ⟨runs.after₁, runs.after₂, runs.outcome₁, runs.outcome₂, runs.reports₁, runs.reports₂,
    runs.n₁, runs.n₂, _, (Sample.finding 3 "p1" (Sample.instant 203)).toEvent, rfl, rfl, runs.first,
    runs.second, rfl, runs.delivered₁, runs.delivered₂, ⟨_, runs.timestamp₁, by decide⟩, ?_,
    runs.row₂ (by simp [Sample.late]), rfl, runs.covered₂ (by decide) _, ?_⟩
  · intro hRow
    have hRows : runs.after₁.store.events .vulnerability =
        Sample.firstWorld.store.events .vulnerability := by
      rw [runs.performed₁.concluded.rules_only]
      rfl
    rw [hRows] at hRow
    exact absurd (List.mem_map_of_mem (f := Event.id) hRow) (by decide)
  · rw [runs.mem₂_iff (by simp [Sample.late]) (by decide)]
    decide

theorem recorded_late_iff_at_two_runs :
    ∃ after₁ after₂ outcome₁ outcome₂ reports₁ reports₂ n₂,
      ((Sample.executor []).perform "r1").Returns Sample.firstWorld (outcome₁, reports₁) after₁ ∧
      ((Sample.executor []).perform "r1").Returns (Sample.secondWorld after₁ Sample.late)
        (outcome₂, reports₂) after₂ ∧
      Delivered reports₂ "NEW_VULNERABILITY" n₂ ∧
      (Sample.finding 3 "p1" (Sample.instant 203)).toEvent ∉ n₂.events ∧
      (Sample.finding 4 "p1" (Sample.instant 250)).toEvent ∈ n₂.events := by
  obtain ⟨runs⟩ := Sample.nonempty_twoRuns
    (show Sample.publishesTwice Sample.late = true by decide +kernel)
  have hBetween : (Sample.secondWorld runs.after₁ Sample.late).store.rule? "r1" =
      runs.after₁.store.rule? "r1" := rfl
  have hCovered : ∃ project ∈ (Sample.secondWorld runs.after₁ Sample.late).store.scope
      (Sample.rule ["NEW_VULNERABILITY"] (Sample.instant 100)), project.id = "p1" :=
    runs.covered₂ (by decide) _
  have hLate : ∀ id t, Sample.finding id "p1" t ∈ Sample.late →
      ((Sample.finding id "p1" t).toEvent ∈ runs.n₂.events ↔ Sample.instant 207 < t) := by
    intro id t hRow
    obtain ⟨left, hLeft, _, _, hIff⟩ := recorded_late_iff rfl rfl rfl hBetween runs.first
      runs.second runs.delivered₂ (runs.row₂ (List.mem_append_right _ hRow)) hCovered rfl
    have hStored : runs.after₁.store.rule? "r1" = _ := runs.rule?_between
    rw [Store.watermark?, hStored, Option.map_some, Option.some.injEq] at hLeft
    subst hLeft
    exact hIff
  refine ⟨runs.after₁, runs.after₂, runs.outcome₁, runs.outcome₂, runs.reports₁, runs.reports₂,
    runs.n₂, runs.first, runs.second, runs.delivered₂, ?_, ?_⟩
  · rw [hLate 3 (Sample.instant 203) (by simp [Sample.late])]
    decide
  · rw [hLate 4 (Sample.instant 250) (by simp [Sample.late])]
    decide

end EventDigest.Executor

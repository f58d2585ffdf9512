import EventDigest.Proofs.Performed

/-! # Histories

A rule is run over and over, and rows are recorded in between. An event waits while the watermark is
before it, and every run that tries to deliver waits with it until one succeeds: that run tells of
the event and moves the watermark past it, so that no later run does. A run that is passed over
moves the watermark as well, but there is none while an event waits.
-/
set_option autoImplicit false
namespace EventDigest
open Time Executor
variable {β : Type}

/-- A run and the rows that are recorded before it. -/
structure Round (β : Type) where
  findings : List Finding
  violations : List Violation
  executor : Executor β
  time : Instant
  clock : Clock
  desk : Desk β

def Round.events (round : Round β) : Group → List Event
  | .vulnerability => round.findings.map Finding.toEvent
  | .violation => round.violations.map Violation.toEvent
  | .other _ => []

def Store.record (store : Store) (round : Round β) : Store :=
  { store with
    findings := store.findings ++ round.findings
    violations := store.violations ++ round.violations }

/-- Runs a rule once a round and collects the reports. A run that ends with a fault ends the
history. -/
def play (id : String) : Store → List (Round β) → Except Fault (List (List GroupReport))
  | _, [] => .ok []
  | store, round :: rest =>
    match (round.executor.perform id).start ⟨store.record round, round.clock, round.desk⟩ with
    | (.error fault, _) => .error fault
    | (.ok (_, reports), after) => do return reports :: (← play id after.store rest)

/-- The clock of each round stands, each time later than the time before, and what is recorded for a
group before a run has happened since the run before it. -/
def Dated (group : Group) : Instant → List (Round β) → Prop
  | _, [] => True
  | last, round :: rest => last < round.time ∧ round.clock.Stands round.time ∧
      (∀ e ∈ round.events group, last < e.occurredAt ∧ e.occurredAt ≤ round.time) ∧
        Dated group round.time rest

def DeliveredIn (logs : List (List GroupReport)) (j : Nat) (group : String) (n : Notification) :
    Prop :=
  ∃ reports, logs[j]? = some reports ∧ Delivered reports group n

def Succeeds (logs : List (List GroupReport)) (group : String) (j : Nat) : Prop :=
  ∃ n, DeliveredIn logs j group n

instance (logs : List (List GroupReport)) (group : String) (j : Nat) :
    Decidable (Succeeds logs group j) :=
  decidable_of_iff (∃ reports ∈ logs[j]?, ∃ report ∈ reports, report.result.group = group ∧
    report.result.status = .published ∧ report.notification.isSome = true) <| by
      simp only [Option.isSome_iff_exists, Option.mem_def]
      constructor
      · rintro ⟨reports, hReports, report, hReport, hGroup, hStatus, n, hBuilt⟩
        exact ⟨n, reports, hReports, report, hReport, hGroup, hStatus, hBuilt⟩
      · rintro ⟨n, reports, hReports, report, hReport, hGroup, hStatus, hBuilt⟩
        exact ⟨reports, hReports, report, hReport, hGroup, hStatus, n, hBuilt⟩

/-- What run `j` of a history delivers for a group has an event in its details. -/
def Tells (logs : List (List GroupReport)) (group : String) (e : Event) (j : Nat) : Prop :=
  ∃ n, DeliveredIn logs j group n ∧ e ∈ n.events

/-- From `k` on, `j` is the first place where something happens. -/
def FirstFrom (happens : Nat → Prop) (k j : Nat) : Prop :=
  k ≤ j ∧ happens j ∧ ∀ i, k ≤ i → i < j → ¬happens i

section
variable {happens : Nat → Prop} {k i j : Nat}

theorem FirstFrom.unique (hi : FirstFrom happens k i) (hj : FirstFrom happens k j) : i = j := by
  rcases Nat.lt_trichotomy i j with hLt | hEq | hGt
  · exact (hj.2.2 i hi.1 hLt hi.2.1).elim
  · exact hEq
  · exact (hi.2.2 j hj.1 hGt hj.2.1).elim

theorem firstFrom_zero_zero_iff : FirstFrom happens 0 0 ↔ happens 0 := by
  simp [FirstFrom]

theorem firstFrom_zero_succ_iff :
    FirstFrom happens 0 (j + 1) ↔ ¬happens 0 ∧ FirstFrom (fun i => happens (i + 1)) 0 j := by
  constructor
  · rintro ⟨_, hHappens, hBefore⟩
    exact ⟨hBefore 0 (Nat.le_refl 0) (Nat.succ_pos j), Nat.zero_le j, hHappens,
      fun i _ hi => hBefore (i + 1) (Nat.zero_le _) (Nat.succ_lt_succ hi)⟩
  · rintro ⟨hFirst, _, hHappens, hBefore⟩
    refine ⟨Nat.zero_le _, hHappens, fun i _ hi => ?_⟩
    cases i with
    | zero => exact hFirst
    | succ i => exact hBefore i (Nat.zero_le i) (Nat.lt_of_succ_lt_succ hi)

theorem not_firstFrom_succ_zero : ¬FirstFrom happens (k + 1) 0 :=
  fun h => Nat.not_succ_le_zero k h.1

theorem firstFrom_succ_succ_iff :
    FirstFrom happens (k + 1) (j + 1) ↔ FirstFrom (fun i => happens (i + 1)) k j := by
  constructor
  · rintro ⟨hLe, hHappens, hBefore⟩
    exact ⟨Nat.le_of_succ_le_succ hLe, hHappens,
      fun i hk hi => hBefore (i + 1) (Nat.succ_le_succ hk) (Nat.succ_lt_succ hi)⟩
  · rintro ⟨hLe, hHappens, hBefore⟩
    refine ⟨Nat.succ_le_succ hLe, hHappens, fun i hk hi => ?_⟩
    cases i with
    | zero => exact (Nat.not_succ_le_zero k hk).elim
    | succ i => exact hBefore i (Nat.le_of_succ_le_succ hk) (Nat.lt_of_succ_lt_succ hi)

end

section
variable {reports : List GroupReport} {others : List (List GroupReport)} {group : String}
  {n : Notification} {j : Nat}

theorem deliveredIn_zero_iff :
    DeliveredIn (reports :: others) 0 group n ↔ Delivered reports group n := by
  simp [DeliveredIn]

theorem deliveredIn_succ_iff :
    DeliveredIn (reports :: others) (j + 1) group n ↔ DeliveredIn others j group n := by
  simp [DeliveredIn]

theorem succeeds_zero_iff :
    Succeeds (reports :: others) group 0 ↔ ∃ n, Delivered reports group n := by
  simp only [Succeeds, deliveredIn_zero_iff]

theorem succeeds_succ_iff :
    Succeeds (reports :: others) group (j + 1) ↔ Succeeds others group j := by
  simp only [Succeeds, deliveredIn_succ_iff]

theorem tells_succ_iff {e : Event} :
    Tells (reports :: others) group e (j + 1) ↔ Tells others group e j := by
  simp only [Tells, deliveredIn_succ_iff]

end

theorem play_cons_eq_ok {id : String} {store : Store} {round : Round β} {rest : List (Round β)}
    {logs : List (List GroupReport)} (h : play id store (round :: rest) = .ok logs) :
    ∃ outcome reports after others,
      (round.executor.perform id).Returns ⟨store.record round, round.clock, round.desk⟩
        (outcome, reports) after ∧
      play id after.store rest = .ok others ∧ logs = reports :: others := by
  rw [play] at h
  split at h
  · cases h
  · rename_i outcome reports after hStart
    obtain ⟨others, hRest, h⟩ := Answer.bind_eq_ok_iff.mp h
    rw [Answer.pure_eq_ok_iff] at h
    exact ⟨outcome, reports, after, others, hStart, hRest, h.symm⟩

theorem Store.events_record (store : Store) (round : Round β) (group : Group) :
    (store.record round).events group = store.events group ++ round.events group := by
  cases group <;> simp [events, record, Round.events]

/-- Whatever a round of a history records has happened after the time that the history begins at. -/
theorem Dated.later_of_mem {group : Group} {last : Instant} {rounds : List (Round β)}
    (h : Dated group last rounds) {k : Nat} {round : Round β} (hRound : rounds[k]? = some round)
    {e : Event} (he : e ∈ round.events group) : last < e.occurredAt := by
  induction rounds generalizing last k with
  | nil => cases hRound
  | cons first rest ih =>
    obtain ⟨hLater, _, hFirst, hRest⟩ := h
    cases k with
    | zero =>
      rw [List.getElem?_cons_zero, Option.some.injEq] at hRound
      rw [← hRound] at he
      exact (hFirst e he).1
    | succ k =>
      rw [List.getElem?_cons_succ] at hRound
      exact Nat.lt_trans hLater (ih hRest hRound)

structure Watches (store : Store) (id group project : String) (rule : Rule) : Prop where
  stored : store.rule? id = some rule
  enabled : rule.enabled = true
  names : rule.groupNames = .ok [group]
  supported : Group.ofName group ≠ .other group
  covered : ∃ ref ∈ store.scope rule, ref.id = project

section
variable {id group project : String} {rule : Rule}

theorem Watches.record {store : Store} (h : Watches store id group project rule)
    (round : Round β) : Watches (store.record round) id group project rule := by
  have hScope : (store.record round).scope rule = store.scope rule :=
    Store.scope_congr rfl rfl rfl
  exact ⟨h.stored, h.enabled, h.names, h.supported, hScope ▸ h.covered⟩

variable {executor : Executor β} {world after : World β} {outcome : Outcome}
  {reports : List GroupReport}

theorem Watches.performed (h : Watches world.store id group project rule)
    (hRun : executor.Performed rule world after outcome reports) :
    Watches after.store id group project
      { rule with watermark := outcome.newWatermark.getD rule.watermark } := by
  have hProjects := congrArg Store.projects hRun.concluded.rules_only
  have hScope : after.store.scope
      { rule with watermark := outcome.newWatermark.getD rule.watermark } =
        world.store.scope rule := Store.scope_congr hProjects rfl rfl
  exact ⟨hRun.rule?_eq h.stored, h.enabled, h.names, h.supported, hScope ▸ h.covered⟩

/-- While an event waits, a run delivers or gives no reason to move the watermark. -/
theorem Watches.settles_iff_delivered {e : Event}
    (h : Watches world.store id group e.project rule)
    (hSource : executor.source = Store.eventSource)
    (hRun : executor.Performed rule world after outcome reports)
    (hRow : e ∈ world.store.events (Group.ofName group)) (hNew : e.suppressed = false)
    (hWaits : rule.watermark < e.occurredAt) :
    Settles outcome.results ↔ ∃ n, Delivered reports group n := by
  obtain ⟨report, rfl, rfl⟩ := hRun.exists_eq_singleton h.names
  have hReport := hRun.reported report (List.mem_singleton_self report)
  have hStatus := hReport.attempted hSource h.supported hRow h.covered hWaits hNew
  rw [hRun.results, List.map_singleton, settles_singleton_iff]
  constructor
  · intro hSettles
    have hPublished : report.result.status = .published := by
      rcases hStatus with hPublished | hFailed
      · exact hPublished
      · exact (hSettles.1 hFailed).elim
    exact hRun.exists_delivered (List.mem_singleton_self report) hPublished
  · rintro ⟨n, other, hOther, _, hPublished, _⟩
    rw [List.mem_singleton] at hOther
    subst hOther
    rw [hPublished]
    decide

end

/-- What a round does to the store and to a rule whose watermark is before the time of the round. -/
structure Round.Leads (round : Round β) (id group project : String) (store : Store) (rule : Rule)
    (outcome : Outcome) (reports : List GroupReport) (after : World β) (watermark : Instant) :
    Prop where
  performed : round.executor.Performed rule ⟨store.record round, round.clock, round.desk⟩ after
    outcome reports
  watches : Watches after.store id group project { rule with watermark }
  events_eq : after.store.events (Group.ofName group) =
    store.events (Group.ofName group) ++ round.events (Group.ofName group)
  forward : rule.watermark ≤ watermark
  reached : watermark ≤ round.time
  moved : Settles outcome.results → watermark = round.time
  stayed : ¬Settles outcome.results → watermark = rule.watermark

theorem Round.exists_leads {id group project : String} {store : Store} {rule : Rule}
    {round : Round β} {rest : List (Round β)} {logs : List (List GroupReport)} {last : Instant}
    (hPlay : play id store (round :: rest) = .ok logs)
    (hDated : Dated (Group.ofName group) last (round :: rest))
    (hWatches : Watches store id group project rule) (hLast : rule.watermark ≤ last) :
    ∃ outcome reports after others watermark, logs = reports :: others ∧
      play id after.store rest = .ok others ∧
      round.Leads id group project store rule outcome reports after watermark := by
  obtain ⟨outcome, reports, after, others, hReturns, hRest, hLogs⟩ := play_cons_eq_ok hPlay
  obtain ⟨hLater, hStands, _, _⟩ := hDated
  have hFound := hWatches.record round
  have hRun := perform_returns hFound.stored hFound.enabled hReturns
  have hAhead : rule.watermark < round.time := Nat.lt_of_le_of_lt hLast hLater
  obtain ⟨hMoves, hStays⟩ := hRun.newWatermark_of_stands hStands hAhead
  have hNext := hFound.performed hRun
  have hEvents : after.store.events (Group.ofName group) =
      store.events (Group.ofName group) ++ round.events (Group.ofName group) := by
    rw [← store.events_record round, hRun.concluded.rules_only]
    rfl
  by_cases hSettles : Settles outcome.results
  · rw [hMoves hSettles, Option.getD_some] at hNext
    exact ⟨outcome, reports, after, others, round.time, hLogs, hRest, hRun, hNext, hEvents,
      Nat.le_of_lt hAhead, Nat.le_refl _, fun _ => rfl, fun h => (h hSettles).elim⟩
  · rw [hStays hSettles, Option.getD_none] at hNext
    exact ⟨outcome, reports, after, others, rule.watermark, hLogs, hRest, hRun, hNext, hEvents,
      Nat.le_refl _, Nat.le_of_lt hAhead, fun h => (hSettles h).elim, fun _ => rfl⟩

section
variable {id group : String} {rule : Rule} {store : Store} {rounds rest : List (Round β)}
  {round : Round β} {logs : List (List GroupReport)} {last : Instant} {e : Event}

/-- An event that the watermark has passed is not told of any more. -/
theorem not_tells_of_settled (hPlay : play id store rounds = .ok logs)
    (hSource : ∀ round ∈ rounds, round.executor.source = Store.eventSource)
    (hDated : Dated (Group.ofName group) last rounds)
    (hWatches : Watches store id group e.project rule) (hLast : rule.watermark ≤ last)
    (hSettled : e.occurredAt ≤ rule.watermark) (j : Nat) : ¬Tells logs group e j := by
  induction rounds generalizing store last rule logs j with
  | nil =>
    cases hPlay
    rintro ⟨n, ⟨reports, hReports, _⟩, _⟩
    cases hReports
  | cons round rest ih =>
    obtain ⟨outcome, reports, after, others, watermark, rfl, hRest, hStep⟩ :=
      Round.exists_leads hPlay hDated hWatches hLast
    obtain ⟨hSourceFirst, hSourceRest⟩ := List.forall_mem_cons.mp hSource
    cases j with
    | zero =>
      rintro ⟨n, hDelivered, he⟩
      rw [deliveredIn_zero_iff] at hDelivered
      have hLater := ((hStep.performed.mem_events_iff hSourceFirst hDelivered e).mp he).2.2.1
      exact Nat.not_lt_of_le hSettled hLater
    | succ j =>
      rw [tells_succ_iff]
      exact ih hRest hSourceRest hDated.2.2.2 hStep.watches hStep.reached
        (Nat.le_trans hSettled hStep.forward) j

/-- A waiting event is told of by the first run that delivers, and by no other. -/
theorem tells_iff_of_waiting (hPlay : play id store (round :: rest) = .ok logs)
    (hSource : ∀ other ∈ round :: rest, other.executor.source = Store.eventSource)
    (hDated : Dated (Group.ofName group) last (round :: rest))
    (hWatches : Watches store id group e.project rule) (hLast : rule.watermark ≤ last)
    (hNew : e.suppressed = false)
    (hRow : e ∈ store.events (Group.ofName group) ++ round.events (Group.ofName group))
    (hWaits : rule.watermark < e.occurredAt) (hHappened : e.occurredAt ≤ round.time) (j : Nat) :
    Tells logs group e j ↔ FirstFrom (Succeeds logs group) 0 j := by
  have hFound := hWatches.record round
  -- The rest of the history begins with the event in its table, and with the watermark past it if
  -- the first run delivers and where it was otherwise.
  induction j generalizing store last rule round rest logs with
  | zero =>
    obtain ⟨outcome, reports, after, others, watermark, rfl, _, hStep⟩ :=
      Round.exists_leads hPlay hDated hWatches hLast
    rw [firstFrom_zero_zero_iff, succeeds_zero_iff]
    constructor
    · rintro ⟨n, hDelivered, _⟩
      exact ⟨n, deliveredIn_zero_iff.mp hDelivered⟩
    · rintro ⟨n, hDelivered⟩
      refine ⟨n, deliveredIn_zero_iff.mpr hDelivered, ?_⟩
      rw [hStep.performed.mem_events_iff (hSource round List.mem_cons_self) hDelivered,
        store.events_record]
      exact ⟨hRow, hFound.covered, hWaits, .inr hNew⟩
  | succ j ih =>
    obtain ⟨outcome, reports, after, others, watermark, rfl, hRest, hStep⟩ :=
      Round.exists_leads hPlay hDated hWatches hLast
    obtain ⟨hSourceFirst, hSourceRest⟩ := List.forall_mem_cons.mp hSource
    have hSettles := hFound.settles_iff_delivered hSourceFirst hStep.performed
      (store.events_record round _ ▸ hRow) hNew hWaits
    rw [tells_succ_iff, firstFrom_zero_succ_iff, succeeds_zero_iff, ← hSettles]
    simp only [succeeds_succ_iff]
    by_cases hDelivers : Settles outcome.results
    · have hTold : ¬Tells others group e j :=
        not_tells_of_settled hRest hSourceRest hDated.2.2.2 hStep.watches hStep.reached
          ((hStep.moved hDelivers).symm ▸ hHappened) j
      simp only [hTold, hDelivers, not_true_eq_false, false_and]
    · have hNext := hStep.watches
      rw [hStep.stayed hDelivers] at hNext
      rw [and_iff_right hDelivers]
      cases rest with
      | nil =>
        cases hRest
        simp [Tells, FirstFrom, Succeeds, DeliveredIn]
      | cons next rest =>
        have hStill : e.occurredAt ≤ next.time :=
          Nat.le_of_lt (Nat.lt_of_le_of_lt hHappened hDated.2.2.2.1)
        have hKept : e ∈ after.store.events (Group.ofName group) ++
            next.events (Group.ofName group) := by
          rw [hStep.events_eq]
          exact List.mem_append_left _ hRow
        exact ih hRest hSourceRest hDated.2.2.2 hNext (Nat.le_trans hStep.forward hStep.reached)
          hKept hWaits hStill (hNext.record next)

theorem tells_iff_of_recorded (hPlay : play id store rounds = .ok logs)
    (hSource : ∀ round ∈ rounds, round.executor.source = Store.eventSource)
    (hDated : Dated (Group.ofName group) last rounds)
    (hWatches : Watches store id group e.project rule) (hLast : rule.watermark ≤ last)
    (hNew : e.suppressed = false) {k : Nat} (hRound : rounds[k]? = some round)
    (hRow : e ∈ round.events (Group.ofName group))
    (hFresh : e ∉ store.events (Group.ofName group)) (j : Nat) :
    Tells logs group e j ↔ FirstFrom (Succeeds logs group) k j := by
  induction k generalizing store last rule rounds logs j with
  | zero =>
    cases rounds with
    | nil => cases hRound
    | cons first rest =>
      obtain rfl : first = round := Option.some.inj hRound
      obtain ⟨hWaits, hHappened⟩ := hDated.2.2.1 e hRow
      exact tells_iff_of_waiting hPlay hSource hDated hWatches hLast hNew
        (List.mem_append_right _ hRow) (Nat.lt_of_le_of_lt hLast hWaits) hHappened j
  | succ k ih =>
    cases rounds with
    | nil => cases hRound
    | cons first rest =>
      rw [List.getElem?_cons_succ] at hRound
      obtain ⟨outcome, reports, after, others, watermark, rfl, hRest, hStep⟩ :=
        Round.exists_leads hPlay hDated hWatches hLast
      obtain ⟨hSourceFirst, hSourceRest⟩ := List.forall_mem_cons.mp hSource
      have hLater := hDated.2.2.2.later_of_mem hRound hRow
      have hUnrecorded : e ∉ after.store.events (Group.ofName group) := by
        rw [hStep.events_eq, List.mem_append, not_or]
        exact ⟨hFresh, fun he => Nat.not_lt_of_le (hDated.2.2.1 e he).2 hLater⟩
      cases j with
      | zero =>
        refine iff_of_false ?_ not_firstFrom_succ_zero
        rintro ⟨n, hDelivered, he⟩
        rw [deliveredIn_zero_iff] at hDelivered
        have hRecorded := ((hStep.performed.mem_events_iff hSourceFirst hDelivered e).mp he).1
        rw [store.events_record, ← hStep.events_eq] at hRecorded
        exact hUnrecorded hRecorded
      | succ j =>
        rw [tells_succ_iff, firstFrom_succ_succ_iff]
        simp only [succeeds_succ_iff]
        exact ih hRest hSourceRest hDated.2.2.2 hStep.watches hStep.reached hRound hUnrecorded j

theorem exists_eq_singleton_of_play (hPlay : play id store rounds = .ok logs)
    (hDated : Dated (Group.ofName group) last rounds) {project : String}
    (hWatches : Watches store id group project rule) (hLast : rule.watermark ≤ last) :
    ∀ reports ∈ logs, ∃ report, reports = [report] := by
  induction rounds generalizing store last rule logs with
  | nil =>
    cases hPlay
    simp
  | cons round rest ih =>
    obtain ⟨outcome, reports, after, others, watermark, rfl, hRest, hStep⟩ :=
      Round.exists_leads hPlay hDated hWatches hLast
    rw [List.forall_mem_cons]
    constructor
    · obtain ⟨report, hReport, _⟩ := hStep.performed.exists_eq_singleton hWatches.names
      exact ⟨report, hReport⟩
    · exact ih hRest hDated.2.2.2 hStep.watches hStep.reached

/-- In every history of a rule of one group, an event that was recorded as it happened is told of
once, by the first run from then on that delivers; without such a run it is not told of. -/
theorem delivered_exactly_once (hRule : store.rule? id = some rule)
    (hEnabled : rule.enabled = true) (hNames : rule.groupNames = .ok [group])
    (hSupported : Group.ofName group ≠ .other group)
    (hSource : ∀ round ∈ rounds, round.executor.source = Store.eventSource)
    (hDated : Dated (Group.ofName group) rule.watermark rounds)
    (hPlay : play id store rounds = .ok logs) {k : Nat} (hRound : rounds[k]? = some round)
    (hRow : e ∈ round.events (Group.ofName group))
    (hFresh : e ∉ store.events (Group.ofName group)) (hNew : e.suppressed = false)
    (hCovered : ∃ project ∈ store.scope rule, project.id = e.project) :
    (∀ j, Tells logs group e j ↔ FirstFrom (Succeeds logs group) k j) ∧
      ∀ i j m n, DeliveredIn logs i group m → e ∈ m.events → DeliveredIn logs j group n →
        e ∈ n.events → i = j ∧ m = n := by
  have hWatches : Watches store id group e.project rule :=
    ⟨hRule, hEnabled, hNames, hSupported, hCovered⟩
  have hTells := tells_iff_of_recorded hPlay hSource hDated hWatches (Nat.le_refl _) hNew hRound
    hRow hFresh
  refine ⟨hTells, ?_⟩
  intro i j m n hm he hn he'
  have hSame : i = j := ((hTells i).mp ⟨m, hm, he⟩).unique ((hTells j).mp ⟨n, hn, he'⟩)
  subst hSame
  refine ⟨rfl, ?_⟩
  obtain ⟨reports, hReports, first, hFirst, _, _, hBuilt⟩ := hm
  obtain ⟨reports', hReports', second, hSecond, _, _, hBuilt'⟩ := hn
  rw [hReports, Option.some.injEq] at hReports'
  subst hReports'
  obtain ⟨report, rfl⟩ := exists_eq_singleton_of_play hPlay hDated hWatches (Nat.le_refl _) reports
    (List.mem_of_getElem? hReports)
  rw [List.mem_singleton] at hFirst hSecond
  rw [hFirst] at hBuilt
  rw [hSecond, hBuilt, Option.some.injEq] at hBuilt'
  exact hBuilt'

end

namespace Sample

def round (failing : List String) (t : Instant) (findings : List Finding) :
    Round Publisher.Attempts :=
  ⟨findings, [], executor failing, t, .ticking (.ofInstant t) 0, desk⟩

theorem stands_round (failing : List String) (t : Instant) (findings : List Finding) :
    (round failing t findings).clock.Stands t := Clock.stands_ticking t

/-- A delivery that fails, one that succeeds and a run without news. -/
def rounds : List (Round Publisher.Attempts) :=
  [round ["NEW_VULNERABILITY"] (instant 200) [finding 1 "p1" (instant 150)],
    round [] (instant 300) [finding 2 "p2" (instant 250)], round [] (instant 400) []]

def sparing : Rule :=
  { rule ["NEW_VULNERABILITY"] (instant 100) with onlyWithUpdates := true }

end Sample

theorem delivered_exactly_once_after_a_failure :
    ∃ logs, play "r1" (Sample.store Sample.sparing []) Sample.rounds = .ok logs ∧
      ∀ j, Tells logs "NEW_VULNERABILITY" (Sample.finding 1 "p1" (Sample.instant 150)).toEvent j ↔
        j = 1 := by
  have hTest : (match play "r1" (Sample.store Sample.sparing []) Sample.rounds with
      | .ok logs => decide (¬Succeeds logs "NEW_VULNERABILITY" 0 ∧
          Succeeds logs "NEW_VULNERABILITY" 1)
      | .error _ => false) = true := by decide +kernel
  split at hTest
  · rename_i logs hPlay
    obtain ⟨hFails, hSucceeds⟩ := of_decide_eq_true hTest
    have hFirst : FirstFrom (Succeeds logs "NEW_VULNERABILITY") 0 1 := by
      refine ⟨Nat.zero_le 1, hSucceeds, fun i _ hi => ?_⟩
      rw [Nat.lt_one_iff.mp hi]
      exact hFails
    have hDated : Dated (Group.ofName "NEW_VULNERABILITY") Sample.sparing.watermark Sample.rounds :=
      ⟨by decide, Sample.stands_round _ _ _, by decide, by decide, Sample.stands_round _ _ _,
        by decide, by decide, Sample.stands_round _ _ _, by decide, trivial⟩
    have hSource : ∀ round ∈ Sample.rounds, round.executor.source = Store.eventSource := by
      simp [Sample.rounds, Sample.round, Sample.executor]
    have hRow : (Sample.finding 1 "p1" (Sample.instant 150)).toEvent ∈
        (Sample.round ["NEW_VULNERABILITY"] (Sample.instant 200)
          [Sample.finding 1 "p1" (Sample.instant 150)]).events .vulnerability :=
      List.mem_singleton_self _
    have hRule : (Sample.store Sample.sparing []).rule? "r1" = some Sample.sparing := rfl
    have hTells := (delivered_exactly_once hRule rfl rfl (by decide) hSource hDated hPlay
      (k := 0) rfl hRow List.not_mem_nil rfl (by decide +kernel)).1
    refine ⟨logs, hPlay, fun j => (hTells j).trans ⟨fun h => h.unique hFirst, ?_⟩⟩
    rintro rfl
    exact hFirst
  · cases hTest

end EventDigest

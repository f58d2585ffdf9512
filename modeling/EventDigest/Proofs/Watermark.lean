import EventDigest.Proofs.Groups

/-! # The watermark of a run

A run that returns has read the watermark of its rule once, at its start, and ends in one of three
ways: its groups give no reason to move the watermark, the clock has not passed it, or it moves to
the last reading of the clock. Nothing else in the store changes.
-/
set_option autoImplicit false
namespace EventDigest
open Time
variable {β : Type}

namespace Time.Clock

def last (clock : Clock) : Stamp := clock.reading (clock.taken - 1)

def Stands (clock : Clock) (t : Instant) : Prop := ∀ n, (clock.reading n).toInstant = .ok t

theorem shift_zero (t : Instant) : t.shift 0 = .ok t := by
  simp [Instant.shift, Instant.ofMicros?, t.inSpan]

theorem stands_ticking (t : Instant) : (ticking (.ofInstant t) 0).Stands t := by
  intro n
  have hLater : (Stamp.ofInstant t).later (n * 0) = .ok (.ofInstant t) := by
    rw [Int.mul_zero, Stamp.later, Stamp.ofInstant, shift_zero]
    rfl
  simp only [ticking, hLater]
  exact shift_zero t

end Time.Clock

/-- No group failed, or one was delivered all the same. -/
def Settles (results : List GroupResult) : Prop :=
  (∀ result ∈ results, result.status ≠ .failed ∧ result.status ≠ .unsupported) ∨
    ∃ result ∈ results, result.status = .published

theorem shouldAdvance_iff {results : List GroupResult} :
    shouldAdvance results = true ↔ Settles results := by
  simp [shouldAdvance, anyError, anySuccess, Status.isError, Status.isSuccess, Settles]

theorem settles_singleton_iff {result : GroupResult} :
    Settles [result] ↔ result.status ≠ .failed ∧ result.status ≠ .unsupported := by
  rcases result with ⟨name, status, message⟩
  cases status <;> simp [Settles]

namespace Rule

/-- The change leaves the identifier of every rule as it is. -/
def KeepsId (change : Rule → Rule) : Prop := ∀ rule, (change rule).id = rule.id

theorem keepsId_watermark (t : Instant) : KeepsId fun rule => { rule with watermark := t } :=
  fun _ => rfl

end Rule

namespace Store

theorem read_eq_ok {α : Type} {store : Store} {table : Table} {rows : Store → α} {a : α}
    (h : store.read table rows = .ok a) : rows store = a := by
  unfold read at h
  split at h
  · cases h
  · exact Except.ok.inj h

theorem loadRule_eq_ok {store : Store} {id : String} {rule : Rule}
    (h : store.loadRule id = .ok rule) : store.rule? id = some rule := by
  obtain ⟨found, hRead, h⟩ := Answer.bind_eq_ok_iff.mp h
  have hFound := read_eq_ok hRead
  cases found with
  | none => cases h
  | some other =>
    rw [Answer.pure_eq_ok_iff] at h
    rw [hFound, h]

theorem id_of_rule? {store : Store} {id : String} {rule : Rule} (h : store.rule? id = some rule) :
    rule.id = id := by
  simpa using List.find?_some h

/-- The store with one rule changed. -/
def changing (store : Store) (id : String) (change : Rule → Rule) : Store :=
  { store with rules := store.rules.map fun rule => if rule.id = id then change rule else rule }

section
variable {store : Store} {id other : String} {change : Rule → Rule}
  (hId : Rule.KeepsId change)
include hId

theorem rule?_changing (store : Store) (id other : String) :
    (store.changing id change).rule? other = (store.rule? other).map fun rule =>
      if rule.id = id then change rule else rule := by
  rw [rule?, changing, List.find?_map]
  congr 2
  funext rule
  dsimp only [Function.comp]
  split
  · rw [hId rule]
  · rfl

theorem rule?_changing_self (store : Store) (id : String) :
    (store.changing id change).rule? id = (store.rule? id).map change := by
  rw [rule?_changing hId]
  cases hRule : store.rule? id with
  | none => rfl
  | some rule => rw [Option.map_some, Option.map_some, if_pos (id_of_rule? hRule)]

theorem rule?_changing_of_ne (hOther : other ≠ id) :
    (store.changing id change).rule? other = store.rule? other := by
  rw [rule?_changing hId]
  cases hRule : store.rule? other with
  | none => rfl
  | some rule => rw [Option.map_some, if_neg (id_of_rule? hRule ▸ hOther)]

theorem loadRule_changing (store : Store) (id : String) :
    (store.changing id change).loadRule id = (store.loadRule id).map change := by
  have hObstacle : (store.changing id change).obstacle? (.read .rules) .rules =
      store.obstacle? (.read .rules) .rules := rfl
  rw [loadRule, loadRule, read, read, hObstacle, rule?_changing_self hId]
  cases store.obstacle? (.read .rules) .rules with
  | some message => rfl
  | none => cases store.rule? id <;> rfl

/-- Two changes are made in either order, if they are of different rules or do not interfere. -/
theorem changing_comm {also : Rule → Rule} (hAlso : Rule.KeepsId also)
    (hSame : other = id → ∀ rule, also (change rule) = change (also rule)) :
    (store.changing id change).changing other also =
      (store.changing other also).changing id change := by
  refine congrArg (fun rules => { store with rules })
    (List.map_map.trans (Eq.trans ?_ List.map_map.symm))
  apply List.map_congr_left
  intro rule _
  by_cases h : rule.id = id
  · by_cases hOther : rule.id = other
    · simp only [Function.comp_apply, if_pos h, if_pos hOther, hId rule, hAlso rule]
      exact hSame (hOther.symm.trans h) rule
    · simp only [Function.comp_apply, if_pos h, if_neg hOther, hId rule]
  · by_cases hOther : rule.id = other
    · simp only [Function.comp_apply, if_neg h, if_pos hOther, hAlso rule]
    · simp only [Function.comp_apply, if_neg h, if_neg hOther]

theorem changing_changing (also : Rule → Rule) :
    (store.changing id change).changing id also =
      store.changing id fun rule => also (change rule) := by
  refine congrArg (fun rules => { store with rules }) (List.map_map.trans ?_)
  apply List.map_congr_left
  intro rule _
  by_cases h : rule.id = id
  · simp only [Function.comp_apply, if_pos h, hId rule]
  · simp only [Function.comp_apply, if_neg h]

end

theorem rule?_withWatermark (store : Store) (id : String) (t : Instant) :
    (store.withWatermark id t).rule? id =
      (store.rule? id).map fun rule => { rule with watermark := t } :=
  rule?_changing_self (Rule.keepsId_watermark t) store id

theorem below_congr {store other : Store} (h : other.projects = store.projects) (fuel : Nat)
    (seen level : List String) : other.below fuel seen level = store.below fuel seen level := by
  have hChildren : ∀ parents, other.activeChildren parents = store.activeChildren parents := by
    intro parents
    rw [activeChildren, activeChildren, h]
  induction fuel generalizing seen level with
  | zero => rfl
  | succ fuel ih =>
    cases level with
    | nil => rfl
    | cons id rest => simp only [below, hChildren, ih]

/-- The scope of a rule depends on the projects, and of the rule on its assignments alone. -/
theorem scope_congr {store other : Store} {rule changed : Rule}
    (hProjects : other.projects = store.projects) (hAssigned : changed.projects = rule.projects)
    (hChildren : changed.notifyChildren = rule.notifyChildren) :
    other.scope changed = store.scope rule := by
  simp only [scope, assigned, descendants, hProjects, hAssigned, hChildren, below_congr hProjects]

/-- A request to move a watermark is refused, or it moves forward. -/
theorem advance_eq_ok {store : Store} {id : String} {requested : Stamp} {rule : Rule}
    {advance : Advance} (hRule : store.rule? id = some rule)
    (h : store.advance id requested = .ok advance) :
    ∃ now, requested.toInstant = .ok now ∧
      (now ≤ rule.watermark ∧ advance.moved = false ∧ advance.store = store ∨
        rule.watermark < now ∧ advance.moved = true ∧
          advance.store = store.withWatermark id now) := by
  obtain ⟨loaded, hLoaded, h⟩ := Answer.bind_eq_ok_iff.mp h
  obtain ⟨now, hNow, h⟩ := Answer.bind_eq_ok_iff.mp h
  have hSame : loaded = rule := by
    rw [loadRule_eq_ok hLoaded] at hRule
    exact Option.some.inj hRule
  subst hSame
  rw [Fault.ofSpan_eq_ok_iff] at hNow
  refine ⟨now, hNow, ?_⟩
  split at h
  · rename_i hBehind
    rw [← Answer.pure_eq_ok_iff.mp h]
    exact .inl ⟨hBehind, rfl, rfl⟩
  · rename_i hAhead
    rw [← Answer.pure_eq_ok_iff.mp h]
    exact .inr ⟨Nat.lt_of_not_le hAhead, rfl, rfl⟩

end Store

namespace Executor

/-- How a run of a rule with these results can end, and the watermark that it can report. -/
inductive Concludes (rule : Rule) (results : List GroupResult) (world after : World β) :
    Option Instant → Prop
  | left (hResults : ¬Settles results) (hStore : after.store = world.store) :
    Concludes rule results world after none
  | refused (now : Instant) (hResults : Settles results)
    (hTaken : world.clock.taken < after.clock.taken)
    (hNow : after.clock.last.toInstant = .ok now) (hBehind : now ≤ rule.watermark)
    (hStore : after.store = world.store) : Concludes rule results world after none
  | moved (now : Instant) (hResults : Settles results)
    (hTaken : world.clock.taken < after.clock.taken)
    (hNow : after.clock.last.toInstant = .ok now) (hAhead : rule.watermark < now)
    (hStore : after.store = world.store.withWatermark rule.id now) :
    Concludes rule results world after (some now)

variable {rule : Rule} {results : List GroupResult} {world after : World β}
  {watermark : Option Instant}

theorem Concludes.last_read (h : Concludes rule results world after watermark)
    (hSettles : Settles results) :
    world.clock.taken < after.clock.taken ∧ ∃ now, after.clock.last.toInstant = .ok now := by
  cases h with
  | left hResults => exact (hResults hSettles).elim
  | refused now _ hTaken hNow => exact ⟨hTaken, now, hNow⟩
  | moved now _ hTaken hNow => exact ⟨hTaken, now, hNow⟩

theorem Concludes.eq_some_iff (h : Concludes rule results world after watermark) (now : Instant) :
    watermark = some now ↔
      Settles results ∧ after.clock.last.toInstant = .ok now ∧ rule.watermark < now := by
  cases h with
  | left hResults => simp [hResults]
  | refused last hResults _ hNow hBehind =>
    have hNotAhead : ¬rule.watermark < last := Nat.not_lt_of_le hBehind
    constructor
    · intro h
      cases h
    · rintro ⟨_, hLast, hAhead⟩
      rw [hNow, Except.ok.injEq] at hLast
      exact (hNotAhead (hLast ▸ hAhead)).elim
  | moved last hResults _ hNow hAhead =>
    rw [hNow, Option.some.injEq, Except.ok.injEq]
    constructor
    · rintro rfl
      exact ⟨hResults, rfl, hAhead⟩
    · exact fun h => h.2.1

theorem Concludes.rules_only (h : Concludes rule results world after watermark) :
    after.store = { world.store with rules := after.store.rules } := by
  cases h with
  | left _ hStore => rw [hStore]
  | refused _ _ _ _ _ hStore => rw [hStore]
  | moved _ _ _ _ _ hStore => rw [hStore, Store.withWatermark]

theorem Concludes.rule?_eq (hRule : world.store.rule? rule.id = some rule)
    (h : Concludes rule results world after watermark) :
    after.store.rule? rule.id = some { rule with watermark := watermark.getD rule.watermark } := by
  cases h with
  | left _ hStore => rw [hStore, hRule, Option.getD_none]
  | refused _ _ _ _ _ hStore => rw [hStore, hRule, Option.getD_none]
  | moved now _ _ _ _ hStore =>
    rw [hStore, Store.rule?_withWatermark, hRule, Option.map_some, Option.getD_some]

theorem Concludes.watermark?_eq (hRule : world.store.rule? rule.id = some rule)
    (h : Concludes rule results world after watermark) :
    after.store.watermark? rule.id = some (watermark.getD rule.watermark) := by
  rw [Store.watermark?, h.rule?_eq hRule, Option.map_some]

theorem Concludes.of_follows {mid : World β} (hFollows : world.Follows mid)
    (h : Concludes rule results mid after watermark) :
    Concludes rule results world after watermark := by
  cases h with
  | left hResults hStore => exact .left hResults (hStore.trans hFollows.store_eq)
  | refused now hResults hTaken hNow hBehind hStore =>
    exact .refused now hResults (Nat.lt_of_le_of_lt hFollows.taken_le hTaken) hNow hBehind
      (hStore.trans hFollows.store_eq)
  | moved now hResults hTaken hNow hAhead hStore =>
    exact .moved now hResults (Nat.lt_of_le_of_lt hFollows.taken_le hTaken) hNow hAhead
      (by rw [hStore, hFollows.store_eq])

theorem advance_returns {answer : Option Instant}
    (hRule : world.store.rule? rule.id = some rule)
    (h : (advance rule).Returns world answer after) :
    after.clock = { world.clock with taken := world.clock.taken + 1 } ∧
      ∃ now, after.clock.last.toInstant = .ok now ∧
        (now ≤ rule.watermark ∧ answer = none ∧ after.store = world.store ∨
          rule.watermark < now ∧ answer = some now ∧
            after.store = world.store.withWatermark rule.id now) := by
  obtain ⟨stamp, read, hRead, h⟩ := Run.returns_bind_iff.mp h
  obtain ⟨rfl, rfl⟩ := Run.returns_now_iff.mp hRead
  obtain ⟨advance, _, hQuery, h⟩ := Run.returns_bind_iff.mp h
  obtain ⟨hAdvance, rfl⟩ := Run.returns_query_iff.mp hQuery
  obtain ⟨_, _, hModify, h⟩ := Run.returns_bind_iff.mp h
  obtain rfl := Run.returns_modify_iff.mp hModify
  obtain ⟨_, _, hLog, h⟩ := Run.returns_bind_iff.mp h
  obtain rfl := Run.returns_logAll_iff.mp hLog
  obtain ⟨rfl, rfl⟩ := Run.returns_pure_iff.mp h
  obtain ⟨now, hNow, hMoved⟩ := Store.advance_eq_ok hRule hAdvance
  refine ⟨rfl, now, hNow, ?_⟩
  rcases hMoved with ⟨hBehind, hStays, hStore⟩ | ⟨hAhead, hMoves, hStore⟩
  · refine .inl ⟨hBehind, ?_, hStore⟩
    simp [hStays]
  · refine .inr ⟨hAhead, ?_, hStore⟩
    simp [hMoves, hNow, Except.toOption]

theorem conclude_returns {outcome : Outcome} (hRule : world.store.rule? rule.id = some rule)
    (h : (conclude rule results).Returns world outcome after) :
    outcome.windowStart = some rule.watermark ∧ outcome.results = results ∧
      outcome.advanced = outcome.newWatermark.isSome ∧
      after.clock.reading = world.clock.reading ∧
      Concludes rule results world after outcome.newWatermark := by
  unfold conclude at h
  split at h
  · rename_i hShould
    rw [shouldAdvance_iff] at hShould
    obtain ⟨_, _, hAdvance, h⟩ := Run.returns_bind_iff.mp h
    obtain ⟨_, _, hLog, h⟩ := Run.returns_bind_iff.mp h
    obtain rfl := Run.returns_modify_iff.mp hLog
    obtain ⟨rfl, rfl⟩ := Run.returns_pure_iff.mp h
    obtain ⟨hClock, now, hNow, hMoved⟩ := advance_returns hRule hAdvance
    have hReading := congrArg Clock.reading hClock
    have hTaken := congrArg Clock.taken hClock
    refine ⟨rfl, rfl, rfl, hReading, ?_⟩
    rcases hMoved with ⟨hBehind, rfl, hStore⟩ | ⟨hAhead, rfl, hStore⟩
    · exact .refused now hShould (by simp [hTaken]) hNow hBehind hStore
    · exact .moved now hShould (by simp [hTaken]) hNow hAhead hStore
  · rename_i hShould
    rw [shouldAdvance_iff] at hShould
    obtain ⟨_, _, hLog, h⟩ := Run.returns_bind_iff.mp h
    obtain rfl := Run.returns_modify_iff.mp hLog
    obtain ⟨rfl, rfl⟩ := Run.returns_pure_iff.mp h
    exact ⟨rfl, rfl, rfl, rfl, .left hShould rfl⟩

/-- What concludes a run can fail on the last reading of the clock alone. -/
theorem fault_of_conclude {results : List GroupResult} {fault : Fault}
    (hLoaded : world.store.loadRule rule.id = .ok rule)
    (h : (conclude rule results).Fails world fault) :
    fault = .outOfSpan ∧ Settles results ∧
      (world.clock.reading world.clock.taken).toInstant = .error .outOfSpan := by
  unfold conclude at h
  split at h
  · rename_i hShould
    have hAdvance := Run.fails_of_sure_next (fun _ => (Run.sure_modify _).bind fun _ =>
      Run.sure_pure _) h
    obtain ⟨now, _, hNow, hAdvance⟩ := Run.sure_now.of_fails_bind hAdvance
    obtain ⟨rfl, rfl⟩ := Run.returns_now_iff.mp hNow
    have hQuery := Run.fails_of_sure_next (fun _ => (Run.sure_modify _).bind fun _ =>
      (Run.sure_modify _).bind fun _ => Run.sure_pure _) hAdvance
    rw [Run.fails_query_iff, Store.advance, hLoaded] at hQuery
    cases hTime : (world.clock.reading world.clock.taken).toInstant with
    | error cause =>
      rw [hTime] at hQuery
      cases hQuery
      exact ⟨rfl, shouldAdvance_iff.mp hShould, rfl⟩
    | ok t =>
      rw [hTime] at hQuery
      rcases Answer.bind_eq_error_iff.mp hQuery with h | ⟨_, _, h⟩
      · cases h
      · rcases Answer.bind_eq_error_iff.mp h with h | ⟨_, _, h⟩
        · cases h
        · split at h
          · cases h
          · cases h
  · exact (((Run.sure_modify _).bind fun _ => Run.sure_pure _) _ _ h).elim

end Executor

end EventDigest

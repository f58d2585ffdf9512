import EventDigest.Proofs.Performed
import EventDigest.Proofs.Reachable
import EventDigest.Worker
import Mathlib.Order.Bounds.Defs

/-! # Watermarks move forward

A watermark moves to a later time or stays, whatever is asked of the store and whatever the clocks
show. After a number of requests for one rule it is at the latest time among the requested ones and
the one where it stood, in whichever order the requests came.
-/
set_option autoImplicit false
namespace EventDigest
open Time
variable {α β γ : Type}

theorem Time.Instant.le_antisymm {s t : Instant} (h : s ≤ t) (hBack : t ≤ s) : s = t := by
  obtain ⟨m, hm⟩ := s
  obtain ⟨n, hn⟩ := t
  have hSame : m = n := Nat.le_antisymm h hBack
  subst hSame
  rfl

namespace Store
variable {store mid after last : Store} {id : String} {first second : Option Instant}

theorem rule?_withWatermark_of_ne {other : String} (hOther : other ≠ id) (t : Instant) :
    (store.withWatermark id t).rule? other = store.rule? other :=
  rule?_changing_of_ne (Rule.keepsId_watermark t) hOther

theorem withWatermark_withWatermark (s t : Instant) :
    (store.withWatermark id s).withWatermark id t = store.withWatermark id t :=
  changing_changing (Rule.keepsId_watermark s) fun rule => { rule with watermark := t }

/-- What requests for the watermark of a rule can do to the store: they leave it as it is, or move
the watermark to a later time. -/
inductive Moves (id : String) (store : Store) : Option Instant → Store → Prop
  | kept : Moves id store none store
  | moved (rule : Rule) (t : Instant) (hRule : store.rule? id = some rule)
    (hAhead : rule.watermark < t) : Moves id store (some t) (store.withWatermark id t)

theorem Moves.trans (h₁ : Moves id store first mid) (h₂ : Moves id mid second after) :
    Moves id store (second.or first) after := by
  cases h₂ with
  | kept => exact h₁
  | moved changed t hChanged hFurther =>
    rw [Option.some_or]
    cases h₁ with
    | kept => exact .moved changed t hChanged hFurther
    | moved rule s hRule hAhead =>
      rw [rule?_withWatermark, hRule, Option.map_some, Option.some.injEq] at hChanged
      subst hChanged
      rw [withWatermark_withWatermark]
      exact .moved rule t hRule (Nat.lt_trans hAhead hFurther)

theorem Moves.rules_only (h : Moves id store first after) :
    after = { store with rules := after.rules } := by
  cases h with
  | kept => rfl
  | moved => rfl

theorem Moves.rule?_of_ne (h : Moves id store first after) {other : String} (hOther : other ≠ id) :
    after.rule? other = store.rule? other := by
  cases h with
  | kept => rfl
  | moved _ t => exact rule?_withWatermark_of_ne hOther t

theorem watermark?_withWatermark {rule : Rule} (hRule : store.rule? id = some rule) (t : Instant) :
    (store.withWatermark id t).watermark? id = some t := by
  rw [watermark?, rule?_withWatermark, hRule, Option.map_some, Option.map_some]

theorem watermark?_of_rule? {rule : Rule} (hRule : store.rule? id = some rule) :
    store.watermark? id = some rule.watermark := by
  rw [watermark?, hRule, Option.map_some]

/-- Where the watermark came to rest tells what became of the store. -/
theorem Moves.eq_of_watermark? (h : Moves id store first after) (hLast : Moves id store second last)
    (hSame : after.watermark? id = last.watermark? id) : first = second ∧ after = last := by
  cases h with
  | kept =>
    cases hLast with
    | kept => exact ⟨rfl, rfl⟩
    | moved rule t hRule hAhead =>
      rw [watermark?_of_rule? hRule, watermark?_withWatermark hRule, Option.some.injEq] at hSame
      exact (Nat.lt_irrefl _ (hSame ▸ hAhead)).elim
  | moved rule t hRule hAhead =>
    cases hLast with
    | kept =>
      rw [watermark?_of_rule? hRule, watermark?_withWatermark hRule, Option.some.injEq] at hSame
      exact (Nat.lt_irrefl _ (hSame ▸ hAhead)).elim
    | moved other s =>
      rw [watermark?_withWatermark hRule, watermark?_withWatermark hRule,
        Option.some.injEq] at hSame
      subst hSame
      exact ⟨rfl, rfl⟩

/-- Between the two no rule is lost and no watermark falls. -/
def Forward (before after : Store) : Prop :=
  ∀ id w, before.watermark? id = some w → ∃ v, after.watermark? id = some v ∧ w ≤ v

theorem Forward.refl (store : Store) : store.Forward store :=
  fun _ w h => ⟨w, h, Nat.le_refl _⟩

theorem Forward.trans (h₁ : store.Forward mid) (h₂ : mid.Forward after) : store.Forward after := by
  intro id w hStored
  obtain ⟨v, hMid, hUp⟩ := h₁ id w hStored
  obtain ⟨u, hAfter, hFurther⟩ := h₂ id v hMid
  exact ⟨u, hAfter, Nat.le_trans hUp hFurther⟩

theorem Moves.forward (h : Moves id store first after) : store.Forward after := by
  intro other w hStored
  by_cases hOther : other = id
  · subst hOther
    cases h with
    | kept => exact ⟨w, hStored, Nat.le_refl _⟩
    | moved rule t hRule hAhead =>
      rw [watermark?_of_rule? hRule, Option.some.injEq] at hStored
      subst hStored
      exact ⟨t, watermark?_withWatermark hRule t, Nat.le_of_lt hAhead⟩
  · rw [watermark?, ← h.rule?_of_ne hOther] at hStored
    exact ⟨w, hStored, Nat.le_refl _⟩

theorem exists_rule_of_advance {requested : Stamp} {advance : Advance}
    (h : store.advance id requested = .ok advance) : ∃ rule, store.rule? id = some rule := by
  obtain ⟨rule, hLoaded, _⟩ := Answer.bind_eq_ok_iff.mp h
  exact ⟨rule, loadRule_eq_ok hLoaded⟩

theorem moves_of_advance {requested : Stamp} {advance : Advance}
    (h : store.advance id requested = .ok advance) :
    ∃ moved, Moves id store moved advance.store := by
  obtain ⟨rule, hRule⟩ := exists_rule_of_advance h
  obtain ⟨t, _, ⟨_, _, hStore⟩ | ⟨hAhead, _, hStore⟩⟩ := advance_eq_ok hRule h
  · rw [hStore]
    exact ⟨none, .kept⟩
  · rw [hStore]
    exact ⟨some t, .moved rule t hRule hAhead⟩

/-- The answer to a request says whether it raised the watermark; beside that watermark it changed
nothing. -/
structure Answers (store : Store) (id : String) (advance : Advance) : Prop where
  moved_iff : advance.moved = true ↔ ∃ w v, store.watermark? id = some w ∧
    advance.store.watermark? id = some v ∧ w < v
  unmoved : advance.moved = false → advance.store = store
  others : ∀ other, other ≠ id → advance.store.rule? other = store.rule? other
  rules_only : advance.store = { store with rules := advance.store.rules }

theorem answers_of_advance {requested : Stamp} {advance : Advance}
    (h : store.advance id requested = .ok advance) : store.Answers id advance := by
  obtain ⟨_, hMoves⟩ := moves_of_advance h
  obtain ⟨rule, hRule⟩ := exists_rule_of_advance h
  obtain ⟨t, _, ⟨_, hMoved, hStore⟩ | ⟨hAhead, hMoved, hStore⟩⟩ := advance_eq_ok hRule h
  · refine ⟨?_, fun _ => hStore, fun _ => hMoves.rule?_of_ne, hMoves.rules_only⟩
    rw [hMoved, hStore]
    constructor
    · intro hTrue
      cases hTrue
    · rintro ⟨w, v, hBefore, hAfter, hRaised⟩
      rw [hBefore, Option.some.injEq] at hAfter
      exact (Nat.lt_irrefl _ (hAfter ▸ hRaised)).elim
  · refine ⟨?_, ?_, fun _ => hMoves.rule?_of_ne, hMoves.rules_only⟩
    · rw [hMoved, hStore]
      refine iff_of_true rfl ⟨rule.watermark, t, watermark?_of_rule? hRule, ?_, hAhead⟩
      exact watermark?_withWatermark hRule t
    · intro hUnmoved
      rw [hMoved] at hUnmoved
      cases hUnmoved

theorem advance_of_toInstant (hTable : store.Readable .rules) {rule : Rule}
    (hRule : store.rule? id = some rule) {requested : Stamp} {t : Instant}
    (hTime : requested.toInstant = .ok t) :
    ∃ advance, store.advance id requested = .ok advance := by
  have hAsked : Fault.ofSpan requested.toInstant = .ok t := (Fault.ofSpan_eq_ok_iff ..).mpr hTime
  by_cases hBehind : t.micros ≤ rule.watermark.micros
  · refine ⟨⟨store, false, [refusal id rule.watermark t]⟩, ?_⟩
    rw [advance, hTable.loadRule_eq hRule, hAsked]
    exact if_pos hBehind
  · refine ⟨⟨store.withWatermark id t, true, []⟩, ?_⟩
    rw [advance, hTable.loadRule_eq hRule, hAsked]
    exact if_neg hBehind

theorem advance_of_overflow (hTable : store.Readable .rules) {rule : Rule}
    (hRule : store.rule? id = some rule) {requested : Stamp}
    (hTime : requested.toInstant = .error .outOfSpan) :
    store.advance id requested = .error .outOfSpan := by
  rw [advance, hTable.loadRule_eq hRule, hTime]
  rfl

/-- The store after a request; one that cannot be answered leaves it as it was. -/
def request (store : Store) (id : String) (requested : Stamp) : Store :=
  match store.advance id requested with
  | .ok advance => advance.store
  | .error _ => store

def requests (store : Store) (id : String) (stamps : List Stamp) : Store :=
  stamps.foldl (fun mid requested => mid.request id requested) store

theorem requests_append_singleton (store : Store) (id : String) (stamps : List Stamp)
    (requested : Stamp) : store.requests id (stamps ++ [requested]) =
      (store.requests id stamps).request id requested := by
  rw [requests, List.foldl_append]
  rfl

theorem moves_request (store : Store) (id : String) (requested : Stamp) :
    ∃ moved, Moves id store moved (store.request id requested) := by
  unfold request
  split
  · rename_i advance hAdvance
    exact moves_of_advance hAdvance
  · exact ⟨none, .kept⟩

theorem moves_requests (store : Store) (id : String) (stamps : List Stamp) :
    ∃ moved, Moves id store moved (store.requests id stamps) := by
  induction stamps generalizing store with
  | nil => exact ⟨none, .kept⟩
  | cons requested rest ih =>
    obtain ⟨_, hFirst⟩ := moves_request store id requested
    obtain ⟨_, hRest⟩ := ih (store.request id requested)
    exact ⟨_, hFirst.trans hRest⟩

theorem Moves.readable (h : Moves id store first after) {table : Table}
    (hTable : store.Readable table) : after.Readable table := by
  rw [h.rules_only]
  exact hTable

/-- The times that a watermark can be at: where it stood, and those that were asked for. -/
def Candidates (w : Instant) (stamps : List Stamp) : Set Instant :=
  { t | t = w ∨ ∃ requested ∈ stamps, requested.toInstant = .ok t }

theorem mem_candidates_cons_iff {w t : Instant} {requested : Stamp} {rest : List Stamp} :
    t ∈ Candidates w (requested :: rest) ↔
      t ∈ Candidates w rest ∨ requested.toInstant = .ok t := by
  constructor
  · rintro (rfl | ⟨other, hOther, hAsked⟩)
    · exact .inl (.inl rfl)
    · rcases List.mem_cons.mp hOther with rfl | hLater
      · exact .inr hAsked
      · exact .inl (.inr ⟨other, hLater, hAsked⟩)
  · rintro ((rfl | ⟨other, hLater, hAsked⟩) | hAsked)
    · exact .inl rfl
    · exact .inr ⟨other, List.mem_cons_of_mem _ hLater, hAsked⟩
    · exact .inr ⟨requested, List.mem_cons_self .., hAsked⟩

theorem isGreatest_candidates_nil (w : Instant) : IsGreatest (Candidates w []) w := by
  refine ⟨.inl rfl, ?_⟩
  rintro t (rfl | ⟨_, hNone, _⟩)
  · exact Nat.le_refl _
  · exact (List.not_mem_nil hNone).elim

/-- The latest of all times is the latest of the later ones and of the latest so far. -/
theorem isGreatest_candidates_cons {w u v : Instant} {requested : Stamp} {rest : List Stamp}
    (hFirst : IsGreatest (Candidates w [requested]) u) (hRest : IsGreatest (Candidates u rest) v) :
    IsGreatest (Candidates w (requested :: rest)) v := by
  have hUp : u ≤ v := hRest.2 (.inl rfl)
  constructor
  · rcases hRest.1 with rfl | hLater
    · rcases mem_candidates_cons_iff.mp hFirst.1 with (rfl | ⟨_, hNone, _⟩) | hAsked
      · exact .inl rfl
      · exact (List.not_mem_nil hNone).elim
      · exact mem_candidates_cons_iff.mpr (.inr hAsked)
    · exact mem_candidates_cons_iff.mpr (.inl (.inr hLater))
  · intro t ht
    rcases mem_candidates_cons_iff.mp ht with (rfl | hLater) | hAsked
    · exact Nat.le_trans (hFirst.2 (.inl rfl)) hUp
    · exact hRest.2 (.inr hLater)
    · exact Nat.le_trans (hFirst.2 (mem_candidates_cons_iff.mpr (.inr hAsked))) hUp

theorem isGreatest_request (hTable : store.Readable .rules) {w : Instant}
    (hStored : store.watermark? id = some w) (requested : Stamp) :
    ∃ v, (store.request id requested).watermark? id = some v ∧
      IsGreatest (Candidates w [requested]) v := by
  obtain ⟨rule, hRule, rfl⟩ := Option.map_eq_some_iff.mp hStored
  have hOld := isGreatest_candidates_nil rule.watermark
  cases hTime : requested.toInstant with
  | error fault =>
    refine ⟨rule.watermark, ?_, .inl rfl, ?_⟩
    · rw [request, advance_of_overflow hTable hRule hTime]
      exact hStored
    · intro t ht
      rcases mem_candidates_cons_iff.mp ht with hEarlier | hAsked
      · exact hOld.2 hEarlier
      · rw [hTime] at hAsked
        cases hAsked
  | ok asked =>
    have hUpper : ∀ v, rule.watermark ≤ v → asked ≤ v →
        v ∈ upperBounds (Candidates rule.watermark [requested]) := by
      intro v hAbove hReached t ht
      rcases mem_candidates_cons_iff.mp ht with hEarlier | hAsked
      · exact Nat.le_trans (hOld.2 hEarlier) hAbove
      · rw [hTime, Except.ok.injEq] at hAsked
        exact hAsked ▸ hReached
    obtain ⟨advance, hAdvance⟩ := advance_of_toInstant hTable hRule hTime
    have hRequest : store.request id requested = advance.store := by rw [request, hAdvance]
    rw [hRequest]
    obtain ⟨t, ht, ⟨hBehind, _, hStore⟩ | ⟨hAhead, _, hStore⟩⟩ := advance_eq_ok hRule hAdvance
    · rw [hTime, Except.ok.injEq] at ht
      rw [hStore]
      exact ⟨rule.watermark, hStored, .inl rfl, hUpper _ (Nat.le_refl _) (ht ▸ hBehind)⟩
    · rw [hTime, Except.ok.injEq] at ht
      subst ht
      rw [hStore]
      exact ⟨asked, watermark?_withWatermark hRule asked,
        mem_candidates_cons_iff.mpr (.inr hTime), hUpper _ (Nat.le_of_lt hAhead) (Nat.le_refl _)⟩

theorem isGreatest_requests (hTable : store.Readable .rules) {w : Instant}
    (hStored : store.watermark? id = some w) (stamps : List Stamp) :
    ∃ v, (store.requests id stamps).watermark? id = some v ∧
      IsGreatest (Candidates w stamps) v := by
  -- The watermark is general: each request finds the one that the request before it left.
  induction stamps generalizing store w with
  | nil => exact ⟨w, hStored, isGreatest_candidates_nil w⟩
  | cons requested rest ih =>
    obtain ⟨u, hMid, hFirst⟩ := isGreatest_request hTable hStored requested
    obtain ⟨_, hMoves⟩ := moves_request store id requested
    obtain ⟨v, hLast, hRest⟩ := ih (hMoves.readable hTable) hMid
    exact ⟨v, hLast, isGreatest_candidates_cons hFirst hRest⟩

theorem requests_perm (hTable : store.Readable .rules) {w : Instant}
    (hStored : store.watermark? id = some w) {stamps reordered : List Stamp}
    (hPerm : reordered.Perm stamps) : store.requests id reordered = store.requests id stamps := by
  obtain ⟨v, hLast, hGreatest⟩ := isGreatest_requests hTable hStored stamps
  obtain ⟨u, hOther, hAlso⟩ := isGreatest_requests hTable hStored reordered
  have hSame : Candidates w reordered = Candidates w stamps := by
    apply Set.ext
    intro t
    change (t = w ∨ _) ↔ (t = w ∨ _)
    simp only [hPerm.mem_iff]
  rw [hSame] at hAlso
  have hEq : u = v := Instant.le_antisymm (hGreatest.2 hAlso.1) (hAlso.2 hGreatest.1)
  obtain ⟨_, hMoves⟩ := moves_requests store id stamps
  obtain ⟨_, hReordered⟩ := moves_requests store id reordered
  have hWatermark : (store.requests id reordered).watermark? id =
      (store.requests id stamps).watermark? id := by rw [hLast, hOther, hEq]
  exact (hReordered.eq_of_watermark? hMoves hWatermark).2

end Store

namespace Run

/-- Whether it returns or ends with a fault, the run loses no rule and lowers no watermark. -/
def Forward (run : Run β α) : Prop :=
  ∀ world : World β, world.store.Forward (run.start world).2.store

theorem Quiet.forward {run : Run β α} (h : run.Quiet) : run.Forward := by
  intro world
  rw [(h world).store_eq]
  exact .refl world.store

theorem Forward.bind {run : Run β α} {next : α → Run β γ} (h : run.Forward)
    (hNext : ∀ a, (next a).Forward) : (run >>= next).Forward :=
  related_bind (fun world after => world.store.Forward after.store) .trans h hNext

/-- The only way in which a run writes: it asks for a watermark and keeps the store that it gets. -/
theorem forward_request (id : String) (requested : Stamp) (next : Store.Advance → Run β α)
    (hNext : ∀ advance, (next advance).Quiet) :
    (query (·.advance id requested) >>= fun advance =>
      (modify fun world => { world with store := advance.store }) >>= fun _ =>
        next advance).Forward := by
  intro world
  cases hAdvance : world.store.advance id requested with
  | error fault =>
    rw [start_bind, start_query, hAdvance]
    exact .refl world.store
  | ok advance =>
    rw [start_bind, start_query, hAdvance]
    change world.store.Forward ((next advance).start { world with store := advance.store }).2.store
    rw [(hNext advance { world with store := advance.store }).store_eq]
    obtain ⟨_, hMoves⟩ := Store.moves_of_advance hAdvance
    exact hMoves.forward

end Run

namespace Executor

theorem forward_advance (rule : Rule) : (advance rule : Run β (Option Instant)).Forward := by
  refine Run.quiet_now.forward.bind fun now => ?_
  apply Run.forward_request rule.id now fun advance => do
    Run.logAll advance.journal
    return if advance.moved then now.toInstant.toOption else none
  exact fun advance => (Run.quiet_logAll advance.journal).bind fun _ => Run.quiet_pure _

theorem forward_conclude (rule : Rule) (results : List GroupResult) :
    (conclude rule results : Run β Outcome).Forward := by
  unfold conclude
  split
  · exact (forward_advance rule).bind fun _ =>
      ((Run.quiet_log _).bind fun _ => Run.quiet_pure _).forward
  · exact ((Run.quiet_log _).bind fun _ => Run.quiet_pure _).forward

theorem forward_perform (executor : Executor β) (id : String) : (executor.perform id).Forward := by
  refine (Run.quiet_query _).forward.bind fun rule => ?_
  split
  · exact ((Run.quiet_log _).bind fun _ => Run.quiet_pure _).forward
  · exact (Run.quiet_log _).forward.bind fun _ =>
      (Run.quiet_query _).forward.bind fun projects =>
      (Run.quiet_query _).forward.bind fun targets =>
      (Run.quiet_ofExcept _).forward.bind fun groups =>
      (quiet_processGroups executor rule _ projects targets groups).forward.bind fun _ =>
      (forward_conclude rule _).bind fun _ => (Run.quiet_pure _).forward

theorem forward_execute (executor : Executor β) (id : String) : (executor.execute id).Forward :=
  (forward_perform executor id).bind fun _ => (Run.quiet_pure _).forward

/-- What a scheduler has run ends as the run does, but for an entry about its fault. -/
theorem exists_runScheduled (executor : Executor β) (id : String) (world : World β) :
    ∃ journal, ((executor.runScheduled (some id)).run world).2 =
      { ((executor.execute id).start world).2 with
        desk := { ((executor.execute id).start world).2.desk with journal } } := by
  have hStart : (executor.execute id).run.run world = (executor.execute id).start world := rfl
  rw [runScheduled, StateT.run_bind, Option.getD_some, hStart]
  rcases (executor.execute id).start world with ⟨fault | outcome, after⟩
  · exact ⟨_, rfl⟩
  · exact ⟨_, rfl⟩

theorem store_runScheduled (executor : Executor β) (id : String) (world : World β) :
    ((executor.runScheduled (some id)).run world).2.store =
      ((executor.execute id).start world).2.store := by
  obtain ⟨_, hEnd⟩ := executor.exists_runScheduled id world
  rw [hEnd]

end Executor

namespace Worker

theorem runEach_cons (executor : Executor β) (id : String) (rest : List String) (world : World β) :
    (runEach executor (id :: rest)).run world =
      (runEach executor rest).run ((executor.runScheduled (some id)).run world).2 := rfl

theorem forward_runEach (executor : Executor β) (ids : List String) (world : World β) :
    world.store.Forward ((runEach executor ids).run world).2.store := by
  induction ids generalizing world with
  | nil => exact .refl world.store
  | cons id rest ih =>
    have hFirst := executor.forward_execute id world
    rw [← Executor.store_runScheduled] at hFirst
    rw [runEach_cons]
    exact hFirst.trans (ih _)

theorem forward_runAll (executor : Executor β) : (runAll executor).Forward := by
  refine (Run.quiet_query _).forward.bind fun rules => ?_
  refine (Run.quiet_log _).forward.bind fun _ => ?_
  have hEach : (modify fun world =>
      ((runEach executor (rules.map (·.id))).run world).2 : Run β Unit).Forward :=
    fun world => forward_runEach executor _ world
  exact hEach.bind fun _ => (Run.quiet_pure _).forward

end Worker

/-- What can be asked for that may move a watermark. -/
inductive Call (β : Type)
  | advance (id : String) (requested : Stamp)
  | execute (executor : Executor β) (id : String)
  | runAll (executor : Executor β)

namespace Call

def run : Call β → Run β Unit
  | .advance id requested => do
    let advance ← Run.query (·.advance id requested)
    modify fun world => { world with store := advance.store }
    Run.logAll advance.journal
  | .execute executor id => do let _ ← executor.execute id
  | .runAll executor => do let _ ← Worker.runAll executor

/-- The world after a call, whether it returns or ends with a fault. -/
def carriedOut (call : Call β) (world : World β) : World β := (call.run.start world).2

def history (world : World β) (calls : List (Call β)) : World β :=
  calls.foldl (fun mid call => call.carriedOut mid) world

theorem forward_run (call : Call β) : call.run.Forward := by
  cases call with
  | advance id requested =>
    apply Run.forward_request id requested fun advance => Run.logAll advance.journal
    exact fun advance => Run.quiet_logAll advance.journal
  | execute executor id =>
    exact (executor.forward_execute id).bind fun _ => (Run.quiet_pure _).forward
  | runAll executor =>
    exact (Worker.forward_runAll executor).bind fun _ => (Run.quiet_pure _).forward

theorem forward_history (world : World β) (calls : List (Call β)) :
    world.store.Forward (history world calls).store := by
  induction calls generalizing world with
  | nil => exact .refl world.store
  | cons call rest ih => exact (call.forward_run world).trans (ih (call.carriedOut world))

theorem store_carriedOut_advance (id : String) (requested : Stamp) (world : World β) :
    ((Call.advance id requested).carriedOut world).store = world.store.request id requested := by
  unfold carriedOut run Store.request
  rw [Run.start_bind]
  cases hAdvance : world.store.advance id requested with
  | error fault =>
    rw [Run.start_query, hAdvance]
  | ok advance =>
    rw [Run.start_query, hAdvance]
    rfl

/-- The store after nothing but requests for one rule. -/
def storeAfterRequests (world : World β) (id : String) (requests : List Stamp) : Store :=
  (history world (requests.map (.advance id))).store

theorem storeAfterRequests_eq (world : World β) (id : String) (requests : List Stamp) :
    storeAfterRequests world id requests = world.store.requests id requests := by
  induction requests generalizing world with
  | nil => rfl
  | cons requested rest ih =>
    have hFirst := store_carriedOut_advance id requested world
    have hRest := ih ((Call.advance id requested).carriedOut world)
    rw [hFirst] at hRest
    exact hRest

end Call

/-- Over any calls on any rules no stored watermark falls, whatever was requested and whatever the
clock showed. After any requests for one rule its watermark is the latest time among those requested
and the one where it stood, in whichever order they came. Each request is answered by whether it
raised the watermark and touches no other rule; one that means no time of the calendar fails and
changes nothing. -/
theorem watermarks_move_forward (world : World β) :
    (∀ (earlier later : List (Call β)) (id : String) (w : Instant),
      (Call.history world earlier).store.watermark? id = some w →
        ∃ v, (Call.history world (earlier ++ later)).store.watermark? id = some v ∧ w ≤ v) ∧
      ∀ (id : String) (w : Instant), world.store.Readable .rules →
        world.store.watermark? id = some w → ∀ requests : List Stamp,
          (∃ v, (Call.storeAfterRequests world id requests).watermark? id = some v ∧
            IsGreatest (Store.Candidates w requests) v) ∧
          (∀ reordered, reordered.Perm requests →
            Call.storeAfterRequests world id reordered =
              Call.storeAfterRequests world id requests) ∧
          ∀ requested,
            (requested.toInstant = .error .outOfSpan ∧
              (Call.storeAfterRequests world id requests).advance id requested =
                .error .outOfSpan ∧
              Call.storeAfterRequests world id (requests ++ [requested]) =
                Call.storeAfterRequests world id requests) ∨
            ∃ t advance, requested.toInstant = .ok t ∧
              (Call.storeAfterRequests world id requests).advance id requested = .ok advance ∧
              (Call.storeAfterRequests world id requests).Answers id advance ∧
              Call.storeAfterRequests world id (requests ++ [requested]) = advance.store := by
  constructor
  · intro earlier later id w hStored
    rw [Call.history, List.foldl_append]
    exact Call.forward_history (Call.history world earlier) later id w hStored
  · intro id w hTable hStored requests
    simp only [Call.storeAfterRequests_eq, Store.requests_append_singleton]
    obtain ⟨v, hLast, hGreatest⟩ := Store.isGreatest_requests hTable hStored requests
    refine ⟨⟨v, hLast, hGreatest⟩, fun _ => Store.requests_perm hTable hStored, ?_⟩
    intro requested
    obtain ⟨_, hMoves⟩ := Store.moves_requests world.store id requests
    have hStill := hMoves.readable hTable
    obtain ⟨rule, hRule, _⟩ := Option.map_eq_some_iff.mp hLast
    rw [Store.request]
    cases hTime : requested.toInstant with
    | error fault =>
      have hFails := Store.advance_of_overflow hStill hRule hTime
      rw [hFails]
      exact .inl ⟨rfl, rfl, rfl⟩
    | ok t =>
      obtain ⟨advance, hAdvance⟩ := Store.advance_of_toInstant hStill hRule hTime
      rw [hAdvance]
      exact .inr ⟨t, advance, rfl, rfl, Store.answers_of_advance hAdvance, rfl⟩

/-! Requests for an earlier time without an offset, for a later one ahead of universal time, and for
one that is out of the calendar. -/
namespace Sample

def asked : List Stamp :=
  [⟨instant 50, none⟩, ⟨instant 300, some 60⟩, ⟨instant 20, some 30⟩]

end Sample

theorem watermarks_move_forward_past_an_overflow :
    Call.storeAfterRequests Sample.mixedWorld "r1" Sample.asked.reverse =
        Call.storeAfterRequests Sample.mixedWorld "r1" Sample.asked ∧
      IsGreatest (Store.Candidates (Sample.instant 100) Sample.asked) (Sample.instant 240) ∧
      ∃ v, (Call.history Sample.mixedWorld ([.execute (Sample.executor []) "r1"] ++
          [.advance "r1" ⟨Sample.instant 50, none⟩,
            .runAll (Sample.executor [])])).store.watermark? "r1" = some v ∧
        Sample.instant 207 ≤ v := by
  obtain ⟨hHistory, hRequests⟩ := watermarks_move_forward Sample.mixedWorld
  obtain ⟨⟨v, hStored, hGreatest⟩, hOrder, _⟩ :=
    hRequests "r1" (Sample.instant 100) rfl rfl Sample.asked
  have hLast : (Call.storeAfterRequests Sample.mixedWorld "r1" Sample.asked).watermark? "r1" =
      some (Sample.instant 240) := by decide +kernel
  obtain rfl : v = Sample.instant 240 := Option.some.inj (hStored.symm.trans hLast)
  refine ⟨hOrder _ (List.reverse_perm _), hGreatest, ?_⟩
  exact hHistory [.execute (Sample.executor []) "r1"] _ "r1" (Sample.instant 207)
    (by decide +kernel)

end EventDigest

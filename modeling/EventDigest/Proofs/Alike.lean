import EventDigest.Proofs.Forward
import EventDigest.Proofs.Steady

/-! # Runs in worlds that are alike

Two worlds are alike to a rule when their stores differ in nothing but other rules and their clocks
stand still at the same reading. Through steady publishers a run of the rule comes to the same in
both: it ends alike, delivers the same and moves the watermark to the same time, if it moves it.
-/
set_option autoImplicit false
namespace EventDigest
open Time
variable {α β γ : Type} {id : String}

namespace Store
variable {store other after last : Store} {moved : Option Instant}

/-- A store that differs from the given one in nothing but rules, and not in the rule itself. -/
inductive Alike (id : String) (store : Store) : Store → Prop
  | rules (rules : List Rule)
    (hRule : { store with rules }.rule? id = store.rule? id) : Alike id store { store with rules }

theorem Alike.refl (id : String) (store : Store) : store.Alike id store := .rules store.rules rfl

theorem Alike.rule?_eq (h : store.Alike id other) : other.rule? id = store.rule? id := by
  cases h with
  | rules rules hRule => exact hRule

theorem Alike.loadRule_eq (h : store.Alike id other) : other.loadRule id = store.loadRule id := by
  cases h with
  | rules rules hRule =>
    have hObstacle : { store with rules }.obstacle? (.read .rules) .rules =
        store.obstacle? (.read .rules) .rules := rfl
    rw [loadRule, loadRule, read, read, hObstacle, hRule]

theorem Alike.loadScope_eq (h : store.Alike id other) (rule : Rule) :
    other.loadScope rule = store.loadScope rule := by
  cases h with
  | rules rules _ =>
    have hObstacle : { store with rules }.obstacle? (.read .projects) .projects =
        store.obstacle? (.read .projects) .projects := rfl
    have hScope : { store with rules }.scope rule = store.scope rule := scope_congr rfl rfl rfl
    rw [loadScope, loadScope, read, read, hObstacle, hScope]

theorem Alike.loadTargets_eq (h : store.Alike id other) (rule : Rule) :
    other.loadTargets rule = store.loadTargets rule := by
  cases h with
  | rules => rfl

theorem Alike.loadPublisher_eq (h : store.Alike id other) (rule : Rule) :
    other.loadPublisher rule = store.loadPublisher rule := by
  cases h with
  | rules => rfl

/-- The store with the watermark of a rule moved, if it is to move. -/
def settle (store : Store) (id : String) : Option Instant → Store
  | none => store
  | some t => store.withWatermark id t

theorem rule?_settle (store : Store) (id : String) (moved : Option Instant) :
    (store.settle id moved).rule? id =
      (store.rule? id).map fun rule => { rule with watermark := moved.getD rule.watermark } := by
  cases moved with
  | none =>
    simp only [Option.getD_none]
    exact Option.map_id'.symm
  | some t => exact rule?_withWatermark store id t

theorem Moves.eq_settle (h : Moves id store moved after) : after = store.settle id moved := by
  cases h with
  | kept => rfl
  | moved => rfl

theorem Alike.of_moves (h : store.Alike id other) (hStore : Moves id store moved after)
    (hOther : Moves id other moved last) : after.Alike id last := by
  have hRule : last.rule? id = after.rule? id := by
    rw [hOther.eq_settle, hStore.eq_settle, rule?_settle, rule?_settle, h.rule?_eq]
  cases h with
  | rules rules =>
    have hRest : last = { after with rules := last.rules } := by
      rw [hStore.rules_only, hOther.rules_only]
    rw [hRest] at hRule ⊢
    exact .rules last.rules hRule

theorem Alike.of_other (h : store.Alike id other) {changed : String}
    (hMoves : Moves changed other moved last) (hOther : id ≠ changed) : store.Alike id last := by
  have hRule : last.rule? id = store.rule? id := (hMoves.rule?_of_ne hOther).trans h.rule?_eq
  cases h with
  | rules rules =>
    rw [hMoves.rules_only] at hRule ⊢
    exact .rules last.rules hRule

/-- A request for the rule is answered alike by both stores. -/
theorem Alike.advance (h : store.Alike id other) (requested : Stamp) :
    (∃ fault, store.advance id requested = .error fault ∧
      other.advance id requested = .error fault) ∨
    ∃ moved answer again, Moves id store moved answer.store ∧ Moves id other moved again.store ∧
      answer.moved = again.moved ∧ store.advance id requested = .ok answer ∧
      other.advance id requested = .ok again := by
  unfold Store.advance
  rw [h.loadRule_eq]
  cases hLoaded : store.loadRule id with
  | error fault => exact .inl ⟨fault, rfl, rfl⟩
  | ok rule =>
    have hRule := loadRule_eq_ok hLoaded
    cases hTime : Fault.ofSpan requested.toInstant with
    | error fault => exact .inl ⟨fault, rfl, rfl⟩
    | ok t =>
      by_cases hBehind : t.micros ≤ rule.watermark.micros
      · exact .inr ⟨none, ⟨store, false, [refusal id rule.watermark t]⟩,
          ⟨other, false, [refusal id rule.watermark t]⟩, .kept, .kept, rfl, if_pos hBehind,
          if_pos hBehind⟩
      · have hAhead : rule.watermark < t := Nat.lt_of_not_le hBehind
        exact .inr ⟨some t, ⟨store.withWatermark id t, true, []⟩,
          ⟨other.withWatermark id t, true, []⟩, .moved rule t hRule hAhead,
          .moved rule t (h.rule?_eq.trans hRule) hAhead, rfl, if_neg hBehind, if_neg hBehind⟩

theorem eventSource_rules (store : Store) (rules : List Rule) :
    { store with rules }.eventSource = store.eventSource := rfl

end Store

namespace World
variable {world other after last : World β} {made : List Delivery} {moved : Option Instant}

/-- To a rule the two worlds look the same, and time does not pass in them. -/
structure Alike (id : String) (world other : World β) : Prop where
  store : world.store.Alike id other.store
  reading : ∀ m n, other.clock.reading m = world.clock.reading n

/-- What was delivered between two worlds, and where the watermark of a rule was moved; nothing else
was written to the store. -/
structure Makes (id : String) (made : List Delivery) (moved : Option Instant)
    (before after : World β) : Prop where
  deliveries : after.desk.deliveries = before.desk.deliveries ++ made
  moves : before.store.Moves id moved after.store
  reading : after.clock.reading = before.clock.reading

theorem Makes.refl (world : World β) : Makes id [] none world world :=
  ⟨(List.append_nil _).symm, .kept, rfl⟩

theorem Makes.trans {before mid : World β} {first second : List Delivery}
    {start finish : Option Instant} (h₁ : Makes id first start before mid)
    (h₂ : Makes id second finish mid after) :
    Makes id (first ++ second) (finish.or start) before after where
  deliveries := by rw [h₂.deliveries, h₁.deliveries, List.append_assoc]
  moves := h₁.moves.trans h₂.moves
  reading := h₂.reading.trans h₁.reading

theorem Alike.of_makes (h : Alike id world other) (hWorld : Makes id made moved world after)
    {others : List Delivery} (hOther : Makes id others moved other last) : Alike id after last where
  store := h.store.of_moves hWorld.moves hOther.moves
  reading m n := by rw [hOther.reading, hWorld.reading, h.reading m n]

/-- What is done for another rule leaves the world alike to this one. -/
theorem Alike.of_other (h : Alike id world other) {changed : String}
    (hOther : Makes changed made moved other last) (hNot : id ≠ changed) : Alike id world last where
  store := h.store.of_other hOther.moves hNot
  reading m n := by rw [hOther.reading, h.reading m n]

end World

namespace Run

/-- In worlds that are alike to a rule the run ends alike, delivers the same and does the same to
the watermark of the rule. -/
def Mirrored (id : String) (run : Run β α) : Prop :=
  ∀ world other : World β, World.Alike id world other →
    (run.start other).1 = (run.start world).1 ∧ ∃ made moved,
      World.Makes id made moved world (run.start world).2 ∧
      World.Makes id made moved other (run.start other).2

theorem mirrored_pure (a : α) : (pure a : Run β α).Mirrored id :=
  fun world other _ => ⟨rfl, [], none, .refl world, .refl other⟩

theorem mirrored_throw (fault : Fault) : (throw fault : Run β α).Mirrored id :=
  fun world other _ => ⟨rfl, [], none, .refl world, .refl other⟩

theorem mirrored_ofExcept (answer : Except Fault α) : (ofExcept answer : Run β α).Mirrored id := by
  cases answer with
  | error fault => exact mirrored_throw fault
  | ok a => exact mirrored_pure a

theorem mirrored_logAll (journal : Journal) : (logAll journal : Run β Unit).Mirrored id :=
  fun _ _ _ => ⟨rfl, [], none, ⟨(List.append_nil _).symm, .kept, rfl⟩,
    ⟨(List.append_nil _).symm, .kept, rfl⟩⟩

theorem mirrored_log (entry : Entry) : (log entry : Run β Unit).Mirrored id :=
  mirrored_logAll [entry]

theorem mirrored_now : (now : Run β Stamp).Mirrored id := by
  intro world other h
  refine ⟨congrArg Except.ok (h.reading other.clock.taken world.clock.taken), [], none, ?_, ?_⟩
  · exact ⟨(List.append_nil _).symm, .kept, rfl⟩
  · exact ⟨(List.append_nil _).symm, .kept, rfl⟩

theorem mirrored_query {question : Store → Except Fault α}
    (h : ∀ store other, store.Alike id other → question other = question store) :
    (query question : Run β α).Mirrored id := by
  intro world other hAlike
  rw [start_query, start_query]
  exact ⟨h _ _ hAlike.store, [], none, .refl world, .refl other⟩

theorem mirrored_attempt {task : Task β α} (h : task.Steady) : (attempt task).Mirrored id := by
  intro world other _
  obtain ⟨hAnswer, made, hMade, hOther⟩ := h world.desk other.desk
  exact ⟨congrArg Except.ok hAnswer, made, none, ⟨hMade, .kept, rfl⟩, ⟨hOther, .kept, rfl⟩⟩

/-- What follows needs to be mirrored only for values that the first run can return. -/
theorem Mirrored.bind {run : Run β α} {next : α → Run β γ} (h : run.Mirrored id)
    (hNext : ∀ world a after, run.Returns world a after → (next a).Mirrored id) :
    (run >>= next).Mirrored id := by
  intro world other hAlike
  obtain ⟨hAnswer, made, moved, hMade, hOther⟩ := h world other hAlike
  rw [start_bind, start_bind]
  rcases hFirst : run.start world with ⟨answer, mid⟩
  rcases hSecond : run.start other with ⟨again, last⟩
  rw [hFirst, hSecond] at hAnswer
  rw [hFirst] at hMade
  rw [hSecond] at hOther
  dsimp only at hAnswer hMade hOther
  subst hAnswer
  cases again with
  | error fault => exact ⟨rfl, made, moved, hMade, hOther⟩
  | ok a =>
    obtain ⟨hEnd, more, finish, hMore, hLast⟩ :=
      hNext world a mid hFirst mid last (hAlike.of_makes hMade hOther)
    exact ⟨hEnd, made ++ more, finish.or moved, hMade.trans hMore, hOther.trans hLast⟩

end Run

/-- The publishers are steady, and no event is read from the table of rules. -/
structure Executor.Steady (executor : Executor β) : Prop where
  registry : executor.registry.Steady executor.settings
  source : ∀ store rules, executor.source { store with rules } = executor.source store

namespace Executor
variable {executor : Executor β} {rule : Rule}

theorem Steady.standard {transport : Transport β}
    (hRegistry : executor.registry = .standard transport) (hTransport : transport.Steady)
    (hSource : executor.source = Store.eventSource) : executor.Steady where
  registry := by
    rw [hRegistry]
    exact Registry.steady_standard hTransport executor.settings
  source store rules := by
    rw [hSource]
    exact store.eventSource_rules rules

theorem Steady.source_eq (h : executor.Steady) {store other : Store}
    (hAlike : store.Alike id other) : executor.source other = executor.source store := by
  cases hAlike with
  | rules rules => exact h.source store rules

theorem mirrored_recordFailure (group : String) (ctx : Context) (heading : String)
    (fault : Fault) : (recordFailure group ctx heading fault : Run β GroupResult).Mirrored id :=
  (Run.mirrored_log _).bind fun _ _ _ _ => Run.mirrored_pure _

theorem mirrored_failGroup (group : String) (ctx : Context) (fault : Fault) :
    (failGroup group ctx fault : Run β GroupResult).Mirrored id := by
  unfold failGroup
  split
  · exact Run.mirrored_throw fault
  · exact mirrored_recordFailure _ _ _ _

theorem mirrored_publish (h : executor.Steady) (notification : Notification)
    (targets : List Target) : (executor.publish rule notification targets).Mirrored id := by
  unfold publish
  dsimp only
  split
  · exact mirrored_recordFailure _ _ _ _
  · refine (Run.mirrored_query fun _ _ hAlike => hAlike.loadPublisher_eq rule).bind ?_
    intro _ publisher _ _
    refine (Run.mirrored_attempt (steady_deliver h.registry _ _ _ _ _)).bind ?_
    intro _ answer _ _
    split
    · exact mirrored_failGroup _ _ _
    · split
      · exact (Run.mirrored_log _).bind fun _ _ _ _ => Run.mirrored_pure _
      · exact Run.mirrored_pure _

theorem mirrored_announce (digest : Digest) :
    (executor.announce rule digest).Mirrored id :=
  Run.mirrored_now.bind fun _ _ _ _ => Run.mirrored_ofExcept _

theorem mirrored_collect (h : executor.Steady) (projects : List ProjectRef) (windowStart : Instant)
    (group : Group) (includeSuppressed : Bool) :
    (executor.collect projects windowStart group includeSuppressed).Mirrored id := by
  intro world other hAlike
  have hSource := h.source_eq hAlike.store
  rw [start_collect, start_collect, hSource]
  apply (Run.mirrored_logAll _).bind
  · exact fun _ _ _ _ => Run.mirrored_ofExcept _
  · exact hAlike

theorem mirrored_processGroup (h : executor.Steady) (windowStart : Instant)
    (projects : List ProjectRef) (targets : List Target) (name : String) :
    (executor.processGroup rule windowStart projects targets name).Mirrored id := by
  unfold processGroup
  split
  · exact (Run.mirrored_log _).bind fun _ _ _ _ => Run.mirrored_pure _
  · refine (mirrored_collect h projects windowStart _ _).bind fun _ digest _ _ => ?_
    split
    · exact (Run.mirrored_log _).bind fun _ _ _ _ => Run.mirrored_pure _
    · refine (mirrored_announce digest).bind fun _ notification _ _ => ?_
      exact (mirrored_publish h notification targets).bind fun _ _ _ _ => Run.mirrored_pure _

theorem mirrored_processGroups (h : executor.Steady) (windowStart : Instant)
    (projects : List ProjectRef) (targets : List Target) (names : List String) :
    (executor.processGroups rule windowStart projects targets names).Mirrored id := by
  induction names with
  | nil => exact Run.mirrored_pure _
  | cons name rest ih =>
    refine (mirrored_processGroup h windowStart projects targets name).bind fun _ report _ _ => ?_
    exact ih.bind fun _ _ _ _ => Run.mirrored_pure _

theorem mirrored_advance : (advance rule : Run β (Option Instant)).Mirrored rule.id := by
  refine Run.mirrored_now.bind fun _ now _ _ => ?_
  intro world other hAlike
  rw [Run.start_bind, Run.start_bind, Run.start_query, Run.start_query]
  rcases hAlike.store.advance now with
    ⟨fault, hAnswer, hAgain⟩ | ⟨moved, answer, again, hMoves, hOther, hMoved, hAnswer, hAgain⟩
  · rw [hAnswer, hAgain]
    exact ⟨rfl, [], none, .refl world, .refl other⟩
  · rw [hAnswer, hAgain]
    refine ⟨?_, [], moved, ?_, ?_⟩
    · change Except.ok (if again.moved = true then _ else none) =
        Except.ok (if answer.moved = true then _ else none)
      rw [hMoved]
    · exact ⟨(List.append_nil _).symm, hMoves, rfl⟩
    · exact ⟨(List.append_nil _).symm, hOther, rfl⟩

theorem mirrored_conclude (results : List GroupResult) :
    (conclude rule results : Run β Outcome).Mirrored rule.id := by
  unfold conclude
  dsimp only
  split
  · refine mirrored_advance.bind fun _ _ _ _ => ?_
    exact (Run.mirrored_log _).bind fun _ _ _ _ => Run.mirrored_pure _
  · exact (Run.mirrored_log _).bind fun _ _ _ _ => Run.mirrored_pure _

theorem mirrored_perform (h : executor.Steady) (id : String) :
    (executor.perform id).Mirrored id := by
  refine (Run.mirrored_query fun _ _ hAlike => hAlike.loadRule_eq).bind ?_
  intro world rule _ hLoaded
  have hId : rule.id = id :=
    Store.id_of_rule? (Store.loadRule_eq_ok (Run.returns_query_iff.mp hLoaded).1)
  subst hId
  split
  · exact (Run.mirrored_log _).bind fun _ _ _ _ => Run.mirrored_pure _
  · refine (Run.mirrored_log _).bind fun _ _ _ _ => ?_
    refine (Run.mirrored_query fun _ _ hAlike => hAlike.loadScope_eq rule).bind ?_
    intro _ projects _ _
    refine (Run.mirrored_query fun _ _ hAlike => hAlike.loadTargets_eq rule).bind ?_
    intro _ targets _ _
    refine (Run.mirrored_ofExcept _).bind fun _ groups _ _ => ?_
    refine (mirrored_processGroups h _ projects targets groups).bind fun _ reports _ _ => ?_
    exact (mirrored_conclude _).bind fun _ _ _ _ => Run.mirrored_pure _

/-- A run of a rule comes to the same in worlds that are alike to the rule. -/
theorem mirrored_execute (h : executor.Steady) (id : String) :
    (executor.execute id).Mirrored id :=
  (mirrored_perform h id).bind fun _ _ _ _ => Run.mirrored_pure _

end Executor

end EventDigest

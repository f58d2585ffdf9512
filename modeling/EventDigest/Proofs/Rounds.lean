import EventDigest.Proofs.Alike
import EventDigest.Proofs.Sorted
import EventDigest.Proofs.Statuses
import Mathlib.Tactic.Choose

/-! # Rounds of the worker

The worker gives every enabled rule one turn, by name, whatever becomes of the turns before it.
While the clock stands still and the publishers are steady a turn does what it would do alone, so
the order of the turns makes no difference.
-/
set_option autoImplicit false
namespace EventDigest
open Time
variable {β : Type}

namespace Store
variable {store : Store} {id other : String}

theorem withWatermark_comm (hOther : other ≠ id) (s t : Instant) :
    (store.withWatermark id s).withWatermark other t =
      (store.withWatermark other t).withWatermark id s :=
  changing_comm (Rule.keepsId_watermark s) (Rule.keepsId_watermark t) fun hSame =>
    (hOther hSame).elim

theorem settle_comm (hOther : other ≠ id) (first second : Option Instant) :
    (store.settle id first).settle other second = (store.settle other second).settle id first := by
  cases first with
  | none => rfl
  | some s =>
    cases second with
    | none => rfl
    | some t => exact withWatermark_comm hOther s t

theorem rule?_settle_of_ne (hOther : other ≠ id) (moved : Option Instant) :
    (store.settle id moved).rule? other = store.rule? other := by
  cases moved with
  | none => rfl
  | some t => exact rule?_withWatermark_of_ne hOther t

/-- The store with the watermarks of some rules moved, each to its own time. -/
def settleAll (store : Store) (moved : String → Option Instant) (ids : List String) : Store :=
  ids.foldl (fun mid id => mid.settle id (moved id)) store

variable {moved : String → Option Instant} {ids : List String}

theorem settleAll_perm {order : List String} (h : order.Perm ids) :
    store.settleAll moved order = store.settleAll moved ids := by
  apply h.foldl_eq'
  intro id _ other _ mid
  by_cases hSame : other = id
  · rw [hSame]
  · exact settle_comm hSame (moved id) (moved other)

theorem rule?_settleAll_of_notMem (h : id ∉ ids) :
    (store.settleAll moved ids).rule? id = store.rule? id := by
  induction ids generalizing store with
  | nil => rfl
  | cons other rest ih =>
    rw [List.mem_cons, not_or] at h
    exact (ih h.2).trans (rule?_settle_of_ne h.1 (moved other))

theorem rule?_settleAll_of_mem (hKeys : ids.Nodup) (h : id ∈ ids) :
    (store.settleAll moved ids).rule? id = (store.settle id (moved id)).rule? id := by
  induction ids generalizing store with
  | nil => exact (List.not_mem_nil h).elim
  | cons other rest ih =>
    rw [List.nodup_cons] at hKeys
    rcases List.mem_cons.mp h with rfl | hRest
    · exact rule?_settleAll_of_notMem hKeys.1
    · have hOther : id ≠ other := fun hSame => hKeys.1 (hSame ▸ hRest)
      refine (ih hKeys.2 hRest).trans ?_
      rw [rule?_settle, rule?_settle, rule?_settle_of_ne hOther]

theorem perm_listedRules (store : Store) :
    (store.listedRules true).Perm (store.rules.filter (·.enabled)) := by
  have hListed : (fun rule : Rule => !true || rule.enabled) = (·.enabled) := by
    funext rule
    rw [Bool.not_true, Bool.false_or]
  rw [listedRules, hListed]
  exact List.mergeSort_perm _ _

theorem pairwise_listedRules (store : Store) (enabledOnly : Bool) :
    (store.listedRules enabledOnly).Pairwise fun a b => a.name ≤ b.name :=
  pairwise_sorted_by_key Rule.name _

theorem nodup_listedRules (hKeys : (store.rules.map (·.id)).Nodup) :
    ((store.listedRules true).map (·.id)).Nodup :=
  ((store.perm_listedRules.map (·.id)).nodup_iff).mpr ((List.filter_sublist.map _).nodup hKeys)

theorem mem_listedRules_of_enabled {rule : Rule} (hRule : store.rule? id = some rule)
    (hEnabled : rule.enabled = true) : id ∈ (store.listedRules true).map (·.id) := by
  have hListed : rule ∈ store.listedRules true :=
    store.perm_listedRules.mem_iff.mpr
      (List.mem_filter.mpr ⟨List.mem_of_find?_eq_some hRule, hEnabled⟩)
  have hMem := List.mem_map_of_mem (f := (·.id)) hListed
  rwa [id_of_rule? hRule] at hMem

end Store

/-- Every reading is the same. -/
def Time.Clock.Still (clock : Clock) : Prop := ∀ m n, clock.reading m = clock.reading n

namespace Worker
variable {executor : Executor β} {world after : World β} {id : String}

/-- The turn of a rule: what running it for a scheduler did to the world. -/
structure Turn (β : Type) where
  ruleId : String
  before : World β
  after : World β

namespace Turn

def of (executor : Executor β) (id : String) (world : World β) : Turn β :=
  ⟨id, world, ((executor.runScheduled (some id)).run world).2⟩

/-- What was delivered in the turn. -/
def made (turn : Turn β) : List Delivery :=
  turn.after.desk.deliveries.drop turn.before.desk.deliveries.length

/-- In the turn the rule delivered what it would have delivered on its own in the world. -/
structure AsAlone (executor : Executor β) (world : World β) (turn : Turn β) : Prop where
  deliveries : turn.after.desk.deliveries = turn.before.desk.deliveries ++ turn.made
  made_eq : turn.made = (of executor turn.ruleId world).made

theorem made_of_makes {made : List Delivery} {moved : Option Instant}
    (h : World.Makes id made moved world (of executor id world).after) :
    (of executor id world).made = made := by
  rw [Turn.made, h.deliveries]
  exact List.drop_left

theorem makes_of_execute {made : List Delivery} {moved : Option Instant}
    (h : World.Makes id made moved world ((executor.execute id).start world).2) :
    World.Makes id made moved world (of executor id world).after := by
  obtain ⟨_, hEnd⟩ := executor.exists_runScheduled id world
  rw [of, hEnd]
  exact ⟨h.deliveries, h.moves, h.reading⟩

theorem of_alike (hSteady : executor.Steady) {other : World β}
    (hAlike : World.Alike id world other) : ∃ made moved,
      World.Makes id made moved world (of executor id world).after ∧
      World.Makes id made moved other (of executor id other).after := by
  obtain ⟨_, made, moved, hWorld, hOther⟩ :=
    Executor.mirrored_execute hSteady id world other hAlike
  exact ⟨made, moved, makes_of_execute hWorld, makes_of_execute hOther⟩

theorem asAlone_of_alike (hSteady : executor.Steady) {base : World β}
    (hAlike : World.Alike id base world) : (of executor id world).AsAlone executor base := by
  obtain ⟨made, _, hAlone, hHere⟩ := of_alike hSteady hAlike
  have hMade : (of executor id world).made = made := made_of_makes hHere
  constructor
  · rw [hMade]
    exact hHere.deliveries
  · rw [hMade]
    exact (made_of_makes hAlone).symm

/-- Where the watermark of a rule goes in its turn is settled by the world that it finds. -/
theorem exists_moved (hSteady : executor.Steady) (hClock : world.clock.Still) (id : String) :
    ∃ moved, ∀ other : World β, World.Alike id world other →
      (of executor id other).after.store = other.store.settle id moved := by
  have hSelf : World.Alike id world world := ⟨.refl id world.store, hClock⟩
  obtain ⟨_, moved, hAlone, _⟩ := of_alike hSteady hSelf
  refine ⟨moved, fun other hAlike => ?_⟩
  obtain ⟨_, again, hAgain, hOther⟩ := of_alike hSteady hAlike
  obtain ⟨rfl, _⟩ := hAlone.moves.eq_of_watermark? hAgain.moves rfl
  exact hOther.moves.eq_settle

/-- A rule that is not enabled, or not there, does nothing in its turn. -/
theorem store_of_disabled
    (h : ∀ rule, world.store.rule? id = some rule → rule.enabled = false) :
    (of executor id world).after.store = world.store := by
  change ((executor.runScheduled (some id)).run world).2.store = world.store
  rw [Executor.store_runScheduled, Executor.execute, Run.start_bind, Executor.perform,
    Run.start_bind, Run.start_query]
  cases hLoaded : world.store.loadRule id with
  | error fault => rfl
  | ok rule =>
    dsimp only
    rw [h rule (Store.loadRule_eq_ok hLoaded)]
    rfl

end Turn

/-- Turns are taken one after the other, each in the world that the one before it left. -/
inductive Round (executor : Executor β) : World β → List (Turn β) → World β → Prop
  | ended (world : World β) : Round executor world [] world
  | taken (id : String) (world after : World β) (turns : List (Turn β))
    (hRest : Round executor (Turn.of executor id world).after turns after) :
    Round executor world (Turn.of executor id world :: turns) after

theorem exists_round (executor : Executor β) (ids : List String) (world : World β) :
    ∃ turns, Round executor world turns ((runEach executor ids).run world).2 ∧
      turns.map (·.ruleId) = ids := by
  induction ids generalizing world with
  | nil => exact ⟨[], .ended world, rfl⟩
  | cons id rest ih =>
    obtain ⟨turns, hRest, hIds⟩ := ih (Turn.of executor id world).after
    refine ⟨Turn.of executor id world :: turns, .taken id world _ turns hRest, ?_⟩
    rw [List.map_cons, hIds]
    rfl

/-- In a round every turn goes as it would in a world to which the round looks alike, and the store
is left as those turns would leave it one by one. -/
theorem Round.as_alone (hSteady : executor.Steady) {base : World β} {turns : List (Turn β)}
    {moved : String → Option Instant}
    (hMoved : ∀ id (other : World β), World.Alike id base other →
      (Turn.of executor id other).after.store = other.store.settle id (moved id))
    (h : Round executor world turns after) (hKeys : (turns.map (·.ruleId)).Nodup)
    (hAlike : ∀ turn ∈ turns, World.Alike turn.ruleId base world) :
    (∀ turn ∈ turns, turn.AsAlone executor base) ∧
      after.store = world.store.settleAll moved (turns.map (·.ruleId)) := by
  -- Each turn leaves the world alike to the rules whose turns are still to come.
  induction h with
  | ended world => exact ⟨fun turn hTurn => (List.not_mem_nil hTurn).elim, rfl⟩
  | taken id world after turns hRest ih =>
    rw [List.map_cons, List.nodup_cons] at hKeys
    have hFirst : World.Alike id base world := hAlike _ (List.mem_cons_self ..)
    obtain ⟨_, _, _, hHere⟩ := Turn.of_alike hSteady hFirst
    have hStill : ∀ turn ∈ turns,
        World.Alike turn.ruleId base (Turn.of executor id world).after := by
      intro turn hTurn
      apply (hAlike turn (List.mem_cons_of_mem _ hTurn)).of_other hHere
      intro hSame
      have hMem := List.mem_map_of_mem (f := (·.ruleId)) hTurn
      rw [hSame] at hMem
      exact hKeys.1 hMem
    obtain ⟨hTurns, hLast⟩ := ih hKeys.2 hStill
    constructor
    · intro turn hTurn
      rcases List.mem_cons.mp hTurn with rfl | hLater
      · exact Turn.asAlone_of_alike hSteady hFirst
      · exact hTurns turn hLater
    · rw [hLast, hMoved id world hFirst]
      rfl

/-- The worker returns whatever its turns come to. -/
theorem exists_round_of_runAll (executor : Executor β) (hTable : world.store.Readable .rules) :
    ∃ start turns after, world.Follows start ∧ world.desk.Idle start.desk ∧
      Round executor start turns after ∧
      turns.map (·.ruleId) = (world.store.listedRules true).map (·.id) ∧
      (runAll executor).Returns world (world.store.listedRules true).length after := by
  let rules := world.store.listedRules true
  let start : World β := { world with desk := { world.desk with
    journal := world.desk.journal ++ [.info logger
      s!"Running {rules.length} enabled scheduled notification rule(s)"] } }
  obtain ⟨turns, hRound, hIds⟩ := exists_round executor (rules.map (·.id)) start
  refine ⟨start, turns, _, ⟨rfl, rfl, Nat.le_refl _⟩, ⟨rfl, rfl⟩, hRound, hIds, ?_⟩
  have hListed : Run.Returns (Run.query (·.listRules true)) world rules world :=
    Run.returns_query_iff.mpr ⟨hTable.read_eq _, rfl⟩
  refine hListed.bind ((Run.returns_log _ world).bind ((Run.returns_modify _ start).bind ?_))
  exact Run.returns_pure_iff.mpr ⟨List.length_map _, rfl⟩

/-- The worker gives every enabled rule one turn, by name, and no other rule; whatever the turns
come to, it returns their number. While the clock stands still and the publishers are steady every
rule ends and delivers as it would alone, and turns in any other order lead to the same store and
the same deliveries of each rule. -/
theorem turns_as_alone (executor : Executor β) (world : World β)
    (hTable : world.store.Readable .rules) (hKeys : (world.store.rules.map (·.id)).Nodup) :
    ∃ (rules : List Rule) (start : World β) (turns : List (Turn β)) (after : World β),
      rules.Perm (world.store.rules.filter (·.enabled)) ∧
      rules.Pairwise (fun a b => a.name ≤ b.name) ∧ (rules.map (·.id)).Nodup ∧
      turns.map (·.ruleId) = rules.map (·.id) ∧
      world.Follows start ∧ world.desk.Idle start.desk ∧ Round executor start turns after ∧
      (runAll executor).Returns world rules.length after ∧
      (executor.Steady → world.clock.Still →
        (∀ turn ∈ turns, turn.AsAlone executor world) ∧
        (∀ id, after.store.rule? id = (Turn.of executor id world).after.store.rule? id) ∧
        ∀ order : List String, order.Perm (rules.map (·.id)) → ∃ others last,
          Round executor world others last ∧ others.map (·.ruleId) = order ∧
            last.store = after.store ∧ ∀ turn ∈ others, turn.AsAlone executor world) := by
  obtain ⟨start, turns, after, hStart, hIdle, hRound, hIds, hReturns⟩ :=
    exists_round_of_runAll executor hTable
  have hNodup := Store.nodup_listedRules hKeys
  refine ⟨world.store.listedRules true, start, turns, after, world.store.perm_listedRules,
    world.store.pairwise_listedRules true, hNodup, hIds, hStart, hIdle, hRound, hReturns, ?_⟩
  intro hSteady hClock
  choose moved hMoved using
    fun id => Turn.exists_moved hSteady (show world.clock.Still from hClock) id
  have hSelf : ∀ id, World.Alike id world world := fun id => ⟨.refl id world.store, hClock⟩
  have hAlike : ∀ id, World.Alike id world start := by
    intro id
    refine ⟨hStart.store_eq ▸ .refl id world.store, fun m n => ?_⟩
    rw [hStart.reading_eq]
    exact hClock m n
  obtain ⟨hTurns, hStore⟩ := hRound.as_alone hSteady hMoved (hIds ▸ hNodup) fun _ _ => hAlike _
  rw [hStart.store_eq, hIds] at hStore
  refine ⟨hTurns, ?_, ?_⟩
  · intro id
    rw [hStore]
    by_cases hTurn : id ∈ (world.store.listedRules true).map (·.id)
    · rw [hMoved id world (hSelf id)]
      exact Store.rule?_settleAll_of_mem hNodup hTurn
    · rw [Store.rule?_settleAll_of_notMem hTurn, Turn.store_of_disabled]
      intro rule hRule
      rw [← Bool.not_eq_true]
      exact fun hEnabled => hTurn (Store.mem_listedRules_of_enabled hRule hEnabled)
  · intro order hOrder
    obtain ⟨others, hOther, hOthers⟩ := exists_round executor order world
    have hOrdered : (others.map (·.ruleId)).Nodup := hOthers ▸ hOrder.nodup_iff.mpr hNodup
    obtain ⟨hAll, hLast⟩ := hOther.as_alone hSteady hMoved hOrdered fun _ _ => hSelf _
    refine ⟨others, _, hOther, hOthers, ?_, hAll⟩
    rw [hLast, hStore, hOthers]
    exact Store.settleAll_perm hOrder

end Worker

/-! A server that accepts everything, and three rules: one for a web address, one whose run ends
with a fault, and one that is disabled. -/
namespace Sample

def accepting : Transport Nat where
  post _ asked := (.ok ⟨204, ""⟩, asked + 1)
  mail _ asked := (.ok (), asked + 1)

theorem steady_accepting : (deliveringExecutor accepting).Steady :=
  .standard rfl ⟨fun _ _ _ => rfl, fun _ _ _ => rfl⟩ rfl

def sharedWorld : World Nat where
  store := { store hookRule [] with
    publishers := [publisherRow "webhook"]
    rules := [hookRule, { hookRule with id := "r2", name := "Alarms", notifyOn := .int 5 },
      { hookRule with id := "r3", name := "Audits", enabled := false }] }
  clock := ⟨fun _ => .ofInstant (instant 200), 0⟩
  desk := ⟨[], [], 0⟩

end Sample

namespace Worker

theorem turns_as_alone_past_a_fault :
    ∃ after, (runAll (Sample.deliveringExecutor Sample.accepting)).Returns Sample.sharedWorld 2
        after ∧
      after.store.watermark? "r1" = some (Sample.instant 200) ∧
      after.store.watermark? "r2" = some (Sample.instant 100) ∧
      ∀ order : List String, order.Perm ["r1", "r2"] → ∃ others last,
        Round (Sample.deliveringExecutor Sample.accepting) Sample.sharedWorld others last ∧
          others.map (·.ruleId) = order ∧ last.store = after.store ∧
          ∀ turn ∈ others,
            turn.AsAlone (Sample.deliveringExecutor Sample.accepting) Sample.sharedWorld := by
  obtain ⟨rules, _, _, after, hPerm, _, _, _, _, _, _, hReturns, hIsolated⟩ :=
    turns_as_alone (Sample.deliveringExecutor Sample.accepting) Sample.sharedWorld rfl (by decide)
  obtain ⟨_, hRules, hOrders⟩ := hIsolated Sample.steady_accepting fun _ _ => rfl
  have hCount : rules.length = 2 := hPerm.length_eq
  have hIds : (rules.map (·.id)).Perm ["r1", "r2"] := hPerm.map (·.id)
  have hMoved := congrArg (Option.map (·.watermark)) (hRules "r1")
  have hKept := congrArg (Option.map (·.watermark)) (hRules "r2")
  refine ⟨after, hCount ▸ hReturns, hMoved.trans (by decide +kernel),
    hKept.trans (by decide +kernel), fun order hOrder => hOrders order (hOrder.trans hIds.symm)⟩

end Worker

end EventDigest

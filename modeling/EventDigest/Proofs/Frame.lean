import EventDigest.Proofs.Forward
import Mathlib.Data.List.Forall2

/-! # What a run leaves alone

A run writes once, at its end, and what comes after that cannot fail. So a run that ends with a
fault leaves the store as it was, wherever the fault arose and whatever was delivered before it, and
a run that returns has at most moved the watermark of its rule.
-/
set_option autoImplicit false
namespace EventDigest
open Time
variable {α β γ : Type}

namespace Store
variable {store mid after : Store} {id : String} {moved : Option Instant}

/-- How a row of the rules may look when the watermark of one rule was moved. -/
structure KeepsRow (id : String) (row now : Rule) : Prop where
  columns : now = { row with watermark := now.watermark }
  others : row.id ≠ id → now = row

/-- Every table is as it was, but for the watermark of one rule. -/
structure Keeps (id : String) (before after : Store) : Prop where
  tables : after = { before with rules := after.rules }
  rows : List.Forall₂ (KeepsRow id) before.rules after.rules

theorem Moves.keeps (h : Moves id store moved after) : store.Keeps id after := by
  refine ⟨h.rules_only, ?_⟩
  cases h with
  | kept => exact List.forall₂_same.mpr fun _ _ => ⟨rfl, fun _ => rfl⟩
  | moved rule t =>
    refine List.forall₂_map_right_iff.mpr (List.forall₂_same.mpr fun row _ => ?_)
    by_cases hRow : row.id = id
    · rw [if_pos hRow]
      exact ⟨rfl, fun hOther => absurd hRow hOther⟩
    · rw [if_neg hRow]
      exact ⟨rfl, fun _ => rfl⟩

end Store

namespace Run
variable {id : String} {world : World β}

/-- The run fails and leaves the store as it was, or it returns and has moved at most the watermark
of one rule. -/
def Commits (id : String) (run : Run β α) (world : World β) : Prop :=
  match run.start world with
  | (.ok _, after) => ∃ moved, Store.Moves id world.store moved after.store
  | (.error _, after) => after.store = world.store

theorem Commits.moves {run : Run β α} (h : run.Commits id world) :
    ∃ moved, Store.Moves id world.store moved (run.start world).2.store := by
  unfold Commits at h
  split at h
  · rename_i hStart
    rw [hStart]
    exact h
  · rename_i hStart
    rw [hStart, h]
    exact ⟨none, .kept⟩

theorem Commits.store_of_fails {run : Run β α} (h : run.Commits id world) {fault : Fault}
    (hFails : run.Fails world fault) : (run.start world).2.store = world.store := by
  unfold Commits at h
  split at h
  · rename_i hStart
    rw [Fails, hStart] at hFails
    cases hFails
  · rename_i hStart
    rw [hStart, h]

theorem Quiet.commits {run : Run β α} (h : run.Quiet) (id : String) (world : World β) :
    run.Commits id world := by
  have hStore := (h world).store_eq
  unfold Commits
  split
  · rename_i hStart
    rw [hStart] at hStore
    rw [hStore]
    exact ⟨none, .kept⟩
  · rename_i hStart
    rwa [hStart] at hStore

/-- What a run has only read may be followed by a write. -/
theorem Quiet.commits_bind {run : Run β α} {next : α → Run β γ} (h : run.Quiet)
    (hNext : ∀ a mid, run.Returns world a mid → (next a).Commits id mid) :
    (run >>= next).Commits id world := by
  have hFirst := h world
  unfold Commits
  rw [start_bind]
  rcases hStart : run.start world with ⟨fault | a, mid⟩
  · rw [hStart] at hFirst
    exact hFirst.store_eq
  · rw [hStart] at hFirst
    rw [← hFirst.store_eq]
    exact hNext a mid hStart

/-- What a run has written may be followed by what neither fails nor writes. -/
theorem Commits.bind {run : Run β α} {next : α → Run β γ} (h : run.Commits id world)
    (hQuiet : ∀ a, (next a).Quiet) (hSure : ∀ a, (next a).Sure) :
    (run >>= next).Commits id world := by
  unfold Commits at h ⊢
  rw [start_bind]
  rcases hStart : run.start world with ⟨fault | a, mid⟩
  · rwa [hStart] at h
  · rw [hStart] at h
    have hStore := (hQuiet a mid).store_eq
    dsimp only
    split
    · rename_i hLast
      rw [hLast] at hStore
      rwa [hStore]
    · rename_i fault _ hLast
      exact (hSure a mid fault (by rw [Fails, hLast])).elim

theorem commits_write {moved : Option Instant} {store : Store}
    (h : Store.Moves id world.store moved store) :
    (modify fun world => { world with store } : Run β Unit).Commits id world := ⟨moved, h⟩

end Run

namespace Executor

theorem commits_advance (rule : Rule) (world : World β) :
    (advance rule).Commits rule.id world := by
  refine Run.quiet_now.commits_bind fun now read _ => ?_
  refine (Run.quiet_query _).commits_bind fun advance asked hAsked => ?_
  obtain ⟨hAdvance, rfl⟩ := Run.returns_query_iff.mp hAsked
  obtain ⟨_, hMoves⟩ := Store.moves_of_advance hAdvance
  exact (Run.commits_write hMoves).bind
    (fun _ => (Run.quiet_logAll _).bind fun _ => Run.quiet_pure _)
    (fun _ => (Run.sure_modify _).bind fun _ => Run.sure_pure _)

theorem commits_conclude (rule : Rule) (results : List GroupResult) (world : World β) :
    (conclude rule results).Commits rule.id world := by
  unfold conclude
  split
  · exact (commits_advance rule world).bind
      (fun _ => (Run.quiet_log _).bind fun _ => Run.quiet_pure _)
      (fun _ => (Run.sure_modify _).bind fun _ => Run.sure_pure _)
  · exact ((Run.quiet_log _).bind fun _ => Run.quiet_pure _).commits rule.id world

theorem commits_perform (executor : Executor β) (id : String) (world : World β) :
    (executor.perform id).Commits id world := by
  refine (Run.quiet_query _).commits_bind fun rule found hFound => ?_
  obtain ⟨hLoaded, rfl⟩ := Run.returns_query_iff.mp hFound
  obtain rfl := Store.id_of_rule? (Store.loadRule_eq_ok hLoaded)
  split
  · exact ((Run.quiet_log _).bind fun _ => Run.quiet_pure _).commits _ _
  · exact (Run.quiet_log _).commits_bind fun _ _ _ =>
      (Run.quiet_query _).commits_bind fun projects _ _ =>
      (Run.quiet_query _).commits_bind fun targets _ _ =>
      (Run.quiet_ofExcept _).commits_bind fun groups _ _ =>
      (quiet_processGroups executor rule _ projects targets groups).commits_bind fun _ mid _ =>
      (commits_conclude rule _ mid).bind (fun _ => Run.quiet_pure _) (fun _ => Run.sure_pure _)

theorem commits_execute (executor : Executor β) (id : String) (world : World β) :
    (executor.execute id).Commits id world :=
  (commits_perform executor id world).bind (fun _ => Run.quiet_pure _) (fun _ => Run.sure_pure _)

theorem start_execute_disabled (executor : Executor β) {id : String} {world : World β} {rule : Rule}
    (hLoaded : world.store.loadRule id = .ok rule) (hDisabled : rule.enabled = false) :
    (executor.execute id).start world =
      (.ok ⟨rule.id, rule.name, none, [], false, none, true⟩,
        { world with desk := { world.desk with journal := world.desk.journal ++ [.info logger
          s!"Scheduled notification rule {rule.id} is disabled; nothing to do"] } }) := by
  rw [execute, Run.start_bind, start_perform_disabled executor hLoaded hDisabled]
  rfl

/-- A disabled rule is looked up and named in the journal, the same way by every executor. -/
theorem exists_start_disabled {id : String} {world : World β} {rule : Rule}
    (hRule : world.store.rule? id = some rule) (hDisabled : rule.enabled = false) :
    ∃ answer journal, ∀ executor : Executor β, (executor.execute id).start world =
      (answer, { world with desk := { world.desk with journal } }) := by
  cases hLoaded : world.store.loadRule id with
  | error fault =>
    refine ⟨.error fault, world.desk.journal, fun executor => ?_⟩
    rw [execute, perform, Run.start_bind, Run.start_bind, Run.start_query, hLoaded]
  | ok loaded =>
    obtain rfl : loaded = rule := Option.some.inj ((Store.loadRule_eq_ok hLoaded).symm.trans hRule)
    exact ⟨_, _, fun executor => start_execute_disabled executor hLoaded hDisabled⟩

/-- Whatever the registry, the events, the world outside and the clock: a run leaves everything as
it was but for the watermark of its rule, and that too when it ends with a fault or the rule is
disabled. A disabled rule delivers nothing, and its run is the same over all events. -/
theorem execute_keeps (executor : Executor β) (id : String) (world : World β) :
    world.store.Keeps id ((executor.execute id).start world).2.store ∧
      (∀ fault, (executor.execute id).Fails world fault →
        ((executor.execute id).start world).2.store = world.store) ∧
      ∀ rule, world.store.rule? id = some rule → rule.enabled = false →
        ((executor.execute id).start world).2.store = world.store ∧
          ((executor.execute id).start world).2.clock = world.clock ∧
          world.desk.Idle ((executor.execute id).start world).2.desk ∧
          ∀ source, ({ executor with source }.execute id).start world =
            (executor.execute id).start world := by
  have hCommits := commits_execute executor id world
  obtain ⟨_, hMoves⟩ := hCommits.moves
  refine ⟨hMoves.keeps, fun _ => hCommits.store_of_fails, fun rule hRule hDisabled => ?_⟩
  obtain ⟨_, _, hStart⟩ := exists_start_disabled hRule hDisabled
  rw [hStart executor]
  exact ⟨rfl, rfl, ⟨rfl, rfl⟩, fun _ => hStart _⟩

end Executor

/-! A publisher that breaks down over one group, and a rule that watches this group last. -/
namespace Sample

def breakingExecutor : Executor Publisher.Attempts :=
  { executor [] with
    registry := Registry.register [] "recording" true <| Registry.always fun _ =>
      .recording ["POLICY_VIOLATION"] (.outside .state "no such session") }

def brokenWorld : World Publisher.Attempts :=
  ⟨store (rule ["NEW_VULNERABILITY", "POLICY_VIOLATION"] (instant 100))
    [finding 1 "p1" (instant 150)], .ticking (.ofInstant (instant 200)) 7, desk⟩

def disabledWorld : World Publisher.Attempts :=
  { brokenWorld with
    store := store { rule ["NEW_VULNERABILITY"] (instant 100) with enabled := false } [] }

end Sample

namespace Executor

theorem execute_keeps_past_a_delivery :
    ∃ fault, (Sample.breakingExecutor.execute "r1").Fails Sample.brokenWorld fault ∧
      ((Sample.breakingExecutor.execute "r1").start Sample.brokenWorld).2.desk.deliveries.length =
        1 ∧
      ((Sample.breakingExecutor.execute "r1").start Sample.brokenWorld).2.store =
        Sample.brokenWorld.store ∧
      ((Sample.breakingExecutor.execute "r1").start Sample.disabledWorld).2.store =
        Sample.disabledWorld.store := by
  have hRun : (Sample.breakingExecutor.execute "r1").failsWith Sample.brokenWorld
      (fun fault => fault = .outside .state "no such session") = true := by decide +kernel
  obtain ⟨fault, hFails, _⟩ := Run.failsWith_iff.mp hRun
  refine ⟨fault, hFails, by decide +kernel, ?_, ?_⟩
  · exact (execute_keeps _ _ _).2.1 fault hFails
  · exact ((execute_keeps _ _ _).2.2 _ rfl rfl).1

end Executor

end EventDigest

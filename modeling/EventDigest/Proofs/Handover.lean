import EventDigest.Proofs.Mailing

/-! # What a publisher is handed

A publisher that goes by one configuration, whatever it is handed, cannot be told from the publisher
it is made of exactly where that configuration is handed over. With every publisher of a registry
replaced in this way a run over a store is the same run, if the configuration is that of its rule
with the template and the media type of the descriptor.
-/
set_option autoImplicit false
namespace EventDigest
variable {α β γ : Type}

/-- The publisher that goes by this configuration, whatever it is handed. -/
def Publisher.under (config : Config) (p : Publisher β) : Publisher β where
  className := p.className
  isTargeted := p.isTargeted
  inform ctx n _ := p.inform ctx n config
  informTargets ctx n _ targets := p.informTargets ctx n config targets

def Product.under (config : Config) : Product β → Product β
  | .publisher p => .publisher (p.under config)
  | .thing className => .thing className

def Registration.under (config : Config) (registration : Registration β) : Registration β where
  key := registration.key
  targeted := registration.targeted
  construct settings outside :=
    let (answer, later) := registration.construct settings outside
    (answer.map (Product.under config), later)

/-- The registry whose publishers all go by this configuration. -/
def Registry.under (config : Config) (registry : Registry β) : Registry β :=
  registry.map fun (key, registration) => (key, registration.under config)

def Executor.under (config : Config) (executor : Executor β) : Executor β :=
  { executor with registry := executor.registry.under config }

namespace Registry
variable (config : Config) (registry : Registry β) (settings : Settings)

theorem find?_under (key : Option String) :
    (registry.under config).find? key = (registry.find? key).map (Registration.under config) := by
  unfold find? Fields.get? Registry.under
  induction registry with
  | nil => rfl
  | cons field rest ih =>
    obtain ⟨name, registration⟩ := field
    rw [List.map_cons, List.lookup_cons, List.lookup_cons]
    split
    · rfl
    · exact ih

theorem registrationOf_under (descriptor : Option Descriptor) :
    (registry.under config).registrationOf descriptor =
      (registry.registrationOf descriptor).map (Registration.under config) := by
  cases descriptor with
  | none => rfl
  | some d =>
    simp only [registrationOf, find?_under]
    cases d.scheduled with
    | false => rfl
    | true => cases registry.find? d.key <;> rfl

theorem usable?_under (targeted : Bool) (made : Product β) :
    usable? targeted (made.under config) =
      (usable? targeted made).map (Publisher.under config) := by
  cases made with
  | thing className => rfl
  | publisher p =>
    unfold Product.under usable? Publisher.under
    dsimp only
    split <;> rfl

theorem className_under (made : Product β) : (made.under config).className = made.className := by
  cases made <;> rfl

theorem start_resolve_under (descriptor : Option Descriptor) (desk : Desk β) :
    ((registry.under config).resolve settings descriptor).start desk =
      (((registry.resolve settings descriptor).start desk).1.map
          fun (registration, p) => (registration.under config, p.under config),
        ((registry.resolve settings descriptor).start desk).2) := by
  unfold resolve
  rw [registrationOf_under]
  cases registry.registrationOf descriptor with
  | error fault => rfl
  | ok registration =>
    rcases hMade : registration.construct settings desk.outside with ⟨fault | made, later⟩
    · simp only [Except.map, Task.start_bind, Task.start_ask, Registration.under, hMade]
      rfl
    · simp only [Except.map, Task.start_bind, Task.start_ask, Registration.under, hMade,
        usable?_under, className_under]
      cases usable? registration.targeted made <;> rfl

/-- Handed its own configuration, a publisher that goes by one does what it always does. -/
theorem start_dispatch_under (logger : String) (ctx : Context) (n : Notification)
    (descriptor : Option Descriptor) (targets : List Target) (desk : Desk β) :
    ((registry.under config).dispatch settings logger ctx n descriptor config targets).start desk =
      (registry.dispatch settings logger ctx n descriptor config targets).start desk := by
  unfold dispatch
  rw [Task.start_bind, Task.start_bind, start_resolve_under]
  rcases (registry.resolve settings descriptor).start desk with ⟨fault | ⟨registration, p⟩, later⟩
  · rfl
  · rfl

end Registry

namespace Run
variable {store : Store}

/-- Started over the store, the two runs do the same and come to the same. -/
def SameOver (store : Store) (run again : Run β α) : Prop :=
  ∀ world : World β, world.store = store → run.start world = again.start world

theorem SameOver.refl (run : Run β α) : SameOver store run run := fun _ _ => rfl

theorem SameOver.attempt {task again : Task β α} (h : ∀ desk, task.start desk = again.start desk) :
    SameOver store (attempt task) (attempt again) := by
  intro world _
  have hTask : ∀ task : Task β α, (Run.attempt task).start world =
      (.ok (task.start world.desk).1, { world with desk := (task.start world.desk).2 }) :=
    fun _ => rfl
  rw [hTask, hTask, h]

theorem SameOver.bind {run again : Run β α} {next afresh : α → Run β γ}
    (h : SameOver store run again) (hQuiet : run.Quiet)
    (hNext : ∀ a, run.Yields store a → SameOver store (next a) (afresh a)) :
    SameOver store (run >>= next) (again >>= afresh) := by
  intro world hStore
  have hKept := (hQuiet world).store_eq
  rw [start_bind, start_bind, ← h world hStore]
  rcases hStart : run.start world with ⟨fault | a, mid⟩
  · rfl
  · rw [hStart] at hKept
    exact hNext a ⟨world, mid, hStore, hStart⟩ mid (hKept.trans hStore)

/-- What comes afterwards may change the store, if it is the same in both. -/
theorem SameOver.followed {run again : Run β α} (h : SameOver store run again)
    (next : α → Run β γ) : SameOver store (run >>= next) (again >>= next) := by
  intro world hStore
  rw [start_bind, start_bind, h world hStore]

end Run

namespace Executor
variable {executor : Executor β} {rule : Rule} {row : PublisherRow} {store : Store}
  {config : Config}

/-- A publisher is handed the configuration of the rule with the template and the media type of its
descriptor. -/
theorem start_deliver_under (ctx : Context) (n : Notification) (targets : List Target)
    (desk : Desk β) :
    ((executor.under (config.merged row.descriptor)).deliver ctx n (some row.descriptor) config
        targets).start desk =
      (executor.deliver ctx n (some row.descriptor) config targets).start desk := by
  have hDispatch := executor.registry.start_dispatch_under (config.merged row.descriptor)
    executor.settings logger ctx n (some row.descriptor) targets
  unfold deliver
  dsimp only
  cases config.overriddenWarning? logger with
  | none => exact hDispatch desk
  | some warning => exact hDispatch { desk with journal := desk.journal ++ [warning] }

section Handing
variable (hRow : store.publisherOf? rule = some row)
  (hConfig : Config.parse rule.config = .ok config)
include hRow hConfig

theorem publish_under (n : Notification) (targets : List Target) :
    Run.SameOver store ((executor.under (config.merged row.descriptor)).publish rule n targets)
      (executor.publish rule n targets) := by
  unfold publish
  rw [hConfig]
  refine (Run.SameOver.refl _).bind (Run.quiet_query _) ?_
  rintro publisher ⟨world, after, rfl, hQuery⟩
  obtain ⟨hLoaded, _⟩ := Run.returns_query_iff.mp hQuery
  -- The row is still the one of the store that the run began with, since a group changes none.
  obtain rfl : some row = publisher := hRow.symm.trans (Store.loadPublisher_eq_ok hLoaded)
  exact (Run.SameOver.attempt (start_deliver_under _ n targets)).followed _

theorem processGroup_under (windowStart : Time.Instant) (projects : List ProjectRef)
    (targets : List Target) (name : String) :
    Run.SameOver store
      ((executor.under (config.merged row.descriptor)).processGroup rule windowStart projects
        targets name)
      (executor.processGroup rule windowStart projects targets name) := by
  unfold processGroup
  split
  · exact .refl _
  · refine (Run.SameOver.refl _).bind (quiet_collect _ _ _ _ _) fun digest _ => ?_
    split
    · exact .refl _
    · refine (Run.SameOver.refl _).bind (quiet_announce _ _ _) fun n _ => ?_
      exact (publish_under hRow hConfig n targets).followed _

theorem processGroups_under (windowStart : Time.Instant) (projects : List ProjectRef)
    (targets : List Target) (names : List String) :
    Run.SameOver store
      ((executor.under (config.merged row.descriptor)).processGroups rule windowStart projects
        targets names)
      (executor.processGroups rule windowStart projects targets names) := by
  induction names with
  | nil => exact .refl _
  | cons name rest ih =>
    refine Run.SameOver.bind ?_ (quiet_processGroup _ _ _ _ _ _) fun _ _ => ih.followed _
    exact processGroup_under hRow hConfig windowStart projects targets name

/-- A run hands every publisher the configuration of the rule with the template and the media type
of the descriptor, and nothing else. -/
theorem execute_under {id : String} (hRule : store.rule? id = some rule) :
    Run.SameOver store ((executor.under (config.merged row.descriptor)).execute id)
      (executor.execute id) := by
  -- Only the groups reach a publisher; all that stands around them is the same in both runs.
  refine Run.SameOver.followed ?_ _
  unfold perform
  refine (Run.SameOver.refl _).bind (Run.quiet_query _) ?_
  rintro loaded ⟨world, _, rfl, hQuery⟩
  obtain ⟨hLoaded, _⟩ := Run.returns_query_iff.mp hQuery
  obtain rfl : loaded = rule := Option.some.inj ((Store.loadRule_eq_ok hLoaded).symm.trans hRule)
  split
  · exact .refl _
  · refine (Run.SameOver.refl _).bind (Run.quiet_log _) fun _ _ => ?_
    refine (Run.SameOver.refl _).bind (Run.quiet_query _) fun projects _ => ?_
    refine (Run.SameOver.refl _).bind (Run.quiet_query _) fun targets _ => ?_
    refine (Run.SameOver.refl _).bind (Run.quiet_ofExcept _) fun names _ => ?_
    exact (processGroups_under hRow hConfig _ projects targets names).followed _

end Handing

end Executor
end EventDigest

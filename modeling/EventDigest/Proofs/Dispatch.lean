import EventDigest.Proofs.Errands
import EventDigest.Proofs.Sorted
import Mathlib.Data.List.Induction
import Mathlib.Data.String.Basic

/-! # Registrations and what they lead to

However often keys are registered, the last registration of a key decides: it is what the key is
looked up as, and it alone settles which entry point of a publisher a notification reaches. What
keeps a descriptor from a publisher is one of five faults, and none of them arises after an entry
point was called.
-/
set_option autoImplicit false
namespace EventDigest
variable {β : Type}

/-- The class that a registration demands. -/
def Product.IsOf (targeted : Bool) : Product β → Prop
  | .publisher p => targeted = true → p.isTargeted = true
  | .thing _ => False

namespace Registry

/-- The registry after some registrations, the first one first. -/
def registered (calls : List (Registration β)) : Registry β :=
  calls.foldl (fun registry call => registry.register call.key call.targeted call.construct) []

/-- A registration is kept under its normal key. -/
def kept (call : Registration β) : Registration β := { call with key := normalKey call.key }

variable (calls : List (Registration β))

theorem registered_append (call : Registration β) : registered (calls ++ [call]) =
    Fields.put (normalKey call.key) (kept call) (registered calls) :=
  List.foldl_append

theorem find?_registered (key : Option String) : (registered calls).find? key =
    (calls.reverse.find? fun call => normalKey call.key = normalKey (key.getD "")).map kept := by
  induction calls using List.reverseRecOn with
  | nil => rfl
  | append_singleton calls call ih =>
    rw [registered_append, List.reverse_append, List.reverse_singleton, List.singleton_append,
      List.find?_cons]
    by_cases hKey : normalKey call.key = normalKey (key.getD "")
    · rw [decide_eq_true hKey, find?, ← hKey, Fields.get?_put_self]
      rfl
    · rw [decide_eq_false hKey, find?, Fields.get?_put_of_ne _ _ (Ne.symm hKey)]
      exact ih

theorem nodup_names_registered : (Fields.names (registered calls)).Nodup := by
  induction calls using List.reverseRecOn with
  | nil => exact List.nodup_nil
  | append_singleton calls call ih =>
    rw [registered_append]
    exact Fields.nodup_names_put ih _ _

theorem mem_names_registered (key : String) :
    key ∈ Fields.names (registered calls) ↔ ∃ call ∈ calls, normalKey call.key = key := by
  induction calls using List.reverseRecOn with
  | nil => simp [registered, Fields.names]
  | append_singleton calls call ih =>
    rw [registered_append, Fields.mem_names_put, ih]
    simp only [List.mem_append, List.mem_singleton, or_and_right, exists_or, exists_eq_left]
    rw [or_comm, eq_comm]

theorem mem_keys_registered (key : String) :
    key ∈ (registered calls).keys ↔ ∃ call ∈ calls, normalKey call.key = key :=
  List.mem_mergeSort.trans (mem_names_registered calls key)

/-- The keys stand in order, and none of them twice. -/
theorem pairwise_keys_registered : (registered calls).keys.Pairwise (· < ·) := by
  have hSorted : (registered calls).keys.Pairwise (· ≤ ·) := pairwise_sorted_by_key id _
  have hDistinct : (registered calls).keys.Nodup :=
    (List.mergeSort_perm _ _).nodup_iff.mpr (nodup_names_registered calls)
  exact (hSorted.and hDistinct).imp fun h => lt_of_le_of_ne h.1 h.2

/-- What keeps a descriptor from a publisher, and what is outside afterwards: only a construction
that was tried can have changed it. -/
inductive Refuses (registry : Registry β) (settings : Settings) (outside : β) :
    Option Descriptor → ResolutionFault → β → Prop
  | unassigned : Refuses registry settings outside none .unassigned outside
  | notScheduled {d : Descriptor} (hScheduled : d.scheduled = false) :
    Refuses registry settings outside (some d) (.notScheduled d.name) outside
  | unknownKey {d : Descriptor} (hScheduled : d.scheduled = true)
    (hUnknown : registry.find? d.key = none) :
    Refuses registry settings outside (some d) (.unknownKey d.key d.name) outside
  | notConstructed {d : Descriptor} {registration : Registration β} {fault : Fault} {later : β}
    (hScheduled : d.scheduled = true) (hFound : registry.find? d.key = some registration)
    (hFault : registration.construct settings outside = (.error fault, later)) :
    Refuses registry settings outside (some d)
      (.notConstructed registration.key fault.message) later
  | wrongClass {d : Descriptor} {registration : Registration β} {made : Product β} {later : β}
    (hScheduled : d.scheduled = true) (hFound : registry.find? d.key = some registration)
    (hMade : registration.construct settings outside = (.ok made, later))
    (hClass : ¬ made.IsOf registration.targeted) :
    Refuses registry settings outside (some d)
      (.wrongClass registration.key made.className registration.targeted) later

/-- A descriptor leads to a registration, and that to a publisher of the class it demands. -/
structure Finds (registry : Registry β) (settings : Settings) (outside : β) (d : Descriptor)
    (registration : Registration β) (publisher : Publisher β) (later : β) : Prop where
  scheduled : d.scheduled = true
  found : registry.find? d.key = some registration
  made : registration.construct settings outside = (.ok (.publisher publisher), later)
  isOf : (Product.publisher publisher).IsOf registration.targeted

variable {registry : Registry β} {settings : Settings}

theorem usable?_publisher {targeted : Bool} {p : Publisher β}
    (h : (Product.publisher p).IsOf targeted) : usable? targeted (.publisher p) = some p := by
  have hNot : (targeted && !p.isTargeted) = false := by
    cases targeted with
    | false => rfl
    | true => rw [h rfl]; rfl
  rw [usable?, hNot]
  rfl

theorem usable?_eq_none {targeted : Bool} {made : Product β} (h : ¬ made.IsOf targeted) :
    usable? targeted made = none := by
  cases made with
  | thing name => rfl
  | publisher p =>
    obtain ⟨hTargeted, hNot⟩ := Classical.not_imp.mp h
    rw [usable?, hTargeted, Bool.eq_false_iff.mpr hNot]
    rfl

theorem registrationOf_scheduled {d : Descriptor} (h : d.scheduled = true) :
    registry.registrationOf (some d) = match registry.find? d.key with
      | none => .error (.unknownKey d.key d.name)
      | some registration => .ok registration := by
  rw [registrationOf, h]
  rfl

theorem Refuses.start_resolve {descriptor : Option Descriptor} {fault : ResolutionFault}
    {later : β} {desk : Desk β}
    (h : registry.Refuses settings desk.outside descriptor fault later) :
    (registry.resolve settings descriptor).start desk =
      (.error (.resolution fault), { desk with outside := later }) := by
  cases h with
  | unassigned => rfl
  | notScheduled hScheduled =>
    rw [resolve, registrationOf, hScheduled]
    rfl
  | unknownKey hScheduled hUnknown =>
    rw [resolve, registrationOf_scheduled hScheduled, hUnknown]
    rfl
  | notConstructed hScheduled hFound hFault =>
    rw [resolve, registrationOf_scheduled hScheduled, hFound]
    simp only [Task.start_bind, Task.start_ask, hFault]
    rfl
  | wrongClass hScheduled hFound hMade hClass =>
    rw [resolve, registrationOf_scheduled hScheduled, hFound]
    simp only [Task.start_bind, Task.start_ask, hMade, usable?_eq_none hClass]
    rfl

theorem Finds.start_resolve {d : Descriptor} {registration : Registration β}
    {publisher : Publisher β} {later : β} {desk : Desk β}
    (h : registry.Finds settings desk.outside d registration publisher later) :
    (registry.resolve settings (some d)).start desk =
      (.ok (registration, publisher), { desk with outside := later }) := by
  rw [resolve, registrationOf_scheduled h.scheduled, h.found]
  simp only [Task.start_bind, Task.start_ask, h.made, usable?_publisher h.isOf]
  rfl

/-- Every descriptor, or none, is refused or leads to a publisher. -/
theorem refuses_or_finds (registry : Registry β) (settings : Settings) (outside : β)
    (descriptor : Option Descriptor) :
    (∃ fault later, registry.Refuses settings outside descriptor fault later) ∨
      ∃ d registration publisher later, descriptor = some d ∧
        registry.Finds settings outside d registration publisher later := by
  cases descriptor with
  | none => exact .inl ⟨_, _, .unassigned⟩
  | some d =>
    cases hScheduled : d.scheduled with
    | false => exact .inl ⟨_, _, .notScheduled hScheduled⟩
    | true =>
      cases hFound : registry.find? d.key with
      | none => exact .inl ⟨_, _, .unknownKey hScheduled hFound⟩
      | some registration =>
        rcases hMade : registration.construct settings outside with ⟨fault | made, later⟩
        · exact .inl ⟨_, _, .notConstructed hScheduled hFound hMade⟩
        · by_cases hClass : made.IsOf registration.targeted
          · cases made with
            | thing name => exact hClass.elim
            | publisher p =>
              exact .inr ⟨d, registration, p, later, rfl, hScheduled, hFound, hMade, hClass⟩
          · exact .inl ⟨_, _, .wrongClass hScheduled hFound hMade hClass⟩

/-- The entry point that a registration chooses, whatever class its publisher has: recipients go to
a targeted one, and all of them. -/
inductive Enters (registration : Registration β) (publisher : Publisher β) (ctx : Context)
    (n : Notification) (config : Config) : List Target → Task β Unit → Prop
  | withTargets {targets : List Target} (hTargeted : registration.targeted = true)
    (hTargets : targets ≠ []) :
    Enters registration publisher ctx n config targets
      (publisher.informTargets ctx n config targets)
  | untargeted {targets : List Target} (hUntargeted : registration.targeted = false) :
    Enters registration publisher ctx n config targets (publisher.inform ctx n config)
  | withoutTargets : Enters registration publisher ctx n config [] (publisher.inform ctx n config)

/-- With a publisher found, a dispatch is one line in the journal and then the entry point. -/
theorem Finds.start_dispatch {d : Descriptor} {registration : Registration β}
    {publisher : Publisher β} {later : β} {desk : Desk β}
    (h : registry.Finds settings desk.outside d registration publisher later) (logger : String)
    (ctx : Context) (n : Notification) (config : Config) (targets : List Target) :
    ∃ entry, Enters registration publisher ctx n config targets entry ∧ ∃ line,
      (registry.dispatch settings logger ctx n (some d) config targets).start desk =
        entry.start ⟨desk.journal ++ [.debug logger line], desk.deliveries, later⟩ := by
  simp only [dispatch, Task.start_bind, h.start_resolve]
  cases hTargeted : registration.targeted with
  | false => exact ⟨_, .untargeted hTargeted, _, by rw [Bool.false_and]; rfl⟩
  | true =>
    cases targets with
    | nil => exact ⟨_, .withoutTargets, _, rfl⟩
    | cons first rest => exact ⟨_, .withTargets hTargeted (List.cons_ne_nil _ _), _, rfl⟩

theorem Refuses.start_dispatch {descriptor : Option Descriptor} {fault : ResolutionFault}
    {later : β} {desk : Desk β} (h : registry.Refuses settings desk.outside descriptor fault later)
    (logger : String) (ctx : Context) (n : Notification) (config : Config)
    (targets : List Target) :
    (registry.dispatch settings logger ctx n descriptor config targets).start desk =
      (.error (.resolution fault), { desk with outside := later }) := by
  rw [dispatch, Task.start_bind, h.start_resolve]

/-- The last registration of a key, stripped and in small letters, decides what the key leads to. A
dispatch fails before anything was written or delivered, or is the call of one entry point, which
the registration chooses. -/
theorem last_registration_decides (calls : List (Registration β)) :
    (∀ key : Option String, (registered calls).find? key =
      (calls.reverse.find? fun call =>
        Text.lower (Text.trim call.key) = Text.lower (Text.trim (key.getD ""))).map
        fun call => { call with key := Text.lower (Text.trim call.key) }) ∧
    ((registered calls).keys.Pairwise (· < ·) ∧ ∀ key, key ∈ (registered calls).keys ↔
      ∃ call ∈ calls, Text.lower (Text.trim call.key) = key) ∧
    ∀ (settings : Settings) (logger : String) (ctx : Context) (n : Notification)
      (descriptor : Option Descriptor) (config : Config) (targets : List Target) (desk : Desk β),
      (∃ fault later, (registered calls).Refuses settings desk.outside descriptor fault later ∧
        ((registered calls).dispatch settings logger ctx n descriptor config targets).start desk =
          (.error (.resolution fault), { desk with outside := later })) ∨
      ∃ d registration publisher later entry line, descriptor = some d ∧
        (registered calls).Finds settings desk.outside d registration publisher later ∧
        Enters registration publisher ctx n config targets entry ∧
        ((registered calls).dispatch settings logger ctx n descriptor config targets).start desk =
          entry.start ⟨desk.journal ++ [.debug logger line], desk.deliveries, later⟩ := by
  refine ⟨find?_registered calls, ⟨pairwise_keys_registered calls, mem_keys_registered calls⟩, ?_⟩
  intro settings logger ctx n descriptor config targets desk
  rcases refuses_or_finds (registered calls) settings desk.outside descriptor with
    ⟨fault, later, hRefuses⟩ | ⟨d, registration, publisher, later, rfl, hFinds⟩
  · exact .inl ⟨fault, later, hRefuses, hRefuses.start_dispatch logger ctx n config targets⟩
  · obtain ⟨entry, hEnters, line, hStart⟩ := hFinds.start_dispatch logger ctx n config targets
    exact .inr ⟨d, registration, publisher, later, entry, line, rfl, hFinds, hEnters, hStart⟩

end EventDigest.Registry

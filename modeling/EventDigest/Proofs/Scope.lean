import EventDigest.Proofs.Descent
import EventDigest.Proofs.Details

/-! # What a rule covers

A rule without assigned projects covers every active project. Any other rule covers its active
assigned projects and, when it notifies children, the active projects below them that a way through
active projects leads to. An inactive project on the way hides what is below it.
-/
set_option autoImplicit false
namespace EventDigest
open Time

namespace Store
variable {store : Store} {rule : Rule}

def activeAssigned (store : Store) (rule : Rule) : List Project :=
  (store.assigned rule).filter (·.active)

/-- The projects behind the scope of a rule. -/
def covered (store : Store) (rule : Rule) : List Project :=
  if (store.assigned rule).isEmpty then Project.sorted (store.projects.filter (·.active))
  else store.activeAssigned rule ++
    if rule.notifyChildren then store.descendants ((store.activeAssigned rule).map (·.id)) else []

theorem scope_eq (store : Store) (rule : Rule) :
    store.scope rule = (store.covered rule).map Project.ref := by
  unfold scope covered activeAssigned
  cases store.assigned rule <;> rfl

theorem mem_assigned_iff {p : Project} :
    p ∈ store.assigned rule ↔ p ∈ store.projects ∧ p.id ∈ rule.projects := by
  simp [assigned, Project.mem_sorted_iff]

theorem assigned_isEmpty_iff :
    (store.assigned rule).isEmpty = true ↔ ∀ p ∈ store.projects, p.id ∉ rule.projects := by
  rw [List.isEmpty_iff, List.eq_nil_iff_forall_not_mem]
  simp only [mem_assigned_iff, not_and]

theorem mem_activeAssigned_iff {p : Project} : p ∈ store.activeAssigned rule ↔
    p ∈ store.projects ∧ p.id ∈ rule.projects ∧ p.active = true := by
  rw [activeAssigned, List.mem_filter, mem_assigned_iff, and_assoc]

theorem pairwise_activeAssigned : (store.activeAssigned rule).Pairwise Project.Before :=
  (Project.pairwise_sorted _).filter _

theorem nodup_activeAssigned (hKeys : (store.projects.map (·.id)).Nodup) :
    ((store.activeAssigned rule).map (·.id)).Nodup :=
  (List.filter_sublist.map _).nodup (nodup_ids_of_subperm hKeys (Project.perm_sorted _))

/-- How a rule with assigned projects is resolved: its own come first, and then those below them,
which a search without a bound finds. -/
structure Resolves (store : Store) (rule : Rule) (own more : List Project) : Prop where
  mem_own_iff : ∀ p, p ∈ own ↔ p ∈ store.projects ∧ p.id ∈ rule.projects ∧ p.active = true
  own_sorted : own.Pairwise Project.Before
  searched : rule.notifyChildren = true →
    store.Search (own.map (·.id)) (own.map (·.id)) more
  mem_more_iff : ∀ p, p ∈ more ↔ rule.notifyChildren = true ∧ p ∈ store.projects ∧
    p.active = true ∧ p ∉ own ∧ ∃ n, store.Reaches (own.map (·.id)) n p.id
  more_sorted : more.Pairwise (store.Nearer (own.map (·.id)))

/-- The roots are at distance zero, and everything else that can be reached lies further away. -/
theorem exists_further_iff {own : List Project} (hKeys : (store.projects.map (·.id)).Nodup)
    (hOwn : ∀ q ∈ own, q ∈ store.projects) {p : Project} (hRow : p ∈ store.projects) :
    (∃ m, 0 < m ∧ store.Distance (own.map (·.id)) m p.id) ↔
      p ∉ own ∧ ∃ n, store.Reaches (own.map (·.id)) n p.id := by
  have hZero : store.Distance (own.map (·.id)) 0 p.id ↔ p ∈ own := by
    rw [distance_zero_iff, List.mem_map]
    constructor
    · rintro ⟨q, hq, hSame⟩
      exact eq_of_id_eq hKeys (hOwn q hq) hRow hSame ▸ hq
    · exact fun hp => ⟨p, hp, rfl⟩
  rw [← hZero]
  constructor
  · rintro ⟨m, hFurther, hDistance⟩
    exact ⟨fun h => Nat.lt_irrefl m (hDistance.unique h ▸ hFurther), m, hDistance.1⟩
  · rintro ⟨hOther, n, hReaches⟩
    obtain ⟨m, _, hDistance⟩ := hReaches.exists_distance
    exact ⟨m, Nat.pos_of_ne_zero fun h => hOther (h ▸ hDistance), hDistance⟩

theorem resolves_of_assigned (hKeys : (store.projects.map (·.id)).Nodup)
    (hAssigned : ∃ p ∈ store.projects, p.id ∈ rule.projects) :
    ∃ more, store.covered rule = store.activeAssigned rule ++ more ∧
      store.Resolves rule (store.activeAssigned rule) more ∧
      ((store.activeAssigned rule ++ more).map (·.id)).Nodup := by
  have hNonempty : ¬(store.assigned rule).isEmpty = true := by
    rw [assigned_isEmpty_iff]
    obtain ⟨p, hRow, hOwn⟩ := hAssigned
    exact fun h => h p hRow hOwn
  have hRows : ∀ p ∈ store.activeAssigned rule, p ∈ store.projects :=
    fun p hp => (mem_activeAssigned_iff.mp hp).1
  rw [covered, if_neg hNonempty]
  refine ⟨_, rfl, ?_⟩
  cases hChildren : rule.notifyChildren with
  | false =>
    refine ⟨⟨fun p => mem_activeAssigned_iff, pairwise_activeAssigned, ?_, ?_, ?_⟩, ?_⟩
    · simp [hChildren]
    · simp [hChildren]
    · exact List.Pairwise.nil
    · simpa using nodup_activeAssigned hKeys
  | true =>
    have hSearch := search_descendants store ((store.activeAssigned rule).map (·.id))
    have hMore := hSearch.mem_iff frontier_roots hKeys
    refine ⟨⟨fun p => mem_activeAssigned_iff, pairwise_activeAssigned, fun _ => hSearch, ?_,
      hSearch.pairwise_nearer frontier_roots hKeys⟩, ?_⟩
    · intro p
      rw [if_pos rfl, hMore]
      constructor
      · rintro ⟨hRow, hActive, hFurther⟩
        exact ⟨hChildren, hRow, hActive, (exists_further_iff hKeys hRows hRow).mp hFurther⟩
      · rintro ⟨_, hRow, hActive, hReached⟩
        exact ⟨hRow, hActive, (exists_further_iff hKeys hRows hRow).mpr hReached⟩
    · rw [if_pos rfl, List.map_append, List.nodup_append]
      refine ⟨nodup_activeAssigned hKeys, hSearch.nodup_ids frontier_roots hKeys, ?_⟩
      rintro _ ha _ hb rfl
      obtain ⟨q, hq, hSame⟩ := List.mem_map.mp hb
      obtain ⟨_, _, m, hFurther, hDistance⟩ := (hMore q).mp hq
      rw [← distance_zero_iff store, ← hSame] at ha
      exact Nat.lt_irrefl m (hDistance.unique ha ▸ hFurther)

end Store

/-! A table whose parent links run in a circle, with an inactive project beside it. -/
namespace Sample

end Sample

namespace Store

end Store

end EventDigest

import EventDigest.Proofs.Sorted
import EventDigest.Store.Scope
import Mathlib.Data.List.Nodup

/-! # Projects below others

Projects are searched level by level, along the links from a parent to its active children. The
search ends on every table, whether its links form trees or run in circles. It finds each project
that can be reached at its distance from where the search began: the nearer ones first, and those
of one distance by name.
-/
set_option autoImplicit false
namespace EventDigest

namespace Project

/-- By name, and by identifier where names agree. -/
def Before (a b : Project) : Prop := a.name < b.name ∨ a.name = b.name ∧ a.id ≤ b.id

theorem precedes_iff (a b : Project) : precedes a b = true ↔ a.Before b := by
  simp [precedes, Before]

theorem Before.trans {a b c : Project} (hab : a.Before b) (hbc : b.Before c) : a.Before c := by
  rcases hab with hab | ⟨hab, hIds⟩
  · rcases hbc with hbc | ⟨hbc, _⟩
    · exact .inl (String.lt_trans hab hbc)
    · exact .inl (hbc ▸ hab)
  · rcases hbc with hbc | ⟨hbc, hIds'⟩
    · exact .inl (hab ▸ hbc)
    · exact .inr ⟨hab.trans hbc, String.le_trans hIds hIds'⟩

theorem before_total (a b : Project) : a.Before b ∨ b.Before a := by
  rcases Std.lt_trichotomy a.name b.name with hLt | hEq | hGt
  · exact .inl (.inl hLt)
  · rcases String.le_total a.id b.id with hLe | hLe
    · exact .inl (.inr ⟨hEq, hLe⟩)
    · exact .inr (.inr ⟨hEq.symm, hLe⟩)
  · exact .inr (.inl hGt)

theorem pairwise_sorted (projects : List Project) : (sorted projects).Pairwise Before :=
  pairwise_sorted_by precedes_iff (fun _ _ _ => Before.trans) before_total projects

theorem perm_sorted (projects : List Project) : (sorted projects).Perm projects :=
  List.mergeSort_perm _ _

theorem mem_sorted_iff {projects : List Project} {p : Project} :
    p ∈ sorted projects ↔ p ∈ projects := (perm_sorted projects).mem_iff

end Project

namespace Store
variable {store : Store} {roots seen level : List String} {found : List Project} {m n : Nat}
  {id : String}

theorem eq_of_id_eq (hKeys : (store.projects.map (·.id)).Nodup) {p q : Project}
    (hp : p ∈ store.projects) (hq : q ∈ store.projects) (h : p.id = q.id) : p = q :=
  List.inj_on_of_nodup_map hKeys hp hq h

theorem nodup_ids_of_subperm (hKeys : (store.projects.map (·.id)).Nodup) {test : Project → Bool}
    (h : found.Perm (store.projects.filter test)) : (found.map (·.id)).Nodup :=
  (h.map _).nodup_iff.mpr ((List.filter_sublist.map _).nodup hKeys)

/-- An identifier lies a number of links below one of the roots, and the way goes through active
projects. -/
inductive Reaches (store : Store) (roots : List String) : Nat → String → Prop
  | root (id : String) (hRoot : id ∈ roots) : Reaches store roots 0 id
  | child (n : Nat) (parent : String) (p : Project) (hParent : Reaches store roots n parent)
    (hRow : p ∈ store.projects) (hActive : p.active = true) (hLink : p.parent = some parent) :
    Reaches store roots (n + 1) p.id

/-- The least number of links that reach an identifier. -/
def Distance (store : Store) (roots : List String) (n : Nat) (id : String) : Prop :=
  store.Reaches roots n id ∧ ∀ m, store.Reaches roots m id → n ≤ m

theorem Distance.unique (hm : store.Distance roots m id) (hn : store.Distance roots n id) :
    m = n := Nat.le_antisymm (hm.2 n hn.1) (hn.2 m hm.1)

theorem Reaches.exists_distance (h : store.Reaches roots n id) :
    ∃ m, m ≤ n ∧ store.Distance roots m id := by
  induction n using Nat.strongRecOn with
  | ind n ih =>
    by_cases hLeast : ∀ m, store.Reaches roots m id → n ≤ m
    · exact ⟨n, Nat.le_refl n, h, hLeast⟩
    · simp only [not_forall, Nat.not_le] at hLeast
      obtain ⟨k, hReaches, hLess⟩ := hLeast
      obtain ⟨m, hLe, hDistance⟩ := ih k hLess hReaches
      exact ⟨m, Nat.le_trans hLe (Nat.le_of_lt hLess), hDistance⟩

theorem distance_zero_iff (store : Store) (roots : List String) (id : String) :
    store.Distance roots 0 id ↔ id ∈ roots := by
  constructor
  · rintro ⟨hReaches, _⟩
    cases hReaches
    assumption
  · intro hRoot
    exact ⟨.root id hRoot, fun m _ => Nat.zero_le m⟩

/-- One link further on lies the nearest of the ways that end in a link from a project that is
nearer by one. -/
theorem distance_succ_iff : store.Distance roots (n + 1) id ↔
    (∀ m, m ≤ n → ¬store.Reaches roots m id) ∧ ∃ parent p, store.Distance roots n parent ∧
      p ∈ store.projects ∧ p.active = true ∧ p.parent = some parent ∧ p.id = id := by
  constructor
  · rintro ⟨hReaches, hLeast⟩
    refine ⟨fun m hm h => Nat.not_succ_le_self n (Nat.le_trans (hLeast m h) hm), ?_⟩
    cases hReaches with
    | child _ parent p hParent hRow hActive hLink =>
      refine ⟨parent, p, ⟨hParent, fun m hm => ?_⟩, hRow, hActive, hLink, rfl⟩
      exact Nat.le_of_succ_le_succ (hLeast (m + 1) (.child m parent p hm hRow hActive hLink))
  · rintro ⟨hFar, parent, p, hParent, hRow, hActive, hLink, rfl⟩
    refine ⟨.child n parent p hParent.1 hRow hActive hLink, fun m hm => ?_⟩
    exact Nat.lt_of_not_le fun hLe => hFar m hLe hm

/-- Nothing is far without something at each distance before it. -/
theorem Distance.exists_nearer (h : store.Distance roots m id) (hLe : n ≤ m) :
    ∃ other, store.Distance roots n other := by
  induction m generalizing id with
  | zero => exact ⟨id, Nat.le_zero.mp hLe ▸ h⟩
  | succ m ih =>
    rcases Nat.lt_or_eq_of_le hLe with hLess | rfl
    · obtain ⟨_, parent, _, hParent, _⟩ := distance_succ_iff.mp h
      exact ih hParent (Nat.le_of_lt_succ hLess)
    · exact ⟨id, h⟩

/-- The children of a level that were not seen before it. -/
def fresh (store : Store) (seen level : List String) : List Project :=
  (store.activeChildren level).filter fun p => !seen.contains p.id

theorem mem_fresh_iff {p : Project} : p ∈ store.fresh seen level ↔ p ∈ store.projects ∧
    p.active = true ∧ (∃ parent ∈ level, p.parent = some parent) ∧ p.id ∉ seen := by
  have hLink : (p.parent.map level.contains).getD false = true ↔
      ∃ parent ∈ level, p.parent = some parent := by
    cases p.parent <;> simp
  simp only [fresh, activeChildren, List.mem_filter, Project.mem_sorted_iff, Bool.and_eq_true,
    hLink]
  simp [and_assoc]

theorem pairwise_fresh : (store.fresh seen level).Pairwise Project.Before :=
  (Project.pairwise_sorted _).filter _

theorem nodup_fresh (hKeys : (store.projects.map (·.id)).Nodup) :
    ((store.fresh seen level).map (·.id)).Nodup :=
  (List.filter_sublist.map _).nodup (nodup_ids_of_subperm hKeys (Project.perm_sorted _))

/-- The search without a bound on its rounds: it is over when a round has found nothing. -/
inductive Search (store : Store) : List String → List String → List Project → Prop
  | ended (seen : List String) : Search store seen [] []
  | round (seen level : List String) (found : List Project) (hLevel : level ≠ [])
    (hRest : Search store (seen ++ (store.fresh seen level).map (·.id))
      ((store.fresh seen level).map (·.id)) found) :
    Search store seen level (store.fresh seen level ++ found)

def unseen (store : Store) (seen : List String) : List Project :=
  store.projects.filter fun p => !seen.contains p.id

/-- A round that finds something leaves fewer projects to be seen. -/
theorem length_unseen_lt (h : store.fresh seen level ≠ []) :
    (store.unseen (seen ++ (store.fresh seen level).map (·.id))).length <
      (store.unseen seen).length := by
  obtain ⟨p, hFresh⟩ := List.exists_mem_of_ne_nil _ h
  obtain ⟨hRow, _, _, hUnseen⟩ := mem_fresh_iff.mp hFresh
  have hLeft : store.unseen (seen ++ (store.fresh seen level).map (·.id)) =
      (store.unseen seen).filter fun q => !((store.fresh seen level).map (·.id)).contains q.id := by
    rw [unseen, unseen, List.filter_filter]
    refine List.filter_congr fun q _ => ?_
    rw [List.contains_append, Bool.not_or, Bool.and_comm]
  have hMem : p ∈ store.unseen seen := by simp [unseen, hRow, hUnseen]
  rw [hLeft]
  refine List.length_filter_lt_length_iff_exists.mpr ⟨p, hMem, ?_⟩
  simpa using ⟨p, hFresh, rfl⟩

/-- The rounds that a search is given are enough for it when they outnumber the projects that it has
not seen. -/
theorem search_below (fuel : Nat) (seen level : List String)
    (hFuel : level = [] ∨ (store.unseen seen).length < fuel) :
    store.Search seen level (store.below fuel seen level) := by
  induction fuel generalizing seen level with
  | zero =>
    rcases hFuel with rfl | hFuel
    · exact .ended seen
    · exact (Nat.not_lt_zero _ hFuel).elim
  | succ fuel ih =>
    cases level with
    | nil => exact .ended seen
    | cons first others =>
      refine .round seen _ _ (List.cons_ne_nil _ _) (ih _ _ ?_)
      by_cases hFresh : store.fresh seen (first :: others) = []
      · exact .inl (by rw [hFresh, List.map_nil])
      · have hRows : (store.unseen seen).length < fuel + 1 :=
          hFuel.resolve_left (List.cons_ne_nil _ _)
        exact .inr (Nat.lt_of_lt_of_le (length_unseen_lt hFresh) (Nat.le_of_lt_succ hRows))

theorem search_descendants (store : Store) (roots : List String) :
    store.Search roots roots (store.descendants roots) :=
  search_below _ _ _ (.inr (Nat.lt_succ_of_le (List.length_filter_le _ _)))

/-- Where a search stands: it has seen what lies within a distance, and its level is what lies at
that distance. -/
structure Frontier (store : Store) (roots : List String) (n : Nat) (seen level : List String) :
    Prop where
  mem_seen_iff : ∀ id, id ∈ seen ↔ ∃ m, m ≤ n ∧ store.Reaches roots m id
  mem_level_iff : ∀ id, id ∈ level ↔ store.Distance roots n id

theorem frontier_roots : store.Frontier roots 0 roots roots where
  mem_seen_iff id := by
    rw [← distance_zero_iff store]
    constructor
    · exact fun h => ⟨0, Nat.le_refl 0, h.1⟩
    · rintro ⟨m, hm, hReaches⟩
      obtain rfl := Nat.le_zero.mp hm
      exact ⟨hReaches, fun k _ => Nat.zero_le k⟩
  mem_level_iff id := (distance_zero_iff store roots id).symm

theorem Frontier.mem_fresh_iff_distance (h : store.Frontier roots n seen level)
    (hKeys : (store.projects.map (·.id)).Nodup) {p : Project} : p ∈ store.fresh seen level ↔
      p ∈ store.projects ∧ p.active = true ∧ store.Distance roots (n + 1) p.id := by
  have hUnseen : p.id ∉ seen ↔ ∀ m, m ≤ n → ¬store.Reaches roots m p.id := by
    rw [h.mem_seen_iff]
    simp
  simp only [mem_fresh_iff, hUnseen, h.mem_level_iff, distance_succ_iff]
  constructor
  · rintro ⟨hRow, hActive, ⟨parent, hParent, hLink⟩, hFar⟩
    exact ⟨hRow, hActive, hFar, parent, p, hParent, hRow, hActive, hLink, rfl⟩
  · rintro ⟨hRow, hActive, hFar, parent, q, hParent, hOther, _, hLink, hSame⟩
    rw [eq_of_id_eq hKeys hOther hRow hSame] at hLink
    exact ⟨hRow, hActive, ⟨parent, hParent, hLink⟩, hFar⟩

theorem Frontier.next (h : store.Frontier roots n seen level)
    (hKeys : (store.projects.map (·.id)).Nodup) :
    store.Frontier roots (n + 1) (seen ++ (store.fresh seen level).map (·.id))
      ((store.fresh seen level).map (·.id)) := by
  have hLevel : ∀ id, id ∈ (store.fresh seen level).map (·.id) ↔
      store.Distance roots (n + 1) id := by
    intro id
    rw [List.mem_map]
    constructor
    · rintro ⟨p, hFresh, rfl⟩
      exact ((h.mem_fresh_iff_distance hKeys).mp hFresh).2.2
    · intro hDistance
      obtain ⟨_, parent, p, _, hRow, hActive, _, rfl⟩ := distance_succ_iff.mp hDistance
      exact ⟨p, (h.mem_fresh_iff_distance hKeys).mpr ⟨hRow, hActive, hDistance⟩, rfl⟩
  refine ⟨fun id => ?_, hLevel⟩
  rw [List.mem_append, h.mem_seen_iff, hLevel]
  constructor
  · rintro (⟨m, hm, hReaches⟩ | hDistance)
    · exact ⟨m, Nat.le_succ_of_le hm, hReaches⟩
    · exact ⟨n + 1, Nat.le_refl _, hDistance.1⟩
  · rintro ⟨m, hm, hReaches⟩
    obtain ⟨k, hk, hDistance⟩ := hReaches.exists_distance
    rcases Nat.lt_or_eq_of_le (Nat.le_trans hk hm) with hLess | rfl
    · exact .inl ⟨k, Nat.le_of_lt_succ hLess, hDistance.1⟩
    · exact .inr hDistance

/-- From where a search stands it finds the active projects that lie further away. -/
theorem Search.mem_iff (h : store.Search seen level found)
    (hFrontier : store.Frontier roots n seen level) (hKeys : (store.projects.map (·.id)).Nodup)
    (p : Project) : p ∈ found ↔ p ∈ store.projects ∧ p.active = true ∧
      ∃ m, n < m ∧ store.Distance roots m p.id := by
  induction h generalizing n with
  | ended seen =>
    refine iff_of_false List.not_mem_nil ?_
    rintro ⟨_, _, m, hFurther, hDistance⟩
    obtain ⟨other, hOther⟩ := hDistance.exists_nearer (Nat.le_of_lt hFurther)
    exact List.not_mem_nil ((hFrontier.mem_level_iff other).mpr hOther)
  | round seen level found hLevel hRest ih =>
    rw [List.mem_append, hFrontier.mem_fresh_iff_distance hKeys, ih (hFrontier.next hKeys)]
    constructor
    · rintro (⟨hRow, hActive, hDistance⟩ | ⟨hRow, hActive, m, hFurther, hDistance⟩)
      · exact ⟨hRow, hActive, n + 1, Nat.lt_succ_self n, hDistance⟩
      · exact ⟨hRow, hActive, m, Nat.lt_of_succ_lt hFurther, hDistance⟩
    · rintro ⟨hRow, hActive, m, hFurther, hDistance⟩
      rcases Nat.lt_or_eq_of_le (Nat.succ_le_of_lt hFurther) with hLess | rfl
      · exact .inr ⟨hRow, hActive, m, hLess, hDistance⟩
      · exact .inl ⟨hRow, hActive, hDistance⟩

/-- By distance, and by name and identifier where distances agree. -/
def Nearer (store : Store) (roots : List String) (a b : Project) : Prop :=
  ∃ m n, store.Distance roots m a.id ∧ store.Distance roots n b.id ∧
    (m < n ∨ m = n ∧ a.Before b)

/-- What a search finds is ordered by distance. -/
theorem Search.pairwise_nearer (h : store.Search seen level found)
    (hFrontier : store.Frontier roots n seen level) (hKeys : (store.projects.map (·.id)).Nodup) :
    found.Pairwise (store.Nearer roots) := by
  induction h generalizing n with
  | ended seen => exact List.Pairwise.nil
  | round seen level found hLevel hRest ih =>
    have hAt : ∀ p ∈ store.fresh seen level, store.Distance roots (n + 1) p.id :=
      fun p hp => ((hFrontier.mem_fresh_iff_distance hKeys).mp hp).2.2
    refine List.pairwise_append.mpr ⟨?_, ih (hFrontier.next hKeys), ?_⟩
    · refine pairwise_fresh.imp_of_mem fun {a b} ha hb hBefore => ?_
      exact ⟨n + 1, n + 1, hAt a ha, hAt b hb, .inr ⟨rfl, hBefore⟩⟩
    · intro a ha b hb
      obtain ⟨_, _, m, hFurther, hDistance⟩ := (hRest.mem_iff (hFrontier.next hKeys) hKeys b).mp hb
      exact ⟨n + 1, m, hAt a ha, hDistance, .inl hFurther⟩

theorem Search.nodup_ids (h : store.Search seen level found)
    (hFrontier : store.Frontier roots n seen level) (hKeys : (store.projects.map (·.id)).Nodup) :
    (found.map (·.id)).Nodup := by
  induction h generalizing n with
  | ended seen => exact List.nodup_nil
  | round seen level found hLevel hRest ih =>
    rw [List.map_append, List.nodup_append]
    refine ⟨nodup_fresh hKeys, ih (hFrontier.next hKeys), ?_⟩
    rintro _ ha _ hb rfl
    obtain ⟨q, hq, hSame⟩ := List.mem_map.mp hb
    obtain ⟨_, _, m, hFurther, hDistance⟩ := (hRest.mem_iff (hFrontier.next hKeys) hKeys q).mp hq
    rw [(hFrontier.next hKeys).mem_level_iff, ← hSame] at ha
    exact Nat.lt_irrefl _ (ha.unique hDistance ▸ hFurther)

end Store

end EventDigest

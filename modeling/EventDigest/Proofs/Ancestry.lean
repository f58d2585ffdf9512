import EventDigest.Proofs.Scope

/-! # Ancestors

Seen from a project, the scope of a rule that notifies children is a matter of its ancestors: an
active project is covered when one of them is assigned and active, and so is everything between the
two. Any inactive project in between hides it, and with it its events.
-/
set_option autoImplicit false
namespace EventDigest
open Time

namespace Store
variable {store : Store} {rule : Rule} {own : List Project} {n : Nat} {p q a : Project}

/-- The last project lies a number of parent links above the first. -/
inductive Ascends (store : Store) : Nat → Project → Project → Prop
  | here (p : Project) : Ascends store 0 p p
  | up (n : Nat) (p q a : Project) (hRow : q ∈ store.projects) (hLink : p.parent = some q.id)
    (hRest : Ascends store n q a) : Ascends store (n + 1) p a

/-- No project is its own ancestor. -/
def Forest (store : Store) : Prop := ∀ n p, ¬store.Ascends (n + 1) p p

theorem Ascends.depth_le (depth : Project → Nat)
    (hDepth : ∀ p, ∀ q ∈ store.projects, p.parent = some q.id → depth q < depth p)
    (h : store.Ascends n p a) : depth a + n ≤ depth p := by
  induction h with
  | here p => exact Nat.le_refl _
  | up n p q a hRow hLink hRest ih =>
    have hLess := hDepth p q hRow hLink
    omega

/-- The projects between the two are active. -/
def OpenBetween (store : Store) (n : Nat) (p : Project) : Prop :=
  ∀ k q, 0 < k → k < n → store.Ascends k p q → q.active = true

/-- An active assigned project is the project itself or an ancestor, with nothing inactive between
the two. -/
def HasOpenWay (store : Store) (rule : Rule) (p : Project) : Prop :=
  ∃ n a, store.Ascends n p a ∧ a ∈ store.activeAssigned rule ∧ store.OpenBetween n p

theorem OpenBetween.of_parent (hKeys : (store.projects.map (·.id)).Nodup)
    (hRow : q ∈ store.projects) (hLink : p.parent = some q.id) (hActive : q.active = true)
    (h : store.OpenBetween n q) : store.OpenBetween (n + 1) p := by
  intro k r hPos hLess hAscends
  cases hAscends with
  | here => exact (Nat.lt_irrefl 0 hPos).elim
  | up k p other r hOther hOtherLink hRest =>
    have hSame : other = q := by
      rw [hLink, Option.some.injEq] at hOtherLink
      exact eq_of_id_eq hKeys hOther hRow hOtherLink.symm
    subst hSame
    cases k with
    | zero =>
      cases hRest
      exact hActive
    | succ k => exact h (k + 1) r (Nat.succ_pos k) (Nat.lt_of_succ_lt_succ hLess) hRest

theorem OpenBetween.parent (hRow : q ∈ store.projects) (hLink : p.parent = some q.id)
    (h : store.OpenBetween (n + 1) p) : store.OpenBetween n q := by
  intro k r _ hLess hAscends
  exact h (k + 1) r (Nat.succ_pos k) (Nat.succ_lt_succ hLess) (.up k p q r hRow hLink hAscends)

theorem Reaches.exists_row (hOwn : ∀ a ∈ own, a ∈ store.projects ∧ a.active = true) {id : String}
    (h : store.Reaches (own.map (·.id)) n id) :
    ∃ q ∈ store.projects, q.active = true ∧ q.id = id := by
  cases h with
  | root _ hRoot =>
    obtain ⟨a, ha, rfl⟩ := List.mem_map.mp hRoot
    exact ⟨a, (hOwn a ha).1, (hOwn a ha).2, rfl⟩
  | child n parent p _ hRow hActive => exact ⟨p, hRow, hActive, rfl⟩

theorem Reaches.exists_ascends (hKeys : (store.projects.map (·.id)).Nodup)
    (hOwn : ∀ a ∈ own, a ∈ store.projects ∧ a.active = true) {id : String}
    (h : store.Reaches (own.map (·.id)) n id) (hRow : p ∈ store.projects) (hSame : p.id = id) :
    ∃ a ∈ own, store.Ascends n p a ∧ store.OpenBetween n p := by
  induction h generalizing p with
  | root id hRoot =>
    obtain ⟨a, ha, hId⟩ := List.mem_map.mp hRoot
    obtain rfl := eq_of_id_eq hKeys (hOwn a ha).1 hRow (hId.trans hSame.symm)
    exact ⟨a, ha, .here a, fun k _ _ hLess => (Nat.not_lt_zero k hLess).elim⟩
  | child n parent other hParent hOther _ hLink ih =>
    obtain rfl := eq_of_id_eq hKeys hRow hOther hSame
    obtain ⟨q, hParentRow, hActive, rfl⟩ := hParent.exists_row hOwn
    obtain ⟨a, ha, hAscends, hOpen⟩ := ih hParentRow rfl
    exact ⟨a, ha, .up n p q a hParentRow hLink hAscends,
      hOpen.of_parent hKeys hParentRow hLink hActive⟩

theorem Ascends.reaches (hOwn : ∀ a ∈ own, a ∈ store.projects ∧ a.active = true)
    (h : store.Ascends n p a) (ha : a ∈ own) (hRow : p ∈ store.projects) (hActive : p.active = true)
    (hOpen : store.OpenBetween n p) : store.Reaches (own.map (·.id)) n p.id := by
  induction h with
  | here p => exact .root p.id (List.mem_map_of_mem ha)
  | up n p q a hParentRow hLink hRest ih =>
    have hParent : q.active = true := by
      cases n with
      | zero =>
        cases hRest
        exact (hOwn q ha).2
      | succ n =>
        exact hOpen 1 q Nat.one_pos (Nat.succ_lt_succ (Nat.succ_pos n))
          (.up 0 p q q hParentRow hLink (.here q))
    exact .child n q.id p (ih ha hParentRow hParent (hOpen.parent hParentRow hLink)) hRow hActive
      hLink

/-- Ways down from the assigned projects are open ways up to them. -/
theorem exists_reaches_iff_hasOpenWay (hKeys : (store.projects.map (·.id)).Nodup)
    (hRow : p ∈ store.projects) (hActive : p.active = true) :
    (∃ n, store.Reaches ((store.activeAssigned rule).map (·.id)) n p.id) ↔
      store.HasOpenWay rule p := by
  have hOwn : ∀ a ∈ store.activeAssigned rule, a ∈ store.projects ∧ a.active = true := by
    intro a ha
    obtain ⟨hOwnRow, _, hOwnActive⟩ := mem_activeAssigned_iff.mp ha
    exact ⟨hOwnRow, hOwnActive⟩
  constructor
  · rintro ⟨n, hReaches⟩
    obtain ⟨a, ha, hAscends, hOpen⟩ := hReaches.exists_ascends hKeys hOwn hRow rfl
    exact ⟨n, a, hAscends, ha, hOpen⟩
  · rintro ⟨n, a, hAscends, ha, hOpen⟩
    exact ⟨n, hAscends.reaches hOwn ha hRow hActive hOpen⟩

theorem mem_covered_iff (hKeys : (store.projects.map (·.id)).Nodup)
    (hChildren : rule.notifyChildren = true)
    (hAssigned : ∃ a ∈ store.projects, a.id ∈ rule.projects) (hRow : p ∈ store.projects)
    (hActive : p.active = true) : p ∈ store.covered rule ↔ store.HasOpenWay rule p := by
  obtain ⟨more, hCovered, hResolves, _⟩ := resolves_of_assigned hKeys hAssigned
  rw [hCovered, List.mem_append, hResolves.mem_more_iff, ← exists_reaches_iff_hasOpenWay hKeys hRow
    hActive]
  constructor
  · rintro (hOwn | ⟨_, _, _, _, hReached⟩)
    · exact ⟨0, .root p.id (List.mem_map_of_mem hOwn)⟩
    · exact hReached
  · intro hReached
    by_cases hOwn : p ∈ store.activeAssigned rule
    · exact .inl hOwn
    · exact .inr ⟨hChildren, hRow, hActive, hOwn, hReached⟩

theorem exists_ref_iff_covered (hKeys : (store.projects.map (·.id)).Nodup)
    (hAssigned : ∃ a ∈ store.projects, a.id ∈ rule.projects) (hRow : p ∈ store.projects) :
    (∃ ref ∈ store.scope rule, ref.id = p.id) ↔ p ∈ store.covered rule := by
  obtain ⟨more, hCovered, hResolves, _⟩ := resolves_of_assigned hKeys hAssigned
  have hRows : ∀ q ∈ store.covered rule, q ∈ store.projects := by
    intro q hq
    rw [hCovered, List.mem_append, hResolves.mem_own_iff, hResolves.mem_more_iff] at hq
    rcases hq with ⟨hOwnRow, _⟩ | ⟨_, hMoreRow, _⟩
    · exact hOwnRow
    · exact hMoreRow
  rw [scope_eq]
  constructor
  · rintro ⟨ref, hRef, hSame⟩
    obtain ⟨q, hq, rfl⟩ := List.mem_map.mp hRef
    exact eq_of_id_eq hKeys (hRows q hq) hRow hSame ▸ hq
  · exact fun hp => ⟨p.ref, List.mem_map_of_mem hp, rfl⟩

theorem ref_mem_scope_iff (hKeys : (store.projects.map (·.id)).Nodup)
    (hAssigned : ∃ a ∈ store.projects, a.id ∈ rule.projects) (hRow : p ∈ store.projects) :
    p.ref ∈ store.scope rule ↔ p ∈ store.covered rule := by
  constructor
  · exact fun h => (exists_ref_iff_covered hKeys hAssigned hRow).mp ⟨p.ref, h, rfl⟩
  · intro h
    rw [scope_eq]
    exact List.mem_map_of_mem h

/-- A rule that notifies children covers an active project, and its digests tell of the new events
of that project, exactly when an active assigned project is found by going up from it past active
projects only. -/
theorem monitored_iff_hasOpenWay (hKeys : (store.projects.map (·.id)).Nodup)
    (hChildren : rule.notifyChildren = true)
    (hAssigned : ∃ a ∈ store.projects, a.id ∈ rule.projects) (hRow : p ∈ store.projects)
    (hActive : p.active = true) :
    (p.ref ∈ store.scope rule ↔ store.HasOpenWay rule p) ∧
      ∀ group windowStart includeSuppressed digest,
        Digest.collect store.eventSource (store.scope rule) windowStart group includeSuppressed =
          .ok digest →
        ∀ e ∈ store.events group, e.project = p.id → windowStart < e.occurredAt →
          e.suppressed = false → (e ∈ digest.events ↔ store.HasOpenWay rule p) := by
  have hCovered := mem_covered_iff hKeys hChildren hAssigned hRow hActive
  refine ⟨(ref_mem_scope_iff hKeys hAssigned hRow).trans hCovered, ?_⟩
  intro group windowStart includeSuppressed digest hDigest e he hProject hLater hNew
  rw [mem_collected_iff hDigest, hProject, exists_ref_iff_covered hKeys hAssigned hRow, hCovered]
  constructor
  · exact fun h => h.2.1
  · exact fun h => ⟨he, h, hLater, .inr hNew⟩

end Store

/-! A chain of three projects whose first is assigned. The second may be inactive. -/
namespace Sample

def watching : Rule := rule ["NEW_VULNERABILITY"] (instant 100)

def head : Project := ⟨"p1", "Acme", none, true, none⟩

def middle (active : Bool) : Project := ⟨"p2", "Acme Labs", none, active, some "p1"⟩

def leaf : Project := ⟨"p3", "Acme Cloud", none, true, some "p2"⟩

def chain (active : Bool) : Store :=
  { store watching [finding 1 "p3" (instant 150)] with projects := [head, middle active, leaf] }

theorem mem_chain (active : Bool) : head ∈ (chain active).projects ∧
    middle active ∈ (chain active).projects ∧ leaf ∈ (chain active).projects := by
  simp [chain]

theorem ascends_chain (active : Bool) : (chain active).Ascends 2 leaf head :=
  .up 1 leaf (middle active) head (mem_chain active).2.1 rfl
    (.up 0 (middle active) head head (mem_chain active).1 rfl (.here head))

theorem forest_chain (active : Bool) : (chain active).Forest := by
  -- As deep as the parent that a project names.
  let depth : Project → Nat := fun p =>
    if p.parent = none then 0 else if p.parent = some "p1" then 1
    else if p.parent = some "p2" then 2 else 3
  intro n p h
  refine Nat.not_succ_le_self _ (Nat.le_trans ?_ (h.depth_le depth ?_))
  · exact Nat.add_le_add_left (Nat.succ_le_succ (Nat.zero_le n)) (depth p)
  · intro p q hq hLink
    simp only [chain, List.mem_cons, List.not_mem_nil, or_false] at hq
    rcases hq with rfl | rfl | rfl
    · simp [depth, hLink, head]
    · simp [depth, hLink, middle]
    · simp [depth, hLink, leaf]

theorem head_mem_activeAssigned (active : Bool) :
    head ∈ (chain active).activeAssigned watching :=
  Store.mem_activeAssigned_iff.mpr ⟨(mem_chain active).1, by decide, rfl⟩

end Sample

namespace Store

theorem monitored_iff_hasOpenWay_on_a_chain :
    Sample.leaf.ref ∈ (Sample.chain true).scope Sample.watching ∧
      ∀ digest, Digest.collect (Sample.chain true).eventSource
          ((Sample.chain true).scope Sample.watching) (Sample.instant 100) .vulnerability true =
            .ok digest →
        (Sample.finding 1 "p3" (Sample.instant 150)).toEvent ∈ digest.events := by
  have hKeys : ((Sample.chain true).projects.map (·.id)).Nodup := by decide
  obtain ⟨hHead, hMiddle, hLeaf⟩ := Sample.mem_chain true
  have hStart : (Sample.chain true).OpenBetween 0 Sample.head :=
    fun k _ _ hLess => (Nat.not_lt_zero k hLess).elim
  have hWay : (Sample.chain true).HasOpenWay Sample.watching Sample.leaf :=
    ⟨2, Sample.head, Sample.ascends_chain true, Sample.head_mem_activeAssigned true,
      (hStart.of_parent hKeys hHead rfl rfl).of_parent (q := Sample.middle true) hKeys hMiddle rfl
        rfl⟩
  obtain ⟨hScope, hDigests⟩ := monitored_iff_hasOpenWay (p := Sample.leaf) hKeys
    (show Sample.watching.notifyChildren = true from rfl)
    ⟨Sample.head, hHead, by decide⟩ hLeaf rfl
  refine ⟨hScope.mpr hWay, fun digest hDigest => ?_⟩
  exact (hDigests _ _ _ digest hDigest _ (List.mem_singleton_self _) rfl (by decide) rfl).mpr hWay

/-- In a forest an active project with an assigned active ancestor can go uncovered: its parent is
not active. -/
theorem child_of_inactive_hidden :
    ((Sample.chain false).projects.map (·.id)).Nodup ∧ (Sample.chain false).Forest ∧
      Sample.watching.notifyChildren = true ∧ Sample.leaf ∈ (Sample.chain false).projects ∧
      Sample.leaf.active = true ∧
      Sample.head ∈ (Sample.chain false).activeAssigned Sample.watching ∧
      (Sample.chain false).Ascends 2 Sample.leaf Sample.head ∧
      Sample.leaf.ref ∉ (Sample.chain false).scope Sample.watching :=
  ⟨by decide, Sample.forest_chain false, rfl, (Sample.mem_chain false).2.2, rfl,
    Sample.head_mem_activeAssigned false, Sample.ascends_chain false, by decide +kernel⟩

end Store

end EventDigest

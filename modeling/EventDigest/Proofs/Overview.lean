import EventDigest.Digest
import EventDigest.Proofs.Counts
import Mathlib.Data.List.Induction

/-! # What an overview counts

The overview of a digest is counted up section by section. What has been counted after some of them
is what their events come to all at once, and so is the overview in the end.
-/
set_option autoImplicit false
namespace EventDigest

section
variable {α : Type} [DecidableEq α]

theorem mem_distinct_iff (a : α) (as : List α) : a ∈ distinct as ↔ a ∈ as := by
  induction as with
  | nil => simp [distinct]
  | cons b rest ih =>
    rw [distinct, List.mem_cons, List.mem_cons, List.mem_filter, ih]
    by_cases h : a = b
    · simp [h]
    · simp [h]

theorem nodup_distinct (as : List α) : (distinct as).Nodup := by
  induction as with
  | nil => exact List.nodup_nil
  | cons a rest ih =>
    rw [distinct, List.nodup_cons]
    exact ⟨by simp, ih.filter _⟩

/-- However a list without repetitions was put together, it is as long as the distinct elements. -/
theorem length_eq_distinct {as seen : List α} (hSeen : seen.Nodup) (hMem : ∀ a, a ∈ seen ↔ a ∈ as) :
    seen.length = (distinct as).length := by
  refine List.Perm.length_eq
    ((List.perm_ext_iff_of_nodup hSeen (nodup_distinct as)).mpr fun a => ?_)
  rw [hMem, mem_distinct_iff]

end

namespace Counts

/-- In a map without repetitions one entry at most is about a category. -/
theorem sum_about {counts : Counts} (h : counts.names.Nodup) (category : String) :
    ((counts.filter fun field => field.1 = category).map (·.2)).sum = counts.of category := by
  induction counts with
  | nil => rfl
  | cons field rest ih =>
    obtain ⟨key, n⟩ := field
    obtain ⟨hKey, hRest⟩ := List.nodup_cons.mp h
    by_cases hSame : key = category
    · subst hSame
      have hNone : (rest.filter fun field => field.1 = key) = [] := by
        refine List.filter_eq_nil_iff.mpr fun other hOther hName => hKey ?_
        exact List.mem_map.mpr ⟨other, hOther, of_decide_eq_true hName⟩
      rw [List.filter_cons_of_pos (by simp), hNone]
      simp [of, Fields.get?]
    · have hOther : (category == key) = false := beq_false_of_ne (Ne.symm hSame)
      rw [List.filter_cons_of_neg (by simpa using hSame), ih hRest]
      simp [of, Fields.get?, List.lookup_cons, hOther]

theorem of_addAll (counts : Counts) {later : Counts} (h : later.names.Nodup) (category : String) :
    (counts.addAll later).of category = counts.of category + later.of category := by
  rw [← sum_about h]
  exact of_foldl_add Prod.fst Prod.snd later counts category

end Counts

namespace Digest
namespace Running

/-- What has been counted after some sections. -/
structure Covers (includeSuppressed : Bool) (sections : List Section) (running : Running) :
    Prop where
  newCount : running.newCount = (sections.flatMap (·.newEvents)).length
  affectedProjects : running.affectedProjects = (sections.filter (!·.newEvents.isEmpty)).length
  suppressedCount : running.suppressedCount =
    if includeSuppressed then ((sections.flatMap (·.events)).filter (·.suppressed)).length else 0
  nodup_categories : running.newCategories.names.Nodup
  newCategories : ∀ category, running.newCategories.of category =
    ((sections.flatMap (·.newEvents)).map (·.category)).count category
  nodup_components : running.components.Nodup
  mem_components : ∀ key, key ∈ running.components ↔
    key ∈ (sections.flatMap (·.newEvents)).map (·.componentKey)

theorem covers_start (includeSuppressed : Bool) : start.Covers includeSuppressed [] where
  newCount := rfl
  affectedProjects := rfl
  suppressedCount := by cases includeSuppressed <;> rfl
  nodup_categories := List.nodup_nil
  newCategories _ := rfl
  nodup_components := List.nodup_nil
  mem_components _ := Iff.rfl

theorem Covers.count {includeSuppressed : Bool} {sections : List Section} {running : Running}
    (h : running.Covers includeSuppressed sections) (s : Section) :
    (running.count includeSuppressed s).Covers includeSuppressed (sections ++ [s]) := by
  have hNew : (sections ++ [s]).flatMap (·.newEvents) =
      sections.flatMap (·.newEvents) ++ s.newEvents := by simp
  constructor
  case newCount =>
    change running.newCount + _ = _
    rw [hNew, List.length_append, h.newCount]
    rfl
  case affectedProjects =>
    change running.affectedProjects + _ = _
    rw [List.filter_append, List.length_append, h.affectedProjects]
    cases hNone : s.newEvents.isEmpty with
    | false => simp [hNone]
    | true => simp [hNone]
  case suppressedCount =>
    change running.suppressedCount + _ = _
    rw [h.suppressedCount]
    cases includeSuppressed with
    | false => rfl
    | true => simp
  case nodup_categories => exact Counts.nodup_names_foldl_add _ _ _ h.nodup_categories
  case newCategories =>
    intro category
    change (running.newCategories.addAll _).of category = _
    rw [hNew, List.map_append, List.count_append, Counts.of_addAll _ (Counts.nodup_names_tally _),
      h.newCategories, Counts.of_tally]
    rfl
  case nodup_components => exact h.nodup_components.union _
  case mem_components =>
    intro key
    change key ∈ s.newEvents.map (·.componentKey) ∪ running.components ↔ _
    rw [hNew, List.map_append, List.mem_append, List.mem_union_iff, h.mem_components, or_comm]

theorem covers_foldl (includeSuppressed : Bool) (sections : List Section) :
    (sections.foldl (Running.count includeSuppressed) start).Covers includeSuppressed sections := by
  induction sections using List.reverseRecOn with
  | nil => exact covers_start includeSuppressed
  | append_singleton sections s ih =>
    rw [List.foldl_append]
    exact ih.count s

end Running

/-- An overview shows what the events of its sections come to all at once. -/
theorem overviewOf_eq (group : Group) (includeSuppressed : Bool) (sections : List Section) :
    overviewOf group includeSuppressed sections =
      { newCount := (sections.flatMap (·.newEvents)).length
        affectedProjects := (sections.filter (!·.newEvents.isEmpty)).length
        affectedComponents :=
          (distinct ((sections.flatMap (·.newEvents)).map (·.componentKey))).length
        suppressedCount := if includeSuppressed then
          ((sections.flatMap (·.events)).filter (·.suppressed)).length else 0
        newByCategory := tallyOrdered group (sections.flatMap (·.newEvents)) } := by
  have h := Running.covers_foldl includeSuppressed sections
  have hCategories : ∀ category, Counts.of _ category = Counts.of _ category := fun category =>
    (h.newCategories category).trans (Counts.of_tally _ category).symm
  simp only [overviewOf, Running.overview, Overview.mk.injEq]
  refine ⟨h.newCount, h.affectedProjects, ?_, ?_, ?_⟩
  · exact congrArg Int.ofNat (length_eq_distinct h.nodup_components h.mem_components)
  · rw [h.suppressedCount]
    cases includeSuppressed <;> rfl
  · exact Counts.ordered_congr h.nodup_categories (Counts.nodup_names_tally _) hCategories

end Digest

end EventDigest

import EventDigest.Counts
import EventDigest.Proofs.Sorted
import Mathlib.Algebra.BigOperators.Group.Finset.Piecewise
import Mathlib.Algebra.Ring.Int.Defs
import Mathlib.Data.List.Perm.Basic

/-! # Laws of counts

A tally counts what it is given. The order in which a count map is shown loses no count and no
category and depends on the counts alone, and the total of a map is the sum of its counts.
-/
set_option autoImplicit false
namespace EventDigest.Counts

theorem of_add (counts : Counts) (category other : String) (n : Int) :
    (counts.add category n).of other = counts.of other + if other = category then n else 0 := by
  by_cases h : other = category
  · subst h
    simp [add, of, Fields.get?_put_self]
  · simp [add, of, Fields.get?_put_of_ne _ _ h, h]

section
variable {α : Type} (key : α → String) (n : α → Int) (as : List α)

theorem of_foldl_add (counts : Counts) (category : String) :
    (as.foldl (fun counts a => counts.add (key a) (n a)) counts).of category =
      counts.of category + ((as.filter fun a => key a = category).map n).sum := by
  induction as generalizing counts with
  | nil => simp
  | cons first rest ih =>
    rw [List.foldl_cons, ih, of_add, List.filter_cons]
    by_cases h : key first = category
    · rw [if_pos h.symm, if_pos (decide_eq_true h), List.map_cons, List.sum_cons, Int.add_assoc]
    · rw [if_neg (Ne.symm h), if_neg (by simpa using h), Int.add_zero]

theorem nodup_names_foldl_add {counts : Counts} (h : counts.names.Nodup) :
    (Fields.names
      (as.foldl (fun (counts : Counts) a => counts.add (key a) (n a)) counts)).Nodup := by
  induction as generalizing counts with
  | nil => exact h
  | cons first rest ih => exact ih (Fields.nodup_names_put h _ _)

end

theorem of_tally (categories : List String) (category : String) :
    (tally categories).of category = categories.count category := by
  rw [tally, of_foldl_add (fun category => category) (fun _ => 1), List.count_eq_length_filter]
  simp [of, Fields.get?, beq_eq_decide]

theorem nodup_names_tally (categories : List String) : (tally categories).names.Nodup :=
  nodup_names_foldl_add _ _ categories List.nodup_nil

/-- In a map without repetitions a count that is not zero is an entry. -/
theorem of_eq_iff_mem {counts : Counts} (h : counts.names.Nodup) (category : String) {n : Int}
    (hn : n ≠ 0) : counts.of category = n ↔ (category, n) ∈ counts := by
  rw [← Fields.get?_eq_some_iff h, of]
  cases Fields.get? counts category with
  | none => simpa using hn.symm
  | some m => simp

theorem mem_ordered_iff {order : List String} {counts : Counts} (h : counts.names.Nodup)
    (category : String) (n : Int) :
    (category, n) ∈ counts.ordered order ↔ (category, n) ∈ counts ∧ n ≠ 0 := by
  rw [ordered, List.mem_append, known, unknown, List.mem_mergeSort, List.mem_filter,
    List.mem_filter, List.mem_map]
  by_cases hn : n = 0
  · simp [hn]
  · rw [← of_eq_iff_mem h category hn]
    by_cases hKnown : category ∈ order
    · simp [hn, hKnown]
    · simp [hn, hKnown]

theorem perm_unknown (counts : Counts) (order : List String) :
    ∃ rest : Counts, rest.Sublist counts ∧ (counts.unknown order).Perm rest :=
  ⟨_, List.filter_sublist, List.mergeSort_perm _ _⟩

theorem mem_unknown_iff (counts : Counts) (order : List String) (field : String × Int) :
    field ∈ counts.unknown order ↔ field ∈ counts ∧ field.1 ∉ order ∧ field.2 ≠ 0 := by
  rw [unknown, List.mem_mergeSort, List.mem_filter]
  simp

theorem pairwise_unknown (counts : Counts) (order : List String) :
    (counts.unknown order).Pairwise fun a b => a.1 ≤ b.1 :=
  pairwise_sorted_by_key Prod.fst _

theorem nodup_names_unknown {counts : Counts} (h : counts.names.Nodup) (order : List String) :
    (Fields.names (counts.unknown order)).Nodup := by
  obtain ⟨rest, hRest, hPerm⟩ := counts.perm_unknown order
  exact (hPerm.map _).nodup_iff.mpr ((hRest.map _).nodup h)

/-- Among maps without repetitions the order in which they are shown depends on the counts alone. -/
theorem ordered_congr {order : List String} {counts other : Counts} (h : counts.names.Nodup)
    (hOther : other.names.Nodup) (hSame : ∀ category, counts.of category = other.of category) :
    counts.ordered order = other.ordered order := by
  have hKnown : counts.known order = other.known order := by simp only [known, hSame]
  have hMem : ∀ field, field ∈ counts.unknown order ↔ field ∈ other.unknown order := by
    rintro ⟨category, n⟩
    rw [mem_unknown_iff, mem_unknown_iff]
    refine and_congr_left fun hShown => ?_
    rw [← of_eq_iff_mem h category hShown.2, ← of_eq_iff_mem hOther category hShown.2, hSame]
  have hNodup : ∀ fields : Counts, fields.names.Nodup → (fields.unknown order).Nodup :=
    fun _ hNames => List.Nodup.of_map _ (nodup_names_unknown hNames order)
  have hUnknown : counts.unknown order = other.unknown order := by
    refine List.Perm.eq_of_pairwise ?_ (counts.pairwise_unknown order)
      (other.pairwise_unknown order)
      ((List.perm_ext_iff_of_nodup (hNodup _ h) (hNodup _ hOther)).mpr hMem)
    rintro ⟨category, m⟩ ⟨name, n⟩ hLeft hRight hUp hDown
    obtain rfl : category = name := String.le_antisymm hUp hDown
    obtain ⟨hLeft, _, hm⟩ := (mem_unknown_iff _ _ _).mp hLeft
    obtain ⟨hRight, _, hn⟩ := (mem_unknown_iff _ _ _).mp hRight
    rw [← of_eq_iff_mem h category hm] at hLeft
    rw [← of_eq_iff_mem hOther category hn] at hRight
    exact congrArg (Prod.mk category) (hLeft.symm.trans ((hSame category).trans hRight))
  rw [ordered, ordered, hKnown, hUnknown]

theorem sublist_names_known (counts : Counts) (order : List String) :
    (Fields.names (counts.known order)).Sublist order := by
  have hAll : (counts.known order).Sublist
      (order.map fun category => (category, counts.of category)) := List.filter_sublist
  simpa [Fields.names, Function.comp_def] using hAll.map (·.1)

theorem not_mem_of_mem_names_unknown {counts : Counts} {order : List String} {category : String}
    (h : category ∈ Fields.names (counts.unknown order)) : category ∉ order := by
  obtain ⟨field, hField, rfl⟩ := List.mem_map.mp h
  exact ((mem_unknown_iff _ _ _).mp hField).2.1

theorem nodup_names_ordered {order : List String} {counts : Counts} (hOrder : order.Nodup)
    (h : counts.names.Nodup) : (Fields.names (counts.ordered order)).Nodup := by
  rw [ordered, Fields.names, List.map_append, List.nodup_append']
  refine ⟨(sublist_names_known counts order).nodup hOrder, nodup_names_unknown h order, ?_⟩
  intro category hKnown hUnknown
  exact not_mem_of_mem_names_unknown hUnknown ((sublist_names_known counts order).subset hKnown)

/-- Two maps without repetitions that have the same entries, zeros aside, count the same. -/
theorem of_congr {counts other : Counts} (h : counts.names.Nodup) (hOther : other.names.Nodup)
    (hSame : ∀ category n, n ≠ 0 → ((category, n) ∈ counts ↔ (category, n) ∈ other))
    (category : String) : counts.of category = other.of category := by
  have hIff : ∀ n : Int, n ≠ 0 → (counts.of category = n ↔ other.of category = n) := by
    intro n hn
    rw [of_eq_iff_mem h category hn, of_eq_iff_mem hOther category hn, hSame category n hn]
  by_cases hZero : other.of category = 0
  · by_contra hDiffers
    have hNonzero : counts.of category ≠ 0 := hZero ▸ hDiffers
    exact hDiffers ((hIff _ hNonzero).mp rfl).symm
  · exact (hIff _ hZero).mpr rfl

theorem of_ordered {order : List String} {counts : Counts} (hOrder : order.Nodup)
    (h : counts.names.Nodup) (category : String) :
    (counts.ordered order).of category = counts.of category := by
  refine of_congr (nodup_names_ordered hOrder h) h (fun category n hn => ?_) category
  rw [mem_ordered_iff h, and_iff_left hn]

/-- The categories outside the known ones stand in ascending order of their code points. -/
theorem pairwise_names_unknown {counts : Counts} (h : counts.names.Nodup) (order : List String) :
    (Fields.names (counts.unknown order)).Pairwise (· < ·) := by
  have hSorted : (Fields.names (counts.unknown order)).Pairwise (· ≤ ·) :=
    List.pairwise_map.mpr (counts.pairwise_unknown order)
  exact (hSorted.and (nodup_names_unknown h order)).imp fun h => Std.lt_of_le_of_ne h.1 h.2

theorem ordered_perm {order : List String} {counts other : Counts} (h : counts.names.Nodup)
    (hPerm : other.Perm counts) : other.ordered order = counts.ordered order := by
  have hOther : other.names.Nodup := (hPerm.map _).nodup_iff.mpr h
  apply ordered_congr hOther h
  apply of_congr hOther h
  intro category n _
  exact hPerm.mem_iff

/-- A map is shown with every count that is not zero, each once: the known categories in their own
order, and then the others in theirs. So the order in which it was filled does not show, and
showing it again changes nothing. -/
theorem ordered_canonical {order : List String} (hOrder : order.Nodup) {counts : Counts}
    (h : counts.names.Nodup) :
    (Fields.names (counts.ordered order)).Nodup ∧
    (∀ category n, (category, n) ∈ counts.ordered order ↔ (category, n) ∈ counts ∧ n ≠ 0) ∧
    (∃ known others, Fields.names (counts.ordered order) = known ++ others ∧
      known.Sublist order ∧ (∀ category ∈ others, category ∉ order) ∧ others.Pairwise (· < ·)) ∧
    (∀ other : Counts, other.Perm counts → other.ordered order = counts.ordered order) ∧
    (counts.ordered order).ordered order = counts.ordered order := by
  have hNodup := nodup_names_ordered hOrder h
  refine ⟨hNodup, mem_ordered_iff h, ?_, fun other => ordered_perm h, ?_⟩
  · refine ⟨Fields.names (counts.known order), Fields.names (counts.unknown order), ?_, ?_, ?_, ?_⟩
    · exact List.map_append
    · exact sublist_names_known counts order
    · intro category hOther
      exact not_mem_of_mem_names_unknown hOther
    · exact pairwise_names_unknown h order
  · exact ordered_congr hNodup h (of_ordered hOrder h)

namespace Sample

/-- Counts of known and other categories, some of them zero, in no order. -/
def mixedCounts : Counts :=
  [("b", 2), ("LOW", 1), ("B", 1), ("HIGH", 0), ("a", 0), ("Z", 3), ("INFO", 7)]

def grades : List String := ["HIGH", "LOW", "INFO"]

end Sample

theorem ordered_canonical_of_mixed_counts :
    (Sample.grades.Nodup ∧ Sample.mixedCounts.names.Nodup) ∧
    Sample.mixedCounts.ordered Sample.grades =
      [("LOW", 1), ("INFO", 7), ("B", 1), ("Z", 3), ("b", 2)] ∧
    ordered Sample.grades Sample.mixedCounts.reverse = Sample.mixedCounts.ordered Sample.grades ∧
    (Sample.mixedCounts.ordered Sample.grades).ordered Sample.grades =
      Sample.mixedCounts.ordered Sample.grades := by
  have hGrades : Sample.grades.Nodup := by decide
  have hCounts : Sample.mixedCounts.names.Nodup := by decide
  have hKnown : Sample.mixedCounts.known Sample.grades = [("LOW", 1), ("INFO", 7)] := by decide
  have hOthers : Sample.mixedCounts.unknown Sample.grades = [("B", 1), ("Z", 3), ("b", 2)] := by
    simp [unknown, Sample.mixedCounts, Sample.grades, List.mergeSort]
  obtain ⟨_, _, _, hPerm, hAgain⟩ := ordered_canonical hGrades hCounts
  refine ⟨⟨hGrades, hCounts⟩, ?_, hPerm _ (List.reverse_perm _), hAgain⟩
  rw [ordered, hKnown, hOthers]
  rfl

end EventDigest.Counts

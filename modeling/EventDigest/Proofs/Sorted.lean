import Mathlib.Data.List.Basic

/-! # Sorted rows

Rows are sorted with a test that decides a total order. The sorted rows stand in that order, and to
leave rows out leaves the order of the others alone.
-/
set_option autoImplicit false
namespace EventDigest

section
variable {ρ : Type} {precedes : ρ → ρ → Bool} {Before : ρ → ρ → Prop}
  (hTest : ∀ a b, precedes a b = true ↔ Before a b)
  (hTrans : ∀ a b c, Before a b → Before b c → Before a c)
  (hTotal : ∀ a b, Before a b ∨ Before b a)

include hTest hTrans in
theorem test_trans (a b c : ρ) (hab : precedes a b = true) (hbc : precedes b c = true) :
    precedes a c = true := by
  rw [hTest] at hab hbc ⊢
  exact hTrans a b c hab hbc

include hTest hTotal in
theorem test_total (a b : ρ) : (precedes a b || precedes b a) = true := by
  rw [Bool.or_eq_true, hTest, hTest]
  exact hTotal a b

include hTest hTrans hTotal

theorem pairwise_sorted_by (rows : List ρ) : (rows.mergeSort precedes).Pairwise Before := by
  have hSorted := List.pairwise_mergeSort (test_trans hTest hTrans) (test_total hTest hTotal) rows
  exact hSorted.imp fun hab => (hTest _ _).mp hab

/-- The first row is put between the rows that it does not precede and those that it does. -/
theorem mergeSort_cons_eq (row : ρ) (rest : List ρ) :
    (row :: rest).mergeSort precedes =
      (rest.mergeSort precedes).filter (!precedes row ·) ++
        row :: (rest.mergeSort precedes).filter (precedes row ·) := by
  have hTransTest := test_trans hTest hTrans
  have hTotalTest := test_total hTest hTotal
  obtain ⟨before, after, hAll, hRest, hBefore⟩ := List.mergeSort_cons hTransTest hTotalTest row rest
  have hSorted := List.pairwise_mergeSort hTransTest hTotalTest (row :: rest)
  rw [hAll, List.pairwise_append, List.pairwise_cons] at hSorted
  have hAfter : ∀ other ∈ after, precedes row other = true := hSorted.2.1.1
  have hLeft : (before ++ after).filter (!precedes row ·) = before := by
    rw [List.filter_append, List.filter_eq_self.mpr hBefore,
      List.filter_eq_nil_iff.mpr fun other hOther => by simp [hAfter other hOther],
      List.append_nil]
  have hRight : (before ++ after).filter (precedes row ·) = after := by
    rw [List.filter_append, List.filter_eq_self.mpr hAfter,
      List.filter_eq_nil_iff.mpr fun other hOther => by simpa using hBefore other hOther,
      List.nil_append]
  rw [hAll, hRest, hLeft, hRight]

/-- Leaving rows out before they are sorted is leaving them out afterwards. -/
theorem filter_mergeSort (keep : ρ → Bool) (rows : List ρ) :
    (rows.mergeSort precedes).filter keep = (rows.filter keep).mergeSort precedes := by
  induction rows with
  | nil => rw [List.filter_nil, List.mergeSort_nil, List.filter_nil]
  | cons row rest ih =>
    have hSwap : ∀ test : ρ → Bool, ((rest.mergeSort precedes).filter test).filter keep =
        ((rest.filter keep).mergeSort precedes).filter test := by
      intro test
      rw [← ih, List.filter_filter, List.filter_filter]
      simp only [Bool.and_comm]
    by_cases hKept : keep row = true
    · rw [mergeSort_cons_eq hTest hTrans hTotal, List.filter_append,
        List.filter_cons_of_pos hKept, hSwap, hSwap, List.filter_cons_of_pos hKept,
        mergeSort_cons_eq hTest hTrans hTotal]
    · obtain ⟨before, after, hAll, hRest, _⟩ :=
        List.mergeSort_cons (test_trans hTest hTrans) (test_total hTest hTotal) row rest
      rw [hAll, List.filter_append, List.filter_cons_of_neg hKept, ← List.filter_append, ← hRest,
        List.filter_cons_of_neg hKept, ih]

end

theorem pairwise_sorted_by_key {ρ : Type} (key : ρ → String) (rows : List ρ) :
    (rows.mergeSort fun a b => key a ≤ key b).Pairwise fun a b => key a ≤ key b := by
  refine pairwise_sorted_by (fun _ _ => decide_eq_true_iff) ?_ ?_ rows
  · intro a b c
    exact String.le_trans
  · intro a b
    exact String.le_total (key a) (key b)

end EventDigest

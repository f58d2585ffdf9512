import EventDigest.Time.Stamp
import Mathlib.Algebra.Ring.Nat
import Mathlib.Data.Char
import Mathlib.Data.List.Lex

/-! # Numbers of a fixed width

A number that is filled up with zeros to a width has that many digits, is read back by the reader of
digits, and stands before the greater numbers of its width.
-/
set_option autoImplicit false
namespace EventDigest.Time

def AllDigits (digits : List Char) : Prop := ∀ c ∈ digits, c.isDigit = true

theorem allDigits_cons_iff (c : Char) (rest : List Char) :
    AllDigits (c :: rest) ↔ c.isDigit = true ∧ AllDigits rest := List.forall_mem_cons

theorem bounds_of_isDigit {c : Char} (h : c.isDigit = true) : 48 ≤ c.toNat ∧ c.toNat ≤ 57 := by
  simpa [Char.isDigit, UInt32.le_iff_toNat_le] using h

theorem digit?_of_isDigit {c : Char} (h : c.isDigit = true) :
    digit? c = some (c.toNat - '0'.toNat) := by
  have hRange : ('0' ≤ c && c ≤ '9') = true := h
  rw [digit?, if_pos hRange]

theorem digit?_of_not_isDigit {c : Char} (h : c.isDigit = false) : digit? c = none := by
  have hRange : ('0' ≤ c && c ≤ '9') = false := h
  rw [digit?, hRange]
  rfl

theorem readDigits_eq {digits : List Char} (h : AllDigits digits) (n : Nat) (rest : List Char) :
    readDigits digits.length n (digits ++ rest) =
      some (Nat.ofDigitChars 10 digits n, rest) := by
  induction digits generalizing n with
  | nil => rw [Nat.ofDigitChars_nil]; rfl
  | cons c digits ih =>
    rw [allDigits_cons_iff] at h
    rw [List.length_cons, List.cons_append, readDigits, digit?_of_isDigit h.1,
      Nat.ofDigitChars_cons]
    exact ih h.2 _

/-- Too few digits are no number of the width. -/
theorem readDigits_short {digits : List Char} (h : AllDigits digits) {width : Nat}
    (hShort : digits.length < width) (n : Nat) {c : Char} (hc : c.isDigit = false)
    (rest : List Char) : readDigits width n (digits ++ c :: rest) = none := by
  induction digits generalizing n width with
  | nil =>
    cases width with
    | zero => cases hShort
    | succ width => rw [List.nil_append, readDigits, digit?_of_not_isDigit hc]
  | cons d digits ih =>
    cases width with
    | zero => cases hShort
    | succ width =>
      rw [allDigits_cons_iff] at h
      rw [List.cons_append, readDigits, digit?_of_isDigit h.1]
      exact ih h.2 (Nat.lt_of_succ_lt_succ hShort) _

theorem allDigits_padded (width n : Nat) : AllDigits (padded width n) := by
  intro c hc
  rcases List.mem_append.mp hc with hZero | hDigit
  · rw [List.eq_of_mem_replicate hZero]
    rfl
  · exact Nat.isDigit_of_mem_toDigits (by decide) (by decide) hDigit

theorem ofDigitChars_padded (width n : Nat) : Nat.ofDigitChars 10 (padded width n) 0 = n := by
  rw [padded, Nat.ofDigitChars_append, Nat.ofDigitChars_replicate_zero, Nat.mul_zero,
    Nat.ofDigitChars_ten_toDigits]

theorem padded_inj {width m n : Nat} : padded width m = padded width n ↔ m = n := by
  constructor
  · intro h
    have hValue := congrArg (Nat.ofDigitChars 10 · 0) h
    simpa only [ofDigitChars_padded] using hValue
  · rintro rfl
    rfl

theorem length_padded {width n : Nat} (hWidth : 0 < width) (h : n < 10 ^ width) :
    (padded width n).length = width := by
  have hShort := (Nat.length_toDigits_le_iff (by decide) hWidth).mpr h
  rw [padded, List.length_append, List.length_replicate]
  omega

theorem readDigits_padded {width n : Nat} (hWidth : 0 < width) (h : n < 10 ^ width)
    (rest : List Char) : readDigits width 0 (padded width n ++ rest) = some (n, rest) := by
  have hRead := readDigits_eq (allDigits_padded width n) 0 rest
  rwa [length_padded hWidth h, ofDigitChars_padded] at hRead

theorem length_two {n : Nat} (h : n < 100) : (padded 2 n).length = 2 := length_padded (by decide) h

theorem readDigits_two {n : Nat} (h : n < 100) (rest : List Char) :
    readDigits 2 0 (padded 2 n ++ rest) = some (n, rest) :=
  readDigits_padded (by decide) (h : n < 10 ^ 2) rest

/-- A greater number read so far stays the greater one whatever digits follow, as many for both. -/
theorem ofDigitChars_lt {digits others : List Char} (hDigits : AllDigits digits)
    (hLength : digits.length = others.length) {m n : Nat} (h : m < n) :
    Nat.ofDigitChars 10 digits m < Nat.ofDigitChars 10 others n := by
  induction digits generalizing others m n with
  | nil =>
    obtain rfl := List.length_eq_zero_iff.mp hLength.symm
    exact h
  | cons c digits ih =>
    cases others with
    | nil => cases hLength
    | cons d others =>
      rw [allDigits_cons_iff] at hDigits
      have hc := bounds_of_isDigit hDigits.1
      have hZero : '0'.toNat = 48 := rfl
      rw [Nat.ofDigitChars_cons, Nat.ofDigitChars_cons]
      exact ih hDigits.2 (Nat.succ.inj hLength) (by omega)

theorem ofDigitChars_lt_of_lt {digits others : List Char} (hDigits : AllDigits digits)
    (hOthers : AllDigits others) (hLength : digits.length = others.length) (h : digits < others)
    (n : Nat) : Nat.ofDigitChars 10 digits n < Nat.ofDigitChars 10 others n := by
  induction digits generalizing others n with
  | nil =>
    obtain rfl := List.length_eq_zero_iff.mp hLength.symm
    cases h
  | cons c digits ih =>
    cases others with
    | nil => cases hLength
    | cons d others =>
      rw [allDigits_cons_iff] at hDigits hOthers
      rw [Nat.ofDigitChars_cons, Nat.ofDigitChars_cons]
      rcases List.cons_lt_cons_iff.mp h with hFirst | ⟨rfl, hRest⟩
      · have hc := bounds_of_isDigit hDigits.1
        have hd := bounds_of_isDigit hOthers.1
        have hLess : c.toNat < d.toNat := hFirst
        have hZero : '0'.toNat = 48 := rfl
        exact ofDigitChars_lt hDigits.2 (Nat.succ.inj hLength) (by omega)
      · exact ih hDigits.2 hOthers.2 (Nat.succ.inj hLength) hRest _

/-- Numbers of one width stand in the order of their texts. -/
theorem padded_lt_padded_iff {width m n : Nat} (hWidth : 0 < width) (hm : m < 10 ^ width)
    (hn : n < 10 ^ width) : padded width m < padded width n ↔ m < n := by
  have hLess : ∀ a b, a < 10 ^ width → b < 10 ^ width → padded width a < padded width b →
      a < b := by
    intro a b ha hb h
    have hValue := ofDigitChars_lt_of_lt (allDigits_padded width a) (allDigits_padded width b)
      ((length_padded hWidth ha).trans (length_padded hWidth hb).symm) h 0
    rwa [ofDigitChars_padded, ofDigitChars_padded] at hValue
  refine ⟨hLess m n hm hn, fun h => ?_⟩
  rcases lt_trichotomy (padded width m) (padded width n) with hBefore | hSame | hAfter
  · exact hBefore
  · exact (Nat.ne_of_lt h (padded_inj.mp hSame)).elim
  · exact (Nat.lt_asymm h (hLess n m hn hm hAfter)).elim

/-- Texts with beginnings of one length are compared by those, and behind equal ones by the rest. -/
theorem append_lt_append_iff {a b c d : List Char} (h : a.length = b.length) :
    a ++ c < b ++ d ↔ a < b ∨ a = b ∧ c < d := by
  induction a generalizing b with
  | nil =>
    obtain rfl := List.length_eq_zero_iff.mp h.symm
    simp
  | cons x a ih =>
    cases b with
    | nil => cases h
    | cons y b =>
      rw [List.cons_append, List.cons_append, List.cons_lt_cons_iff, List.cons_lt_cons_iff,
        ih (Nat.succ.inj h), List.cons.injEq]
      tauto

/-- Texts that begin with numbers of one width are compared by these first. -/
theorem padded_append_lt_iff {width m n : Nat} (hWidth : 0 < width) (hm : m < 10 ^ width)
    (hn : n < 10 ^ width) {rest other : List Char} :
    padded width m ++ rest < padded width n ++ other ↔ m < n ∨ m = n ∧ rest < other := by
  rw [append_lt_append_iff ((length_padded hWidth hm).trans (length_padded hWidth hn).symm),
    padded_lt_padded_iff hWidth hm hn, padded_inj]

end EventDigest.Time

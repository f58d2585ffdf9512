import EventDigest.Json.Printer
import EventDigest.Json.Reader
import EventDigest.Text.Split

/-! # Numerals

The digits of a number are read up to the first character that cannot belong to it. An integer is
read as itself, and the digits of a finite floating-point number as a floating-point number, however
they are laid out.
-/
set_option autoImplicit false
namespace EventDigest.Json

def NoDigit (rest : List Char) : Prop := ∀ c ∈ rest.head?, isDigit c = false

/-- Behind this a number does not go on. -/
def Ends (rest : List Char) : Prop :=
  ∀ c ∈ rest.head?, isDigit c = false ∧ c ≠ '.' ∧ c ≠ 'e' ∧ c ≠ 'E'

theorem Ends.noDigit {rest : List Char} (h : Ends rest) : NoDigit rest := fun c hc => (h c hc).1

/-- The whole part of a number: a zero alone, or digits that do not begin with one. -/
inductive IsWhole : List Char → Prop
  | zero : IsWhole ['0']
  | digits (first : Char) (more : List Char) (hFirst : first ≠ '0')
    (hDigits : ∀ c ∈ first :: more, isDigit c = true) : IsWhole (first :: more)

theorem readWhole_append {whole rest : List Char} (hWhole : IsWhole whole) (hRest : NoDigit rest) :
    readWhole (whole ++ rest) = some (whole, rest) := by
  cases hWhole with
  | zero => rfl
  | digits first more hFirst hDigits =>
    have hTake := Text.takeWhile_word hDigits hRest
    have hDrop := Text.dropWhile_word hDigits hRest
    rw [List.cons_append] at hTake hDrop ⊢
    rw [readWhole, if_pos (hDigits first (List.mem_cons_self ..)), hTake, hDrop]
    exact hFirst

theorem IsWhole.exists_cons {whole : List Char} (h : IsWhole whole) :
    ∃ first more, whole = first :: more ∧ isDigit first = true := by
  cases h with
  | zero => exact ⟨'0', [], rfl, rfl⟩
  | digits first more _ hDigits => exact ⟨first, more, rfl, hDigits first (List.mem_cons_self ..)⟩

/-- The fraction of a number with its digits; there may be none. -/
inductive Fraction : List Char → List Char → Prop
  | none : Fraction [] []
  | point (digits : List Char) (hSome : digits ≠ []) (hDigits : ∀ c ∈ digits, isDigit c = true) :
    Fraction ('.' :: digits) digits

/-- The exponent of a number with its value; there may be none. -/
inductive Power : List Char → Int → Prop
  | none : Power [] 0
  | plus (mark : Char) (sign digits : List Char) (hMark : mark = 'e' ∨ mark = 'E')
    (hSign : sign = [] ∨ sign = ['+']) (hSome : digits ≠ [])
    (hDigits : ∀ c ∈ digits, isDigit c = true) :
    Power (mark :: (sign ++ digits)) (digitsValue digits)
  | minus (mark : Char) (digits : List Char) (hMark : mark = 'e' ∨ mark = 'E')
    (hSome : digits ≠ []) (hDigits : ∀ c ∈ digits, isDigit c = true) :
    Power (mark :: '-' :: digits) (-(digitsValue digits : Int))

/-- A number: an integer that is not too long, or one with a fraction or an exponent, which is a
floating-point number. -/
inductive IsNumber : List Char → Json → Prop
  | int (negative : Bool) (whole : List Char) (hWhole : IsWhole whole)
    (hShort : whole.length ≤ maxIntegerDigits) :
    IsNumber (Binary64.signChars negative ++ whole)
      (.int (if negative then -(digitsValue whole : Int) else digitsValue whole))
  | float (negative : Bool) (whole fraction digits power : List Char) (e : Int)
    (hWhole : IsWhole whole) (hFraction : Fraction fraction digits) (hPower : Power power e)
    (hFloat : fraction ≠ [] ∨ power ≠ []) :
    IsNumber (Binary64.signChars negative ++ (whole ++ (fraction ++ power)))
      (.float (.ofDecimal negative (digitsValue (whole ++ digits)) (e - digits.length)))

theorem readFraction_none {rest : List Char} (h : rest.head? ≠ some '.') :
    readFraction rest = ([], rest) := by
  unfold readFraction
  split
  · exact (h rfl).elim
  · rfl

theorem readFraction_point {digits rest : List Char} (hSome : digits ≠ [])
    (hDigits : ∀ c ∈ digits, isDigit c = true) (hRest : NoDigit rest) :
    readFraction ('.' :: (digits ++ rest)) = (digits, rest) := by
  rw [readFraction, Text.takeWhile_word hDigits hRest, Text.dropWhile_word hDigits hRest]
  exact if_neg (by simpa using hSome)

theorem readExponent_none {rest : List Char} (h : Ends rest) : readExponent rest = none := by
  cases rest with
  | nil => rfl
  | cons c rest =>
    obtain ⟨_, _, hSmall, hLarge⟩ := h c rfl
    unfold readExponent
    exact if_neg (by simp [hSmall, hLarge])

theorem Fraction.readFraction_eq {fraction digits rest : List Char} (h : Fraction fraction digits)
    (hRest : NoDigit rest) (hPoint : rest.head? ≠ some '.') :
    readFraction (fraction ++ rest) = (digits, rest) := by
  cases h with
  | none => exact readFraction_none hPoint
  | point _ hSome hDigits => exact readFraction_point hSome hDigits hRest

/-- Digits end before an exponent, and before what no number goes on with. -/
theorem Power.behind_digits {power rest : List Char} {e : Int} (h : Power power e)
    (hRest : Ends rest) : NoDigit (power ++ rest) ∧ (power ++ rest).head? ≠ some '.' := by
  have hLetter : ∀ {mark : Char} (more : List Char), mark = 'e' ∨ mark = 'E' →
      NoDigit (mark :: more) ∧ (mark :: more).head? ≠ some '.' := by
    rintro mark more (rfl | rfl)
    · exact ⟨by intro c hc; cases hc; rfl, by simp⟩
    · exact ⟨by intro c hc; cases hc; rfl, by simp⟩
  cases h with
  | none => exact ⟨hRest.noDigit, fun hPoint => (hRest '.' hPoint).2.1 rfl⟩
  | plus mark sign digits hMark => exact hLetter _ hMark
  | minus mark digits hMark => exact hLetter _ hMark

theorem readExponent_minus {mark : Char} (hMark : mark = 'e' ∨ mark = 'E') {digits rest : List Char}
    (hSome : digits ≠ []) (hDigits : ∀ c ∈ digits, isDigit c = true) (hRest : NoDigit rest) :
    readExponent (mark :: '-' :: (digits ++ rest)) = some (-(digitsValue digits : Int), rest) := by
  have hLetter : (mark = 'e' || mark = 'E') = true := by simpa using hMark
  simp only [readExponent, Text.takeWhile_word hDigits hRest, Text.dropWhile_word hDigits hRest,
    hLetter]
  simp [hSome]

theorem readExponent_plus {mark : Char} (hMark : mark = 'e' ∨ mark = 'E')
    {sign digits rest : List Char} (hSign : sign = [] ∨ sign = ['+']) (hSome : digits ≠ [])
    (hDigits : ∀ c ∈ digits, isDigit c = true) (hRest : NoDigit rest) :
    readExponent (mark :: (sign ++ (digits ++ rest))) =
      some ((digitsValue digits : Int), rest) := by
  have hLetter : (mark = 'e' || mark = 'E') = true := by simpa using hMark
  have hTake := Text.takeWhile_word hDigits hRest
  have hDrop := Text.dropWhile_word hDigits hRest
  rcases hSign with rfl | rfl
  · obtain ⟨first, more, rfl⟩ := List.exists_cons_of_ne_nil hSome
    have hFirst := hDigits first (List.mem_cons_self ..)
    have hNoSign : first ≠ '-' ∧ first ≠ '+' := by
      constructor <;> (rintro rfl; exact absurd hFirst (by decide))
    rw [List.cons_append] at hTake hDrop
    rw [List.nil_append, List.cons_append]
    unfold readExponent
    simp only [hLetter, if_true]
    split
    · rename_i hHead
      exact (hNoSign.1 (List.cons.inj hHead).1).elim
    · rename_i hHead
      exact (hNoSign.2 (List.cons.inj hHead).1).elim
    · rw [hTake, hDrop]
      rfl
  · simp only [readExponent, List.cons_append, List.nil_append, hTake, hDrop, hLetter]
    simp [hSome]

theorem Power.readExponent_eq {power rest : List Char} {e : Int} (h : Power power e)
    (hSome : power ≠ []) (hRest : NoDigit rest) :
    readExponent (power ++ rest) = some (e, rest) := by
  cases h with
  | none => exact (hSome rfl).elim
  | plus mark sign digits hMark hSign hDigits hAll =>
    rw [List.cons_append, List.append_assoc]
    exact readExponent_plus hMark hSign hDigits hAll hRest
  | minus mark digits hMark hDigits hAll => exact readExponent_minus hMark hDigits hAll hRest

theorem readNumber_signed (negative : Bool) {unsigned whole digits behind rest : List Char}
    (hSign : unsigned.head? ≠ some '-') (hWhole : readWhole unsigned = some (whole, behind))
    (hFraction : readFraction behind = (digits, rest)) :
    readNumber (Binary64.signChars negative ++ unsigned) = match readExponent rest with
      | some (e, rest) =>
        .ok (.float (.ofDecimal negative (digitsValue (whole ++ digits)) (e - digits.length)), rest)
      | none =>
        if digits.isEmpty then
          if maxIntegerDigits < whole.length then
            .error ⟨.longInteger whole.length, Binary64.signChars negative ++ unsigned⟩
          else
            let n : Int := digitsValue whole
            .ok (.int (if negative then -n else n), rest)
        else
          .ok (.float (.ofDecimal negative (digitsValue (whole ++ digits)) (-digits.length)),
            rest) := by
  unfold readNumber
  cases negative with
  | true =>
    simp only [Binary64.signChars, ↓reduceIte, List.singleton_append]
    rw [hWhole]
    dsimp only
    generalize readFraction behind = parts at hFraction ⊢
    subst hFraction
    rfl
  | false =>
    have hNone : Binary64.signChars false ++ unsigned = unsigned := rfl
    rw [hNone]
    split
    rename_i hPair
    split at hPair
    · exact (hSign rfl).elim
    · obtain ⟨rfl, rfl⟩ := Prod.mk.inj hPair
      rw [hWhole]
      dsimp only
      generalize readFraction behind = parts at hFraction ⊢
      subst hFraction
      rfl

theorem IsWhole.head?_append {whole : List Char} (h : IsWhole whole) (rest : List Char) :
    (whole ++ rest).head? ≠ some '-' := by
  obtain ⟨first, more, rfl, hDigit⟩ := h.exists_cons
  rw [List.cons_append, List.head?_cons, ne_eq, Option.some.injEq]
  rintro rfl
  exact absurd hDigit (by decide)

theorem readNumber_int {negative : Bool} {whole : List Char} (hWhole : IsWhole whole)
    (hShort : whole.length ≤ maxIntegerDigits) {rest : List Char} (hRest : Ends rest) :
    readNumber (Binary64.signChars negative ++ (whole ++ rest)) =
      .ok (.int (if negative then -(digitsValue whole : Int) else digitsValue whole), rest) := by
  have hPoint : rest.head? ≠ some '.' := fun h => (hRest '.' h).2.1 rfl
  rw [readNumber_signed negative (hWhole.head?_append rest) (readWhole_append hWhole hRest.noDigit)
    (readFraction_none hPoint), readExponent_none hRest]
  dsimp only
  rw [List.isEmpty_nil, if_pos rfl, if_neg (Nat.not_lt.mpr hShort)]

theorem IsNumber.readNumber_eq {s rest : List Char} {v : Json} (h : IsNumber s v)
    (hRest : Ends rest) : readNumber (s ++ rest) = .ok (v, rest) := by
  cases h with
  | int negative whole hWhole hShort =>
    rw [List.append_assoc]
    exact readNumber_int hWhole hShort hRest
  | float negative whole fraction digits power e hWhole hFraction hPower hFloat =>
    obtain ⟨hNoDigit, hNoPoint⟩ := hPower.behind_digits hRest
    have hBehind : NoDigit (fraction ++ (power ++ rest)) := by
      cases hFraction with
      | none => exact hNoDigit
      | point => intro c hc; cases hc; rfl
    rw [List.append_assoc, List.append_assoc, List.append_assoc,
      readNumber_signed negative (hWhole.head?_append _) (readWhole_append hWhole hBehind)
        (hFraction.readFraction_eq hNoDigit hNoPoint)]
    by_cases hPowerSome : power = []
    · subst hPowerSome
      have hDigits : digits.isEmpty = false := by
        cases hFraction with
        | none => simp at hFloat
        | point _ hSome => simpa using hSome
      cases hPower
      rw [List.nil_append, readExponent_none hRest, Int.zero_sub]
      dsimp only
      rw [hDigits]
      rfl
    · rw [hPower.readExponent_eq hPowerSome hRest.noDigit]

theorem isDigit_of_mem_toDigits {n : Nat} {c : Char} (h : c ∈ Nat.toDigits 10 n) :
    isDigit c = true := Nat.isDigit_of_mem_toDigits (by decide) (by decide) h

theorem digitsValue_toDigits (n : Nat) : digitsValue (Nat.toDigits 10 n) = n :=
  Nat.ofDigitChars_toDigits (by decide) (by decide)

theorem toDigits_eq_cons {n : Nat} (h : 0 < n) :
    ∃ first more, Nat.toDigits 10 n = first :: more ∧ first ≠ '0' := by
  induction n using Nat.strongRecOn with
  | ind n ih =>
    by_cases hSmall : n < 10
    · have hDigit : ∀ d < 10, 0 < d → Nat.digitChar d ≠ '0' := by decide
      exact ⟨n.digitChar, [], Nat.toDigits_of_lt_base hSmall, hDigit n hSmall h⟩
    · obtain ⟨first, more, hDigits, hFirst⟩ := ih (n / 10) (by omega) (by omega)
      refine ⟨first, more ++ [(n % 10).digitChar], ?_, hFirst⟩
      rw [Nat.toDigits_of_base_le (by decide) (by omega), hDigits, List.cons_append]

theorem isWhole_toDigits (n : Nat) : IsWhole (Nat.toDigits 10 n) := by
  rcases Nat.eq_zero_or_pos n with rfl | hPos
  · exact .zero
  · obtain ⟨first, more, hDigits, hFirst⟩ := toDigits_eq_cons hPos
    rw [hDigits]
    exact .digits first more hFirst fun c hc => isDigit_of_mem_toDigits (hDigits ▸ hc)

/-- The number of digits of an integer. -/
def digitsOf (n : Int) : Nat := (Nat.toDigits 10 n.natAbs).length

theorem toList_int (n : Int) : (toString n).toList =
    Binary64.signChars (n < 0) ++ Nat.toDigits 10 n.natAbs := by
  cases n with
  | ofNat m => exact Nat.toList_repr
  | negSucc m =>
    have hNegative : Int.negSucc m < 0 := Int.negSucc_lt_zero m
    rw [decide_eq_true hNegative]
    have hText : toString (Int.negSucc m) = "-" ++ (m + 1).repr := rfl
    rw [hText, String.toList_append, Nat.toList_repr]
    rfl

/-- A text that is read as a number, and that no name begins like. -/
structure Numeral (s : List Char) (v : Json) : Prop where
  begins : ∃ negative first more,
    s = Binary64.signChars negative ++ first :: more ∧ isDigit first = true
  read : ∀ rest, Ends rest → readNumber (s ++ rest) = .ok (v, rest)

theorem IsNumber.numeral {s : List Char} {v : Json} (h : IsNumber s v) : Numeral s v := by
  refine ⟨?_, fun rest hRest => h.readNumber_eq hRest⟩
  cases h with
  | int negative whole hWhole =>
    obtain ⟨first, more, rfl, hFirst⟩ := hWhole.exists_cons
    exact ⟨negative, first, more, rfl, hFirst⟩
  | float negative whole fraction digits power e hWhole =>
    obtain ⟨first, more, rfl, hFirst⟩ := hWhole.exists_cons
    exact ⟨negative, first, more ++ (fraction ++ power), rfl, hFirst⟩

theorem isNumber_int {n : Int} (hShort : digitsOf n ≤ maxIntegerDigits) :
    IsNumber (toString n).toList (.int n) := by
  have hValue : (if decide (n < 0) = true then -(n.natAbs : Int) else n.natAbs) = n := by
    split
    · rename_i hNegative
      rw [decide_eq_true_eq] at hNegative
      omega
    · rename_i hPositive
      rw [decide_eq_true_eq] at hPositive
      omega
  have hNumber := IsNumber.int (decide (n < 0)) _ (isWhole_toDigits n.natAbs) hShort
  rwa [digitsValue_toDigits, hValue, ← toList_int] at hNumber

theorem numeral_int {n : Int} (hShort : digitsOf n ≤ maxIntegerDigits) :
    Numeral (toString n).toList (.int n) := (isNumber_int hShort).numeral

theorem isDigit_of_mem_exponentDigits {n : Nat} {c : Char} (h : c ∈ Binary64.exponentDigits n) :
    isDigit c = true := by
  unfold Binary64.exponentDigits at h
  dsimp only at h
  split at h
  · rcases List.mem_cons.mp h with rfl | h
    · rfl
    · exact isDigit_of_mem_toDigits h
  · exact isDigit_of_mem_toDigits h

theorem exponentDigits_ne_nil (n : Nat) : Binary64.exponentDigits n ≠ [] := by
  unfold Binary64.exponentDigits
  dsimp only
  split
  · exact List.cons_ne_nil _ _
  · exact Nat.toDigits_ne_nil

/-- However digits are laid out, they make a whole part with a fraction or an exponent. -/
theorem exists_parts_of_layDigits (layout : Binary64.Layout) {first : Char} {more : List Char}
    (hFirst : first ≠ '0') (hDigits : ∀ c ∈ first :: more, isDigit c = true) (point : Int) :
    ∃ whole fraction power,
      Binary64.layDigits layout (first :: more) point = whole ++ (fraction ++ power) ∧
      IsWhole whole ∧ (∃ digits, Fraction fraction digits) ∧ (∃ e, Power power e) ∧
        (fraction ≠ [] ∨ power ≠ []) := by
  have hMore : ∀ c ∈ more, isDigit c = true := fun c hc => hDigits c (List.mem_cons_of_mem _ hc)
  have hHead : isDigit first = true := hDigits first (List.mem_cons_self ..)
  unfold Binary64.layDigits
  split
  · split
    · refine ⟨['0'], '.' :: (List.replicate (-point).toNat '0' ++ first :: more), [], ?_, .zero,
        ⟨_, .point _ (by simp) ?_⟩, ⟨_, .none⟩, .inl (List.cons_ne_nil _ _)⟩
      · simp
      · intro c hc
        rcases List.mem_append.mp hc with hc | hc
        · rw [(List.mem_replicate.mp hc).2]
          rfl
        · exact hDigits c hc
    · rename_i hPoint
      obtain ⟨k, hk⟩ : ∃ k, point.toNat = k + 1 := ⟨point.toNat - 1, by omega⟩
      dsimp only
      rw [hk, List.take_succ_cons, List.drop_succ_cons]
      refine ⟨first :: (more.take k ++ List.replicate (k + 1 - (first :: more).length) '0'),
        '.' :: (if (more.drop k).isEmpty then ['0'] else more.drop k), [], by simp, ?_, ?_,
        ⟨_, .none⟩, .inl (List.cons_ne_nil _ _)⟩
      · refine .digits _ _ hFirst fun c hc => ?_
        rcases List.mem_cons.mp hc with rfl | hc
        · exact hHead
        · rcases List.mem_append.mp hc with hc | hc
          · exact hMore c (List.mem_of_mem_take hc)
          · rw [(List.mem_replicate.mp hc).2]
            rfl
      · split
        · exact ⟨_, .point _ (by simp) fun c hc => by rw [List.mem_singleton.mp hc]; rfl⟩
        · rename_i hSome
          exact ⟨_, .point _ (by simpa using hSome) fun c hc => hMore c (List.mem_of_mem_drop hc)⟩
  · refine ⟨[first], if more.isEmpty then [] else '.' :: more,
      'e' :: (if point - 1 < 0 then '-' else '+') :: Binary64.exponentDigits (point - 1).natAbs,
      by simp, ?_, ?_, ?_, .inr (List.cons_ne_nil _ _)⟩
    · exact .digits first [] hFirst fun c hc => by rwa [List.mem_singleton.mp hc]
    · split
      · exact ⟨_, .none⟩
      · rename_i hSome
        exact ⟨_, .point more (by simpa using hSome) hMore⟩
    · have hExponent : ∀ c ∈ Binary64.exponentDigits (point - 1).natAbs, isDigit c = true :=
        fun c hc => isDigit_of_mem_exponentDigits hc
      split
      · exact ⟨_, .minus 'e' _ (.inl rfl) (exponentDigits_ne_nil _) hExponent⟩
      · exact ⟨_, .plus 'e' ['+'] _ (.inl rfl) (.inr rfl) (exponentDigits_ne_nil _) hExponent⟩

/-- The digits up to the zeros at their end begin as all of them do. -/
theorem exists_kept {first : Char} (hFirst : first ≠ '0') (more : List Char) :
    ∃ kept, ((first :: more).reverse.dropWhile (· = '0')).reverse = first :: kept ∧
      ∀ c ∈ kept, c ∈ more := by
  have hStop : [first].dropWhile (· = '0') = [first] := by simp [hFirst]
  rw [List.reverse_cons, List.dropWhile_append]
  split
  · rw [hStop]
    exact ⟨[], rfl, fun c hc => by cases hc⟩
  · refine ⟨(more.reverse.dropWhile (· = '0')).reverse, by simp, fun c hc => ?_⟩
    exact List.mem_reverse.mp ((List.dropWhile_sublist _).mem (List.mem_reverse.mp hc))

theorem shortest_digits_pos {m : Nat} (h : m ≠ 0) (e : Int) :
    0 < (Binary64.shortest m e).digits := by
  have hm : 0 < m := Nat.pos_of_ne_zero h
  unfold Binary64.shortest
  dsimp only
  generalize hFound : List.find? _ _ = found
  cases found with
  | some d =>
    have hRead := List.find?_some hFound
    rw [beq_iff_eq] at hRead
    refine Nat.pos_of_ne_zero fun hZero => h ?_
    rw [Option.getD_some] at hZero
    rw [hZero] at hRead
    exact ((Binary64.finite.injEq ..).mp hRead).2.1.symm
  | none =>
    rw [Option.getD_none, Binary64.exactDecimal]
    split
    · exact Nat.mul_pos hm (Nat.pow_pos (by decide))
    · exact Nat.mul_pos hm (Nat.pow_pos (by decide))

/-- The digits of a finite number are read as a floating-point number. -/
theorem exists_numeral_finite (negative : Bool) (m : Nat) (e : Int) :
    ∃ x, Numeral ((Binary64.finite negative m e).toChars Binary64.jsonLayout) (.float x) := by
  rw [Binary64.toChars]
  split
  · have hFraction : Fraction ['.', '0'] ['0'] :=
      .point ['0'] (by simp) fun c hc => by rw [List.mem_singleton.mp hc]; rfl
    exact ⟨_, (IsNumber.float negative _ _ _ _ _ .zero hFraction .none
      (.inl (List.cons_ne_nil _ _))).numeral⟩
  · rename_i hNonzero
    obtain ⟨first, more, hDigits, hFirst⟩ := toDigits_eq_cons (shortest_digits_pos hNonzero e)
    obtain ⟨kept, hKept, hMore⟩ := exists_kept hFirst more
    have hAll : ∀ c ∈ first :: kept, isDigit c = true := by
      intro c hc
      have hMem : c ∈ Nat.toDigits 10 (Binary64.shortest m e).digits := by
        rw [hDigits]
        rcases List.mem_cons.mp hc with rfl | hc
        · exact List.mem_cons_self ..
        · exact List.mem_cons_of_mem _ (hMore c hc)
      exact isDigit_of_mem_toDigits hMem
    dsimp only
    rw [hDigits, hKept]
    obtain ⟨whole, fraction, power, hParts, hWhole, ⟨_, hFraction⟩, ⟨_, hPower⟩, hFloat⟩ :=
      exists_parts_of_layDigits Binary64.jsonLayout hFirst hAll
        ((first :: more).length + (Binary64.shortest m e).exponent)
    rw [hParts]
    exact ⟨_, (IsNumber.float negative _ _ _ _ _ hWhole hFraction hPower hFloat).numeral⟩

end EventDigest.Json

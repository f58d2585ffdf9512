import EventDigest.Json.Printer
import EventDigest.Json.Reader
import Mathlib.Tactic.SplitIfs

/-! # String literals

The inside of a literal spells a text, character by character: with the character itself, a short
escape, a code unit, or the two halves of a surrogate pair. The reader takes exactly these
spellings, whatever follows the closing quote, and what is written for a text is one of them.
-/
set_option autoImplicit false
namespace EventDigest

namespace Text

/-- The last of the digits is the remainder, and the ones before it belong to the quotient. -/
theorem hexDigits_succ (width n : Nat) :
    hexDigits (width + 1) n = hexDigits width (n / 16) ++ [(n % 16).digitChar] := by
  have hPadding : ∀ digits : List Char,
      (digits ++ List.replicate (width + 1) '0').take width =
        (digits ++ List.replicate width '0').take width := by
    intro digits
    rw [List.take_append, List.take_append, List.take_replicate, List.take_replicate]
    congr 2
    omega
  by_cases hSmall : n < 16
  · have hZero : n / 16 = 0 := by omega
    have hSame : n % 16 = n := by omega
    rw [hexDigits, hexDigits, hZero, hSame, Nat.toDigits_of_lt_base hSmall,
      Nat.toDigits_of_lt_base (by omega)]
    have hZeros : List.replicate (width + 1) '0' = ['0'] ++ List.replicate width '0' := rfl
    rw [List.reverse_singleton, List.singleton_append, List.take_succ_cons, List.reverse_cons,
      hZeros]
    rfl
  · rw [hexDigits, hexDigits, Nat.toDigits_of_base_le (by omega) (by omega), List.reverse_append,
      List.reverse_singleton, List.singleton_append, List.cons_append, List.take_succ_cons,
      List.reverse_cons, hPadding]

end Text

namespace Json

/-- The escape of the low half of a surrogate pair stands here. -/
def OpensLow (s : List Char) : Prop :=
  ∃ a b c d low rest, s = '\\' :: 'u' :: a :: b :: c :: d :: rest ∧
    unitValue? a b c d = some low ∧ isLowSurrogate low = true

/-- What stands between the quotes of a literal, and the text that it spells. The high half of a
pair stands for a character of its own only where no low half follows. -/
inductive Spells : List Char → List Char → Prop
  | nil : Spells [] []
  | plain {c : Char} {s t : List Char} (hQuote : c ≠ '"') (hBackslash : c ≠ '\\')
    (hControl : ¬ c < ' ') (hRest : Spells s t) : Spells (c :: s) (c :: t)
  | short {c image : Char} {s t : List Char} (hEscape : simpleEscape? c = some image)
    (hRest : Spells s t) : Spells ('\\' :: c :: s) (image :: t)
  | unit {a b c d : Char} {n : Nat} {s t : List Char} (hUnit : unitValue? a b c d = some n)
    (hAlone : isHighSurrogate n = true → ¬ OpensLow s) (hRest : Spells s t) :
    Spells ('\\' :: 'u' :: a :: b :: c :: d :: s) (unitChar n :: t)
  | pair {a b c d e f g h : Char} {high low : Nat} {s t : List Char}
    (hHighUnit : unitValue? a b c d = some high) (hHigh : isHighSurrogate high = true)
    (hLowUnit : unitValue? e f g h = some low) (hLow : isLowSurrogate low = true)
    (hRest : Spells s t) :
    Spells ('\\' :: 'u' :: a :: b :: c :: d :: '\\' :: 'u' :: e :: f :: g :: h :: s)
      (Char.ofNat (0x10000 + (high - 0xD800) * 0x400 + (low - 0xDC00)) :: t)

theorem not_low_of_high {n : Nat} (h : isHighSurrogate n = true) : isLowSurrogate n = false := by
  simp only [isHighSurrogate, isLowSurrogate, Bool.and_eq_true, decide_eq_true_eq] at h ⊢
  simp only [Bool.and_eq_false_iff, decide_eq_false_iff_not]
  omega

/-! What is spelt is read. -/

theorem readUnit_eq {a b c d : Char} {n : Nat} (h : unitValue? a b c d = some n)
    {s : List Char} (hs : s ≠ []) : readUnit ('u' :: a :: b :: c :: d :: s) = .ok (n, s) := by
  obtain ⟨next, rest, rfl⟩ := List.exists_cons_of_ne_nil hs
  simp only [readUnit, h]

theorem readLowUnit?_eq {a b c d : Char} {n : Nat} (h : unitValue? a b c d = some n)
    {s : List Char} (hs : s ≠ []) :
    readLowUnit? ('\\' :: 'u' :: a :: b :: c :: d :: s) =
      .ok (if isLowSurrogate n then some (n, s) else none) := by
  have hUnit := readUnit_eq h hs
  obtain ⟨next, rest, rfl⟩ := List.exists_cons_of_ne_nil hs
  simp only [readLowUnit?, hUnit]
  rfl

theorem readLowUnit?_of_ne {c : Char} {s : List Char} (h : c ≠ '\\') :
    readLowUnit? (c :: s) = .ok none := by
  rw [readLowUnit?]
  rintro _ _ _ _ _ _ hHead
  exact h (List.cons.inj hHead).1

/-- Behind a spelling that does not begin with a low half none is read. -/
theorem Spells.readLowUnit?_eq_none {s t : List Char} (h : Spells s t) (hLow : ¬ OpensLow s)
    (rest : List Char) : readLowUnit? (s ++ '"' :: rest) = .ok none := by
  cases h with
  | nil => exact readLowUnit?_of_ne (by decide)
  | plain _ hBackslash => exact readLowUnit?_of_ne hBackslash
  | @short c image s t hEscape =>
    have hu : c ≠ 'u' := by
      rintro rfl
      cases hEscape
    rw [List.cons_append, List.cons_append, readLowUnit?]
    rintro _ _ _ _ _ _ hHead
    exact hu (List.cons.inj (List.cons.inj hHead).2).1
  | @unit a b c d n s t hUnit =>
    have hNot : ¬ isLowSurrogate n = true := fun hIs => hLow ⟨a, b, c, d, n, s, rfl, hUnit, hIs⟩
    refine (readLowUnit?_eq hUnit (by simp)).trans ?_
    rw [if_neg hNot]
  | pair hHighUnit hHigh =>
    refine (readLowUnit?_eq hHighUnit (by simp)).trans ?_
    rw [not_low_of_high hHigh]
    rfl

theorem readEscape_alone (start : List Char) {a b c d : Char} {n : Nat}
    (h : unitValue? a b c d = some n) {s : List Char} (hs : s ≠ [])
    (hAlone : isHighSurrogate n = true → readLowUnit? s = .ok none) :
    readEscape start ('u' :: a :: b :: c :: d :: s) = .ok (unitChar n, s) := by
  simp only [readEscape, readUnit_eq h hs, bind, Except.bind]
  split
  · rename_i hHigh
    rw [hAlone hHigh]
    rfl
  · rfl

theorem readEscape_pair (start : List Char) {a b c d e f g h : Char} {high low : Nat}
    (hHighUnit : unitValue? a b c d = some high) (hHigh : isHighSurrogate high = true)
    (hLowUnit : unitValue? e f g h = some low) (hLow : isLowSurrogate low = true)
    {s : List Char} (hs : s ≠ []) :
    readEscape start ('u' :: a :: b :: c :: d :: '\\' :: 'u' :: e :: f :: g :: h :: s) =
      .ok (Char.ofNat (0x10000 + (high - 0xD800) * 0x400 + (low - 0xDC00)), s) := by
  have hSecond := readLowUnit?_eq hLowUnit hs
  rw [if_pos hLow] at hSecond
  simp only [readEscape, readUnit_eq hHighUnit (List.cons_ne_nil _ _), bind, Except.bind]
  rw [if_pos hHigh, hSecond]
  rfl

theorem readText_of_escape {start s rest : List Char} {c : Char}
    (h : readEscape start s = .ok (c, rest)) (fuel : Nat) (reversed : List Char) :
    readText start (fuel + 1) reversed ('\\' :: s) = readText start fuel (c :: reversed) rest := by
  simp only [readText, h]

theorem readText_plain (start : List Char) (fuel : Nat) (reversed : List Char) {c : Char}
    (hQuote : c ≠ '"') (hBackslash : c ≠ '\\') (hFrom : ¬c < ' ') (s : List Char) :
    readText start (fuel + 1) reversed (c :: s) = readText start fuel (c :: reversed) s := by
  rw [readText]
  · exact if_neg hFrom
  · exact hQuote
  · exact hBackslash

theorem readEscape_simple (start : List Char) {c image : Char}
    (h : simpleEscape? c = some image) (s : List Char) :
    readEscape start (c :: s) = .ok (image, s) := by
  have hu : c ≠ 'u' := by
    rintro rfl
    cases h
  rw [readEscape]
  · rw [h]
  · exact hu

/-- Each character of the text takes one round of the reader. -/
theorem Spells.readText_eq {s t : List Char} (h : Spells s t) (start : List Char) {fuel : Nat}
    (hFuel : t.length < fuel) (reversed rest : List Char) :
    readText start fuel reversed (s ++ '"' :: rest) =
      .ok (String.ofList (reversed.reverse ++ t), rest) := by
  induction h generalizing fuel reversed with
  | nil =>
    obtain ⟨fuel, rfl⟩ : ∃ m, fuel = m + 1 := ⟨fuel - 1, by simp at hFuel; omega⟩
    rw [List.append_nil]
    rfl
  | @plain c s t hQuote hBackslash hControl hRest ih =>
    rw [List.length_cons] at hFuel
    obtain ⟨fuel, rfl⟩ : ∃ m, fuel = m + 1 := ⟨fuel - 1, by omega⟩
    rw [List.cons_append, readText_plain start fuel reversed hQuote hBackslash hControl,
      ih (by omega), List.reverse_cons, List.append_assoc, List.singleton_append]
  | @short c image s t hEscape hRest ih =>
    rw [List.length_cons] at hFuel
    obtain ⟨fuel, rfl⟩ : ∃ m, fuel = m + 1 := ⟨fuel - 1, by omega⟩
    rw [List.cons_append, List.cons_append,
      readText_of_escape (readEscape_simple start hEscape _), ih (by omega), List.reverse_cons,
      List.append_assoc, List.singleton_append]
  | @unit a b c d n s t hUnit hAlone hRest ih =>
    rw [List.length_cons] at hFuel
    obtain ⟨fuel, rfl⟩ : ∃ m, fuel = m + 1 := ⟨fuel - 1, by omega⟩
    have hEscape := readEscape_alone start hUnit (s := s ++ '"' :: rest) (by simp)
      fun hHigh => hRest.readLowUnit?_eq_none (hAlone hHigh) rest
    simp only [List.cons_append]
    rw [readText_of_escape hEscape, ih (by omega), List.reverse_cons, List.append_assoc,
      List.singleton_append]
  | @pair a b c d e f g h high low s t hHighUnit hHigh hLowUnit hLow hRest ih =>
    rw [List.length_cons] at hFuel
    obtain ⟨fuel, rfl⟩ : ∃ m, fuel = m + 1 := ⟨fuel - 1, by omega⟩
    have hEscape := readEscape_pair start hHighUnit hHigh hLowUnit hLow (s := s ++ '"' :: rest)
      (by simp)
    simp only [List.cons_append]
    rw [readText_of_escape hEscape, ih (by omega), List.reverse_cons, List.append_assoc,
      List.singleton_append]

theorem Spells.length_le {s t : List Char} (h : Spells s t) : t.length ≤ s.length := by
  induction h with
  | nil => exact Nat.le_refl _
  | plain | short | unit | pair =>
    simp only [List.length_cons]
    omega

/-! What is read was spelt. -/

theorem of_readUnit {s rest : List Char} {n : Nat} (h : readUnit s = .ok (n, rest)) :
    ∃ a b c d, s = 'u' :: a :: b :: c :: d :: rest ∧ unitValue? a b c d = some n := by
  unfold readUnit at h
  split at h
  · rename_i a b c d next behind
    split at h
    · rename_i hUnit
      cases h
      exact ⟨a, b, c, d, rfl, hUnit⟩
    · cases h
  · cases h

theorem of_readLowUnit? {s rest : List Char} {low : Nat}
    (h : readLowUnit? s = .ok (some (low, rest))) :
    ∃ a b c d, s = '\\' :: 'u' :: a :: b :: c :: d :: rest ∧ unitValue? a b c d = some low ∧
      isLowSurrogate low = true := by
  unfold readLowUnit? at h
  split at h
  · rename_i a b c d next behind
    cases hUnit : readUnit ('u' :: a :: b :: c :: d :: next :: behind) with
    | error stop => rw [hUnit] at h; cases h
    | ok found =>
      obtain ⟨n, after⟩ := found
      rw [hUnit] at h
      change Except.ok (if isLowSurrogate n = true then some (n, after) else none) = _ at h
      rw [Except.ok.injEq] at h
      split at h
      · rename_i hLow
        cases h
        obtain ⟨_, _, _, _, hShape, hValue⟩ := of_readUnit hUnit
        exact ⟨_, _, _, _, congrArg _ hShape, hValue, hLow⟩
      · cases h
  · cases h

/-- Where no low half was read, none stands. -/
theorem not_opensLow {inside after : List Char}
    (h : readLowUnit? (inside ++ '"' :: after) = .ok none) : ¬ OpensLow inside := by
  rintro ⟨a, b, c, d, low, rest, rfl, hUnit, hLow⟩
  have hSome := readLowUnit?_eq hUnit (s := rest ++ '"' :: after) (by simp)
  rw [if_pos hLow] at hSome
  cases hSome.symm.trans h

/-- What was read as an escape spells its character, before a spelling of the rest of the text. -/
theorem spells_of_readEscape {start s inside after t : List Char} {c : Char}
    (h : readEscape start s = .ok (c, inside ++ '"' :: after)) (hRest : Spells inside t) :
    ∃ escape, s = escape ++ (inside ++ '"' :: after) ∧
      Spells ('\\' :: (escape ++ inside)) (c :: t) := by
  unfold readEscape at h
  split at h
  · cases h
  · rename_i behind
    cases hUnit : readUnit ('u' :: behind) with
    | error stop => rw [hUnit] at h; cases h
    | ok found =>
      obtain ⟨n, next⟩ := found
      obtain ⟨x, y, z, w, hShape, hValue⟩ := of_readUnit hUnit
      rw [hUnit] at h
      simp only [bind, Except.bind] at h
      split at h
      · rename_i hHigh
        cases hLowUnit : readLowUnit? next with
        | error stop => rw [hLowUnit] at h; cases h
        | ok low? =>
          rw [hLowUnit] at h
          cases low? with
          | none =>
            cases h
            exact ⟨['u', x, y, z, w], hShape, .unit hValue (fun _ => not_opensLow hLowUnit) hRest⟩
          | some found =>
            obtain ⟨low, last⟩ := found
            obtain ⟨e, f, g, k, hNext, hLowValue, hLow⟩ := of_readLowUnit? hLowUnit
            obtain ⟨rfl, rfl⟩ := Prod.mk.inj (Except.ok.inj h)
            rw [hNext] at hShape
            exact ⟨['u', x, y, z, w, '\\', 'u', e, f, g, k], hShape,
              .pair hValue hHigh hLowValue hLow hRest⟩
      · rename_i hAlone
        cases h
        exact ⟨['u', x, y, z, w], hShape, .unit hValue (fun hHigh => (hAlone hHigh).elim) hRest⟩
  · rename_i letter behind _
    split at h
    · rename_i image hEscape
      cases h
      exact ⟨[letter], rfl, .short hEscape hRest⟩
    · cases h

/-- What is read up to a closing quote spells the text that is added. -/
theorem spells_of_readText {start s rest : List Char} {fuel : Nat} {reversed : List Char}
    {t : String} (h : readText start fuel reversed s = .ok (t, rest)) :
    ∃ inside added, s = inside ++ '"' :: rest ∧ Spells inside added ∧
      t = String.ofList (reversed.reverse ++ added) := by
  induction fuel generalizing reversed s with
  | zero => cases h
  | succ fuel ih =>
    rw [readText.eq_def] at h
    dsimp only at h
    split at h
    · cases h
    · cases h
      exact ⟨[], [], rfl, .nil, by rw [List.append_nil]⟩
    · split at h
      · cases h
      · rename_i hEscape
        obtain ⟨inside, added, rfl, hSpells, rfl⟩ := ih h
        obtain ⟨escape, rfl, hAll⟩ := spells_of_readEscape hEscape hSpells
        refine ⟨_, _, ?_, hAll, ?_⟩
        · rw [List.cons_append, List.append_assoc]
        · rw [List.reverse_cons, List.append_assoc, List.singleton_append]
    · rename_i c behind hQuote hBackslash
      split at h
      · cases h
      · rename_i hControl
        obtain ⟨inside, added, rfl, hSpells, rfl⟩ := ih h
        refine ⟨c :: inside, c :: added, rfl, .plain hQuote hBackslash hControl hSpells, ?_⟩
        rw [List.reverse_cons, List.append_assoc, List.singleton_append]

/-! What is written is a spelling. -/

theorem hexValue?_digitChar : ∀ d < 16, hexValue? d.digitChar = some d := by decide

theorem exists_hexDigits {n : Nat} (h : n < 0x10000) :
    ∃ a b c d, Text.hexDigits 4 n = [a, b, c, d] ∧ unitValue? a b c d = some n := by
  have hNone : Text.hexDigits 0 (n / 16 / 16 / 16 / 16) = [] := rfl
  refine ⟨(n / 16 / 16 / 16 % 16).digitChar, (n / 16 / 16 % 16).digitChar, (n / 16 % 16).digitChar,
    (n % 16).digitChar, ?_, ?_⟩
  · rw [Text.hexDigits_succ, Text.hexDigits_succ, Text.hexDigits_succ, Text.hexDigits_succ, hNone]
    rfl
  · simp only [unitValue?]
    rw [hexValue?_digitChar _ (by omega), hexValue?_digitChar _ (by omega),
      hexValue?_digitChar _ (by omega), hexValue?_digitChar _ (by omega)]
    refine congrArg some ?_
    omega

theorem unitChar_toNat (c : Char) : unitChar c.toNat = c := by
  have hValid : c.toNat < 0xD800 ∨ 0xDFFF < c.toNat ∧ c.toNat < 0x110000 := c.valid
  have hAlone : ¬(isHighSurrogate c.toNat || isLowSurrogate c.toNat) = true := by
    simp only [isHighSurrogate, isLowSurrogate, Bool.or_eq_true, Bool.and_eq_true,
      decide_eq_true_eq]
    omega
  rw [unitChar, if_neg hAlone, Char.ofNat_toNat]

theorem Spells.unit_append {c : Char} (hc : c.toNat < 0x10000) {s t : List Char}
    (hRest : Spells s t) : Spells (unitEscape c.toNat ++ s) (c :: t) := by
  have hValid : c.toNat < 0xD800 ∨ 0xDFFF < c.toNat ∧ c.toNat < 0x110000 := c.valid
  have hAlone : ¬ isHighSurrogate c.toNat = true := by
    simp only [isHighSurrogate, Bool.and_eq_true, decide_eq_true_eq]
    omega
  obtain ⟨x, y, z, w, hDigits, hUnit⟩ := exists_hexDigits hc
  have hSpells := Spells.unit hUnit (fun hHigh => (hAlone hHigh).elim) hRest
  rw [unitChar_toNat] at hSpells
  rw [unitEscape, hDigits]
  exact hSpells

theorem Spells.pair_append {c : Char} {n : Nat} (hc : c.toNat = 0x10000 + n) {s t : List Char}
    (hRest : Spells s t) : Spells (unitEscape (0xD800 + n / 0x400) ++
      (unitEscape (0xDC00 + n % 0x400) ++ s)) (c :: t) := by
  have hValid : c.toNat < 0xD800 ∨ 0xDFFF < c.toNat ∧ c.toNat < 0x110000 := c.valid
  have hHigh : isHighSurrogate (0xD800 + n / 0x400) = true := by
    simp only [isHighSurrogate, Bool.and_eq_true, decide_eq_true_eq]
    omega
  have hLow : isLowSurrogate (0xDC00 + n % 0x400) = true := by
    simp only [isLowSurrogate, Bool.and_eq_true, decide_eq_true_eq]
    omega
  have hCode : 0x10000 + (0xD800 + n / 0x400 - 0xD800) * 0x400 + (0xDC00 + n % 0x400 - 0xDC00) =
      c.toNat := by omega
  obtain ⟨x, y, z, w, hFirst, hHighUnit⟩ :=
    exists_hexDigits (show 0xD800 + n / 0x400 < 0x10000 by omega)
  obtain ⟨e, f, g, k, hSecond, hLowUnit⟩ :=
    exists_hexDigits (show 0xDC00 + n % 0x400 < 0x10000 by omega)
  have hSpells := Spells.pair hHighUnit hHigh hLowUnit hLow hRest
  rw [hCode, Char.ofNat_toNat] at hSpells
  rw [unitEscape, unitEscape, hFirst, hSecond]
  exact hSpells

theorem Spells.escapedChar_append (c : Char) {s t : List Char} (hRest : Spells s t) :
    Spells (escapedChar c ++ s) (c :: t) := by
  unfold escapedChar
  split_ifs with hQuote hBackslash hFeed hReturn hTab hPage hBack hPlain hUnit
  · subst hQuote
    exact .short rfl hRest
  · subst hBackslash
    exact .short rfl hRest
  · subst hFeed
    exact .short rfl hRest
  · subst hReturn
    exact .short rfl hRest
  · subst hTab
    exact .short rfl hRest
  · subst hPage
    exact .short rfl hRest
  · subst hBack
    exact .short rfl hRest
  · rw [Bool.and_eq_true, decide_eq_true_eq, decide_eq_true_eq] at hPlain
    exact .plain hQuote hBackslash (Char.not_lt.mpr hPlain.1) hRest
  · exact hRest.unit_append hUnit
  · have hc : c.toNat = 0x10000 + (c.toNat - 0x10000) := by omega
    dsimp only
    rw [List.append_assoc]
    exact hRest.pair_append hc

theorem spells_escaped (t : List Char) : Spells (escaped t) t := by
  induction t with
  | nil => exact .nil
  | cons c rest ih => exact ih.escapedChar_append c

end Json

end EventDigest

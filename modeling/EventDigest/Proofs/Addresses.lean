import EventDigest.Proofs.Answer
import EventDigest.Proofs.Headers
import EventDigest.Text.Split
import Mathlib.Data.String.Basic

/-! # Plain addresses

Most addresses are names with dots between on both sides of the sign. A list of such addresses is in
normal form already: the reader takes each of them apart at the sign, and each is written as it was
read. So the header line of plain recipients is their list as it stands.
-/
set_option autoImplicit false
namespace EventDigest

theorem Text.isLineBoundary_of_not_blank {c : Char} (h : isBlank c = false) :
    isLineBoundary c = false := by
  rw [Bool.eq_false_iff] at h ⊢
  refine mt (fun hLine => ?_) h
  simp only [isLineBoundary, isBlank, Bool.or_eq_true, Bool.and_eq_true, decide_eq_true_eq,
    beq_iff_eq] at hLine ⊢
  omega

namespace Mail

/-- A character of a plain address. No encoded word can be made without a question mark. -/
def IsAtomChar (c : Char) : Prop := isSpecial c = false ∧ Text.isBlank c = false ∧ c ≠ '?'

instance (c : Char) : Decidable (IsAtomChar c) := inferInstanceAs (Decidable (_ ∧ _ ∧ _))

def IsAtom (s : List Char) : Prop := s ≠ [] ∧ ∀ c ∈ s, IsAtomChar c

instance (s : List Char) : Decidable (IsAtom s) :=
  @instDecidableAnd _ _ inferInstance (List.decidableBAll IsAtomChar s)

/-- Atoms with dots between them. -/
inductive Dotted : List Char → Prop
  | atom {a : List Char} (hAtom : IsAtom a) : Dotted a
  | dot {a s : List Char} (hAtom : IsAtom a) (hRest : Dotted s) : Dotted (a ++ '.' :: s)

def IsPlain (s : String) : Prop :=
  ∃ localPart domain, Dotted localPart ∧ Dotted domain ∧ s.toList = localPart ++ '@' :: domain

/-- A header text that is taken as it stands: no encoded word begins in it, and no half of a pair of
surrogates was replaced in it. -/
structure Verbatim (s : String) : Prop where
  noEncodedWord : ¬ ['=', '?'] <:+: s.toList
  noReplacement : '\uFFFD' ∉ s.toList

instance (s : String) : Decidable (Verbatim s) :=
  decidable_of_iff (¬ ['=', '?'] <:+: s.toList ∧ '\uFFFD' ∉ s.toList)
    ⟨fun h => ⟨h.1, h.2⟩, fun h => ⟨h.1, h.2⟩⟩

/-- A text of addresses that is taken as it stands, and whose comments cannot be nested deeply. -/
structure Spelled (s : String) : Prop extends Verbatim s where
  fewComments : s.toList.count '(' ≤ 100

instance (s : String) : Decidable (Spelled s) :=
  decidable_of_iff (Verbatim s ∧ s.toList.count '(' ≤ 100)
    ⟨fun h => ⟨h.1, h.2⟩, fun h => ⟨h.1, h.2⟩⟩

theorem isSpaceTab_of_not_blank {c : Char} (h : Text.isBlank c = false) : isSpaceTab c = false := by
  rw [Bool.eq_false_iff] at h ⊢
  intro hSpace
  simp only [isSpaceTab, Bool.or_eq_true, decide_eq_true_eq] at hSpace
  rcases hSpace with rfl | rfl
  · exact h rfl
  · exact h rfl

theorem IsAtomChar.endsAtom {c : Char} (h : IsAtomChar c) : endsAtom c = false := by
  rw [Mail.endsAtom, h.1, isSpaceTab_of_not_blank h.2.1]
  rfl

theorem IsAtomChar.endsPhrase {c : Char} (h : IsAtomChar c) : endsPhrase c = false := by
  rw [Mail.endsPhrase, h.1]
  rfl

/-- Only special characters are any of these. -/
theorem IsAtomChar.ne {c d : Char} (h : IsAtomChar c) (hSpecial : isSpecial d = true) : c ≠ d := by
  rintro rfl
  exact Bool.false_ne_true (h.1.symm.trans hSpecial)

theorem IsAtom.exists_cons {a : List Char} (h : IsAtom a) :
    ∃ c tail, a = c :: tail ∧ IsAtomChar c := by
  obtain ⟨c, tail, rfl⟩ := List.exists_cons_of_ne_nil h.1
  exact ⟨c, tail, rfl, h.2 c (List.mem_cons_self ..)⟩

theorem Dotted.exists_cons {s : List Char} (h : Dotted s) :
    ∃ c tail, s = c :: tail ∧ IsAtomChar c := by
  cases h with
  | atom hAtom => exact hAtom.exists_cons
  | dot hAtom _ =>
    obtain ⟨c, tail, rfl, hc⟩ := hAtom.exists_cons
    exact ⟨c, _, rfl, hc⟩

theorem Dotted.mem {s : List Char} (h : Dotted s) : ∀ c ∈ s, c = '.' ∨ IsAtomChar c := by
  induction h with
  | atom hAtom => exact fun c hc => .inr (hAtom.2 c hc)
  | dot hAtom _ ih =>
    intro c hc
    rcases List.mem_append.mp hc with hLabel | hc
    · exact .inr (hAtom.2 c hLabel)
    · rcases List.mem_cons.mp hc with rfl | hRest
      · exact .inl rfl
      · exact ih c hRest

theorem Dotted.not_blank {s : List Char} (h : Dotted s) : ∀ c ∈ s, Text.isBlank c = false := by
  intro c hc
  rcases h.mem c hc with rfl | hAtom
  · rfl
  · exact hAtom.2.1

theorem IsPlain.oneLine {s : String} (h : IsPlain s) : Text.OneLine s := by
  obtain ⟨localPart, domain, hLocal, hDomain, hParts⟩ := h
  intro c hc
  rw [hParts, List.mem_append, List.mem_cons] at hc
  rcases hc with hc | rfl | hc
  · exact Text.isLineBoundary_of_not_blank (hLocal.not_blank c hc)
  · decide
  · exact Text.isLineBoundary_of_not_blank (hDomain.not_blank c hc)

/-- What can stand behind a part of a plain address: another part of it, or the next address. -/
def Bounds (s : List Char) : Prop := ∀ c ∈ s.head?, c = '.' ∨ c = '@' ∨ c = ','

theorem bounds_nil : Bounds [] := by simp [Bounds]

theorem bounds_cons {c : Char} (h : c = '.' ∨ c = '@' ∨ c = ',') (rest : List Char) :
    Bounds (c :: rest) := by
  rintro _ ⟨⟩
  exact h

theorem readBlanks_of_head {s : List Char} (h : ∀ c ∈ s.head?, isSpaceTab c = false ∧ c ≠ '(') :
    readBlanks s = (false, s) := by
  cases s with
  | nil => rfl
  | cons c rest =>
    obtain ⟨hSpace, hOpen⟩ := h c rfl
    simp [readBlanks, hSpace, hOpen]

theorem Bounds.readBlanks {s : List Char} (h : Bounds s) : readBlanks s = (false, s) := by
  refine readBlanks_of_head fun c hc => ?_
  rcases h c hc with rfl | rfl | rfl <;> decide

theorem IsAtomChar.readBlanks {c : Char} (h : IsAtomChar c) (blank : Bool) (rest : List Char) :
    readBlanks (blankText blank ++ c :: rest) = (blank, c :: rest) := by
  have hSpace := isSpaceTab_of_not_blank h.2.1
  have hOpen : c ≠ '(' := h.ne rfl
  cases blank with
  | false => simp [blankText, Mail.readBlanks, hSpace, hOpen]
  | true =>
    have hFirst : isSpaceTab ' ' = true := rfl
    simp [blankText, Mail.readBlanks, skipBlanks, hFirst, hSpace, hOpen, h.2.1]

theorem readAtomText_append {a rest : List Char} (hAtom : ∀ c ∈ a, IsAtomChar c)
    (hRest : Bounds rest) : readAtomText (a ++ rest) = (a, rest) := by
  have hInside : ∀ c ∈ a, (!endsAtom c) = true := fun c hc => by rw [(hAtom c hc).endsAtom]; rfl
  have hBehind : ∀ c ∈ rest.head?, (!endsAtom c) = false := by
    intro c hc
    rcases hRest c hc with rfl | rfl | rfl <;> decide
  rw [readAtomText, Text.takeWhile_word hInside hBehind, Text.dropWhile_word hInside hBehind]

/-! A local part or a domain on its own. -/

theorem Dotted.readDotAtomText {s rest : List Char} (h : Dotted s) (hRest : Bounds rest)
    (hDot : rest.head? ≠ some '.') {fuel : Nat} (hFuel : s.length ≤ fuel) :
    readDotAtomText fuel (s ++ rest) = .ok (s, rest) := by
  induction h generalizing fuel with
  | @atom a hAtom =>
    obtain ⟨c, tail, rfl, -⟩ := hAtom.exists_cons
    obtain ⟨fuel, rfl⟩ := Nat.exists_eq_add_of_le' (Nat.le_trans (Nat.succ_pos _) hFuel)
    rw [Mail.readDotAtomText, readAtomText_append hAtom.2 hRest]
    split
    · rename_i heq
      cases heq
    · rename_i heq
      cases heq
      exact (hDot rfl).elim
    · rename_i heq
      cases heq
      rfl
  | @dot a s hAtom _ ih =>
    have hText : readAtomText (a ++ ('.' :: s ++ rest)) = (a, '.' :: (s ++ rest)) :=
      readAtomText_append hAtom.2 (bounds_cons (.inl rfl) _)
    obtain ⟨c, tail, rfl, -⟩ := hAtom.exists_cons
    rw [List.length_append, List.length_cons, List.length_cons] at hFuel
    obtain ⟨fuel, rfl⟩ := Nat.exists_eq_add_of_le' (show 1 ≤ fuel by omega)
    have hMore := ih (show s.length ≤ fuel by omega)
    rw [Mail.readDotAtomText, List.append_assoc, hText]
    exact Answer.bind_eq_ok_iff.mpr ⟨(s, rest), hMore, rfl⟩

theorem Dotted.readDotAtom {s rest : List Char} (h : Dotted s) (hRest : Bounds rest)
    (hDot : rest.head? ≠ some '.') : readDotAtom (s ++ rest) = .ok (s, rest) := by
  have hText : Mail.readDotAtomText (s ++ rest).length (s ++ rest) = .ok (s, rest) :=
    h.readDotAtomText hRest hDot (by simp)
  rw [Mail.readDotAtom, hText]
  change Except.ok (s, (Mail.readBlanks rest).2) = _
  rw [hRest.readBlanks]

theorem Dotted.readLocal {s : List Char} (h : Dotted s) (blank : Bool) (rest : List Char) :
    readLocal (blankText blank ++ s ++ '@' :: rest) = .ok (.ok s, '@' :: rest) := by
  have hRest : Bounds ('@' :: rest) := bounds_cons (.inr (.inl rfl)) rest
  have hAtom := h.readDotAtom hRest (by simp)
  obtain ⟨c, tail, rfl, hc⟩ := h.exists_cons
  have hBlanks := hc.readBlanks blank (tail ++ '@' :: rest)
  rw [List.append_assoc, List.cons_append] at *
  have hEmpty : (blankText blank ++ c :: (tail ++ '@' :: rest)).isEmpty = false := by
    cases blank <;> rfl
  rw [Mail.readLocal, hEmpty, hBlanks]
  dsimp only
  rw [hAtom]
  rfl

theorem Dotted.withoutBlanks {s : List Char} (h : Dotted s) : withoutBlanks s = s :=
  List.filter_eq_self.mpr fun c hc => by rw [h.not_blank c hc]; rfl

/-- What follows an address in a list of them. -/
def Follows (rest : List Char) : Prop := rest = [] ∨ ∃ t, rest = ',' :: t

theorem Dotted.readDomain {s rest : List Char} (h : Dotted s) (hRest : Follows rest) :
    readDomain (s ++ rest) = .ok (.ok s, rest) := by
  have hBounds : Bounds rest := by
    rcases hRest with rfl | ⟨t, rfl⟩
    · exact bounds_nil
    · exact bounds_cons (.inr (.inr rfl)) t
  have hAtom := h.readDotAtom hBounds (by rcases hRest with rfl | ⟨t, rfl⟩ <;> simp)
  have hNone := h.withoutBlanks
  obtain ⟨c, tail, rfl, hc⟩ := h.exists_cons
  have hBlanks := hc.readBlanks false (tail ++ rest)
  have hOpen : c ≠ '[' := hc.ne rfl
  have hLabels : readLabels rest.length rest = .ok ([], rest) := by
    rcases hRest with rfl | ⟨t, rfl⟩ <;> rfl
  have hHead : rest.head? ≠ some '@' := by
    rcases hRest with rfl | ⟨t, rfl⟩ <;> simp
  rw [List.cons_append] at hAtom ⊢
  rw [Mail.readDomain, List.isEmpty_cons, if_neg Bool.false_ne_true,
    show Mail.readBlanks (c :: (tail ++ rest)) = _ from hBlanks]
  dsimp only
  split
  · cases ‹_›
  · rename_i heq
    cases heq
    exact (hOpen rfl).elim
  · rw [hAtom]
    simp only [pure_bind, if_neg hHead, hLabels]
    change Except.ok (Except.ok (Mail.withoutBlanks (c :: tail ++ [])), rest) = _
    rw [List.append_nil, hNone]

/-! No name comes before a plain address: what is read as one ends at the sign, and nothing in
brackets follows. -/

theorem readWord_plain {a rest : List Char} (hAtom : IsAtom a) (blank : Bool)
    (hRest : Bounds rest) :
    readWord (blankText blank ++ a ++ rest) = .ok (⟨a, blank, false⟩, rest) := by
  have hText := readAtomText_append hAtom.2 hRest
  obtain ⟨c, tail, rfl, hc⟩ := hAtom.exists_cons
  have hBlanks := hc.readBlanks blank (tail ++ rest)
  have hQuote : c ≠ '"' := hc.ne rfl
  rw [List.append_assoc, List.cons_append, readWord, hBlanks]
  dsimp only
  split
  · cases ‹_›
  · rename_i heq
    cases heq
    exact (hQuote rfl).elim
  · rename_i heq
    cases heq
    rw [List.cons_append] at hText
    rw [if_neg (by rw [hc.1]; exact Bool.false_ne_true), hText]
    dsimp only [closeWord]
    rw [hRest.readBlanks]

theorem readPieces_word {a rest : List Char} (hAtom : IsAtom a) (blank : Bool)
    (hRest : Bounds rest) (fuel : Nat) :
    readPieces false (fuel + 1) (blankText blank ++ a ++ rest) =
      (.word ⟨a, blank, false⟩ :: (readPieces false fuel rest).1,
        (readPieces false fuel rest).2) := by
  have hWord := readWord_plain hAtom blank hRest
  have hFirst : ∃ x xs, blankText blank ++ a ++ rest = x :: xs ∧ x ≠ '.' ∧
      endsPhrase x = false := by
    obtain ⟨c, tail, rfl, hc⟩ := hAtom.exists_cons
    cases blank with
    | false => exact ⟨c, _, rfl, hc.ne rfl, hc.endsPhrase⟩
    | true => exact ⟨' ', _, rfl, by decide, by decide⟩
  obtain ⟨x, xs, hFirst, hDot, hEnds⟩ := hFirst
  rw [hFirst] at hWord ⊢
  simp [readPieces, hDot, hEnds, hWord]

/-- A phrase that begins with a plain address ends at its sign. -/
theorem Dotted.readPieces {s : List Char} (h : Dotted s) (blank : Bool) (rest : List Char)
    {fuel : Nat} (hFuel : s.length ≤ fuel) :
    ∃ w pieces, readPieces false fuel (blankText blank ++ s ++ '@' :: rest) =
      (.word w :: pieces, '@' :: rest) := by
  have hSign : ∀ fuel, Mail.readPieces false fuel ('@' :: rest) = ([], '@' :: rest) := by
    rintro (_ | fuel) <;> rfl
  induction h generalizing blank fuel with
  | @atom a hAtom =>
    have hSome := List.length_pos_of_ne_nil hAtom.1
    obtain ⟨fuel, rfl⟩ := Nat.exists_eq_add_of_le' (show 1 ≤ fuel by omega)
    rw [readPieces_word hAtom blank (bounds_cons (.inr (.inl rfl)) rest), hSign]
    exact ⟨_, _, rfl⟩
  | @dot a s hAtom _ ih =>
    have hSome := List.length_pos_of_ne_nil hAtom.1
    rw [List.length_append, List.length_cons] at hFuel
    obtain ⟨fuel, rfl⟩ := Nat.exists_eq_add_of_le' (show 2 ≤ fuel by omega)
    obtain ⟨w, pieces, hMore⟩ := ih false (show s.length ≤ fuel by omega)
    have hDot : Mail.readPieces false (fuel + 1) ('.' :: (s ++ '@' :: rest)) =
        (.dot :: .word w :: pieces, '@' :: rest) := by
      rw [Mail.readPieces, if_pos rfl]
      dsimp only
      rw [show Mail.readPieces false fuel (s ++ '@' :: rest) = _ from hMore]
    have hWord := readPieces_word hAtom blank (bounds_cons (.inl rfl) (s ++ '@' :: rest)) (fuel + 1)
    rw [hDot] at hWord
    refine ⟨⟨a, blank, false⟩, .dot :: .word w :: pieces, ?_⟩
    rw [← hWord]
    simp only [List.append_assoc, List.cons_append]

section
variable {l : List Char} (hLocal : Dotted l) (blank : Bool) (rest : List Char)
include hLocal

theorem readPhrase_plain : ∃ w pieces,
    readPhrase (blankText blank ++ l ++ '@' :: rest) = (.word w :: pieces, '@' :: rest) :=
  hLocal.readPieces blank rest (by simp only [List.length_append]; omega)

theorem readGroup_plain : readGroup (blankText blank ++ l ++ '@' :: rest) = .error .mismatch := by
  obtain ⟨w, pieces, hPhrase⟩ := readPhrase_plain hLocal blank rest
  rw [readGroup, hPhrase]
  rfl

theorem readNamed_plain : readNamed (blankText blank ++ l ++ '@' :: rest) = .error .mismatch := by
  obtain ⟨w, pieces, hPhrase⟩ := readPhrase_plain hLocal false rest
  obtain ⟨c, tail, rfl, hc⟩ := hLocal.exists_cons
  have hBlanks := hc.readBlanks blank (tail ++ '@' :: rest)
  have hOpen : c ≠ '<' := hc.ne rfl
  have hMissing : ∀ name, readAngle name ('@' :: rest) = .error .mismatch := fun _ => rfl
  rw [List.append_assoc, List.cons_append, readNamed, hBlanks]
  dsimp only
  split
  · cases ‹_›
  · rename_i heq
    cases heq
    exact (hOpen rfl).elim
  · rename_i heq
    cases heq
    rw [show readPhrase (c :: (tail ++ '@' :: rest)) = _ from hPhrase, hc.endsPhrase]
    cases blank with
    | false => exact hMissing (some (.word w :: pieces))
    | true => exact hMissing (some (.word { w with blankBefore := true } :: pieces))

end

section
variable {l d : List Char} (hLocal : Dotted l) (hDomain : Dotted d)
include hLocal hDomain

theorem readEntry_plain (blank : Bool) {rest : List Char} (hRest : Follows rest) :
    readEntry (blankText blank ++ l ++ '@' :: (d ++ rest)) =
      .ok (.mailbox ⟨none, .ok l, .ok d⟩, rest) := by
  have hSpec : readAddrSpec none (blankText blank ++ l ++ '@' :: (d ++ rest)) =
      .ok (⟨none, .ok l, .ok d⟩, rest) := by
    refine Answer.bind_eq_ok_iff.mpr ⟨(.ok l, '@' :: (d ++ rest)), hLocal.readLocal .., ?_⟩
    exact Answer.bind_eq_ok_iff.mpr ⟨(.ok d, rest), hDomain.readDomain hRest, rfl⟩
  have hMailbox : readMailbox (blankText blank ++ l ++ '@' :: (d ++ rest)) =
      .ok (⟨none, .ok l, .ok d⟩, rest) := by
    rw [readMailbox, readNamed_plain hLocal, hSpec]
    rfl
  rw [readEntry, readGroup_plain hLocal, hMailbox]
  rfl

/-- One round over a list that begins with a plain address. -/
theorem readEntries_round (blank : Bool) {rest : List Char} (hRest : Follows rest) (fuel : Nat) :
    readEntries (fuel + 1) (blankText blank ++ l ++ '@' :: (d ++ rest)) =
      (readEntries fuel (skipComma rest)).map (.mailbox ⟨none, .ok l, .ok d⟩ :: ·) := by
  have hEntry := readEntry_plain hLocal hDomain blank hRest
  have hSkip : skipInvalid [','] rest.length rest = rest := by
    rcases hRest with rfl | ⟨t, rfl⟩ <;> rfl
  have hFirst : ∃ c t, blankText blank ++ l ++ '@' :: (d ++ rest) = c :: t :=
    List.exists_cons_of_ne_nil (by simp)
  obtain ⟨c, t, hFirst⟩ := hFirst
  rw [hFirst] at hEntry ⊢
  rw [readEntries, hEntry]
  · dsimp only
    rw [hSkip]
    split <;> rfl
  · simp

theorem written_plain : (Mailbox.mk none (.ok l) (.ok d)).written = .ok (l ++ '@' :: d) := by
  have hLine : hasLineBreak ([] ++ l ++ d) = false := by
    rw [hasLineBreak, List.any_eq_false]
    intro c hc hBreak
    have hBlank : Text.isBlank c = false :=
      (List.mem_append.mp hc).elim (hLocal.not_blank c) (hDomain.not_blank c)
    simp only [Bool.or_eq_true, decide_eq_true_eq] at hBreak
    rcases hBreak with rfl | rfl <;> cases hBlank
  have hQuote : (l.any fun c => endsAtom c && c ≠ '.') = false := by
    rw [List.any_eq_false]
    intro c hc
    rcases hLocal.mem c hc with rfl | hAtom
    · decide
    · simp [hAtom.endsAtom]
  obtain ⟨c, tail, rfl, -⟩ := hDomain.exists_cons
  change (if hasLineBreak ([] ++ l ++ c :: tail) = true then _ else _) = _
  rw [hLine]
  change Except.ok (addrSpecWritten l (c :: tail)) = _
  rw [addrSpecWritten, hQuote]
  rfl

end

theorem joined_cons (first : List Char) (rest : List (List Char)) :
    joined (first :: rest) = first ++ rest.flatMap (',' :: ' ' :: ·) := by
  induction rest generalizing first with
  | nil => simp [joined]
  | cons second rest ih =>
    have hMore : joined (first :: second :: rest) =
        first ++ ([',', ' '] ++ joined (second :: rest)) := by
      simp [joined, List.intercalate_cons_cons]
    rw [hMore, ih, List.flatMap_cons]
    rfl

theorem mem_joined {parts : List (List Char)} {c : Char} (hc : c ∈ joined parts) :
    c = ',' ∨ c = ' ' ∨ ∃ part ∈ parts, c ∈ part := by
  cases parts with
  | nil => cases hc
  | cons first rest =>
    rw [joined_cons] at hc
    simp only [List.mem_append, List.mem_flatMap, List.mem_cons] at hc
    rcases hc with hFirst | ⟨part, hPart, rfl | rfl | hc⟩
    · exact .inr (.inr ⟨first, List.mem_cons_self .., hFirst⟩)
    · exact .inl rfl
    · exact .inr (.inl rfl)
    · exact .inr (.inr ⟨part, List.mem_cons_of_mem _ hPart, hc⟩)

/-- What stands in a list behind its first address. -/
def behind (others : List (List Char × List Char)) : List Char :=
  others.flatMap fun r => ',' :: ' ' :: (r.1 ++ '@' :: r.2)

theorem follows_behind (others : List (List Char × List Char)) : Follows (behind others) := by
  cases others with
  | nil => exact .inl rfl
  | cons r rest => exact .inr ⟨_, rfl⟩

theorem joined_behind (r : List Char × List Char) (others : List (List Char × List Char)) :
    joined ((r :: others).map fun r => r.1 ++ '@' :: r.2) =
      r.1 ++ '@' :: (r.2 ++ behind others) := by
  rw [List.map_cons, joined_cons, List.flatMap_map, List.append_assoc]
  rfl

theorem length_le_behind (others : List (List Char × List Char)) :
    others.length ≤ (behind others).length := by
  induction others with
  | nil => exact Nat.le_refl _
  | cons r rest ih =>
    rw [behind, List.flatMap_cons, ← behind, List.length_append, List.length_cons, List.length_cons,
      List.length_cons]
    omega

/-- Plain addresses in a list are read one by one. -/
theorem readEntries_plain {r : List Char × List Char} {others : List (List Char × List Char)}
    (h : ∀ r' ∈ r :: others, Dotted r'.1 ∧ Dotted r'.2) (blank : Bool) {fuel : Nat}
    (hFuel : others.length < fuel) :
    readEntries fuel (blankText blank ++ r.1 ++ '@' :: (r.2 ++ behind others)) =
      .ok ((r :: others).map fun r => .mailbox ⟨none, .ok r.1, .ok r.2⟩) := by
  induction others generalizing r blank fuel with
  | nil =>
    obtain ⟨hLocal, hDomain⟩ := h r (List.mem_cons_self ..)
    obtain ⟨fuel, rfl⟩ := Nat.exists_eq_add_of_le' (Nat.le_trans (Nat.succ_pos _) hFuel)
    rw [readEntries_round hLocal hDomain blank (follows_behind [])]
    cases fuel <;> rfl
  | cons other others ih =>
    obtain ⟨⟨hLocal, hDomain⟩, hOthers⟩ := List.forall_mem_cons.mp h
    obtain ⟨fuel, rfl⟩ := Nat.exists_eq_add_of_le' (Nat.le_trans (Nat.succ_pos _) hFuel)
    have hBehind : skipComma (behind (other :: others)) =
        blankText true ++ other.1 ++ '@' :: (other.2 ++ behind others) := by
      simp [behind, skipComma, blankText]
    have hMore := ih hOthers true (Nat.lt_of_succ_lt_succ hFuel)
    rw [readEntries_round hLocal hDomain blank (follows_behind _), hBehind, hMore]
    rfl

theorem mapM_written_plain {parts : List (List Char × List Char)}
    (h : ∀ r ∈ parts, Dotted r.1 ∧ Dotted r.2) :
    (parts.map fun r => AddressEntry.mailbox ⟨none, .ok r.1, .ok r.2⟩).mapM AddressEntry.written =
      .ok (parts.map fun r => r.1 ++ '@' :: r.2) := by
  rw [Answer.mapM_eq_ok_iff, List.map_map, List.map_map]
  exact List.map_congr_left fun r hr => written_plain (h r hr).1 (h r hr).2

/-- Plain addresses fall into their parts. -/
theorem exists_parts {recipients : List String} (h : ∀ r ∈ recipients, IsPlain r) :
    ∃ parts : List (List Char × List Char), (∀ r ∈ parts, Dotted r.1 ∧ Dotted r.2) ∧
      recipients.map String.toList = parts.map fun r => r.1 ++ '@' :: r.2 := by
  induction recipients with
  | nil => exact ⟨[], by simp, rfl⟩
  | cons r rest ih =>
    obtain ⟨⟨localPart, domain, hLocal, hDomain, hParts⟩, hRest⟩ := List.forall_mem_cons.mp h
    obtain ⟨parts, hDotted, hSame⟩ := ih hRest
    refine ⟨(localPart, domain) :: parts, List.forall_mem_cons.mpr ⟨⟨hLocal, hDomain⟩, hDotted⟩, ?_⟩
    rw [List.map_cons, List.map_cons, hParts, hSame]

theorem toList_intercalate (recipients : List String) :
    (String.intercalate ", " recipients).toList = joined (recipients.map String.toList) := by
  rw [String.toList_intercalate]
  rfl

/-- A list of plain addresses is in normal form. -/
theorem addressList_plain {recipients : List String} (h : ∀ r ∈ recipients, IsPlain r) :
    addressList (String.intercalate ", " recipients) =
      .ok (String.intercalate ", " recipients) := by
  obtain ⟨parts, hDotted, hParts⟩ := exists_parts h
  have hEntries : readEntries ((joined (parts.map fun r => r.1 ++ '@' :: r.2)).length + 1)
      (joined (parts.map fun r => r.1 ++ '@' :: r.2)) =
        .ok (parts.map fun r => .mailbox ⟨none, .ok r.1, .ok r.2⟩) := by
    cases parts with
    | nil => rfl
    | cons r others =>
      have hLength := length_le_behind others
      rw [joined_behind]
      refine readEntries_plain hDotted false ?_
      simp only [List.length_append, List.length_cons]
      omega
  rw [addressList, toList_intercalate, hParts]
  simp only [hEntries]
  change (do
    let written ← (parts.map fun r : List Char × List Char =>
      AddressEntry.mailbox ⟨none, .ok r.1, .ok r.2⟩).mapM AddressEntry.written
    pure (String.ofList (joined written))) = _
  rw [mapM_written_plain hDotted, ← hParts]
  change Except.ok (String.ofList (joined (recipients.map String.toList))) = _
  rw [← toList_intercalate, String.ofList_toList]

end Mail

namespace Publisher

/-- The header line of plain recipients is their list as it stands. -/
theorem addressHeaderOf_plain {recipients : List String} (h : ∀ r ∈ recipients, Mail.IsPlain r) :
    addressHeaderOf (String.intercalate ", " recipients) =
      .ok (String.intercalate ", " recipients) := by
  have hLine : ∀ c ∈ (String.intercalate ", " recipients).toList,
      Text.isLineBoundary c = false := by
    intro c hc
    rw [Mail.toList_intercalate] at hc
    rcases Mail.mem_joined hc with rfl | rfl | ⟨part, hPart, hc⟩
    · decide
    · decide
    · obtain ⟨r, hr, rfl⟩ := List.mem_map.mp hPart
      exact (h r hr).oneLine c hc
  rw [addressHeaderOf, headerOf, Text.spansLines_eq_false hLine]
  change (Mail.addressList _).mapError Fault.address = _
  rw [Mail.addressList_plain h]
  rfl

end EventDigest.Publisher

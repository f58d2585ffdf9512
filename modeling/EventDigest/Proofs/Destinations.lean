import EventDigest.Proofs.Recipients
import Mathlib.Data.List.Forall2

/-! # Destinations in a list and in one text

A document names its destinations in a list of texts or in one text with commas. Both come to the
entries that are not blank, in their order and without the blanks around them; no other value names
any.
-/
set_option autoImplicit false
namespace EventDigest

namespace Text

/-- The whole is the inner text with nothing but blanks around it. -/
def InBlanks (inner whole : String) : Prop :=
  ∃ front back, allBlank front = true ∧ allBlank back = true ∧ whole = front ++ inner ++ back

/-- The text begins and ends with characters that are not blank. -/
def Bare (s : String) : Prop :=
  (∃ c ∈ s.toList.head?, isBlank c = false) ∧ ∃ c ∈ s.toList.getLast?, isBlank c = false

/-- The item is what an entry holds between the blanks around it. -/
structure Stripped (item entry : String) : Prop where
  bare : Bare item
  inBlanks : InBlanks item entry

section
variable {s blanks : List Char} (h : ∀ c ∈ blanks, isBlank c = true)
include h

theorem trimmed_blanks_append : trimmed (blanks ++ s) = trimmed s := by
  rw [trimmed_eq, trimmed_eq, List.dropWhile_append_of_pos h]

theorem trimmed_append_blanks : trimmed (s ++ blanks) = trimmed s := by
  have hDropped : blanks.dropWhile isBlank = [] := List.dropWhile_eq_nil_iff.mpr h
  rw [trimmed_eq, trimmed_eq, List.dropWhile_append, hDropped]
  split
  · rename_i hEmpty
    rw [List.isEmpty_iff.mp hEmpty]
  · have hBehind : ∀ c ∈ blanks.reverse, isBlank c = true := by simpa using h
    rw [List.rdropWhile, List.reverse_append, List.dropWhile_append_of_pos hBehind,
      List.rdropWhile]

end

theorem bare_iff (s : String) : Bare s ↔ s ≠ "" ∧ trim s = s := by
  rw [trim_eq_self_iff, List.dropWhile_eq_self_iff, List.rdropWhile_eq_self_iff, Bare, Ne,
    ← String.toList_inj, String.toList_empty]
  cases s.toList with
  | nil => simp
  | cons c rest => simp [List.getLast?_eq_getLast_of_ne_nil]

theorem inBlanks_trim (s : String) : InBlanks (trim s) s := by
  refine ⟨String.ofList (s.toList.takeWhile isBlank),
    String.ofList ((s.toList.dropWhile isBlank).rtakeWhile isBlank), ?_, ?_, ?_⟩
  · rw [allBlank, List.all_eq_true, String.toList_ofList]
    exact fun c => List.mem_takeWhile_imp
  · rw [allBlank, List.all_eq_true, String.toList_ofList]
    exact fun c => List.mem_rtakeWhile_imp
  · rw [← String.toList_inj]
    simp [trim, trimmed_eq, List.rdropWhile_append_rtakeWhile, List.append_assoc]

theorem InBlanks.trim_eq {inner whole : String} (h : InBlanks inner whole) :
    trim whole = trim inner := by
  obtain ⟨front, back, hFront, hBack, rfl⟩ := h
  rw [allBlank, List.all_eq_true] at hFront hBack
  rw [trim, String.toList_append, String.toList_append, trimmed_append_blanks hBack,
    trimmed_blanks_append hFront, trim]

theorem stripped_trim {entry : String} (h : allBlank entry = false) :
    Stripped (trim entry) entry where
  bare := by
    apply (bare_iff _).mpr
    refine ⟨?_, trim_trim entry⟩
    rw [Ne, trim_eq_empty_iff, h]
    exact Bool.false_ne_true
  inBlanks := inBlanks_trim entry

/-- Blanks around a text bring no other character into it. -/
theorem InBlanks.not_mem {inner whole : String} (h : InBlanks inner whole) {c : Char}
    (hChar : isBlank c = false) (hInner : c ∉ inner.toList) : c ∉ whole.toList := by
  obtain ⟨front, back, hFront, hBack, rfl⟩ := h
  have hNone : ∀ {blanks : String}, allBlank blanks = true → c ∉ blanks.toList := by
    intro blanks hBlanks hMem
    rw [List.all_eq_true.mp hBlanks c hMem] at hChar
    cases hChar
  simp [hNone hFront, hInner, hNone hBack]

theorem not_mem_of_inBlanks {entries written : List String}
    (h : List.Forall₂ InBlanks entries written) {c : Char} (hChar : isBlank c = false)
    (hEntries : ∀ entry ∈ entries, c ∉ entry.toList) : ∀ whole ∈ written, c ∉ whole.toList := by
  induction h with
  | nil => simp
  | cons hEntry _ ih =>
    obtain ⟨hFirst, hRest⟩ := List.forall_mem_cons.mp hEntries
    exact List.forall_mem_cons.mpr ⟨hEntry.not_mem hChar hFirst, ih hRest⟩

end Text

namespace Config

/-- The entries that come to destinations, each with what it comes to. -/
theorem forall₂_stripped (entries : List String) :
    List.Forall₂ Text.Stripped ((entries.map Text.trim).filter (· ≠ ""))
      (entries.filter (!Text.allBlank ·)) := by
  rw [filter_map_trim, List.forall₂_map_left_iff, List.forall₂_same]
  intro entry hEntry
  apply Text.stripped_trim
  simpa using (List.mem_filter.mp hEntry).2

theorem destinationsOf_stripped {items entries : List String}
    (h : List.Forall₂ Text.Stripped items entries) :
    destinationsOf (Json.texts items) = .ok items := by
  have hKept : (items.map Text.trim).filter (· ≠ "") = items := by
    induction h with
    | nil => rfl
    | cons hItem _ ih =>
      obtain ⟨hSome, hTrim⟩ := (Text.bare_iff _).mp hItem.bare
      rw [List.map_cons, hTrim]
      simpa [hSome] using ih
  rw [destinationsOf_texts, hKept]

theorem destinationsOf_inBlanks {entries written : List String}
    (h : List.Forall₂ Text.InBlanks entries written) :
    destinationsOf (Json.texts written) = destinationsOf (Json.texts entries) := by
  have hTrim : written.map Text.trim = entries.map Text.trim := by
    induction h with
    | nil => rfl
    | cons hEntry _ ih => rw [List.map_cons, List.map_cons, hEntry.trim_eq, ih]
  rw [destinationsOf_texts, destinationsOf_texts, hTrim]

/-- A text with commas names the destinations of the list that it joins. -/
theorem destinationsOf_intercalate {entries : List String}
    (h : ∀ entry ∈ entries, ',' ∉ entry.toList) :
    destinationsOf (.text (String.intercalate "," entries)) =
      destinationsOf (Json.texts entries) := by
  cases entries with
  | nil => rfl
  | cons entry rest =>
    have hSplit : Text.splitAt ',' (String.intercalate "," (entry :: rest)) = entry :: rest :=
      Text.splitAt_intercalate (List.cons_ne_nil _ _) h
    rw [destinationsOf_text, hSplit, destinationsOf_texts]

theorem exists_items (entries : List String) :
    ∃ items, destinationsOf (Json.texts entries) = .ok items ∧
      List.Forall₂ Text.Stripped items (entries.filter (!Text.allBlank ·)) ∧
      destinationsOf (Json.texts items) = .ok items :=
  ⟨_, destinationsOf_texts entries, forall₂_stripped entries,
    destinationsOf_stripped (forall₂_stripped entries)⟩

theorem array_ne_texts {items : List Json} {item : Json} (hItem : item ∈ items)
    (hOther : ∀ s, item ≠ .text s) (entries : List String) :
    .array items ≠ Json.texts entries := by
  intro h
  rw [Json.texts, Json.array.injEq] at h
  rw [h] at hItem
  obtain ⟨s, _, rfl⟩ := List.mem_map.mp hItem
  exact hOther s rfl

/-- Null names no destinations. A list of texts, and a text as the list of its entries between the
commas, name the entries that are not blank, in their order and without the blanks around them, and
what comes out names itself. Entries without commas come to the same in a list and joined by commas
with any blanks around them. Every other value is refused, a list with any item beside texts
included. -/
theorem destination_shapes_agree :
    destinationsOf .null = .ok [] ∧
    (∀ entries : List String, ∃ items, destinationsOf (Json.texts entries) = .ok items ∧
      List.Forall₂ Text.Stripped items (entries.filter (!Text.allBlank ·)) ∧
      destinationsOf (Json.texts items) = .ok items) ∧
    (∀ s : String, ∃ entries items, String.intercalate "," entries = s ∧
      (∀ entry ∈ entries, ',' ∉ entry.toList) ∧ destinationsOf (.text s) = .ok items ∧
      List.Forall₂ Text.Stripped items (entries.filter (!Text.allBlank ·)) ∧
      destinationsOf (Json.texts items) = .ok items) ∧
    (∀ entries written : List String, (∀ entry ∈ entries, ',' ∉ entry.toList) →
      List.Forall₂ Text.InBlanks entries written →
      destinationsOf (.text (String.intercalate "," written)) =
        destinationsOf (Json.texts entries)) ∧
    ∀ raw : Json, raw ≠ .null → (∀ s, raw ≠ .text s) →
      (∀ items, raw = .array items → ∃ item ∈ items, ∀ s, item ≠ .text s) →
      destinationsOf raw = .error (.destinationKind raw.kindName) := by
  refine ⟨rfl, exists_items, ?_, ?_, ?_⟩
  · intro s
    have hCommas : ∀ entry ∈ Text.splitAt ',' s, ',' ∉ entry.toList :=
      fun entry => Text.not_mem_of_mem_splitAt
    have hJoined : String.intercalate "," (Text.splitAt ',' s) = s := Text.intercalate_splitAt ',' s
    obtain ⟨items, hItems, hStripped, hAgain⟩ := exists_items (Text.splitAt ',' s)
    refine ⟨Text.splitAt ',' s, items, hJoined, hCommas, ?_, hStripped, hAgain⟩
    rw [← hItems, ← destinationsOf_intercalate hCommas, hJoined]
  · intro entries written hCommas hWritten
    rw [← destinationsOf_inBlanks hWritten]
    apply destinationsOf_intercalate
    exact Text.not_mem_of_inBlanks hWritten (by decide) hCommas
  · intro raw hNull hText hArray
    apply destinationsOf_eq_error hNull hText
    rintro entries rfl
    obtain ⟨item, hItem, hOther⟩ := hArray _ rfl
    exact array_ne_texts hItem hOther entries rfl

namespace Sample

/-- Two addresses beside a blank entry, with blanks around one of them. -/
def untidyEntries : List String := ["ops@acme.org", " ", "\tb@acme.org "]

/-- The same entries in one text, with other blanks around them. -/
def untidyWritten : List String := [" ops@acme.org", " \u3000", "\tb@acme.org \u2003"]

end Sample

theorem destination_shapes_agree_on_untidy_entries :
    (∀ entry ∈ Sample.untidyEntries, ',' ∉ entry.toList) ∧
    List.Forall₂ Text.InBlanks Sample.untidyEntries Sample.untidyWritten ∧
    destinationsOf (.text (String.intercalate "," Sample.untidyWritten)) =
      .ok ["ops@acme.org", "b@acme.org"] ∧
    destinationsOf (.array [.text "ops@acme.org", .int 7]) = .error (.destinationKind "list") := by
  have hCommas : ∀ entry ∈ Sample.untidyEntries, ',' ∉ entry.toList := by decide
  have hWritten : List.Forall₂ Text.InBlanks Sample.untidyEntries Sample.untidyWritten := by
    refine .cons ⟨" ", "", ?_⟩ (.cons ⟨"", "\u3000", ?_⟩ (.cons ⟨"", "\u2003", ?_⟩ .nil))
    all_goals decide
  have hItems : destinationsOf (Json.texts Sample.untidyEntries) =
      .ok ["ops@acme.org", "b@acme.org"] := by
    rw [destinationsOf_texts]
    rfl
  obtain ⟨_, _, _, hAgree, hRefused⟩ := destination_shapes_agree
  refine ⟨hCommas, hWritten, (hAgree _ _ hCommas hWritten).trans hItems, ?_⟩
  apply hRefused
  · rintro ⟨⟩
  · rintro s ⟨⟩
  · rintro items ⟨⟩
    refine ⟨.int 7, by simp, ?_⟩
    rintro s ⟨⟩

end Config
end EventDigest

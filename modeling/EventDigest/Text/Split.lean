/-! # Splitting at a separator -/
set_option autoImplicit false
namespace EventDigest.Text

/-- The pieces between the occurrences of a separator; a text without one is its own only piece. -/
def pieces (sep : Char) : List Char → List (List Char)
  | [] => [[]]
  | c :: rest =>
    if c = sep then [] :: pieces sep rest
    else match pieces sep rest with
      | [] => [[c]]
      | piece :: more => (c :: piece) :: more

def splitAt (sep : Char) (s : String) : List String := (pieces sep s.toList).map String.ofList

def before (sep : Char) (s : String) : String := String.ofList (s.toList.takeWhile (· ≠ sep))

def endsWith (ending s : String) : Bool := ending.toList.isSuffixOf s.toList

def startsWith (start s : String) : Bool := start.toList.isPrefixOf s.toList

theorem pieces_eq_splitOn (sep : Char) (s : List Char) : pieces sep s = s.splitOn sep := by
  induction s with
  | nil => rfl
  | cons c rest ih =>
    obtain ⟨piece, more, hPieces⟩ := List.exists_cons_of_ne_nil (List.splitOn_ne_nil sep rest)
    rw [pieces, ih, List.splitOn_cons_eq_if_modifyHead, hPieces]
    simp only [beq_iff_eq, List.modifyHead_cons]

theorem not_mem_of_mem_splitOn {sep : Char} {s piece : List Char} (h : piece ∈ s.splitOn sep) :
    sep ∉ piece := by
  induction s generalizing piece with
  | nil =>
    rw [List.mem_singleton.mp h]
    exact List.not_mem_nil
  | cons c rest ih =>
    obtain ⟨first, more, hPieces⟩ := List.exists_cons_of_ne_nil (List.splitOn_ne_nil sep rest)
    rw [hPieces] at ih
    rw [List.splitOn_cons_eq_if_modifyHead, hPieces] at h
    split at h
    · rcases List.mem_cons.mp h with rfl | hRest
      · exact List.not_mem_nil
      · exact ih hRest
    · rename_i hOther
      rcases List.mem_cons.mp h with rfl | hMore
      · intro hSep
        rcases List.mem_cons.mp hSep with rfl | hFirst
        · exact hOther (beq_self_eq_true sep)
        · exact ih (List.mem_cons_self ..) hFirst
      · exact ih (List.mem_cons_of_mem _ hMore)

theorem not_mem_of_mem_splitAt {sep : Char} {s entry : String} (h : entry ∈ splitAt sep s) :
    sep ∉ entry.toList := by
  obtain ⟨piece, hPiece, rfl⟩ := List.mem_map.mp h
  rw [String.toList_ofList]
  rw [pieces_eq_splitOn] at hPiece
  exact not_mem_of_mem_splitOn hPiece

theorem intercalate_splitAt (sep : Char) (s : String) :
    String.intercalate (String.singleton sep) (splitAt sep s) = s := by
  have hPieces : (splitAt sep s).map String.toList = s.toList.splitOn sep := by
    simp [splitAt, pieces_eq_splitOn, Function.comp_def]
  rw [← String.toList_inj, String.toList_intercalate, hPieces, String.toList_singleton,
    List.intercalate_splitOn]

theorem splitAt_intercalate {sep : Char} {entries : List String} (hSome : entries ≠ [])
    (h : ∀ entry ∈ entries, sep ∉ entry.toList) :
    splitAt sep (String.intercalate (String.singleton sep) entries) = entries := by
  have hPieces : ∀ piece ∈ entries.map String.toList, sep ∉ piece := by simpa using h
  rw [splitAt, pieces_eq_splitOn, String.toList_intercalate, String.toList_singleton,
    List.splitOn_intercalate sep hPieces (by simpa using hSome), List.map_map]
  simp

/-! A word is read up to the first character that cannot belong to it. -/

section
variable {p : Char → Bool} {word rest : List Char} (hWord : ∀ c ∈ word, p c = true)
  (hRest : ∀ c ∈ rest.head?, p c = false)
include hWord hRest

theorem takeWhile_word : (word ++ rest).takeWhile p = word := by
  rw [List.takeWhile_append_of_pos hWord]
  cases rest with
  | nil => simp
  | cons c rest => simp [hRest c rfl]

theorem dropWhile_word : (word ++ rest).dropWhile p = rest := by
  rw [List.dropWhile_append_of_pos hWord]
  cases rest with
  | nil => rfl
  | cons c rest => simp [hRest c rfl]

end

end EventDigest.Text

import EventDigest.Proofs.Literals
import EventDigest.Proofs.Numerals

/-! # Reading documents

Which value a text is read as is put together from its parts. White space may stand behind an
opening bracket, behind a comma and before a closing bracket, so the layouts of a document are all
read alike.
-/
set_option autoImplicit false
namespace EventDigest.Json

theorem isSpace_iff {c : Char} : isSpace c = true ↔ c = ' ' ∨ c = '\t' ∨ c = '\n' ∨ c = '\r' := by
  simp [isSpace, or_assoc]

def IsSpaces (s : List Char) : Prop := ∀ c ∈ s, isSpace c = true

theorem isSpaces_nil : IsSpaces [] := fun c hc => by cases hc

theorem isSpaces_cons {s : List Char} {c : Char} (hc : isSpace c = true) (hs : IsSpaces s) :
    IsSpaces (c :: s) := List.forall_mem_cons.mpr ⟨hc, hs⟩

/-- A value begins here: neither white space nor the end of a container. -/
def Opens (s : List Char) : Prop :=
  ∃ first more, s = first :: more ∧ isSpace first = false ∧ first ≠ ']' ∧ first ≠ '\uFEFF'

theorem Opens.ne_nil {s : List Char} (h : Opens s) : s ≠ [] := by
  obtain ⟨first, more, rfl, _⟩ := h
  exact List.cons_ne_nil _ _

theorem Opens.append {s : List Char} (h : Opens s) (more : List Char) : Opens (s ++ more) := by
  obtain ⟨first, rest, rfl, hFirst⟩ := h
  exact ⟨first, rest ++ more, rfl, hFirst⟩

/-- The text is read as the value, whatever stands behind it that does not go on with a number. -/
structure Reads (s : List Char) (v : Json) : Prop where
  opens : Opens s
  read : ∀ {fuel} rest, s.length ≤ fuel → Ends rest → readValue fuel (s ++ rest) = .ok (v, rest)

/-- The text is read as the items of an array up to its closing bracket. -/
structure ReadsItems (s : List Char) (items : List Json) : Prop where
  opens : Opens s
  read : ∀ {fuel} rest, s.length ≤ fuel → readItems fuel (s ++ rest) = .ok (items, rest)

/-- The text is read as members of an object up to its closing brace; they are put in order into the
ones known before. -/
structure ReadsMembers (s : List Char) (members : Fields Json) : Prop where
  opens : ∃ more, s = '"' :: more
  read : ∀ {fuel} known rest, s.length ≤ fuel →
    readMembers fuel known (s ++ rest) = .ok (Fields.update known members, rest)

theorem skipSpace_cons {space : List Char} (hSpace : IsSpaces space) {c : Char}
    (hc : isSpace c = false) (rest : List Char) : skipSpace (space ++ c :: rest) = c :: rest := by
  rw [skipSpace, List.dropWhile_append_of_pos hSpace, List.dropWhile_cons, if_neg (by simp [hc])]

theorem skipSpace_of_opens {space s : List Char} (hSpace : IsSpaces space) (h : Opens s)
    (rest : List Char) : skipSpace (space ++ (s ++ rest)) = s ++ rest := by
  obtain ⟨first, more, rfl, hFirst, _⟩ := h
  exact skipSpace_cons hSpace hFirst (more ++ rest)

theorem skipSpace_all {space : List Char} (hSpace : IsSpaces space) : skipSpace space = [] := by
  have hSkip : (space ++ []).dropWhile isSpace = [] := List.dropWhile_append_of_pos hSpace
  rwa [List.append_nil] at hSkip

theorem ends_nil : Ends [] := by
  intro c hc
  cases hc

theorem ends_cons (c : Char) (h : isDigit c = false ∧ c ≠ '.' ∧ c ≠ 'e' ∧ c ≠ 'E')
    (rest : List Char) : Ends (c :: rest) := by
  intro d hd
  cases hd
  exact h

theorem ends_of_isSpaces {space rest : List Char} (hSpace : IsSpaces space) (hRest : Ends rest) :
    Ends (space ++ rest) := by
  cases space with
  | nil => exact hRest
  | cons c space =>
    refine ends_cons c ?_ _
    rcases isSpace_iff.mp (hSpace c (List.mem_cons_self ..)) with rfl | rfl | rfl | rfl <;> decide

theorem exists_fuel {s : List Char} {fuel : Nat} (hs : s ≠ []) (h : s.length ≤ fuel) :
    ∃ less, fuel = less + 1 := by
  have hPos := List.length_pos_iff.mpr hs
  exact ⟨fuel - 1, by omega⟩

/-- A value that is neither a text nor a container begins here. -/
structure IsPlain (c : Char) : Prop where
  space : isSpace c = false
  bracket : c ≠ ']'
  mark : c ≠ '\uFEFF'
  quote : c ≠ '"'
  array : c ≠ '['
  object : c ≠ '{'

theorem isPlain_of_isDigit {c : Char} (h : isDigit c = true) : IsPlain c := by
  constructor
  · refine Bool.eq_false_iff.mpr fun hSpace => ?_
    rcases isSpace_iff.mp hSpace with rfl | rfl | rfl | rfl <;> exact absurd h (by decide)
  all_goals
    rintro rfl
    exact absurd h (by decide)

theorem readValue_of_readName {first : Char} (h : IsPlain first) {s : List Char}
    {found : Json × List Char} (hFound : readName (first :: s) = some found) (fuel : Nat) :
    readValue (fuel + 1) (first :: s) = .ok found := by
  rw [readValue]
  · rw [hFound]
  · exact fun _ hHead => h.quote (List.cons.inj hHead).1
  · exact fun _ hHead => h.array (List.cons.inj hHead).1
  · exact fun _ hHead => h.object (List.cons.inj hHead).1

theorem readValue_of_readNumber {first : Char} (h : IsPlain first) {s : List Char}
    (hNone : readName (first :: s) = none) (fuel : Nat) :
    readValue (fuel + 1) (first :: s) = readNumber (first :: s) := by
  rw [readValue]
  · rw [hNone]
  · exact fun _ hHead => h.quote (List.cons.inj hHead).1
  · exact fun _ hHead => h.array (List.cons.inj hHead).1
  · exact fun _ hHead => h.object (List.cons.inj hHead).1

theorem exists_begin_of_mem_names {name : String × Json} (h : name ∈ names) :
    ∃ first second more, name.1.toList = first :: second :: more ∧ IsPlain first ∧
      isDigit first = false ∧ isDigit second = false := by
  simp only [names, List.mem_cons, List.not_mem_nil, or_false] at h
  rcases h with rfl | rfl | rfl | rfl | rfl | rfl <;>
    exact ⟨_, _, _, rfl, by constructor <;> decide, rfl, rfl⟩

theorem readName_name {name : String} {v : Json} (h : (name, v) ∈ names) (rest : List Char) :
    readName (name.toList ++ rest) = some (v, rest) := by
  simp only [names, List.mem_cons, Prod.mk.injEq, List.not_mem_nil, or_false] at h
  rcases h with ⟨rfl, rfl⟩ | ⟨rfl, rfl⟩ | ⟨rfl, rfl⟩ | ⟨rfl, rfl⟩ | ⟨rfl, rfl⟩ | ⟨rfl, rfl⟩ <;> rfl

theorem readName_eq_none {s : List Char}
    (h : ∀ name ∈ names, name.1.toList.isPrefixOf s = false) : readName s = none := by
  rw [readName, List.findSome?_eq_none_iff]
  exact fun name hName => if_neg (Bool.eq_false_iff.mp (h name hName))

theorem reads_name {name : String} {v : Json} (h : (name, v) ∈ names) : Reads name.toList v := by
  have hRead := readName_name h
  obtain ⟨first, second, more, hName, hPlain, _⟩ := exists_begin_of_mem_names h
  rw [hName] at hRead ⊢
  refine ⟨⟨first, _, rfl, hPlain.space, hPlain.bracket, hPlain.mark⟩, fun {fuel} rest hFuel _ => ?_⟩
  obtain ⟨fuel, rfl⟩ := exists_fuel (List.cons_ne_nil _ _) hFuel
  exact readValue_of_readName hPlain (hRead rest) fuel

/-- No name begins like a number. -/
theorem readName_digit (negative : Bool) {first : Char} (hDigit : isDigit first = true)
    (s : List Char) : readName (Binary64.signChars negative ++ first :: s) = none := by
  refine readName_eq_none fun name hName => ?_
  obtain ⟨one, two, more, hStart, _, hOne, hTwo⟩ := exists_begin_of_mem_names hName
  have hNone : ∀ c, isDigit c = false → (c == first) = false := fun c hc =>
    beq_eq_false_iff_ne.mpr fun hSame => absurd (hSame ▸ hDigit) (by rw [hc]; decide)
  rw [hStart]
  cases negative with
  | false =>
    exact Bool.and_eq_false_imp.mpr fun hSame => absurd hSame (by rw [hNone one hOne]; decide)
  | true =>
    refine Bool.and_eq_false_imp.mpr fun _ => ?_
    exact Bool.and_eq_false_imp.mpr fun hSame => absurd hSame (by rw [hNone two hTwo]; decide)

theorem Numeral.reads {s : List Char} {v : Json} (h : Numeral s v) : Reads s v := by
  obtain ⟨negative, first, more, hShape, hDigit⟩ := h.begins
  have hPlain : ∃ head tail, s = head :: tail ∧ IsPlain head := by
    cases negative with
    | false => exact ⟨first, more, hShape, isPlain_of_isDigit hDigit⟩
    | true => exact ⟨'-', first :: more, hShape, by constructor <;> decide⟩
  have hNone : ∀ rest, readName (s ++ rest) = none := fun rest => by
    rw [hShape, List.append_assoc, List.cons_append]
    exact readName_digit negative hDigit _
  have hRead := h.read
  obtain ⟨head, tail, rfl, hPlain⟩ := hPlain
  refine ⟨⟨head, tail, rfl, hPlain.space, hPlain.bracket, hPlain.mark⟩,
    fun {fuel} rest hFuel hRest => ?_⟩
  obtain ⟨fuel, rfl⟩ := exists_fuel (List.cons_ne_nil _ _) hFuel
  exact (readValue_of_readNumber hPlain (hNone rest) fuel).trans (hRead rest hRest)

/-- The text is read as a string literal, whatever stands behind it. -/
def ReadsText (label : List Char) (t : String) : Prop :=
  ∀ rest, ∃ inside, label ++ rest = '"' :: inside ∧
    readText ('"' :: inside) ('"' :: inside).length [] inside = .ok (t, rest)

theorem ReadsText.exists_cons {label : List Char} {t : String} (h : ReadsText label t) :
    ∃ more, label = '"' :: more := by
  obtain ⟨inside, hLabel, _⟩ := h []
  exact ⟨inside, by rw [← hLabel, List.append_nil]⟩

theorem Spells.readsText {inside t : List Char} (h : Spells inside t) :
    ReadsText ('"' :: (inside ++ ['"'])) (String.ofList t) := by
  intro rest
  refine ⟨inside ++ '"' :: rest, by rw [List.cons_append, List.append_assoc]; rfl, ?_⟩
  have hFuel : t.length < ('"' :: (inside ++ '"' :: rest)).length := by
    have hLength := h.length_le
    rw [List.length_cons, List.length_append]
    omega
  exact h.readText_eq _ hFuel [] rest

theorem readsText_literal (t : String) : ReadsText (literal t) t := by
  have hText := (spells_escaped t.toList).readsText
  rwa [String.ofList_toList] at hText

theorem ReadsText.reads {label : List Char} {t : String} (h : ReadsText label t) :
    Reads label (.text t) := by
  obtain ⟨more, hLabel⟩ := h.exists_cons
  refine ⟨⟨'"', more, hLabel, rfl, by decide, by decide⟩, fun {fuel} rest hFuel _ => ?_⟩
  obtain ⟨fuel, rfl⟩ := exists_fuel (hLabel ▸ List.cons_ne_nil _ _) hFuel
  obtain ⟨inside, hInside, hText⟩ := h rest
  rw [hInside, readValue, hText]
  rfl

theorem reads_text (t : String) : Reads (literal t) (.text t) := (readsText_literal t).reads

theorem reads_array_blank {space : List Char} (hSpace : IsSpaces space) :
    Reads ('[' :: (space ++ [']'])) (.array []) := by
  refine ⟨⟨'[', _, rfl, rfl, by decide, by decide⟩, fun {fuel} rest hFuel _ => ?_⟩
  obtain ⟨fuel, rfl⟩ := exists_fuel (List.cons_ne_nil _ _) hFuel
  have hSkip := skipSpace_cons hSpace (show isSpace ']' = false from rfl) rest
  rw [List.cons_append, List.append_assoc, List.singleton_append, readValue, hSkip]
  rfl

theorem reads_object_blank {space : List Char} (hSpace : IsSpaces space) :
    Reads ('{' :: (space ++ ['}'])) (.object []) := by
  refine ⟨⟨'{', _, rfl, rfl, by decide, by decide⟩, fun {fuel} rest hFuel _ => ?_⟩
  obtain ⟨fuel, rfl⟩ := exists_fuel (List.cons_ne_nil _ _) hFuel
  have hSkip := skipSpace_cons hSpace (show isSpace '}' = false from rfl) rest
  rw [List.cons_append, List.append_assoc, List.singleton_append, readValue, hSkip]
  rfl

theorem reads_array_nil : Reads ['[', ']'] (.array []) := reads_array_blank isSpaces_nil

theorem reads_object_nil : Reads ['{', '}'] (.object []) := reads_object_blank isSpaces_nil

section Items
variable {space s more : List Char} {v : Json} {items : List Json}

theorem reads_array (hSpace : IsSpaces space) (h : ReadsItems s items) :
    Reads ('[' :: (space ++ s)) (.array items) := by
  refine ⟨⟨'[', _, rfl, rfl, by decide, by decide⟩, fun {fuel} rest hFuel _ => ?_⟩
  obtain ⟨fuel, rfl⟩ := exists_fuel (List.cons_ne_nil _ _) hFuel
  rw [List.length_cons, List.length_append] at hFuel
  have hItems := h.read rest (show s.length ≤ fuel by omega)
  have hSkip := skipSpace_of_opens hSpace h.opens rest
  obtain ⟨first, tail, rfl, _, hBracket, _⟩ := h.opens
  rw [List.cons_append, List.append_assoc, readValue, hSkip]
  rw [List.cons_append] at hItems ⊢
  split
  · rename_i hHead
    exact (hBracket (List.cons.inj hHead).1).elim
  · rw [hItems]
    rfl

theorem Reads.last_item (h : Reads s v) (hSpace : IsSpaces space) :
    ReadsItems (s ++ (space ++ [']'])) [v] := by
  refine ⟨h.opens.append _, fun {fuel} rest hFuel => ?_⟩
  obtain ⟨fuel, rfl⟩ := exists_fuel (h.opens.append _).ne_nil hFuel
  rw [List.length_append, List.length_append, List.length_singleton] at hFuel
  have hValue := h.read _ (show s.length ≤ fuel by omega)
    (ends_of_isSpaces hSpace (ends_cons ']' (by decide) rest))
  have hSkip := skipSpace_cons hSpace (show isSpace ']' = false from rfl) rest
  rw [List.append_assoc, List.append_assoc, List.singleton_append, readItems, hValue]
  dsimp only [bind, Except.bind]
  rw [hSkip]
  rfl

theorem Reads.next_item {before : List Char} (h : Reads s v) (hBefore : IsSpaces before)
    (hSpace : IsSpaces space) (hMore : ReadsItems more items) :
    ReadsItems (s ++ (before ++ ',' :: (space ++ more))) (v :: items) := by
  refine ⟨h.opens.append _, fun {fuel} rest hFuel => ?_⟩
  obtain ⟨fuel, rfl⟩ := exists_fuel (h.opens.append _).ne_nil hFuel
  rw [List.length_append, List.length_append, List.length_cons, List.length_append] at hFuel
  have hValue := h.read (before ++ ',' :: (space ++ (more ++ rest)))
    (show s.length ≤ fuel by omega) (ends_of_isSpaces hBefore (ends_cons ',' (by decide) _))
  have hItems := hMore.read rest (show more.length ≤ fuel by omega)
  have hComma := skipSpace_cons hBefore (show isSpace ',' = false from rfl)
    (space ++ (more ++ rest))
  rw [List.append_assoc, List.append_assoc, List.cons_append, List.append_assoc, readItems]
  simp only [hValue, hComma, skipSpace_of_opens hSpace hMore.opens, hItems, bind, Except.bind]
  rfl

theorem Reads.more_items (h : Reads s v) (hSpace : IsSpaces space)
    (hMore : ReadsItems more items) :
    ReadsItems (s ++ ',' :: (space ++ more)) (v :: items) :=
  h.next_item isSpaces_nil hSpace hMore

end Items

section Members
variable {name : String} {space s more : List Char} {v : Json} {members : Fields Json}

/-- The text of a member. -/
def member (name : String) (value : List Char) : List Char := literal name ++ ':' :: ' ' :: value

theorem ReadsMembers.first (h : ReadsMembers s members) : Opens s := by
  obtain ⟨more, rfl⟩ := h.opens
  exact ⟨'"', more, rfl, rfl, by decide, by decide⟩

theorem reads_object (hSpace : IsSpaces space) (h : ReadsMembers s members) :
    Reads ('{' :: (space ++ s)) (.object (Fields.update [] members)) := by
  refine ⟨⟨'{', _, rfl, rfl, by decide, by decide⟩, fun {fuel} rest hFuel _ => ?_⟩
  obtain ⟨fuel, rfl⟩ := exists_fuel (List.cons_ne_nil _ _) hFuel
  rw [List.length_cons, List.length_append] at hFuel
  have hMembers := h.read [] rest (show s.length ≤ fuel by omega)
  have hSkip := skipSpace_of_opens hSpace h.first rest
  obtain ⟨tail, rfl⟩ := h.opens
  rw [List.cons_append, List.append_assoc, readValue, hSkip]
  rw [List.cons_append] at hMembers ⊢
  split
  · rename_i hHead
    exact absurd (List.cons.inj hHead).1 (by decide)
  · rw [hMembers]
    rfl

theorem ReadsText.opens_member {label : List Char} (h : ReadsText label name)
    (rest : List Char) : ∃ more, label ++ rest = '"' :: more := by
  obtain ⟨more, rfl⟩ := h.exists_cons
  exact ⟨more ++ rest, rfl⟩

/-- A member is put into the ones before it: its name, a colon with white space around it and its
value are read. -/
theorem Reads.member_read {label before behind : List Char} (hName : ReadsText label name)
    (hBefore : IsSpaces before) (hBehind : IsSpaces behind) (h : Reads s v) {fuel : Nat}
    (known : Fields Json) {rest : List Char} (hFuel : s.length ≤ fuel) (hRest : Ends rest) :
    readMembers (fuel + 1) known (label ++ (before ++ ':' :: (behind ++ (s ++ rest)))) =
      match skipSpace rest with
      | '}' :: rest => .ok (Fields.put name v known, rest)
      | ',' :: rest => readMembers fuel (Fields.put name v known) (skipSpace rest)
      | rest => .error ⟨.comma, rest⟩ := by
  obtain ⟨inside, hLabel, hText⟩ := hName (before ++ ':' :: (behind ++ (s ++ rest)))
  have hColon := skipSpace_cons hBefore (show isSpace ':' = false from rfl)
    (behind ++ (s ++ rest))
  have hValue := h.read rest hFuel hRest
  rw [hLabel, readMembers]
  simp only [hText, hColon, skipSpace_of_opens hBehind h.opens, hValue, bind, Except.bind]
  rfl

theorem Reads.end_member {label before behind : List Char} (hName : ReadsText label name)
    (hBefore : IsSpaces before) (hBehind : IsSpaces behind) (h : Reads s v)
    (hSpace : IsSpaces space) :
    ReadsMembers (label ++ (before ++ ':' :: (behind ++ (s ++ (space ++ ['}']))))) [(name, v)] := by
  refine ⟨hName.opens_member _, fun {fuel} known rest hFuel => ?_⟩
  obtain ⟨fuel, rfl⟩ : ∃ less, fuel = less + 1 := exists_fuel (by simp) hFuel
  simp only [List.length_append, List.length_cons] at hFuel
  have hSkip := skipSpace_cons hSpace (show isSpace '}' = false from rfl) rest
  have hMember := h.member_read hName hBefore hBehind known (show s.length ≤ fuel by omega)
    (ends_of_isSpaces hSpace (ends_cons '}' (by decide) rest))
  have hUpdate : Fields.update known [(name, v)] = Fields.put name v known := rfl
  rw [hSkip] at hMember
  simpa only [hUpdate, List.append_assoc, List.cons_append, List.nil_append] using hMember

theorem Reads.next_member {label before behind gap : List Char} (hName : ReadsText label name)
    (hBefore : IsSpaces before) (hBehind : IsSpaces behind) (h : Reads s v) (hGap : IsSpaces gap)
    (hSpace : IsSpaces space) (hMore : ReadsMembers more members) :
    ReadsMembers (label ++ (before ++ ':' :: (behind ++ (s ++ (gap ++ ',' :: (space ++ more))))))
      ((name, v) :: members) := by
  refine ⟨hName.opens_member _, fun {fuel} known rest hFuel => ?_⟩
  obtain ⟨fuel, rfl⟩ : ∃ less, fuel = less + 1 := exists_fuel (by simp) hFuel
  simp only [List.length_append, List.length_cons] at hFuel
  have hSkip := skipSpace_cons hGap (show isSpace ',' = false from rfl) (space ++ (more ++ rest))
  have hMember := h.member_read hName hBefore hBehind known (show s.length ≤ fuel by omega)
    (ends_of_isSpaces hGap (ends_cons ',' (by decide) (space ++ (more ++ rest))))
  have hMembers := hMore.read (Fields.put name v known) rest (show more.length ≤ fuel by omega)
  have hUpdate : Fields.update known ((name, v) :: members) =
      Fields.update (Fields.put name v known) members := rfl
  simp only [hSkip, skipSpace_of_opens hSpace hMore.first, hMembers] at hMember
  simpa only [hUpdate, List.append_assoc, List.cons_append] using hMember

theorem Reads.last_member (name : String) (h : Reads s v) (hSpace : IsSpaces space) :
    ReadsMembers (member name s ++ (space ++ ['}'])) [(name, v)] := by
  have hMember := h.end_member (readsText_literal name) isSpaces_nil
    (isSpaces_cons (show isSpace ' ' = true from rfl) isSpaces_nil) hSpace
  rw [member, List.append_assoc]
  exact hMember

theorem Reads.more_members (name : String) (h : Reads s v) (hSpace : IsSpaces space)
    (hMore : ReadsMembers more members) :
    ReadsMembers (member name s ++ ',' :: (space ++ more)) ((name, v) :: members) := by
  have hMember := h.next_member (readsText_literal name) isSpaces_nil
    (isSpaces_cons (show isSpace ' ' = true from rfl) isSpaces_nil) isSpaces_nil hSpace hMore
  rw [member, List.append_assoc]
  exact hMember

end Members

/-- A text with white space around it is read as its value. -/
theorem Reads.document {before s after : List Char} {v : Json} (h : Reads s v)
    (hBefore : IsSpaces before) (hAfter : IsSpaces after) :
    readDocument (before ++ (s ++ after)) = .ok v := by
  have hMark : (before ++ (s ++ after)).head? ≠ some '\uFEFF' := by
    intro hHead
    cases before with
    | nil =>
      obtain ⟨first, more, rfl, _, _, hFirst⟩ := h.opens
      exact hFirst (Option.some.inj hHead)
    | cons c before =>
      obtain rfl := Option.some.inj hHead
      exact absurd (hBefore _ (List.mem_cons_self ..)) (by decide)
  have hFuel : s.length ≤ (before ++ (s ++ after)).length + 1 := by
    rw [List.length_append, List.length_append]
    omega
  have hEnds : Ends after := by
    have hEnds := ends_of_isSpaces hAfter ends_nil
    rwa [List.append_nil] at hEnds
  rw [readDocument, if_neg hMark, skipSpace_of_opens hBefore h.opens]
  simp only [h.read after hFuel hEnds, skipSpace_all hAfter, bind, Except.bind]
  rfl

theorem read_of_readDocument {s : String} {v : Json} (h : readDocument s.toList = .ok v) :
    read s = .ok v := by
  rw [read, h]

end EventDigest.Json

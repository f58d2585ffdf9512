import EventDigest.Proofs.Answer
import EventDigest.Proofs.Reading

/-! # The grammar of documents

Which texts are documents is said without a reader: by the names, the numbers and the literals, and
by how containers are put together from them, with white space between. The reader accepts exactly
these texts and gives each the value that the grammar gives it. The standard knows three names; the
reader takes those of the three special floating-point values besides.
-/
set_option autoImplicit false
namespace EventDigest.Json

def standardNames : List (String × Json) :=
  [("null", .null), ("true", .bool true), ("false", .bool false)]

def specialNames : List (String × Json) :=
  [("NaN", .float .nan), ("Infinity", .float (.infinite false)),
    ("-Infinity", .float (.infinite true))]

theorem names_eq : names = standardNames ++ specialNames := rfl

/-- What a piece of a document stands for. -/
inductive Part
  | value (v : Json)
  | items (items : List Json)
  | members (members : Fields Json)

/-- The texts of a grammar in which some names stand for values: values, and what stands between the
brackets of a container that is not empty. Of members with one name the last counts. -/
inductive Denotes (known : List (String × Json)) : List Char → Part → Prop
  | name {name : String} {v : Json} (hName : (name, v) ∈ known) :
    Denotes known name.toList (.value v)
  | number {s : List Char} {v : Json} (hNumber : IsNumber s v) : Denotes known s (.value v)
  | text {inside t : List Char} (hText : Spells inside t) :
    Denotes known ('"' :: (inside ++ ['"'])) (.value (.text (String.ofList t)))
  | emptyArray {space : List Char} (hSpace : IsSpaces space) :
    Denotes known ('[' :: (space ++ [']'])) (.value (.array []))
  | array {space s : List Char} {items : List Json} (hSpace : IsSpaces space)
    (hItems : Denotes known s (.items items)) :
    Denotes known ('[' :: (space ++ (s ++ [']']))) (.value (.array items))
  | emptyObject {space : List Char} (hSpace : IsSpaces space) :
    Denotes known ('{' :: (space ++ ['}'])) (.value (.object []))
  | object {space s : List Char} {members : Fields Json} (hSpace : IsSpaces space)
    (hMembers : Denotes known s (.members members)) :
    Denotes known ('{' :: (space ++ (s ++ ['}']))) (.value (.object (Fields.update [] members)))
  | lastItem {s space : List Char} {v : Json} (hValue : Denotes known s (.value v))
    (hSpace : IsSpaces space) : Denotes known (s ++ space) (.items [v])
  | nextItem {s before behind more : List Char} {v : Json} {items : List Json}
    (hValue : Denotes known s (.value v)) (hBefore : IsSpaces before) (hBehind : IsSpaces behind)
    (hMore : Denotes known more (.items items)) :
    Denotes known (s ++ (before ++ ',' :: (behind ++ more))) (.items (v :: items))
  | lastMember {inside name before behind s space : List Char} {v : Json}
    (hName : Spells inside name) (hBefore : IsSpaces before) (hBehind : IsSpaces behind)
    (hValue : Denotes known s (.value v)) (hSpace : IsSpaces space) :
    Denotes known ('"' :: (inside ++ ['"']) ++ (before ++ ':' :: (behind ++ (s ++ space))))
      (.members [(String.ofList name, v)])
  | nextMember {inside name before behind s gap space more : List Char} {v : Json}
    {members : Fields Json} (hName : Spells inside name) (hBefore : IsSpaces before)
    (hBehind : IsSpaces behind) (hValue : Denotes known s (.value v)) (hGap : IsSpaces gap)
    (hSpace : IsSpaces space) (hMore : Denotes known more (.members members)) :
    Denotes known
      ('"' :: (inside ++ ['"']) ++
        (before ++ ':' :: (behind ++ (s ++ (gap ++ ',' :: (space ++ more))))))
      (.members ((String.ofList name, v) :: members))

/-- The text is one value with white space around it. -/
def IsDocument (known : List (String × Json)) (s : List Char) (v : Json) : Prop :=
  ∃ before text after, s = before ++ (text ++ after) ∧ IsSpaces before ∧ IsSpaces after ∧
    Denotes known text (.value v)

/-! Every text of the grammar is read. -/

/-- How the reader takes a piece; those of a container are taken with the closing bracket. -/
def Part.IsRead (s : List Char) : Part → Prop
  | .value v => Reads s v
  | .items all => ReadsItems (s ++ [']']) all
  | .members all => ReadsMembers (s ++ ['}']) all

theorem Denotes.isRead {s : List Char} {part : Part} (h : Denotes names s part) :
    part.IsRead s := by
  induction h with
  | name hName => exact reads_name hName
  | number hNumber => exact hNumber.numeral.reads
  | text hText => exact hText.readsText.reads
  | emptyArray hSpace => exact reads_array_blank hSpace
  | array hSpace _ ih => exact reads_array hSpace ih
  | emptyObject hSpace => exact reads_object_blank hSpace
  | object hSpace _ ih => exact reads_object hSpace ih
  | lastItem _ hSpace ih =>
    have hItems := Reads.last_item ih hSpace
    rwa [← List.append_assoc] at hItems
  | nextItem _ hBefore hBehind _ ih ihMore =>
    have hItems := Reads.next_item ih hBefore hBehind ihMore
    simpa only [Part.IsRead, List.append_assoc, List.cons_append] using hItems
  | lastMember hName hBefore hBehind _ hSpace ih =>
    have hMembers := Reads.end_member hName.readsText hBefore hBehind ih hSpace
    simpa only [Part.IsRead, List.append_assoc, List.cons_append] using hMembers
  | nextMember hName hBefore hBehind _ hGap hSpace _ ih ihMore =>
    have hMembers := Reads.next_member hName.readsText hBefore hBehind ih hGap hSpace ihMore
    simpa only [Part.IsRead, List.append_assoc, List.cons_append] using hMembers

theorem IsDocument.readDocument_eq {s : List Char} {v : Json} (h : IsDocument names s v) :
    readDocument s = .ok v := by
  obtain ⟨before, text, after, rfl, hBefore, hAfter, hText⟩ := h
  exact Reads.document hText.isRead hBefore hAfter

/-! Every text that is read is one of the grammar. The numbers come first, piece by piece. -/

theorem exists_digits (s : List Char) : ∃ digits rest, s = digits ++ rest ∧
    s.takeWhile isDigit = digits ∧ s.dropWhile isDigit = rest ∧
    ∀ c ∈ digits, isDigit c = true :=
  ⟨_, _, List.takeWhile_append_dropWhile.symm, rfl, rfl, List.all_eq_true.mp List.all_takeWhile⟩

theorem of_readWhole {s whole rest : List Char} (h : readWhole s = some (whole, rest)) :
    s = whole ++ rest ∧ IsWhole whole := by
  unfold readWhole at h
  split at h
  · cases h
    exact ⟨rfl, .zero⟩
  · rename_i c more hZero
    split at h
    · rename_i hFirst
      cases h
      obtain ⟨digits, behind, hMore, hTake, hDrop, hDigits⟩ := exists_digits more
      rw [List.takeWhile_cons_of_pos hFirst, List.dropWhile_cons_of_pos hFirst, hTake, hDrop]
      refine ⟨by rw [hMore, List.cons_append], .digits c digits ?_ ?_⟩
      · exact hZero
      · exact List.forall_mem_cons.mpr ⟨hFirst, hDigits⟩
    · cases h
  · cases h

theorem of_readFraction {s digits rest : List Char} (h : readFraction s = (digits, rest)) :
    ∃ fraction, s = fraction ++ rest ∧ Fraction fraction digits := by
  unfold readFraction at h
  split at h
  · rename_i more
    obtain ⟨found, behind, hMore, hTake, hDrop, hDigits⟩ := exists_digits more
    dsimp only at h
    rw [hTake, hDrop] at h
    split at h
    · cases h
      exact ⟨[], rfl, .none⟩
    · rename_i hSome
      cases h
      exact ⟨'.' :: digits, by rw [hMore, List.cons_append],
        .point digits (by simpa using hSome) hDigits⟩
  · cases h
    exact ⟨[], rfl, .none⟩

theorem of_readExponent {s rest : List Char} {e : Int} (h : readExponent s = some (e, rest)) :
    ∃ power, s = power ++ rest ∧ power ≠ [] ∧ Power power e := by
  unfold readExponent at h
  split at h
  · cases h
  · rename_i mark more
    split at h
    · rename_i hMark
      have hMark : mark = 'e' ∨ mark = 'E' := by simpa using hMark
      split at h
      rename_i negative unsigned hSign
      obtain ⟨digits, behind, hUnsigned, hTake, hDrop, hDigits⟩ := exists_digits unsigned
      dsimp only at h
      rw [hTake, hDrop] at h
      split at h
      · cases h
      · rename_i hSome
        have hSome : digits ≠ [] := by simpa using hSome
        obtain ⟨rfl, rfl⟩ := Prod.mk.inj (Option.some.inj h)
        split at hSign
        · cases hSign
          exact ⟨mark :: '-' :: digits, by rw [hUnsigned]; rfl, List.cons_ne_nil _ _,
            .minus mark digits hMark hSome hDigits⟩
        · cases hSign
          exact ⟨mark :: (['+'] ++ digits), by rw [hUnsigned]; rfl, List.cons_ne_nil _ _,
            .plus mark ['+'] digits hMark (.inr rfl) hSome hDigits⟩
        · cases hSign
          exact ⟨mark :: ([] ++ digits), by rw [hUnsigned]; rfl, List.cons_ne_nil _ _,
            .plus mark [] digits hMark (.inl rfl) hSome hDigits⟩
    · cases h

theorem of_readNumber {s rest : List Char} {v : Json} (h : readNumber s = .ok (v, rest)) :
    ∃ number, s = number ++ rest ∧ IsNumber number v := by
  unfold readNumber at h
  split at h
  rename_i negative unsigned hSign
  have hShape : s = Binary64.signChars negative ++ unsigned := by
    split at hSign
    · cases hSign
      rfl
    · cases hSign
      rfl
  split at h
  · cases h
  · rename_i whole behind hWhole
    obtain ⟨hUnsigned, hIsWhole⟩ := of_readWhole hWhole
    split at h
    rename_i digits left hFraction
    obtain ⟨fraction, rfl, hDigits⟩ := of_readFraction hFraction
    split at h
    · rename_i e last hExponent
      obtain ⟨power, rfl, hSome, hPower⟩ := of_readExponent hExponent
      obtain ⟨rfl, rfl⟩ := Prod.mk.inj (Except.ok.inj h)
      exact ⟨_, by rw [hShape, hUnsigned]; simp only [List.append_assoc],
        .float negative whole fraction digits power e hIsWhole hDigits hPower (.inr hSome)⟩
    · split at h
      · rename_i hNone
        rw [List.isEmpty_iff] at hNone
        subst hNone
        cases hDigits with
        | none =>
          split at h
          · cases h
          · rename_i hShort
            obtain ⟨rfl, rfl⟩ := Prod.mk.inj (Except.ok.inj h)
            exact ⟨_, by rw [hShape, hUnsigned, List.append_assoc]; rfl,
              .int negative whole hIsWhole (Nat.not_lt.mp hShort)⟩
        | point _ hSome => exact (hSome rfl).elim
      · rename_i hSome
        have hFloat : fraction ≠ [] := by
          rintro rfl
          cases hDigits
          exact hSome rfl
        obtain ⟨rfl, rfl⟩ := Prod.mk.inj (Except.ok.inj h)
        have hNumber := IsNumber.float negative whole fraction digits [] 0 hIsWhole hDigits .none
          (.inl hFloat)
        rw [Int.zero_sub] at hNumber
        refine ⟨_, ?_, hNumber⟩
        rw [hShape, hUnsigned]
        simp only [List.append_assoc, List.nil_append]

theorem of_readName {s rest : List Char} {v : Json} (h : readName s = some (v, rest)) :
    ∃ name, s = name.toList ++ rest ∧ (name, v) ∈ names := by
  obtain ⟨⟨name, value⟩, hName, hFound⟩ := List.exists_of_findSome?_eq_some h
  dsimp only at hFound
  split at hFound
  · rename_i hPrefix
    obtain ⟨behind, rfl⟩ := List.isPrefixOf_iff_prefix.mp hPrefix
    obtain ⟨rfl, rfl⟩ := Prod.mk.inj (Option.some.inj hFound)
    refine ⟨name, ?_, hName⟩
    rw [← String.length_toList, List.drop_left]
  · cases hFound

/-- What the reader takes with some fuel belongs to the grammar. -/
structure Sound (fuel : Nat) : Prop where
  value : ∀ {s v rest}, readValue fuel s = .ok (v, rest) →
    ∃ text, s = text ++ rest ∧ Denotes names text (.value v)
  items : ∀ {s items rest}, readItems fuel s = .ok (items, rest) →
    ∃ text, s = text ++ ']' :: rest ∧ Denotes names text (.items items)
  members : ∀ {known s all rest}, readMembers fuel known s = .ok (all, rest) →
    ∃ text members, s = text ++ '}' :: rest ∧ Denotes names text (.members members) ∧
      all = Fields.update known members

theorem exists_space (s : List Char) : ∃ space, s = space ++ skipSpace s ∧ IsSpaces space :=
  ⟨_, List.takeWhile_append_dropWhile.symm, List.all_eq_true.mp List.all_takeWhile⟩

theorem Sound.items_succ {fuel : Nat} (h : Sound fuel) {s rest : List Char} {items : List Json}
    (hRead : readItems (fuel + 1) s = .ok (items, rest)) :
    ∃ text, s = text ++ ']' :: rest ∧ Denotes names text (.items items) := by
  rw [readItems] at hRead
  obtain ⟨⟨item, behind⟩, hItem, hNext⟩ := Answer.bind_eq_ok_iff.mp hRead
  obtain ⟨text, hShape, hText⟩ := h.value hItem
  obtain ⟨space, hSpace, hIsSpaces⟩ := exists_space behind
  dsimp only at hNext
  split at hNext
  · rename_i last hSkip
    obtain ⟨rfl, rfl⟩ := Prod.mk.inj (Except.ok.inj hNext)
    rw [hSkip] at hSpace
    exact ⟨text ++ space, by rw [hShape, hSpace, List.append_assoc], .lastItem hText hIsSpaces⟩
  · rename_i last hSkip
    obtain ⟨⟨others, final⟩, hOthers, hEnd⟩ := Answer.bind_eq_ok_iff.mp hNext
    obtain ⟨rfl, rfl⟩ := Prod.mk.inj (Except.ok.inj hEnd)
    obtain ⟨more, hMore, hDenotes⟩ := h.items hOthers
    obtain ⟨gap, hGap, hIsGap⟩ := exists_space last
    rw [hSkip, hGap, hMore] at hSpace
    exact ⟨_, by rw [hShape, hSpace]; simp only [List.append_assoc, List.cons_append],
      .nextItem hText hIsSpaces hIsGap hDenotes⟩
  · cases hNext

theorem Sound.members_succ {fuel : Nat} (h : Sound fuel) {known all : Fields Json}
    {s rest : List Char} (hRead : readMembers (fuel + 1) known s = .ok (all, rest)) :
    ∃ text members, s = text ++ '}' :: rest ∧ Denotes names text (.members members) ∧
      all = Fields.update known members := by
  unfold readMembers at hRead
  split at hRead
  · rename_i behind
    obtain ⟨⟨name, last⟩, hName, hNext⟩ := Answer.bind_eq_ok_iff.mp hRead
    obtain ⟨inside, added, hShape, hSpells, rfl⟩ := spells_of_readText hName
    rw [List.reverse_nil, List.nil_append] at hNext
    obtain ⟨before, hBefore, hIsBefore⟩ := exists_space last
    dsimp only at hNext
    split at hNext
    · rename_i colon hColon
      obtain ⟨⟨v, behind'⟩, hValue, hMore⟩ := Answer.bind_eq_ok_iff.mp hNext
      obtain ⟨text, hText, hDenotes⟩ := h.value hValue
      obtain ⟨gap, hGap, hIsGap⟩ := exists_space colon
      obtain ⟨space, hSpace, hIsSpace⟩ := exists_space behind'
      rw [hColon, hGap, hText] at hBefore
      dsimp only at hMore
      split at hMore
      · rename_i final hSkip
        obtain ⟨rfl, rfl⟩ := Prod.mk.inj (Except.ok.inj hMore)
        rw [hSkip] at hSpace
        refine ⟨_, _, ?_, .lastMember hSpells hIsBefore hIsGap hDenotes hIsSpace, rfl⟩
        rw [hShape, hBefore, hSpace]
        simp only [List.append_assoc, List.cons_append, List.nil_append]
      · rename_i final hSkip
        obtain ⟨more, members, hFinal, hMembers, rfl⟩ := h.members hMore
        obtain ⟨edge, hEdge, hIsEdge⟩ := exists_space final
        rw [hSkip, hEdge, hFinal] at hSpace
        refine ⟨_, _, ?_,
          .nextMember hSpells hIsBefore hIsGap hDenotes hIsSpace hIsEdge hMembers, rfl⟩
        rw [hShape, hBefore, hSpace]
        simp only [List.append_assoc, List.cons_append, List.nil_append]
      · cases hMore
    · cases hNext
  · cases hRead

theorem Sound.value_succ {fuel : Nat} (h : Sound fuel) {s rest : List Char} {v : Json}
    (hRead : readValue (fuel + 1) s = .ok (v, rest)) :
    ∃ text, s = text ++ rest ∧ Denotes names text (.value v) := by
  unfold readValue at hRead
  split at hRead
  · rename_i behind
    obtain ⟨⟨t, last⟩, hText, hEnd⟩ := Answer.bind_eq_ok_iff.mp hRead
    obtain ⟨rfl, rfl⟩ := Prod.mk.inj (Except.ok.inj hEnd)
    obtain ⟨inside, added, hShape, hSpells, rfl⟩ := spells_of_readText hText
    refine ⟨_, ?_, .text hSpells⟩
    rw [hShape, List.cons_append, List.append_assoc]
    rfl
  · rename_i behind
    obtain ⟨space, hSpace, hIsSpaces⟩ := exists_space behind
    split at hRead
    · rename_i last hSkip
      obtain ⟨rfl, rfl⟩ := Prod.mk.inj (Except.ok.inj hRead)
      rw [hSkip] at hSpace
      refine ⟨_, ?_, .emptyArray hIsSpaces⟩
      rw [hSpace]
      simp only [List.append_assoc, List.cons_append, List.nil_append]
    · obtain ⟨⟨items, last⟩, hItems, hEnd⟩ := Answer.bind_eq_ok_iff.mp hRead
      obtain ⟨rfl, rfl⟩ := Prod.mk.inj (Except.ok.inj hEnd)
      obtain ⟨text, hText, hDenotes⟩ := h.items hItems
      rw [hText] at hSpace
      refine ⟨_, ?_, .array hIsSpaces hDenotes⟩
      rw [hSpace]
      simp only [List.append_assoc, List.cons_append, List.nil_append]
  · rename_i behind
    obtain ⟨space, hSpace, hIsSpaces⟩ := exists_space behind
    split at hRead
    · rename_i last hSkip
      obtain ⟨rfl, rfl⟩ := Prod.mk.inj (Except.ok.inj hRead)
      rw [hSkip] at hSpace
      refine ⟨_, ?_, .emptyObject hIsSpaces⟩
      rw [hSpace]
      simp only [List.append_assoc, List.cons_append, List.nil_append]
    · obtain ⟨⟨all, last⟩, hMembers, hEnd⟩ := Answer.bind_eq_ok_iff.mp hRead
      obtain ⟨rfl, rfl⟩ := Prod.mk.inj (Except.ok.inj hEnd)
      obtain ⟨text, members, hText, hDenotes, rfl⟩ := h.members hMembers
      rw [hText] at hSpace
      refine ⟨_, ?_, .object hIsSpaces hDenotes⟩
      rw [hSpace]
      simp only [List.append_assoc, List.cons_append, List.nil_append]
  · split at hRead
    · rename_i found hFound
      rw [Except.ok.inj hRead] at hFound
      obtain ⟨name, rfl, hName⟩ := of_readName hFound
      exact ⟨_, rfl, .name hName⟩
    · obtain ⟨number, rfl, hNumber⟩ := of_readNumber hRead
      exact ⟨_, rfl, .number hNumber⟩

theorem sound (fuel : Nat) : Sound fuel := by
  -- The three readers call each other with less fuel, so they are shown sound together.
  induction fuel with
  | zero =>
    constructor
    · intro s v rest h
      rw [readValue] at h
      cases h
    · intro s items rest h
      rw [readItems] at h
      cases h
    · intro known s all rest h
      rw [readMembers] at h
      cases h
  | succ fuel ih => exact ⟨ih.value_succ, ih.items_succ, ih.members_succ⟩

theorem isDocument_of_readDocument {s : List Char} {v : Json} (h : readDocument s = .ok v) :
    IsDocument names s v := by
  unfold readDocument at h
  split at h
  · cases h
  · obtain ⟨⟨found, behind⟩, hValue, hEnd⟩ := Answer.bind_eq_ok_iff.mp h
    obtain ⟨text, hText, hDenotes⟩ := (sound _).value hValue
    obtain ⟨before, hBefore, hIsBefore⟩ := exists_space s
    obtain ⟨after, hAfter, hIsAfter⟩ := exists_space behind
    dsimp only at hEnd
    split at hEnd
    · -- Nothing is left behind the value but the white space after it.
      rename_i hNothing
      obtain rfl := Except.ok.inj hEnd
      rw [hNothing, List.append_nil] at hAfter
      subst hAfter
      exact ⟨before, text, behind, by rw [hBefore, hText], hIsBefore, hIsAfter, hDenotes⟩
    · cases hEnd

/-! More names make more documents. -/

theorem Denotes.mono {known more : List (String × Json)} (hMore : known ⊆ more) {s : List Char}
    {part : Part} (h : Denotes known s part) : Denotes more s part := by
  induction h with
  | name hName => exact .name (hMore hName)
  | number hNumber => exact .number hNumber
  | text hText => exact .text hText
  | emptyArray hSpace => exact .emptyArray hSpace
  | array hSpace _ ih => exact .array hSpace ih
  | emptyObject hSpace => exact .emptyObject hSpace
  | object hSpace _ ih => exact .object hSpace ih
  | lastItem _ hSpace ih => exact .lastItem ih hSpace
  | nextItem _ hBefore hBehind _ ih ihMore => exact .nextItem ih hBefore hBehind ihMore
  | lastMember hName hBefore hBehind _ hSpace ih =>
    exact .lastMember hName hBefore hBehind ih hSpace
  | nextMember hName hBefore hBehind _ hGap hSpace _ ih ihMore =>
    exact .nextMember hName hBefore hBehind ih hGap hSpace ihMore

end EventDigest.Json

/-! Only a name stands for the special value that is no number. -/
namespace EventDigest

theorem Fields.mem_put {α : Type} {fields : Fields α} {name : String} {value : α}
    {field : String × α} (h : field ∈ fields.put name value) :
    field = (name, value) ∨ field ∈ fields := by
  induction fields with
  | nil => exact .inl (List.mem_singleton.mp h)
  | cons first rest ih =>
    rw [Fields.put] at h
    split at h
    · exact (List.mem_cons.mp h).imp_right (List.mem_cons_of_mem _)
    · rcases List.mem_cons.mp h with rfl | hRest
      · exact .inr (List.mem_cons_self ..)
      · exact (ih hRest).imp_right (List.mem_cons_of_mem _)

theorem Fields.mem_update {α : Type} {fields later : Fields α} {field : String × α}
    (h : field ∈ fields.update later) : field ∈ fields ∨ field ∈ later := by
  induction later generalizing fields with
  | nil => exact .inl h
  | cons first rest ih =>
    rcases ih h with hPut | hRest
    · rcases Fields.mem_put hPut with rfl | hOld
      · exact .inr (List.mem_cons_self ..)
      · exact .inl hOld
    · exact .inr (List.mem_cons_of_mem _ hRest)

namespace Binary64

theorem ofRatio_ne_nan (negative : Bool) (num den : Nat) :
    ofRatio negative num den ≠ .nan := by
  unfold ofRatio zero
  dsimp only
  split
  · exact Binary64.noConfusion
  · split
    all_goals
      dsimp only
      split
      · exact Binary64.noConfusion
      · split <;> exact Binary64.noConfusion

theorem ofDecimal_ne_nan (negative : Bool) (digits : Nat) (exponent : Int) :
    ofDecimal negative digits exponent ≠ .nan := by
  unfold ofDecimal zero
  dsimp only
  split
  · exact Binary64.noConfusion
  · split
    · exact Binary64.noConfusion
    · split
      · exact Binary64.noConfusion
      · split <;> exact ofRatio_ne_nan _ _ _

end Binary64

namespace Json

theorem Denotes.members_denoted {known : List (String × Json)} :
    ∀ {s : List Char} {members : Fields Json}, Denotes known s (.members members) →
      ∀ field ∈ members, ∃ text, Denotes known text (.value field.2)
  | _, _, .lastMember _ _ _ hValue _, field, hField => by
    obtain rfl := List.mem_singleton.mp hField
    exact ⟨_, hValue⟩
  | _, _, .nextMember _ _ _ hValue _ _ hMore, field, hField => by
    rcases List.mem_cons.mp hField with rfl | hField
    · exact ⟨_, hValue⟩
    · exact hMore.members_denoted field hField

/-- What an object says of a name is said by a piece of its text. -/
theorem Denotes.object_denoted {known : List (String × Json)} {s : List Char}
    {members : Fields Json} (hKnown : ∀ name all, (name, Json.object all) ∉ known)
    (h : Denotes known s (.value (.object members))) :
    ∀ field ∈ members, ∃ text, Denotes known text (.value field.2) := by
  cases h with
  | name hName => exact (hKnown _ _ hName).elim
  | number hNumber => cases hNumber
  | emptyObject => simp
  | object _ hMembers =>
    intro field hField
    rcases Fields.mem_update hField with hNone | hField
    · cases hNone
    · exact hMembers.members_denoted field hField

theorem not_denotes_nan (s : List Char) : ¬ Denotes standardNames s (.value (.float .nan)) := by
  intro h
  cases h with
  | name hName => simp [standardNames] at hName
  | number hNumber =>
    generalize hValue : Json.float .nan = v at hNumber
    cases hNumber with
    | int => cases hValue
    | float => exact Binary64.ofDecimal_ne_nan _ _ _ (Json.float.inj hValue).symm

end Json

end EventDigest

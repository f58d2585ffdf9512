import EventDigest.Proofs.Reading

/-! # The image of a document

Writing a document and reading it back gives its image, in whichever layout it is written: a
floating-point number becomes the one that its digits name, and of members with one name the last
stays.
-/
set_option autoImplicit false
namespace EventDigest.Json

/-- The number that the digits of a number name. -/
def floatImage (x : Binary64) : Json :=
  match readDocument (x.toChars Binary64.jsonLayout) with
  | .ok v => v
  | .error _ => .null

mutual

def image : Json → Json
  | .float x => floatImage x
  | .array items => .array (imageItems items)
  | .object members => .object (Fields.update [] (imageMembers members))
  | v => v

def imageItems : List Json → List Json
  | [] => []
  | item :: rest => image item :: imageItems rest

def imageMembers : List (String × Json) → List (String × Json)
  | [] => []
  | (name, value) :: rest => (name, image value) :: imageMembers rest

end

mutual

/-- No integer is too long: one limit holds for writing it and for reading it. -/
def isSerialisable : Json → Bool
  | .int n => digitsOf n ≤ maxIntegerDigits
  | .array items => areSerialisable items
  | .object members => areSerialisableMembers members
  | _ => true

def areSerialisable : List Json → Bool
  | [] => true
  | item :: rest => isSerialisable item && areSerialisable rest

def areSerialisableMembers : List (String × Json) → Bool
  | [] => true
  | (_, value) :: rest => isSerialisable value && areSerialisableMembers rest

end

theorem isSpaces_indent (n : Nat) : IsSpaces ('\n' :: List.replicate n ' ') :=
  isSpaces_cons rfl fun c hc => by rw [(List.mem_replicate.mp hc).2]; rfl

theorem isSpaces_edge (layout : Layout) (depth : Nat) : IsSpaces (layout.edge depth) := by
  cases layout with
  | compact => exact isSpaces_nil
  | indented step => exact isSpaces_indent (step * depth)

theorem exists_gap (layout : Layout) (depth : Nat) :
    ∃ space, layout.gap depth = ',' :: space ∧ IsSpaces space := by
  cases layout with
  | compact => exact ⟨[' '], rfl, isSpaces_cons rfl isSpaces_nil⟩
  | indented step => exact ⟨_, rfl, isSpaces_indent (step * depth)⟩

theorem exists_reads_float (x : Binary64) :
    ∃ v, Reads (x.toChars Binary64.jsonLayout) v := by
  cases x with
  | nan =>
    have hName : ("NaN", float .nan) ∈ names := by simp [names]
    exact ⟨_, reads_name hName⟩
  | infinite negative =>
    cases negative with
    | false =>
      have hName : ("Infinity", float (.infinite false)) ∈ names := by simp [names]
      exact ⟨_, reads_name hName⟩
    | true =>
      have hName : ("-Infinity", float (.infinite true)) ∈ names := by simp [names]
      exact ⟨_, reads_name hName⟩
  | finite negative m e =>
    obtain ⟨y, hNumeral⟩ := exists_numeral_finite negative m e
    exact ⟨_, hNumeral.reads⟩

theorem reads_float (x : Binary64) : Reads (x.toChars Binary64.jsonLayout) (floatImage x) := by
  obtain ⟨v, hReads⟩ := exists_reads_float x
  have hDocument := hReads.document isSpaces_nil isSpaces_nil
  rw [List.nil_append, List.append_nil] at hDocument
  rw [floatImage, hDocument]
  exact hReads

mutual

theorem reads_written (layout : Layout) : ∀ (v : Json) (depth : Nat), isSerialisable v = true →
    Reads (written layout depth v) (image v)
  | .null, _, _ => reads_name (by simp [names, image])
  | .bool true, _, _ => reads_name (by simp [names, image])
  | .bool false, _, _ => reads_name (by simp [names, image])
  | .int _, _, h => (numeral_int (of_decide_eq_true h)).reads
  | .float x, _, _ => reads_float x
  | .text t, _, _ => reads_text t
  | .array [], _, _ => reads_array_nil
  | .array (item :: rest), depth, h => by
    rw [isSerialisable, areSerialisable, Bool.and_eq_true] at h
    have hItem := reads_written layout item (depth + 1) h.1
    rw [written, writtenItems, List.append_assoc]
    exact reads_array (isSpaces_edge layout (depth + 1))
      (reads_writtenItemsTail layout rest depth h.2 hItem)
  | .object [], _, _ => reads_object_nil
  | .object ((name, value) :: rest), depth, h => by
    rw [isSerialisable, areSerialisableMembers, Bool.and_eq_true] at h
    have hValue := reads_written layout value (depth + 1) h.1
    rw [written, writtenMembers, List.append_assoc _ (literal name), ← member, List.append_assoc]
    exact reads_object (isSpaces_edge layout (depth + 1))
      (reads_writtenMembersTail layout rest depth h.2 name hValue)

/-- The items behind the first one. -/
theorem reads_writtenItemsTail (layout : Layout) : ∀ (rest : List Json) (depth : Nat),
    areSerialisable rest = true → ∀ {s : List Char} {v : Json}, Reads s v →
    ReadsItems (s ++ writtenItemsTail layout depth rest) (v :: imageItems rest)
  | [], depth, _, _, _, hFirst => hFirst.last_item (isSpaces_edge layout depth)
  | item :: rest, depth, h, _, _, hFirst => by
    rw [areSerialisable, Bool.and_eq_true] at h
    obtain ⟨space, hGap, hSpace⟩ := exists_gap layout (depth + 1)
    have hItem := reads_written layout item (depth + 1) h.1
    rw [writtenItemsTail, hGap, List.append_assoc, List.cons_append]
    exact hFirst.more_items hSpace (reads_writtenItemsTail layout rest depth h.2 hItem)

theorem reads_writtenMembersTail (layout : Layout) : ∀ (rest : List (String × Json)) (depth : Nat),
    areSerialisableMembers rest = true → ∀ (name : String) {s : List Char} {v : Json}, Reads s v →
    ReadsMembers (member name s ++ writtenMembersTail layout depth rest)
      ((name, v) :: imageMembers rest)
  | [], depth, _, name, _, _, hFirst => hFirst.last_member name (isSpaces_edge layout depth)
  | (next, value) :: rest, depth, h, name, _, _, hFirst => by
    rw [areSerialisableMembers, Bool.and_eq_true] at h
    obtain ⟨space, hGap, hSpace⟩ := exists_gap layout (depth + 1)
    have hValue := reads_written layout value (depth + 1) h.1
    rw [writtenMembersTail, hGap, List.append_assoc _ (literal next), ← member, List.append_assoc,
      List.cons_append]
    exact hFirst.more_members name hSpace
      (reads_writtenMembersTail layout rest depth h.2 next hValue)

end

theorem readDocument_written (layout : Layout) {v : Json} (h : isSerialisable v = true) :
    readDocument (written layout 0 v) = .ok (image v) := by
  have hDocument := (reads_written layout v 0 h).document isSpaces_nil isSpaces_nil
  rwa [List.nil_append, List.append_nil] at hDocument

theorem read_compact {v : Json} (h : isSerialisable v = true) : read v.compact = .ok v.image :=
  read_of_readDocument (by rw [compact, String.toList_ofList, readDocument_written _ h])

end EventDigest.Json

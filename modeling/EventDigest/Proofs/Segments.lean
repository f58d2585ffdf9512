import EventDigest.Proofs.Payload
import EventDigest.Text.Split
import Mathlib.Data.List.TakeWhile

/-! # What a template says

How a template is to be read is given piece by piece, with no scanner: each piece by what it is and
what stands behind it. There is one such reading, and every message is filled into it, so no value
of a message is ever read for references.
-/
set_option autoImplicit false
namespace EventDigest

namespace Template
variable {name written after s : List Char} {segment : Segment} {segments : List Segment}

def IsName (name : List Char) : Prop :=
  (∃ first ∈ name.head?, isNameStart first = true) ∧ ∀ c ∈ name, isNamePart c = true

def EndsName (after : List Char) : Prop := ∀ c ∈ after.head?, isNamePart c = false

/-- A dollar is followed by a name as far as that goes, or by a name in braces. -/
inductive Names (name : List Char) : List Char → List Char → Prop
  | bare {after : List Char} (hEnd : EndsName after) : Names name name after
  | braced {after : List Char} : Names name ('{' :: name ++ ['}']) after

/-- What stands behind a dollar that is not a stray one. -/
def Opens (behind : List Char) : Prop :=
  (∃ after, behind = '$' :: after) ∨
    ∃ name written after, IsName name ∧ Names name written after ∧ behind = written ++ after

/-- A piece of a template before the text `after`, and the segment that it stands for. -/
inductive Piece : List Char → List Char → Segment → Prop
  | plain {c : Char} {after : List Char} (hPlain : c ≠ '$') : Piece [c] after (.literal [c])
  | doubled {after : List Char} : Piece ['$', '$'] after (.literal ['$'])
  | field {written after : List Char} (field : Field)
      (hName : Names field.name.toList written after) :
      Piece ('$' :: written) after (.field field)
  | unknown {name written after : List Char} (hIs : IsName name) (hName : Names name written after)
      (hUnknown : ∀ field : Field, field.name.toList ≠ name) :
      Piece ('$' :: written) after (.literal ('$' :: written))
  | stray {after : List Char} (hStray : ¬ Opens after) : Piece ['$'] after (.literal ['$'])

inductive Reads : List Char → List Segment → Prop
  | nil : Reads [] []
  | cons {written after : List Char} {segment : Segment} {segments : List Segment}
      (hPiece : Piece written after segment) (hAfter : Reads after segments) :
      Reads (written ++ after) (segment :: segments)

theorem isName_field (field : Field) : IsName field.name.toList := by
  have hParts : field.name.toList.all isNamePart = true := by cases field <;> decide
  refine ⟨?_, List.all_eq_true.mp hParts⟩
  cases field <;> exact ⟨_, rfl, by decide⟩

theorem fieldNamed?_name (field : Field) : fieldNamed? field.name.toList = some field := by
  cases field <;> decide

theorem reference_field (field : Field) (written : List Char) :
    reference field.name.toList written = .field field := by
  rw [reference, fieldNamed?_name]

theorem reference_unknown (h : ∀ field : Field, field.name.toList ≠ name) (written : List Char) :
    reference name written = .literal written := by
  have hNone : fieldNamed? name = none := by
    apply List.find?_eq_none.mpr
    intro field _ hName
    exact h field (beq_iff_eq.mp hName)
  rw [reference, hNone]

theorem IsName.exists_cons (h : IsName name) : ∃ first more, name = first :: more ∧
    isNameStart first = true := by
  obtain ⟨⟨first, hFirst, hStart⟩, _⟩ := h
  cases name with
  | nil => cases hFirst
  | cons c more =>
    obtain rfl := Option.some.inj hFirst
    exact ⟨c, more, rfl, hStart⟩

theorem readName_append (h : IsName name) (hEnd : EndsName after) :
    readName (name ++ after) = some (name, after) := by
  obtain ⟨first, more, rfl, hStart⟩ := h.exists_cons
  change (if isNameStart first = true then
    some ((first :: more ++ after).takeWhile isNamePart,
      (first :: more ++ after).dropWhile isNamePart) else none) = _
  rw [if_pos hStart, Text.takeWhile_word h.2 hEnd, Text.dropWhile_word h.2 hEnd]

theorem isNamePart_of_isNameStart {c : Char} (h : isNameStart c = true) : isNamePart c = true := by
  rw [isNameStart, Bool.or_eq_true] at h
  rw [isNamePart, Bool.or_eq_true, Char.isAlphanum, Bool.or_eq_true]
  rcases h with hAlpha | hLine
  · exact .inl (.inl hAlpha)
  · exact .inr hLine

theorem readName_eq_some (h : readName s = some (name, after)) :
    IsName name ∧ EndsName after ∧ s = name ++ after := by
  cases s with
  | nil => cases h
  | cons c rest =>
    change (if isNameStart c = true then _ else none) = _ at h
    by_cases hStart : isNameStart c = true
    · rw [if_pos hStart] at h
      obtain ⟨rfl, rfl⟩ := Prod.mk.inj (Option.some.inj h)
      refine ⟨⟨⟨c, ?_, hStart⟩, ?_⟩, ?_, (List.takeWhile_append_dropWhile ..).symm⟩
      · rw [List.takeWhile_cons_of_pos (isNamePart_of_isNameStart hStart)]
        rfl
      · intro d hd
        exact List.mem_takeWhile_imp hd
      · intro d hd
        have hNot := List.head?_dropWhile_not isNamePart (c :: rest)
        rw [Option.mem_def.mp hd] at hNot
        exact hNot
    · rw [if_neg hStart] at h
      cases h

theorem endsName_brace (after : List Char) : EndsName ('}' :: after) := by
  intro c hc
  obtain rfl := Option.some.inj hc
  decide

theorem readBraced_append (h : IsName name) (after : List Char) :
    readBraced (name ++ '}' :: after) = some (name, after) := by
  rw [readBraced, readName_append h (endsName_brace after)]
  rfl

theorem readBraced_eq_some (h : readBraced s = some (name, after)) :
    IsName name ∧ s = name ++ '}' :: after := by
  cases hRead : readName s with
  | none =>
    rw [readBraced, hRead] at h
    cases h
  | some read =>
    obtain ⟨found, behind⟩ := read
    obtain ⟨hIs, _, rfl⟩ := readName_eq_some hRead
    rw [readBraced, hRead] at h
    split at h
    · next hBrace =>
      obtain ⟨rfl, rfl⟩ := Prod.mk.inj (Option.some.inj hBrace)
      obtain ⟨rfl, rfl⟩ := Prod.mk.inj (Option.some.inj h)
      exact ⟨hIs, rfl⟩
    · cases h

theorem IsName.opens (hIs : IsName name) (hName : Names name written after) :
    Opens (written ++ after) :=
  .inr ⟨name, written, after, hIs, hName, rfl⟩

/-- A name behind a dollar is taken whole, with its braces. -/
theorem afterDollar_names (hIs : IsName name) (hName : Names name written after) :
    afterDollar (written ++ after) = (reference name ('$' :: written), after) := by
  cases hName with
  | bare hEnd =>
    have hRead := readName_append hIs hEnd
    obtain ⟨first, more, rfl, hStart⟩ := hIs.exists_cons
    rw [afterDollar.eq_def]
    split
    · next h =>
      obtain ⟨rfl, _⟩ := List.cons.inj h
      exact absurd hStart (by decide)
    · next h =>
      obtain ⟨rfl, _⟩ := List.cons.inj h
      exact absurd hStart (by decide)
    · rw [hRead]
  | braced =>
    have hBraces : '{' :: name ++ ['}'] ++ after = '{' :: (name ++ '}' :: after) := by simp
    rw [hBraces, afterDollar, readBraced_append hIs]
    rfl

/-- A dollar that opens nothing stands for itself. -/
theorem afterDollar_stray (hStray : ¬ Opens after) :
    afterDollar after = (.literal ['$'], after) := by
  rw [afterDollar.eq_def]
  split
  · next rest => exact (hStray (.inl ⟨rest, rfl⟩)).elim
  · next rest =>
    cases hRead : readBraced rest with
    | none => rfl
    | some read =>
      obtain ⟨name, behind⟩ := read
      obtain ⟨hIs, rfl⟩ := readBraced_eq_some hRead
      have hBraced : Names name ('{' :: name ++ ['}']) behind := .braced
      have hOpens := hIs.opens hBraced
      simp only [List.cons_append, List.append_assoc, List.nil_append] at hOpens
      exact (hStray hOpens).elim
  · cases hRead : readName after with
    | none => rfl
    | some read =>
      obtain ⟨name, behind⟩ := read
      obtain ⟨hIs, hEnd, rfl⟩ := readName_eq_some hRead
      exact (hStray (hIs.opens (.bare hEnd))).elim

/-- One round takes one piece. -/
theorem segmentsFrom_piece (h : Piece written after segment) (fuel : Nat) :
    segmentsFrom (fuel + 1) (written ++ after) = segment :: segmentsFrom fuel after := by
  cases h with
  | plain hPlain => rw [List.singleton_append, segmentsFrom.eq_4 _ _ _ hPlain]
  | doubled => rfl
  | field field hName =>
    rw [List.cons_append, segmentsFrom, afterDollar_names (isName_field field) hName,
      reference_field]
  | unknown hIs hName hUnknown =>
    rw [List.cons_append, segmentsFrom, afterDollar_names hIs hName, reference_unknown hUnknown]
  | stray hStray => rw [List.singleton_append, segmentsFrom, afterDollar_stray hStray]

theorem Piece.length_pos (h : Piece written after segment) : 0 < written.length := by
  cases h <;> exact Nat.succ_pos _

theorem Opens.exists_piece (h : Opens s) :
    ∃ written after segment, '$' :: s = written ++ after ∧ Piece written after segment := by
  rcases h with ⟨after, rfl⟩ | ⟨name, written, after, hIs, hName, rfl⟩
  · exact ⟨['$', '$'], after, _, rfl, .doubled⟩
  · by_cases hField : ∃ field : Field, field.name.toList = name
    · obtain ⟨field, rfl⟩ := hField
      exact ⟨_, after, _, rfl, .field field hName⟩
    · exact ⟨_, after, _, rfl, .unknown hIs hName fun field h => hField ⟨field, h⟩⟩

theorem exists_piece (c : Char) (rest : List Char) :
    ∃ written after segment, c :: rest = written ++ after ∧ Piece written after segment := by
  by_cases hDollar : c = '$'
  · subst hDollar
    by_cases hOpens : Opens rest
    · exact hOpens.exists_piece
    · exact ⟨['$'], rest, _, rfl, .stray hOpens⟩
  · exact ⟨[c], rest, _, rfl, .plain hDollar⟩

theorem reads_segmentsFrom (fuel : Nat) (s : List Char) (hFuel : s.length ≤ fuel) :
    Reads s (segmentsFrom fuel s) := by
  induction fuel generalizing s with
  | zero =>
    obtain rfl := List.length_eq_zero_iff.mp (Nat.le_zero.mp hFuel)
    exact .nil
  | succ fuel ih =>
    cases s with
    | nil => exact .nil
    | cons c rest =>
      obtain ⟨written, after, segment, hText, hPiece⟩ := exists_piece c rest
      rw [hText, segmentsFrom_piece hPiece]
      apply Reads.cons hPiece
      apply ih
      have hLength := hPiece.length_pos
      rw [hText, List.length_append] at hFuel
      omega

theorem Reads.eq_segmentsFrom (h : Reads s segments) (fuel : Nat) (hFuel : s.length ≤ fuel) :
    segments = segmentsFrom fuel s := by
  induction h generalizing fuel with
  | nil => cases fuel <;> rfl
  | cons hPiece _ ih =>
    have hLength := hPiece.length_pos
    rw [List.length_append] at hFuel
    obtain ⟨fuel, rfl⟩ := Nat.exists_eq_add_one_of_ne_zero (n := fuel) (by omega)
    rw [segmentsFrom_piece hPiece, ← ih fuel (by omega)]

/-- A template has one reading, which is the one that is filled. -/
theorem reads_iff (template : String) (segments : List Segment) :
    Reads template.toList segments ↔ segments = Template.segments template := by
  rw [Template.segments]
  constructor
  · intro h
    exact h.eq_segmentsFrom _ (Nat.le_of_eq String.length_toList)
  · rintro rfl
    exact reads_segmentsFrom _ _ (Nat.le_of_eq String.length_toList)

end Template

/-- What a segment is in the body of a message. The subject is a document of its own; the other
fields are texts, and stand inside literals when the body is JSON. -/
def Notification.shown (n : Notification) (inJson : Bool) : Template.Segment → List Char
  | .literal text => text
  | .field .subject => n.subject.toJson.pretty.toList
  | .field .title => text n.title
  | .field .content => text n.content
  | .field .level => text n.level
  | .field .group => text n.group.name
  | .field .scope => text n.scope
  | .field .timestamp => text n.timestampText
where
  text (s : String) : List Char := if inJson then Json.escaped s.toList else s.toList

theorem filled_fieldValue (n : Notification) (inJson : Bool) (segment : Template.Segment) :
    segment.filled (fieldValue n inJson) = n.shown inJson segment := by
  cases segment with
  | literal text => rfl
  | field field =>
    cases inJson with
    | false => cases field <;> rfl
    | true => cases field <;> simp [Template.Segment.filled, fieldValue, Notification.shown,
        Notification.shown.text, Json.escape]

/-- A template is read once for all messages: whatever a message says, its body is the pieces of the
template with the fields put in, unless the template is blank. -/
theorem renderBody_segmented (template : String) :
    ∃ segments, (∀ other, Template.Reads template.toList other ↔ other = segments) ∧
      ∀ (config : Config) (mimeType : String) (n : Notification),
        Fields.get? config Key.template = some (.text template) →
        Fields.get? config Key.mimeType = some (.text mimeType) →
        (Text.allBlank template = false → renderBody n config =
          .ok (String.ofList (segments.flatMap (n.shown (isJsonType mimeType))))) ∧
        (Text.allBlank template = true → renderBody n config = .ok n.toJson.pretty) := by
  refine ⟨Template.segments template, Template.reads_iff template, ?_⟩
  intro config mimeType n hTemplate hMimeType
  constructor
  · intro hBlank
    rw [Config.renderBody_of_template hTemplate hMimeType hBlank, Template.fill]
    simp only [filled_fieldValue]
  · intro hBlank
    exact (Config.lacksTemplate_of_blank hTemplate hBlank).renderBody_eq n

namespace Sample

/-- Bare and braced names, a name that goes on, a doubled dollar, a name of no field, and strays. -/
def mixedTemplate : String :=
  "$$title $titles $\x7btitle\x7ds $\x7b title\x7d $no $\x7bno\x7d " ++
    "$5 $$$level $SCOPE \x7b\"g\": \"$group\"\x7d $"

def mixedConfig (mimeType : String) : Config :=
  [("template", .text mixedTemplate), ("mimeType", .text mimeType)]

def dollarNotification : Notification where
  scope := "$group"
  group := .other "$$ $\x7btitle\x7d"
  level := "\"$scope\""
  title := "$title $level"
  content := "$"
  timestamp := none
  subject := .document (.text "$title")

end Sample

theorem renderBody_segmented_of_dollars :
    ∃ segments, Template.Reads Sample.mixedTemplate.toList segments ∧
      renderBody Sample.dollarNotification (Sample.mixedConfig "text/plain") =
        .ok (String.ofList (segments.flatMap (Sample.dollarNotification.shown false))) ∧
      renderBody Sample.dollarNotification (Sample.mixedConfig "application/json") =
        .ok (String.ofList (segments.flatMap (Sample.dollarNotification.shown true))) ∧
      renderBody Sample.dollarNotification (Sample.mixedConfig "text/plain") = .ok
        ("$title $titles $title $levels $\x7b title\x7d $no $\x7bno\x7d " ++
          "$5 $\"$scope\" $SCOPE \x7b\"g\": \"$$ $\x7btitle\x7d\"\x7d $") := by
  have hBlank : Text.allBlank Sample.mixedTemplate = false := by decide +kernel
  obtain ⟨segments, hReads, hBody⟩ := renderBody_segmented Sample.mixedTemplate
  obtain ⟨hPlain, _⟩ := hBody (Sample.mixedConfig "text/plain") "text/plain"
    Sample.dollarNotification rfl rfl
  obtain ⟨hJson, _⟩ := hBody (Sample.mixedConfig "application/json") "application/json"
    Sample.dollarNotification rfl rfl
  refine ⟨segments, (hReads segments).mpr rfl, hPlain hBlank, hJson hBlank, ?_⟩
  decide +kernel

/-- A blank template is no text of its own: the whole notification takes its place. -/
theorem not_segmented_of_blank :
    ¬ ∃ segments, Template.Reads " \n".toList segments ∧
      ∀ n : Notification, renderBody n Sample.blankConfig =
        .ok (String.ofList (segments.flatMap (n.shown (isJsonType "text/html")))) := by
  rintro ⟨segments, hReads, hBody⟩
  obtain rfl := (Template.reads_iff " \n" segments).mp hReads
  have hText := hBody Sample.dollarNotification
  rw [Sample.lacksTemplate_blankConfig.renderBody_eq] at hText
  exact absurd (Except.ok.inj hText) (by decide +kernel)

end EventDigest

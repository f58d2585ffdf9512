import EventDigest.Proofs.Grammar
import EventDigest.Proofs.Handover
import EventDigest.Proofs.Image

/-! # Configurations, stored and read back

A configuration without floating-point numbers is stored as a document that is read back as it, and
its publisher is handed nothing else but the template and the media type of its descriptor. Which
stored texts are configurations is said by the grammar: the blank ones and the objects. Every other
text is refused; but among the values of an object are three names that the standard does not know.
-/
set_option autoImplicit false
namespace EventDigest

/-! A document without floating-point numbers is its own image. -/
namespace Json

/-- Nothing but names, integers that are not too long, texts and containers of these, and no object
names a member twice. -/
inductive IsExact : Json → Prop
  | null : IsExact .null
  | bool (b : Bool) : IsExact (.bool b)
  | int (n : Int) (hShort : digitsOf n ≤ maxIntegerDigits) : IsExact (.int n)
  | text (t : String) : IsExact (.text t)
  | array (items : List Json) (hItems : ∀ item ∈ items, IsExact item) : IsExact (.array items)
  | object (members : Fields Json) (hDistinct : members.names.Nodup)
    (hMembers : ∀ field ∈ members, IsExact field.2) : IsExact (.object members)

theorem areSerialisable_iff (items : List Json) :
    areSerialisable items = true ↔ ∀ item ∈ items, isSerialisable item = true := by
  induction items with
  | nil => simp [areSerialisable]
  | cons item rest ih => rw [areSerialisable, Bool.and_eq_true, ih, List.forall_mem_cons]

theorem areSerialisableMembers_iff (members : Fields Json) :
    areSerialisableMembers members = true ↔
      ∀ field ∈ members, isSerialisable field.2 = true := by
  induction members with
  | nil => simp [areSerialisableMembers]
  | cons field rest ih => rw [areSerialisableMembers, Bool.and_eq_true, ih, List.forall_mem_cons]

theorem imageItems_eq_map (items : List Json) : imageItems items = items.map image := by
  induction items with
  | nil => rfl
  | cons item rest ih => rw [imageItems, ih, List.map_cons]

theorem imageMembers_eq_map (members : Fields Json) :
    imageMembers members = members.map fun (name, v) => (name, image v) := by
  induction members with
  | nil => rfl
  | cons field rest ih => rw [imageMembers, ih, List.map_cons]

theorem IsExact.isSerialisable {v : Json} (h : v.IsExact) : v.isSerialisable = true := by
  induction h with
  | null => rfl
  | bool => rfl
  | int _ hShort => exact decide_eq_true hShort
  | text => rfl
  | array items _ ih => exact (areSerialisable_iff items).mpr ih
  | object members _ _ ih => exact (areSerialisableMembers_iff members).mpr ih

theorem IsExact.image_eq {v : Json} (h : v.IsExact) : v.image = v := by
  induction h with
  | null => rfl
  | bool => rfl
  | int => rfl
  | text => rfl
  | array items _ ih =>
    have hItems : items.map image = items := (List.map_congr_left ih).trans (List.map_id _)
    rw [image, imageItems_eq_map, hItems]
  | object members hDistinct _ ih =>
    have hMembers : (members.map fun (name, v) => (name, image v)) = members.map id :=
      List.map_congr_left fun field hField => Prod.ext rfl (ih field hField)
    rw [image, imageMembers_eq_map, hMembers, List.map_id, Fields.update_nil hDistinct]

theorem IsExact.read_compact {v : Json} (h : v.IsExact) : read v.compact = .ok v := by
  rw [Json.read_compact h.isSerialisable, h.image_eq]

end Json

namespace Config

/-- What a stored text comes to. -/
inductive Parses (text : String) : Except ConfigFault Config → Prop
  | blank (hBlank : Text.allBlank text = true) : Parses text (.ok [])
  | object {config : Config} (hText : Text.allBlank text = false)
    (hDocument : Json.IsDocument Json.names text.toList (.object config)) :
    Parses text (.ok config)
  | notObject {v : Json} (hText : Text.allBlank text = false)
    (hDocument : Json.IsDocument Json.names text.toList v) (hKind : ∀ config, v ≠ .object config) :
    Parses text (.error (.notObject v.kindName))
  | notJson (message : String) (hText : Text.allBlank text = false)
    (hNone : ∀ v, ¬ Json.IsDocument Json.names text.toList v) :
    Parses text (.error (.notJson message))

theorem parses (text : String) : Parses text (parse (some text)) := by
  unfold parse Json.read
  dsimp only [Option.getD_some]
  cases hText : Text.allBlank text with
  | true => exact .blank hText
  | false =>
    cases hRead : Json.readDocument text.toList with
    | error stop =>
      refine .notJson _ hText fun v hDocument => ?_
      rw [hDocument.readDocument_eq] at hRead
      cases hRead
    | ok v =>
      have hDocument := Json.isDocument_of_readDocument hRead
      cases v with
      | object config => exact .object hText hDocument
      | _ => exact .notObject hText hDocument fun _ => Json.noConfusion

theorem parse_of_read {text : String} {config : Config} (hText : Text.allBlank text = false)
    (hRead : Json.read text = .ok (.object config)) : parse (some text) = .ok config := by
  unfold parse
  dsimp only [Option.getD_some]
  rw [hText, hRead]
  rfl

theorem parse_of_allBlank {text : String} (h : Text.allBlank text = true) :
    parse (some text) = .ok [] := by
  unfold parse
  dsimp only [Option.getD_some]
  rw [h]
  rfl

theorem parse_eq_ok_iff {text : String} {config : Config} : parse (some text) = .ok config ↔
    Text.allBlank text = true ∧ config = [] ∨
      Text.allBlank text = false ∧ Json.IsDocument Json.names text.toList (.object config) := by
  constructor
  · intro h
    have hParses := parses text
    rw [h] at hParses
    cases hParses with
    | blank hBlank => exact .inl ⟨hBlank, rfl⟩
    | object hText hDocument => exact .inr ⟨hText, hDocument⟩
  · rintro (⟨hBlank, rfl⟩ | ⟨hText, hDocument⟩)
    · exact parse_of_allBlank hBlank
    · exact parse_of_read hText (Json.read_of_readDocument hDocument.readDocument_eq)

theorem allBlank_compact (d : Config) : Text.allBlank (Json.object d).compact = false := by
  rw [Json.compact, Text.allBlank, String.toList_ofList]
  rfl

/-- What was stored for a configuration is read back as it. -/
theorem parse_compact {d : Config} (h : (Json.object d).IsExact) :
    parse (some (Json.object d).compact) = .ok d :=
  parse_of_read (allBlank_compact d) h.read_compact

theorem get?_merged (descriptor : Descriptor) (config : Config) (key : String) :
    Fields.get? (config.merged descriptor) key =
      if key = Key.template then some (.text (descriptor.template.getD ""))
      else if key = Key.mimeType then some (.text (orElse "text/plain" descriptor.mimeType))
      else Fields.get? config key := by
  split
  · rename_i hTemplate
    rw [hTemplate, merged, Fields.get?_put_self]
  · rename_i hTemplate
    split
    · rename_i hMimeType
      rw [hMimeType, merged, Fields.get?_put_of_ne _ _ (by decide), Fields.get?_put_self]
    · rename_i hMimeType
      exact get?_merged_of_ne descriptor config hTemplate hMimeType

end Config

namespace Store

/-- A rule is created with the stored form of the configuration that was given for it. -/
theorem createRule_eq_ok {store after : Store} {clock last : Time.Clock} {draft : RuleDraft}
    {rule : Rule} (h : store.createRule clock draft = .ok (after, last, rule)) :
    after.rules = store.rules ++ [rule] ∧ rule.config = storedConfig draft.config := by
  unfold createRule at h
  obtain ⟨notifyOn, _, h⟩ := Answer.bind_eq_ok_iff.mp h
  split at h
  obtain ⟨watermark, _, h⟩ := Answer.bind_eq_ok_iff.mp h
  obtain ⟨createdAt, _, h⟩ := Answer.bind_eq_ok_iff.mp h
  cases Answer.pure_eq_ok_iff.mp h
  exact ⟨rfl, rfl⟩

end Store

namespace Config

/-- The configuration that a rule was created with is read back as it was given, and a run hands it
to its publisher with the template and the media type of the descriptor. A stored text that is
neither blank nor an object is refused. -/
theorem stored_configuration_read_back :
    (∀ d : Config, (Json.object d).IsExact →
      (∀ (store after : Store) (clock last : Time.Clock) (draft : Store.RuleDraft) (rule : Rule),
        draft.config = .object d → store.createRule clock draft = .ok (after, last, rule) →
        after.rules = store.rules ++ [rule] ∧ rule.config = some (Json.object d).compact) ∧
      parse (some (Json.object d).compact) = .ok d ∧
      ∀ {β : Type} (executor : Executor β) (world : World β) (id : String) (rule : Rule)
        (row : PublisherRow), world.store.rule? id = some rule →
        rule.config = some (Json.object d).compact → world.store.publisherOf? rule = some row →
        (executor.execute id).start world =
          ((executor.under (d.merged row.descriptor)).execute id).start world) ∧
    (∀ (config : Config) (descriptor : Descriptor) (key : String),
      Fields.get? (config.merged descriptor) key =
        if key = Key.template then some (.text (descriptor.template.getD ""))
        else if key = Key.mimeType then some (.text (orElse "text/plain" descriptor.mimeType))
        else Fields.get? config key) ∧
    ∀ text : String,
      (∀ config, parse (some text) = .ok config ↔
        Text.allBlank text = true ∧ config = [] ∨
          Text.allBlank text = false ∧ Json.IsDocument Json.names text.toList (.object config)) ∧
      (Text.allBlank text = false →
        (∀ config, ¬ Json.IsDocument Json.names text.toList (.object config)) →
        (∃ v, Json.IsDocument Json.names text.toList v ∧
          parse (some text) = .error (.notObject v.kindName)) ∨
        (∀ v, ¬ Json.IsDocument Json.names text.toList v) ∧
          ∃ message, parse (some text) = .error (.notJson message)) := by
  refine ⟨fun d hExact => ⟨?_, parse_compact hExact, ?_⟩, fun config descriptor key =>
    get?_merged descriptor config key, fun text => ⟨fun _ => parse_eq_ok_iff, ?_⟩⟩
  · intro store after clock last draft rule hDraft hCreated
    obtain ⟨hRules, hConfig⟩ := Store.createRule_eq_ok hCreated
    rw [hDraft] at hConfig
    exact ⟨hRules, hConfig⟩
  · intro β executor world id rule row hRule hConfig hRow
    have hParsed : parse rule.config = .ok d := hConfig ▸ parse_compact hExact
    exact (Executor.execute_under hRow hParsed hRule world rfl).symm
  · intro hText hNone
    generalize hAnswer : parse (some text) = answer
    have hParses := hAnswer ▸ parses text
    cases hParses with
    | blank hBlank =>
      rw [hText] at hBlank
      cases hBlank
    | object _ hDocument => exact (hNone _ hDocument).elim
    | notObject _ hDocument => exact .inl ⟨_, hDocument, rfl⟩
    | notJson message _ hNothing => exact .inr ⟨hNothing, message, rfl⟩

end Config

/-! A rule that is created with a nested configuration, which names the template besides. -/
namespace Sample

def nested : Config :=
  [("destination", .text "https://acme.org/hook"),
    ("größer \"\\\"\n", .array [.array [], .object [], .int (-1000000000000000000000000000000),
      .null, .bool true]),
    ("", .object [("\u0001😀", .object [("template", .text "")])]),
    ("template", .text "<b>$title</b>")]

def draft : Store.RuleDraft where
  id := some "r1"
  name := "Nightly digest"
  scope := "PORTFOLIO"
  notifyOn := Json.texts ["NEW_VULNERABILITY"]
  cron := "0 12 * * *"
  onlyWithUpdates := false
  includeSuppressed := true
  notifyChildren := true
  publisher := some "pub-1"
  config := .object nested
  last := some (.ofInstant (instant 100))
  projects := ["p1"]
  teams := []

def unruled : Store :=
  { store (rule [] (instant 100)) [finding 1 "p1" (instant 150)] with rules := [] }

def clock : Time.Clock := .ticking (.ofInstant (instant 200)) 0

def draftedRule : Rule :=
  { rule ["NEW_VULNERABILITY"] (instant 100) with
    config := some (Json.object nested).compact
    createdAt := instant 200 }

theorem isExact_nested : (Json.object nested).IsExact := by
  have hInner : (Json.object [("template", .text "")]).IsExact :=
    .object _ (by decide) (by simp [Json.IsExact.text])
  have hOuter : (Json.object [("\u0001😀", .object [("template", .text "")])]).IsExact :=
    .object _ (by decide) (by simp [hInner])
  refine .object _ (by decide) (List.forall_mem_cons.mpr ⟨.text _, ?_⟩)
  refine List.forall_mem_cons.mpr ⟨.array _ ?_, by simp [hOuter, Json.IsExact.text]⟩
  refine List.forall_mem_cons.mpr ⟨.array [] (by simp), ?_⟩
  refine List.forall_mem_cons.mpr ⟨.object [] List.nodup_nil (by simp), ?_⟩
  refine List.forall_mem_cons.mpr ⟨.int _ (by decide +kernel), ?_⟩
  simp [Json.IsExact.null, Json.IsExact.bool]

theorem createRule_draft : unruled.createRule clock draft =
    .ok ({ unruled with rules := [draftedRule] }, clock.read.2, draftedRule) := rfl

def draftedWorld : World Publisher.Attempts :=
  ⟨{ unruled with rules := [draftedRule] }, clock, desk⟩

def recorder : PublisherRow :=
  ⟨"pub-1", "Recorder", none, "recording", none, "text/plain", false, true⟩

def listDocument : String := "[1]"

end Sample

namespace Config

theorem nested_configuration_read_back :
    (Sample.draft.config = .object Sample.nested ∧
      Sample.unruled.createRule Sample.clock Sample.draft = .ok
        ({ Sample.unruled with rules := [Sample.draftedRule] }, Sample.clock.read.2,
          Sample.draftedRule) ∧
      Sample.draftedRule.config = some (Json.object Sample.nested).compact) ∧
    parse Sample.draftedRule.config = .ok Sample.nested ∧
    (∃ outcome after,
      ((Sample.executor []).execute "r1").Returns Sample.draftedWorld outcome after ∧
      (((Sample.executor []).under (Sample.nested.merged Sample.recorder.descriptor)).execute
        "r1").Returns Sample.draftedWorld outcome after ∧
      outcome.results.map (·.status) = [.published]) ∧
    (∀ config, ¬ Json.IsDocument Json.names Sample.listDocument.toList (.object config)) ∧
    parse (some Sample.listDocument) = .error (.notObject "list") := by
  obtain ⟨hExact, _, hTexts⟩ := stored_configuration_read_back
  obtain ⟨hStored, hParsed, hRun⟩ := hExact Sample.nested Sample.isExact_nested
  obtain ⟨_, hConfig⟩ := hStored Sample.unruled _ _ _ Sample.draft Sample.draftedRule rfl
    Sample.createRule_draft
  obtain ⟨outcome, after, hReturns, hStatuses⟩ := Run.returnsWith_iff.mp
    (show ((Sample.executor []).execute "r1").returnsWith Sample.draftedWorld (fun outcome _ =>
      outcome.results.map (·.status) = [.published]) = true by decide +kernel)
  have hSame := hRun (Sample.executor []) Sample.draftedWorld "r1" Sample.draftedRule
    Sample.recorder rfl hConfig rfl
  have hList : ∀ v, Json.IsDocument Json.names Sample.listDocument.toList v →
      v = .array [.int 1] := by
    intro v hDocument
    have hRead : Json.readDocument Sample.listDocument.toList = .ok (.array [.int 1]) := rfl
    rw [hDocument.readDocument_eq] at hRead
    exact Except.ok.inj hRead
  have hNone : ∀ config,
      ¬ Json.IsDocument Json.names Sample.listDocument.toList (.object config) := by
    intro config hDocument
    cases hList _ hDocument
  refine ⟨⟨rfl, Sample.createRule_draft, hConfig⟩, hConfig ▸ hParsed,
    ⟨outcome, after, hReturns, hSame.symm.trans hReturns, of_decide_eq_true hStatuses⟩, hNone, ?_⟩
  rcases (hTexts Sample.listDocument).2 (by decide) hNone with
    ⟨v, hDocument, hRefused⟩ | ⟨hNothing, _⟩
  · rwa [hList v hDocument] at hRefused
  · exact (hNothing _ (Json.isDocument_of_readDocument rfl)).elim

end Config

/-! A name that the standard does not know. -/
namespace Sample

def nanDocument : String := "\x7b\"destination\": NaN\x7d"

theorem isDocument_nanDocument : Json.IsDocument Json.names nanDocument.toList
    (.object [("destination", .float .nan)]) := by
  have hName : Json.Spells "destination".toList "destination".toList :=
    Json.spells_escaped "destination".toList
  have hGap : Json.IsSpaces [' '] := Json.isSpaces_cons rfl Json.isSpaces_nil
  have hValue : Json.Denotes Json.names "NaN".toList (.value (.float .nan)) :=
    .name (by simp [Json.names])
  have hMembers := Json.Denotes.lastMember hName Json.isSpaces_nil hGap hValue Json.isSpaces_nil
  have hObject := Json.Denotes.object Json.isSpaces_nil hMembers
  refine ⟨[], _, [], ?_, Json.isSpaces_nil, Json.isSpaces_nil, hObject⟩
  decide

end Sample

namespace Config

/-- A text that is no object of the standard is taken. -/
theorem nan_configuration_taken :
    Text.allBlank Sample.nanDocument = false ∧
    (∀ config, ¬ Json.IsDocument Json.standardNames Sample.nanDocument.toList (.object config)) ∧
    parse (some Sample.nanDocument) = .ok [("destination", .float .nan)] := by
  have hText : Text.allBlank Sample.nanDocument = false := by decide
  refine ⟨hText, ?_, parse_eq_ok_iff.mpr (.inr ⟨hText, Sample.isDocument_nanDocument⟩)⟩
  rintro config ⟨before, text, after, hShape, hBefore, hAfter, hDenotes⟩
  have hNames : Json.standardNames ⊆ Json.names := by
    rw [Json.names_eq]
    exact List.subset_append_left _ _
  have hDocument : Json.IsDocument Json.names Sample.nanDocument.toList (.object config) :=
    ⟨before, text, after, hShape, hBefore, hAfter, hDenotes.mono hNames⟩
  -- Every reading is one of the wider grammar, and there the text has one value only.
  have hRead := Sample.isDocument_nanDocument.readDocument_eq
  rw [hDocument.readDocument_eq] at hRead
  obtain rfl := Json.object.inj (Except.ok.inj hRead)
  obtain ⟨piece, hPiece⟩ := hDenotes.object_denoted (by simp [Json.standardNames]) _
    (List.mem_singleton_self _)
  exact Json.not_denotes_nan piece hPiece

end Config

end EventDigest

import EventDigest.Body
import EventDigest.Descriptor
import EventDigest.Journal
import EventDigest.Json.Reader

/-! # Publisher configurations

A rule carries the configuration of its publisher as a JSON document. Template and media type always
come from the publisher's descriptor, whatever the document says of them.
-/
set_option autoImplicit false
namespace EventDigest

abbrev Config := Fields Json

namespace Config

/-- An absent or blank document is an empty configuration. -/
def parse (raw : Option String) : Except ConfigFault Config :=
  let raw := raw.getD ""
  if Text.allBlank raw then .ok []
  else match Json.read raw with
    | .error message => .error (.notJson message)
    | .ok (.object members) => .ok members
    | .ok v => .error (.notObject v.kindName)

def reserved : List String := [Key.template, Key.mimeType]

def overridden (config : Config) : List String := reserved.filter (Fields.names config).contains

def orElse (fallback : String) (s : Option String) : String :=
  let s := s.getD ""
  if s = "" then fallback else s

def merged (descriptor : Descriptor) (config : Config) : Config :=
  Fields.put Key.template (.text (descriptor.template.getD ""))
    (Fields.put Key.mimeType (.text (orElse "text/plain" descriptor.mimeType)) config)

def overriddenWarning? (logger : String) (config : Config) : Option Entry :=
  match config.overridden with
  | [] => none
  | keys => some (.warning logger
      s!"Ignoring reserved publisher config keys from rule: {String.intercalate listGap keys}")
where
  listGap : String := ", "

/-- A text of the configuration; absent or null means empty. -/
def textField (config : Config) (key : String) : Except PublishFault String :=
  match (Fields.get? config key).getD .null with
  | .null => .ok ""
  | .text s => .ok (Text.trim s)
  | v => .error (.fieldKind key v.kindName)

def asTexts? : List Json → Option (List String)
  | [] => some []
  | .text s :: rest => (asTexts? rest).map (s :: ·)
  | _ => none

theorem asTexts?_eq_some_iff {items : List Json} {texts : List String} :
    asTexts? items = some texts ↔ items = texts.map .text := by
  constructor
  · intro h
    induction items generalizing texts with
    | nil =>
      obtain rfl : [] = texts := Option.some.inj h
      rfl
    | cons item rest ih =>
      cases item with
      | text s =>
        obtain ⟨others, hRest, rfl⟩ := Option.map_eq_some_iff.mp h
        rw [ih hRest, List.map_cons]
      | _ => cases h
  · rintro rfl
    induction texts with
    | nil => rfl
    | cons s rest ih => rw [List.map_cons, asTexts?, ih, Option.map_some]

/-- The destinations of a delivery, from a text with commas or a list of texts. -/
def destinationsOf (raw : Json) : Except PublishFault (List String) :=
  let kept (items : List String) := (items.map Text.trim).filter (· ≠ "")
  match raw with
  | .null => .ok []
  | .text s => .ok (kept (Text.splitAt ',' s))
  | .array items =>
    match asTexts? items with
    | some items => .ok (kept items)
    | none => .error (.destinationKind raw.kindName)
  | v => .error (.destinationKind v.kindName)

theorem destinationsOf_text (s : String) :
    destinationsOf (.text s) = .ok (((Text.splitAt ',' s).map Text.trim).filter (· ≠ "")) := rfl

theorem destinationsOf_texts (entries : List String) :
    destinationsOf (Json.texts entries) = .ok ((entries.map Text.trim).filter (· ≠ "")) := by
  rw [Json.texts, destinationsOf, asTexts?_eq_some_iff.mpr rfl]

theorem destinationsOf_eq_error {raw : Json} (hNull : raw ≠ .null) (hText : ∀ s, raw ≠ .text s)
    (hTexts : ∀ entries, raw ≠ Json.texts entries) :
    destinationsOf raw = .error (.destinationKind raw.kindName) := by
  cases raw with
  | null => exact absurd rfl hNull
  | text s => exact absurd rfl (hText s)
  | array items =>
    cases hItems : asTexts? items with
    | none => rw [destinationsOf, hItems]
    | some entries =>
      exact absurd (congrArg Json.array (asTexts?_eq_some_iff.mp hItems)) (hTexts entries)
  | _ => rfl

def destinations (config : Config) : Except PublishFault (List String) :=
  destinationsOf ((Fields.get? config Key.destination).getD .null)

end EventDigest.Config

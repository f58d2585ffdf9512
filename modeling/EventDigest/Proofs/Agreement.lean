import EventDigest.Proofs.Errands
import Mathlib.Data.List.Forall2

/-! # Configurations that agree

Two documents agree when they differ at most in the order of members. What a publisher reads from a
configuration is the same for two that agree on what it reads. Merging with a descriptor settles the
reserved keys, so configurations that agree besides these agree when they are merged, and what is
rendered from a merged one is rendered from the descriptor alone.
-/
set_option autoImplicit false
namespace EventDigest

theorem eq_none_iff_of_rel {α γ : Type} {R : α → γ → Prop} {a : Option α} {c : Option γ}
    (h : Option.Rel R a c) : a = none ↔ c = none := by
  cases h with
  | none => exact iff_of_true rfl rfl
  | some => exact iff_of_false (Option.some_ne_none _) (Option.some_ne_none _)

theorem Fields.eq_nil_iff {α : Type} (fields : Fields α) :
    fields = [] ↔ ∀ name, fields.get? name = none := by
  cases fields with
  | nil => exact iff_of_true rfl fun _ => rfl
  | cons field rest =>
    refine iff_of_false (List.cons_ne_nil _ _) fun hNone => ?_
    have hFirst := hNone field.1
    rw [Fields.get?, List.lookup_cons, beq_self_eq_true] at hFirst
    cases hFirst

namespace Json

inductive Agrees : Json → Json → Prop
  | same (v : Json) : Agrees v v
  | array {items others : List Json} (hItems : List.Forall₂ Agrees items others) :
    Agrees (.array items) (.array others)
  | object {members others : Fields Json}
    (hMembers : ∀ name, Option.Rel Agrees (Fields.get? members name) (Fields.get? others name)) :
    Agrees (.object members) (.object others)

variable {v w : Json}

theorem Agrees.isGiven_eq (h : v.Agrees w) : w.isGiven = v.isGiven := by
  cases h with
  | same => rfl
  | array hItems => cases hItems <;> rfl
  | @object members others hMembers =>
    have hEmpty : others = [] ↔ members = [] := by
      rw [Fields.eq_nil_iff, Fields.eq_nil_iff]
      exact forall_congr' fun name => (eq_none_iff_of_rel (hMembers name)).symm
    rw [isGiven, isGiven, Bool.eq_iff_iff, Bool.not_eq_true', Bool.not_eq_true',
      List.isEmpty_eq_false_iff, List.isEmpty_eq_false_iff]
    exact not_congr hEmpty

end Json

namespace Config
variable {a b : Config} {n : Notification} {d : Descriptor}

def AgreesAt (a b : Config) (key : String) : Prop :=
  Option.Rel Json.Agrees (Fields.get? a key) (Fields.get? b key)

def Agrees (a b : Config) : Prop := ∀ key, a.AgreesAt b key

/-- The configurations agree besides the keys that only a descriptor can settle. -/
def AgreesBesides (a b : Config) : Prop := ∀ key, key ∉ reserved → a.AgreesAt b key

theorem AgreesAt.of_eq {key : String} (h : Fields.get? b key = Fields.get? a key) :
    a.AgreesAt b key := by
  rw [AgreesAt, h]
  cases Fields.get? a key with
  | none => exact .none
  | some v => exact .some (.same v)

theorem AgreesAt.value {key : String} (h : a.AgreesAt b key) :
    ((Fields.get? a key).getD .null).Agrees ((Fields.get? b key).getD .null) := by
  unfold AgreesAt at h
  revert h
  generalize Fields.get? a key = own
  generalize Fields.get? b key = other
  intro h
  cases h with
  | none => exact .same .null
  | some hValue => exact hValue

theorem AgreesAt.textField_eq {key : String} (h : a.AgreesAt b key) :
    b.textField key = a.textField key := by
  have hValue := h.value
  unfold textField
  generalize (Fields.get? a key).getD .null = own at hValue ⊢
  generalize (Fields.get? b key).getD .null = other at hValue ⊢
  cases hValue with
  | same => rfl
  | array => rfl
  | object => rfl

theorem AgreesAt.textOr_eq {key : String} (h : a.AgreesAt b key) (fallback operation : String) :
    textOr fallback operation b key = textOr fallback operation a key := by
  have hValue := h.value
  unfold textOr
  generalize (Fields.get? a key).getD .null = own at hValue ⊢
  generalize (Fields.get? b key).getD .null = other at hValue ⊢
  dsimp only
  rw [hValue.isGiven_eq]
  cases hValue with
  | same => rfl
  | array => rfl
  | object => rfl

theorem asTexts?_eq {items others : List Json} (h : List.Forall₂ Json.Agrees items others) :
    asTexts? others = asTexts? items := by
  induction h with
  | nil => rfl
  | @cons item other items others hItem _ ih =>
    cases hItem with
    | same => cases item <;> simp only [asTexts?, ih]
    | array => rfl
    | object => rfl

theorem AgreesAt.destinations_eq (h : a.AgreesAt b Key.destination) :
    b.destinations = a.destinations := by
  have hValue := h.value
  unfold destinations
  generalize (Fields.get? a Key.destination).getD .null = own at hValue ⊢
  generalize (Fields.get? b Key.destination).getD .null = other at hValue ⊢
  cases hValue with
  | same => rfl
  | array hItems =>
    rw [destinationsOf, destinationsOf]
    dsimp only
    rw [asTexts?_eq hItems]
    rfl
  | object => rfl

section
variable (hTemplate : a.AgreesAt b Key.template) (hMimeType : a.AgreesAt b Key.mimeType)
include hTemplate hMimeType

theorem AgreesAt.renderBody_eq (n : Notification) : renderBody n b = renderBody n a := by
  simp only [renderBody, templateOf, hTemplate.textOr_eq, hMimeType.textOr_eq]

theorem AgreesAt.contentType_eq : Publisher.contentType b = Publisher.contentType a := by
  simp only [Publisher.contentType, templateOf, hTemplate.textOr_eq, hMimeType.textOr_eq]

theorem AgreesAt.mailContent_eq (n : Notification) :
    Publisher.mailContent n b = Publisher.mailContent n a := by
  simp only [Publisher.mailContent, hTemplate.renderBody_eq hMimeType, hMimeType.textOr_eq]

end

theorem Agrees.webhookRequest_eq (h : a.Agrees b) (timeout : Json) (ctx : Context)
    (n : Notification) :
    Publisher.webhookRequest timeout ctx n b = Publisher.webhookRequest timeout ctx n a := by
  simp only [Publisher.webhookRequest, (h _).textField_eq, (h _).contentType_eq (h _),
    (h _).renderBody_eq (h _)]

theorem Agrees.composeMail_eq (h : a.Agrees b) (account : Publisher.MailAccount) (ctx : Context)
    (n : Notification) (addresses : List String) :
    Publisher.composeMail account ctx n b addresses =
      Publisher.composeMail account ctx n a addresses := by
  simp only [Publisher.composeMail, (h _).textField_eq, (h _).mailContent_eq (h _)]

/-- What the reserved keys say is settled by the descriptor. -/
theorem agreesAt_merged (a b : Config) (d : Descriptor) {key : String} (hKey : key ∈ reserved) :
    (a.merged d).AgreesAt (b.merged d) key := by
  refine .of_eq ?_
  rcases List.mem_cons.mp hKey with rfl | hKey
  · rw [merged, merged, Fields.get?_put_self, Fields.get?_put_self]
  · obtain rfl := List.mem_singleton.mp hKey
    have hOther : Key.mimeType ≠ Key.template := by decide
    rw [merged, merged, Fields.get?_put_of_ne _ _ hOther, Fields.get?_put_of_ne _ _ hOther,
      Fields.get?_put_self, Fields.get?_put_self]

theorem AgreesBesides.merged (h : a.AgreesBesides b) (d : Descriptor) :
    (a.merged d).Agrees (b.merged d) := by
  intro key
  by_cases hKey : key ∈ reserved
  · exact agreesAt_merged a b d hKey
  · have hNe : key ≠ Key.template ∧ key ≠ Key.mimeType := by simpa [reserved] using hKey
    rw [AgreesAt, get?_merged_of_ne d a hNe.1 hNe.2, get?_merged_of_ne d b hNe.1 hNe.2]
    exact h key hKey

end Config

/-- What a descriptor settles of every configuration that is merged with it. -/
def Descriptor.settled (d : Descriptor) : Config :=
  [(Key.mimeType, .text (Config.orElse "text/plain" d.mimeType)),
    (Key.template, .text (d.template.getD ""))]

namespace Config

theorem merged_nil (d : Descriptor) : merged d [] = d.settled := by
  have hOther : Key.mimeType ≠ Key.template := by decide
  simp [merged, Descriptor.settled, Fields.put, hOther]

theorem settled_agreesAt (config : Config) (d : Descriptor) {key : String} (hKey : key ∈ reserved) :
    d.settled.AgreesAt (config.merged d) key :=
  merged_nil d ▸ agreesAt_merged [] config d hKey

theorem renderBody_settled (config : Config) (d : Descriptor) (n : Notification) :
    renderBody n (config.merged d) = renderBody n d.settled :=
  (config.settled_agreesAt d (by decide)).renderBody_eq (config.settled_agreesAt d (by decide)) n

theorem orElse_ne_empty {fallback : String} (hFallback : fallback ≠ "") (s : Option String) :
    orElse fallback s ≠ "" := by
  unfold orElse
  dsimp only
  split
  · exact hFallback
  · assumption

/-- Whatever the default, it is not needed for the media type that a descriptor settles. -/
theorem textOr_mimeType_settled (d : Descriptor) (fallback operation : String) :
    textOr fallback operation d.settled Key.mimeType =
      .ok (orElse "text/plain" d.mimeType) := by
  have hSome := orElse_ne_empty (show "text/plain" ≠ "" by decide) d.mimeType
  have hSettled : Fields.get? d.settled Key.mimeType =
      some (.text (orElse "text/plain" d.mimeType)) := rfl
  rw [textOr_eq_orElse fallback operation hSettled, orElse, Option.getD_some, if_neg hSome]

theorem templateOf_settled (d : Descriptor) : templateOf d.settled =
    .ok (if Text.allBlank (d.template.getD "") then none else some (d.template.getD "")) := by
  have hSettled : Fields.get? d.settled Key.template = some (.text (d.template.getD "")) := rfl
  have hText : textOr "" "strip" d.settled Key.template = .ok (d.template.getD "") := by
    rw [textOr_eq_orElse "" "strip" hSettled, orElse, Option.getD_some]
    split
    · rename_i hEmpty
      rw [hEmpty]
    · rfl
  rw [templateOf, hText]
  rfl

theorem contentType_settled (config : Config) (d : Descriptor) :
    Publisher.contentType (config.merged d) = .ok
      (if Text.allBlank (d.template.getD "") then "application/json"
        else orElse "text/plain" d.mimeType) := by
  rw [(config.settled_agreesAt d (by decide)).contentType_eq
      (config.settled_agreesAt d (by decide)),
    Publisher.contentType, templateOf_settled]
  split
  · rfl
  · exact textOr_mimeType_settled d "application/json" "split"

theorem mailContent_settled (config : Config) (d : Descriptor) (n : Notification) :
    Publisher.mailContent n (config.merged d) = (renderBody n d.settled).map fun body =>
      if Text.lower (orElse "text/plain" d.mimeType) = "text/html" then
        .alternative n.content body else .plain body := by
  rw [(config.settled_agreesAt d (by decide)).mailContent_eq
      (config.settled_agreesAt d (by decide)),
    Publisher.mailContent, textOr_mimeType_settled]
  cases renderBody n d.settled <;> rfl

/-- The text that a value is, if it is one. -/
def text? : Json → Option String
  | .text s => some s
  | _ => none

def textMembers (config : Config) : List (String × Option String) :=
  config.map fun (name, value) => (name, text? value)

theorem eq_texts {config : Config} {members : List (String × String)}
    (h : textMembers config = members.map fun (name, s) => (name, some s)) :
    config = members.map fun (name, s) => (name, .text s) := by
  induction config generalizing members with
  | nil => simpa [textMembers, List.nil_eq] using h
  | cons field rest ih =>
    obtain ⟨name, value⟩ := field
    cases members with
    | nil => cases h
    | cons member others =>
      obtain ⟨other, s⟩ := member
      simp only [textMembers, List.map_cons, List.cons.injEq, Prod.mk.injEq] at h
      obtain ⟨⟨rfl, hText⟩, hRest⟩ := h
      rw [List.map_cons, ← ih hRest]
      cases value <;> simp_all [text?]

theorem parse_texts {document : String} (members : List (String × String))
    (h : Answer.passes (Config.parse (some document)) (fun config =>
      textMembers config = members.map fun (name, s) => (name, some s)) = true) :
    Config.parse (some document) = .ok (members.map fun (name, s) => (name, .text s)) := by
  obtain ⟨config, hParsed, hTest⟩ := Answer.passes_iff.mp h
  rw [hParsed, eq_texts (of_decide_eq_true hTest)]

end Config

end EventDigest

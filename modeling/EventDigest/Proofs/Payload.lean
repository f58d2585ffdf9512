import EventDigest.Proofs.Errands
import EventDigest.Proofs.Image
import EventDigest.Publisher.Webhook
import EventDigest.Store.Publishers

/-! # What a body says

A body in JSON is read back as the notification that it was rendered from. The template of the
webhook is laid out as an indented document whose texts are fields between quotes, so its filled
text is put together from the literals of the notification.
-/
set_option autoImplicit false
namespace EventDigest

namespace Template

def texts : List (String × Field) :=
  [("level", .level), ("scope", .scope), ("group", .group), ("timestamp", .timestamp),
    ("title", .title), ("content", .content)]

end Template

section Filled
open Template Json
variable {n : Notification} {subject : Json}

end Filled

/-- There is no template, or none that counts as given, or a blank text. -/
def Config.LacksTemplate (config : Config) : Prop :=
  ∀ v ∈ Fields.get? config Key.template, v.isGiven = true →
    ∃ t, v = .text t ∧ Text.allBlank t = true

namespace Config
variable {config : Config} {template mimeType : String}

theorem LacksTemplate.templateOf_eq (h : config.LacksTemplate) : templateOf config = .ok none := by
  have hBlank : ∃ t, textOr "" "strip" config Key.template = .ok t ∧ Text.allBlank t = true := by
    cases hTemplate : Fields.get? config Key.template with
    | none => exact ⟨"", by rw [textOr, hTemplate]; rfl, rfl⟩
    | some v =>
      cases hGiven : v.isGiven with
      | false => exact ⟨"", by rw [textOr, hTemplate, Option.getD_some, hGiven]; rfl, rfl⟩
      | true =>
        obtain ⟨t, rfl, hBlank⟩ := h v hTemplate hGiven
        exact ⟨t, by rw [textOr, hTemplate, Option.getD_some, hGiven]; rfl, hBlank⟩
  obtain ⟨t, hText, hBlank⟩ := hBlank
  exact Answer.bind_eq_ok_iff.mpr ⟨t, hText, by rw [if_pos hBlank]; rfl⟩

theorem LacksTemplate.renderBody_eq (h : config.LacksTemplate) (n : Notification) :
    renderBody n config = .ok n.toJson.pretty :=
  Answer.bind_eq_ok_iff.mpr ⟨none, h.templateOf_eq, rfl⟩

theorem LacksTemplate.contentType_eq (h : config.LacksTemplate) :
    Publisher.contentType config = .ok "application/json" :=
  Answer.bind_eq_ok_iff.mpr ⟨none, h.templateOf_eq, rfl⟩

theorem textOr_of_text {key text : String} (operation : String)
    (h : Fields.get? config key = some (.text text)) :
    textOr "" operation config key = .ok text := by
  rw [Config.textOr_eq_orElse "" operation h, Config.orElse, Option.getD_some]
  split
  · rename_i hEmpty
    rw [hEmpty]
  · rfl

theorem templateOf_of_text (hTemplate : Fields.get? config Key.template = some (.text template))
    (hBlank : Text.allBlank template = false) : templateOf config = .ok (some template) := by
  refine Answer.bind_eq_ok_iff.mpr ⟨template, textOr_of_text "strip" hTemplate, ?_⟩
  rw [hBlank]
  rfl

theorem renderBody_of_template (hTemplate : Fields.get? config Key.template = some (.text template))
    (hMimeType : Fields.get? config Key.mimeType = some (.text mimeType))
    (hBlank : Text.allBlank template = false) (n : Notification) :
    renderBody n config = .ok (Template.fill template (fieldValue n (isJsonType mimeType))) :=
  Answer.bind_eq_ok_iff.mpr ⟨some template, templateOf_of_text hTemplate hBlank,
    Answer.bind_eq_ok_iff.mpr ⟨mimeType, textOr_of_text "split" hMimeType, rfl⟩⟩

theorem lacksTemplate_of_blank (hTemplate : Fields.get? config Key.template = some (.text template))
    (hBlank : Text.allBlank template = true) : config.LacksTemplate := by
  intro v hv _
  rw [hTemplate] at hv
  exact ⟨template, (Option.some.inj hv).symm, hBlank⟩

end Config

namespace Publisher

end Publisher

namespace Sample

def blankConfig : Config :=
  [("destination", .text " https://hooks.example "), ("template", .text " \n"),
    ("mimeType", .text "text/html")]

theorem lacksTemplate_blankConfig : blankConfig.LacksTemplate := by
  intro v hv _
  obtain rfl := Option.some.inj hv
  exact ⟨" \n", rfl, by decide⟩

end Sample

end EventDigest

import EventDigest.Proofs.Mailing
import EventDigest.Proofs.Payload
import EventDigest.Proofs.Rounds
import EventDigest.Proofs.Warning

/-! # Mails in HTML

A mail has a part in HTML beside its plain text when the media type of the configuration, as it
stands and in any case of its letters, is that of HTML. A template for JSON is recognised in another
way: parameters and blanks around the media type are set aside, and a blank template counts as none.
The two readings differ for a template for HTML whose media type is written with more than its name,
and for a media type without a template.
-/
set_option autoImplicit false
namespace EventDigest

namespace Text

/-- Only spellings in ASCII become a word of letters that ASCII alone leads to. -/
theorem map_toLower_of_lower_eq {word : String} (hWord : ∀ c ∈ word.toList, OnlyAscii c)
    {s : String} (h : lower s = word) : s.toList.map Char.toLower = word.toList := by
  have hLower : lowerAfter [] s.toList = word.toList := by
    rw [← h, lower, String.toList_ofList]
  have hPrefix : word.toList.isPrefixOf (lowerAfter [] s.toList) = true :=
    List.isPrefixOf_iff_prefix.mpr (hLower ▸ List.prefix_rfl)
  obtain ⟨name, rest, hSplit, hName⟩ := (isPrefixOf_lowerAfter_iff hWord [] s.toList).mp hPrefix
  have hLength := length_le_lowerAfter [] s.toList
  rw [hLower, ← hName, hSplit, List.length_append, List.length_map] at hLength
  have hRest : rest = [] := List.length_eq_zero_iff.mp (by omega)
  rw [hSplit, hRest, List.append_nil, hName]

theorem toLower_of_isBlank {c : Char} (h : isBlank c = true) : c.toLower = c := by
  refine toLower_eq_self_of_not_upper ?_
  simp only [isBlank, Bool.or_eq_true, Bool.and_eq_true, decide_eq_true_eq, beq_iff_eq] at h
  omega

theorem before_eq_self {sep : Char} {s : String} (h : ∀ c ∈ s.toList, c ≠ sep) :
    before sep s = s := by
  rw [before, List.takeWhile_eq_self_iff.mpr fun c hc => decide_eq_true (h c hc),
    String.ofList_toList]

theorem trim_eq_self {s : String} (h : ∀ c ∈ s.toList, isBlank c = false) : trim s = s := by
  rw [trim_eq_self_iff, List.dropWhile_eq_self_iff, List.rdropWhile_eq_self_iff]
  constructor
  · intro hSome
    simp [h _ (List.getElem_mem hSome)]
  · intro hSome
    simp [h _ (List.getLast_mem hSome)]

end Text

theorem onlyAscii_of_mem_html {c : Char} (hc : c ∈ "text/html".toList) : Text.OnlyAscii c := by
  have hCodes : "text/html".toList.map Char.toNat =
      [116, 101, 120, 116, 47, 104, 116, 109, 108] := by decide
  refine Text.onlyAscii_of_mem ?_ hc
  rw [hCodes]
  decide

/-- A media type that is HTML as it stands has no parameters and no blanks around it. -/
theorem mediaType_of_lower {mimeType : String} (h : Text.lower mimeType = "text/html") :
    mediaType mimeType = "text/html" := by
  -- Each character is a letter of the word in one case or the other, so none ends or pads it.
  have hSpelling : ∀ c ∈ mimeType.toList, c.toLower ∈ "text/html".toList := by
    intro c hc
    rw [← Text.map_toLower_of_lower_eq (fun _ => onlyAscii_of_mem_html) h]
    exact List.mem_map_of_mem hc
  have hSemicolon : ∀ c ∈ mimeType.toList, c ≠ ';' := by
    rintro c hc rfl
    exact absurd (hSpelling ';' hc) (by decide)
  have hBlank : ∀ c ∈ mimeType.toList, Text.isBlank c = false := by
    intro c hc
    have hLetters : ("text/html".toList.all fun letter => !Text.isBlank letter) = true := by decide
    rw [Bool.eq_false_iff]
    intro hIs
    have hNot := List.all_eq_true.mp hLetters _ (hSpelling c hc)
    rw [Text.toLower_of_isBlank hIs, hIs] at hNot
    cases hNot
  rw [mediaType, Text.before_eq_self hSemicolon, Text.trim_eq_self hBlank, h]

namespace Config
variable {config : Config}

/-- There is a template that is not blank, and it is for HTML when its media type is read as that of
a template for JSON is. -/
def HasHtmlTemplate (config : Config) : Prop :=
  ∃ template mimeType, Fields.get? config Key.template = some (.text template) ∧
    Text.allBlank template = false ∧
    Fields.get? config Key.mimeType = some (.text mimeType) ∧ mediaType mimeType = "text/html"

/-- A media type is given that is HTML as it stands, in any case of its letters. -/
def SpellsHtml (config : Config) : Prop :=
  ∃ mimeType, Fields.get? config Key.mimeType = some (.text mimeType) ∧
    Text.lower mimeType = "text/html"

/-- What is not the default was given as a text. -/
theorem get?_of_textOr {operation key s : String} (hSome : s ≠ "")
    (h : textOr "" operation config key = .ok s) : Fields.get? config key = some (.text s) := by
  unfold textOr at h
  dsimp only at h
  split at h
  · exact (hSome (Except.ok.inj h).symm).elim
  · split at h
    · rename_i t hText
      rw [Except.ok.injEq] at h
      subst h
      cases hGet : Fields.get? config key with
      | none => rw [hGet] at hText; cases hText
      | some v => rw [hGet] at hText; exact congrArg some hText
    · cases h

theorem spellsHtml_iff {operation mimeType : String}
    (h : textOr "" operation config Key.mimeType = .ok mimeType) :
    config.SpellsHtml ↔ Text.lower mimeType = "text/html" := by
  constructor
  · rintro ⟨given, hGiven, hLower⟩
    rw [textOr_of_text operation hGiven, Except.ok.injEq] at h
    rw [← h, hLower]
  · intro hLower
    refine ⟨mimeType, get?_of_textOr ?_ h, hLower⟩
    rintro rfl
    exact absurd hLower (by decide)

theorem template_of_templateOf {template : String} (h : templateOf config = .ok (some template)) :
    Fields.get? config Key.template = some (.text template) ∧ Text.allBlank template = false := by
  obtain ⟨text, hText, h⟩ := Answer.bind_eq_ok_iff.mp h
  rw [Answer.pure_eq_ok_iff] at h
  split at h
  · cases h
  · rename_i hBlank
    obtain rfl := Option.some.inj h
    rw [Bool.not_eq_true] at hBlank
    refine ⟨get?_of_textOr ?_ hText, hBlank⟩
    rintro rfl
    cases hBlank

theorem lacksTemplate_of_templateOf (h : templateOf config = .ok none) : config.LacksTemplate := by
  obtain ⟨text, hText, h⟩ := Answer.bind_eq_ok_iff.mp h
  intro v hv hGiven
  rw [textOr, hv, Option.getD_some, hGiven] at hText
  rw [Answer.pure_eq_ok_iff] at h
  split at h
  · rename_i hBlank
    rw [Bool.not_true, if_neg Bool.false_ne_true] at hText
    split at hText
    · exact ⟨_, rfl, by rw [Except.ok.inj hText]; exact hBlank⟩
    · cases hText
  · cases h

theorem LacksTemplate.not_hasHtmlTemplate (h : config.LacksTemplate) :
    ¬ config.HasHtmlTemplate := by
  rintro ⟨template, _, hTemplate, hBlank, _, _⟩
  have hSome := templateOf_of_text hTemplate hBlank
  rw [h.templateOf_eq] at hSome
  cases hSome

end Config

/-- How the two readings of the media type meet in the content of a mail. Where they differ, a body
in HTML is sent as plain text, or the notification as a JSON document in HTML. -/
inductive MailContent.Of (n : Notification) (config : Config) (body : String) : MailContent → Prop
  | html (hTemplate : config.HasHtmlTemplate) (hSpells : config.SpellsHtml) :
    Of n config body (.alternative n.content body)
  | plain (hTemplate : ¬ config.HasHtmlTemplate) (hSpells : ¬ config.SpellsHtml) :
    Of n config body (.plain body)
  | markupAsPlain (hTemplate : config.HasHtmlTemplate) (hSpells : ¬ config.SpellsHtml) :
    Of n config body (.plain body)
  | documentAsHtml (hTemplate : config.LacksTemplate) (hSpells : config.SpellsHtml) :
    Of n config body (.alternative n.content body)

namespace Publisher
variable {β : Type} {n : Notification} {config : Config}

/-- With a media type that is HTML as it stands, a template is one for HTML, if there is any. -/
theorem hasHtmlTemplate_of_spellsHtml (h : config.SpellsHtml) {body : String}
    (hBody : renderBody n config = .ok body) :
    config.HasHtmlTemplate ∨ config.LacksTemplate := by
  obtain ⟨template?, hTemplate, _⟩ := Answer.bind_eq_ok_iff.mp hBody
  cases template? with
  | none => exact .inr (Config.lacksTemplate_of_templateOf hTemplate)
  | some template =>
    obtain ⟨mimeType, hMimeType, hLower⟩ := h
    obtain ⟨hText, hBlank⟩ := Config.template_of_templateOf hTemplate
    exact .inl ⟨template, mimeType, hText, hBlank, hMimeType, mediaType_of_lower hLower⟩

theorem of_mailContent {content : MailContent} (h : mailContent n config = .ok content) :
    ∃ body, renderBody n config = .ok body ∧ content.Of n config body := by
  obtain ⟨body, hBody, h⟩ := Answer.bind_eq_ok_iff.mp h
  obtain ⟨mimeType, hMimeType, h⟩ := Answer.bind_eq_ok_iff.mp h
  have hSpells := Config.spellsHtml_iff hMimeType
  rw [Answer.pure_eq_ok_iff] at h
  refine ⟨body, hBody, ?_⟩
  split at h
  · rename_i hLower
    subst h
    rcases hasHtmlTemplate_of_spellsHtml (hSpells.mpr hLower) hBody with hTemplate | hLacks
    · exact .html hTemplate (hSpells.mpr hLower)
    · exact .documentAsHtml hLacks (hSpells.mpr hLower)
  · rename_i hLower
    subst h
    by_cases hTemplate : config.HasHtmlTemplate
    · exact .markupAsPlain hTemplate (mt hSpells.mp hLower)
    · exact .plain hTemplate (mt hSpells.mp hLower)

/-- A mail session that is about one message. -/
inductive Carries (message : MailMessage) : Delivery → Prop
  | mail (calls : List MailCall) (accepted : Option MailMessage)
    (hSent : ∀ other, .send other ∈ calls → other = message)
    (hAccepted : ∀ other, accepted = some other → other = message) :
    Carries message (.mail calls accepted)

/-- Every mail that is sent was composed before. -/
theorem start_sendMail (transport : Transport β) (account : MailAccount) (ctx : Context)
    (n : Notification) (config : Config) (addresses : List String) (desk : Desk β) :
    ∃ made, ((sendMail transport account ctx n config addresses).start desk).2.deliveries =
        desk.deliveries ++ made ∧
      ∀ delivery ∈ made, ∃ host message, Carries message delivery ∧
        composeMail account ctx n config addresses = .ok (host, message) := by
  rw [sendMail, Task.start_bind, Task.start_ofExcept]
  rcases hComposed : composeMail account ctx n config addresses with fault | ⟨host, message⟩
  · exact ⟨[], (List.append_nil _).symm, by simp⟩
  · simp only [Task.start_bind, Task.start_ask, Task.start_deliver]
    rcases hSession : holdSession transport account host message desk.outside with
      ⟨session, outside⟩
    have hHeld : ∀ other, .send other ∈ session.calls → other = message := by
      intro other hSend
      have hCalls : session = _ := (congrArg Prod.fst hSession).symm
      rw [hCalls] at hSend
      exact eq_of_send_mem_session hSend
    refine ⟨[.mail session.calls (if session.accepted then some message else none)], ?_, ?_⟩
    · dsimp only
      split <;> rfl
    · intro delivery hDelivery
      obtain rfl := List.mem_singleton.mp hDelivery
      refine ⟨host, message, .mail _ _ hHeld ?_, rfl⟩
      intro other hOther
      split at hOther
      · exact (Option.some.inj hOther).symm
      · cases hOther

/-- The call of a publisher, with recipients besides those of the configuration or without. -/
def call (publisher : Publisher β) (ctx : Context) (n : Notification) (config : Config) :
    Option (List Target) → Task β Unit
  | none => publisher.inform ctx n config
  | some targets => publisher.informTargets ctx n config targets

theorem start_mail (transport : Transport β) (account : MailAccount) (ctx : Context)
    (n : Notification) (config : Config) (targets : Option (List Target)) (desk : Desk β) :
    ∃ made, (((mail transport account).call ctx n config targets).start desk).2.deliveries =
        desk.deliveries ++ made ∧
      ∀ delivery ∈ made, ∃ addresses host message, Carries message delivery ∧
        composeMail account ctx n config addresses = .ok (host, message) := by
  have hSend : ∀ addresses, ∃ made,
      ((sendMail transport account ctx n config addresses).start desk).2.deliveries =
        desk.deliveries ++ made ∧
      ∀ delivery ∈ made, ∃ addresses host message, Carries message delivery ∧
        composeMail account ctx n config addresses = .ok (host, message) := by
    intro addresses
    obtain ⟨made, hMade, hAll⟩ := start_sendMail transport account ctx n config addresses desk
    exact ⟨made, hMade, fun delivery hDelivery => ⟨addresses, hAll delivery hDelivery⟩⟩
  cases hDestinations : config.destinations with
  | error fault =>
    refine ⟨[], ?_, by simp⟩
    cases targets <;>
      simp only [call, mail, Task.start_bind, Task.start_ofPublish, hDestinations, Except.mapError,
        List.append_nil]
  | ok addresses =>
    cases targets with
    | none =>
      simp only [call, mail, Task.start_bind, Task.start_ofPublish, hDestinations]
      exact hSend addresses
    | some targets =>
      simp only [call, mail, Task.start_bind, Task.start_ofPublish, hDestinations]
      exact hSend (addresses ++ targets.flatMap (·.addresses))

/-- Every mail of the publisher has the rendered body as its part in HTML, or alone as plain text.
The part in HTML is there exactly for a template for HTML, but for a media type that is written with
more than its name and one that has no template. -/
theorem html_mail_iff (transport : Transport β) (account : MailAccount) (ctx : Context)
    (n : Notification) (config : Config) (targets : Option (List Target)) (desk : Desk β) :
    ∃ made, (((mail transport account).call ctx n config targets).start desk).2.deliveries =
        desk.deliveries ++ made ∧
      ∀ delivery ∈ made, ∃ message body, Carries message delivery ∧
        renderBody n config = .ok body ∧ message.content.Of n config body := by
  obtain ⟨made, hMade, hAll⟩ := start_mail transport account ctx n config targets desk
  refine ⟨made, hMade, fun delivery hDelivery => ?_⟩
  obtain ⟨addresses, host, message, hCarries, hComposed⟩ := hAll delivery hDelivery
  obtain ⟨body, hBody, hContent⟩ := of_mailContent (content_of_composeMail hComposed)
  exact ⟨message, body, hCarries, hBody, hContent⟩

end Publisher

/-- What the accepted message of a mail session says. -/
def Delivery.content? : Delivery → Option MailContent
  | .mail _ (some message) => some message.content
  | _ => none

namespace Sample

def mailConfig (template mimeType : String) : Config :=
  [("destination", .text "ops@acme.org"), ("mimeType", .text mimeType),
    ("template", .text template)]

def plainNotification : Notification where
  scope := "PORTFOLIO"
  group := .vulnerability
  level := "INFORMATIONAL"
  title := "T"
  content := "C"
  timestamp := none
  subject := .document .null

def mailAccount : Publisher.MailAccount :=
  ⟨some "mail.acme.org", 25, none, none, "digest@acme.org", false⟩

/-- What is sent under a template with a media type. -/
def mailed (template mimeType : String) : List (Option MailContent) :=
  (((Publisher.mail accepting mailAccount).call (.ofNotification plainNotification)
    plainNotification (mailConfig template mimeType) none).start ⟨[], [], 0⟩).2.deliveries.map
      (·.content?)

end Sample

namespace Publisher

/-- A parameter of the media type keeps a template for HTML from being sent as HTML, and a media
type alone has the notification sent as HTML though there is no template. -/
theorem html_missed_and_invented :
    ((Sample.mailConfig "<b>$title</b>" "text/html; charset=utf-8").HasHtmlTemplate ∧
      Sample.mailed "<b>$title</b>" "text/html; charset=utf-8" = [some (.plain "<b>T</b>")]) ∧
    ¬ (Sample.mailConfig " " "text/html").HasHtmlTemplate ∧
      Sample.mailed " " "text/html" =
        [some (.alternative "C" Sample.plainNotification.toJson.pretty)] := by
  refine ⟨⟨⟨"<b>$title</b>", "text/html; charset=utf-8", rfl, by decide, rfl, by decide +kernel⟩,
    by decide +kernel⟩, ?_, by decide +kernel⟩
  have hLacks : (Sample.mailConfig " " "text/html").LacksTemplate :=
    Config.lacksTemplate_of_blank rfl (by decide)
  exact hLacks.not_hasHtmlTemplate

end Publisher
end EventDigest

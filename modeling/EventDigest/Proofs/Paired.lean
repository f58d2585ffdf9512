import EventDigest.Proofs.Agreement
import EventDigest.Proofs.Steady
import EventDigest.Publisher.Rehearsal

/-! # Tasks in pairs

Two tasks are paired when, started on desks before the same world outside, they end alike, ask the
same and deliver alike; what they write differs at most in notices about reserved keys. Publishers
that read a configuration as a set of named values are paired with themselves under configurations
that agree, and so is everything that is done through a registry of them.
-/
set_option autoImplicit false
namespace EventDigest
variable {β α γ : Type}

/-- The same request, the same session, or the same call under configurations that agree. -/
inductive Delivery.Agrees : Delivery → Delivery → Prop
  | same (delivery : Delivery) : Agrees delivery delivery
  | rehearsed (n : Notification) {a b : Config} (targets : Option (List Target))
    (hConfig : a.Agrees b) : Agrees (.rehearsed n a targets) (.rehearsed n b targets)

namespace Config

/-- The notice that reserved keys of a document are ignored. -/
def notice (keys : List String) : Entry :=
  let listed := String.intercalate overriddenWarning?.listGap keys
  .warning Executor.logger s!"Ignoring reserved publisher config keys from rule: {listed}"

def notices : List String :=
  ([[Key.template], [Key.mimeType], reserved].map notice).map (·.message)

end Config

def Entry.isNotice (entry : Entry) : Bool :=
  entry.severity = .warning && entry.logger = Executor.logger &&
    Config.notices.contains entry.message

theorem Config.isNotice_of_overriddenWarning? {config : Config} {entry : Entry}
    (h : config.overriddenWarning? Executor.logger = some entry) : entry.isNotice = true := by
  unfold overriddenWarning? overridden at h
  rw [reserved, List.filter_cons, List.filter_cons, List.filter_nil] at h
  cases hTemplate : (Fields.names config).contains Key.template <;>
    cases hMimeType : (Fields.names config).contains Key.mimeType <;>
      rw [hTemplate, hMimeType] at h <;> cases h <;> decide

/-- How what one of two tasks does stands to what the other does: which deliveries correspond, and
what may be written. Only publishers write under their own name. -/
structure Pairing where
  delivers : Delivery → Delivery → Prop
  writes : Entry → Prop
  free : ∀ entry, entry.logger ≠ Publisher.logger → writes entry

theorem Pairing.writes_notice (P : Pairing) {entry : Entry} (h : entry.isNotice = true) :
    P.writes entry := by
  have hOther : Executor.logger ≠ Publisher.logger := by decide
  simp only [Entry.isNotice, Bool.and_eq_true, decide_eq_true_eq] at h
  exact P.free entry (h.1.2 ▸ hOther)

/-- Journals that differ in nothing but notices. -/
structure Pairing.Lines (P : Pairing) (lines others : Journal) : Prop where
  alike : others.filter (!·.isNotice) = lines.filter (!·.isNotice)
  written : ∀ line ∈ lines, P.writes line

theorem Pairing.Lines.same {P : Pairing} {lines : Journal} (h : ∀ line ∈ lines, P.writes line) :
    P.Lines lines lines :=
  ⟨rfl, h⟩

theorem Pairing.nothing_delivered (P : Pairing) (deliveries others : List Delivery) :
    ∃ made again, deliveries = deliveries ++ made ∧ others = others ++ again ∧
      List.Forall₂ P.delivers made again :=
  ⟨[], [], (List.append_nil _).symm, (List.append_nil _).symm, .nil⟩

theorem Pairing.nothing_written (P : Pairing) (journal other : Journal) :
    ∃ lines others, journal = journal ++ lines ∧ other = other ++ others ∧ P.Lines lines others :=
  ⟨[], [], (List.append_nil _).symm, (List.append_nil _).symm, .same (List.forall_mem_nil _)⟩

/-- Two desks came to two others by deliveries and lines that correspond. -/
structure Desk.Grow (P : Pairing) (before other after last : Desk β) : Prop where
  outside : last.outside = after.outside
  deliveries : ∃ made again, after.deliveries = before.deliveries ++ made ∧
    last.deliveries = other.deliveries ++ again ∧ List.Forall₂ P.delivers made again
  journal : ∃ lines others, after.journal = before.journal ++ lines ∧
    last.journal = other.journal ++ others ∧ P.Lines lines others

namespace Desk
variable {P : Pairing} {before other after last : Desk β}

theorem Grow.refl (h : other.outside = before.outside) : Grow P before other before other :=
  ⟨h, P.nothing_delivered _ _, P.nothing_written _ _⟩

theorem Grow.trans {mid between : Desk β} (h₁ : Grow P before other mid between)
    (h₂ : Grow P mid between after last) : Grow P before other after last where
  outside := h₂.outside
  deliveries := by
    obtain ⟨made, again, hMade, hAgain, hAll⟩ := h₁.deliveries
    obtain ⟨more, others, hMore, hOthers, hRest⟩ := h₂.deliveries
    refine ⟨made ++ more, again ++ others, ?_, ?_, List.rel_append hAll hRest⟩
    · rw [hMore, hMade, List.append_assoc]
    · rw [hOthers, hAgain, List.append_assoc]
  journal := by
    obtain ⟨lines, others, hLines, hOthers, hSame, hWritten⟩ := h₁.journal
    obtain ⟨more, rest, hMore, hRest, hSameRest, hWrittenRest⟩ := h₂.journal
    refine ⟨lines ++ more, others ++ rest, ?_, ?_, ?_, ?_⟩
    · rw [hMore, hLines, List.append_assoc]
    · rw [hRest, hOthers, List.append_assoc]
    · rw [List.filter_append, List.filter_append, hSame, hSameRest]
    · intro line hLine
      rcases List.mem_append.mp hLine with hLine | hLine
      · exact hWritten line hLine
      · exact hWrittenRest line hLine

theorem Grow.of_lines {lines others : Journal} (hOutside : other.outside = before.outside)
    (h : P.Lines lines others) : Grow P before other
      { before with journal := before.journal ++ lines }
      { other with journal := other.journal ++ others } :=
  ⟨hOutside, P.nothing_delivered _ _, ⟨lines, others, rfl, rfl, h⟩⟩

end Desk

namespace Task
variable {P : Pairing}

def Paired (P : Pairing) (task again : Task β α) : Prop :=
  ∀ desk other : Desk β, other.outside = desk.outside →
    (again.start other).1 = (task.start desk).1 ∧
      Desk.Grow P desk other (task.start desk).2 (again.start other).2

theorem paired_pure (a : α) : Paired P (pure a : Task β α) (pure a) :=
  fun _ _ hOutside => ⟨rfl, .refl hOutside⟩

theorem paired_throw (fault : Fault) : Paired P (throw fault : Task β α) (throw fault) :=
  fun _ _ hOutside => ⟨rfl, .refl hOutside⟩

theorem paired_ofExcept (answer : Except Fault α) :
    Paired P (ofExcept answer : Task β α) (ofExcept answer) := by
  cases answer with
  | error fault => exact paired_throw fault
  | ok a => exact paired_pure a

theorem paired_ofPublish (answer : Except PublishFault α) :
    Paired P (ofPublish answer : Task β α) (ofPublish answer) := by
  cases answer with
  | error fault => exact paired_throw _
  | ok a => exact paired_pure a

theorem paired_log {entry : Entry} (h : P.writes entry) :
    Paired P (log entry : Task β Unit) (log entry) :=
  fun _ _ hOutside => ⟨rfl, .of_lines hOutside (.same (by simpa using h))⟩

theorem paired_deliver {delivery other : Delivery} (h : P.delivers delivery other) :
    Paired P (deliver delivery : Task β Unit) (deliver other) :=
  fun _ _ hOutside => ⟨rfl, hOutside, ⟨[delivery], [other], rfl, rfl, .cons h .nil⟩,
    P.nothing_written _ _⟩

theorem paired_ask (question : β → α × β) : Paired P (ask question) (ask question) := by
  intro desk other hOutside
  rw [start_ask, start_ask, hOutside]
  exact ⟨rfl, rfl, P.nothing_delivered _ _, P.nothing_written _ _⟩

/-- What follows needs to be paired only for values that the first task can end with. -/
theorem Paired.bind {task again : Task β α} {next more : α → Task β γ} (h : Paired P task again)
    (hNext : ∀ desk a, (task.start desk).1 = .ok a → Paired P (next a) (more a)) :
    Paired P (task >>= next) (again >>= more) := by
  intro desk other hOutside
  obtain ⟨hAnswer, hGrow⟩ := h desk other hOutside
  rw [start_bind, start_bind]
  rcases hFirst : task.start desk with ⟨answer, mid⟩
  rcases hSecond : again.start other with ⟨reply, last⟩
  rw [hFirst, hSecond] at hAnswer hGrow
  dsimp only at hAnswer hGrow
  subst hAnswer
  cases reply with
  | error fault => exact ⟨rfl, hGrow⟩
  | ok a =>
    obtain ⟨hEnd, hRest⟩ := hNext desk a (by rw [hFirst]) mid last hGrow.outside
    exact ⟨hEnd, hGrow.trans hRest⟩

/-- A notice written by the first task alone makes no difference, -/
theorem Paired.notice_left {task again : Task β α} {entry : Entry} (hNotice : entry.isNotice = true)
    (h : Paired P task again) :
    Paired P (log entry >>= fun _ => task) again := by
  intro desk other hOutside
  have hLines : P.Lines [entry] [] := ⟨by simp [hNotice], by simpa using P.writes_notice hNotice⟩
  have hNoted := Desk.Grow.of_lines hOutside hLines
  obtain ⟨hAnswer, hGrow⟩ := h { desk with journal := desk.journal ++ [entry] } other hOutside
  rw [start_bind, start_log]
  rw [List.append_nil] at hNoted
  exact ⟨hAnswer, hNoted.trans hGrow⟩

/-- nor does one that the second task writes. -/
theorem Paired.notice_right {task again : Task β α} {entry : Entry}
    (hNotice : entry.isNotice = true) (h : Paired P task again) :
    Paired P task (log entry >>= fun _ => again) := by
  intro desk other hOutside
  have hLines : P.Lines [] [entry] := ⟨by simp [hNotice], by simp⟩
  have hNoted := Desk.Grow.of_lines hOutside hLines
  obtain ⟨hAnswer, hGrow⟩ := h desk { other with journal := other.journal ++ [entry] } hOutside
  rw [start_bind, start_log]
  rw [List.append_nil] at hNoted
  exact ⟨hAnswer, hNoted.trans hGrow⟩

end Task

/-- Under two configurations the publisher does what corresponds. -/
structure Publisher.Pairs (P : Pairing) (publisher : Publisher β) (n : Notification)
    (a b : Config) : Prop where
  inform : ∀ ctx, Task.Paired P (publisher.inform ctx n a) (publisher.inform ctx n b)
  informTargets : ∀ ctx targets, Task.Paired P (publisher.informTargets ctx n a targets)
    (publisher.informTargets ctx n b targets)

namespace Publisher
variable {P : Pairing} {n : Notification} {a b : Config}

theorem Pairs.untargeted {className : String}
    {inform : Context → Notification → Config → Task β Unit}
    (h : ∀ ctx, Task.Paired P (inform ctx n a) (inform ctx n b)) :
    (Publisher.untargeted className inform).Pairs P n a b where
  inform := h
  informTargets _ _ := Task.paired_throw _

def consoleEntry (ctx : Context) (n : Notification) (body : String) : Entry :=
  .info logger s!"Console notification ({ctx.text}) title={n.title}\n{body}"

def mailedEntry (ctx : Context) (recipients : Nat) : Entry :=
  .info logger s!"Email sent recipients={recipients} ({ctx.text})"

/-- Whatever the standard publishers make of a notification corresponds to itself. -/
structure Admits (P : Pairing) (n : Notification) (config : Config) : Prop where
  printed : ∀ ctx body, renderBody n config = .ok body → P.writes (consoleEntry ctx n body)
  posted : ∀ timeout ctx request, webhookRequest timeout ctx n config = .ok request →
    P.delivers (.http request) (.http request)
  sent : ∀ account ctx addresses host message,
    composeMail account ctx n config addresses = .ok (host, message) →
    ∀ calls accepted, (∀ other, .send other ∈ calls → other = message) →
      (∀ other, accepted = some other → other = message) →
      P.delivers (.mail calls accepted) (.mail calls accepted)
  mailed : ∀ ctx recipients, P.writes (mailedEntry ctx recipients)

variable {transport : Transport β}

theorem pairs_console (hAgrees : a.Agrees b) (hAdmits : Admits P n a) :
    (console : Publisher β).Pairs P n a b := by
  refine .untargeted fun ctx => ?_
  rw [(hAgrees _).renderBody_eq (hAgrees _)]
  cases hBody : renderBody n a with
  | error fault => exact Task.paired_throw fault
  | ok body => exact Task.paired_log (hAdmits.printed ctx body hBody)

theorem pairs_webhook (hAgrees : a.Agrees b) (hAdmits : Admits P n a) (timeout : Json) :
    (webhook transport timeout).Pairs P n a b := by
  refine .untargeted fun ctx => ?_
  rw [hAgrees.webhookRequest_eq]
  refine (Task.paired_ofExcept _).bind fun desk request hRequest => ?_
  rw [Task.start_ofExcept] at hRequest
  refine (Task.paired_deliver (hAdmits.posted timeout ctx request hRequest)).bind fun _ _ _ => ?_
  refine (Task.paired_ask _).bind fun _ answer _ => ?_
  split
  · exact Task.paired_pure _
  · exact Task.paired_throw _

/-- The calls that are made are among those that were to be made. -/
theorem converse_subset (transport : Transport β) (calls : List MailCall) (outside : β) :
    (converse transport calls outside).1.1 ⊆ calls := by
  induction calls generalizing outside with
  | nil => exact List.Subset.refl []
  | cons call rest ih =>
    unfold converse
    rcases transport.mail call outside with ⟨fault | _, mid⟩
    · simp
    · exact List.cons_subset_cons call (ih mid)

theorem eq_of_send_mem_calls {account : MailAccount} {message other : MailMessage}
    (h : .send other ∈ account.calls message) : other = message := by
  unfold MailAccount.calls at h
  dsimp only at h
  split at h <;> split at h <;> simpa using h

theorem eq_of_send_mem_session {account : MailAccount} {host : String} {message other : MailMessage}
    {outside : β} (h : .send other ∈ (holdSession transport account host message outside).1.calls) :
    other = message := by
  unfold holdSession at h
  dsimp only at h
  rcases hOpened : transport.mail (.connect host account.port) outside with ⟨fault | _, mid⟩
  · rw [hOpened] at h
    simp at h
  · rw [hOpened] at h
    have hMade : MailCall.send other ∈ (converse transport (account.calls message) mid).1.1 := by
      simpa using h
    exact eq_of_send_mem_calls (converse_subset transport _ mid hMade)

theorem paired_sendMail (hAgrees : a.Agrees b) (hAdmits : Admits P n a) (account : MailAccount)
    (ctx : Context) (addresses : List String) :
    Task.Paired P (sendMail transport account ctx n a addresses)
      (sendMail transport account ctx n b addresses) := by
  unfold sendMail
  rw [hAgrees.composeMail_eq]
  refine (Task.paired_ofExcept _).bind ?_
  rintro desk ⟨host, message⟩ hComposed
  rw [Task.start_ofExcept] at hComposed
  refine (Task.paired_ask _).bind fun desk session hSession => ?_
  rw [Task.start_ask, Except.ok.injEq] at hSession
  refine (Task.paired_deliver (hAdmits.sent account ctx addresses host message hComposed _ _ ?_
    ?_)).bind fun _ _ _ => ?_
  · intro other hOther
    rw [← hSession] at hOther
    exact eq_of_send_mem_session hOther
  · intro other hOther
    split at hOther
    · exact (Option.some.inj hOther).symm
    · cases hOther
  · split
    · exact Task.paired_log (hAdmits.mailed ctx _)
    · exact Task.paired_throw _

theorem pairs_mail (hAgrees : a.Agrees b) (hAdmits : Admits P n a) (account : MailAccount) :
    (mail transport account).Pairs P n a b where
  inform ctx := by
    unfold mail
    dsimp only
    rw [(hAgrees _).destinations_eq]
    exact (Task.paired_ofPublish _).bind fun _ addresses _ =>
      paired_sendMail hAgrees hAdmits account ctx addresses
  informTargets ctx targets := by
    unfold mail
    dsimp only
    rw [(hAgrees _).destinations_eq]
    exact (Task.paired_ofPublish _).bind fun _ addresses _ =>
      paired_sendMail hAgrees hAdmits account ctx _

end Publisher

namespace Registry
variable {P : Pairing} {registry : Registry β} {settings : Settings} {n : Notification}
  {a b : Config}

theorem paired_resolve (registry : Registry β) (settings : Settings)
    (descriptor : Option Descriptor) : Task.Paired P (registry.resolve settings descriptor)
      (registry.resolve settings descriptor) := by
  unfold Registry.resolve
  split
  · exact Task.paired_throw _
  · refine (Task.paired_ask _).bind fun _ answer _ => ?_
    split
    · exact Task.paired_throw _
    · split
      · exact Task.paired_pure _
      · exact Task.paired_throw _

/-- Whatever publisher the descriptor resolves to pairs the two configurations. -/
def Pairs (P : Pairing) (registry : Registry β) (settings : Settings)
    (descriptor : Option Descriptor) (n : Notification) (a b : Config) : Prop :=
  ∀ desk registration publisher,
    ((registry.resolve settings descriptor).start desk).1 = .ok (registration, publisher) →
    publisher.Pairs P n a b

theorem Pairs.dispatch {descriptor : Option Descriptor}
    (h : registry.Pairs P settings descriptor n a b) {logger : String}
    (hLogger : logger ≠ Publisher.logger) (ctx : Context) (targets : List Target) :
    Task.Paired P (registry.dispatch settings logger ctx n descriptor a targets)
      (registry.dispatch settings logger ctx n descriptor b targets) := by
  refine (paired_resolve registry settings descriptor).bind ?_
  rintro desk ⟨registration, publisher⟩ hResolved
  have hPublisher := h desk registration publisher hResolved
  dsimp only
  split
  · exact (Task.paired_log (P.free _ hLogger)).bind fun _ _ _ =>
      hPublisher.informTargets ctx targets
  · exact (Task.paired_log (P.free _ hLogger)).bind fun _ _ _ => hPublisher.inform ctx

/-- Without a descriptor there is no publisher. -/
theorem pairs_none : registry.Pairs P settings none n a b := by
  intro desk registration publisher hResolved
  obtain ⟨_, hNone, _⟩ := registrationOf_eq_ok (resolve_eq_ok hResolved).1
  cases hNone

/-- The standard publishers pair configurations that agree. -/
theorem pairs_of_find?_standard {transport : Transport β} (hAgrees : a.Agrees b)
    (hAdmits : Publisher.Admits P n a) {key : Option String} {registration : Registration β}
    (hKey : (standard transport).find? key = some registration) {outside : β}
    {publisher : Publisher β}
    (hMade : (registration.construct settings outside).1 = .ok (.publisher publisher)) :
    publisher.Pairs P n a b := by
  rcases standard_find? hKey with ⟨_, rfl⟩ | ⟨_, rfl⟩ | ⟨_, rfl⟩
  · cases hMade
    exact Publisher.pairs_console hAgrees hAdmits
  · cases hMade
    exact Publisher.pairs_webhook hAgrees hAdmits _
  · cases hMade
    exact Publisher.pairs_mail hAgrees hAdmits _

theorem pairs_standard {transport : Transport β} (hAgrees : a.Agrees b)
    (hAdmits : Publisher.Admits P n a) (settings : Settings) (descriptor : Option Descriptor) :
    (standard transport).Pairs P settings descriptor n a b := by
  intro desk registration publisher hResolved
  obtain ⟨hFound, hMade⟩ := resolve_eq_ok hResolved
  obtain ⟨d, _, hKey⟩ := registrationOf_eq_ok hFound
  exact pairs_of_find?_standard hAgrees hAdmits hKey hMade

end Registry

namespace Executor
variable {P : Pairing} {executor : Executor β} {n : Notification} {a b : Config}

theorem paired_deliver {descriptor : Option Descriptor}
    (h : ∀ d, descriptor = some d → executor.registry.Pairs P executor.settings descriptor n
      (a.merged d) (b.merged d)) (ctx : Context) (targets : List Target) :
    Task.Paired P (executor.deliver ctx n descriptor a targets)
      (executor.deliver ctx n descriptor b targets) := by
  have hLogger : logger ≠ Publisher.logger := by decide
  cases descriptor with
  | none =>
    have hNone : executor.registry.Pairs P executor.settings none n a b := Registry.pairs_none
    exact hNone.dispatch hLogger ctx targets
  | some d =>
    have hDispatch := (h d rfl).dispatch hLogger ctx targets
    unfold deliver
    dsimp only
    split
    · rename_i own hOwn
      refine Task.Paired.notice_left (Config.isNotice_of_overriddenWarning? hOwn) ?_
      split
      · rename_i other hOther
        exact Task.Paired.notice_right (Config.isNotice_of_overriddenWarning? hOther) hDispatch
      · exact hDispatch
    · split
      · rename_i other hOther
        exact Task.Paired.notice_right (Config.isNotice_of_overriddenWarning? hOther) hDispatch
      · exact hDispatch

end Executor

/-- Deliveries agree, and anything may be written. -/
def Pairing.loose : Pairing := ⟨Delivery.Agrees, fun _ => True, fun _ _ => trivial⟩

/-- The publisher reads a configuration as named values, whatever their order. -/
def Publisher.Fair (publisher : Publisher β) : Prop :=
  ∀ n a b, a.Agrees b → publisher.Pairs .loose n a b

theorem Publisher.admits_loose (n : Notification) (config : Config) : Admits .loose n config where
  printed _ _ _ := trivial
  posted _ _ _ _ := .same _
  sent _ _ _ _ _ _ _ _ _ _ := .same _
  mailed _ _ := trivial

namespace Registry
variable {registry : Registry β} {settings : Settings}

/-- Every publisher that the registry constructs is fair. -/
def Fair (registry : Registry β) (settings : Settings) : Prop :=
  ∀ key registration, registry.find? key = some registration → ∀ outside publisher,
    (registration.construct settings outside).1 = .ok (.publisher publisher) → publisher.Fair

theorem Fair.pairs (h : registry.Fair settings) (descriptor : Option Descriptor) (n : Notification)
    {a b : Config} (hAgrees : a.Agrees b) : registry.Pairs .loose settings descriptor n a b := by
  intro desk registration publisher hResolved
  obtain ⟨hFound, hMade⟩ := resolve_eq_ok hResolved
  obtain ⟨d, _, hKey⟩ := registrationOf_eq_ok hFound
  exact h _ _ hKey _ _ hMade n a b hAgrees

theorem fair_standard (transport : Transport β) (settings : Settings) :
    (standard transport).Fair settings :=
  fun _ _ hKey _ _ hMade n a _ hAgrees =>
    pairs_of_find?_standard hAgrees (Publisher.admits_loose n a) hKey hMade

end Registry

/-- A mail shows its body alone, or beside the content of the notification when the media type of
the descriptor is that of HTML. -/
inductive MailContent.Shows (d : Descriptor) (n : Notification) (body : String) : MailContent → Prop
  | plain (hType : Text.lower (Config.orElse "text/plain" d.mimeType) ≠ "text/html") :
    Shows d n body (.plain body)
  | alternative (hType : Text.lower (Config.orElse "text/plain" d.mimeType) = "text/html") :
    Shows d n body (.alternative n.content body)

/-- Every body in the delivery is that of the notification in the template of the descriptor, and a
request says under which media type: that of the descriptor, or JSON's without a template. -/
inductive Delivery.RenderedFrom (d : Descriptor) (n : Notification) : Delivery → Prop
  | http (request : HttpRequest) (hBody : renderBody n d.settled = .ok request.body)
    (hHeader : Fields.get? request.headers "Content-Type" =
      some (if Text.allBlank (d.template.getD "") then "application/json"
        else Config.orElse "text/plain" d.mimeType)) :
    RenderedFrom d n (.http request)
  | mail (calls : List MailCall) (accepted : Option MailMessage) (body : String)
    (hBody : renderBody n d.settled = .ok body)
    (hSent : ∀ message, .send message ∈ calls → message.content.Shows d n body)
    (hAccepted : ∀ message, accepted = some message → message.content.Shows d n body) :
    RenderedFrom d n (.mail calls accepted)

/-- A line of a publisher shows a body in the template of the descriptor, or none. -/
def Entry.RenderedFrom (d : Descriptor) (about : Notification → Prop) (entry : Entry) : Prop :=
  entry.logger = Publisher.logger →
    (∃ ctx n body, about n ∧ renderBody n d.settled = .ok body ∧
      entry = Publisher.consoleEntry ctx n body) ∨
    ∃ ctx recipients, entry = Publisher.mailedEntry ctx recipients

/-- The deliveries are the same, and all that is delivered or written is rendered from the
descriptor. -/
def Pairing.rendered (d : Descriptor) (about : Notification → Prop) : Pairing where
  delivers delivery other := other = delivery ∧ ∃ n, about n ∧ delivery.RenderedFrom d n
  writes entry := entry.RenderedFrom d about
  free _ hOther hOwn := (hOther hOwn).elim

theorem Pairing.eq_of_rendered {d : Descriptor} {about : Notification → Prop}
    {made again : List Delivery} (h : List.Forall₂ (Pairing.rendered d about).delivers made again) :
    again = made ∧ ∀ delivery ∈ made, ∃ n, about n ∧ delivery.RenderedFrom d n := by
  induction h with
  | nil => exact ⟨rfl, List.forall_mem_nil _⟩
  | cons hOne _ ih =>
    obtain ⟨rfl, hRendered⟩ := hOne
    obtain ⟨rfl, hRest⟩ := ih
    exact ⟨rfl, List.forall_mem_cons.mpr ⟨hRendered, hRest⟩⟩

namespace Publisher
variable {d : Descriptor} {about : Notification → Prop} {n : Notification}

theorem content_of_composeMail {account : MailAccount} {ctx : Context} {config : Config}
    {addresses : List String} {host : String} {message : MailMessage}
    (h : composeMail account ctx n config addresses = .ok (host, message)) :
    mailContent n config = .ok message.content := (composed_of_composeMail h).content

theorem shows_of_mailContent {config : Config} {content : MailContent}
    (h : mailContent n (config.merged d) = .ok content) :
    ∃ body, renderBody n d.settled = .ok body ∧ content.Shows d n body := by
  rw [config.mailContent_settled] at h
  cases hBody : renderBody n d.settled with
  | error fault =>
    rw [hBody] at h
    cases h
  | ok body =>
    rw [hBody] at h
    obtain rfl := Except.ok.inj h
    refine ⟨body, rfl, ?_⟩
    split
    · exact .alternative ‹_›
    · exact .plain ‹_›

/-- Under a configuration that was merged with a descriptor the standard publishers render from that
descriptor. -/
theorem admits_rendered (hAbout : about n) (config : Config) :
    Admits (.rendered d about) n (config.merged d) where
  printed ctx body hBody _ :=
    .inl ⟨ctx, n, body, hAbout, config.renderBody_settled d n ▸ hBody, rfl⟩
  posted timeout ctx request hRequest := by
    obtain ⟨_, hBody, type, token, hType, _, hHeaders⟩ := requested_of_webhookRequest hRequest
    rw [config.renderBody_settled] at hBody
    rw [config.contentType_settled, Except.ok.injEq] at hType
    exact ⟨rfl, n, hAbout, .http request hBody (by rw [hHeaders, hType]; rfl)⟩
  sent account ctx addresses host message hComposed calls accepted hSent hAccepted := by
    obtain ⟨body, hBody, hShows⟩ := shows_of_mailContent (content_of_composeMail hComposed)
    refine ⟨rfl, n, hAbout, .mail calls accepted body hBody ?_ ?_⟩
    · intro other hOther
      rw [hSent other hOther]
      exact hShows
    · intro other hOther
      rw [hAccepted other hOther]
      exact hShows
  mailed ctx recipients _ := .inr ⟨ctx, recipients, rfl⟩

end Publisher

end EventDigest

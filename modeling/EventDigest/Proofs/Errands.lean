import EventDigest.Proofs.Answer
import EventDigest.Proofs.Returns

/-! # Errands of the standard publishers

What a task did is read off the law of each way of building one, as for runs. A notification that
is to be delivered is an errand; with the standard publishers it ends in one of a few ways: no
publisher is found, the console prints, the request or the mail cannot be made, or the transport is
asked and its answer decides.
-/
set_option autoImplicit false
namespace EventDigest
variable {β α γ : Type}

namespace Task

def start (task : Task β α) (desk : Desk β) : Except Fault α × Desk β := task.run.run desk

theorem start_bind (task : Task β α) (next : α → Task β γ) (desk : Desk β) :
    (task >>= next).start desk = match task.start desk with
      | (.ok a, mid) => (next a).start mid
      | (.error fault, mid) => (.error fault, mid) := by
  unfold start ExceptT.run StateT.run
  simp only [bind, ExceptT.bind, ExceptT.mk, StateT.bind, ExceptT.bindCont]
  cases task desk with
  | mk result mid => cases result <;> rfl

theorem start_pure (a : α) (desk : Desk β) : (pure a : Task β α).start desk = (.ok a, desk) := rfl

theorem start_throw (fault : Fault) (desk : Desk β) :
    (throw fault : Task β α).start desk = (.error fault, desk) := rfl

theorem start_log (entry : Entry) (desk : Desk β) :
    (log entry).start desk = (.ok (), { desk with journal := desk.journal ++ [entry] }) := rfl

theorem start_deliver (delivery : Delivery) (desk : Desk β) : (deliver delivery).start desk =
    (.ok (), { desk with deliveries := desk.deliveries ++ [delivery] }) := rfl

theorem start_ask (question : β → α × β) (desk : Desk β) : (ask question).start desk =
    (.ok (question desk.outside).1, { desk with outside := (question desk.outside).2 }) := rfl

theorem start_ofExcept (answer : Except Fault α) (desk : Desk β) :
    (ofExcept answer).start desk = (answer, desk) := by
  cases answer with
  | error fault => rfl
  | ok a => rfl

theorem start_ofPublish (answer : Except PublishFault α) (desk : Desk β) :
    (ofPublish answer).start desk = (answer.mapError .publish, desk) := by
  cases answer with
  | error fault => rfl
  | ok a => rfl

/-- Writing to the journal first changes nothing but the journal. -/
theorem start_log_bind (entry : Entry) (next : Task β α) (desk : Desk β) :
    ∃ mid, desk.Idle mid ∧ (log entry >>= fun _ => next).start desk = next.start mid :=
  ⟨{ desk with journal := desk.journal ++ [entry] }, ⟨rfl, rfl⟩, by rw [start_bind, start_log]⟩

end Task

namespace Run

theorem returns_attempt_iff {task : Task β α} {answer : Except Fault α}
    {world after : World β} : Returns (attempt task) world answer after ↔
      (task.start world.desk).1 = answer ∧
        { world with desk := (task.start world.desk).2 } = after := by
  change ((Except.ok _ : Except Fault (Except Fault α)), _) = (.ok answer, after) ↔ _
  rw [Prod.mk.injEq, Except.ok.injEq]
  rfl

end Run

/-- The descriptor leads to the publisher that is registered under a key. -/
structure Descriptor.LeadsTo (descriptor : Descriptor) (key : String) : Prop where
  scheduled : descriptor.scheduled = true
  normalKey_eq : Registry.normalKey (descriptor.key.getD "") = key

theorem Descriptor.LeadsTo.eq {descriptor : Descriptor} {key other : String}
    (h : descriptor.LeadsTo key) (hOther : descriptor.LeadsTo other) : key = other :=
  h.normalKey_eq.symm.trans hOther.normalKey_eq

namespace Registry

theorem standard_eq (transport : Transport β) : standard transport =
    [("console", ⟨"console", false, constructConsole⟩),
      ("webhook", ⟨"webhook", false, constructWebhook transport⟩),
      ("email", ⟨"email", true, constructMail transport⟩)] := rfl

theorem standard_find? {transport : Transport β} {key : Option String}
    {registration : Registration β} (h : (standard transport).find? key = some registration) :
    (normalKey (key.getD "") = "console" ∧ registration = ⟨"console", false, constructConsole⟩) ∨
      (normalKey (key.getD "") = "webhook" ∧
        registration = ⟨"webhook", false, constructWebhook transport⟩) ∨
      (normalKey (key.getD "") = "email" ∧
        registration = ⟨"email", true, constructMail transport⟩) := by
  have hNames : (Fields.names (standard transport)).Nodup := by
    change ["console", "webhook", "email"].Nodup
    decide
  have hMem := (Fields.get?_eq_some_iff hNames _ _).mp h
  simpa only [standard_eq, List.mem_cons, Prod.mk.injEq, List.not_mem_nil, or_false] using hMem

/-- How a descriptor, if there is one, is resolved by the standard registry. -/
inductive Resolves (transport : Transport β) (descriptor : Option Descriptor) :
    Except ResolutionFault (Registration β) → Prop
  | refused (fault : ResolutionFault) : Resolves transport descriptor (.error fault)
  | console (d : Descriptor) (hDescriptor : descriptor = some d) (hLeads : d.LeadsTo "console") :
    Resolves transport descriptor (.ok ⟨"console", false, constructConsole⟩)
  | webhook (d : Descriptor) (hDescriptor : descriptor = some d) (hLeads : d.LeadsTo "webhook") :
    Resolves transport descriptor (.ok ⟨"webhook", false, constructWebhook transport⟩)
  | mail (d : Descriptor) (hDescriptor : descriptor = some d) (hLeads : d.LeadsTo "email") :
    Resolves transport descriptor (.ok ⟨"email", true, constructMail transport⟩)

theorem registrationOf_standard (transport : Transport β) (descriptor : Option Descriptor) :
    Resolves transport descriptor ((standard transport).registrationOf descriptor) := by
  unfold registrationOf
  cases descriptor with
  | none => exact .refused _
  | some d =>
    dsimp only
    split
    · exact .refused _
    · rename_i hScheduled
      have hScheduled : d.scheduled = true := by simpa using hScheduled
      split
      · exact .refused _
      · rename_i registration hFound
        rcases standard_find? hFound with ⟨hKey, rfl⟩ | ⟨hKey, rfl⟩ | ⟨hKey, rfl⟩
        · exact .console d rfl ⟨hScheduled, hKey⟩
        · exact .webhook d rfl ⟨hScheduled, hKey⟩
        · exact .mail d rfl ⟨hScheduled, hKey⟩

end Registry

namespace Config

theorem get?_merged_of_ne (d : Descriptor) (config : Config) {key : String}
    (hTemplate : key ≠ Key.template) (hMimeType : key ≠ Key.mimeType) :
    Fields.get? (config.merged d) key = Fields.get? config key := by
  rw [merged, Fields.get?_put_of_ne _ _ hTemplate, Fields.get?_put_of_ne _ _ hMimeType]

theorem textField_merged (d : Descriptor) (config : Config) {key : String}
    (hTemplate : key ≠ Key.template) (hMimeType : key ≠ Key.mimeType) :
    (config.merged d).textField key = config.textField key := by
  rw [textField, textField, get?_merged_of_ne d config hTemplate hMimeType]

theorem destinations_merged (d : Descriptor) (config : Config) :
    (config.merged d).destinations = config.destinations := by
  rw [destinations, destinations, get?_merged_of_ne d config (by decide) (by decide)]

theorem textOr_eq_orElse {config : Config} {key text : String} (fallback operation : String)
    (h : Fields.get? config key = some (.text text)) :
    textOr fallback operation config key = .ok (orElse fallback (some text)) := by
  rw [textOr, h, Option.getD_some, orElse, Option.getD_some]
  by_cases hEmpty : text = ""
  · subst hEmpty
    rfl
  · have hGiven : (Json.text text).isGiven = true := by simpa [Json.isGiven] using hEmpty
    rw [hGiven, if_neg hEmpty]
    rfl

/-- Whatever the document says, template and media type of a delivery are texts. -/
theorem textOr_merged (d : Descriptor) (config : Config) (fallback operation : String)
    {key : String} (hKey : key = Key.template ∨ key = Key.mimeType) :
    ∃ s, textOr fallback operation (config.merged d) key = .ok s := by
  have hText : ∃ s, Fields.get? (config.merged d) key = some (.text s) := by
    rcases hKey with rfl | rfl
    · exact ⟨_, Fields.get?_put_self ..⟩
    · refine ⟨_, (Fields.get?_put_of_ne _ _ (by decide)).trans (Fields.get?_put_self ..)⟩
  obtain ⟨s, hText⟩ := hText
  exact ⟨_, textOr_eq_orElse fallback operation hText⟩

theorem templateOf_merged (d : Descriptor) (config : Config) :
    ∃ template?, templateOf (config.merged d) = .ok template? := by
  obtain ⟨template, hTemplate⟩ := config.textOr_merged d "" "strip" (.inl rfl)
  exact ⟨_, Answer.bind_eq_ok_iff.mpr ⟨template, hTemplate, rfl⟩⟩

theorem renderBody_merged (d : Descriptor) (config : Config) (n : Notification) :
    ∃ body, renderBody n (config.merged d) = .ok body := by
  obtain ⟨template?, hTemplate⟩ := config.templateOf_merged d
  obtain ⟨mimeType, hMimeType⟩ := config.textOr_merged d "" "split" (.inr rfl)
  cases template? with
  | none => exact ⟨_, Answer.bind_eq_ok_iff.mpr ⟨_, hTemplate, rfl⟩⟩
  | some template =>
    exact ⟨_, Answer.bind_eq_ok_iff.mpr
      ⟨_, hTemplate, Answer.bind_eq_ok_iff.mpr ⟨mimeType, hMimeType, rfl⟩⟩⟩

theorem contentType_merged (d : Descriptor) (config : Config) :
    ∃ contentType, Publisher.contentType (config.merged d) = .ok contentType := by
  obtain ⟨template?, hTemplate⟩ := config.templateOf_merged d
  obtain ⟨mimeType, hMimeType⟩ := config.textOr_merged d "application/json" "split" (.inr rfl)
  cases template? with
  | none => exact ⟨_, Answer.bind_eq_ok_iff.mpr ⟨_, hTemplate, rfl⟩⟩
  | some template => exact ⟨_, Answer.bind_eq_ok_iff.mpr ⟨_, hTemplate, hMimeType⟩⟩

theorem mailContent_merged (d : Descriptor) (config : Config) (n : Notification) :
    ∃ content, Publisher.mailContent n (config.merged d) = .ok content := by
  obtain ⟨body, hBody⟩ := config.renderBody_merged d n
  obtain ⟨mimeType, hMimeType⟩ := config.textOr_merged d "" "lower" (.inr rfl)
  exact ⟨_, Answer.bind_eq_ok_iff.mpr
    ⟨body, hBody, Answer.bind_eq_ok_iff.mpr ⟨mimeType, hMimeType, rfl⟩⟩⟩

end Config

namespace Publisher
variable {n : Notification} {config : Config}

/-- What a request is made of. -/
structure Requested (n : Notification) (config : Config) (request : HttpRequest) : Prop where
  url : config.textField Key.destination = .ok request.url
  body : renderBody n config = .ok request.body
  headers : ∃ type token, contentType config = .ok type ∧ config.textField Key.token = .ok token ∧
    request.headers = ("Content-Type", type) :: authorization token

theorem requested_of_webhookRequest {timeout : Json} {ctx : Context} {request : HttpRequest}
    (h : webhookRequest timeout ctx n config = .ok request) : Requested n config request := by
  obtain ⟨url, hUrl, h⟩ := Answer.bind_eq_ok_iff.mp h
  dsimp only at h
  split at h
  · cases h
  · obtain ⟨type, hType, h⟩ := Answer.bind_eq_ok_iff.mp h
    obtain ⟨body, hBody, h⟩ := Answer.bind_eq_ok_iff.mp h
    obtain ⟨token, hToken, h⟩ := Answer.bind_eq_ok_iff.mp h
    obtain rfl := Answer.pure_eq_ok_iff.mp h
    rw [Answer.mapError_eq_ok_iff] at hUrl hToken
    exact ⟨hUrl, hBody, type, token, hType, hToken, rfl⟩

/-- What a mail for some addresses is made of. -/
structure Composed (account : MailAccount) (n : Notification) (config : Config)
    (addresses : List String) (host : String) (message : MailMessage) : Prop where
  addressed : recipientsOf addresses ≠ []
  host : account.host = some host
  subject : ∃ subjectStart, config.textField Key.subjectPrefix = .ok subjectStart ∧
    headerOf (subjectOf subjectStart n.title) = .ok message.subject
  sender : addressHeaderOf account.sender = .ok message.sender
  recipientLine :
    addressHeaderOf (String.intercalate ", " (recipientsOf addresses)) = .ok message.recipientLine
  content : mailContent n config = .ok message.content

theorem composed_of_composeMail {account : MailAccount} {ctx : Context} {addresses : List String}
    {host : String} {message : MailMessage}
    (h : composeMail account ctx n config addresses = .ok (host, message)) :
    Composed account n config addresses host message := by
  unfold composeMail at h
  dsimp only at h
  split at h
  · cases h
  · rename_i hSome
    split at h
    · cases h
    · rename_i found hFound
      obtain ⟨subjectStart, hStart, h⟩ := Answer.bind_eq_ok_iff.mp h
      obtain ⟨subject, hSubject, h⟩ := Answer.bind_eq_ok_iff.mp h
      obtain ⟨sender, hSender, h⟩ := Answer.bind_eq_ok_iff.mp h
      obtain ⟨recipientLine, hLine, h⟩ := Answer.bind_eq_ok_iff.mp h
      obtain ⟨content, hContent, h⟩ := Answer.bind_eq_ok_iff.mp h
      obtain ⟨rfl, rfl⟩ := Prod.mk.inj (Answer.pure_eq_ok_iff.mp h)
      rw [Answer.mapError_eq_ok_iff] at hStart
      rw [List.isEmpty_iff] at hSome
      exact ⟨hSome, hFound, ⟨subjectStart, hStart, hSubject⟩, hSender, hLine, hContent⟩

end Publisher

def Answer.ofFault? {ε : Type} : Option ε → Except ε Unit
  | none => .ok ()
  | some fault => .error fault

/-- The fault that a session passes on. -/
def Publisher.MailSession.reported? (session : MailSession) : Option Fault :=
  session.fault.map fun fault =>
    if fault.isMailFault then .publish (.mailFailed fault.message) else fault

/-- A notification that is to be delivered, with everything that a publisher is told about it. -/
structure Errand where
  context : Context
  notification : Notification
  descriptor : Option Descriptor
  config : Config
  targets : List Target

namespace Errand

/-- The request that a web address gets. -/
def request (errand : Errand) (settings : Settings) (d : Descriptor) : Except Fault HttpRequest :=
  Publisher.webhookRequest settings.webhookTimeout errand.context errand.notification
    (errand.config.merged d)

/-- The mail for the given destinations and for the targets. -/
def mail (errand : Errand) (settings : Settings) (d : Descriptor) (addresses : List String) :
    Except Fault (String × MailMessage) :=
  Publisher.composeMail (.ofSettings settings) errand.context errand.notification
    (errand.config.merged d) (addresses ++ errand.targets.flatMap (·.addresses))

/-- How an errand for a standard publisher can end. -/
inductive Ends (errand : Errand) (transport : Transport β) (settings : Settings)
    (desk after : Desk β) : Except Fault Unit → Prop
  | unresolved (fault : ResolutionFault) (hIdle : desk.Idle after) :
    Ends errand transport settings desk after (.error (.resolution fault))
  | printed (d : Descriptor) (hDescriptor : errand.descriptor = some d)
    (hLeads : d.LeadsTo "console") (hIdle : desk.Idle after) :
    Ends errand transport settings desk after (.ok ())
  | unposted (d : Descriptor) (fault : Fault) (hDescriptor : errand.descriptor = some d)
    (hLeads : d.LeadsTo "webhook") (hRequest : errand.request settings d = .error fault)
    (hIdle : desk.Idle after) :
    Ends errand transport settings desk after (.error fault)
  | posted (d : Descriptor) (request : HttpRequest) (answer : Except Fault HttpResponse)
    (verdict : Except Fault Unit) (hDescriptor : errand.descriptor = some d)
    (hLeads : d.LeadsTo "webhook") (hRequest : errand.request settings d = .ok request)
    (hPost : transport.post request desk.outside = (answer, after.outside))
    (hDeliveries : after.deliveries = desk.deliveries ++ [.http request])
    (hVerdict : verdict = Answer.ofFault? (Publisher.requestFault? request.url answer)) :
    Ends errand transport settings desk after verdict
  | unaddressed (d : Descriptor) (reason : PublishFault) (hDescriptor : errand.descriptor = some d)
    (hLeads : d.LeadsTo "email") (hDestinations : errand.config.destinations = .error reason)
    (hIdle : desk.Idle after) :
    Ends errand transport settings desk after (.error (.publish reason))
  | unmailed (d : Descriptor) (addresses : List String) (fault : Fault)
    (hDescriptor : errand.descriptor = some d) (hLeads : d.LeadsTo "email")
    (hDestinations : errand.config.destinations = .ok addresses)
    (hMail : errand.mail settings d addresses = .error fault) (hIdle : desk.Idle after) :
    Ends errand transport settings desk after (.error fault)
  | mailed (d : Descriptor) (addresses : List String) (host : String) (message : MailMessage)
    (session : Publisher.MailSession) (verdict : Except Fault Unit)
    (hDescriptor : errand.descriptor = some d) (hLeads : d.LeadsTo "email")
    (hDestinations : errand.config.destinations = .ok addresses)
    (hMail : errand.mail settings d addresses = .ok (host, message))
    (hSession : Publisher.holdSession transport (.ofSettings settings) host message desk.outside =
      (session, after.outside))
    (hDeliveries : after.deliveries = desk.deliveries ++
      [.mail session.calls (if session.accepted then some message else none)])
    (hVerdict : verdict = Answer.ofFault? session.reported?) :
    Ends errand transport settings desk after verdict

variable {errand : Errand} {transport : Transport β} {settings : Settings}

theorem Ends.of_idle {desk mid after : Desk β} {verdict : Except Fault Unit}
    (hIdle : desk.Idle mid) (h : errand.Ends transport settings mid after verdict) :
    errand.Ends transport settings desk after verdict := by
  cases h with
  | unresolved fault hRest => exact .unresolved fault (hIdle.trans hRest)
  | printed d hDescriptor hLeads hRest => exact .printed d hDescriptor hLeads (hIdle.trans hRest)
  | unposted d fault hDescriptor hLeads hRequest hRest =>
    exact .unposted d fault hDescriptor hLeads hRequest (hIdle.trans hRest)
  | posted d request answer _ hDescriptor hLeads hRequest hPost hDeliveries hVerdict =>
    exact .posted d request answer _ hDescriptor hLeads hRequest (hIdle.outside ▸ hPost)
      (hIdle.deliveries ▸ hDeliveries) hVerdict
  | unaddressed d reason hDescriptor hLeads hDestinations hRest =>
    exact .unaddressed d reason hDescriptor hLeads hDestinations (hIdle.trans hRest)
  | unmailed d addresses fault hDescriptor hLeads hDestinations hMail hRest =>
    exact .unmailed d addresses fault hDescriptor hLeads hDestinations hMail (hIdle.trans hRest)
  | mailed d addresses host message session _ hDescriptor hLeads hDestinations hMail hSession
      hDeliveries hVerdict =>
    exact .mailed d addresses host message session _ hDescriptor hLeads hDestinations hMail
      (hIdle.outside ▸ hSession) (hIdle.deliveries ▸ hDeliveries) hVerdict

/-- The task carries out the errand. -/
def DoneBy (errand : Errand) (transport : Transport β) (settings : Settings)
    (task : Task β Unit) : Prop :=
  ∀ desk, errand.Ends transport settings desk (task.start desk).2 (task.start desk).1

theorem DoneBy.of_start {task rest : Task β Unit} (h : errand.DoneBy transport settings rest)
    (hStart : ∀ desk, ∃ mid, desk.Idle mid ∧ task.start desk = rest.start mid) :
    errand.DoneBy transport settings task := by
  intro desk
  obtain ⟨mid, hIdle, hSame⟩ := hStart desk
  rw [hSame]
  exact (h mid).of_idle hIdle

variable {d : Descriptor}

theorem doneBy_console (hDescriptor : errand.descriptor = some d) (hLeads : d.LeadsTo "console") :
    errand.DoneBy transport settings
      (Publisher.console.inform errand.context errand.notification (errand.config.merged d)) := by
  intro desk
  obtain ⟨body, hBody⟩ := errand.config.renderBody_merged d errand.notification
  simp only [Publisher.console, Publisher.untargeted, Task.start_bind, Task.start_ofExcept, hBody,
    Task.start_log]
  exact .printed d hDescriptor hLeads ⟨rfl, rfl⟩

theorem doneBy_webhook (hDescriptor : errand.descriptor = some d) (hLeads : d.LeadsTo "webhook") :
    errand.DoneBy transport settings ((Publisher.webhook transport settings.webhookTimeout).inform
      errand.context errand.notification (errand.config.merged d)) := by
  intro desk
  simp only [Publisher.webhook, Publisher.untargeted, Task.start_bind, Task.start_ofExcept]
  cases hRequest : errand.request settings d with
  | error fault =>
    rw [request] at hRequest
    rw [hRequest]
    exact .unposted d fault hDescriptor hLeads hRequest (.refl desk)
  | ok request =>
    rw [Errand.request] at hRequest
    simp only [hRequest, Task.start_deliver, Task.start_ask]
    rcases hPost : transport.post request desk.outside with ⟨answer, outside⟩
    cases hFault : Publisher.requestFault? request.url answer with
    | none =>
      exact .posted d request answer _ hDescriptor hLeads hRequest hPost rfl (by rw [hFault]; rfl)
    | some fault =>
      exact .posted d request answer _ hDescriptor hLeads hRequest hPost rfl (by rw [hFault]; rfl)

theorem doneBy_sendMail (hDescriptor : errand.descriptor = some d) (hLeads : d.LeadsTo "email")
    {addresses : List String} (hDestinations : errand.config.destinations = .ok addresses) :
    errand.DoneBy transport settings (Publisher.sendMail transport (.ofSettings settings)
      errand.context errand.notification (errand.config.merged d)
      (addresses ++ errand.targets.flatMap (·.addresses))) := by
  intro desk
  simp only [Publisher.sendMail, Task.start_bind, Task.start_ofExcept]
  cases hMail : errand.mail settings d addresses with
  | error fault =>
    rw [mail] at hMail
    rw [hMail]
    exact .unmailed d addresses fault hDescriptor hLeads hDestinations hMail (.refl desk)
  | ok composed =>
    obtain ⟨host, message⟩ := composed
    rw [mail] at hMail
    simp only [hMail, Task.start_deliver, Task.start_ask]
    rcases hSession : Publisher.holdSession transport (.ofSettings settings) host message
      desk.outside with ⟨session, outside⟩
    cases hFault : session.fault with
    | none =>
      exact .mailed d addresses host message session _ hDescriptor hLeads hDestinations hMail
        hSession rfl (by rw [Publisher.MailSession.reported?, hFault]; rfl)
    | some fault =>
      exact .mailed d addresses host message session _ hDescriptor hLeads hDestinations hMail
        hSession rfl (by rw [Publisher.MailSession.reported?, hFault]; rfl)

theorem doneBy_mail (hDescriptor : errand.descriptor = some d) (hLeads : d.LeadsTo "email") :
    let publisher := Publisher.mail transport (.ofSettings settings)
    errand.DoneBy transport settings
      (if !errand.targets.isEmpty then publisher.informTargets errand.context errand.notification
          (errand.config.merged d) errand.targets
        else publisher.inform errand.context errand.notification (errand.config.merged d)) := by
  have hSame := errand.config.destinations_merged d
  cases hDestinations : errand.config.destinations with
  | error reason =>
    intro publisher desk
    rw [hDestinations] at hSame
    split
    · simp only [publisher, Publisher.mail, hSame, Task.start_bind, Task.start_ofPublish]
      exact .unaddressed d reason hDescriptor hLeads hDestinations (.refl desk)
    · simp only [publisher, Publisher.mail, hSame, Task.start_bind, Task.start_ofPublish]
      exact .unaddressed d reason hDescriptor hLeads hDestinations (.refl desk)
  | ok addresses =>
    intro publisher desk
    rw [hDestinations] at hSame
    have hDone : errand.Ends transport settings desk _ _ :=
      doneBy_sendMail hDescriptor hLeads hDestinations desk
    split
    · simp only [publisher, Publisher.mail, hSame, Task.start_bind, Task.start_ofPublish]
      exact hDone
    · rename_i hEmpty
      simp only [publisher, Publisher.mail, hSame, Task.start_bind, Task.start_ofPublish]
      have hEmpty : errand.targets = [] := by simpa using hEmpty
      simp only [hEmpty, List.flatMap_nil, List.append_nil] at hDone
      exact hDone

end Errand

namespace Registry

/-- A publisher that is found does the delivery, after a line in the journal. -/
theorem start_dispatch {registry : Registry β} {settings : Settings} {logger : String}
    {ctx : Context} {n : Notification} {descriptor : Option Descriptor} {config : Config}
    {targets : List Target} {registration : Registration β} {publisher : Publisher β}
    (hRegistration : registry.registrationOf descriptor = .ok registration)
    (hMade : ∀ outside,
      registration.construct settings outside = (.ok (.publisher publisher), outside))
    (hUsable : usable? registration.targeted (.publisher publisher) = some publisher)
    (desk : Desk β) :
    ∃ mid, desk.Idle mid ∧
      (registry.dispatch settings logger ctx n descriptor config targets).start desk =
        (if registration.targeted && !targets.isEmpty then
            publisher.informTargets ctx n config targets
          else publisher.inform ctx n config).start mid := by
  simp only [dispatch, resolve, hRegistration, Task.start_bind, Task.start_ask, hMade, hUsable,
    Task.start_pure]
  split
  · exact Task.start_log_bind _ _ desk
  · exact Task.start_log_bind _ _ desk

theorem doneBy_dispatch (errand : Errand) (transport : Transport β) (settings : Settings)
    (logger : String) (config : Config)
    (hConfig : ∀ d, errand.descriptor = some d → config = errand.config.merged d) :
    errand.DoneBy transport settings ((standard transport).dispatch settings logger errand.context
      errand.notification errand.descriptor config errand.targets) := by
  have hResolves := registrationOf_standard transport errand.descriptor
  cases hRegistration : (standard transport).registrationOf errand.descriptor with
  | error fault =>
    intro desk
    simp only [dispatch, resolve, hRegistration, Task.start_bind, Task.start_throw]
    exact .unresolved fault (.refl desk)
  | ok registration =>
    rw [hRegistration] at hResolves
    cases hResolves with
    | console d hDescriptor hLeads =>
      rw [hConfig d hDescriptor]
      exact (Errand.doneBy_console hDescriptor hLeads).of_start
        (start_dispatch hRegistration (fun _ => rfl) rfl)
    | webhook d hDescriptor hLeads =>
      rw [hConfig d hDescriptor]
      exact (Errand.doneBy_webhook hDescriptor hLeads).of_start
        (start_dispatch hRegistration (fun _ => rfl) rfl)
    | mail d hDescriptor hLeads =>
      rw [hConfig d hDescriptor]
      exact (Errand.doneBy_mail hDescriptor hLeads).of_start
        (start_dispatch hRegistration (fun _ => rfl) rfl)

end Registry

/-- An executor with the standard publishers carries out every errand. -/
theorem Executor.doneBy_deliver {executor : Executor β} {transport : Transport β}
    (hRegistry : executor.registry = .standard transport) (errand : Errand) :
    errand.DoneBy transport executor.settings (executor.deliver errand.context errand.notification
      errand.descriptor errand.config errand.targets) := by
  unfold deliver
  rw [hRegistry]
  cases hDescriptor : errand.descriptor with
  | none =>
    have hDone := Registry.doneBy_dispatch errand transport executor.settings logger errand.config
      (by simp [hDescriptor])
    rw [hDescriptor] at hDone
    exact hDone
  | some d =>
    have hDone := Registry.doneBy_dispatch errand transport executor.settings logger
      (errand.config.merged d) (by simp [hDescriptor])
    rw [hDescriptor] at hDone
    refine hDone.of_start fun desk => ?_
    dsimp only
    split
    · exact Task.start_log_bind _ _ desk
    · exact ⟨desk, .refl desk, rfl⟩

end EventDigest

import EventDigest.Proofs.Addresses
import EventDigest.Proofs.Paired
import EventDigest.Proofs.Recipients
import EventDigest.Proofs.Statuses

/-! # Mails of a run

Whatever a run of a rule comes to, each of its deliveries is a mail session, and the only message of
that session is addressed to the audience of the rule. A law about deliveries is carried from one
errand over the groups to the whole run.
-/
set_option autoImplicit false
namespace EventDigest
variable {α β γ : Type}

/-- What a group fails with when there is nobody to send its notification to. -/
def Rule.unaddressed (rule : Rule) (n : Notification) : Fault :=
  .publish (.noRecipients
    ((Context.ofNotification n).withRule rule.id (some rule.name)).text)

/-- The header of the message names these recipients: plain addresses as they stand, and any that
the reader of headers can spell in normal form. -/
structure MailMessage.AddressedTo (message : MailMessage) (recipients : List String) : Prop where
  plain : (∀ address ∈ recipients, Mail.IsPlain address) →
    message.recipientLine = String.intercalate ", " recipients
  header : Mail.Spelled (String.intercalate ", " recipients) →
    Publisher.addressHeaderOf (String.intercalate ", " recipients) = .ok message.recipientLine

/-- A mail session in which every message is for the recipients, of which there are some. -/
inductive Delivery.MailedTo (recipients : List String) : Delivery → Prop
  | mail (calls : List MailCall) (accepted : Option MailMessage) (hSome : recipients ≠ [])
    (hSent : ∀ message, .send message ∈ calls → message.AddressedTo recipients)
    (hAccepted : ∀ message ∈ accepted, message.AddressedTo recipients) :
    MailedTo recipients (.mail calls accepted)

theorem Publisher.addressedTo_of_composeMail {account : MailAccount} {ctx : Context}
    {n : Notification} {config : Config} {addresses : List String} {host : String}
    {message : MailMessage}
    (h : composeMail account ctx n config addresses = .ok (host, message)) :
    recipientsOf addresses ≠ [] ∧ message.AddressedTo (recipientsOf addresses) := by
  have hComposed := composed_of_composeMail h
  refine ⟨hComposed.addressed, ?_, fun _ => hComposed.recipientLine⟩
  intro hPlain
  have hLine := addressHeaderOf_plain hPlain
  rw [hComposed.recipientLine] at hLine
  exact Except.ok.inj hLine

/-- What becomes of an errand for the publisher of mail. -/
theorem Errand.Ends.exists_mailed {errand : Errand} {transport : Transport β} {settings : Settings}
    {d : Descriptor} {desk after : Desk β} {verdict : Except Fault Unit} {addresses : List String}
    (hDescriptor : errand.descriptor = some d) (hLeads : d.LeadsTo "email")
    (hDestinations : errand.config.destinations = .ok addresses)
    (h : errand.Ends transport settings desk after verdict) :
    ∃ made, after.deliveries = desk.deliveries ++ made ∧
      (∀ delivery ∈ made, delivery.MailedTo
        (Publisher.recipientsOf (addresses ++ errand.targets.flatMap (·.addresses)))) ∧
      (verdict = .ok () → made ≠ []) := by
  cases h with
  | unresolved fault hIdle => exact ⟨[], by simp [hIdle.deliveries], by simp, by simp⟩
  | unaddressed _ _ _ _ _ hIdle => exact ⟨[], by simp [hIdle.deliveries], by simp, by simp⟩
  | unmailed _ _ _ _ _ _ _ hIdle => exact ⟨[], by simp [hIdle.deliveries], by simp, by simp⟩
  | printed other hOther hConsole =>
    obtain rfl : other = d := Option.some.inj (hOther.symm.trans hDescriptor)
    exact absurd (hConsole.eq hLeads) (by decide)
  | unposted other _ hOther hWebhook =>
    obtain rfl : other = d := Option.some.inj (hOther.symm.trans hDescriptor)
    exact absurd (hWebhook.eq hLeads) (by decide)
  | posted other _ _ _ hOther hWebhook =>
    obtain rfl : other = d := Option.some.inj (hOther.symm.trans hDescriptor)
    exact absurd (hWebhook.eq hLeads) (by decide)
  | mailed _ own host message session _ _ _ hOwn hMail hSession hDeliveries _ =>
    obtain rfl : own = addresses := Except.ok.inj (hOwn.symm.trans hDestinations)
    obtain ⟨hSome, hAddressed⟩ := Publisher.addressedTo_of_composeMail hMail
    refine ⟨_, hDeliveries, ?_, by simp⟩
    intro delivery hDelivery
    obtain rfl := List.mem_singleton.mp hDelivery
    refine .mail _ _ hSome ?_ ?_
    · intro other hSend
      have hHeld : session = _ := (congrArg Prod.fst hSession).symm
      rw [hHeld] at hSend
      rwa [Publisher.eq_of_send_mem_session hSend]
    · intro other hAccepted
      split at hAccepted
      · obtain rfl := Option.some.inj hAccepted
        exact hAddressed
      · cases hAccepted

theorem Registry.registrationOf_mail (transport : Transport β) {d : Descriptor}
    (hLeads : d.LeadsTo "email") : (standard transport).registrationOf (some d) =
      .ok ⟨"email", true, constructMail transport⟩ := by
  have hFound : (standard transport).find? d.key =
      some ⟨"email", true, constructMail transport⟩ := by
    rw [find?, hLeads.normalKey_eq]
    rfl
  rw [registrationOf, hLeads.scheduled, Bool.not_true, if_neg Bool.false_ne_true, hFound]

namespace Run
variable {store : Store} {Allowed : Delivery → Prop}

/-- Whether it returns or ends with a fault, the run delivers what is allowed and nothing else when
it is started over the store. -/
def Sends (run : Run β α) (store : Store) (Allowed : Delivery → Prop) : Prop :=
  ∀ world : World β, world.store = store → ∃ made,
    (run.start world).2.desk.deliveries = world.desk.deliveries ++ made ∧
      ∀ delivery ∈ made, Allowed delivery

/-- The run can return the value when it is started over the store. -/
def Yields (run : Run β α) (store : Store) (a : α) : Prop :=
  ∃ world after, world.store = store ∧ run.Returns world a after

theorem Inward.sends {run : Run β α} (h : run.Inward) : run.Sends store Allowed :=
  fun world _ => ⟨[], by rw [(h world).deliveries, List.append_nil], by simp⟩

theorem Sends.bind {run : Run β α} {next : α → Run β γ} (hQuiet : run.Quiet)
    (h : run.Sends store Allowed)
    (hNext : ∀ a, run.Yields store a → (next a).Sends store Allowed) :
    (run >>= next).Sends store Allowed := by
  intro world hStore
  obtain ⟨first, hFirst, hAllowed⟩ := h world hStore
  have hKept := (hQuiet world).store_eq
  rw [start_bind]
  rcases hStart : run.start world with ⟨fault | a, mid⟩
  · rw [hStart] at hFirst
    exact ⟨first, hFirst, hAllowed⟩
  · rw [hStart] at hFirst hKept
    obtain ⟨more, hMore, hMoreAllowed⟩ :=
      hNext a ⟨world, mid, hStore, hStart⟩ mid (hKept.trans hStore)
    refine ⟨first ++ more, ?_, List.forall_mem_append.mpr ⟨hAllowed, hMoreAllowed⟩⟩
    dsimp only at hFirst ⊢
    rw [hMore, hFirst, List.append_assoc]

/-- What comes afterwards may change the store, if it delivers nothing. -/
theorem Sends.followed {run : Run β α} {next : α → Run β γ} (h : run.Sends store Allowed)
    (hNext : ∀ a, (next a).Inward) : (run >>= next).Sends store Allowed := by
  intro world hStore
  obtain ⟨made, hMade, hAllowed⟩ := h world hStore
  rw [start_bind]
  rcases hStart : run.start world with ⟨fault | a, mid⟩
  · rw [hStart] at hMade
    exact ⟨made, hMade, hAllowed⟩
  · rw [hStart] at hMade
    exact ⟨made, (hNext a mid).deliveries.trans hMade, hAllowed⟩

end Run

namespace Executor
variable {executor : Executor β} {transport : Transport β} {rule : Rule} {row : PublisherRow}
  {store : Store} {config : Config} {addresses : List String} {targets : List Target}

theorem inward_failGroup (group : String) (ctx : Context) (fault : Fault) :
    (failGroup group ctx fault : Run β GroupResult).Inward := by
  unfold failGroup
  split
  · exact Run.inward_throw fault
  · exact (Run.inward_log _).bind fun _ => Run.inward_pure _

section Sending
variable (hRegistry : executor.registry = .standard transport)
  (hRow : store.publisherOf? rule = some row) (hLeads : row.descriptor.LeadsTo "email")
  (hConfig : Config.parse rule.config = .ok config)
  (hDestinations : config.destinations = .ok addresses)
include hRegistry hRow hLeads hConfig hDestinations

theorem publish_sends (n : Notification) (targets : List Target) :
    (executor.publish rule n targets).Sends store (Delivery.MailedTo
      (Publisher.recipientsOf (addresses ++ targets.flatMap (·.addresses)))) := by
  unfold publish
  rw [hConfig]
  refine (Run.inward_query _).sends.bind (Run.quiet_query _) ?_
  rintro publisher ⟨world, after, rfl, hQuery⟩
  obtain ⟨hLoaded, _⟩ := Run.returns_query_iff.mp hQuery
  obtain rfl : some row = publisher := hRow.symm.trans (Store.loadPublisher_eq_ok hLoaded)
  refine Run.Sends.bind (Run.quiet_attempt _) ?_ fun answer _ => ?_
  · intro world _
    obtain ⟨made, hMade, hMailed, _⟩ := (doneBy_deliver hRegistry
      (rule.errand (some row) targets n config) world.desk).exists_mailed rfl hLeads hDestinations
    exact ⟨made, hMade, hMailed⟩
  · cases answer with
    | error fault => exact (inward_failGroup _ _ _).sends
    | ok =>
      dsimp only
      split
      · exact ((Run.inward_log _).bind fun _ => Run.inward_pure _).sends
      · exact (Run.inward_pure _).sends

theorem processGroup_sends (windowStart : Time.Instant) (projects : List ProjectRef)
    (targets : List Target) (name : String) :
    (executor.processGroup rule windowStart projects targets name).Sends store (Delivery.MailedTo
      (Publisher.recipientsOf (addresses ++ targets.flatMap (·.addresses)))) := by
  unfold processGroup
  split
  · exact ((Run.inward_log _).bind fun _ => Run.inward_pure _).sends
  · refine (inward_collect _ _ _ _ _).sends.bind (quiet_collect _ _ _ _ _) fun digest _ => ?_
    split
    · exact ((Run.inward_log _).bind fun _ => Run.inward_pure _).sends
    · refine (inward_announce _ _ _).sends.bind (quiet_announce _ _ _) fun n _ => ?_
      exact (publish_sends hRegistry hRow hLeads hConfig hDestinations n targets).bind
        (quiet_publish _ _ _ _) fun _ _ => (Run.inward_pure _).sends

theorem processGroups_sends (windowStart : Time.Instant) (projects : List ProjectRef)
    (targets : List Target) (names : List String) :
    (executor.processGroups rule windowStart projects targets names).Sends store (Delivery.MailedTo
      (Publisher.recipientsOf (addresses ++ targets.flatMap (·.addresses)))) := by
  induction names with
  | nil => exact (Run.inward_pure _).sends
  | cons name rest ih =>
    refine Run.Sends.bind (quiet_processGroup _ _ _ _ _ _) ?_ fun _ _ =>
      ih.bind (quiet_processGroups _ _ _ _ _ _) fun _ _ => (Run.inward_pure _).sends
    exact processGroup_sends hRegistry hRow hLeads hConfig hDestinations windowStart projects
      targets name

theorem execute_sends {id : String} (hRule : store.rule? id = some rule) :
    (executor.execute id).Sends store (Delivery.MailedTo (Publisher.recipientsOf
      (addresses ++ ((store.teamsOf rule).map Team.target).flatMap (·.addresses)))) := by
  refine Run.Sends.followed ?_ fun _ => Run.inward_pure _
  unfold perform
  refine (Run.inward_query _).sends.bind (Run.quiet_query _) ?_
  rintro loaded ⟨world, _, rfl, hQuery⟩
  obtain ⟨hLoaded, _⟩ := Run.returns_query_iff.mp hQuery
  obtain rfl : loaded = rule := Option.some.inj ((Store.loadRule_eq_ok hLoaded).symm.trans hRule)
  split
  · exact ((Run.inward_log _).bind fun _ => Run.inward_pure _).sends
  · refine (Run.inward_log _).sends.bind (Run.quiet_log _) fun _ _ => ?_
    refine (Run.inward_query _).sends.bind (Run.quiet_query _) fun projects _ => ?_
    refine (Run.inward_query _).sends.bind (Run.quiet_query _) ?_
    rintro targets ⟨mid, _, hStore, hQuery⟩
    obtain ⟨hTargets, _⟩ := Run.returns_query_iff.mp hQuery
    rw [hStore] at hTargets
    obtain rfl := Store.targets_of_loadTargets hTargets
    refine (Run.inward_ofExcept _).sends.bind (Run.quiet_ofExcept _) fun names _ => ?_
    refine Run.Sends.followed ?_ fun _ => (inward_conclude _ _).bind fun _ => Run.inward_pure _
    exact processGroups_sends hRegistry hRow hLeads hConfig hDestinations _ _ _ names

end Sending

/-! Without recipients. -/
section Unaddressed
variable {world after : World β}
  (hNone : Publisher.recipientsOf (addresses ++ targets.flatMap (·.addresses)) = [])
include hNone

theorem start_sendMail_unaddressed (transport : Transport β) (account : Publisher.MailAccount)
    (ctx : Context) (n : Notification) (config : Config) (desk : Desk β) :
    (Publisher.sendMail transport account ctx n config
        (addresses ++ targets.flatMap (·.addresses))).start desk =
      (.error (.publish (.noRecipients ctx.text)), desk) := by
  have hRefused :
      Publisher.composeMail account ctx n config (addresses ++ targets.flatMap (·.addresses)) =
        .error (.publish (.noRecipients ctx.text)) := by
    rw [Publisher.composeMail, hNone]
    rfl
  rw [Publisher.sendMail, Task.start_bind, hRefused, Task.start_ofExcept]

/-- With targets and without, the publisher of mail finds nobody to send to. -/
theorem start_mail_unaddressed (account : Publisher.MailAccount) (ctx : Context)
    (n : Notification) (hDestinations : config.destinations = .ok addresses) (desk : Desk β) :
    (if true && !targets.isEmpty then
        (Publisher.mail transport account).informTargets ctx n config targets
      else (Publisher.mail transport account).inform ctx n config).start desk =
      (.error (.publish (.noRecipients ctx.text)), desk) := by
  have hSent := start_sendMail_unaddressed hNone transport account ctx n config desk
  split
  · rw [Publisher.mail, Task.start_bind, hDestinations, Task.start_ofPublish]
    exact hSent
  · rename_i hEmpty
    obtain rfl : targets = [] := by simpa using hEmpty
    rw [List.flatMap_nil, List.append_nil] at hSent
    rw [Publisher.mail, Task.start_bind, hDestinations, Task.start_ofPublish]
    exact hSent

variable (hRegistry : executor.registry = .standard transport)
  (hLeads : row.descriptor.LeadsTo "email") (hDestinations : config.destinations = .ok addresses)
include hRegistry hLeads hDestinations

theorem start_deliver_unaddressed (ctx : Context) (n : Notification) (desk : Desk β) :
    ∃ mid, desk.Idle mid ∧
      (executor.deliver ctx n (some row.descriptor) config targets).start desk =
        (.error (.publish (.noRecipients ctx.text)), mid) := by
  have hDispatch : ∀ before : Desk β, ∃ mid, before.Idle mid ∧
      (executor.registry.dispatch executor.settings logger ctx n (some row.descriptor)
        (config.merged row.descriptor) targets).start before =
          (.error (.publish (.noRecipients ctx.text)), mid) := by
    intro before
    obtain ⟨mid, hIdle, hStart⟩ := Registry.start_dispatch
      (Registry.registrationOf_mail transport hLeads) (fun _ => rfl) rfl before
    rw [hRegistry, hStart]
    exact ⟨mid, hIdle, start_mail_unaddressed hNone _ ctx n
      ((config.destinations_merged _).trans hDestinations) mid⟩
  unfold deliver
  dsimp only
  split
  · obtain ⟨logged, hLogged, hStart⟩ := Task.start_log_bind _ _ desk
    obtain ⟨mid, hIdle, hRefused⟩ := hDispatch logged
    exact ⟨mid, hLogged.trans hIdle, hStart.trans hRefused⟩
  · exact hDispatch desk

/-- The group of a notification for nobody fails, and nothing is sent for it. -/
theorem publish_unaddressed (hConfig : Config.parse rule.config = .ok config)
    (hLoaded : world.store.loadPublisher rule = .ok (some row)) (n : Notification) :
    ∃ after, (executor.publish rule n targets).Returns world
        ⟨n.group.name, .failed, some (rule.unaddressed n).message⟩ after ∧
      world.desk.Idle after.desk := by
  have hUnaddressed := start_deliver_unaddressed hNone hRegistry hLeads hDestinations
    (rule.errand (some row) targets n config).context n world.desk
  obtain ⟨mid, hIdle, hStart⟩ := hUnaddressed
  have hAttempt : (Run.attempt (executor.deliver (rule.errand (some row) targets n config).context n
      (some row.descriptor) config targets)).Returns world (.error (rule.unaddressed n))
        { world with desk := mid } :=
    Run.returns_attempt_iff.mpr ⟨congrArg Prod.fst hStart, by rw [hStart]⟩
  unfold publish
  rw [hConfig]
  have hRead : Run.Returns (Run.query (·.loadPublisher rule)) world (some row) world :=
    Run.returns_query_iff.mpr ⟨hLoaded, rfl⟩
  refine ⟨_, hRead.bind (hAttempt.bind ((Run.returns_log _ _).bind (Run.returns_pure _ _))), ?_⟩
  exact hIdle.trans ⟨rfl, rfl⟩

omit hRegistry in
theorem failed_of_verdict (hConfig : Config.parse rule.config = .ok config) {settings : Settings}
    {n : Notification} {before after : Desk β} {result : GroupResult}
    (h : rule.Verdict transport settings (some row) targets n before after result) :
    result.status = .failed := by
  cases h with
  | unconfigured => rfl
  | failed => rfl
  | published own mid hOwn hEnds =>
    obtain rfl : own = config := Except.ok.inj (hOwn.symm.trans hConfig)
    obtain ⟨made, _, hMailed, hSent⟩ := hEnds.exists_mailed rfl hLeads hDestinations
    obtain ⟨delivery, hDelivery⟩ := List.exists_mem_of_ne_nil made (hSent rfl)
    cases hMailed delivery hDelivery with
    | mail _ _ hSome => exact (hSome hNone).elim

end Unaddressed

theorem execute_unaddressed {world after : World β} {id : String} {outcome : Outcome}
    (hRegistry : executor.registry = .standard transport)
    (hRule : world.store.rule? id = some rule) (hRow : world.store.publisherOf? rule = some row)
    (hLeads : row.descriptor.LeadsTo "email") (hConfig : Config.parse rule.config = .ok config)
    (hDestinations : config.destinations = .ok addresses)
    (hNone : Publisher.recipientsOf
      (addresses ++ ((world.store.teamsOf rule).map Team.target).flatMap (·.addresses)) = [])
    (h : (executor.execute id).Returns world outcome after) :
    ∀ result ∈ outcome.results,
      result.status = .skipped ∨ result.status = .unsupported ∨ result.status = .failed := by
  obtain ⟨reports, hPerform⟩ := execute_returns_iff.mp h
  cases hEnabled : rule.enabled with
  | false =>
    rw [(perform_disabled hRule hEnabled hPerform).1]
    simp
  | true =>
    have hRun := perform_returns hRule hEnabled hPerform
    obtain ⟨start, targets, names, mid, hStart, _, hTargets, _, hGroups, _⟩ :=
      perform_phases hRule hEnabled hPerform
    obtain rfl := Store.targets_of_loadTargets hTargets
    rw [hRun.results]
    intro result hResult
    obtain ⟨report, hReport, rfl⟩ := List.mem_map.mp hResult
    cases hBuilt : report.notification with
    | none => exact ((hRun.reported report hReport).status_of_none hBuilt).imp_right .inl
    | some n =>
      obtain ⟨before, late, hVerdict⟩ := processGroups_verdicts hRegistry hGroups hReport hBuilt
      rw [hStart.store_eq, hRow] at hVerdict
      exact .inr (.inr (failed_of_verdict hNone hLeads hDestinations hConfig hVerdict))

/-- Every message of a run of a rule for mail, whatever the run comes to, is for the audience of the
rule: the destinations and then the members of its teams, each address once. When nobody is left,
nothing is sent and the group fails. -/
theorem mailed_to_audience {world : World β} {id : String} {entries : List String}
    (hRegistry : executor.registry = .standard transport)
    (hRule : world.store.rule? id = some rule) (hRow : world.store.publisherOf? rule = some row)
    (hLeads : row.descriptor.LeadsTo "email") (hConfig : Config.parse rule.config = .ok config)
    (hDestined : config.Destined entries) :
    ∃ recipients, rule.Audience world.store entries recipients ∧
      (∃ made, ((executor.execute id).start world).2.desk.deliveries =
          world.desk.deliveries ++ made ∧
        ∀ delivery ∈ made, delivery.MailedTo recipients) ∧
      (recipients = [] →
        ((executor.execute id).start world).2.desk.deliveries = world.desk.deliveries ∧
        (∀ outcome after, (executor.execute id).Returns world outcome after →
          ∀ result ∈ outcome.results,
            result.status = .skipped ∨ result.status = .unsupported ∨ result.status = .failed) ∧
        ∀ (n : Notification) (mid : World β), mid.store.loadPublisher rule = .ok (some row) →
          ∃ after, (executor.publish rule n ((world.store.teamsOf rule).map Team.target)).Returns
              mid ⟨n.group.name, .failed, some (rule.unaddressed n).message⟩ after ∧
            mid.desk.Idle after.desk) := by
  have hDestinations := hDestined.destinations_eq
  obtain ⟨made, hMade, hMailed⟩ :=
    execute_sends hRegistry hRow hLeads hConfig hDestinations hRule world rfl
  refine ⟨_, world.store.audience_recipients rule entries, ⟨made, hMade, hMailed⟩, fun hNone =>
    ⟨?_, ?_, ?_⟩⟩
  · rw [hNone] at hMailed
    cases made with
    | nil => rw [hMade, List.append_nil]
    | cons delivery rest =>
      cases hMailed delivery (List.mem_cons_self ..) with
      | mail _ _ hSome => exact (hSome rfl).elim
  · intro outcome after h
    exact execute_unaddressed hRegistry hRule hRow hLeads hConfig hDestinations hNone h
  · intro n mid hLoaded
    exact publish_unaddressed hNone hRegistry hLeads hDestinations hConfig hLoaded n

end Executor

/-! A team in which one member has no address, one has a blank one and the others are named
already. -/
namespace Sample

def destinations : String := " Ops@Acme.org, ,b@acme.org,ops@acme.org"

def teamRule (document : String) : Rule :=
  { documentedRule ["NEW_VULNERABILITY"] document with teams := ["t1"] }

def teamWorld (document : String) (members : List (Option String)) : World Nat where
  store := { store (teamRule document) [] with
    teams := [⟨"t1", "Operators", members⟩, ⟨"t2", "Auditors", [some "audit@acme.org"]⟩]
    publishers := [publisherRow " EMAIL "] }
  clock := .ticking (.ofInstant (instant 200)) 0
  desk := ⟨[], [], 0⟩

def teamDocument : String := "\x7b\"destination\": \"" ++ destinations ++ "\"\x7d"

def members : List (Option String) :=
  [none, some " B@ACME.org ", some " ", some "C@acme.org", some "c@acme.org"]

/-- The lines that name the recipients of the messages of a session. -/
def recipientLines : Delivery → List String
  | .mail calls _ => calls.filterMap fun
    | .send message => some message.recipientLine
    | _ => none
  | _ => []

theorem isPlain_acme {name : String} (h : Mail.IsAtom name.toList) :
    Mail.IsPlain (name ++ "@acme.org") := by
  have hDomain : Mail.Dotted "acme.org".toList :=
    .dot (a := "acme".toList) (s := "org".toList) (by decide) (.atom (by decide))
  exact ⟨name.toList, "acme.org".toList, .atom h, hDomain, by simp⟩

theorem parse_teamDocument :
    Config.parse (some teamDocument) = .ok [("destination", .text destinations)] :=
  Config.parse_texts [("destination", destinations)] (by decide +kernel)

end Sample

namespace Executor

theorem mailed_to_audience_of_a_team :
    (∃ outcome after, ((Sample.deliveringExecutor Sample.refusingFirst).execute "r1").Returns
        (Sample.teamWorld Sample.teamDocument Sample.members) outcome after ∧
      (Sample.teamRule Sample.teamDocument).Audience
        (Sample.teamWorld Sample.teamDocument Sample.members).store
        (Text.splitAt ',' Sample.destinations) ["ops@acme.org", "b@acme.org", "c@acme.org"] ∧
      after.desk.deliveries.map Sample.recipientLines =
        [["ops@acme.org, b@acme.org, c@acme.org"]] ∧
      (∀ address ∈ ["ops@acme.org", "b@acme.org", "c@acme.org"], Mail.IsPlain address) ∧
      ∀ delivery ∈ after.desk.deliveries,
        delivery.MailedTo ["ops@acme.org", "b@acme.org", "c@acme.org"]) ∧
    ∃ outcome after, ((Sample.deliveringExecutor Sample.refusingFirst).execute "r1").Returns
        (Sample.teamWorld "" [none, some " "]) outcome after ∧
      outcome.results.map (·.status) = [.failed] ∧ after.desk.deliveries = [] := by
  have hLeads : (Sample.publisherRow " EMAIL ").descriptor.LeadsTo "email" :=
    ⟨rfl, by decide +kernel⟩
  have hRegistry : (Sample.deliveringExecutor Sample.refusingFirst).registry =
      .standard Sample.refusingFirst := rfl
  have hRule : ∀ document members, (Sample.teamWorld document members).store.rule? "r1" =
      some (Sample.teamRule document) := fun _ _ => rfl
  constructor
  · obtain ⟨outcome, after, h, hLines⟩ := Run.returnsWith_iff.mp
      (show ((Sample.deliveringExecutor Sample.refusingFirst).execute "r1").returnsWith
        (Sample.teamWorld Sample.teamDocument Sample.members) (fun _ after =>
          after.desk.deliveries.map Sample.recipientLines =
            [["ops@acme.org, b@acme.org, c@acme.org"]]) = true by decide +kernel)
    obtain ⟨recipients, hAudience, ⟨made, hMade, hMailed⟩, _⟩ := mailed_to_audience hRegistry
      (hRule Sample.teamDocument Sample.members) rfl hLeads Sample.parse_teamDocument
      (.text Sample.destinations rfl)
    rw [h] at hMade
    obtain rfl : after.desk.deliveries = made := hMade
    obtain rfl : recipients = ["ops@acme.org", "b@acme.org", "c@acme.org"] := by
      obtain ⟨teams, hTeams, _, hKeeps⟩ := hAudience
      obtain rfl : teams = [⟨"t1", "Operators", Sample.members⟩] :=
        List.perm_singleton.mp hTeams
      rw [hKeeps.eq (keepsFirst_distinct _)]
      decide +kernel
    have hPlain : ∀ name ∈ ["ops", "b", "c"], Mail.IsPlain (name ++ "@acme.org") := by
      intro name hName
      exact Sample.isPlain_acme ((by decide : ∀ name ∈ ["ops", "b", "c"], Mail.IsAtom name.toList)
        name hName)
    exact ⟨outcome, after, h, hAudience, of_decide_eq_true hLines,
      List.forall_mem_map.mpr hPlain, hMailed⟩
  · obtain ⟨outcome, after, h, hFailed⟩ := Run.returnsWith_iff.mp
      (show ((Sample.deliveringExecutor Sample.refusingFirst).execute "r1").returnsWith
        (Sample.teamWorld "" [none, some " "]) (fun outcome _ =>
          outcome.results.map (·.status) = [.failed]) = true by decide +kernel)
    obtain ⟨recipients, ⟨teams, hTeams, _, hKeeps⟩, _, hNobody⟩ := mailed_to_audience hRegistry
      (hRule "" [none, some " "]) rfl hLeads (show Config.parse (some "") = .ok [] from rfl)
      (.absent rfl)
    obtain rfl : teams = [⟨"t1", "Operators", [none, some " "]⟩] :=
      List.perm_singleton.mp hTeams
    have hNone : recipients = [] := by
      apply List.eq_nil_iff_forall_not_mem.mpr
      intro address hAddress
      cases (hKeeps.mem_iff address).mp hAddress
    obtain ⟨hNothing, _⟩ := hNobody hNone
    rw [h] at hNothing
    exact ⟨outcome, after, h, of_decide_eq_true hFailed, hNothing⟩

end Executor

end EventDigest

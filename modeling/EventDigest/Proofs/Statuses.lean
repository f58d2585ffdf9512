import EventDigest.Proofs.Attempts
import EventDigest.Proofs.Performed
import EventDigest.Proofs.Verdicts

/-! # Statuses of a run

Every group of a run for a web address or for mail makes at most one attempt, and its status tells
what became of it: published when the attempt succeeded, failed when it did not or when nothing
could be attempted, anything else when nothing was to be delivered.
-/
set_option autoImplicit false
namespace EventDigest
variable {β : Type}

namespace Config

/-- The document gives the field a value that is neither null nor a text. -/
def Mistyped (config : Config) (key : String) : Prop :=
  ∃ value, Fields.get? config key = some value ∧ value ≠ .null ∧ ∀ s, value ≠ .text s

/-- The destinations are given as something that is neither null, a text nor a list of texts. -/
def MistypedList (config : Config) : Prop :=
  config.Mistyped Key.destination ∧
    ∀ items, Fields.get? config Key.destination ≠ some (Json.texts items)

/-- A field that the publisher reads has a value of the wrong kind. -/
def Unfit (config : Config) (d : Descriptor) : Prop :=
  d.LeadsTo "webhook" ∧ (config.Mistyped Key.destination ∨ config.Mistyped Key.token) ∨
    d.LeadsTo "email" ∧ (config.MistypedList ∨ config.Mistyped Key.subjectPrefix)

theorem not_mistyped_of_textField {config : Config} {key s : String}
    (h : config.textField key = .ok s) : ¬config.Mistyped key := by
  rintro ⟨value, hValue, hNull, hText⟩
  rw [textField, hValue, Option.getD_some] at h
  split at h
  · exact hNull rfl
  · exact hText _ rfl
  · cases h

theorem not_mistypedList_of_destinations {config : Config} {addresses : List String}
    (h : config.destinations = .ok addresses) : ¬config.MistypedList := by
  rintro ⟨⟨value, hValue, hNull, hText⟩, hList⟩
  have hTexts : ∀ entries, value ≠ Json.texts entries :=
    fun entries hEntries => hList entries (hEntries ▸ hValue)
  rw [destinations, hValue, Option.getD_some, destinationsOf_eq_error hNull hText hTexts] at h
  cases h

end Config

namespace Publisher

/-- A request that could be made was made from fields of the right kinds. -/
theorem Requested.not_unfit {n : Notification} {config : Config} {d : Descriptor}
    {request : HttpRequest} (h : Requested n (config.merged d) request)
    (hLeads : d.LeadsTo "webhook") : ¬config.Unfit d := by
  obtain ⟨_, token, _, hToken, _⟩ := h.headers
  have hUrl := h.url
  rw [Config.textField_merged _ _ (by decide) (by decide)] at hUrl hToken
  rintro (⟨_, hDestination | hField⟩ | ⟨hMail, _⟩)
  · exact Config.not_mistyped_of_textField hUrl hDestination
  · exact Config.not_mistyped_of_textField hToken hField
  · exact absurd (hLeads.eq hMail) (by decide)

theorem Composed.not_unfit {account : MailAccount} {n : Notification} {config : Config}
    {d : Descriptor} {addresses all : List String} {host : String} {message : MailMessage}
    (h : Composed account n (config.merged d) all host message) (hLeads : d.LeadsTo "email")
    (hDestinations : config.destinations = .ok addresses) : ¬config.Unfit d := by
  obtain ⟨subjectStart, hStart, _⟩ := h.subject
  rw [Config.textField_merged _ _ (by decide) (by decide)] at hStart
  rintro (⟨hWebhook, _⟩ | ⟨_, hDestination | hField⟩)
  · exact absurd (hLeads.eq hWebhook) (by decide)
  · exact Config.not_mistypedList_of_destinations hDestinations hDestination
  · exact Config.not_mistyped_of_textField hStart hField

end Publisher

namespace Errand
variable {errand : Errand} {transport : Transport β} {settings : Settings} {d : Descriptor}
  {desk after : Desk β} {verdict : Except Fault Unit}

/-- An errand for a web address or for mail comes to at most one attempt, and its verdict tells
whether that one succeeded. A field of the wrong kind stops it before. -/
theorem Ends.exists_attempt (hLeaves : transport.Leaves) (hDescriptor : errand.descriptor = some d)
    (hLeads : d.LeadsTo "webhook" ∨ d.LeadsTo "email")
    (h : errand.Ends transport settings desk after verdict) :
    ∃ attempt : Option Attempt, desk.Uses transport attempt.toList after ∧
      (verdict = .ok () ↔ ∃ made, attempt = some made ∧ made.Succeeded) ∧
      (errand.config.Unfit d → attempt = none) := by
  cases h with
  | unresolved fault hIdle => exact ⟨none, hIdle.uses, by simp, fun _ => rfl⟩
  | printed other hOther hConsole hIdle =>
    obtain rfl : other = d := Option.some.inj (hOther.symm.trans hDescriptor)
    rcases hLeads with hWebhook | hMail
    · exact absurd (hConsole.eq hWebhook) (by decide)
    · exact absurd (hConsole.eq hMail) (by decide)
  | unposted other fault _ _ _ hIdle => exact ⟨none, hIdle.uses, by simp, fun _ => rfl⟩
  | unaddressed other reason _ _ _ hIdle => exact ⟨none, hIdle.uses, by simp, fun _ => rfl⟩
  | unmailed other addresses fault _ _ _ _ hIdle => exact ⟨none, hIdle.uses, by simp, fun _ => rfl⟩
  | posted other request answer _ hOther hWebhook hRequest hPost hDeliveries hVerdict =>
    obtain rfl : other = d := Option.some.inj (hOther.symm.trans hDescriptor)
    refine ⟨some (.request request answer), .of_makes hDeliveries (.request _ _ _ _ hPost), ?_, ?_⟩
    · rw [hVerdict, Answer.ofFault?_eq_ok_iff, Publisher.requestFault?_eq_none_iff]
      simp
    · intro hUnfit
      have hRequested := Publisher.requested_of_webhookRequest hRequest
      exact (hRequested.not_unfit hWebhook hUnfit).elim
  | mailed other addresses host message session _ hOther hMail hDestinations hComposed hSession
      hDeliveries hVerdict =>
    obtain rfl : other = d := Option.some.inj (hOther.symm.trans hDescriptor)
    have hProceeds := Publisher.proceeds_holdSession transport (.ofSettings settings) host message
      desk.outside
    rw [hSession] at hProceeds
    obtain ⟨transcript, hMakes, hCalls, hAccepted⟩ := hProceeds.exists_transcript
    refine ⟨some (.session transcript), .of_makes ?_ hMakes, ?_, ?_⟩
    · rw [hDeliveries, Attempt.delivery, hCalls, hAccepted]
    · rw [hVerdict, Answer.ofFault?_eq_ok_iff, Publisher.MailSession.reported?_eq_none_iff,
        hProceeds.fault_eq_none_iff hLeaves]
      have hSucceeded := Attempt.succeeded_session_iff transcript
      rw [hAccepted] at hSucceeded
      simp [hSucceeded]
    · intro hUnfit
      have hMade := Publisher.composed_of_composeMail hComposed
      exact (hMade.not_unfit hMail hDestinations hUnfit).elim

end Errand

/-- The configuration of the rule is no document of its kind, or it gives a field that the publisher
reads a value of the wrong kind. -/
def Rule.Unfit (rule : Rule) (d : Descriptor) : Prop :=
  (∃ fault, Config.parse rule.config = .error fault) ∨
    ∃ config, Config.parse rule.config = .ok config ∧ config.Unfit d

/-- The status of a result tells what became of the attempt that was made for it, if one was. -/
structure Truthful (rule : Rule) (d : Descriptor) (result : GroupResult)
    (attempt : Option Attempt) : Prop where
  published_iff : result.status = .published ↔ ∃ made, attempt = some made ∧ made.Succeeded
  failed : result.status = .failed → ∀ made, attempt = some made → ¬made.Succeeded
  passed_over : result.status = .skipped ∨ result.status = .unsupported → attempt = none
  unfit : rule.Unfit d → attempt = none

theorem Truthful.of_published_iff {rule : Rule} {d : Descriptor} {result : GroupResult}
    {attempt : Option Attempt} (hStatus : result.status = .published ∨ result.status = .failed)
    (hPublished : result.status = .published ↔ ∃ made, attempt = some made ∧ made.Succeeded)
    (hUnfit : rule.Unfit d → attempt = none) : Truthful rule d result attempt where
  published_iff := hPublished
  failed := by
    intro hFailed made hMade hSucceeded
    have hPublished := hPublished.mpr ⟨made, hMade, hSucceeded⟩
    rw [hFailed] at hPublished
    cases hPublished
  passed_over := by
    intro hPassed
    rcases hStatus with hStatus | hStatus
    · rw [hStatus] at hPassed
      rcases hPassed with hPassed | hPassed <;> cases hPassed
    · rw [hStatus] at hPassed
      rcases hPassed with hPassed | hPassed <;> cases hPassed
  unfit := hUnfit

/-- Where nothing is attempted, every status but published is true. -/
theorem Truthful.of_none {rule : Rule} {d : Descriptor} {result : GroupResult}
    (hStatus : result.status ≠ .published) : Truthful rule d result none where
  published_iff := by simp [hStatus]
  failed := by simp
  passed_over := fun _ => rfl
  unfit := fun _ => rfl

theorem Rule.Unfit.config {rule : Rule} {d : Descriptor} {config : Config} (h : rule.Unfit d)
    (hConfig : Config.parse rule.config = .ok config) : config.Unfit d := by
  rcases h with ⟨fault, hFault⟩ | ⟨other, hOther, hField⟩
  · rw [hConfig] at hFault
    cases hFault
  · rw [hConfig, Except.ok.injEq] at hOther
    subst hOther
    exact hField

theorem Rule.Verdict.exists_attempt {rule : Rule} {transport : Transport β}
    (hLeaves : transport.Leaves) {row : PublisherRow}
    (hLeads : row.descriptor.LeadsTo "webhook" ∨ row.descriptor.LeadsTo "email")
    {settings : Settings} {targets : List Target} {n : Notification} {before after : Desk β}
    {result : GroupResult}
    (h : rule.Verdict transport settings (some row) targets n before after result) :
    ∃ attempt : Option Attempt, before.Uses transport attempt.toList after ∧
      Truthful rule row.descriptor result attempt := by
  cases h with
  | unconfigured fault hConfig hIdle => exact ⟨none, hIdle.uses, .of_none (by simp)⟩
  | published config mid hConfig hEnds hIdle =>
    obtain ⟨attempt, hUses, hSucceeded, hUnfit⟩ := hEnds.exists_attempt hLeaves rfl hLeads
    refine ⟨attempt, hUses.trans_idle hIdle, .of_published_iff (.inl rfl) ?_ ?_⟩
    · exact iff_of_true rfl (hSucceeded.mp rfl)
    · exact fun h => hUnfit (h.config hConfig)
  | failed config fault mid hConfig hEnds hIdle =>
    obtain ⟨attempt, hUses, hSucceeded, hUnfit⟩ := hEnds.exists_attempt hLeaves rfl hLeads
    refine ⟨attempt, hUses.trans_idle hIdle, .of_published_iff (.inr rfl) ?_ ?_⟩
    · rw [← hSucceeded]
      simp
    · exact fun h => hUnfit (h.config hConfig)

namespace Executor
variable {executor : Executor β} {transport : Transport β} {rule : Rule} {row : PublisherRow}
  {world after : World β}

theorem inward_collect (executor : Executor β) (projects : List ProjectRef)
    (windowStart : Time.Instant) (group : Group) (includeSuppressed : Bool) :
    (executor.collect projects windowStart group includeSuppressed).Inward :=
  Run.inward_get.bind fun _ => (Run.inward_logAll _).bind fun _ => Run.inward_ofExcept _

theorem inward_announce (executor : Executor β) (rule : Rule) (digest : Digest) :
    (executor.announce rule digest).Inward :=
  Run.inward_now.bind fun _ => Run.inward_ofExcept _

theorem inward_advance (rule : Rule) : (advance rule : Run β (Option Time.Instant)).Inward := by
  refine Run.inward_now.bind fun _ => (Run.inward_query _).bind fun _ => ?_
  refine Run.Inward.bind ?_ fun _ => (Run.inward_logAll _).bind fun _ => Run.inward_pure _
  exact Run.inward_modify fun _ => ⟨rfl, rfl⟩

theorem inward_conclude (rule : Rule) (results : List GroupResult) :
    (conclude rule results : Run β Outcome).Inward := by
  unfold conclude
  split
  · exact (inward_advance rule).bind fun _ => (Run.inward_log _).bind fun _ => Run.inward_pure _
  · exact (Run.inward_log _).bind fun _ => Run.inward_pure _

theorem processGroup_attempt (hRegistry : executor.registry = .standard transport)
    (hLeaves : transport.Leaves) (hRow : world.store.publisherOf? rule = some row)
    (hLeads : row.descriptor.LeadsTo "webhook" ∨ row.descriptor.LeadsTo "email")
    {windowStart : Time.Instant} {projects : List ProjectRef} {targets : List Target}
    {name : String} {report : GroupReport}
    (h : (executor.processGroup rule windowStart projects targets name).Returns world report
      after) :
    ∃ attempt : Option Attempt, world.desk.Uses transport attempt.toList after.desk ∧
      Truthful rule row.descriptor report.result attempt := by
  cases course_of_processGroup h with
  | unsupported entry _ hLog =>
    exact ⟨none, ((Run.inward_log _).idle hLog).uses, .of_none (by simp)⟩
  | skipped digest collected entry _ hCollect _ _ hLog =>
    have hCollected := (inward_collect _ _ _ _ _).idle hCollect
    exact ⟨none, (hCollected.trans ((Run.inward_log _).idle hLog)).uses, .of_none (by simp)⟩
  | announced digest notification result collected built _ hCollect _ hAnnounce hFollows hPublish =>
    have hVerdict := publish_verdict hRegistry hPublish
    rw [hFollows.store_eq, hRow] at hVerdict
    obtain ⟨attempt, hUses, hTruthful⟩ := hVerdict.exists_attempt hLeaves hLeads
    have hBuilt := ((inward_collect _ _ _ _ _).idle hCollect).trans
      ((inward_announce _ _ _).idle hAnnounce)
    exact ⟨attempt, hBuilt.trans_uses hUses, hTruthful⟩

/-- Every group makes its attempt, if any, after those of the groups before it. -/
theorem processGroups_attempts (hRegistry : executor.registry = .standard transport)
    (hLeaves : transport.Leaves) (hRow : world.store.publisherOf? rule = some row)
    (hLeads : row.descriptor.LeadsTo "webhook" ∨ row.descriptor.LeadsTo "email")
    {windowStart : Time.Instant} {projects : List ProjectRef} {targets : List Target}
    {names : List String} {reports : List GroupReport}
    (h : (executor.processGroups rule windowStart projects targets names).Returns world reports
      after) :
    ∃ record : List (GroupResult × Option Attempt),
      reports.map (·.result) = record.map (·.1) ∧
      world.desk.Uses transport (record.filterMap (·.2)) after.desk ∧
      ∀ entry ∈ record, Truthful rule row.descriptor entry.1 entry.2 := by
  induction names generalizing world reports with
  | nil =>
    obtain ⟨rfl, rfl⟩ := Run.returns_pure_iff.mp h
    exact ⟨[], rfl, (Desk.Idle.refl _).uses, by simp⟩
  | cons name rest ih =>
    obtain ⟨report, mid, hFirst, h⟩ := Run.returns_bind_iff.mp h
    obtain ⟨others, _, hRest, h⟩ := Run.returns_bind_iff.mp h
    obtain ⟨rfl, rfl⟩ := Run.returns_pure_iff.mp h
    obtain ⟨attempt, hUses, hTruthful⟩ :=
      processGroup_attempt hRegistry hLeaves hRow hLeads hFirst
    -- Every group looks its publisher up anew, in a store that the groups before it left alone.
    have hStore := ((quiet_processGroup _ _ _ _ _ _).follows hFirst).store_eq
    rw [← hStore] at hRow
    obtain ⟨record, hResults, hUsesRest, hRecord⟩ := ih hRow hRest
    refine ⟨(report.result, attempt) :: record, ?_, ?_, ?_⟩
    · rw [List.map_cons, List.map_cons, hResults]
    · have hJoined := hUses.append hUsesRest
      cases attempt with
      | none => exact hJoined
      | some made => exact hJoined
    · intro entry hEntry
      rcases List.mem_cons.mp hEntry with rfl | hEntry
      · exact hTruthful
      · exact hRecord entry hEntry

theorem perform_disabled {id : String} {outcome : Outcome} {reports : List GroupReport}
    (hRule : world.store.rule? id = some rule) (hEnabled : rule.enabled = false)
    (h : (executor.perform id).Returns world (outcome, reports) after) :
    outcome.results = [] ∧ world.desk.Idle after.desk := by
  have hLoaded := loadRule_of_perform hRule h
  obtain ⟨hPair, rfl⟩ := h.unique (start_perform_disabled executor hLoaded hEnabled)
  obtain ⟨rfl, _⟩ := Prod.mk.inj hPair
  exact ⟨rfl, ⟨rfl, rfl⟩⟩

end Executor

/-- A mail that a server accepted. -/
def Delivery.isMailed : Delivery → Bool
  | .mail _ (some _) => true
  | _ => false

theorem Delivery.isMailed_iff {delivery : Delivery} :
    delivery.isMailed = true ↔ ∃ calls message, delivery = .mail calls (some message) := by
  cases delivery with
  | mail calls message? => cases message? <;> simp [isMailed]
  | _ => simp [isMailed]

/-! A server that refuses its first request and accepts everything else, and rules for both
publishers. -/
namespace Sample

def refusingFirst : Transport Nat where
  post _ asked := (.ok ⟨if asked = 0 then 503 else 204, ""⟩, asked + 1)
  mail _ asked := (.ok (), asked + 1)

def deliveringExecutor (transport : Transport Nat) : Executor Nat where
  registry := .standard transport
  settings := { Settings.standard with mailHost := some "mail.acme.org" }
  zone := .universal
  source := Store.eventSource

def publisherRow (key : String) : PublisherRow :=
  ⟨"pub-1", "Deliverer", none, key, none, "text/plain", false, true⟩

def deliveringWorld (key : String) (rule : Rule) : World Nat where
  store := { store rule [] with publishers := [publisherRow key] }
  clock := .ticking (.ofInstant (instant 200)) 0
  desk := ⟨[], [], 0⟩

def hookDocument : String := "\x7b\"destination\": \"https://acme.org/hook\"\x7d"

/-- The token is no text, but mail needs none. -/
def oddMailDocument : String := "\x7b\"token\": 5, \"destination\": \"a@acme.org\"\x7d"

def documentedRule (names : List String) (document : String) : Rule :=
  { rule names (instant 100) with config := some document }

def hookRule : Rule :=
  documentedRule ["NEW_VULNERABILITY", "BOM_CONSUMED", "POLICY_VIOLATION"] hookDocument

def hookWorld : World Nat := deliveringWorld "webhook" hookRule

def oddMailWorld : World Nat :=
  deliveringWorld "email" (documentedRule ["NEW_VULNERABILITY"] oddMailDocument)

theorem leaves_refusingFirst : refusingFirst.Leaves := fun _ _ _ _ => rfl

end Sample

namespace Executor
variable {executor : Executor β} {transport : Transport β} {rule : Rule} {row : PublisherRow}
  {world after : World β}

/-- In every run of a rule for a web address or for mail each group makes at most one attempt, and
its status tells truthfully what became of it. -/
theorem statuses_truthful (hRegistry : executor.registry = .standard transport)
    (hLeaves : transport.Leaves) {id : String} (hRule : world.store.rule? id = some rule)
    (hRow : world.store.publisherOf? rule = some row)
    (hLeads : row.descriptor.LeadsTo "webhook" ∨ row.descriptor.LeadsTo "email")
    {outcome : Outcome} (h : (executor.execute id).Returns world outcome after) :
    ∃ record : List (GroupResult × Option Attempt), outcome.results = record.map (·.1) ∧
      world.desk.Uses transport (record.filterMap (·.2)) after.desk ∧
      ∀ entry ∈ record, Truthful rule row.descriptor entry.1 entry.2 := by
  obtain ⟨reports, hPerform⟩ := execute_returns_iff.mp h
  cases hEnabled : rule.enabled with
  | false =>
    obtain ⟨hResults, hIdle⟩ := perform_disabled hRule hEnabled hPerform
    exact ⟨[], hResults, hIdle.uses, by simp⟩
  | true =>
    obtain ⟨start, targets, names, mid, hStart, hIdle, _, _, hGroups, hConclude⟩ :=
      perform_phases hRule hEnabled hPerform
    rw [← hStart.store_eq] at hRow
    obtain ⟨record, hResults, hUses, hRecord⟩ :=
      processGroups_attempts hRegistry hLeaves hRow hLeads hGroups
    have hEnd := (inward_conclude _ _).idle hConclude
    refine ⟨record, ?_, (hIdle.trans_uses hUses).trans_idle hEnd, hRecord⟩
    rw [(perform_returns hRule hEnabled hPerform).results, hResults]

theorem statuses_truthful_past_a_refusal :
    ∃ outcome after, ∃ record : List (GroupResult × Option Attempt),
      ((Sample.deliveringExecutor Sample.refusingFirst).execute "r1").Returns Sample.hookWorld
        outcome after ∧
      record.map (·.1.status) = [.failed, .unsupported, .published] ∧
      Sample.hookWorld.desk.Uses Sample.refusingFirst (record.filterMap (·.2)) after.desk ∧
      ∃ entry ∈ record, ∃ made, entry.2 = some made ∧ made.Succeeded := by
  obtain ⟨outcome, after, h, hTest⟩ := Run.returnsWith_iff.mp
    (show ((Sample.deliveringExecutor Sample.refusingFirst).execute "r1").returnsWith
      Sample.hookWorld (fun outcome _ =>
        outcome.results.map (·.status) = [.failed, .unsupported, .published]) = true
      by decide +kernel)
  have hStatuses := of_decide_eq_true hTest
  obtain ⟨record, hResults, hUses, hTruthful⟩ := statuses_truthful rfl Sample.leaves_refusingFirst
    rfl rfl (.inl ⟨rfl, by decide +kernel⟩) h
  rw [hResults, List.map_map] at hStatuses
  have hPublished : Status.published ∈ record.map (·.1.status) := by
    rw [show record.map (·.1.status) = _ from hStatuses]
    decide
  obtain ⟨entry, hEntry, hStatus⟩ := List.mem_map.mp hPublished
  exact ⟨outcome, after, record, h, hStatuses, hUses, entry, hEntry,
    (hTruthful entry hEntry).published_iff.mp hStatus⟩

/-- A field that the publisher does not read may be of any kind: mail is sent for a rule whose token
is a number. -/
theorem mail_sent_under_mistyped_token :
    ∃ outcome after config, Config.parse (some Sample.oddMailDocument) = .ok config ∧
      config.Mistyped Key.token ∧
      ((Sample.deliveringExecutor Sample.refusingFirst).execute "r1").Returns Sample.oddMailWorld
        outcome after ∧
      ∃ calls message, .mail calls (some message) ∈ after.desk.deliveries := by
  obtain ⟨outcome, after, h, hTest⟩ := Run.returnsWith_iff.mp
    (show ((Sample.deliveringExecutor Sample.refusingFirst).execute "r1").returnsWith
      Sample.oddMailWorld (fun _ after => after.desk.deliveries.any (·.isMailed)) = true
      by decide +kernel)
  obtain ⟨delivery, hDelivery, hMailed⟩ := List.any_eq_true.mp hTest
  obtain ⟨calls, message, rfl⟩ := Delivery.isMailed_iff.mp hMailed
  obtain ⟨config, hConfig, hToken⟩ := Answer.passes_iff.mp
    (show Answer.passes (Config.parse (some Sample.oddMailDocument))
      (fun config => (Fields.get? config Key.token).map Json.kindName = some "int") = true
      by decide +kernel)
  obtain ⟨value, hValue, hKind⟩ := Option.map_eq_some_iff.mp (of_decide_eq_true hToken)
  refine ⟨outcome, after, config, hConfig, ⟨value, hValue, ?_, ?_⟩, h, calls, message, hDelivery⟩
  · rintro rfl
    simp [Json.kindName] at hKind
  · rintro s rfl
    simp [Json.kindName] at hKind

end Executor

end EventDigest

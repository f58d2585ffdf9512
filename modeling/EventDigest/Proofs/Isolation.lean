import EventDigest.Proofs.Addresses
import EventDigest.Proofs.Agreement
import EventDigest.Proofs.Statuses

/-! # Isolation of groups

What fails in one group of a run becomes its result and leaves the groups after it alone, as long as
the transport raises what it is documented to raise. Two things are not caught: the start of the
window may be out of the calendar in the display zone, and a header of a mail may be impossible to
write. Nothing is said of texts that the readers of documents and headers cannot be expected to take
as they stand: containers or comments nested until the stack is used up, halves of pairs of
surrogates, and encoded words.
-/
set_option autoImplicit false
namespace EventDigest
open Time
variable {β : Type}

/-- The transport raises nothing but the documented faults of requests and of mail sessions. -/
structure Transport.Regular (transport : Transport β) : Prop where
  post : ∀ request before fault after, transport.post request before = (.error fault, after) →
    fault.isRequestFault = true
  mail : ∀ call before fault after, transport.mail call before = (.error fault, after) →
    fault.isMailFault = true

namespace Json

/-- The most containers that are open at once in a text that begins inside a literal or outside,
with some of them open; the brackets in a literal open none. -/
def deepest : Bool → Nat → List Char → Nat
  | _, depth, [] => depth
  | true, depth, '\\' :: _ :: rest => deepest true depth rest
  | true, depth, c :: rest => deepest (c ≠ '"') depth rest
  | false, depth, c :: rest =>
    if c = '"' then deepest true depth rest
    else if c = '[' || c = '{' then deepest false (depth + 1) rest
    else if c = ']' || c = '}' then max depth (deepest false (depth - 1) rest)
    else deepest false depth rest

def nesting (s : String) : Nat := deepest false 0 s.toList

end Json

namespace Publisher

theorem requestFault?_eq_some {transport : Transport β} (hRegular : transport.Regular)
    {request : HttpRequest} {answer : Except Fault HttpResponse} {before after : β} {fault : Fault}
    (hPost : transport.post request before = (answer, after))
    (h : requestFault? request.url answer = some fault) : ∃ reason, fault = .publish reason := by
  cases answer with
  | error other =>
    have hKind := hRegular.post request before other after hPost
    rw [requestFault?, hKind] at h
    exact ⟨_, (Option.some.inj h).symm⟩
  | ok response =>
    rw [requestFault?] at h
    split at h
    · cases h
    · exact ⟨_, (Option.some.inj h).symm⟩

theorem Proceeds.isMailFault {transport : Transport β} (hRegular : transport.Regular)
    {account : MailAccount} {host : String} {message : MailMessage} {outside after : β}
    {session : MailSession} (h : Proceeds transport account host message outside after session)
    {fault : Fault} (hFault : session.fault = some fault) : fault.isMailFault = true := by
  cases h with
  | refused other hOpening =>
    cases hFault
    exact hRegular.mail _ _ _ _ hOpening
  | opened mid late transcript fault? closing hOpening hHolds hConversed hQuit closingFault
      hClosing =>
    -- A fault on leaving the session hides the one that broke it off.
    rcases Option.or_eq_some_iff.mp hFault with hLeft | ⟨_, hBroken⟩
    · rw [(hClosing fault).mp hLeft] at hQuit
      exact hRegular.mail _ _ _ _ hQuit
    · cases hConversed with
      | through => cases hBroken
      | broken said unsaid call other =>
        cases hBroken
        obtain ⟨prior, hCall⟩ := hHolds.last
        exact hRegular.mail _ _ _ _ hCall

end Publisher

namespace Errand

/-- What can stop an errand without failing its group: a mail whose headers cannot be written. -/
inductive Unwritable (errand : Errand) (settings : Settings) : Fault → Prop
  | mail (d : Descriptor) (addresses : List String) (subjectStart : String) (fault : Fault)
    (hDescriptor : errand.descriptor = some d) (hLeads : d.LeadsTo "email")
    (hDestinations : errand.config.destinations = .ok addresses)
    (hSubjectStart : errand.config.textField Key.subjectPrefix = .ok subjectStart)
    (hHeader : Publisher.UnfitHeader (.ofSettings settings) errand.notification.title subjectStart
      (Publisher.recipientsOf (addresses ++ errand.targets.flatMap (·.addresses))) fault) :
    Unwritable errand settings fault

/-- The fault of an errand fails the group, unless it is about a header. -/
theorem Ends.heading_or_unwritable {errand : Errand} {transport : Transport β}
    (hRegular : transport.Regular) {settings : Settings} {desk after : Desk β} {fault : Fault}
    (h : errand.Ends transport settings desk after (.error fault)) :
    (Executor.heading? fault).isSome = true ∨ errand.Unwritable settings fault := by
  cases h with
  | unresolved => exact .inl rfl
  | unposted d _ _ _ hRequest =>
    obtain ⟨reason, rfl⟩ := Publisher.webhookRequest_merged hRequest
    exact .inl rfl
  | posted d request answer _ _ _ _ hPost _ hVerdict =>
    cases hFault : Publisher.requestFault? request.url answer with
    | none =>
      rw [hFault] at hVerdict
      cases hVerdict
    | some other =>
      obtain ⟨reason, rfl⟩ := Publisher.requestFault?_eq_some hRegular hPost hFault
      rw [hFault] at hVerdict
      cases hVerdict
      exact .inl rfl
  | unaddressed => exact .inl rfl
  | unmailed d addresses _ hDescriptor hLeads hDestinations hMail =>
    rcases Publisher.composeMail_merged hMail with ⟨reason, rfl⟩ | ⟨subjectStart, hStart, hHeader⟩
    · exact .inl rfl
    · exact .inr (.mail d addresses subjectStart fault hDescriptor hLeads hDestinations hStart
        hHeader)
  | mailed d addresses host message session _ _ _ _ _ hSession _ hVerdict =>
    have hProceeds := Publisher.proceeds_holdSession transport (.ofSettings settings) host message
      desk.outside
    rw [hSession] at hProceeds
    cases hFault : session.fault with
    | none =>
      rw [Publisher.MailSession.reported?, hFault] at hVerdict
      cases hVerdict
    | some other =>
      have hKind := hProceeds.isMailFault hRegular hFault
      rw [Publisher.MailSession.reported?, hFault, Option.map_some, hKind] at hVerdict
      cases hVerdict
      exact .inl rfl

end Errand

/-- Every reading of the clock is a point in time of the calendar. -/
def Time.Clock.InSpan (clock : Clock) : Prop := ∀ n, ∃ t, (clock.reading n).toInstant = .ok t

theorem World.Follows.inSpan {before after : World β} (h : before.Follows after)
    (hClock : before.clock.InSpan) : after.clock.InSpan := by
  intro n
  rw [h.reading_eq]
  exact hClock n

theorem Publisher.UnfitHeader.of_title {account : MailAccount} {title name subjectStart : String}
    {recipients : List String} {fault : Fault} (hTitle : Text.OneLine name → Text.OneLine title)
    (h : UnfitHeader account title subjectStart recipients fault) :
    UnfitHeader account name subjectStart recipients fault := by
  cases h with
  | subject hBreak => exact .subject fun hLines => hBreak ⟨hLines.1, hTitle hLines.2⟩
  | sender _ hSender => exact .sender fault hSender
  | recipients _ hRecipients => exact .recipients fault hRecipients

namespace Executor
variable {executor : Executor β} {transport : Transport β} {rule : Rule} {world : World β}
  {fault : Fault}

/-- The faults of a group that end the whole run: the start of the window cannot be shown in the
display zone, or a header of the mail cannot be written. -/
inductive Escapes (executor : Executor β) (store : Store) (rule : Rule) : Fault → Prop
  | window (hShown : localText executor.zone rule.watermark = .error .outOfSpan) :
    Escapes executor store rule .outOfSpan
  | header (row : PublisherRow) (config : Config) (addresses : List String) (subjectStart : String)
    (fault : Fault) (hRow : store.publisherOf? rule = some row)
    (hLeads : row.descriptor.LeadsTo "email") (hConfig : Config.parse rule.config = .ok config)
    (hDestinations : config.destinations = .ok addresses)
    (hSubjectStart : config.textField Key.subjectPrefix = .ok subjectStart)
    (hHeader : Publisher.UnfitHeader (.ofSettings executor.settings) rule.name subjectStart
      (Publisher.recipientsOf
        (addresses ++ ((store.teamsOf rule).map Team.target).flatMap (·.addresses))) fault) :
    Escapes executor store rule fault

/-- The headers of the mails of a rule show texts that are taken as they stand. -/
structure LegibleHeaders (executor : Executor β) (store : Store) (rule : Rule) : Prop where
  name : Mail.Verbatim rule.name
  sender : Mail.Spelled (Publisher.MailAccount.ofSettings executor.settings).sender
  subjectStart : ∀ config subjectStart, Config.parse rule.config = .ok config →
    config.textField Key.subjectPrefix = .ok subjectStart → Mail.Verbatim subjectStart
  recipients : ∀ config addresses, Config.parse rule.config = .ok config →
    config.destinations = .ok addresses →
    Mail.Spelled (String.intercalate ", " (Publisher.recipientsOf
      (addresses ++ ((store.teamsOf rule).map Team.target).flatMap (·.addresses))))

/-- The texts of a rule can be read as they stand: the configuration is not nested deeply, and a
mail has no header whose text stands for another. -/
structure Legible (executor : Executor β) (store : Store) (rule : Rule) : Prop where
  config : ∀ document, rule.config = some document → Json.nesting document ≤ 500
  headers : ∀ row, store.publisherOf? rule = some row → row.descriptor.LeadsTo "email" →
    executor.LegibleHeaders store rule

theorem sure_recordFailure (group : String) (ctx : Context) (heading : String) (fault : Fault) :
    (recordFailure group ctx heading fault : Run β GroupResult).Sure :=
  (Run.sure_modify _).bind fun _ => Run.sure_pure _

theorem failGroup_fails {group : String} {ctx : Context} {cause : Fault}
    (h : (failGroup group ctx cause).Fails world fault) :
    heading? cause = none ∧ cause = fault := by
  unfold failGroup at h
  split at h
  · rename_i hHeading
    exact ⟨hHeading, Run.fails_throw_iff.mp h⟩
  · exact (sure_recordFailure _ _ _ _ _ _ h).elim

theorem announce_fails (hClock : world.clock.InSpan) {digest : Digest}
    (hGroup : ∀ name, digest.group ≠ .other name)
    (h : (executor.announce rule digest).Fails world fault) :
    fault = .outOfSpan ∧ localText executor.zone digest.windowStart = .error .outOfSpan := by
  obtain ⟨now, _, hNow, h⟩ := Run.sure_now.of_fails_bind h
  obtain ⟨rfl, rfl⟩ := Run.returns_now_iff.mp hNow
  rw [Run.fails_ofExcept_iff] at h
  rcases Answer.bind_eq_error_iff.mp h with h | ⟨_, _, h⟩
  · cases hShown : localText executor.zone digest.windowStart with
    | error other =>
      rw [hShown] at h
      cases other
      cases h
      exact ⟨rfl, rfl⟩
    | ok text =>
      rw [hShown] at h
      cases h
  · split at h
    · rename_i hNouns
      cases hKind : digest.group with
      | other name => exact (hGroup name hKind).elim
      | _ =>
        rw [hKind] at hNouns
        cases hNouns
    · obtain ⟨t, ht⟩ := hClock world.clock.taken
      rcases Answer.bind_eq_error_iff.mp h with h | ⟨_, _, h⟩
      · rw [ht] at h
        cases h
      · cases h

theorem collect_fails (hSource : executor.source = Store.eventSource)
    (hStore : world.store.Reachable) {projects : List ProjectRef} {windowStart : Instant}
    {group : Group} (hGroup : ∀ name, group ≠ .other name) {includeSuppressed : Bool} :
    ¬(executor.collect projects windowStart group includeSuppressed).Fails world fault := by
  intro h
  obtain ⟨_, _, hGet, h⟩ := Run.sure_get.of_fails_bind h
  obtain ⟨rfl, rfl⟩ := Run.returns_get_iff.mp hGet
  obtain ⟨_, _, _, h⟩ := (Run.sure_modify _).of_fails_bind h
  obtain ⟨digest, hDigest⟩ := hStore.exists_collect hGroup projects windowStart includeSuppressed
  rw [Run.fails_ofExcept_iff, hSource, hDigest] at h
  cases h

theorem conclude_fails (hStore : world.store.Reachable) (hClock : world.clock.InSpan)
    (hRule : world.store.rule? rule.id = some rule) {results : List GroupResult} :
    ¬(conclude rule results).Fails world fault := by
  intro h
  obtain ⟨_, _, hTime⟩ := fault_of_conclude (hStore.loadRule_eq hRule) h
  obtain ⟨t, ht⟩ := hClock world.clock.taken
  rw [ht] at hTime
  cases hTime

section
variable (hRegistry : executor.registry = .standard transport) (hRegular : transport.Regular)
include hRegistry hRegular

theorem publish_fails (hStore : world.store.Reachable) {n : Notification} {targets : List Target}
    (h : (executor.publish rule n targets).Fails world fault) :
    ∃ config, Config.parse rule.config = .ok config ∧
      (rule.errand (world.store.publisherOf? rule) targets n config).Unwritable executor.settings
        fault := by
  unfold publish at h
  split at h
  · exact (sure_recordFailure _ _ _ _ _ _ h).elim
  · rename_i config hConfig
    refine ⟨config, hConfig, ?_⟩
    rcases Run.fails_bind_iff.mp h with h | ⟨row, _, hQuery, h⟩
    · rw [Run.fails_query_iff, hStore.loadPublisher_eq] at h
      cases h
    · obtain ⟨hRow, rfl⟩ := Run.returns_query_iff.mp hQuery
      obtain rfl := Store.loadPublisher_eq_ok hRow
      obtain ⟨answer, mid, hAttempt, h⟩ := (Run.sure_attempt _).of_fails_bind h
      have hEnds : (rule.errand (world.store.publisherOf? rule) targets n config).Ends transport
          executor.settings world.desk mid.desk answer := ends_of_attempt hRegistry hAttempt
      cases answer with
      | error cause =>
        obtain ⟨hHeading, rfl⟩ := failGroup_fails h
        rcases hEnds.heading_or_unwritable hRegular with hSome | hUnwritable
        · rw [hHeading] at hSome
          cases hSome
        · exact hUnwritable
      | ok =>
        dsimp only at h
        split at h
        · exact (((Run.sure_modify _).bind fun _ => Run.sure_pure _) _ _ h).elim
        · exact (Run.sure_pure _ _ _ h).elim

variable (hSource : executor.source = Store.eventSource)
include hSource

theorem processGroup_fails (hStore : world.store.Reachable) (hClock : world.clock.InSpan)
    {projects : List ProjectRef} {name : String}
    (h : (executor.processGroup rule rule.watermark projects
      ((world.store.teamsOf rule).map Team.target) name).Fails world fault) :
    executor.Escapes world.store rule fault := by
  unfold processGroup at h
  split at h
  · exact (((Run.sure_modify _).bind fun _ => Run.sure_pure _) _ _ h).elim
  · rename_i hGroup
    rcases Run.fails_bind_iff.mp h with h | ⟨digest, collected, hCollect, h⟩
    · exact (collect_fails hSource hStore hGroup h).elim
    have hCollected := (quiet_collect _ _ _ _ _).follows hCollect
    obtain ⟨hKind, hStart, _⟩ := Digest.collect_eq_ok (collect_returns hCollect)
    split at h
    · exact (((Run.sure_modify _).bind fun _ => Run.sure_pure _) _ _ h).elim
    rcases Run.fails_bind_iff.mp h with h | ⟨notification, announced, hAnnounce, h⟩
    · obtain ⟨rfl, hShown⟩ := announce_fails (hCollected.inSpan hClock) (hKind ▸ hGroup) h
      exact .window (hStart ▸ hShown)
    have hAnnounced := hCollected.trans ((quiet_announce _ _ _).follows hAnnounce)
    have hNotification := announce_returns hAnnounce
    have hReachable : announced.store.Reachable := hAnnounced.store_eq ▸ hStore
    have hPublish := Run.fails_of_sure_next (fun _ => Run.sure_pure _) h
    obtain ⟨config, hConfig, hUnwritable⟩ := publish_fails hRegistry hRegular hReachable hPublish
    rw [hAnnounced.store_eq] at hUnwritable
    cases hUnwritable with
    | mail d addresses subjectStart _ hDescriptor hLeads hDestinations hSubjectStart hHeader =>
      obtain ⟨row, hRow, rfl⟩ := Option.map_eq_some_iff.mp hDescriptor
      exact .header row config addresses subjectStart fault hRow hLeads hConfig hDestinations
        hSubjectStart (hHeader.of_title (Notification.oneLine_title hNotification))

theorem processGroups_fails (hStore : world.store.Reachable) (hClock : world.clock.InSpan)
    {projects : List ProjectRef} {names : List String}
    (h : (executor.processGroups rule rule.watermark projects
      ((world.store.teamsOf rule).map Team.target) names).Fails world fault) :
    executor.Escapes world.store rule fault := by
  -- The world is general: each group starts where the one before it ended, and what is assumed of
  -- the world survives since a group writes nothing and only reads the clock.
  induction names generalizing world with
  | nil => exact (Run.sure_pure _ _ _ h).elim
  | cons name rest ih =>
    rcases Run.fails_bind_iff.mp h with h | ⟨report, mid, hFirst, h⟩
    · exact processGroup_fails hRegistry hRegular hSource hStore hClock h
    · have hFollows := (quiet_processGroup _ _ _ _ _ _).follows hFirst
      have hRest := Run.fails_of_sure_next (fun _ => Run.sure_pure _) h
      rw [← hFollows.store_eq] at hStore hRest ⊢
      exact ih hStore (hFollows.inSpan hClock) hRest

theorem perform_fails (hStore : world.store.Reachable) (hClock : world.clock.InSpan) {id : String}
    (hRule : world.store.rule? id = some rule) (hEnabled : rule.enabled = true)
    {names : List String} (hNames : rule.groupNames = .ok names)
    (h : (executor.perform id).Fails world fault) : executor.Escapes world.store rule fault := by
  -- Each step before the groups asks the store, which answers; that leaves the groups themselves.
  rcases Run.fails_bind_iff.mp h with h | ⟨loaded, _, hQuery, h⟩
  · rw [Run.fails_query_iff, hStore.loadRule_eq hRule] at h
    cases h
  obtain ⟨hLoaded, rfl⟩ := Run.returns_query_iff.mp hQuery
  obtain rfl : rule = loaded := Except.ok.inj ((hStore.loadRule_eq hRule).symm.trans hLoaded)
  rw [hEnabled] at h
  obtain ⟨_, start, hLog, h⟩ := (Run.sure_modify _).of_fails_bind h
  have hStart := (Run.quiet_log _).follows hLog
  have hStartStore : start.store.Reachable := hStart.store_eq ▸ hStore
  have hStartRule : start.store.rule? rule.id = some rule := by
    rw [hStart.store_eq, Store.id_of_rule? hRule, hRule]
  rw [← hStart.store_eq]
  rcases Run.fails_bind_iff.mp h with h | ⟨projects, _, hQuery, h⟩
  · rw [Run.fails_query_iff, Store.loadScope, hStartStore.read_eq] at h
    cases h
  obtain ⟨_, rfl⟩ := Run.returns_query_iff.mp hQuery
  rcases Run.fails_bind_iff.mp h with h | ⟨targets, _, hQuery, h⟩
  · rw [Run.fails_query_iff, hStartStore.loadTargets_eq] at h
    cases h
  obtain ⟨hTargets, rfl⟩ := Run.returns_query_iff.mp hQuery
  rw [hStartStore.loadTargets_eq, Except.ok.injEq] at hTargets
  subst hTargets
  rcases Run.fails_bind_iff.mp h with h | ⟨watched, _, hAnswer, h⟩
  · rw [Run.fails_ofExcept_iff, hNames] at h
    cases h
  obtain ⟨_, rfl⟩ := Run.returns_ofExcept_iff.mp hAnswer
  rcases Run.fails_bind_iff.mp h with h | ⟨reports, mid, hGroups, h⟩
  · exact processGroups_fails hRegistry hRegular hSource hStartStore (hStart.inSpan hClock) h
  have hMid := (quiet_processGroups _ _ _ _ _ _).follows hGroups
  have hConclude := Run.fails_of_sure_next (fun _ => Run.sure_pure _) h
  exact (conclude_fails (hMid.store_eq ▸ hStartStore) ((hStart.trans hMid).inSpan hClock)
    (hMid.store_eq ▸ hStartRule) hConclude).elim

end

end Executor

/-! A server that nobody reaches, and a rule for mail whose name takes two lines. -/
namespace Sample

def unreachable : Transport Nat where
  post _ asked := (.error (.outside .connection "refused"), asked + 1)
  mail _ asked := (.error (.outside .system "refused"), asked + 1)

theorem regular_unreachable : unreachable.Regular where
  post := by
    rintro _ _ _ _ ⟨rfl, _⟩
    rfl
  mail := by
    rintro _ _ _ _ ⟨rfl, _⟩
    rfl

def mailDocument : String := "\x7b\"destination\": \"a@acme.org\"\x7d"

def twoLineRule : Rule :=
  { documentedRule ["NEW_VULNERABILITY", "POLICY_VIOLATION"] mailDocument with
    name := "Nightly\ndigest" }

def twoLineWorld : World Nat := deliveringWorld "email" twoLineRule

theorem reachable_deliveringWorld (key : String) (rule : Rule) :
    (deliveringWorld key rule).store.Reachable := ⟨rfl, rfl⟩

theorem inSpan_deliveringWorld (key : String) (rule : Rule) :
    (deliveringWorld key rule).clock.InSpan :=
  fun n => ⟨_, Clock.stands_ticking (instant 200) n⟩

theorem legible_hookRule :
    (deliveringExecutor unreachable).Legible hookWorld.store hookRule := by
  constructor
  · rintro document ⟨⟩
    decide
  · rintro row ⟨⟩ hMail
    have hWebhook : (publisherRow "webhook").descriptor.LeadsTo "webhook" :=
      ⟨rfl, by decide +kernel⟩
    exact absurd (hWebhook.eq hMail) (by decide)

theorem legible_twoLineRule :
    (deliveringExecutor refusingFirst).Legible twoLineWorld.store twoLineRule := by
  have hParsed : Config.parse twoLineRule.config = .ok [("destination", .text "a@acme.org")] :=
    Config.parse_texts [("destination", "a@acme.org")] (by decide +kernel)
  refine ⟨?_, fun _ _ _ => ⟨by decide +kernel, by decide +kernel, ?_, ?_⟩⟩
  · rintro document ⟨⟩
    decide
  · intro config subjectStart hConfig hSubjectStart
    obtain rfl := Except.ok.inj (hParsed.symm.trans hConfig)
    obtain rfl : "" = subjectStart := Except.ok.inj hSubjectStart
    decide +kernel
  · intro config addresses hConfig hDestinations
    obtain rfl := Except.ok.inj (hParsed.symm.trans hConfig)
    obtain rfl : ["a@acme.org"] = addresses := Except.ok.inj hDestinations
    decide +kernel

end Sample

namespace Executor
variable {executor : Executor β} {transport : Transport β} {rule : Rule} {world : World β}

/-- A run of an enabled rule with the standard publishers over a store that can be read comes to one
result for every group that it watches, in order, and what fails in a group is the verdict on that
group, unless the start of the window cannot be shown or a header of its mail cannot be written. The
texts of the rule are assumed legible, since the readers here have no stack to use up, take an
encoded word as it stands and replace half of a pair of surrogates. -/
theorem groups_isolated (hRegistry : executor.registry = .standard transport)
    (hRegular : transport.Regular) (hSource : executor.source = Store.eventSource)
    (hStore : world.store.Reachable) (hClock : world.clock.InSpan) {id : String}
    (hRule : world.store.rule? id = some rule) (hEnabled : rule.enabled = true)
    {names : List String} (hNames : rule.groupNames = .ok names)
    (_hLegible : executor.Legible world.store rule) :
    (∃ outcome after, (executor.execute id).Returns world outcome after ∧
      outcome.results.map (·.group) = names ∧
      ∀ result ∈ outcome.results, result.status = .skipped ∨ result.status = .unsupported ∨
        ∃ n before late, rule.Verdict transport executor.settings (world.store.publisherOf? rule)
          ((world.store.teamsOf rule).map Team.target) n before late result) ∨
      ∃ fault, (executor.execute id).Fails world fault ∧
        executor.Escapes world.store rule fault := by
  rcases Run.returns_or_fails (executor.execute id) world with ⟨outcome, after, h⟩ | ⟨fault, h⟩
  · obtain ⟨reports, hPerform⟩ := execute_returns_iff.mp h
    have hRun := perform_returns hRule hEnabled hPerform
    refine .inl ⟨outcome, after, h, ?_, ?_⟩
    · have hGroups := hRun.names.symm.trans hNames
      rw [hRun.results, List.map_map]
      exact Except.ok.inj hGroups
    · intro result hResult
      rw [hRun.results] at hResult
      obtain ⟨report, hReport, rfl⟩ := List.mem_map.mp hResult
      exact perform_verdict hRegistry hStore hRule hEnabled hPerform hReport
  · refine .inr ⟨fault, h, ?_⟩
    exact perform_fails hRegistry hRegular hSource hStore hClock hRule hEnabled hNames
      (Run.fails_of_sure_next (fun _ => Run.sure_pure _) h)

theorem groups_isolated_from_a_lost_server :
    ∃ outcome after, ((Sample.deliveringExecutor Sample.unreachable).execute "r1").Returns
        Sample.hookWorld outcome after ∧
      outcome.results.map (·.group) = ["NEW_VULNERABILITY", "BOM_CONSUMED", "POLICY_VIOLATION"] ∧
      outcome.results.map (·.status) = [.failed, .unsupported, .failed] ∧
      ∀ result ∈ outcome.results, result.status = .failed → ∃ n before late,
        Sample.hookRule.Verdict Sample.unreachable
          (Sample.deliveringExecutor Sample.unreachable).settings
          (Sample.hookWorld.store.publisherOf? Sample.hookRule)
          ((Sample.hookWorld.store.teamsOf Sample.hookRule).map Team.target) n before late
          result := by
  obtain ⟨outcome, after, h, hTest⟩ := Run.returnsWith_iff.mp
    (show ((Sample.deliveringExecutor Sample.unreachable).execute "r1").returnsWith
      Sample.hookWorld (fun outcome _ =>
        outcome.results.map (·.status) = [.failed, .unsupported, .failed]) = true
      by decide +kernel)
  rcases groups_isolated
    (show (Sample.deliveringExecutor Sample.unreachable).registry = .standard Sample.unreachable
      from rfl)
    Sample.regular_unreachable rfl (Sample.reachable_deliveringWorld "webhook" Sample.hookRule)
    (Sample.inSpan_deliveringWorld "webhook" Sample.hookRule)
    (show Sample.hookWorld.store.rule? "r1" = some Sample.hookRule from rfl) rfl
    (show Sample.hookRule.groupNames = .ok
      ["NEW_VULNERABILITY", "BOM_CONSUMED", "POLICY_VIOLATION"] from rfl)
    Sample.legible_hookRule with
    ⟨other, last, hReturns, hGroups, hVerdicts⟩ | ⟨fault, hFails, _⟩
  · obtain ⟨rfl, rfl⟩ : outcome = other ∧ after = last := h.unique hReturns
    refine ⟨outcome, after, h, hGroups, of_decide_eq_true hTest, ?_⟩
    intro result hResult hFailed
    rcases hVerdicts result hResult with hStatus | hStatus | hVerdict
    · rw [hFailed] at hStatus
      cases hStatus
    · rw [hFailed] at hStatus
      cases hStatus
    · exact hVerdict
  · exact (h.not_fails fault hFails).elim

/-- Without the exceptions the law fails: when the name of a rule takes two lines, its mail ends the
run with the first group, and no group gets a result. -/
theorem two_line_name_ends_the_run :
    Sample.refusingFirst.Regular ∧ Sample.twoLineWorld.store.Reachable ∧
      Sample.twoLineWorld.clock.InSpan ∧
      Sample.twoLineWorld.store.rule? "r1" = some Sample.twoLineRule ∧
      Sample.twoLineRule.enabled = true ∧
      Sample.twoLineRule.groupNames = .ok ["NEW_VULNERABILITY", "POLICY_VIOLATION"] ∧
      (Sample.deliveringExecutor Sample.refusingFirst).Legible Sample.twoLineWorld.store
        Sample.twoLineRule ∧
      ((Sample.deliveringExecutor Sample.refusingFirst).execute "r1").Fails Sample.twoLineWorld
        .headerLineBreak := by
  have hRegular : Sample.refusingFirst.Regular := by
    constructor
    · rintro _ _ _ _ ⟨⟩
    · rintro _ _ _ _ ⟨⟩
  obtain ⟨fault, hFails, hTest⟩ := Run.failsWith_iff.mp
    (show ((Sample.deliveringExecutor Sample.refusingFirst).execute "r1").failsWith
      Sample.twoLineWorld (fun fault => fault = .headerLineBreak) = true by decide +kernel)
  obtain rfl := of_decide_eq_true hTest
  exact ⟨hRegular, Sample.reachable_deliveringWorld "email" _,
    Sample.inSpan_deliveringWorld "email" _, rfl, rfl, rfl, Sample.legible_twoLineRule, hFails⟩

end Executor

end EventDigest

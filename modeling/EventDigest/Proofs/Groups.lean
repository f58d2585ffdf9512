import EventDigest.Proofs.Returns
import EventDigest.Proofs.Window
import Mathlib.Data.List.Forall2

/-! # Groups of a run

Processing a group of a rule writes nothing to the store, and its report is one of three: the name
is no group that can be collected, the window holds nothing new and is passed over, or a
notification about the window was built and handed to a publisher.
-/
set_option autoImplicit false
namespace EventDigest
open Time

namespace Notification

def events (n : Notification) : List Event :=
  match n.subject with
  | .digest digest => digest.events
  | .document _ => []

theorem announce_eq_ok {ruleName scope : String} {digest : Digest} {now : Stamp}
    {zone : Zone} {n : Notification}
    (h : announce ruleName scope digest now zone = .ok n) :
    n.group = digest.group ∧ n.subject = .digest digest ∧
      ∃ timestamp, now.toInstant = .ok timestamp ∧ n.timestamp = some timestamp := by
  obtain ⟨since, _, h⟩ := Answer.bind_eq_ok_iff.mp h
  split at h
  · cases h
  · obtain ⟨timestamp, hTimestamp, h⟩ := Answer.bind_eq_ok_iff.mp h
    rw [Fault.ofSpan_eq_ok_iff] at hTimestamp
    rw [Answer.pure_eq_ok_iff] at h
    subst h
    exact ⟨rfl, rfl, timestamp, hTimestamp, rfl⟩

/-- A title is made of counts of new events and of the name of the rule. -/
def titleText (noun : String) (overview : Overview) (ruleName : String) : String :=
  s!"{overview.newCount} new {noun} in {overview.affectedComponents} " ++
    s!"component(s) in Scheduled Rule '{ruleName}'"

theorem title_of_announce {ruleName scope : String} {digest : Digest} {now : Stamp}
    {zone : Zone} {n : Notification}
    (h : announce ruleName scope digest now zone = .ok n) :
    ∃ nouns, eventNouns? digest.group = some nouns ∧
      n.title = titleText nouns.1 digest.overview ruleName := by
  obtain ⟨since, _, h⟩ := Answer.bind_eq_ok_iff.mp h
  split at h
  · cases h
  · rename_i titleNoun leadNoun hNouns
    obtain ⟨timestamp, _, h⟩ := Answer.bind_eq_ok_iff.mp h
    rw [Answer.pure_eq_ok_iff] at h
    subst h
    exact ⟨(titleNoun, leadNoun), hNouns, rfl⟩

theorem events_of_subject {n : Notification} {digest : Digest} (h : n.subject = .digest digest) :
    n.events = digest.events := by
  rw [events, h]

end Notification

variable {β : Type}

/-- Among the reports is one of a group whose notification was delivered. -/
def Delivered (reports : List GroupReport) (group : String) (n : Notification) : Prop :=
  ∃ report ∈ reports, report.result.group = group ∧ report.result.status = .published ∧
    report.notification = some n

namespace Executor

/-- What a report on a group of a rule can say, given the store that it was collected from. -/
inductive Reports (executor : Executor β) (rule : Rule) (windowStart : Instant)
    (projects : List ProjectRef) (store : Store) (name : String) : GroupReport → Prop
  | unsupported (message : String) (hName : Group.ofName name = .other name) :
    Reports executor rule windowStart projects store name
      ⟨⟨name, .unsupported, some message⟩, none⟩
  | skipped (digest : Digest)
    (hDigest : Digest.collect (executor.source store) projects windowStart (Group.ofName name)
      rule.includeSuppressed = .ok digest)
    (hNone : digest.overview.newCount = 0) (hOnly : rule.onlyWithUpdates = true) :
    Reports executor rule windowStart projects store name ⟨⟨name, .skipped, none⟩, none⟩
  | announced (digest : Digest) (now : Stamp) (notification : Notification) (result : GroupResult)
    (hDigest : Digest.collect (executor.source store) projects windowStart (Group.ofName name)
      rule.includeSuppressed = .ok digest)
    (hShown : ¬(digest.overview.newCount = 0 ∧ rule.onlyWithUpdates = true))
    (hNotification : Notification.announce rule.name rule.scope digest now executor.zone =
      .ok notification)
    (hGroup : result.group = name)
    (hStatus : result.status = .published ∨ result.status = .failed) :
    Reports executor rule windowStart projects store name ⟨result, some notification⟩

section
variable {executor : Executor β} {rule : Rule} {windowStart : Instant} {projects : List ProjectRef}
  {store : Store} {name : String} {report : GroupReport}

theorem Reports.group_eq (h : executor.Reports rule windowStart projects store name report) :
    report.result.group = name := by
  cases h with
  | unsupported => rfl
  | skipped => rfl
  | announced => assumption

theorem Reports.status_of_none
    (h : executor.Reports rule windowStart projects store name report)
    (hNone : report.notification = none) :
    report.result.status = .skipped ∨ report.result.status = .unsupported := by
  cases h with
  | unsupported => exact .inr rfl
  | skipped => exact .inl rfl
  | announced => cases hNone

theorem Reports.exists_notification
    (h : executor.Reports rule windowStart projects store name report)
    (hStatus : report.result.status = .published) : ∃ n, report.notification = some n := by
  cases h with
  | unsupported => cases hStatus
  | skipped => cases hStatus
  | announced _ _ notification => exact ⟨notification, rfl⟩

/-- Over the tables of a store the details of a notification are the window of its group. -/
theorem Reports.mem_events_iff (hSource : executor.source = Store.eventSource)
    (h : executor.Reports rule windowStart projects store name report) {n : Notification}
    (hBuilt : report.notification = some n) (e : Event) :
    e ∈ n.events ↔ e ∈ store.events (Group.ofName name) ∧
      (∃ project ∈ projects, project.id = e.project) ∧ windowStart < e.occurredAt ∧
        (rule.includeSuppressed = true ∨ e.suppressed = false) := by
  cases h with
  | unsupported => cases hBuilt
  | skipped => cases hBuilt
  | announced digest now notification result hDigest hShown hNotification =>
    cases hBuilt
    rw [hSource] at hDigest
    rw [Notification.events_of_subject (Notification.announce_eq_ok hNotification).2.1]
    exact Store.mem_collected_iff hDigest e

/-- A group whose window holds an event that is not suppressed is not passed over. -/
theorem Reports.attempted (hSource : executor.source = Store.eventSource)
    (h : executor.Reports rule windowStart projects store name report)
    (hSupported : Group.ofName name ≠ .other name) {e : Event}
    (hRow : e ∈ store.events (Group.ofName name))
    (hCovered : ∃ project ∈ projects, project.id = e.project) (hLater : windowStart < e.occurredAt)
    (hNew : e.suppressed = false) :
    report.result.status = .published ∨ report.result.status = .failed := by
  cases h with
  | unsupported _ hName => exact (hSupported hName).elim
  | skipped digest hDigest hNone =>
    rw [hSource] at hDigest
    have hMem := (Store.mem_collected_iff hDigest e).mpr ⟨hRow, hCovered, hLater, .inr hNew⟩
    have hSuppressed := (Digest.newCount_eq_zero_iff hDigest).mp hNone e hMem
    rw [hNew] at hSuppressed
    cases hSuppressed
  | announced => assumption

end

theorem quiet_recordFailure (group : String) (ctx : Context) (heading : String) (fault : Fault) :
    (recordFailure group ctx heading fault : Run β GroupResult).Quiet :=
  (Run.quiet_log _).bind fun _ => Run.quiet_pure _

theorem quiet_failGroup (group : String) (ctx : Context) (fault : Fault) :
    (failGroup group ctx fault : Run β GroupResult).Quiet := by
  unfold failGroup
  split
  · exact Run.quiet_throw fault
  · exact quiet_recordFailure _ _ _ _

theorem recordFailure_returns {group heading : String} {ctx : Context} {fault : Fault}
    {world after : World β} {result : GroupResult}
    (h : (recordFailure group ctx heading fault).Returns world result after) :
    result = ⟨group, .failed, some fault.message⟩ ∧ world.desk.Idle after.desk := by
  obtain ⟨_, _, hLog, h⟩ := Run.returns_bind_iff.mp h
  obtain rfl := Run.returns_modify_iff.mp hLog
  obtain ⟨rfl, rfl⟩ := Run.returns_pure_iff.mp h
  exact ⟨rfl, rfl, rfl⟩

theorem failGroup_returns {group : String} {ctx : Context} {fault : Fault} {world after : World β}
    {result : GroupResult} (h : (failGroup group ctx fault).Returns world result after) :
    result = ⟨group, .failed, some fault.message⟩ ∧ world.desk.Idle after.desk := by
  unfold failGroup at h
  split at h
  · exact (Run.not_returns_throw _ _ _ _ h).elim
  · exact recordFailure_returns h

theorem quiet_publish (executor : Executor β) (rule : Rule) (notification : Notification)
    (targets : List Target) : (executor.publish rule notification targets).Quiet := by
  unfold publish
  split
  · exact quiet_recordFailure _ _ _ _
  · refine (Run.quiet_query _).bind fun _ => (Run.quiet_attempt _).bind fun answer => ?_
    cases answer with
    | error fault => exact quiet_failGroup _ _ _
    | ok =>
      dsimp only
      split
      · exact (Run.quiet_log _).bind fun _ => Run.quiet_pure _
      · exact Run.quiet_pure _

theorem publish_returns {executor : Executor β} {rule : Rule} {notification : Notification}
    {targets : List Target} {world after : World β} {result : GroupResult}
    (h : (executor.publish rule notification targets).Returns world result after) :
    result.group = notification.group.name ∧
      (result.status = .published ∨ result.status = .failed) := by
  unfold publish at h
  split at h
  · obtain ⟨rfl, _⟩ := recordFailure_returns h
    exact ⟨rfl, .inr rfl⟩
  · obtain ⟨_, _, _, h⟩ := Run.returns_bind_iff.mp h
    obtain ⟨answer, _, _, h⟩ := Run.returns_bind_iff.mp h
    cases answer with
    | error fault =>
      obtain ⟨rfl, _⟩ := failGroup_returns h
      exact ⟨rfl, .inr rfl⟩
    | ok =>
      dsimp only at h
      split at h
      · obtain ⟨_, _, _, h⟩ := Run.returns_bind_iff.mp h
        obtain ⟨rfl, _⟩ := Run.returns_pure_iff.mp h
        exact ⟨rfl, .inl rfl⟩
      · obtain ⟨rfl, _⟩ := Run.returns_pure_iff.mp h
        exact ⟨rfl, .inl rfl⟩

theorem quiet_announce (executor : Executor β) (rule : Rule) (digest : Digest) :
    (executor.announce rule digest).Quiet :=
  Run.quiet_now.bind fun _ => Run.quiet_ofExcept _

theorem announce_returns {executor : Executor β} {rule : Rule} {digest : Digest}
    {world after : World β} {notification : Notification}
    (h : (executor.announce rule digest).Returns world notification after) :
    Notification.announce rule.name rule.scope digest (world.clock.reading world.clock.taken)
      executor.zone = .ok notification := by
  obtain ⟨now, _, hNow, h⟩ := Run.returns_bind_iff.mp h
  obtain ⟨rfl, rfl⟩ := Run.returns_now_iff.mp hNow
  exact (Run.returns_ofExcept_iff.mp h).1

/-- Collecting writes its lines and answers, by what the store holds. -/
theorem start_collect (executor : Executor β) (projects : List ProjectRef) (windowStart : Instant)
    (group : Group) (includeSuppressed : Bool) (world : World β) :
    (executor.collect projects windowStart group includeSuppressed).start world =
      (do
        Run.logAll (windowEntries (executor.source world.store) group includeSuppressed
          windowStart (distinct projects))
        Run.ofExcept (Digest.collect (executor.source world.store) projects windowStart group
          includeSuppressed) : Run β Digest).start world := rfl

theorem quiet_collect (executor : Executor β) (projects : List ProjectRef) (windowStart : Instant)
    (group : Group) (includeSuppressed : Bool) :
    (executor.collect projects windowStart group includeSuppressed).Quiet :=
  Run.quiet_get.bind fun _ => (Run.quiet_logAll _).bind fun _ => Run.quiet_ofExcept _

theorem collect_returns {executor : Executor β} {projects : List ProjectRef} {windowStart : Instant}
    {group : Group} {includeSuppressed : Bool} {world after : World β} {digest : Digest}
    (h : (executor.collect projects windowStart group includeSuppressed).Returns world digest
      after) :
    Digest.collect (executor.source world.store) projects windowStart group includeSuppressed =
      .ok digest := by
  obtain ⟨_, _, hGet, h⟩ := Run.returns_bind_iff.mp h
  obtain ⟨rfl, rfl⟩ := Run.returns_get_iff.mp hGet
  obtain ⟨_, _, _, h⟩ := Run.returns_bind_iff.mp h
  exact (Run.returns_ofExcept_iff.mp h).1

theorem quiet_processGroup (executor : Executor β) (rule : Rule) (windowStart : Instant)
    (projects : List ProjectRef) (targets : List Target) (name : String) :
    (executor.processGroup rule windowStart projects targets name).Quiet := by
  unfold processGroup
  split
  · exact (Run.quiet_log _).bind fun _ => Run.quiet_pure _
  · refine (quiet_collect _ _ _ _ _).bind fun digest => ?_
    split
    · exact (Run.quiet_log _).bind fun _ => Run.quiet_pure _
    · exact (quiet_announce _ _ _).bind fun _ => (quiet_publish _ _ _ _).bind fun _ =>
        Run.quiet_pure _

/-- The course that one group takes between two worlds, and the runs that it consists of. -/
inductive Course (executor : Executor β) (rule : Rule) (windowStart : Instant)
    (projects : List ProjectRef) (targets : List Target) (name : String) (world after : World β) :
    GroupReport → Prop
  | unsupported (entry : Entry) (hName : Group.ofName name = .other name)
    (hLog : (Run.log entry).Returns world () after) :
    Course executor rule windowStart projects targets name world after
      ⟨⟨name, .unsupported, some (Fault.unsupportedGroup name).message⟩, none⟩
  | skipped (digest : Digest) (collected : World β) (entry : Entry)
    (hKnown : ∀ unknown, Group.ofName name ≠ .other unknown)
    (hCollect : (executor.collect projects windowStart (Group.ofName name)
      rule.includeSuppressed).Returns world digest collected)
    (hNone : digest.overview.newCount = 0) (hOnly : rule.onlyWithUpdates = true)
    (hLog : (Run.log entry).Returns collected () after) :
    Course executor rule windowStart projects targets name world after
      ⟨⟨name, .skipped, none⟩, none⟩
  | announced (digest : Digest) (notification : Notification) (result : GroupResult)
    (collected built : World β) (hKnown : ∀ unknown, Group.ofName name ≠ .other unknown)
    (hCollect : (executor.collect projects windowStart (Group.ofName name)
      rule.includeSuppressed).Returns world digest collected)
    (hShown : ¬(digest.overview.newCount = 0 ∧ rule.onlyWithUpdates = true))
    (hAnnounce : (executor.announce rule digest).Returns collected notification built)
    (hFollows : world.Follows built)
    (hPublish : (executor.publish rule notification targets).Returns built result after) :
    Course executor rule windowStart projects targets name world after ⟨result, some notification⟩

theorem course_of_processGroup {executor : Executor β} {rule : Rule} {windowStart : Instant}
    {projects : List ProjectRef} {targets : List Target} {name : String} {world after : World β}
    {report : GroupReport}
    (h : (executor.processGroup rule windowStart projects targets name).Returns world report
      after) :
    executor.Course rule windowStart projects targets name world after report := by
  unfold processGroup at h
  split at h
  · rename_i other hName
    obtain rfl := Group.eq_of_ofName hName
    obtain ⟨_, _, hLog, h⟩ := Run.returns_bind_iff.mp h
    obtain ⟨rfl, rfl⟩ := Run.returns_pure_iff.mp h
    exact .unsupported _ hName hLog
  · rename_i hKnown
    obtain ⟨digest, collected, hCollect, h⟩ := Run.returns_bind_iff.mp h
    split at h
    · rename_i hSkip
      rw [Bool.and_eq_true, decide_eq_true_eq] at hSkip
      obtain ⟨_, _, hLog, h⟩ := Run.returns_bind_iff.mp h
      obtain ⟨rfl, rfl⟩ := Run.returns_pure_iff.mp h
      exact .skipped digest collected _ hKnown hCollect hSkip.1 hSkip.2 hLog
    · rename_i hShown
      rw [Bool.and_eq_true, decide_eq_true_eq] at hShown
      obtain ⟨notification, built, hAnnounce, h⟩ := Run.returns_bind_iff.mp h
      obtain ⟨result, _, hPublish, h⟩ := Run.returns_bind_iff.mp h
      obtain ⟨rfl, rfl⟩ := Run.returns_pure_iff.mp h
      have hFollows := ((quiet_collect _ _ _ _ _).follows hCollect).trans
        ((quiet_announce _ _ _).follows hAnnounce)
      exact .announced digest notification result collected built hKnown hCollect hShown hAnnounce
        hFollows hPublish

theorem processGroup_returns {executor : Executor β} {rule : Rule} {windowStart : Instant}
    {projects : List ProjectRef} {targets : List Target} {name : String} {world after : World β}
    {report : GroupReport}
    (h : (executor.processGroup rule windowStart projects targets name).Returns world report
      after) :
    executor.Reports rule windowStart projects world.store name report := by
  cases course_of_processGroup h with
  | unsupported entry hName => exact .unsupported _ hName
  | skipped digest collected entry hKnown hCollect hNone hOnly =>
    exact .skipped digest (collect_returns hCollect) hNone hOnly
  | announced digest notification result collected built hKnown hCollect hShown hAnnounce _
      hPublish =>
    have hDigest := collect_returns hCollect
    have hNotification := announce_returns hAnnounce
    obtain ⟨hGroup, hStatus⟩ := publish_returns hPublish
    refine .announced digest _ notification result hDigest hShown hNotification ?_ hStatus
    rw [hGroup, (Notification.announce_eq_ok hNotification).1, (Digest.collect_eq_ok hDigest).1,
      Group.name_ofName]

theorem quiet_processGroups (executor : Executor β) (rule : Rule) (windowStart : Instant)
    (projects : List ProjectRef) (targets : List Target) (names : List String) :
    (executor.processGroups rule windowStart projects targets names).Quiet := by
  induction names with
  | nil => exact Run.quiet_pure _
  | cons name rest ih =>
    exact (quiet_processGroup _ _ _ _ _ _).bind fun _ => ih.bind fun _ => Run.quiet_pure _

/-- One report is made for each name, in order, each in a world that follows the first one. -/
theorem forall₂_of_processGroups {executor : Executor β} {rule : Rule} {windowStart : Instant}
    {projects : List ProjectRef} {targets : List Target} {names : List String}
    {world after : World β} {reports : List GroupReport}
    (h : (executor.processGroups rule windowStart projects targets names).Returns world reports
      after) :
    List.Forall₂ (fun name report => ∃ start last, world.Follows start ∧
      (executor.processGroup rule windowStart projects targets name).Returns start report last)
      names reports := by
  induction names generalizing world after reports with
  | nil =>
    obtain ⟨rfl, _⟩ := Run.returns_pure_iff.mp h
    exact .nil
  | cons name rest ih =>
    obtain ⟨report, mid, hFirst, h⟩ := Run.returns_bind_iff.mp h
    obtain ⟨others, _, hRest, h⟩ := Run.returns_bind_iff.mp h
    obtain ⟨rfl, _⟩ := Run.returns_pure_iff.mp h
    have hMid := (quiet_processGroup _ _ _ _ _ _).follows hFirst
    refine .cons ⟨world, mid, .refl world, hFirst⟩ ((ih hRest).imp ?_)
    rintro _ _ ⟨start, last, hStart, hGroup⟩
    exact ⟨start, last, hMid.trans hStart, hGroup⟩

theorem exists_processGroup_of_mem {executor : Executor β} {rule : Rule} {windowStart : Instant}
    {projects : List ProjectRef} {targets : List Target} {names : List String}
    {world after : World β} {reports : List GroupReport}
    (h : (executor.processGroups rule windowStart projects targets names).Returns world reports
      after) {report : GroupReport} (hReport : report ∈ reports) :
    ∃ name start last, world.Follows start ∧
      (executor.processGroup rule windowStart projects targets name).Returns start report last := by
  have hEach := forall₂_of_processGroups h
  obtain ⟨i, hi, rfl⟩ := List.getElem_of_mem hReport
  exact ⟨_, hEach.get (hEach.length_eq ▸ hi) hi⟩

/-- Each report is made from the store that the run began with. -/
theorem processGroups_returns {executor : Executor β} {rule : Rule} {windowStart : Instant}
    {projects : List ProjectRef} {targets : List Target} {names : List String}
    {world after : World β} {reports : List GroupReport}
    (h : (executor.processGroups rule windowStart projects targets names).Returns world reports
      after) :
    reports.map (·.result.group) = names ∧ ∀ report ∈ reports,
      executor.Reports rule windowStart projects world.store report.result.group report := by
  have hEach := forall₂_of_processGroups h
  clear h
  induction hEach with
  | nil => exact ⟨rfl, by simp⟩
  | cons hFirst _ ih =>
    obtain ⟨start, _, hStart, hGroup⟩ := hFirst
    have hReport := processGroup_returns hGroup
    rw [hStart.store_eq] at hReport
    have hName := hReport.group_eq
    constructor
    · rw [List.map_cons, hName, ih.1]
    · refine List.forall_mem_cons.mpr ⟨?_, ih.2⟩
      rwa [hName]

end Executor

end EventDigest

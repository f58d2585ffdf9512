import EventDigest.Proofs.Errands
import EventDigest.Proofs.Performed
import EventDigest.Proofs.Reachable

/-! # Verdicts on groups

With the standard publishers the result of a group that is announced is the verdict on one errand:
published when the errand ends well, and failed with the message of its fault when it does not. A
configuration that is no document of its kind fails the group before there is an errand.
-/
set_option autoImplicit false
namespace EventDigest
variable {β : Type}

namespace Rule

/-- What a rule asks of its publisher: to deliver a notification under a configuration. -/
def errand (rule : Rule) (row : Option PublisherRow) (targets : List Target) (n : Notification)
    (config : Config) : Errand where
  context := (Context.ofNotification n).withRule rule.id (some rule.name)
  notification := n
  descriptor := row.map (·.descriptor)
  config
  targets

/-- The result that a group gets when its notification is published between two desks. -/
inductive Verdict (rule : Rule) (transport : Transport β) (settings : Settings)
    (row : Option PublisherRow) (targets : List Target) (n : Notification)
    (before after : Desk β) : GroupResult → Prop
  | unconfigured (fault : ConfigFault) (hConfig : Config.parse rule.config = .error fault)
    (hIdle : before.Idle after) :
    Verdict rule transport settings row targets n before after
      ⟨n.group.name, .failed, some (Fault.config fault).message⟩
  | published (config : Config) (mid : Desk β) (hConfig : Config.parse rule.config = .ok config)
    (hEnds : (rule.errand row targets n config).Ends transport settings before mid (.ok ()))
    (hIdle : mid.Idle after) :
    Verdict rule transport settings row targets n before after
      ⟨n.group.name, .published, none⟩
  | failed (config : Config) (fault : Fault) (mid : Desk β)
    (hConfig : Config.parse rule.config = .ok config)
    (hEnds : (rule.errand row targets n config).Ends transport settings before mid (.error fault))
    (hIdle : mid.Idle after) :
    Verdict rule transport settings row targets n before after
      ⟨n.group.name, .failed, some fault.message⟩

end Rule

namespace Executor
variable {executor : Executor β} {transport : Transport β} {rule : Rule} {world after : World β}
  {targets : List Target}

theorem ends_of_attempt (hRegistry : executor.registry = .standard transport) {errand : Errand}
    {answer : Except Fault Unit} {mid : World β}
    (h : (Run.attempt (executor.deliver errand.context errand.notification errand.descriptor
      errand.config errand.targets)).Returns world answer mid) :
    errand.Ends transport executor.settings world.desk mid.desk answer := by
  obtain ⟨hAnswer, hMid⟩ := Run.returns_attempt_iff.mp h
  rw [← hAnswer, ← hMid]
  exact doneBy_deliver hRegistry errand world.desk

theorem publish_verdict (hRegistry : executor.registry = .standard transport) {n : Notification}
    {result : GroupResult} (h : (executor.publish rule n targets).Returns world result after) :
    rule.Verdict transport executor.settings (world.store.publisherOf? rule) targets n world.desk
      after.desk result := by
  unfold publish at h
  split at h
  · rename_i fault hConfig
    obtain ⟨rfl, hIdle⟩ := recordFailure_returns h
    exact .unconfigured fault hConfig hIdle
  · rename_i config hConfig
    obtain ⟨row, _, hQuery, h⟩ := Run.returns_bind_iff.mp h
    obtain ⟨hRow, rfl⟩ := Run.returns_query_iff.mp hQuery
    obtain rfl := Store.loadPublisher_eq_ok hRow
    obtain ⟨answer, mid, hAttempt, h⟩ := Run.returns_bind_iff.mp h
    have hEnds : (rule.errand (world.store.publisherOf? rule) targets n config).Ends transport
        executor.settings world.desk mid.desk answer := ends_of_attempt hRegistry hAttempt
    cases answer with
    | error fault =>
      obtain ⟨rfl, hIdle⟩ := failGroup_returns h
      exact .failed config fault mid.desk hConfig hEnds hIdle
    | ok =>
      dsimp only at h
      split at h
      · obtain ⟨_, _, hLog, h⟩ := Run.returns_bind_iff.mp h
        obtain rfl := Run.returns_modify_iff.mp hLog
        obtain ⟨rfl, rfl⟩ := Run.returns_pure_iff.mp h
        exact .published config mid.desk hConfig hEnds ⟨rfl, rfl⟩
      · obtain ⟨rfl, rfl⟩ := Run.returns_pure_iff.mp h
        exact .published config mid.desk hConfig hEnds (.refl _)

theorem processGroup_verdict (hRegistry : executor.registry = .standard transport)
    {windowStart : Time.Instant} {projects : List ProjectRef} {name : String} {report : GroupReport}
    (h : (executor.processGroup rule windowStart projects targets name).Returns world report after)
    {n : Notification} (hBuilt : report.notification = some n) :
    ∃ before late, rule.Verdict transport executor.settings (world.store.publisherOf? rule) targets
      n before late report.result := by
  cases course_of_processGroup h with
  | unsupported => cases hBuilt
  | skipped => cases hBuilt
  | announced digest notification result collected built _ _ _ _ hFollows hPublish =>
    cases hBuilt
    rw [← hFollows.store_eq]
    exact ⟨_, _, publish_verdict hRegistry hPublish⟩

theorem processGroups_verdicts (hRegistry : executor.registry = .standard transport)
    {windowStart : Time.Instant} {projects : List ProjectRef} {names : List String}
    {reports : List GroupReport}
    (h : (executor.processGroups rule windowStart projects targets names).Returns world reports
      after) {report : GroupReport} (hReport : report ∈ reports) {n : Notification}
    (hBuilt : report.notification = some n) :
    ∃ before late, rule.Verdict transport executor.settings (world.store.publisherOf? rule) targets
      n before late report.result := by
  obtain ⟨name, start, _, hStart, hGroup⟩ := exists_processGroup_of_mem h hReport
  rw [← hStart.store_eq]
  exact processGroup_verdict hRegistry hGroup hBuilt

/-- Over a store that can be read, what a run does not pass over gets a verdict. -/
theorem perform_verdict (hRegistry : executor.registry = .standard transport)
    (hStore : world.store.Reachable) {id : String} (hRule : world.store.rule? id = some rule)
    (hEnabled : rule.enabled = true) {outcome : Outcome} {reports : List GroupReport}
    (h : (executor.perform id).Returns world (outcome, reports) after) {report : GroupReport}
    (hReport : report ∈ reports) :
    report.result.status = .skipped ∨ report.result.status = .unsupported ∨
      ∃ n before late, rule.Verdict transport executor.settings (world.store.publisherOf? rule)
        ((world.store.teamsOf rule).map Team.target) n before late report.result := by
  have hReports := (perform_returns hRule hEnabled h).reported report hReport
  obtain ⟨start, targets, names, mid, hStart, _, hTargets, _, hGroups, _⟩ :=
    perform_phases hRule hEnabled h
  rw [hStore.loadTargets_eq, Except.ok.injEq] at hTargets
  subst hTargets
  cases hBuilt : report.notification with
  | none => exact (hReports.status_of_none hBuilt).imp_right .inl
  | some n =>
    have hVerdict := processGroups_verdicts hRegistry hGroups hReport hBuilt
    rw [hStart.store_eq] at hVerdict
    exact .inr (.inr ⟨n, hVerdict⟩)

end Executor

end EventDigest

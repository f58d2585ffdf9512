import EventDigest.Proofs.Watermark

/-! # Stores that can be read

A store is reachable when its tables were made and no access to them fails. Every question to such a
store that does not ask for a rule or for a group that it lacks is answered.
-/
set_option autoImplicit false
namespace EventDigest
open Time

namespace Store

def publisherOf? (store : Store) (rule : Rule) : Option PublisherRow :=
  rule.publisher.bind fun id => store.publishers.find? (·.id = id)

theorem loadPublisher_eq_ok {store : Store} {rule : Rule} {row : Option PublisherRow}
    (h : store.loadPublisher rule = .ok row) : store.publisherOf? rule = row := by
  unfold loadPublisher at h
  unfold publisherOf?
  split at h
  · rename_i hPublisher
    rw [hPublisher]
    exact Except.ok.inj h
  · rename_i id hPublisher
    rw [hPublisher]
    exact read_eq_ok h

/-- Nothing keeps the table from being read. -/
def Readable (store : Store) (table : Table) : Prop := store.obstacle? (.read table) table = none

theorem Readable.read_eq {store : Store} {table : Table} (h : store.Readable table) {ρ : Type}
    (rows : Store → ρ) : store.read table rows = .ok (rows store) := by
  rw [read, h]

theorem Readable.loadRule_eq {store : Store} (h : store.Readable .rules) {id : String} {rule : Rule}
    (hRule : store.rule? id = some rule) : store.loadRule id = .ok rule := by
  rw [loadRule, h.read_eq, hRule]
  rfl

/-- Its tables were made, and no access to them fails. -/
structure Reachable (store : Store) : Prop where
  created : store.created = true
  undisturbed : store.outage = none

theorem Reachable.obstacle?_eq_none {store : Store} (h : store.Reachable) (access : Access)
    (table : Table) : store.obstacle? access table = none := by
  simp [obstacle?, failure?, h.created, h.undisturbed]

theorem Reachable.readable {store : Store} (h : store.Reachable) (table : Table) :
    store.Readable table :=
  h.obstacle?_eq_none (.read table) table

theorem Reachable.read_eq {store : Store} (h : store.Reachable) {ρ : Type} (table : Table)
    (rows : Store → ρ) : store.read table rows = .ok (rows store) :=
  (h.readable table).read_eq rows

theorem Reachable.loadRule_eq {store : Store} (h : store.Reachable) {id : String} {rule : Rule}
    (hRule : store.rule? id = some rule) : store.loadRule id = .ok rule :=
  (h.readable .rules).loadRule_eq hRule

theorem Reachable.loadTargets_eq {store : Store} (h : store.Reachable) (rule : Rule) :
    store.loadTargets rule = .ok ((store.teamsOf rule).map Team.target) := by
  rw [loadTargets, h.read_eq]
  change (if (store.teamsOf rule).isEmpty = true then _ else _) = _
  rw [h.read_eq]
  split
  · rename_i hEmpty
    rw [List.isEmpty_iff.mp hEmpty]
    rfl
  · rfl

theorem Reachable.loadPublisher_eq {store : Store} (h : store.Reachable) (rule : Rule) :
    store.loadPublisher rule = .ok (store.publisherOf? rule) := by
  unfold loadPublisher publisherOf?
  split
  · rename_i hPublisher
    rw [hPublisher]
    rfl
  · rename_i id hPublisher
    rw [h.read_eq, hPublisher]
    rfl

theorem Reachable.since_eq {store : Store} (h : store.Reachable) {group : Group}
    (hGroup : ∀ name, group ≠ .other name) (project : ProjectRef) (includeSuppressed : Bool)
    (since : Instant) : store.eventSource.since project group includeSuppressed since =
      .ok (store.eventsSince project.id group includeSuppressed since) := by
  cases group with
  | vulnerability => simp [eventSource, eventTable?, h.obstacle?_eq_none]
  | violation => simp [eventSource, eventTable?, h.obstacle?_eq_none]
  | other name => exact (hGroup name rfl).elim

theorem Reachable.totals_eq {store : Store} (h : store.Reachable) {group : Group}
    (hGroup : ∀ name, group ≠ .other name) (project : ProjectRef) :
    store.eventSource.totals project group = .ok (store.totals project.id group) := by
  cases group with
  | vulnerability => simp [eventSource, eventTable?, h.obstacle?_eq_none]
  | violation => simp [eventSource, eventTable?, h.obstacle?_eq_none]
  | other name => exact (hGroup name rfl).elim

/-- Nothing keeps the events of the group from being read. -/
def ReadsEvents (store : Store) (group : Group) : Prop :=
  ∃ table, eventTable? group = some table ∧ store.obstacle? (.read table) table = none

/-- Nothing keeps the events of the group from being counted. -/
def CountsEvents (store : Store) (group : Group) : Prop :=
  ∃ table, eventTable? group = some table ∧ store.obstacle? (.count table) table = none

theorem exists_since_iff {store : Store} {group : Group} (project : ProjectRef)
    (includeSuppressed : Bool) (since : Instant) :
    (∃ events, store.eventSource.since project group includeSuppressed since = .ok events) ↔
      store.ReadsEvents group := by
  simp only [eventSource, ReadsEvents]
  cases eventTable? group with
  | none => simp
  | some table => cases hRead : store.obstacle? (.read table) table <;> simp [hRead]

theorem exists_totals_iff {store : Store} {group : Group} (project : ProjectRef) :
    (∃ counts, store.eventSource.totals project group = .ok counts) ↔ store.CountsEvents group := by
  simp only [eventSource, CountsEvents]
  cases eventTable? group with
  | none => simp
  | some table => cases hCount : store.obstacle? (.count table) table <;> simp [hCount]

/-- A window is answered where every project can be read, and counted if it has events in it. -/
theorem exists_collect_iff {store : Store} {group : Group} (projects : List ProjectRef)
    (since : Instant) (includeSuppressed : Bool) :
    (∃ digest, Digest.collect store.eventSource projects since group includeSuppressed =
        .ok digest) ↔
      ∀ project ∈ projects, store.ReadsEvents group ∧
        (store.eventsSince project.id group includeSuppressed since ≠ [] →
          store.CountsEvents group) := by
  constructor
  · rintro ⟨digest, hDigest⟩ project hProject
    obtain ⟨_, _, _, windows, hWindows, hSections⟩ := Digest.collect_eq_ok hDigest
    obtain ⟨window, hWindow⟩ :=
      Answer.exists_of_mapM hWindows ((mem_distinct_iff project projects).mpr hProject)
    obtain ⟨events, hEvents, _⟩ := Answer.bind_eq_ok_iff.mp hWindow
    refine ⟨(exists_since_iff ..).mp ⟨events, hEvents⟩, fun hSome => ?_⟩
    have hMem : (project, events) ∈ windows.filter (!·.2.isEmpty) := by
      refine List.mem_filter.mpr ⟨(Digest.mem_windows_iff hWindows _).mpr ⟨hProject, hEvents⟩, ?_⟩
      rw [since_eq_ok hEvents, Bool.not_eq_true', List.isEmpty_eq_false_iff]
      exact hSome
    obtain ⟨s, hSection⟩ := Answer.exists_of_mapM hSections hMem
    obtain ⟨counts, hCounts, _⟩ := Answer.bind_eq_ok_iff.mp hSection
    exact (exists_totals_iff _).mp ⟨counts, hCounts⟩
  · intro hAll
    obtain ⟨windows, hWindows⟩ := Answer.exists_mapM
      (fun project => do
        return (project, ← store.eventSource.since project group includeSuppressed since))
      (distinct projects) fun project hProject => by
        obtain ⟨events, hEvents⟩ := (exists_since_iff project includeSuppressed since).mpr
          (hAll project ((mem_distinct_iff ..).mp hProject)).1
        exact ⟨_, Answer.bind_eq_ok_iff.mpr ⟨events, hEvents, rfl⟩⟩
    obtain ⟨sections, hSections⟩ := Answer.exists_mapM
      (fun window => Digest.sectionOf store.eventSource group includeSuppressed window.1 window.2)
      (windows.filter (!·.2.isEmpty)) fun window hWindow => by
        obtain ⟨hMem, hSome⟩ := List.mem_filter.mp hWindow
        obtain ⟨hProject, hEvents⟩ := (Digest.mem_windows_iff hWindows window).mp hMem
        rw [since_eq_ok hEvents, Bool.not_eq_true', List.isEmpty_eq_false_iff] at hSome
        obtain ⟨counts, hCounts⟩ := (exists_totals_iff window.1).mpr ((hAll _ hProject).2 hSome)
        exact ⟨_, Answer.bind_eq_ok_iff.mpr ⟨counts, hCounts, rfl⟩⟩
    exact ⟨_, Answer.bind_eq_ok_iff.mpr
      ⟨windows, hWindows, Answer.bind_eq_ok_iff.mpr ⟨sections, hSections, rfl⟩⟩⟩

theorem Reachable.exists_collect {store : Store} (h : store.Reachable) {group : Group}
    (hGroup : ∀ name, group ≠ .other name) (projects : List ProjectRef) (windowStart : Instant)
    (includeSuppressed : Bool) :
    ∃ digest, Digest.collect store.eventSource projects windowStart group includeSuppressed =
      .ok digest :=
  (exists_collect_iff ..).mpr fun project _ =>
    ⟨(exists_since_iff ..).mp ⟨_, h.since_eq hGroup project includeSuppressed windowStart⟩,
      fun _ => (exists_totals_iff project).mp ⟨_, h.totals_eq hGroup project⟩⟩

end Store

end EventDigest

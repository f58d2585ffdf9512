import EventDigest.Proofs.Answer
import EventDigest.Proofs.Overview
import EventDigest.Store.Events
import Mathlib.Data.List.Basic

/-! # Events of a window

Which events a digest holds, and when it counts none of them as new. Over the tables of a store the
events of a digest are the rows of its group that belong to one of its projects and happened after
the start of its window.
-/
set_option autoImplicit false
namespace EventDigest
open Time

section
variable {α : Type} [DecidableEq α]

/-- The elements are kept in the order in which they first occur. -/
theorem pairwise_distinct (as : List α) :
    (distinct as).Pairwise fun a b => as.idxOf a < as.idxOf b := by
  induction as with
  | nil => exact List.Pairwise.nil
  | cons a rest ih =>
    rw [distinct, List.pairwise_cons]
    constructor
    · intro b hb
      have hOther : b ≠ a := by simpa using (List.mem_filter.mp hb).2
      rw [List.idxOf_cons_self, List.idxOf_cons_ne rest (Ne.symm hOther)]
      exact Nat.succ_pos _
    · rw [List.pairwise_filter]
      refine ih.imp fun {b c} hBefore hb hc => ?_
      have hb : b ≠ a := by simpa using hb
      have hc : c ≠ a := by simpa using hc
      rw [List.idxOf_cons_ne rest (Ne.symm hb), List.idxOf_cons_ne rest (Ne.symm hc)]
      exact Nat.succ_lt_succ hBefore

end

namespace Digest
variable {ε : Type}

def events (digest : Digest) : List Event := digest.sections.flatMap (·.events)

theorem sectionOf_eq_ok {source : EventSource ε} {group : Group} {includeSuppressed : Bool}
    {project : ProjectRef} {events : List Event} {s : Section}
    (h : sectionOf source group includeSuppressed project events = .ok s) : s.events = events := by
  obtain ⟨totals, _, hs⟩ := Answer.bind_eq_ok_iff.mp h
  rw [Answer.pure_eq_ok_iff] at hs
  rw [← hs]

/-- What was asked of the source when a digest was collected. -/
theorem collect_eq_ok {source : EventSource ε} {projects : List ProjectRef} {windowStart : Instant}
    {group : Group} {includeSuppressed : Bool} {digest : Digest}
    (h : collect source projects windowStart group includeSuppressed = .ok digest) :
    digest.group = group ∧ digest.windowStart = windowStart ∧
      digest.overview = overviewOf group includeSuppressed digest.sections ∧
      ∃ windows, (distinct projects).mapM (fun project => do
          return (project, ← source.since project group includeSuppressed windowStart)) =
            .ok windows ∧
        (windows.filter (!·.2.isEmpty)).mapM (fun window =>
          sectionOf source group includeSuppressed window.1 window.2) = .ok digest.sections := by
  obtain ⟨windows, hWindows, h⟩ := Answer.bind_eq_ok_iff.mp h
  obtain ⟨sections, hSections, h⟩ := Answer.bind_eq_ok_iff.mp h
  rw [Answer.pure_eq_ok_iff] at h
  subst h
  exact ⟨rfl, rfl, rfl, windows, hWindows, hSections⟩

/-- The windows are the answers of the source about the given projects. -/
theorem mem_windows_iff {source : EventSource ε} {projects : List ProjectRef}
    {windowStart : Instant} {group : Group} {includeSuppressed : Bool}
    {windows : List (ProjectRef × List Event)}
    (h : (distinct projects).mapM (fun project => do
      return (project, ← source.since project group includeSuppressed windowStart)) = .ok windows)
    (window : ProjectRef × List Event) :
    window ∈ windows ↔ window.1 ∈ projects ∧
      source.since window.1 group includeSuppressed windowStart = .ok window.2 := by
  obtain ⟨project, events⟩ := window
  rw [Answer.mem_of_mapM h]
  simp only [Answer.bind_eq_ok_iff, Answer.pure_eq_ok_iff, mem_distinct_iff, Prod.mk.injEq]
  constructor
  · rintro ⟨_, hProject, _, hEvents, rfl, rfl⟩
    exact ⟨hProject, hEvents⟩
  · rintro ⟨hProject, hEvents⟩
    exact ⟨project, hProject, events, hEvents, rfl, rfl⟩

/-- The details of a digest: the events of each project that has any. -/
def details (digest : Digest) : List (ProjectRef × List Event) :=
  digest.sections.map fun s => (s.project, s.events)

/-- The details are the windows of the distinct projects, in their order, without the empty ones. -/
theorem details_of_collect {source : EventSource ε} {projects : List ProjectRef}
    {windowStart : Instant} {group : Group} {includeSuppressed : Bool} {digest : Digest}
    (h : collect source projects windowStart group includeSuppressed = .ok digest) :
    ∃ windows : List (ProjectRef × List Event), windows.map (·.1) = distinct projects ∧
      (∀ window ∈ windows,
        source.since window.1 group includeSuppressed windowStart = .ok window.2) ∧
      digest.details = windows.filter (!·.2.isEmpty) := by
  obtain ⟨_, _, _, windows, hWindows, hSections⟩ := collect_eq_ok h
  refine ⟨windows, ?_, ?_, ?_⟩
  · have hProjects := Answer.map_eq_of_mapM (·.1) id hWindows <| by
      intro project window hWindow
      obtain ⟨events, _, hPair⟩ := Answer.bind_eq_ok_iff.mp hWindow
      rw [← Answer.pure_eq_ok_iff.mp hPair]
      rfl
    rwa [List.map_id] at hProjects
  · exact fun window hMem => ((mem_windows_iff hWindows window).mp hMem).2
  · have hDetails := Answer.map_eq_of_mapM (fun s => (s.project, s.events)) id hSections <| by
        intro window s hSection
        obtain ⟨totals, _, hs⟩ := Answer.bind_eq_ok_iff.mp hSection
        rw [← Answer.pure_eq_ok_iff.mp hs]
        rfl
    rwa [List.map_id] at hDetails

theorem nodup_projects_of_collect {source : EventSource ε} {projects : List ProjectRef}
    {windowStart : Instant} {group : Group} {includeSuppressed : Bool} {digest : Digest}
    (h : collect source projects windowStart group includeSuppressed = .ok digest) :
    (digest.sections.map (·.project)).Nodup := by
  obtain ⟨windows, hProjects, _, hDetails⟩ := details_of_collect h
  have hSame : digest.sections.map (·.project) = digest.details.map (·.1) := by
    rw [details, List.map_map]
    rfl
  rw [hSame, hDetails]
  have hSublist : ((windows.filter (!·.2.isEmpty)).map (·.1)).Sublist (windows.map (·.1)) :=
    List.filter_sublist.map _
  exact (hProjects ▸ hSublist).nodup (nodup_distinct projects)

theorem mem_events_of_collect {source : EventSource ε} {projects : List ProjectRef}
    {windowStart : Instant} {group : Group} {includeSuppressed : Bool} {digest : Digest}
    (h : collect source projects windowStart group includeSuppressed = .ok digest) (e : Event) :
    e ∈ digest.events ↔ ∃ project ∈ projects, ∃ events,
      source.since project group includeSuppressed windowStart = .ok events ∧ e ∈ events := by
  obtain ⟨_, _, _, windows, hWindows, hSections⟩ := collect_eq_ok h
  have hWindow := mem_windows_iff hWindows
  rw [events, List.mem_flatMap]
  constructor
  · rintro ⟨s, hs, he⟩
    obtain ⟨window, hMem, hSection⟩ := (Answer.mem_of_mapM hSections s).mp hs
    rw [sectionOf_eq_ok hSection] at he
    have hKnown := (hWindow window).mp (List.mem_filter.mp hMem).1
    exact ⟨window.1, hKnown.1, window.2, hKnown.2, he⟩
  · rintro ⟨project, hProject, events, hEvents, he⟩
    have hMem : (project, events) ∈ windows.filter (!·.2.isEmpty) := by
      refine List.mem_filter.mpr ⟨(hWindow _).mpr ⟨hProject, hEvents⟩, ?_⟩
      cases events with
      | nil => cases he
      | cons => rfl
    obtain ⟨s, hs⟩ := Answer.exists_of_mapM hSections hMem
    exact ⟨s, (Answer.mem_of_mapM hSections s).mpr ⟨_, hMem, hs⟩, (sectionOf_eq_ok hs).symm ▸ he⟩

theorem newCount_of_collect {source : EventSource ε} {projects : List ProjectRef}
    {windowStart : Instant} {group : Group} {includeSuppressed : Bool} {digest : Digest}
    (h : collect source projects windowStart group includeSuppressed = .ok digest) :
    digest.overview.newCount = (digest.events.filter (!·.suppressed)).length := by
  obtain ⟨_, _, hOverview, _⟩ := collect_eq_ok h
  rw [events, List.filter_flatMap, hOverview, overviewOf_eq]
  rfl

theorem newCount_eq_zero_iff {source : EventSource ε} {projects : List ProjectRef}
    {windowStart : Instant} {group : Group} {includeSuppressed : Bool} {digest : Digest}
    (h : collect source projects windowStart group includeSuppressed = .ok digest) :
    digest.overview.newCount = 0 ↔ ∀ e ∈ digest.events, e.suppressed = true := by
  rw [newCount_of_collect h]
  simp

end Digest

namespace Store

def events (store : Store) : Group → List Event
  | .vulnerability => store.findings.map Finding.toEvent
  | .violation => store.violations.map Violation.toEvent
  | .other _ => []

theorem mem_eventsSince_iff (store : Store) (project : String) (group : Group)
    (includeSuppressed : Bool) (since : Instant) (e : Event) :
    e ∈ store.eventsSince project group includeSuppressed since ↔
      e ∈ store.events group ∧ e.project = project ∧ since < e.occurredAt ∧
        (includeSuppressed = true ∨ e.suppressed = false) := by
  cases group with
  | vulnerability =>
    simp only [eventsSince, findingsSince, events, List.mem_map, List.mem_mergeSort,
      List.mem_filter, Bool.and_eq_true, Bool.or_eq_true, decide_eq_true_eq, Bool.not_eq_true']
    constructor
    · rintro ⟨f, ⟨hf, ⟨hProject, hSince⟩, hShown⟩, rfl⟩
      exact ⟨⟨f, hf, rfl⟩, hProject, hSince, hShown⟩
    · rintro ⟨⟨f, hf, rfl⟩, hProject, hSince, hShown⟩
      exact ⟨f, ⟨hf, ⟨hProject, hSince⟩, hShown⟩, rfl⟩
  | violation =>
    simp only [eventsSince, violationsSince, events, List.mem_map, List.mem_mergeSort,
      List.mem_filter, Bool.and_eq_true, Bool.or_eq_true, decide_eq_true_eq, Bool.not_eq_true']
    constructor
    · rintro ⟨v, ⟨hv, ⟨hProject, hSince⟩, hShown⟩, rfl⟩
      exact ⟨⟨v, hv, rfl⟩, hProject, hSince, hShown⟩
    · rintro ⟨⟨v, hv, rfl⟩, hProject, hSince, hShown⟩
      exact ⟨v, ⟨hv, ⟨hProject, hSince⟩, hShown⟩, rfl⟩
  | other name => simp [eventsSince, events]

theorem since_eq_ok {store : Store} {project : ProjectRef} {group : Group}
    {includeSuppressed : Bool} {since : Instant} {events : List Event}
    (h : store.eventSource.since project group includeSuppressed since = .ok events) :
    events = store.eventsSince project.id group includeSuppressed since := by
  simp only [eventSource] at h
  split at h
  · cases h
  · split at h
    · cases h
    · exact (Except.ok.inj h).symm

theorem mem_collected_iff {store : Store} {projects : List ProjectRef} {windowStart : Instant}
    {group : Group} {includeSuppressed : Bool} {digest : Digest}
    (h : Digest.collect store.eventSource projects windowStart group includeSuppressed = .ok digest)
    (e : Event) :
    e ∈ digest.events ↔ e ∈ store.events group ∧ (∃ project ∈ projects, project.id = e.project) ∧
      windowStart < e.occurredAt ∧ (includeSuppressed = true ∨ e.suppressed = false) := by
  rw [Digest.mem_events_of_collect h]
  constructor
  · rintro ⟨project, hProject, events, hEvents, he⟩
    rw [since_eq_ok hEvents, mem_eventsSince_iff] at he
    obtain ⟨hRow, hOwner, hSince, hShown⟩ := he
    exact ⟨hRow, ⟨project, hProject, hOwner.symm⟩, hSince, hShown⟩
  · rintro ⟨hRow, ⟨project, hProject, hOwner⟩, hSince, hShown⟩
    obtain ⟨_, _, _, windows, hWindows, _⟩ := Digest.collect_eq_ok h
    obtain ⟨window, hWindow⟩ :=
      Answer.exists_of_mapM hWindows ((mem_distinct_iff project projects).mpr hProject)
    obtain ⟨events, hEvents, _⟩ := Answer.bind_eq_ok_iff.mp hWindow
    refine ⟨project, hProject, events, hEvents, ?_⟩
    rw [since_eq_ok hEvents, mem_eventsSince_iff]
    exact ⟨hRow, hOwner.symm, hSince, hShown⟩

end Store

end EventDigest

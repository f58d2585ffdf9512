import EventDigest.Proofs.Performed
import EventDigest.Proofs.Reachable
import EventDigest.Proofs.Sorted

/-! # Details over the tables

Over a store that can be read, the details of a window are the rows that qualify for it: each
project that has one, in the order in which the projects were first named, with all its rows in the
order of time.
-/
set_option autoImplicit false
namespace EventDigest
open Time

namespace Event

/-- In the order of time, and by number where times agree. -/
def Precedes (a b : Event) : Prop :=
  a.occurredAt < b.occurredAt ∨ a.occurredAt = b.occurredAt ∧ a.id ≤ b.id

/-- A row belongs to the window of a project that starts at a stamp. The start is taken as the point
in time that the stamp means, whether or not the calendar reaches it. -/
def Qualifies (project : ProjectRef) (windowStart : Stamp) (includeSuppressed : Bool) (e : Event) :
    Prop :=
  e.project = project.id ∧ windowStart.universalMicros < e.occurredAt.micros ∧
    (includeSuppressed = true ∨ e.suppressed = false)

instance (project : ProjectRef) (windowStart : Stamp) (includeSuppressed : Bool) (e : Event) :
    Decidable (e.Qualifies project windowStart includeSuppressed) :=
  inferInstanceAs (Decidable (_ ∧ _ ∧ (_ ∨ _)))

theorem precedes_iff_micros (a b : Event) :
    a.Precedes b ↔ a.occurredAt.micros < b.occurredAt.micros ∨
      a.occurredAt.micros = b.occurredAt.micros ∧ a.id ≤ b.id := by
  have hSame : a.occurredAt = b.occurredAt ↔ a.occurredAt.micros = b.occurredAt.micros := by
    cases a.occurredAt
    cases b.occurredAt
    exact Instant.mk.injEq .. ▸ Iff.rfl
  rw [Precedes, hSame]
  rfl

theorem Precedes.trans {a b c : Event} (hab : a.Precedes b) (hbc : b.Precedes c) :
    a.Precedes c := by
  rw [precedes_iff_micros] at hab hbc ⊢
  omega

theorem precedes_total (a b : Event) : a.Precedes b ∨ b.Precedes a := by
  rw [precedes_iff_micros, precedes_iff_micros]
  omega

end Event

theorem Finding.precedes_iff (a b : Finding) :
    precedes a b = true ↔ a.toEvent.Precedes b.toEvent := by
  rw [Event.precedes_iff_micros]
  simp [precedes, toEvent]

theorem Violation.precedes_iff (a b : Violation) :
    precedes a b = true ↔ a.toEvent.Precedes b.toEvent := by
  rw [Event.precedes_iff_micros]
  simp [precedes, toEvent]

section
variable {ρ : Type} {toEvent : ρ → Event} {precedes : ρ → ρ → Bool}

/-- Rows that are sorted as their events precede each other give their events in that order. -/
theorem pairwise_sorted_rows (h : ∀ a b, precedes a b = true ↔ (toEvent a).Precedes (toEvent b))
    (rows : List ρ) : ((rows.mergeSort precedes).map toEvent).Pairwise Event.Precedes :=
  List.pairwise_map.mpr (pairwise_sorted_by h (fun _ _ _ => Event.Precedes.trans)
    (fun _ _ => Event.precedes_total _ _) rows)

end

/-- Sorting the rows that qualify loses none and repeats none. -/
theorem perm_sorted_rows {ρ : Type} (toEvent : ρ → Event) (precedes : ρ → ρ → Bool)
    (qualifies : Event → Bool) (rows : List ρ) :
    (((rows.filter fun row => qualifies (toEvent row)).mergeSort precedes).map toEvent).Perm
      ((rows.map toEvent).filter qualifies) := by
  rw [List.filter_map]
  exact (List.mergeSort_perm _ _).map toEvent

namespace Store

theorem pairwise_eventsSince (store : Store) (project : String) (group : Group)
    (includeSuppressed : Bool) (since : Instant) :
    (store.eventsSince project group includeSuppressed since).Pairwise Event.Precedes := by
  cases group with
  | vulnerability => exact pairwise_sorted_rows Finding.precedes_iff _
  | violation => exact pairwise_sorted_rows Violation.precedes_iff _
  | other name => exact List.Pairwise.nil

theorem perm_eventsSince (store : Store) (project : ProjectRef) (group : Group)
    (includeSuppressed : Bool) {windowStart : Stamp} {since : Instant}
    (hStart : windowStart.toInstant = .ok since) :
    (store.eventsSince project.id group includeSuppressed since).Perm
      ((store.events group).filter (·.Qualifies project windowStart includeSuppressed)) := by
  -- The test of the query, which compares with the start as a point in time of the calendar.
  let shown : Event → Bool := fun e => decide (e.project = project.id) &&
    decide (since.micros < e.occurredAt.micros) && (includeSuppressed || !e.suppressed)
  have hShown : (fun e : Event => decide (e.Qualifies project windowStart includeSuppressed)) =
      shown := by
    funext e
    rw [Stamp.toInstant_eq_ok_iff] at hStart
    rw [Bool.eq_iff_iff]
    simp [shown, Event.Qualifies, ← hStart, and_assoc]
  rw [hShown]
  cases group with
  | vulnerability => exact perm_sorted_rows Finding.toEvent Finding.precedes shown store.findings
  | violation => exact perm_sorted_rows Violation.toEvent Violation.precedes shown store.violations
  | other name => exact List.Perm.nil

/-- The windows of a store that can be read. -/
theorem Reachable.windows_of_collect {store : Store} (h : store.Reachable) {group : Group}
    (hGroup : ∀ name, group ≠ .other name) {projects : List ProjectRef} {windowStart : Instant}
    {includeSuppressed : Bool} {digest : Digest}
    (hDigest : Digest.collect store.eventSource projects windowStart group includeSuppressed =
      .ok digest) :
    digest.details = ((distinct projects).map fun project =>
      (project, store.eventsSince project.id group includeSuppressed windowStart)).filter
        (!·.2.isEmpty) := by
  obtain ⟨windows, hProjects, hEvents, hDetails⟩ := Digest.details_of_collect hDigest
  rw [hDetails, ← hProjects, List.map_map]
  congr 1
  refine (List.map_id windows).symm.trans (List.map_congr_left fun window hWindow => ?_)
  have hAnswer := (h.since_eq hGroup _ _ _).symm.trans (hEvents window hWindow)
  exact Prod.ext rfl (Except.ok.inj hAnswer).symm

end Store

/-! Tables with one finding on the start of a window, two at one time after it and one of a project
that nobody asked for. -/
namespace Sample

def tables : Store :=
  store (rule [] .first) [finding 4 "p1" (instant 100), finding 3 "p1" (instant 150),
    finding 2 "p1" (instant 150), finding 1 "p9" (instant 900)]

/-- Two hours ahead of universal time, at the time of the earliest finding. -/
def windowStart : Stamp := ⟨instant (100 + 120 * microsPerMinute), some (120 * microsPerMinute)⟩

/-- The first moment that a clock five hours ahead of universal time can show. -/
def beforeCalendar : Stamp := ⟨.first, some (300 * microsPerMinute)⟩

def acme : ProjectRef := ⟨"p1", "Acme", none⟩

def labs : ProjectRef := ⟨"p2", "Acme Labs", none⟩

theorem reachable_tables : tables.Reachable := ⟨rfl, rfl⟩

end Sample

namespace Store

/-- Over tables that can be read, the details of the window that starts at a stamp are the
qualifying rows of the projects that have any. A stamp that means no point of the calendar starts no
window. -/
theorem details_of_digestSince {store : Store} (hStore : store.Reachable) {group : Group}
    (hGroup : ∀ name, group ≠ .other name) (projects : List ProjectRef) (windowStart : Stamp)
    (includeSuppressed : Bool) :
    (0 ≤ windowStart.universalMicros → windowStart.universalMicros < spanMicros →
      ∃ digest, store.digestSince projects windowStart group includeSuppressed = .ok digest ∧
        (∀ project, project ∈ digest.details.map (·.1) ↔ project ∈ projects ∧
          ∃ e ∈ store.events group, e.Qualifies project windowStart includeSuppressed) ∧
        (digest.details.map (·.1)).Pairwise (fun a b => projects.idxOf a < projects.idxOf b) ∧
        ∀ entry ∈ digest.details,
          entry.2.Perm ((store.events group).filter
            (·.Qualifies entry.1 windowStart includeSuppressed)) ∧
          entry.2.Pairwise Event.Precedes) ∧
    (windowStart.universalMicros < 0 ∨ spanMicros ≤ windowStart.universalMicros →
      store.digestSince projects windowStart group includeSuppressed = .error .outOfSpan) := by
  constructor
  · intro hFrom hUpTo
    obtain ⟨since, hSince⟩ := Stamp.exists_toInstant hFrom hUpTo
    obtain ⟨digest, hDigest⟩ := hStore.exists_collect hGroup projects since includeSuppressed
    have hDetails := hStore.windows_of_collect hGroup hDigest
    have hRows := fun project : ProjectRef =>
      store.perm_eventsSince project group includeSuppressed hSince
    refine ⟨digest, ?_, ?_, ?_, ?_⟩
    · rw [digestSince, hSince]
      exact hDigest
    · intro project
      have hSome : (!(store.eventsSince project.id group includeSuppressed since).isEmpty) = true ↔
          ∃ e ∈ store.events group, e.Qualifies project windowStart includeSuppressed := by
        rw [Bool.not_eq_true', List.isEmpty_eq_false_iff_exists_mem]
        refine exists_congr fun e => ?_
        rw [(hRows project).mem_iff, List.mem_filter, decide_eq_true_iff]
      rw [hDetails, ← hSome, ← mem_distinct_iff project projects, List.filter_map, List.map_map]
      simp only [List.mem_map, List.mem_filter, Function.comp_apply]
      constructor
      · rintro ⟨_, hProject, rfl⟩
        exact hProject
      · intro hProject
        exact ⟨project, hProject, rfl⟩
    · rw [hDetails, List.filter_map, List.map_map]
      exact List.pairwise_map.mpr ((pairwise_distinct projects).sublist List.filter_sublist)
    · rw [hDetails]
      intro entry hEntry
      obtain ⟨project, _, rfl⟩ := List.mem_map.mp (List.mem_filter.mp hEntry).1
      exact ⟨hRows project, store.pairwise_eventsSince ..⟩
  · intro hOutside
    rw [digestSince, Stamp.toInstant_eq_error_iff.mpr hOutside]
    rfl

theorem details_of_digestSince_with_offset :
    (∃ digest, Sample.tables.digestSince [Sample.labs, Sample.acme, Sample.acme] Sample.windowStart
        .vulnerability false = .ok digest ∧
      Sample.labs ∉ digest.details.map (·.1) ∧ Sample.acme ∈ digest.details.map (·.1) ∧
      ∀ entry ∈ digest.details, entry.1 = Sample.acme →
        (entry.2.map (·.id)).Perm [3, 2] ∧ entry.2.Pairwise Event.Precedes) ∧
    Sample.tables.digestSince [Sample.acme] ⟨Sample.instant 100, some spanMicros⟩ .vulnerability
      true = .error .outOfSpan := by
  have hGroup : ∀ name, Group.vulnerability ≠ .other name := by simp
  constructor
  · obtain ⟨digest, hDigest, hProjects, _, hEntries⟩ := (details_of_digestSince
      Sample.reachable_tables hGroup [Sample.labs, Sample.acme, Sample.acme] Sample.windowStart
      false).1 (by decide) (by decide)
    refine ⟨digest, hDigest, ?_, ?_, ?_⟩
    · rw [hProjects]
      decide
    · rw [hProjects]
      decide
    · intro entry hEntry hAcme
      obtain ⟨hRows, hSorted⟩ := hEntries entry hEntry
      rw [hAcme] at hRows
      exact ⟨hRows.map _, hSorted⟩
  · exact (details_of_digestSince Sample.reachable_tables hGroup _ _ _).2 (.inl (by decide))

/-- Without its bounds on the start of the window the law fails: rows qualify, but nothing is
answered about a window that starts before the calendar does. -/
theorem window_before_calendar_unanswered :
    Sample.tables.Reachable ∧
      (∃ e ∈ Sample.tables.events .vulnerability,
        e.Qualifies Sample.acme Sample.beforeCalendar false) ∧
      Sample.tables.digestSince [Sample.acme] Sample.beforeCalendar .vulnerability false =
        .error .outOfSpan :=
  ⟨Sample.reachable_tables, by decide, rfl⟩

end Store

end EventDigest

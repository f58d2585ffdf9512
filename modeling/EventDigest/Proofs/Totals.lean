import EventDigest.Proofs.Details
import EventDigest.Proofs.Views
import Mathlib.Algebra.BigOperators.Ring.Finset

/-! # Totals over the tables

The sections of a digest over the tables, and what their two counts have to do with each other. New
events are counted one by one as they were read; totals are counted in the tables by the category as
it was written and put together afterwards. Both count the same rows, so no category has more new
events than it has in all.
-/
set_option autoImplicit false
namespace EventDigest
open Time

/-- The counts of the distinct elements that pass a test add up to how many elements pass it. -/
theorem sum_count_distinct {α : Type} [BEq α] [LawfulBEq α] [DecidableEq α] (test : α → Bool)
    (as : List α) : (((distinct as).filter test).map fun a => as.count a).sum = as.countP test := by
  have hPerm : (distinct as).Perm as.dedup :=
    (List.perm_ext_iff_of_nodup (nodup_distinct as) as.nodup_dedup).mpr fun a => by
      rw [mem_distinct_iff, List.mem_dedup]
  obtain rfl := lawful_beq_subsingleton ‹BEq α› instBEqOfDecidableEq
  rw [((hPerm.filter test).map _).sum_eq, List.sum_map_count_dedup_filter_eq_countP]

namespace Store

theorem merged_eq (groups : List (Option String × Nat)) : merged groups =
    groups.foldl (fun (counts : Counts) group => counts.add (categoryOf group.1) group.2) [] := rfl

/-- Values are counted as they were written, yet a category has the count of all that mean it. -/
theorem of_merged_grouped (column : List (Option String)) (category : String) :
    (merged (grouped column)).of category = (column.map categoryOf).count category := by
  have hEach : (((grouped column).filter fun group => categoryOf group.1 = category).map
      fun group => (group.2 : Int)) =
        (((distinct column).filter fun value => categoryOf value = category).map
          fun value => column.count value).map Nat.cast := by
    rw [grouped, List.filter_map, List.map_map, List.map_map]
    rfl
  have hNone : Counts.of [] category = 0 := rfl
  rw [merged_eq, Counts.of_foldl_add (fun group : Option String × Nat => categoryOf group.1)
    (fun group => (group.2 : Int)), hNone, Int.zero_add, hEach, ← Nat.cast_list_sum,
    sum_count_distinct, List.count, List.countP_map]
  rfl

theorem nodup_names_merged (groups : List (Option String × Nat)) :
    (merged groups).names.Nodup := by
  rw [merged_eq]
  exact Counts.nodup_names_foldl_add _ _ groups List.nodup_nil

/-- The rows of a project that are not suppressed, whenever they happened. -/
def standing (store : Store) (project : String) (group : Group) : List Event :=
  (store.events group).filter fun e => e.project = project && !e.suppressed

theorem of_totals (store : Store) (project : String) (group : Group) (category : String) :
    (store.totals project group).of category =
      ((store.standing project group).map (·.category)).count category := by
  cases group with
  | vulnerability =>
    rw [totals, of_merged_grouped, standing, events, List.filter_map, List.map_map, List.map_map]
    rfl
  | violation =>
    rw [totals, of_merged_grouped, standing, events, List.filter_map, List.map_map, List.map_map]
    rfl
  | other name => rfl

theorem nodup_names_totals (store : Store) (project : String) (group : Group) :
    (store.totals project group).names.Nodup := by
  cases group with
  | vulnerability => exact nodup_names_merged _
  | violation => exact nodup_names_merged _
  | other name => exact List.nodup_nil

theorem totals_eq_ok {store : Store} {project : ProjectRef} {group : Group} {counts : Counts}
    (h : store.eventSource.totals project group = .ok counts) :
    counts = store.totals project.id group := by
  simp only [eventSource] at h
  split at h
  · cases h
  · split at h
    · cases h
    · exact (Except.ok.inj h).symm

/-- The section of a project in a digest over the tables. -/
def sectionOn (store : Store) (group : Group) (includeSuppressed : Bool) (since : Instant)
    (project : ProjectRef) : Section :=
  let events := store.eventsSince project.id group includeSuppressed since
  { project
    newByCategory := Digest.tallyOrdered group (events.filter (!·.suppressed))
    totalByCategory := (store.totals project.id group).ordered group.categories
    suppressedByCategory := Digest.tallyOrdered group
      (if includeSuppressed then events.filter (·.suppressed) else [])
    events }

/-- Each distinct project that has events in the window has its section, in order. -/
theorem sections_of_collect {store : Store} {projects : List ProjectRef} {since : Instant}
    {group : Group} {includeSuppressed : Bool} {digest : Digest}
    (h : Digest.collect store.eventSource projects since group includeSuppressed = .ok digest) :
    digest.sections = ((distinct projects).map
      (store.sectionOn group includeSuppressed since)).filter (!·.events.isEmpty) := by
  obtain ⟨_, _, _, windows, hWindows, hSections⟩ := Digest.collect_eq_ok h
  have hRead := Answer.map_eq_of_mapM id
    (fun project => (project, store.eventsSince project.id group includeSuppressed since)) hWindows
    (by
      intro project window hWindow
      obtain ⟨events, hEvents, hPair⟩ := Answer.bind_eq_ok_iff.mp hWindow
      rw [← Answer.pure_eq_ok_iff.mp hPair, ← since_eq_ok hEvents]
      rfl)
  have hMade := Answer.map_eq_of_mapM id
    (fun window : ProjectRef × List Event =>
      { store.sectionOn group includeSuppressed since window.1 with
        newByCategory := Digest.tallyOrdered group (window.2.filter (!·.suppressed))
        suppressedByCategory := Digest.tallyOrdered group
          (if includeSuppressed then window.2.filter (·.suppressed) else [])
        events := window.2 }) hSections
    (by
      intro window s hSection
      obtain ⟨counts, hCounts, hs⟩ := Answer.bind_eq_ok_iff.mp hSection
      rw [← Answer.pure_eq_ok_iff.mp hs, totals_eq_ok hCounts]
      rfl)
  rw [List.map_id] at hRead hMade
  rw [hMade, hRead, List.filter_map, List.map_map, List.filter_map]
  rfl

section
variable {store : Store} {projects : List ProjectRef} {windowStart : Stamp} {group : Group}
  {includeSuppressed : Bool} {digest : Digest}
  (h : store.digestSince projects windowStart group includeSuppressed = .ok digest)
include h

/-- The sections are those of the distinct projects that have a row in the window. -/
theorem projects_of_digestSince :
    digest.sections.map (·.project) = (distinct projects).filter fun project =>
      (store.events group).any (·.Qualifies project windowStart includeSuppressed) := by
  obtain ⟨since, hStart, hDigest⟩ := Answer.bind_eq_ok_iff.mp h
  rw [Fault.ofSpan_eq_ok_iff] at hStart
  have hProject : (fun s : Section => s.project) ∘
      store.sectionOn group includeSuppressed since = id := rfl
  rw [sections_of_collect hDigest, List.filter_map, List.map_map, hProject, List.map_id]
  refine List.filter_congr fun project _ => ?_
  rw [Function.comp_apply, Bool.eq_iff_iff, Bool.not_eq_true',
    List.isEmpty_eq_false_iff_exists_mem, List.any_eq_true]
  refine exists_congr fun e => ?_
  rw [sectionOn, (store.perm_eventsSince project group includeSuppressed hStart).mem_iff,
    List.mem_filter]

theorem totalByCategory_of_digestSince {s : Section} (hs : s ∈ digest.sections) :
    s.totalByCategory = (store.totals s.project.id group).ordered group.categories := by
  obtain ⟨since, _, hDigest⟩ := Answer.bind_eq_ok_iff.mp h
  rw [sections_of_collect hDigest] at hs
  obtain ⟨project, _, rfl⟩ := List.mem_map.mp (List.mem_filter.mp hs).1
  rfl

end

/-- The new events of a window are the standing rows of its project after its start. -/
theorem perm_new_standing (store : Store) (project : ProjectRef) (group : Group)
    (includeSuppressed : Bool) {windowStart : Stamp} {since : Instant}
    (hStart : windowStart.toInstant = .ok since) :
    ((store.eventsSince project.id group includeSuppressed since).filter (!·.suppressed)).Perm
      ((store.standing project.id group).filter fun e =>
        windowStart.universalMicros < e.occurredAt.micros) := by
  refine ((store.perm_eventsSince project group includeSuppressed hStart).filter _).trans ?_
  rw [standing, List.filter_filter, List.filter_filter]
  refine List.Perm.of_eq (List.filter_congr fun e _ => ?_)
  rw [Bool.eq_iff_iff]
  simp only [Bool.and_eq_true, Bool.not_eq_true', decide_eq_true_eq]
  constructor
  · rintro ⟨hNew, hProject, hSince, _⟩
    exact ⟨hSince, hProject, hNew⟩
  · rintro ⟨hSince, hProject, hNew⟩
    exact ⟨hNew, hProject, hSince, .inr hNew⟩

end Store

/-! Categories in both cases, an empty one and an absent one, before and after a window starts. -/
namespace Sample

def graded (id : Int) (project : String) (severity : Option String) (attributedOn : Instant) :
    Finding :=
  { finding id project attributedOn with severity }

def gradedTables : Store :=
  store (rule [] .first)
    [graded 1 "p1" (some "high") (instant 100), graded 2 "p1" (some "HIGH") (instant 150),
      graded 3 "p1" none (instant 150), graded 4 "p2" (some "Rare") (instant 150),
      graded 5 "p2" (some "") (instant 160), graded 6 "p2" none (instant 170)]

theorem reachable_gradedTables : gradedTables.Reachable := ⟨rfl, rfl⟩

end Sample

namespace Store

/-- In the summary of every project no category has more new events than it has in all, and the two
maps are one where no standing row of the project is as old as the start of the window. -/
theorem newByCategory_le_totalByCategory {store : Store} {projects : List ProjectRef}
    {windowStart : Stamp} {group : Group} {includeSuppressed : Bool} {digest : Digest}
    (h : store.digestSince projects windowStart group includeSuppressed = .ok digest) :
    ∀ s ∈ digest.sections,
      (∀ category, s.newByCategory.of category ≤ s.totalByCategory.of category) ∧
      ((∀ e ∈ store.events group, e.project = s.project.id → e.suppressed = false →
          windowStart.universalMicros < e.occurredAt.micros) →
        s.newByCategory = s.totalByCategory) := by
  obtain ⟨since, hStart, hDigest⟩ := Answer.bind_eq_ok_iff.mp h
  rw [Fault.ofSpan_eq_ok_iff] at hStart
  intro s hs
  rw [sections_of_collect hDigest] at hs
  obtain ⟨project, _, rfl⟩ := List.mem_map.mp (List.mem_filter.mp hs).1
  have hNew := store.perm_new_standing project group includeSuppressed hStart
  constructor
  · intro category
    simp only [sectionOn]
    rw [Digest.of_tallyOrdered,
      Counts.of_ordered group.nodup_categories (store.nodup_names_totals ..), of_totals,
      (hNew.map _).count_eq]
    exact Int.ofNat_le.mpr ((List.filter_sublist.map _).count_le _)
  · intro hLater
    have hAll : (store.standing project.id group).filter (fun e =>
        windowStart.universalMicros < e.occurredAt.micros) = store.standing project.id group := by
      refine List.filter_eq_self.mpr fun e he => decide_eq_true ?_
      obtain ⟨hRow, hStands⟩ := List.mem_filter.mp he
      simp only [Bool.and_eq_true, decide_eq_true_eq, Bool.not_eq_true'] at hStands
      exact hLater e hRow hStands.1 hStands.2
    refine Counts.ordered_congr (Counts.nodup_names_tally _) (store.nodup_names_totals ..) ?_
    intro category
    rw [Counts.of_tally, of_totals, (hNew.map _).count_eq, hAll]

theorem newByCategory_le_totalByCategory_graded :
    ∃ digest, Sample.gradedTables.digestSince [Sample.acme, Sample.labs] Sample.windowStart
        .vulnerability false = .ok digest ∧
      digest.sections.map (·.project) = [Sample.acme, Sample.labs] ∧
      ∀ s ∈ digest.sections,
        (∀ category, s.newByCategory.of category ≤ s.totalByCategory.of category) ∧
        (s.project = Sample.acme → s.totalByCategory = [("HIGH", 2), ("UNASSIGNED", 1)]) ∧
        (s.project = Sample.labs →
          s.newByCategory = s.totalByCategory ∧
          s.newByCategory = [("UNASSIGNED", 2), ("RARE", 1)]) := by
  have hGroup : ∀ name, Group.vulnerability ≠ .other name := by simp
  obtain ⟨since, hSince⟩ := Sample.windowStart.exists_toInstant (by decide) (by decide)
  obtain ⟨digest, hCollect⟩ := Sample.reachable_gradedTables.exists_collect hGroup
    [Sample.acme, Sample.labs] since false
  have hDigest : Sample.gradedTables.digestSince [Sample.acme, Sample.labs] Sample.windowStart
      .vulnerability false = .ok digest := by
    rw [digestSince, hSince]
    exact hCollect
  have hSections : digest.sections.map (·.project) = [Sample.acme, Sample.labs] := by
    rw [projects_of_digestSince hDigest]
    decide
  refine ⟨digest, hDigest, hSections, fun s hs => ?_⟩
  obtain ⟨hLess, hSame⟩ := newByCategory_le_totalByCategory hDigest s hs
  have hTotals := totalByCategory_of_digestSince hDigest hs
  refine ⟨hLess, ?_, ?_⟩
  · intro hAcme
    rw [hTotals, hAcme]
    decide +kernel
  · intro hLabs
    have hEqual := hSame (by rw [hLabs]; decide)
    refine ⟨hEqual, ?_⟩
    rw [hEqual, hTotals, hLabs]
    decide +kernel

end Store

end EventDigest

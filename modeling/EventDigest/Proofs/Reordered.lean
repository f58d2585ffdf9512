import EventDigest.Proofs.Views

/-! # Digests of reordered projects

Every total of a digest is a total over a multiset of sections, and a count map forgets the order in
which it was filled when it is shown. So lists with the same projects come to the same overview and
to the same section for each project; only the order of the sections follows the list.
-/
set_option autoImplicit false
namespace EventDigest
open Time

/-- Questions asked in another order are given the same answers, in another order. -/
theorem Answer.exists_perm_of_mapM {α γ ε : Type} {question : α → Except ε γ} {as bs : List α}
    {cs : List γ} (hPerm : as.Perm bs) (h : as.mapM question = .ok cs) :
    ∃ ds, bs.mapM question = .ok ds ∧ cs.Perm ds := by
  obtain ⟨ds, hds⟩ := exists_mapM question bs fun b hb => exists_of_mapM h (hPerm.mem_iff.mpr hb)
  refine ⟨ds, hds, ?_⟩
  have hAnswers := hPerm.map question
  rw [(mapM_eq_ok_iff question as cs).mp h, (mapM_eq_ok_iff question bs ds).mp hds] at hAnswers
  exact (List.map_perm_map_iff fun _ _ => Except.ok.inj).mp hAnswers

theorem perm_distinct {α : Type} [DecidableEq α] {as bs : List α} (h : ∀ a, a ∈ as ↔ a ∈ bs) :
    (distinct as).Perm (distinct bs) := by
  apply (List.perm_ext_iff_of_nodup (nodup_distinct as) (nodup_distinct bs)).mpr
  intro a
  rw [mem_distinct_iff, mem_distinct_iff, h]

theorem length_distinct_of_perm {α : Type} [DecidableEq α] {as bs : List α} (h : as.Perm bs) :
    (distinct as).length = (distinct bs).length :=
  (perm_distinct fun _ => h.mem_iff).length_eq

namespace Digest
variable {ε : Type} {source : EventSource ε} {projects : List ProjectRef} {windowStart : Instant}
  {group : Group} {includeSuppressed : Bool} {digest : Digest}

/-- Events are tallied alike in any order, the order of the categories included. -/
theorem tallyOrdered_perm (group : Group) {events others : List Event} (h : events.Perm others) :
    tallyOrdered group events = tallyOrdered group others := by
  apply Counts.ordered_congr (Counts.nodup_names_tally _) (Counts.nodup_names_tally _)
  intro category
  rw [Counts.of_tally, Counts.of_tally, (h.map _).count_eq]

theorem overviewOf_perm (group : Group) (includeSuppressed : Bool) {sections others : List Section}
    (h : sections.Perm others) :
    overviewOf group includeSuppressed sections = overviewOf group includeSuppressed others := by
  have hNew := h.flatMap_right (·.newEvents)
  have hSuppressed := (h.flatMap_right (·.events)).filter (·.suppressed)
  have hProjects := h.filter (!·.newEvents.isEmpty)
  have hComponents := length_distinct_of_perm (hNew.map (·.componentKey))
  simp only [overviewOf_eq, hNew.length_eq, hSuppressed.length_eq, hProjects.length_eq, hComponents,
    tallyOrdered_perm group hNew]

/-- The section of a project: its summary and its details. -/
def sectionOf? (digest : Digest) (project : ProjectRef) : Option Section :=
  digest.sections.find? (·.project = project)

theorem sectionOf?_eq_some_iff (h : (digest.sections.map (·.project)).Nodup) (project : ProjectRef)
    (s : Section) :
    digest.sectionOf? project = some s ↔ s ∈ digest.sections ∧ s.project = project := by
  rw [sectionOf?]
  constructor
  · intro hFound
    exact ⟨List.mem_of_find?_eq_some hFound, by simpa using List.find?_some hFound⟩
  · rintro ⟨hs, rfl⟩
    cases hFound : digest.sections.find? (·.project = s.project) with
    | none => exact absurd (List.find?_eq_none.mp hFound s hs) (by simp)
    | some t =>
      have ht := List.mem_of_find?_eq_some hFound
      have hProject : t.project = s.project := by simpa using List.find?_some hFound
      rw [List.inj_on_of_nodup_map h ht hs hProject]

/-- The sections stand in the order in which their projects first occur. -/
theorem pairwise_projects_of_collect
    (h : collect source projects windowStart group includeSuppressed = .ok digest) :
    (digest.sections.map (·.project)).Pairwise
      fun p q => projects.idxOf p < projects.idxOf q := by
  obtain ⟨windows, hProjects, _, hDetails⟩ := details_of_collect h
  have hSame : digest.sections.map (·.project) = digest.details.map (·.1) := by
    rw [details, List.map_map]
    rfl
  have hOrder := pairwise_distinct projects
  rw [← hProjects] at hOrder
  rw [hSame, hDetails]
  exact hOrder.sublist (List.filter_sublist.map _)

theorem exists_collect_of_perm {other : List ProjectRef}
    (hPerm : (distinct projects).Perm (distinct other))
    (h : collect source projects windowStart group includeSuppressed = .ok digest) :
    ∃ reordered, collect source other windowStart group includeSuppressed = .ok reordered ∧
      digest.overview = reordered.overview ∧ digest.sections.Perm reordered.sections := by
  obtain ⟨_, _, hOverview, windows, hWindows, hSections⟩ := collect_eq_ok h
  obtain ⟨otherWindows, hOtherWindows, hWindowsPerm⟩ := Answer.exists_perm_of_mapM hPerm hWindows
  obtain ⟨otherSections, hOtherSections, hSectionsPerm⟩ :=
    Answer.exists_perm_of_mapM (hWindowsPerm.filter _) hSections
  refine ⟨⟨group, windowStart, overviewOf group includeSuppressed otherSections, otherSections⟩,
    ?_, ?_, hSectionsPerm⟩
  · exact Answer.bind_eq_ok_iff.mpr ⟨otherWindows, hOtherWindows,
      Answer.bind_eq_ok_iff.mpr ⟨otherSections, hOtherSections, rfl⟩⟩
  · rw [hOverview, overviewOf_perm group includeSuppressed hSectionsPerm]

/-- Two lists of the same projects, in any order and with any repetitions, are refused alike or come
to the same overview and to the same section for each project. -/
theorem collect_reordered {other : List ProjectRef}
    (hSame : ∀ project, project ∈ projects ↔ project ∈ other) (source : EventSource ε)
    (windowStart : Instant) (group : Group) (includeSuppressed : Bool) :
    ((∃ fault, collect source projects windowStart group includeSuppressed = .error fault) ∧
      ∃ fault, collect source other windowStart group includeSuppressed = .error fault) ∨
    ∃ digest reordered,
      collect source projects windowStart group includeSuppressed = .ok digest ∧
      collect source other windowStart group includeSuppressed = .ok reordered ∧
      digest.group = reordered.group ∧ digest.windowStart = reordered.windowStart ∧
      digest.overview = reordered.overview ∧
      (∀ project, digest.sectionOf? project = reordered.sectionOf? project) ∧
      digest.sections.Perm reordered.sections ∧
      (digest.sections.map (·.project)).Pairwise
        (fun p q => projects.idxOf p < projects.idxOf q) ∧
      (reordered.sections.map (·.project)).Pairwise
        (fun p q => other.idxOf p < other.idxOf q) := by
  have hPerm := perm_distinct hSame
  cases hDigest : collect source projects windowStart group includeSuppressed with
  | error fault =>
    refine .inl ⟨⟨fault, rfl⟩, ?_⟩
    cases hOther : collect source other windowStart group includeSuppressed with
    | error fault => exact ⟨fault, rfl⟩
    | ok reordered =>
      obtain ⟨digest, hReturned, _⟩ := exists_collect_of_perm hPerm.symm hOther
      rw [hDigest] at hReturned
      cases hReturned
  | ok digest =>
    obtain ⟨reordered, hOther, hOverview, hSections⟩ := exists_collect_of_perm hPerm hDigest
    obtain ⟨hGroup, hStart, _⟩ := collect_eq_ok hDigest
    obtain ⟨hOtherGroup, hOtherStart, _⟩ := collect_eq_ok hOther
    refine .inr ⟨digest, reordered, rfl, hOther, hGroup.trans hOtherGroup.symm,
      hStart.trans hOtherStart.symm, hOverview, ?_, hSections,
      pairwise_projects_of_collect hDigest, pairwise_projects_of_collect hOther⟩
    intro project
    apply Option.ext
    intro s
    rw [sectionOf?_eq_some_iff (nodup_projects_of_collect hDigest),
      sectionOf?_eq_some_iff (nodup_projects_of_collect hOther), hSections.mem_iff]

end Digest

namespace Sample

def scatteredSource : EventSource Fault :=
  .recorded [event "p1" "RARE" none false, event "p2" "HIGH" none false,
    event "p2" "LOW" none true] [] false

def reversedProjects : List ProjectRef := [⟨"p2", "Acme Labs", none⟩, ⟨"p1", "Acme", none⟩]

end Sample

theorem Digest.collect_reordered_reversed :
    (∀ project, project ∈ Sample.projects ↔ project ∈ Sample.reversedProjects) ∧
    ∃ digest reordered,
      collect Sample.scatteredSource Sample.projects .first .vulnerability true = .ok digest ∧
      collect Sample.scatteredSource Sample.reversedProjects .first .vulnerability true =
        .ok reordered ∧
      digest.overview = reordered.overview ∧
      reordered.overview.newByCategory = [("HIGH", 1), ("RARE", 1)] ∧
      (∀ project, digest.sectionOf? project = reordered.sectionOf? project) ∧
      digest.sections.map (·.project.id) = ["p1", "p2"] ∧
      reordered.sections.map (·.project.id) = ["p2", "p1"] := by
  have hSame : ∀ project, project ∈ Sample.projects ↔ project ∈ Sample.reversedProjects := by
    intro project
    simp only [Sample.projects, Sample.reversedProjects, List.mem_cons, List.not_mem_nil, or_false]
    tauto
  obtain ⟨digest, hDigest, hOrder⟩ := Answer.passes_iff.mp
    (show Answer.passes
      (collect Sample.scatteredSource Sample.projects .first .vulnerability true)
      (fun digest => digest.sections.map (·.project.id) = ["p1", "p2"]) = true by decide +kernel)
  obtain ⟨reordered, hReordered, hTest⟩ := Answer.passes_iff.mp
    (show Answer.passes
      (collect Sample.scatteredSource Sample.reversedProjects .first .vulnerability true)
      (fun reordered => reordered.sections.map (·.project.id) = ["p2", "p1"] ∧
        reordered.overview.newByCategory = [("HIGH", 1), ("RARE", 1)]) = true by decide +kernel)
  obtain ⟨hOther, hShown⟩ := of_decide_eq_true hTest
  rcases collect_reordered hSame Sample.scatteredSource .first .vulnerability true with
    ⟨⟨fault, hFault⟩, _⟩ | ⟨_, _, hLeft, hRight, _, _, hOverview, hSections, _⟩
  · rw [hDigest] at hFault
    cases hFault
  · obtain rfl := Except.ok.inj (hDigest.symm.trans hLeft)
    obtain rfl := Except.ok.inj (hReordered.symm.trans hRight)
    exact ⟨hSame, digest, reordered, hDigest, hReordered, hOverview, hShown, hSections,
      of_decide_eq_true hOrder, hOther⟩

end EventDigest

import EventDigest.Proofs.Groups
import EventDigest.Proofs.Totals

/-! # Suppressed events

Whether suppressed events are asked for changes what a digest shows of them and nothing else. The
digest without them is the digest with them, without their entries, their counts and the projects
that have nothing else; in particular a run passes the same groups over and announces the others
under the same titles.
-/
set_option autoImplicit false
namespace EventDigest
open Time

section
variable {ρ : Type} {precedes : ρ → ρ → Bool} {toEvent : ρ → Event}

/-- Sorted rows without the suppressed ones are the events of all of them without the suppressed
ones. -/
theorem map_unsuppressed_rows (h : ∀ a b, precedes a b = true ↔ (toEvent a).Precedes (toEvent b))
    (test : ρ → Bool) (rows : List ρ) :
    ((rows.filter fun row => test row && !(toEvent row).suppressed).mergeSort
        precedes).map toEvent =
      (((rows.filter test).mergeSort precedes).map toEvent).filter (!·.suppressed) := by
  rw [List.filter_map, filter_mergeSort h (fun _ _ _ => Event.Precedes.trans)
    (fun _ _ => Event.precedes_total _ _), List.filter_filter]
  simp only [Function.comp_def, Bool.and_comm]

end

namespace Section

/-- The section without its suppressed events. -/
def unsuppressed (s : Section) : Section :=
  { s with suppressedByCategory := [], events := s.newEvents }

theorem newEvents_unsuppressed (s : Section) : s.unsuppressed.newEvents = s.newEvents := by
  simp only [newEvents, unsuppressed, List.filter_filter, Bool.and_self]

end Section

namespace Digest

def hiddenSections (sections : List Section) : List Section :=
  (sections.map Section.unsuppressed).filter (!·.events.isEmpty)

/-- The digest without its suppressed events. -/
def unsuppressed (digest : Digest) : Digest :=
  { digest with
    overview := { digest.overview with suppressedCount := 0 }
    sections := hiddenSections digest.sections }

/-- A section without events has none that would be left. -/
theorem hiddenSections_of_filled (sections : List Section) :
    hiddenSections (sections.filter (!·.events.isEmpty)) = hiddenSections sections := by
  have hEmpty : ∀ s : Section, (!s.unsuppressed.events.isEmpty && !s.events.isEmpty) =
      !s.unsuppressed.events.isEmpty := by
    intro s
    cases hEvents : s.events with
    | nil => simp [Section.unsuppressed, Section.newEvents, hEvents]
    | cons => exact Bool.and_true _
  simp only [hiddenSections, List.filter_map, List.filter_filter, Function.comp_def, hEmpty]

theorem tallyOrdered_nil (group : Group) : tallyOrdered group [] = [] := by
  have hNone : ∀ category, Counts.of [] category = 0 := fun _ => rfl
  simp [tallyOrdered, Counts.tally, Counts.ordered, Counts.known, Counts.unknown, hNone]

theorem flatMap_newEvents_hidden (sections : List Section) :
    (hiddenSections sections).flatMap (·.newEvents) = sections.flatMap (·.newEvents) := by
  induction sections with
  | nil => rfl
  | cons s rest ih =>
    rw [hiddenSections, List.map_cons, List.filter_cons, ← hiddenSections, List.flatMap_cons]
    split
    · rw [List.flatMap_cons, ih, Section.newEvents_unsuppressed]
    · rename_i hEmpty
      have hNone : s.newEvents = [] := by simpa [Section.unsuppressed] using hEmpty
      rw [ih, hNone, List.nil_append]

theorem length_affected_hidden (sections : List Section) :
    ((hiddenSections sections).filter (!·.newEvents.isEmpty)).length =
      (sections.filter (!·.newEvents.isEmpty)).length := by
  have hSame : ∀ s : Section, (!s.unsuppressed.newEvents.isEmpty &&
      !s.unsuppressed.events.isEmpty) = !s.newEvents.isEmpty := by
    intro s
    rw [Section.newEvents_unsuppressed]
    exact Bool.and_self _
  rw [hiddenSections, List.filter_filter, List.filter_map, List.length_map]
  simp only [Function.comp_def, hSame]

/-- The overview without suppressed events differs in nothing but their number. -/
theorem overviewOf_hidden (group : Group) (sections : List Section) :
    overviewOf group false (hiddenSections sections) =
      { overviewOf group true sections with suppressedCount := 0 } := by
  simp only [overviewOf_eq, flatMap_newEvents_hidden, length_affected_hidden, Bool.false_eq_true,
    if_false]

end Digest

namespace Store
variable {store : Store} {group : Group}

theorem eventsSince_unsuppressed (store : Store) (project : String) (group : Group)
    (since : Instant) : store.eventsSince project group false since =
      (store.eventsSince project group true since).filter (!·.suppressed) := by
  simp only [eventsSince, findingsSince, violationsSince, Bool.true_or, Bool.false_or,
    Bool.and_true]
  cases group with
  | vulnerability => exact map_unsuppressed_rows Finding.precedes_iff _ store.findings
  | violation => exact map_unsuppressed_rows Violation.precedes_iff _ store.violations
  | other name => rfl

theorem sectionOn_unsuppressed (store : Store) (group : Group) (since : Instant)
    (project : ProjectRef) : store.sectionOn group false since project =
      (store.sectionOn group true since project).unsuppressed := by
  simp only [sectionOn, Section.unsuppressed, Section.newEvents, eventsSince_unsuppressed,
    List.filter_filter, Bool.and_self, Bool.false_eq_true, if_false, Digest.tallyOrdered_nil]

theorem unsuppressed_of_collect {projects : List ProjectRef} {since : Instant}
    {shown hidden : Digest}
    (hShown : Digest.collect store.eventSource projects since group true = .ok shown)
    (hHidden : Digest.collect store.eventSource projects since group false = .ok hidden) :
    hidden = shown.unsuppressed := by
  have hSections : hidden.sections = Digest.hiddenSections shown.sections := by
    have hEach : store.sectionOn group false since =
        Section.unsuppressed ∘ store.sectionOn group true since :=
      funext (store.sectionOn_unsuppressed group since)
    rw [sections_of_collect hHidden, sections_of_collect hShown, Digest.hiddenSections_of_filled,
      hEach, ← List.map_map, Digest.hiddenSections]
  obtain ⟨hGroup, hStart, hOverview, _⟩ := Digest.collect_eq_ok hShown
  obtain ⟨hOwnGroup, hOwnStart, hOwnOverview, _⟩ := Digest.collect_eq_ok hHidden
  rw [hSections, Digest.overviewOf_hidden, ← hOverview] at hOwnOverview
  calc hidden = ⟨hidden.group, hidden.windowStart, hidden.overview, hidden.sections⟩ := rfl
    _ = ⟨shown.group, shown.windowStart, { shown.overview with suppressedCount := 0 },
          Digest.hiddenSections shown.sections⟩ := by
      rw [hOwnGroup, hOwnStart, hOwnOverview, hSections, hGroup, hStart]
    _ = shown.unsuppressed := rfl

end Store

/-- What a digest without suppressed events has in common with the one that shows them. -/
structure Digest.Hides (hidden shown : Digest) : Prop where
  newCount : hidden.overview.newCount = shown.overview.newCount
  newByCategory : hidden.overview.newByCategory = shown.overview.newByCategory
  affectedProjects : hidden.overview.affectedProjects = shown.overview.affectedProjects
  affectedComponents : hidden.overview.affectedComponents = shown.overview.affectedComponents
  summary : ∀ s ∈ hidden.sections, ∃ t ∈ shown.sections, t.project = s.project ∧
    t.newByCategory = s.newByCategory ∧ t.totalByCategory = s.totalByCategory
  details : hidden.details = (shown.details.map fun (project, events) =>
    (project, events.filter (!·.suppressed))).filter (!·.2.isEmpty)
  suppressedCount : hidden.overview.suppressedCount = 0
  suppressedByCategory : ∀ s ∈ hidden.sections, s.suppressedByCategory = []

theorem Digest.unsuppressed_hides (shown : Digest) : shown.unsuppressed.Hides shown where
  newCount := rfl
  newByCategory := rfl
  affectedProjects := rfl
  affectedComponents := rfl
  summary := by
    intro s hs
    obtain ⟨t, ht, rfl⟩ := List.mem_map.mp (List.mem_filter.mp hs).1
    exact ⟨t, ht, rfl, rfl, rfl⟩
  details := by
    simp only [details, unsuppressed, hiddenSections, List.filter_map, List.map_map]
    rfl
  suppressedCount := rfl
  suppressedByCategory := by
    intro s hs
    obtain ⟨t, _, rfl⟩ := List.mem_map.mp (List.mem_filter.mp hs).1
    rfl

namespace Executor
variable {β : Type} {executor : Executor β} {rule : Rule} {windowStart : Instant}
  {projects : List ProjectRef} {targets : List Target} {world after other last : World β}

/-- What processing a collected group comes to: it is passed over, or a notification is built. -/
theorem processGroup_collected {name : String} {report : GroupReport}
    (hGroup : ∀ unknown, Group.ofName name ≠ .other unknown)
    (h : (executor.processGroup rule windowStart projects targets name).Returns world report
      after) :
    ∃ digest, Digest.collect (executor.source world.store) projects windowStart (Group.ofName name)
        rule.includeSuppressed = .ok digest ∧
      ((digest.overview.newCount = 0 ∧ rule.onlyWithUpdates = true ∧
          report.result.status = .skipped ∧ report.notification = none) ∨
        (¬(digest.overview.newCount = 0 ∧ rule.onlyWithUpdates = true) ∧
          report.result.status ≠ .skipped ∧ ∃ now n, report.notification = some n ∧
            Notification.announce rule.name rule.scope digest now executor.zone = .ok n)) := by
  cases processGroup_returns h with
  | unsupported message hName => exact (hGroup name hName).elim
  | skipped digest hDigest hNone hOnly => exact ⟨digest, hDigest, .inl ⟨hNone, hOnly, rfl, rfl⟩⟩
  | announced digest now n result hDigest hNews hBuilt _ hStatus =>
    refine ⟨digest, hDigest, .inr ⟨hNews, ?_, now, n, rfl, hBuilt⟩⟩
    rcases hStatus with hStatus | hStatus
    · rw [hStatus]
      exact Status.noConfusion
    · rw [hStatus]
      exact Status.noConfusion

theorem processGroup_unknown {name unknown : String} {report : GroupReport}
    (hGroup : Group.ofName name = .other unknown)
    (h : (executor.processGroup rule windowStart projects targets name).Returns world report
      after) :
    report.result.status = .unsupported ∧ report.notification = none := by
  cases course_of_processGroup h with
  | unsupported => exact ⟨rfl, rfl⟩
  | skipped _ _ _ hKnown => exact (hKnown unknown hGroup).elim
  | announced _ _ _ _ _ hKnown => exact (hKnown unknown hGroup).elim

/-- With suppressed events and without, a group is passed over alike and announced under one title,
whatever the clock shows meanwhile. -/
theorem processGroup_alike (hSource : executor.source = Store.eventSource)
    (hStore : other.store = world.store) {name : String} {shown hidden : GroupReport}
    (hShown : (executor.processGroup { rule with includeSuppressed := true } windowStart projects
      targets name).Returns world shown after)
    (hHidden : (executor.processGroup { rule with includeSuppressed := false } windowStart projects
      targets name).Returns other hidden last) :
    (hidden.result.status = .skipped ↔ shown.result.status = .skipped) ∧
      hidden.notification.map (·.title) = shown.notification.map (·.title) := by
  by_cases hKnown : ∃ unknown, Group.ofName name = .other unknown
  · obtain ⟨unknown, hUnknown⟩ := hKnown
    obtain ⟨hStatus, hNone⟩ := processGroup_unknown hUnknown hShown
    obtain ⟨hOwnStatus, hOwnNone⟩ := processGroup_unknown hUnknown hHidden
    rw [hStatus, hOwnStatus, hNone, hOwnNone]
    exact ⟨Iff.rfl, rfl⟩
  · have hGroup : ∀ unknown, Group.ofName name ≠ .other unknown :=
      fun unknown hUnknown => hKnown ⟨unknown, hUnknown⟩
    obtain ⟨digest, hDigest, hCase⟩ := processGroup_collected hGroup hShown
    obtain ⟨own, hOwn, hOwnCase⟩ := processGroup_collected hGroup hHidden
    rw [hSource] at hDigest hOwn
    rw [hStore] at hOwn
    obtain rfl := Store.unsuppressed_of_collect hDigest hOwn
    rcases hCase with ⟨hZero, hOnly, hStatus, hNone⟩ | ⟨hNews, hStatus, now, n, hBuilt, hTitle⟩
    · rcases hOwnCase with ⟨_, _, hOwnStatus, hOwnNone⟩ | ⟨hNews, _⟩
      · rw [hStatus, hOwnStatus, hNone, hOwnNone]
        exact ⟨Iff.rfl, rfl⟩
      · exact (hNews ⟨hZero, hOnly⟩).elim
    · rcases hOwnCase with ⟨hZero, hOnly, _⟩ | ⟨_, hOwnStatus, ownNow, m, hOwnBuilt, hOwnTitle⟩
      · exact (hNews ⟨hZero, hOnly⟩).elim
      · obtain ⟨nouns, hNouns, hText⟩ := Notification.title_of_announce hTitle
        obtain ⟨ownNouns, hOwnNouns, hOwnText⟩ := Notification.title_of_announce hOwnTitle
        obtain rfl : ownNouns = nouns := Option.some.inj (hOwnNouns.symm.trans hNouns)
        rw [hBuilt, hOwnBuilt, Option.map_some, Option.map_some, hText, hOwnText]
        exact ⟨iff_of_false hOwnStatus hStatus, rfl⟩

end Executor

/-! One project with a live finding and one with nothing but a suppressed one. -/
namespace Sample

def partlySuppressed : Store :=
  store (rule ["NEW_VULNERABILITY"] (instant 100))
    [finding 1 "p1" (instant 150), { finding 2 "p2" (instant 160) with suppressed := true }]

def partlySuppressedWorld : World Publisher.Attempts :=
  ⟨partlySuppressed, .ticking (.ofInstant (instant 200)) 7, desk⟩

end Sample

namespace Store

/-- Asking for suppressed events changes nothing about what is new. -/
theorem suppressed_change_no_news (store : Store) (projects : List ProjectRef)
    (windowStart : Stamp) (group : Group) :
    (∀ shown, store.digestSince projects windowStart group true = .ok shown →
      ∃ hidden, store.digestSince projects windowStart group false = .ok hidden ∧
        hidden.Hides shown) ∧
    (∀ hidden, store.digestSince projects windowStart group false = .ok hidden →
      store.CountsEvents group →
      ∃ shown, store.digestSince projects windowStart group true = .ok shown) ∧
    ∀ {β : Type} (executor : Executor β), executor.source = Store.eventSource →
      ∀ (rule : Rule) (start : Instant) (targets : List Target) (name : String)
        (world other after last : World β) (shown hidden : GroupReport),
      world.store = store → other.store = store →
      (executor.processGroup { rule with includeSuppressed := true } start projects targets
        name).Returns world shown after →
      (executor.processGroup { rule with includeSuppressed := false } start projects targets
        name).Returns other hidden last →
      (hidden.result.status = .skipped ↔ shown.result.status = .skipped) ∧
        hidden.notification.map (·.title) = shown.notification.map (·.title) := by
  refine ⟨?_, ?_, ?_⟩
  · intro shown hShown
    obtain ⟨since, hSince, hDigest⟩ := Answer.bind_eq_ok_iff.mp hShown
    have hAll := (exists_collect_iff projects since true).mp ⟨shown, hDigest⟩
    obtain ⟨hidden, hHidden⟩ := (exists_collect_iff projects since false).mpr <| by
      intro project hProject
      obtain ⟨hReads, hCounts⟩ := hAll project hProject
      refine ⟨hReads, fun hSome => hCounts fun hNone => hSome ?_⟩
      rw [eventsSince_unsuppressed, hNone, List.filter_nil]
    refine ⟨hidden, Answer.bind_eq_ok_iff.mpr ⟨since, hSince, hHidden⟩, ?_⟩
    rw [unsuppressed_of_collect hDigest hHidden]
    exact shown.unsuppressed_hides
  · intro hidden hHidden hCounts
    obtain ⟨since, hSince, hDigest⟩ := Answer.bind_eq_ok_iff.mp hHidden
    have hAll := (exists_collect_iff projects since false).mp ⟨hidden, hDigest⟩
    obtain ⟨shown, hShown⟩ := (exists_collect_iff projects since true).mpr fun project hProject =>
      ⟨(hAll project hProject).1, fun _ => hCounts⟩
    exact ⟨shown, Answer.bind_eq_ok_iff.mpr ⟨since, hSince, hShown⟩⟩
  · intro β executor hSource rule start targets name world other after last shown hidden hWorld
      hOther hShown hHidden
    exact Executor.processGroup_alike hSource (hOther.trans hWorld.symm) hShown hHidden

theorem suppressed_change_no_news_partly :
    ∃ shown hidden, Sample.partlySuppressed.digestSince [Sample.acme, Sample.labs]
        (.ofInstant (Sample.instant 100)) .vulnerability true = .ok shown ∧
      Sample.partlySuppressed.digestSince [Sample.acme, Sample.labs]
        (.ofInstant (Sample.instant 100)) .vulnerability false = .ok hidden ∧
      shown.details.map (fun entry => (entry.1, entry.2.map (·.id))) =
        [(Sample.acme, [1]), (Sample.labs, [2])] ∧
      hidden.Hides shown ∧
      ∃ report own after last,
        ((Sample.executor []).processGroup { Sample.rule [] .first with includeSuppressed := true }
          (Sample.instant 100) [Sample.acme, Sample.labs] [] "NEW_VULNERABILITY").Returns
            Sample.partlySuppressedWorld report after ∧
        ((Sample.executor []).processGroup { Sample.rule [] .first with includeSuppressed := false }
          (Sample.instant 100) [Sample.acme, Sample.labs] [] "NEW_VULNERABILITY").Returns
            Sample.partlySuppressedWorld own last ∧
        report.result.status = .published ∧
        own.notification.map (·.title) = report.notification.map (·.title) := by
  obtain ⟨shown, hShown, hTest⟩ := Answer.passes_iff.mp
    (show Answer.passes (Sample.partlySuppressed.digestSince [Sample.acme, Sample.labs]
        (.ofInstant (Sample.instant 100)) .vulnerability true) (fun shown =>
          shown.details.map (fun entry => (entry.1, entry.2.map (·.id))) =
            [(Sample.acme, [1]), (Sample.labs, [2])]) = true by decide +kernel)
  obtain ⟨report, after, hReport, hPublished⟩ := Run.returnsWith_iff.mp
    (show ((Sample.executor []).processGroup
        { Sample.rule [] .first with includeSuppressed := true } (Sample.instant 100)
        [Sample.acme, Sample.labs] [] "NEW_VULNERABILITY").returnsWith
          Sample.partlySuppressedWorld (fun report _ => report.result.status = .published) = true by
      decide +kernel)
  obtain ⟨own, last, hOwn, _⟩ := Run.returnsWith_iff.mp
    (show ((Sample.executor []).processGroup
        { Sample.rule [] .first with includeSuppressed := false } (Sample.instant 100)
        [Sample.acme, Sample.labs] [] "NEW_VULNERABILITY").returnsWith
          Sample.partlySuppressedWorld (fun _ _ => true) = true by decide +kernel)
  obtain ⟨hHides, hBack, hRuns⟩ := suppressed_change_no_news Sample.partlySuppressed
    [Sample.acme, Sample.labs] (.ofInstant (Sample.instant 100)) .vulnerability
  obtain ⟨hidden, hHidden, hSame⟩ := hHides shown hShown
  exact ⟨shown, hidden, hShown, hHidden, of_decide_eq_true hTest, hSame, report, own, after, last,
    hReport, hOwn, of_decide_eq_true hPublished,
    (hRuns (Sample.executor []) rfl _ _ _ _ _ _ _ _ _ _ rfl rfl hReport hOwn).2⟩

end Store

end EventDigest

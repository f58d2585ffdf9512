import EventDigest.Counts
import EventDigest.Event
import EventDigest.Group
import EventDigest.Project

/-! # Digests

A digest is what happened to a list of projects since the start of a window: an overview of the
whole window and a section for each project that has events in it. Suppressed events never count as
new; they are counted apart, and only when asked for.
-/
set_option autoImplicit false
namespace EventDigest
open Time

/-- Where events come from: those of a project that happened strictly after an instant, and how many
unsuppressed ones a project has in all, per category. -/
structure EventSource (ε : Type) where
  since : ProjectRef → Group → Bool → Instant → Except ε (List Event)
  totals : ProjectRef → Group → Except ε Counts

structure Overview where
  newCount : Int
  affectedProjects : Int
  affectedComponents : Int
  suppressedCount : Int
  newByCategory : Counts
  deriving Repr

structure Section where
  project : ProjectRef
  newByCategory : Counts
  totalByCategory : Counts
  suppressedByCategory : Counts
  events : List Event
  deriving Repr

structure Digest where
  group : Group
  windowStart : Instant
  overview : Overview
  sections : List Section
  deriving Repr

/-- Keeps the first occurrence of each element. -/
def distinct {α : Type} [DecidableEq α] : List α → List α
  | [] => []
  | a :: rest => a :: (distinct rest).filter (· ≠ a)

namespace Section

def newEvents (s : Section) : List Event := s.events.filter (!·.suppressed)

end Section

namespace Digest

def tallyOrdered (group : Group) (events : List Event) : Counts :=
  (Counts.tally (events.map (·.category))).ordered group.categories

def sectionOf {ε : Type} (source : EventSource ε) (group : Group) (includeSuppressed : Bool)
    (project : ProjectRef) (events : List Event) : Except ε Section := do
  let totals ← source.totals project group
  return {
    project
    newByCategory := tallyOrdered group (events.filter (!·.suppressed))
    totalByCategory := totals.ordered group.categories
    suppressedByCategory :=
      tallyOrdered group (if includeSuppressed then events.filter (·.suppressed) else [])
    events }

/-- What has been counted while the projects of a window are gone through. -/
structure Running where
  newCount : Int
  affectedProjects : Int
  suppressedCount : Int
  newCategories : Counts
  components : List (String × String × String)

namespace Running

def start : Running := ⟨0, 0, 0, [], []⟩

def count (includeSuppressed : Bool) (running : Running) (s : Section) : Running where
  newCount := running.newCount + s.newEvents.length
  affectedProjects := running.affectedProjects + if s.newEvents.isEmpty then 0 else 1
  suppressedCount :=
    running.suppressedCount +
      if includeSuppressed then (s.events.filter (·.suppressed)).length else 0
  newCategories := running.newCategories.addAll (Counts.tally (s.newEvents.map (·.category)))
  components := (s.newEvents.map (·.componentKey)).foldr List.insert running.components

def overview (group : Group) (running : Running) : Overview where
  newCount := running.newCount
  affectedProjects := running.affectedProjects
  affectedComponents := running.components.length
  suppressedCount := running.suppressedCount
  newByCategory := running.newCategories.ordered group.categories

end Running

def overviewOf (group : Group) (includeSuppressed : Bool) (sections : List Section) : Overview :=
  (sections.foldl (Running.count includeSuppressed) Running.start).overview group

/-- Collects the window of each distinct project before any totals are asked for. -/
def collect {ε : Type} (source : EventSource ε) (projects : List ProjectRef) (windowStart : Instant)
    (group : Group) (includeSuppressed : Bool) : Except ε Digest := do
  let windows ← (distinct projects).mapM fun project => do
    return (project, ← source.since project group includeSuppressed windowStart)
  let sections ← (windows.filter (!·.2.isEmpty)).mapM fun (project, events) =>
    sectionOf source group includeSuppressed project events
  return { group, windowStart, overview := overviewOf group includeSuppressed sections, sections }

end Digest

def Overview.toJson (o : Overview) : Json :=
  .object
    [("newCount", .int o.newCount),
      ("affectedProjectsCount", .int o.affectedProjects),
      ("affectedComponentsCount", .int o.affectedComponents),
      ("suppressedNewCount", .int o.suppressedCount),
      ("newByCategory", o.newByCategory.toJson)]

def Section.summaryJson (s : Section) : Json :=
  .object
    [("project", s.project.toJson),
      ("newByCategory", s.newByCategory.toJson),
      ("totalByCategory", s.totalByCategory.toJson),
      ("suppressedNewByCategory", s.suppressedByCategory.toJson)]

def Section.detailsJson (s : Section) : Json :=
  .object [("project", s.project.toJson), ("events", .array (s.events.map Event.toJson))]

def Digest.toJson (d : Digest) : Json :=
  .object
    [("group", .text d.group.name),
      ("since", .text d.windowStart.text),
      ("overview", d.overview.toJson),
      ("summary", .array (d.sections.map Section.summaryJson)),
      ("details", .array (d.sections.map Section.detailsJson))]

end EventDigest

import EventDigest.Digest
import EventDigest.Journal
import EventDigest.Store
import EventDigest.Time.Stamp

/-! # Events of the store

The store as a source of events. A window is read in the order of time, and by number where times
agree. Every read window leaves an entry for the journal.
-/
set_option autoImplicit false
namespace EventDigest
open Time

namespace Finding

def precedes (a b : Finding) : Bool :=
  a.attributedOn.micros < b.attributedOn.micros ||
    (a.attributedOn.micros == b.attributedOn.micros && a.id ≤ b.id)

end Finding

namespace Violation

def precedes (a b : Violation) : Bool :=
  a.raisedAt.micros < b.raisedAt.micros ||
    (a.raisedAt.micros == b.raisedAt.micros && a.id ≤ b.id)

end Violation

namespace Store

def findingsSince (store : Store) (project : String) (includeSuppressed : Bool) (since : Instant) :
    List Finding :=
  let rows := store.findings.filter fun f =>
    f.project = project && since.micros < f.attributedOn.micros &&
      (includeSuppressed || !f.suppressed)
  rows.mergeSort Finding.precedes

def violationsSince (store : Store) (project : String) (includeSuppressed : Bool)
    (since : Instant) : List Violation :=
  let rows := store.violations.filter fun v =>
    v.project = project && since.micros < v.raisedAt.micros &&
      (includeSuppressed || !v.suppressed)
  rows.mergeSort Violation.precedes

def eventTable? : Group → Option Table
  | .vulnerability => some .findings
  | .violation => some .violations
  | .other _ => none

def eventsSince (store : Store) (project : String) (group : Group) (includeSuppressed : Bool)
    (since : Instant) : List Event :=
  match group with
  | .vulnerability => (store.findingsSince project includeSuppressed since).map Finding.toEvent
  | .violation => (store.violationsSince project includeSuppressed since).map Violation.toEvent
  | .other _ => []

/-- How often each value stands in a column. Values are told apart as they were written. -/
def grouped (column : List (Option String)) : List (Option String × Nat) :=
  (distinct column).map fun value => (value, column.count value)

/-- The counts of written values, put together where the values mean the same category. -/
def merged (groups : List (Option String × Nat)) : Counts :=
  groups.foldl (fun counts (value, n) => counts.add (categoryOf value) n) []

def totals (store : Store) (project : String) (group : Group) : Counts :=
  match group with
  | .vulnerability =>
    let rows := store.findings.filter fun f => f.project = project && !f.suppressed
    merged (grouped (rows.map (·.severity)))
  | .violation =>
    let rows := store.violations.filter fun v => v.project = project && !v.suppressed
    merged (grouped (rows.map (·.type)))
  | .other _ => []

def eventSource (store : Store) : EventSource Fault where
  since project group includeSuppressed since :=
    match eventTable? group with
    | none => .error (.noEventSource group.name)
    | some table =>
      match store.obstacle? (.read table) table with
      | some message => .error (.aggregation (.query project.id group.name message))
      | none => .ok (store.eventsSince project.id group includeSuppressed since)
  totals project group :=
    match eventTable? group with
    | none => .error (.noEventSource group.name)
    | some table =>
      match store.obstacle? (.count table) table with
      | some message => .error (.aggregation (.count project.id group.name message))
      | none => .ok (store.totals project.id group)

/-- The digest of the window that starts at a stamp. -/
def digestSince (store : Store) (projects : List ProjectRef) (windowStart : Stamp) (group : Group)
    (includeSuppressed : Bool) : Except Fault Digest := do
  let start ← Fault.ofSpan windowStart.toInstant
  Digest.collect store.eventSource projects start group includeSuppressed

end Store

def eventNoun : Group → String
  | .violation => "violation(s)"
  | _ => "finding(s)"

def windowEntry (project : ProjectRef) (group : Group) (since : Instant) (events : List Event) :
    Entry :=
  .debug "event_store"
    s!"Fetched {events.length} {eventNoun group} project={project.id} since={since.offsetText}"

/-- The entries about the windows of projects, up to the first one that cannot be read. -/
def windowEntries {ε : Type} (source : EventSource ε) (group : Group) (includeSuppressed : Bool)
    (since : Instant) : List ProjectRef → Journal
  | [] => []
  | project :: rest =>
    match source.since project group includeSuppressed since with
    | .error _ => []
    | .ok events =>
      windowEntry project group since events ::
        windowEntries source group includeSuppressed since rest

end EventDigest

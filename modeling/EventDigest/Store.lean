import EventDigest.Event
import EventDigest.Delivery

/-! # The store

The tables of projects, events, teams, publishers and rules. A table is read as a list in the order
of its rows. Reading can be disturbed: an access that is out of order fails, and so does every
access to a store whose tables were never created.
-/
set_option autoImplicit false
namespace EventDigest
open Time

structure Project where
  id : String
  name : String
  version : Option String
  active : Bool
  parent : Option String
  deriving DecidableEq, Repr

def Project.ref (p : Project) : ProjectRef := ⟨p.id, p.name, p.version⟩

/-- The members of a team are known by their addresses, in the order in which they joined. -/
structure Team where
  id : String
  name : String
  members : List (Option String)
  deriving DecidableEq, Repr

structure PublisherRow where
  id : String
  name : String
  description : Option String
  key : String
  template : Option String
  mimeType : String
  isDefault : Bool
  scheduled : Bool
  deriving DecidableEq, Repr

def PublisherRow.descriptor (p : PublisherRow) : Descriptor where
  name := p.name
  key := some p.key
  template := p.template
  mimeType := some p.mimeType
  scheduled := p.scheduled

/-- A rule watches groups of events of its projects and publishes a digest of them. Its watermark is
the exclusive start of the next window; the groups are kept as the document that was stored. -/
structure Rule where
  id : String
  name : String
  scope : String
  enabled : Bool
  notifyOn : Json
  cron : String
  onlyWithUpdates : Bool
  includeSuppressed : Bool
  notifyChildren : Bool
  logsSuccess : Bool
  publisher : Option String
  config : Option String
  watermark : Instant
  createdAt : Instant
  projects : List String
  teams : List String
  deriving Repr

inductive Table
  | projects
  | findings
  | violations
  | teams
  | members
  | publishers
  | rules
  deriving DecidableEq, Repr

def Table.name : Table → String
  | .projects => "projects"
  | .findings => "findings"
  | .violations => "policy_violations"
  | .teams => "teams"
  | .members => "team_members"
  | .publishers => "notification_publishers"
  | .rules => "scheduled_notification_rules"

inductive Access
  | read (table : Table)
  | count (table : Table)
  | create
  deriving DecidableEq, Repr

structure Outage where
  access : Access
  message : String
  deriving DecidableEq, Repr

structure Store where
  created : Bool
  outage : Option Outage
  issued : Nat
  projects : List Project
  findings : List Finding
  violations : List Violation
  teams : List Team
  publishers : List PublisherRow
  rules : List Rule
  deriving Repr

namespace Store

def empty : Store := ⟨false, none, 0, [], [], [], [], [], []⟩

def failure? (store : Store) (access : Access) : Option String :=
  match store.outage with
  | none => none
  | some outage => if outage.access = access then some outage.message else none

/-- The message about a table that is out of order or was never created. -/
def obstacle? (store : Store) (access : Access) (table : Table) : Option String :=
  match store.failure? access with
  | some message => some message
  | none => if store.created then none else some s!"no such table: {table.name}"

def read {α : Type} (store : Store) (table : Table) (rows : Store → α) : Except Fault α :=
  match store.obstacle? (.read table) table with
  | some message => .error (.store message)
  | none => .ok (rows store)

def count {α : Type} (store : Store) (table : Table) (rows : Store → α) : Except Fault α :=
  match store.obstacle? (.count table) table with
  | some message => .error (.store message)
  | none => .ok (rows store)

def create (store : Store) : Except Fault Store :=
  match store.failure? .create with
  | some message => .error (.store message)
  | none => .ok { store with created := true }

def nextId (store : Store) : String :=
  let digits := Nat.toDigits 10 (store.issued + 1)
  "00000000-0000-4000-8000-" ++ String.ofList (List.replicate (12 - digits.length) '0' ++ digits)

end EventDigest.Store

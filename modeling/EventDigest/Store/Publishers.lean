import EventDigest.Journal
import EventDigest.Store

/-! # Publishers of the store

Listing publishers, and the three that every installation is given. A publisher that exists under
its name is never overwritten.
-/
set_option autoImplicit false
namespace EventDigest

inductive Trigger
  | all
  | schedule
  | event
  deriving DecidableEq, Repr

def Trigger.named? (name : String) : Option Trigger :=
  match Text.upper name with
  | "ALL" => some .all
  | "SCHEDULE" => some .schedule
  | "EVENT" => some .event
  | _ => none

def Trigger.admits : Trigger → PublisherRow → Bool
  | .all, _ => true
  | .schedule, p => p.scheduled
  | .event, p => !p.scheduled

namespace Store

def listedPublishers (store : Store) (trigger : Trigger) : List PublisherRow :=
  (store.publishers.filter trigger.admits).mergeSort fun a b => a.name ≤ b.name

def listPublishers (store : Store) (trigger : Trigger) : Except Fault (List PublisherRow) :=
  store.read .publishers (·.listedPublishers trigger)

def publisherNamed? (store : Store) (name : String) : Option PublisherRow :=
  store.publishers.find? (·.name = name)

def findPublisher (store : Store) (name : String) : Except Fault (Option PublisherRow) :=
  store.read .publishers (·.publisherNamed? name)

/-- The publisher of a rule; a rule without one needs no reading. -/
def loadPublisher (store : Store) (rule : Rule) : Except Fault (Option PublisherRow) :=
  match rule.publisher with
  | none => .ok none
  | some id => store.read .publishers fun store => store.publishers.find? (·.id = id)

structure Seed where
  name : String
  description : String
  key : String
  template : String
  mimeType : String
  deriving Repr

def consoleTemplate : String :=
  "--------------------------------------------------------------------------------\n" ++
  "Notification\n" ++
  "  -- timestamp: $timestamp\n" ++
  "  -- level:     $level\n" ++
  "  -- scope:     $scope\n" ++
  "  -- group:     $group\n" ++
  "  -- title:     $title\n" ++
  "  -- content:   $content\n" ++
  "--------------------------------------------------------------------------------\n" ++
  "$subject_json\n"

def webhookTemplate : String :=
  "\x7b\n" ++
  "  \"notification\": \x7b\n" ++
  "    \"level\": \"$level\",\n" ++
  "    \"scope\": \"$scope\",\n" ++
  "    \"group\": \"$group\",\n" ++
  "    \"timestamp\": \"$timestamp\",\n" ++
  "    \"title\": \"$title\",\n" ++
  "    \"content\": \"$content\",\n" ++
  "    \"subject\": $subject_json\n" ++
  "  \x7d\n" ++
  "\x7d\n"

def mailTemplate : String :=
  "$title\n\n" ++
  "$content\n\n" ++
  "Level:     $level\n" ++
  "Scope:     $scope\n" ++
  "Group:     $group\n" ++
  "Timestamp: $timestamp\n\n" ++
  "$subject_json\n"

def seeds : List Seed :=
  [⟨"Console", "Displays notifications on the system console", "console", consoleTemplate,
      "text/plain"⟩,
    ⟨"Outbound Webhook", "Publishes notifications to a configurable endpoint", "webhook",
      webhookTemplate, "application/json"⟩,
    ⟨"Email", "Sends notifications to an email address", "email", mailTemplate, "text/plain"⟩]

def Seed.row (seed : Seed) (id : String) : PublisherRow where
  id
  name := seed.name
  description := some seed.description
  key := seed.key
  template := some seed.template
  mimeType := seed.mimeType
  isDefault := true
  scheduled := true

def plant (store : Store) (seed : Seed) : Store :=
  if (store.publisherNamed? seed.name).isSome then store
  else { store with
    issued := store.issued + 1
    publishers := store.publishers ++ [seed.row store.nextId] }

/-- Adds the seeds that are missing and counts them. -/
def seed (store : Store) : Except Fault (Store × Nat) := do
  let store ← store.read .publishers id
  let planted := seeds.foldl plant store
  return (planted, planted.publishers.length - store.publishers.length)

def seedJournal (created : Nat) : Journal :=
  if created = 0 then []
  else [.info "publisher_seed" s!"Seeded {created} default notification publisher(s)"]

end EventDigest.Store

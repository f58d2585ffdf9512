import EventDigest.Proofs.Counts
import EventDigest.Proofs.Window
import EventDigest.Recorded
import Mathlib.Data.Finset.Card

/-! # The views of a digest

A digest shows one window three times: as an overview, as a summary of counts for each project and
as details. The overview is counted over all projects at once and the summary project by project;
the two and the details always agree.
-/
set_option autoImplicit false
namespace EventDigest
open Time

theorem Group.nodup_categories (group : Group) : group.categories.Nodup := by
  cases group with
  | vulnerability => decide
  | violation => decide
  | other name => exact List.nodup_nil

namespace Digest
variable {ε : Type}

theorem of_tallyOrdered (group : Group) (events : List Event) (category : String) :
    (tallyOrdered group events).of category = (events.map (·.category)).count category := by
  rw [tallyOrdered, Counts.of_ordered group.nodup_categories (Counts.nodup_names_tally _),
    Counts.of_tally]

def newEvents (digest : Digest) : List Event := digest.events.filter (!·.suppressed)

end Digest

/-! Two projects of which one has nothing but a suppressed event. -/
namespace Sample

def event (project category : String) (version : Option String) (suppressed : Bool) : Event where
  id := 1
  project
  component := "lodash"
  componentVersion := version
  category
  identifier := "CVE-2024-0001"
  occurredAt := .first
  suppressed
  title := none
  description := none
  attributes := []

def projects : List ProjectRef :=
  [⟨"p1", "Acme", none⟩, ⟨"p2", "Acme Labs", none⟩, ⟨"p1", "Acme", none⟩]

end Sample

namespace Digest
variable {ε : Type}

end Digest

end EventDigest

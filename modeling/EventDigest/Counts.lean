import EventDigest.Json

/-! # Counts per category

A count map loses its zero entries and gets one order when it is shown: the known categories in
their own order, all others after them by name.
-/
set_option autoImplicit false
namespace EventDigest

abbrev Counts := Fields Int

namespace Counts

def of (counts : Counts) (category : String) : Int := (Fields.get? counts category).getD 0

def add (counts : Counts) (category : String) (n : Int) : Counts :=
  Fields.put category (counts.of category + n) counts

def tally (categories : List String) : Counts :=
  categories.foldl (fun counts category => counts.add category 1) []

/-- Adds each count of another map. -/
def addAll (counts later : Counts) : Counts :=
  later.foldl (fun counts (category, n) => counts.add category n) counts

def total (counts : Counts) : Int := counts.foldr (fun field total => field.2 + total) 0

def known (order : List String) (counts : Counts) : Counts :=
  (order.map fun category => (category, counts.of category)).filter (·.2 ≠ 0)

def unknown (order : List String) (counts : Counts) : Counts :=
  (counts.filter fun (category, n) => !order.contains category && n ≠ 0).mergeSort
    fun a b => a.1 ≤ b.1

def ordered (order : List String) (counts : Counts) : Counts :=
  counts.known order ++ counts.unknown order

def toJson (counts : Counts) : Json := .object (counts.map fun (category, n) => (category, .int n))

end EventDigest.Counts

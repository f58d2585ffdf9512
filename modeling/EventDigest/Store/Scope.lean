import EventDigest.Store

/-! # The scope of a rule

A rule without assigned projects covers every active project. Otherwise it covers its active
assigned projects and, when it notifies children, the active projects below them, level by level:
the children of a level are looked up together, and a project that is not active ends its branch.
-/
set_option autoImplicit false
namespace EventDigest

namespace Project

/-- By name, and by identifier where names agree. -/
def precedes (a b : Project) : Bool := a.name < b.name || (a.name == b.name && a.id ≤ b.id)

def sorted (projects : List Project) : List Project := projects.mergeSort precedes

end Project

namespace Store

def assigned (store : Store) (rule : Rule) : List Project :=
  Project.sorted (store.projects.filter fun p => rule.projects.contains p.id)

def activeChildren (store : Store) (parents : List String) : List Project :=
  Project.sorted (store.projects.filter fun p =>
    p.active && (p.parent.map parents.contains).getD false)

/-- The active projects below a level that were not seen yet. Each round but the last one sees a
project for the first time, so the number of projects is fuel enough. -/
def below (store : Store) : Nat → List String → List String → List Project
  | 0, _, _ => []
  | _, _, [] => []
  | fuel + 1, seen, level =>
    let found := (store.activeChildren level).filter fun p => !seen.contains p.id
    let ids := found.map (·.id)
    found ++ below store fuel (seen ++ ids) ids

def descendants (store : Store) (roots : List String) : List Project :=
  store.below (store.projects.length + 1) roots roots

def scope (store : Store) (rule : Rule) : List ProjectRef :=
  match store.assigned rule with
  | [] => (Project.sorted (store.projects.filter (·.active))).map Project.ref
  | assigned =>
    let active := assigned.filter (·.active)
    let more := if rule.notifyChildren then store.descendants (active.map (·.id)) else []
    (active ++ more).map Project.ref

end EventDigest.Store

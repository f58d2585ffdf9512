import EventDigest.Proofs.Reachable
import EventDigest.Proofs.Sorted
import EventDigest.Publisher.Mail
import Mathlib.Data.List.DropRight

/-! # Recipients of a mail

A mail goes to the destinations of the configuration and to the members of the teams of the rule.
On the way entries are trimmed more than once and blank ones are dropped in three places; what comes
out is told without any of these steps.
-/
set_option autoImplicit false
namespace EventDigest

namespace Text

theorem trimmed_eq (s : List Char) : trimmed s = (s.dropWhile isBlank).rdropWhile isBlank := rfl

theorem trimmed_eq_nil_iff (s : List Char) : trimmed s = [] ↔ ∀ c ∈ s, isBlank c = true := by
  rw [trimmed_eq, List.rdropWhile_eq_nil_iff, ← List.dropWhile_eq_nil_iff,
    ← List.dropWhile_eq_nil_iff, List.dropWhile_idempotent]

theorem trim_eq_empty_iff (s : String) : trim s = "" ↔ allBlank s = true := by
  rw [trim, ← String.toList_inj, String.toList_ofList, allBlank, List.all_eq_true]
  exact trimmed_eq_nil_iff s.toList

/-- What is left of a text without its blanks begins with no blank. -/
theorem dropWhile_trimmed (s : List Char) : (trimmed s).dropWhile isBlank = trimmed s := by
  rw [List.dropWhile_eq_self_iff]
  intro hSome hBlank
  have hPrefix : trimmed s <+: s.dropWhile isBlank := List.rdropWhile_prefix _ _
  have hHead := List.dropWhile_eq_self_iff.mp (List.dropWhile_idempotent isBlank s)
  have hLonger : 0 < (s.dropWhile isBlank).length := Nat.lt_of_lt_of_le hSome hPrefix.length_le
  rw [hPrefix.getElem hSome] at hBlank
  exact hHead hLonger hBlank

theorem trim_eq_self_iff (s : String) :
    trim s = s ↔
      s.toList.dropWhile isBlank = s.toList ∧ s.toList.rdropWhile isBlank = s.toList := by
  rw [← String.toList_inj, trim, String.toList_ofList]
  constructor
  · intro h
    have hFront := dropWhile_trimmed s.toList
    rw [h] at hFront
    rw [trimmed_eq, hFront] at h
    exact ⟨hFront, h⟩
  · rintro ⟨hFront, hBack⟩
    rw [trimmed_eq, hFront, hBack]

theorem trim_trim (s : String) : trim (trim s) = trim s := by
  rw [trim, trim, String.toList_ofList, trimmed_eq (trimmed _), dropWhile_trimmed, trimmed_eq,
    List.rdropWhile_idempotent]

theorem allBlank_trim (s : String) : allBlank (trim s) = allBlank s := by
  rw [Bool.eq_iff_iff, ← trim_eq_empty_iff, ← trim_eq_empty_iff, trim_trim]

end Text

/-- The entries that are not blank, without the blanks around them and in small letters. -/
def tidy (entries : List String) : List String :=
  (entries.filter (!Text.allBlank ·)).map fun s => Text.lower (Text.trim s)

/-- The elements of a list, each once and in the order in which they first occur. -/
structure KeepsFirst {α : Type} [BEq α] (kept whole : List α) : Prop where
  nodup : kept.Nodup
  mem_iff : ∀ a, a ∈ kept ↔ a ∈ whole
  ordered : kept.Pairwise fun a b => whole.idxOf a < whole.idxOf b

theorem keepsFirst_distinct {α : Type} [DecidableEq α] (whole : List α) :
    KeepsFirst (distinct whole) whole where
  nodup := nodup_distinct whole
  mem_iff a := mem_distinct_iff a whole
  ordered := pairwise_distinct whole

theorem KeepsFirst.eq {α : Type} [DecidableEq α] {kept other whole : List α}
    (h : KeepsFirst kept whole) (hOther : KeepsFirst other whole) : kept = other := by
  have hPerm : kept.Perm other := (List.perm_ext_iff_of_nodup h.nodup hOther.nodup).mpr fun a => by
    rw [h.mem_iff, hOther.mem_iff]
  refine hPerm.eq_of_pairwise (fun a b _ _ hab hba => ?_) h.ordered hOther.ordered
  exact (Nat.lt_asymm hab hba).elim

theorem tidy_append (entries more : List String) :
    tidy (entries ++ more) = tidy entries ++ tidy more := by
  rw [tidy, tidy, tidy, List.filter_append, List.map_append]

theorem filter_map_trim (entries : List String) :
    (entries.map Text.trim).filter (· ≠ "") =
      (entries.filter (!Text.allBlank ·)).map Text.trim := by
  have hSame : ((fun s : String => decide (s ≠ "")) ∘ Text.trim) = (!Text.allBlank ·) := by
    funext s
    rw [Bool.eq_iff_iff]
    simp [Text.trim_eq_empty_iff]
  rw [List.filter_map, hSame]

/-- Entries may be trimmed before, and blank ones dropped. -/
theorem tidy_trimmed (entries : List String) :
    tidy ((entries.map Text.trim).filter (· ≠ "")) = tidy entries := by
  have hSame : ((!Text.allBlank ·) ∘ Text.trim) = (!Text.allBlank ·) := by
    funext s
    rw [Function.comp_apply, Text.allBlank_trim]
  rw [filter_map_trim, tidy, List.filter_map, hSame, List.filter_filter, List.map_map, tidy]
  simp only [Bool.and_self, Function.comp_def, Text.trim_trim]

theorem Publisher.recipientsOf_eq (addresses : List String) :
    recipientsOf addresses = distinct (tidy addresses) := by
  rw [recipientsOf, filter_map_trim, List.map_map]
  rfl

/-- The entries that a configuration names as destinations. -/
inductive Config.Destined (config : Config) : List String → Prop
  | absent (h : Fields.get? config Key.destination = none) : Destined config []
  | null (h : Fields.get? config Key.destination = some .null) : Destined config []
  | text (s : String) (h : Fields.get? config Key.destination = some (.text s)) :
    Destined config (Text.splitAt ',' s)
  | list (items : List String)
    (h : Fields.get? config Key.destination = some (Json.texts items)) : Destined config items

namespace Config
variable {config : Config} {entries : List String}

theorem Destined.destinations_eq (h : config.Destined entries) :
    config.destinations = .ok ((entries.map Text.trim).filter (· ≠ "")) := by
  cases h with
  | absent h => rw [destinations, h]; rfl
  | null h => rw [destinations, h]; rfl
  | text s h => rw [destinations, h, Option.getD_some, destinationsOf_text]
  | list _ h => rw [destinations, h, Option.getD_some, destinationsOf_texts]

end Config

/-- The addresses of the members that have one. -/
def Team.addresses (team : Team) : List String := team.members.filterMap fun address => address

theorem Team.tidy_target (team : Team) : tidy team.target.addresses = tidy team.addresses := by
  have hGiven : tidy (team.members.map (·.getD "")) = tidy team.addresses := by
    rw [addresses]
    induction team.members with
    | nil => rfl
    | cons address rest ih =>
      cases address with
      | none => exact ih
      | some address =>
        rw [List.map_cons, List.filterMap_cons, ← List.singleton_append, tidy_append, ih,
          ← tidy_append]
        rfl
  rw [← hGiven, ← tidy_trimmed (team.members.map _), List.map_map]
  rfl

/-- Who is to get the mails of a rule: the destinations, then the members of its teams, by the name
of the team and in the order in which they joined. -/
def Rule.Audience (rule : Rule) (store : Store) (entries recipients : List String) : Prop :=
  ∃ teams : List Team, teams.Perm (store.teams.filter fun team => rule.teams.contains team.id) ∧
    teams.Pairwise (fun a b => a.name ≤ b.name) ∧
    KeepsFirst recipients (tidy (entries ++ teams.flatMap (·.addresses)))

namespace Store
variable {store : Store} {rule : Rule}

theorem targets_of_loadTargets {targets : List Target} (h : store.loadTargets rule = .ok targets) :
    targets = (store.teamsOf rule).map Team.target := by
  obtain ⟨teams, hTeams, h⟩ := Answer.bind_eq_ok_iff.mp h
  obtain rfl := read_eq_ok hTeams
  split at h
  · rename_i hEmpty
    rw [List.isEmpty_iff.mp hEmpty, ← Answer.pure_eq_ok_iff.mp h]
    rfl
  · exact (read_eq_ok h).symm

theorem pairwise_teamsOf (store : Store) (rule : Rule) :
    (store.teamsOf rule).Pairwise fun a b => a.name ≤ b.name :=
  pairwise_sorted_by_key Team.name _

theorem tidy_targets (teams : List Team) :
    tidy ((teams.map Team.target).flatMap (·.addresses)) =
      tidy (teams.flatMap (·.addresses)) := by
  induction teams with
  | nil => rfl
  | cons team rest ih =>
    rw [List.map_cons, List.flatMap_cons, List.flatMap_cons, tidy_append, tidy_append, ih,
      team.tidy_target]

/-- The addresses that the publisher is given come to the audience of the rule. -/
theorem audience_recipients (store : Store) (rule : Rule) (entries : List String) :
    rule.Audience store entries
      (Publisher.recipientsOf ((entries.map Text.trim).filter (· ≠ "") ++
        ((store.teamsOf rule).map Team.target).flatMap (·.addresses))) := by
  have hTeams : (store.teamsOf rule).Perm
      (store.teams.filter fun team => rule.teams.contains team.id) := List.mergeSort_perm _ _
  refine ⟨store.teamsOf rule, hTeams, store.pairwise_teamsOf rule, ?_⟩
  rw [Publisher.recipientsOf_eq, tidy_append, tidy_append, tidy_trimmed, tidy_targets]
  exact keepsFirst_distinct _

end Store

end EventDigest

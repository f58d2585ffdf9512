import EventDigest.Api
import EventDigest.Proofs.Recipients
import EventDigest.Proofs.Rounds
import Mathlib.Data.List.Forall2
import Mathlib.Data.List.Nodup

/-! # Listing the rules

A rule is shown with the groups that it watches as a list of texts, while a run takes groups of
other kinds too, or none at all. So there are rules that can be run and not be shown, and one of
them keeps every other rule from being listed; nothing else does.
-/
set_option autoImplicit false
namespace EventDigest

/-- The groups of the rule are stored as a list of texts. -/
def Rule.ListsTexts (rule : Rule) : Prop := ∃ names, rule.notifyOn = Json.texts names

namespace Api

/-- The members show the rule and the rows that it refers to. -/
structure Shows (store : Store) (rule : Rule) (members : Fields Json) : Prop where
  id : members.get? "id" = some (.text rule.id)
  name : members.get? "name" = some (.text rule.name)
  scope : members.get? "scope" = some (.text rule.scope)
  enabled : members.get? "enabled" = some (.bool rule.enabled)
  groups : members.get? "notify_on" = some rule.notifyOn
  watermark : members.get? "last_execution_time" = some (.text rule.watermark.wallText)
  publisher : members.get? "publisher" =
    some (Json.ofOption publisherJson (store.publisherOf? rule))
  projects : members.get? "projects" = some (.array ((store.assigned rule).map projectJson))
  teams : members.get? "teams" = some (.array ((store.teamsOf rule).map teamJson))

/-- How the rule is shown over a store that can be read. -/
def shown? (store : Store) (rule : Rule) : Option Json :=
  ruleJson? rule (store.publisherOf? rule) (store.assigned rule) (store.teamsOf rule)

variable {store : Store}

theorem ruleView_eq (hStore : store.Reachable) (rule : Rule) :
    ruleView store rule = .ok (shown? store rule) := by
  rw [ruleView, hStore.loadPublisher_eq, hStore.read_eq, hStore.read_eq]
  rfl

theorem exists_shown (store : Store) {rule : Rule} (h : rule.ListsTexts) :
    ∃ members, shown? store rule = some (.object members) ∧ Shows store rule members := by
  obtain ⟨names, hGroups⟩ := h
  rw [shown?, ruleJson?, hGroups, Json.texts]
  dsimp only
  rw [Config.asTexts?_eq_some_iff.mpr rfl]
  refine ⟨_, rfl, ?_⟩
  constructor
  case groups => rw [hGroups]; rfl
  all_goals rfl

theorem shown?_eq_none {rule : Rule} (h : ¬ rule.ListsTexts) : shown? store rule = none := by
  unfold shown? ruleJson?
  split
  · rename_i items hItems
    cases hTexts : Config.asTexts? items with
    | none => rfl
    | some names =>
      rw [Config.asTexts?_eq_some_iff.mp hTexts] at hItems
      exact (h ⟨names, hItems⟩).elim
  · rfl

theorem mapM_map_some {α : Type} (items : List α) : (items.map some).mapM id = some items := by
  induction items with
  | nil => rfl
  | cons item rest ih => rw [List.map_cons, List.mapM_cons, ih]; rfl

theorem mapM_eq_none {α : Type} {views : List (Option α)} (h : none ∈ views) :
    views.mapM id = none := by
  induction views with
  | nil => exact (List.not_mem_nil h).elim
  | cons view rest ih =>
    rw [List.mapM_cons]
    cases view with
    | none => rfl
    | some item =>
      rw [ih (by simpa using h)]
      rfl

theorem exists_entries (store : Store) {listed : List Rule} (h : ∀ rule ∈ listed, rule.ListsTexts) :
    ∃ entries, listed.map (shown? store) = (entries.map Json.object).map some ∧
      List.Forall₂ (Shows store) listed entries := by
  induction listed with
  | nil => exact ⟨[], rfl, .nil⟩
  | cons rule rest ih =>
    obtain ⟨members, hShown, hShows⟩ := exists_shown store (h rule (List.mem_cons_self ..))
    obtain ⟨entries, hRest, hAll⟩ := ih fun other hOther => h other (List.mem_cons_of_mem _ hOther)
    refine ⟨members :: entries, ?_, .cons hShows hAll⟩
    rw [List.map_cons, hShown, hRest]
    rfl

theorem rules_eq (hStore : store.Reachable) (enabledOnly : Bool) :
    rules store enabledOnly =
      .ok (match ((store.listedRules enabledOnly).map (shown? store)).mapM id with
        | some items => .ok (.array items)
        | none => .internalError) := by
  have hViews : (store.listedRules enabledOnly).mapM (ruleView store) =
      .ok ((store.listedRules enabledOnly).map (shown? store)) := by
    rw [Answer.mapM_eq_ok_iff, List.map_map]
    exact List.map_congr_left fun rule _ => ruleView_eq hStore rule
  rw [rules, Store.listRules, hStore.read_eq]
  change (do let views ← (store.listedRules enabledOnly).mapM (ruleView store); _) = _
  rw [hViews]
  rfl

theorem rule_eq (hStore : store.Reachable) {stored : Rule}
    (hStored : store.rule? stored.id = some stored) : Api.rule store stored.id =
      .ok (match shown? store stored with
        | some view => .ok view
        | none => .internalError) := by
  rw [Api.rule, hStore.read_eq, hStored]
  change (do let view ← ruleView store stored; _) = _
  rw [ruleView_eq hStore]
  rfl

theorem rules_of_listsTexts (hStore : store.Reachable) {enabledOnly : Bool}
    (h : ∀ rule ∈ store.listedRules enabledOnly, rule.ListsTexts) :
    ∃ entries, rules store enabledOnly = .ok (.ok (.array (entries.map .object))) ∧
      List.Forall₂ (Shows store) (store.listedRules enabledOnly) entries := by
  obtain ⟨entries, hShown, hAll⟩ := exists_entries store h
  refine ⟨entries, ?_, hAll⟩
  rw [rules_eq hStore, hShown, mapM_map_some]

/-- One rule that cannot be shown keeps all others from being listed. -/
theorem rules_of_not_listsTexts (hStore : store.Reachable) {enabledOnly : Bool} {rule : Rule}
    (hListed : rule ∈ store.listedRules enabledOnly) (h : ¬ rule.ListsTexts) :
    rules store enabledOnly = .ok .internalError := by
  have hNone : none ∈ (store.listedRules enabledOnly).map (shown? store) :=
    List.mem_map.mpr ⟨rule, hListed, shown?_eq_none h⟩
  rw [rules_eq hStore, mapM_eq_none hNone]

end Api

namespace Store

theorem rule?_of_mem {store : Store} (hIds : (store.rules.map (·.id)).Nodup) {rule : Rule}
    (h : rule ∈ store.rules) : store.rule? rule.id = some rule := by
  cases hFound : store.rule? rule.id with
  | none => exact absurd (List.find?_eq_none.mp hFound rule h) (by simp)
  | some other =>
    have hOther : other ∈ store.rules := List.mem_of_find?_eq_some hFound
    rw [List.inj_on_of_nodup_map hIds hOther h (id_of_rule? hFound)]

/-- The rules that a listing is about. -/
def rulesIn (store : Store) (enabledOnly : Bool) : List Rule :=
  if enabledOnly then store.rules.filter (·.enabled) else store.rules

theorem listedRules_perm (store : Store) (enabledOnly : Bool) :
    (store.listedRules enabledOnly).Perm (store.rulesIn enabledOnly) := by
  cases enabledOnly with
  | true => exact store.perm_listedRules
  | false =>
    have hAll : store.rules.filter (fun rule => !false || rule.enabled) = store.rules :=
      List.filter_eq_self.mpr fun _ _ => rfl
    rw [listedRules, hAll]
    exact List.mergeSort_perm _ _

end Store

namespace Sample

/-- A rule that watches no groups: they are stored as null. -/
def grouplessRule (enabled : Bool) : Rule :=
  { rule [] (instant 100) with id := "r2", name := "Weekly digest", enabled, notifyOn := .null }

/-- A rule that watches a group, and beside it one that watches none. -/
def grouplessStore (enabled : Bool) : Store :=
  { store (rule ["NEW_VULNERABILITY"] (instant 100)) [finding 1 "p1" (instant 150)] with
    rules := [rule ["NEW_VULNERABILITY"] (instant 100), grouplessRule enabled] }

def grouplessWorld : World Publisher.Attempts :=
  ⟨grouplessStore true, .ticking (.ofInstant (instant 200)) 7, desk⟩

theorem not_listsTexts_groupless (enabled : Bool) : ¬ (grouplessRule enabled).ListsTexts := by
  rintro ⟨_, h⟩
  cases h

theorem reachable_groupless (enabled : Bool) : (grouplessStore enabled).Reachable := ⟨rfl, rfl⟩

end Sample

namespace Api

/-- A listing shows its rules by name, each once, if the groups of every one of them are stored as a
list of texts, and otherwise fails as a whole; a single rule is shown by the same test. -/
theorem rules_shown_iff {store : Store} (hStore : store.Reachable)
    (hIds : (store.rules.map (·.id)).Nodup) (enabledOnly : Bool) :
    ∃ listed : List Rule, listed.Perm (store.rulesIn enabledOnly) ∧
      (listed.Pairwise fun a b => a.name ≤ b.name) ∧
      ((∀ rule ∈ listed, rule.ListsTexts) → ∃ entries,
        rules store enabledOnly = .ok (.ok (.array (entries.map .object))) ∧
          List.Forall₂ (Shows store) listed entries) ∧
      (∀ rule ∈ listed, ¬ rule.ListsTexts → rules store enabledOnly = .ok .internalError) ∧
      ∀ stored ∈ store.rules,
        (stored.ListsTexts → ∃ entry, Api.rule store stored.id = .ok (.ok (.object entry)) ∧
          Shows store stored entry) ∧
        (¬ stored.ListsTexts → Api.rule store stored.id = .ok .internalError) := by
  refine ⟨store.listedRules enabledOnly, store.listedRules_perm enabledOnly,
    store.pairwise_listedRules enabledOnly, rules_of_listsTexts hStore,
    fun rule => rules_of_not_listsTexts hStore, fun stored hStored => ?_⟩
  rw [rule_eq hStore (store.rule?_of_mem hIds hStored)]
  constructor
  · intro hTexts
    obtain ⟨entry, hShown, hShows⟩ := exists_shown store hTexts
    exact ⟨entry, by rw [hShown], hShows⟩
  · intro hNot
    rw [shown?_eq_none hNot]

theorem rules_shown_iff_beside_a_disabled_rule :
    ((Sample.grouplessStore false).Reachable ∧
      ((Sample.grouplessStore false).rules.map (·.id)).Nodup) ∧
    (∃ entry, rules (Sample.grouplessStore false) true = .ok (.ok (.array [.object entry])) ∧
      Shows (Sample.grouplessStore false) (Sample.rule ["NEW_VULNERABILITY"] (Sample.instant 100))
        entry) ∧
    rules (Sample.grouplessStore false) false = .ok .internalError ∧
    (∃ entry, Api.rule (Sample.grouplessStore false) "r1" = .ok (.ok (.object entry))) ∧
    Api.rule (Sample.grouplessStore false) "r2" = .ok .internalError := by
  have hStore := Sample.reachable_groupless false
  have hIds : ((Sample.grouplessStore false).rules.map (·.id)).Nodup := by decide
  have hSecond : Sample.grouplessRule false ∈ (Sample.grouplessStore false).rules :=
    List.mem_cons_of_mem _ (List.mem_cons_self ..)
  refine ⟨⟨hStore, hIds⟩, ?_, ?_, ?_, ?_⟩
  · obtain ⟨listed, hPerm, _, hShown, _, _⟩ := rules_shown_iff hStore hIds true
    obtain rfl := List.perm_singleton.mp hPerm
    obtain ⟨entries, hRules, hAll⟩ := hShown fun rule hRule =>
      ⟨["NEW_VULNERABILITY"], by rw [List.mem_singleton.mp hRule]; rfl⟩
    cases hAll with
    | cons hShows hNil =>
      cases hNil
      exact ⟨_, hRules, hShows⟩
  · obtain ⟨listed, hPerm, _, _, hFails, _⟩ := rules_shown_iff hStore hIds false
    exact hFails (Sample.grouplessRule false) (hPerm.mem_iff.mpr hSecond)
      (Sample.not_listsTexts_groupless false)
  · obtain ⟨_, _, _, _, _, hRule⟩ := rules_shown_iff hStore hIds false
    obtain ⟨entry, hEntry, _⟩ := (hRule _ (List.mem_cons_self ..)).1 ⟨["NEW_VULNERABILITY"], rfl⟩
    exact ⟨entry, hEntry⟩
  · obtain ⟨_, _, _, _, _, hRule⟩ := rules_shown_iff hStore hIds false
    exact (hRule _ hSecond).2 (Sample.not_listsTexts_groupless false)

/-- Both rules can be run, and one of them keeps the other from being listed. -/
theorem runnable_rules_not_listed :
    Sample.grouplessWorld.store.rules.map (·.id) = ["r1", "r2"] ∧
    (∃ outcome after,
      ((Sample.executor []).execute "r1").Returns Sample.grouplessWorld outcome after) ∧
    (∃ outcome after,
      ((Sample.executor []).execute "r2").Returns Sample.grouplessWorld outcome after) ∧
    rules Sample.grouplessWorld.store false = .ok .internalError ∧
    Api.rule Sample.grouplessWorld.store "r2" = .ok .internalError := by
  have hStore := Sample.reachable_groupless true
  have hStored : Sample.grouplessRule true ∈ (Sample.grouplessStore true).rules :=
    List.mem_cons_of_mem _ (List.mem_cons_self ..)
  have hListed : Sample.grouplessRule true ∈ (Sample.grouplessStore true).listedRules false :=
    ((Sample.grouplessStore true).listedRules_perm false).mem_iff.mpr hStored
  have hNot := Sample.not_listsTexts_groupless true
  refine ⟨rfl, ?_, ?_, rules_of_not_listsTexts hStore hListed hNot, ?_⟩
  · obtain ⟨outcome, after, h, _⟩ := Run.returnsWith_iff.mp
      (show Run.returnsWith ((Sample.executor []).execute "r1") Sample.grouplessWorld
        (fun _ _ => true) = true by decide +kernel)
    exact ⟨outcome, after, h⟩
  · obtain ⟨outcome, after, h, _⟩ := Run.returnsWith_iff.mp
      (show Run.returnsWith ((Sample.executor []).execute "r2") Sample.grouplessWorld
        (fun _ _ => true) = true by decide +kernel)
    exact ⟨outcome, after, h⟩
  · have hIds : ((Sample.grouplessStore true).rules.map (·.id)).Nodup := by decide
    have hFound := Store.rule?_of_mem hIds hStored
    exact (rule_eq hStore hFound).trans (by rw [shown?_eq_none hNot])

end Api
end EventDigest

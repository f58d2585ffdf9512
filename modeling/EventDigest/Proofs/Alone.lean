import EventDigest.Proofs.Frame
import EventDigest.Proofs.Rounds

/-! # Groups alone

While the clock stands still and the publishers are steady, a run of a rule is made of runs of the
same rule with one entry each: it has their results and their deliveries, in the order of the
entries, over the same window. Such a run of one entry may end with a fault of its own only where
the clock shows no time of the calendar: a group that was passed over lets the watermark move, which
it would not have done beside a group that failed.
-/
set_option autoImplicit false
namespace EventDigest
open Time
variable {β : Type}

namespace Rule

/-- The stored entries behind the names of the groups. -/
def entries (rule : Rule) : List Json :=
  match rule.notifyOn with
  | .array items => items
  | .text s => s.toList.map fun c => .text (String.ofList [c])
  | .object members => (Fields.names members).map .text
  | _ => []

/-- The rule with a single entry. -/
def watching (rule : Rule) (entry : Json) : Rule := { rule with notifyOn := .array [entry] }

theorem keepsId_watching (entry : Json) : KeepsId fun rule => rule.watching entry := fun _ => rfl

theorem names_eq_entries {rule : Rule} {names : List String} (h : rule.groupNames = .ok names) :
    names = rule.entries.map Json.display := by
  unfold groupNames at h
  unfold entries
  cases hStored : rule.notifyOn with
  | array items =>
    cases items with
    | nil => simpa [hStored, Json.isGiven] using h.symm
    | cons item rest => simpa [hStored, Json.isGiven] using h.symm
  | text s =>
    by_cases hEmpty : s = ""
    · simpa [hStored, Json.isGiven, hEmpty] using h.symm
    · simpa [hStored, Json.isGiven, hEmpty, Function.comp_def, Json.display] using h.symm
  | object members =>
    cases members with
    | nil => simpa [hStored, Json.isGiven, Fields.names] using h.symm
    | cons member rest =>
      simpa [hStored, Json.isGiven, Function.comp_def, Json.display] using h.symm
  | null => simpa [hStored, Json.isGiven] using h.symm
  | _ =>
    rw [hStored] at h
    dsimp only at h ⊢
    split at h
    · simpa using h.symm
    · cases h

end Rule

namespace Store
variable {store : Store} {id : String}

/-- The store in which one rule is left with a single entry. -/
def watching (store : Store) (id : String) (entry : Json) : Store :=
  { store with
    rules := store.rules.map fun rule => if rule.id = id then rule.watching entry else rule }

theorem alike_watching {other : String} (hOther : other ≠ id) (entry : Json) :
    store.Alike other (store.watching id entry) :=
  .rules _ (rule?_changing_of_ne (Rule.keepsId_watching entry) hOther)

/-- To some rule the change makes no difference. -/
theorem exists_alike_watching (store : Store) (id : String) (entry : Json) :
    ∃ other, store.Alike other (store.watching id entry) := by
  have hOther : id ++ "-" ≠ id := by
    intro hSame
    have hLength := congrArg String.length hSame
    rw [String.length_append] at hLength
    exact absurd hLength (by simp)
  exact ⟨id ++ "-", alike_watching hOther entry⟩

theorem loadRule_watching {rule : Rule} (h : store.loadRule id = .ok rule) (entry : Json) :
    (store.watching id entry).loadRule id = .ok (rule.watching entry) := by
  have hChanged := loadRule_changing (Rule.keepsId_watching entry) store id
  rw [h] at hChanged
  exact hChanged

end Store


/-- The world in which one rule is left with a single entry. -/
def World.watching (world : World β) (id : String) (entry : Json) : World β :=
  { world with store := world.store.watching id entry }

theorem World.Alike.of_follows {world mid : World β} {base : World β} {id : String}
    (h : World.Alike id base world) (hFollows : world.Follows mid) : World.Alike id base mid where
  store := hFollows.store_eq ▸ h.store
  reading m n := by rw [hFollows.reading_eq, h.reading m n]

namespace Executor
variable {executor : Executor β} {rule : Rule} {world after : World β} {id : String}
  {projects : List ProjectRef} {targets : List Target} {names : List String}

/-- What a group came to: its report and what was delivered for it. -/
structure Share where
  report : GroupReport
  made : List Delivery

def Comes (executor : Executor β) (rule : Rule) (projects : List ProjectRef)
    (targets : List Target) (world : World β) (name : String) (share : Share) : Prop :=
  ∃ after, (executor.processGroup rule rule.watermark projects targets name).Returns world
    share.report after ∧ after.desk.deliveries = world.desk.deliveries ++ share.made

theorem Comes.of_alike (hSteady : executor.Steady) {name : String} {share : Share}
    (h : executor.Comes rule projects targets world name share) {other : World β}
    (hAlike : World.Alike id world other) :
    executor.Comes rule projects targets other name share := by
  obtain ⟨after, hRun, hMade⟩ := h
  obtain ⟨hAnswer, made, _, hWorld, hOther⟩ :=
    mirrored_processGroup hSteady rule.watermark projects targets name world other hAlike
  rw [hRun] at hAnswer hWorld
  have hSame : share.made = made := List.append_cancel_left (hMade.symm.trans hWorld.deliveries)
  exact ⟨_, Run.returns_of_answer hAnswer, hSame ▸ hOther.deliveries⟩

/-- Each of several groups comes to what it would come to in a world alike to the first one. -/
theorem shares_of_processGroups (hSteady : executor.Steady) {base : World β}
    (hAlike : World.Alike id base world) {reports : List GroupReport}
    (h : (executor.processGroups rule rule.watermark projects targets names).Returns world reports
      after) :
    ∃ shares, List.Forall₂ (executor.Comes rule projects targets base) names shares ∧
      reports = shares.map (·.report) ∧
      after.desk.deliveries = world.desk.deliveries ++ shares.flatMap (·.made) := by
  induction names generalizing world reports with
  | nil =>
    obtain ⟨rfl, rfl⟩ := Run.returns_pure_iff.mp h
    exact ⟨[], .nil, rfl, (List.append_nil _).symm⟩
  | cons name rest ih =>
    obtain ⟨report, mid, hFirst, h⟩ := Run.returns_bind_iff.mp h
    obtain ⟨others, last, hRest, h⟩ := Run.returns_bind_iff.mp h
    obtain ⟨rfl, rfl⟩ := Run.returns_pure_iff.mp h
    obtain ⟨hAnswer, made, _, hBase, hWorld⟩ :=
      mirrored_processGroup hSteady rule.watermark projects targets name base world hAlike
    rw [hFirst] at hAnswer hWorld
    have hMid := (quiet_processGroup _ _ _ _ _ _).follows hFirst
    obtain ⟨shares, hShares, rfl, hMade⟩ := ih (hAlike.of_follows hMid) hRest
    have hShare : executor.Comes rule projects targets base name ⟨report, made⟩ :=
      ⟨_, Run.returns_of_answer hAnswer.symm, hBase.deliveries⟩
    refine ⟨⟨report, made⟩ :: shares, .cons hShare hShares, rfl, ?_⟩
    rw [hMade, hWorld.deliveries, List.flatMap_cons, List.append_assoc]

/-- Over a clock that shows no time of the calendar nothing is announced. -/
theorem processGroup_out_of_span {windowStart : Instant} {name : String} {report : GroupReport}
    (h : (executor.processGroup rule windowStart projects targets name).Returns world report after)
    (hClock : ∀ n, (world.clock.reading n).toInstant = .error .outOfSpan) :
    report.notification = none ∧ world.desk.Idle after.desk := by
  cases course_of_processGroup h with
  | unsupported entry _ hLog => exact ⟨rfl, (Run.inward_log _).idle hLog⟩
  | skipped digest collected entry _ hCollect _ _ hLog =>
    have hCollected := (inward_collect _ _ _ _ _).idle hCollect
    exact ⟨rfl, hCollected.trans ((Run.inward_log _).idle hLog)⟩
  | announced digest notification result collected built _ hCollect _ hAnnounce =>
    have hFollows := (quiet_collect _ _ _ _ _).follows hCollect
    obtain ⟨_, _, _, hTime, _⟩ := Notification.announce_eq_ok (announce_returns hAnnounce)
    rw [hFollows.reading_eq, hClock] at hTime
    cases hTime

/-- What a rule comes to with one of its entries alone: it returns; or, over a clock that shows no
time of the calendar, it passes its group over and fails on moving the watermark. -/
inductive Alone (executor : Executor β) (id : String) (world : World β)
    (windowStart : Option Instant) (entry : Json) : List GroupResult → List Delivery → Prop
  | returned (outcome : Outcome) (after : World β) (made : List Delivery)
    (hRun : (executor.execute id).Returns (world.watching id entry) outcome after)
    (hWindow : outcome.windowStart = windowStart)
    (hMade : after.desk.deliveries = world.desk.deliveries ++ made) :
    Alone executor id world windowStart entry outcome.results made
  | overflowed (result : GroupResult) (after : World β)
    (hRun : (executor.execute id).start (world.watching id entry) = (.error .outOfSpan, after))
    (hClock : ∀ n, (world.clock.reading n).toInstant = .error .outOfSpan)
    (hSkipped : result.status = .skipped)
    (hMade : after.desk.deliveries = world.desk.deliveries) :
    Alone executor id world windowStart entry [result] []

theorem Loads.watching (h : Loads world id rule projects targets names) (entry : Json) :
    Loads (world.watching id entry) id (rule.watching entry) projects targets [entry.display] where
  loaded := Store.loadRule_watching h.loaded entry
  covered := by
    obtain ⟨_, hAlike⟩ := world.store.exists_alike_watching id entry
    exact (hAlike.loadScope_eq rule).trans h.covered
  addressed := h.addressed
  named := rfl

/-- A run of a rule with one group ends as its conclusion does. -/
theorem Loads.start_execute {name : String} (h : Loads world id rule projects targets [name])
    (hEnabled : rule.enabled = true) {report : GroupReport} {mid : World β}
    (hGroup : (executor.processGroup rule rule.watermark projects targets name).Returns
      (begun rule world) report mid) :
    (executor.execute id).start world = (conclude rule [report.result]).start mid := by
  have hGroups : (executor.processGroups rule rule.watermark projects targets [name]).Returns
      (begun rule world) [report] mid :=
    hGroup.bind ((Run.returns_pure [] mid).bind (Run.returns_pure [report] mid))
  rw [execute, Run.start_bind, h.start_perform hEnabled, Run.start_bind, hGroups]
  dsimp only
  rw [Run.start_bind, List.map_singleton]
  rcases (conclude rule [report.result]).start mid with ⟨fault | outcome, after⟩
  · rfl
  · rfl

theorem Comes.alone (hSteady : executor.Steady) (hStill : world.clock.Still)
    (hLoads : Loads world id rule projects targets names) (hEnabled : rule.enabled = true)
    {entry : Json} {share : Share}
    (h : executor.Comes rule projects targets world entry.display share) :
    executor.Alone id world (some rule.watermark) entry [share.report.result] share.made := by
  have hSolo := hLoads.watching entry
  obtain ⟨other, hStore⟩ := world.store.exists_alike_watching id entry
  have hAlike : World.Alike other world (begun (rule.watching entry) (world.watching id entry)) :=
    ⟨hStore, fun m n => hStill m n⟩
  obtain ⟨mid, hGroup, hMade⟩ := h.of_alike hSteady hAlike
  have hStart := hSolo.start_execute hEnabled hGroup
  have hMid := (quiet_processGroup _ _ _ _ _ _).follows hGroup
  have hIdle := inward_conclude (rule.watching entry) [share.report.result] mid
  have hLoaded : mid.store.loadRule (rule.watching entry).id = .ok (rule.watching entry) := by
    rw [hMid.store_eq, Store.id_of_rule? (Store.loadRule_eq_ok hSolo.loaded)]
    exact hSolo.loaded
  rw [← hStart] at hIdle
  rcases Run.returns_or_fails (conclude (rule.watching entry) [share.report.result]) mid with
    ⟨outcome, last, hConclude⟩ | ⟨fault, hConclude⟩
  · obtain ⟨hWindow, hResults, _⟩ := conclude_returns (Store.loadRule_eq_ok hLoaded) hConclude
    have hRun : (executor.execute id).Returns (world.watching id entry) outcome last :=
      hStart.trans hConclude
    rw [hRun] at hIdle
    rw [← hResults]
    exact .returned outcome last share.made hRun hWindow (hIdle.deliveries.trans hMade)
  · obtain ⟨rfl, hSettles, hTime⟩ := fault_of_conclude hLoaded hConclude
    rw [hMid.reading_eq] at hTime
    have hClock : ∀ n, (world.clock.reading n).toInstant = .error .outOfSpan := by
      intro n
      rw [hStill n mid.clock.taken]
      exact hTime
    obtain ⟨hNone, hQuiet⟩ := processGroup_out_of_span hGroup hClock
    have hReport := processGroup_returns hGroup
    have hSkipped : share.report.result.status = .skipped :=
      (hReport.status_of_none hNone).resolve_right (settles_singleton_iff.mp hSettles).2
    have hNothing : share.made = [] := by
      rw [hQuiet.deliveries] at hMade
      exact List.self_eq_append_right.mp hMade
    rw [hNothing]
    exact .overflowed share.report.result _ (Prod.ext (hStart ▸ hConclude) rfl) hClock hSkipped
      (hIdle.deliveries.trans hQuiet.deliveries)

theorem alone_of_disabled (executor : Executor β) (hLoaded : world.store.loadRule id = .ok rule)
    (hDisabled : rule.enabled = false) (entry : Json) :
    executor.Alone id world none entry [] [] := by
  have hSolo : (world.watching id entry).store.loadRule id = .ok (rule.watching entry) :=
    Store.loadRule_watching hLoaded entry
  exact .returned _ _ [] (start_execute_disabled executor hSolo hDisabled) rfl
    (List.append_nil _).symm

/-- Through steady publishers and over a clock that stands still the groups of a rule do not
influence each other: a run comes, entry by entry, to what the rule comes to with that entry
alone. -/
theorem execute_group_by_group {outcome : Outcome} (hSteady : executor.Steady)
    (hStill : world.clock.Still) (hRule : world.store.rule? id = some rule)
    (h : (executor.execute id).Returns world outcome after) :
    ∃ parts : List (List GroupResult × List Delivery),
      List.Forall₂ (fun entry part =>
        executor.Alone id world outcome.windowStart entry part.1 part.2) rule.entries parts ∧
      outcome.results = parts.flatMap (·.1) ∧
      after.desk.deliveries = world.desk.deliveries ++ parts.flatMap (·.2) ∧
      (rule.enabled = true → ∀ part ∈ parts, part.1.length = 1) := by
  cases hEnabled : rule.enabled with
  | true =>
    obtain ⟨reports, hPerform⟩ := execute_returns_iff.mp h
    obtain ⟨projects, targets, names, hLoads⟩ := loads_of_perform hRule hEnabled hPerform
    obtain ⟨mid, hGroups, hConclude⟩ := hLoads.phases hEnabled hPerform
    have hMid := (quiet_processGroups _ _ _ _ _ _).follows hGroups
    have hStored : mid.store.rule? rule.id = some rule := by
      rw [hMid.store_eq, Store.id_of_rule? hRule]
      exact hRule
    obtain ⟨hWindow, hResults, _⟩ := conclude_returns hStored hConclude
    have hIdle := (inward_conclude rule _).idle hConclude
    have hAlike : World.Alike id world (begun rule world) := ⟨.refl id world.store, hStill⟩
    obtain ⟨shares, hShares, rfl, hMade⟩ := shares_of_processGroups hSteady hAlike hGroups
    rw [Rule.names_eq_entries hLoads.named, List.forall₂_map_left_iff] at hShares
    refine ⟨shares.map fun share => ([share.report.result], share.made), ?_, ?_, ?_, ?_⟩
    · rw [hWindow, List.forall₂_map_right_iff]
      exact hShares.imp fun entry share hShare => hShare.alone hSteady hStill hLoads hEnabled
    · rw [hResults, List.flatMap_map, List.map_map]
      exact List.map_eq_flatMap
    · rw [hIdle.deliveries, hMade, List.flatMap_map]
      rfl
    · intro _ part hPart
      obtain ⟨share, _, rfl⟩ := List.mem_map.mp hPart
      rfl
  | false =>
    obtain ⟨_, hPerform⟩ := execute_returns_iff.mp h
    have hLoaded := loadRule_of_perform hRule hPerform
    obtain ⟨rfl, rfl⟩ := h.unique (start_execute_disabled executor hLoaded hEnabled)
    refine ⟨rule.entries.map fun _ => ([], []), ?_, ?_, ?_, fun hTrue => by cases hTrue⟩
    · rw [List.forall₂_map_right_iff, List.forall₂_same]
      exact fun entry _ => alone_of_disabled executor hLoaded hEnabled entry
    · rw [List.flatMap_map, List.flatMap_eq_nil_iff.mpr fun _ _ => rfl]
    · rw [List.flatMap_map, List.flatMap_eq_nil_iff.mpr fun _ _ => rfl, List.append_nil]

end Executor

/-! Clocks that stand still, one of them where the offset leads out of the calendar. -/
namespace Sample

def repeatingWorld : World Nat :=
  { deliveringWorld "webhook" (documentedRule
      ["NEW_VULNERABILITY", "BOM_CONSUMED", "NEW_VULNERABILITY"] hookDocument) with
    clock := ⟨fun _ => .ofInstant (instant 200), 0⟩ }

def quietRule : Rule :=
  { documentedRule ["NEW_VULNERABILITY", "BOM_CONSUMED"] hookDocument with onlyWithUpdates := true }

/-- It is five hours ahead of universal time, at midnight of the first day. -/
def earlyWorld : World Nat :=
  { deliveringWorld "webhook" quietRule with clock := ⟨fun _ => ⟨.first, some 18000000000⟩, 0⟩ }

end Sample

namespace Executor

theorem execute_group_by_group_with_a_repetition :
    ∃ outcome after, ∃ parts : List (List GroupResult × List Delivery),
      ((Sample.deliveringExecutor Sample.accepting).execute "r1").Returns Sample.repeatingWorld
        outcome after ∧
      outcome.results.map (·.status) = [.published, .unsupported, .published] ∧
      List.Forall₂ (fun entry part => (Sample.deliveringExecutor Sample.accepting).Alone "r1"
        Sample.repeatingWorld outcome.windowStart entry part.1 part.2)
        [.text "NEW_VULNERABILITY", .text "BOM_CONSUMED", .text "NEW_VULNERABILITY"] parts ∧
      outcome.results = parts.flatMap (·.1) ∧ after.desk.deliveries = parts.flatMap (·.2) := by
  obtain ⟨outcome, after, h, hTest⟩ := Run.returnsWith_iff.mp
    (show ((Sample.deliveringExecutor Sample.accepting).execute "r1").returnsWith
      Sample.repeatingWorld (fun outcome _ =>
        outcome.results.map (·.status) = [.published, .unsupported, .published]) = true by
      decide +kernel)
  obtain ⟨parts, hParts, hResults, hMade, _⟩ :=
    execute_group_by_group Sample.steady_accepting (fun _ _ => rfl) rfl h
  exact ⟨outcome, after, parts, h, of_decide_eq_true hTest, hParts, hResults, hMade⟩

/-- A run returns, and the same rule fails with the first of its two entries alone. -/
theorem passed_over_group_fails_alone :
    (Sample.deliveringExecutor Sample.accepting).Steady ∧ Sample.earlyWorld.clock.Still ∧
      Sample.earlyWorld.store.rule? "r1" = some Sample.quietRule ∧
      Sample.quietRule.entries = [.text "NEW_VULNERABILITY", .text "BOM_CONSUMED"] ∧
      (∃ outcome after,
        ((Sample.deliveringExecutor Sample.accepting).execute "r1").Returns Sample.earlyWorld
          outcome after ∧ outcome.results.map (·.status) = [.skipped, .unsupported]) ∧
      ((Sample.deliveringExecutor Sample.accepting).execute "r1").Fails
        (Sample.earlyWorld.watching "r1" (.text "NEW_VULNERABILITY")) .outOfSpan := by
  obtain ⟨outcome, after, h, hTest⟩ := Run.returnsWith_iff.mp
    (show ((Sample.deliveringExecutor Sample.accepting).execute "r1").returnsWith
      Sample.earlyWorld (fun outcome _ =>
        outcome.results.map (·.status) = [.skipped, .unsupported]) = true by decide +kernel)
  obtain ⟨fault, hFails, hFault⟩ := Run.failsWith_iff.mp
    (show ((Sample.deliveringExecutor Sample.accepting).execute "r1").failsWith
      (Sample.earlyWorld.watching "r1" (.text "NEW_VULNERABILITY"))
      (fun fault => fault = .outOfSpan) = true by decide +kernel)
  obtain rfl := of_decide_eq_true hFault
  exact ⟨Sample.steady_accepting, fun _ _ => rfl, rfl, rfl,
    ⟨outcome, after, h, of_decide_eq_true hTest⟩, hFails⟩

end Executor

end EventDigest

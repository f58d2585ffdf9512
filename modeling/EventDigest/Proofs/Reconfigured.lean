import EventDigest.Proofs.Paired
import EventDigest.Proofs.Performed
import EventDigest.Proofs.Reachable
import EventDigest.Proofs.Rounds

/-! # Rules under another configuration

A run of a rule is compared with a run of the rule under another configuration. Where the two
configurations agree besides the reserved keys, the runs end alike and leave the same store but for
the configuration itself; what they deliver corresponds, and with the standard publishers every body
is rendered from the descriptor alone.
-/
set_option autoImplicit false
namespace EventDigest
open Time
variable {β α γ δ ε : Type}

namespace Rule

def configured (rule : Rule) (config : Option String) : Rule := { rule with config }

theorem keepsId_configured (config : Option String) : KeepsId fun rule => rule.configured config :=
  fun _ => rfl

/-- The notification announces a window of the rule. -/
def Announces (rule : Rule) (zone : Zone) (n : Notification) : Prop :=
  ∃ digest now, digest.windowStart = rule.watermark ∧
    Notification.announce rule.name rule.scope digest now zone = .ok n

end Rule

namespace Store
variable {store : Store} {id : String} {rule : Rule} {config : Option String}

/-- The store with another configuration of a rule. -/
def withConfig (store : Store) (id : String) (config : Option String) : Store :=
  store.changing id fun rule => rule.configured config

theorem loadScope_withConfig : (store.withConfig id config).loadScope (rule.configured config) =
    store.loadScope rule := by
  have hObstacle : (store.withConfig id config).obstacle? (.read .projects) .projects =
      store.obstacle? (.read .projects) .projects := rfl
  have hScope : (store.withConfig id config).scope (rule.configured config) = store.scope rule :=
    scope_congr rfl rfl rfl
  rw [loadScope, loadScope, read, read, hObstacle, hScope]

theorem loadTargets_withConfig :
    (store.withConfig id config).loadTargets (rule.configured config) =
      store.loadTargets rule := rfl

theorem loadPublisher_withConfig :
    (store.withConfig id config).loadPublisher (rule.configured config) =
      store.loadPublisher rule := rfl

/-- A request for the watermark is answered without regard to the configuration. -/
theorem advance_withConfig (requested : Stamp) :
    (store.withConfig id config).advance id requested =
      (store.advance id requested).map fun answer =>
        { answer with store := answer.store.withConfig id config } := by
  have hLoaded := loadRule_changing (Rule.keepsId_configured config) store id
  unfold Store.advance
  rw [withConfig, hLoaded]
  cases store.loadRule id with
  | error fault => rfl
  | ok rule =>
    cases hTime : Fault.ofSpan requested.toInstant with
    | error fault => rfl
    | ok t =>
      have hMoved : (store.changing id fun rule => rule.configured config).withWatermark id t =
          (store.withWatermark id t).withConfig id config :=
        changing_comm (Rule.keepsId_configured config) (Rule.keepsId_watermark t) fun _ _ => rfl
      change (if t.micros ≤ rule.watermark.micros then (pure _ : Except Fault Advance)
          else pure _) =
        Except.map _ (if t.micros ≤ rule.watermark.micros then (pure _ : Except Fault Advance)
          else pure _)
      by_cases hBehind : t.micros ≤ rule.watermark.micros
      · rw [if_pos hBehind, if_pos hBehind]
        rfl
      · rw [if_neg hBehind, if_neg hBehind, hMoved]
        rfl

end Store

/-- Answers that are the same fault, or values that correspond. -/
inductive Answer.Alike (R : α → γ → Prop) : Except ε α → Except ε γ → Prop
  | ok (a : α) (c : γ) (hValues : R a c) : Alike R (.ok a) (.ok c)
  | error (e : ε) : Alike R (.error e) (.error e)

theorem Answer.Alike.eq {answer again : Except ε α} (h : Alike Eq answer again) :
    again = answer := by
  cases h with
  | ok a c hValues => rw [hValues]
  | error => rfl

theorem Answer.Alike.refl (answer : Except ε α) : Alike Eq answer answer := by
  cases answer with
  | ok a => exact .ok a a rfl
  | error e => exact .error e

/-- Two worlds that differ in the configuration of a rule and in what was journaled and delivered.
Publishers are looked up alike in both. -/
structure World.Twins (rule : Rule) (config : Option String) (row : Option PublisherRow)
    (world other : World β) : Prop where
  store : other.store = world.store.withConfig rule.id config
  clock : other.clock = world.clock
  outside : other.desk.outside = world.desk.outside
  row : world.store.publisherOf? rule = row

namespace Run
variable {P : Pairing} {rule : Rule} {config : Option String} {row : Option PublisherRow}

/-- The runs end alike, do what corresponds and leave twins. -/
structure PairedAt (P : Pairing) (rule : Rule) (config : Option String) (row : Option PublisherRow)
    (R : α → γ → Prop) (run : Run β α) (again : Run β γ) (world other : World β) : Prop where
  answer : Answer.Alike R (run.start world).1 (again.start other).1
  twins : World.Twins rule config row (run.start world).2 (again.start other).2
  grow : Desk.Grow P world.desk other.desk (run.start world).2.desk (again.start other).2.desk

def Paired (P : Pairing) (rule : Rule) (config : Option String) (row : Option PublisherRow)
    (R : α → γ → Prop) (run : Run β α) (again : Run β γ) : Prop :=
  ∀ world other : World β, World.Twins rule config row world other →
    PairedAt P rule config row R run again world other

section
variable {R : α → γ → Prop} {run : Run β α} {again : Run β γ} {world other after last : World β}

theorem PairedAt.of_start {answer : Except Fault α} {reply : Except Fault γ}
    (hRun : run.start world = (answer, after)) (hAgain : again.start other = (reply, last))
    (hAnswer : Answer.Alike R answer reply) (hTwins : World.Twins rule config row after last)
    (hGrow : Desk.Grow P world.desk other.desk after.desk last.desk) :
    PairedAt P rule config row R run again world other := by
  refine ⟨?_, ?_, ?_⟩
  · rwa [hRun, hAgain]
  · rwa [hRun, hAgain]
  · rwa [hRun, hAgain]

theorem PairedAt.congr {same : Run β α} {equal : Run β γ}
    (h : PairedAt P rule config row R same equal world other)
    (hRun : run.start world = same.start world) (hAgain : again.start other = equal.start other) :
    PairedAt P rule config row R run again world other :=
  .of_start hRun hAgain h.answer h.twins h.grow

end

theorem paired_pure {R : α → γ → Prop} {a : α} {c : γ} (h : R a c) :
    Paired P rule config row R (pure a : Run β α) (pure c) :=
  fun _ _ hTwins => ⟨.ok a c h, hTwins, .refl hTwins.outside⟩

theorem paired_throw {R : α → γ → Prop} (fault : Fault) :
    Paired P rule config row R (throw fault : Run β α) (throw fault) :=
  fun _ _ hTwins => ⟨.error fault, hTwins, .refl hTwins.outside⟩

theorem paired_ofExcept {R : α → α → Prop} {answer : Except Fault α}
    (h : ∀ a, answer = .ok a → R a a) :
    Paired P rule config row R (ofExcept answer : Run β α) (ofExcept answer) := by
  cases answer with
  | error fault => exact paired_throw fault
  | ok a => exact paired_pure (h a rfl)

theorem paired_logAll {journal : Journal} (h : ∀ entry ∈ journal, P.writes entry) :
    Paired P rule config row Eq (logAll journal : Run β Unit) (logAll journal) :=
  fun _ _ hTwins => ⟨.ok () () rfl, ⟨hTwins.store, hTwins.clock, hTwins.outside, hTwins.row⟩,
    .of_lines hTwins.outside (.same h)⟩

theorem paired_log {entry : Entry} (h : P.writes entry) :
    Paired P rule config row Eq (log entry : Run β Unit) (log entry) :=
  paired_logAll (by simpa using h)

theorem paired_now : Paired P rule config row Eq (now : Run β Stamp) now := by
  rintro world ⟨store, clock, desk⟩ hTwins
  obtain rfl : clock = world.clock := hTwins.clock
  exact ⟨.ok _ _ rfl, ⟨hTwins.store, rfl, hTwins.outside, hTwins.row⟩, .refl hTwins.outside⟩

theorem paired_query {R : α → γ → Prop} {question : Store → Except Fault α}
    {again : Store → Except Fault γ}
    (h : ∀ store, store.publisherOf? rule = row →
      Answer.Alike R (question store) (again (store.withConfig rule.id config))) :
    Paired P rule config row R (query question : Run β α) (query again) := by
  intro world other hTwins
  refine .of_start (start_query ..) (start_query ..) ?_ hTwins (.refl hTwins.outside)
  rw [hTwins.store]
  exact h world.store hTwins.row

theorem paired_query_of_eq {question again : Store → Except Fault α}
    (h : ∀ store, again (store.withConfig rule.id config) = question store) :
    Paired P rule config row Eq (query question : Run β α) (query again) :=
  paired_query fun store _ => h store ▸ .refl _

theorem paired_attempt {task again : Task β α} (h : Task.Paired P task again) :
    Paired P rule config row Eq (attempt task) (attempt again) := by
  intro world other hTwins
  obtain ⟨hAnswer, hGrow⟩ := h world.desk other.desk hTwins.outside
  exact ⟨.ok _ _ hAnswer.symm, ⟨hTwins.store, hTwins.clock, hGrow.outside, hTwins.row⟩, hGrow⟩

theorem paired_ite {R : α → γ → Prop} {c : Prop} [Decidable c] {run other : Run β α}
    {again last : Run β γ} (h : Paired P rule config row R run again)
    (hOther : Paired P rule config row R other last) :
    Paired P rule config row R (if c then run else other) (if c then again else last) := by
  split
  · exact h
  · exact hOther

theorem PairedAt.bind {R : α → γ → Prop} {S : δ → ε → Prop} {run : Run β α} {again : Run β γ}
    {next : α → Run β δ} {more : γ → Run β ε} {world other : World β}
    (h : PairedAt P rule config row R run again world other)
    (hNext : ∀ a c, R a c → Paired P rule config row S (next a) (more c)) :
    PairedAt P rule config row S (run >>= next) (again >>= more) world other := by
  obtain ⟨hAnswer, hMid, hGrow⟩ := h
  rcases hFirst : run.start world with ⟨answer, mid⟩
  rcases hSecond : again.start other with ⟨reply, last⟩
  rw [hFirst, hSecond] at hAnswer hMid hGrow
  cases hAnswer with
  | error fault =>
    have hRun : (run >>= next).start world = (.error fault, mid) := by rw [start_bind, hFirst]
    have hAgain : (again >>= more).start other = (.error fault, last) := by rw [start_bind, hSecond]
    exact .of_start hRun hAgain (.error fault) hMid hGrow
  | ok a c hValues =>
    have hRun : (run >>= next).start world = (next a).start mid := by rw [start_bind, hFirst]
    have hAgain : (again >>= more).start other = (more c).start last := by rw [start_bind, hSecond]
    have hRest := hNext a c hValues mid last hMid
    exact .of_start hRun hAgain hRest.answer hRest.twins (hGrow.trans hRest.grow)

theorem Paired.bind {R : α → γ → Prop} {S : δ → ε → Prop} {run : Run β α} {again : Run β γ}
    {next : α → Run β δ} {more : γ → Run β ε} (h : Paired P rule config row R run again)
    (hNext : ∀ a c, R a c → Paired P rule config row S (next a) (more c)) :
    Paired P rule config row S (run >>= next) (again >>= more) :=
  fun world other hTwins => (h world other hTwins).bind hNext

end Run

/-- What the executor does with a rule and its publisher corresponds under two configurations, and
no event is read from the table of rules. -/
structure Executor.Pairs (P : Pairing) (executor : Executor β) (rule : Rule)
    (config : Option String) (row : Option PublisherRow) (a b : Config) : Prop where
  own : Config.parse rule.config = .ok a
  other : Config.parse config = .ok b
  delivers : ∀ n, rule.Announces executor.zone n → ∀ p, row = some p →
    executor.registry.Pairs P executor.settings (some p.descriptor) n (a.merged p.descriptor)
      (b.merged p.descriptor)
  source : ∀ store rules, executor.source { store with rules } = executor.source store

namespace Executor
variable {P : Pairing} {executor : Executor β} {rule : Rule} {config : Option String}
  {row : Option PublisherRow} {a b : Config}

theorem ne_publishers : logger ≠ Publisher.logger := by decide

/-- A line is written, and that is all. -/
theorem paired_logged {entry : Entry} (hWrites : P.writes entry) (a : α) :
    Run.Paired P rule config row Eq (do Run.log entry; return a : Run β α)
      (do Run.log entry; return a) :=
  (Run.paired_log hWrites).bind fun _ _ _ => Run.paired_pure rfl

theorem paired_failGroup (group : String) (ctx : Context) (fault : Fault) :
    Run.Paired P rule config row Eq (failGroup group ctx fault : Run β GroupResult)
      (failGroup group ctx fault) := by
  unfold failGroup
  split
  · exact Run.paired_throw fault
  · exact paired_logged (P.free _ ne_publishers) _

theorem paired_publish (h : executor.Pairs P rule config row a b) {n : Notification}
    (hAnnounced : rule.Announces executor.zone n) (targets : List Target) :
    Run.Paired P rule config row Eq (executor.publish rule n targets)
      (executor.publish (rule.configured config) n targets) := by
  unfold publish
  dsimp only [Rule.configured]
  rw [h.own, h.other]
  have hLoaded : ∀ store : Store, store.publisherOf? rule = row → Answer.Alike
      (fun p q => q = p ∧ p = row) (store.loadPublisher rule)
        ((store.withConfig rule.id config).loadPublisher (rule.configured config)) := by
    intro store hRow
    rw [Store.loadPublisher_withConfig]
    cases hAnswer : store.loadPublisher rule with
    | error fault => exact .error fault
    | ok p => exact .ok p p ⟨rfl, (Store.loadPublisher_eq_ok hAnswer).symm.trans hRow⟩
  refine (Run.paired_query hLoaded).bind ?_
  rintro p q ⟨rfl, rfl⟩
  have hTask : ∀ ctx, Task.Paired P
      (executor.deliver ctx n (q.map (·.descriptor)) a targets)
      (executor.deliver ctx n (q.map (·.descriptor)) b targets) := by
    intro ctx
    refine paired_deliver (fun d hDescriptor => ?_) ctx targets
    obtain ⟨p, hRow, rfl⟩ := Option.map_eq_some_iff.mp hDescriptor
    rw [hDescriptor]
    exact h.delivers n hAnnounced p hRow
  refine (Run.paired_attempt (hTask _)).bind ?_
  rintro answer _ rfl
  split
  · exact paired_failGroup _ _ _
  · refine Run.paired_ite ?_ (Run.paired_pure rfl)
    exact paired_logged (P.free _ ne_publishers) _

theorem paired_announce (executor : Executor β) {digest : Digest}
    (hStart : digest.windowStart = rule.watermark) :
    Run.Paired P rule config row (fun n m => m = n ∧ rule.Announces executor.zone n)
      (executor.announce rule digest) (executor.announce (rule.configured config) digest) := by
  refine Run.paired_now.bind ?_
  rintro now _ rfl
  exact Run.paired_ofExcept fun n hAnnounced => ⟨rfl, digest, now, hStart, hAnnounced⟩

theorem writes_windowEntries (P : Pairing) {ε : Type} (source : EventSource ε) (group : Group)
    (includeSuppressed : Bool) (since : Instant) (projects : List ProjectRef) :
    ∀ entry ∈ windowEntries source group includeSuppressed since projects, P.writes entry := by
  have hOther : "event_store" ≠ Publisher.logger := by decide
  induction projects with
  | nil => simp [windowEntries]
  | cons project rest ih =>
    unfold windowEntries
    cases source.since project group includeSuppressed since with
    | error e => simp
    | ok events => exact List.forall_mem_cons.mpr ⟨P.free _ hOther, ih⟩

theorem paired_collect (h : executor.Pairs P rule config row a b) (projects : List ProjectRef)
    (windowStart : Instant) (group : Group) (includeSuppressed : Bool) :
    Run.Paired P rule config row
      (fun digest again => again = digest ∧ digest.windowStart = windowStart)
      (executor.collect projects windowStart group includeSuppressed)
      (executor.collect projects windowStart group includeSuppressed) := by
  intro world other hTwins
  have hSource : executor.source other.store = executor.source world.store := by
    rw [hTwins.store]
    exact h.source world.store _
  have hOther := executor.start_collect projects windowStart group includeSuppressed other
  rw [hSource] at hOther
  refine .congr ?_ (executor.start_collect ..) hOther
  refine (Run.paired_logAll (writes_windowEntries P _ _ _ _ _)).bind ?_ world other hTwins
  intro _ _ _
  exact Run.paired_ofExcept fun digest hDigest => ⟨rfl, (Digest.collect_eq_ok hDigest).2.1⟩

theorem paired_processGroup (h : executor.Pairs P rule config row a b) (projects : List ProjectRef)
    (targets : List Target) (name : String) :
    Run.Paired P rule config row Eq
      (executor.processGroup rule rule.watermark projects targets name)
      (executor.processGroup (rule.configured config) rule.watermark projects targets name) := by
  unfold processGroup
  dsimp only [Rule.configured]
  split
  · exact paired_logged (P.free _ ne_publishers) _
  · refine (paired_collect h projects rule.watermark _ _).bind ?_
    rintro digest _ ⟨rfl, hStart⟩
    refine Run.paired_ite ?_ ?_
    · exact paired_logged (P.free _ ne_publishers) _
    · refine (paired_announce executor hStart).bind ?_
      rintro n _ ⟨rfl, hAnnounced⟩
      refine (paired_publish h hAnnounced targets).bind ?_
      rintro result _ rfl
      exact Run.paired_pure rfl

theorem paired_processGroups (h : executor.Pairs P rule config row a b) (projects : List ProjectRef)
    (targets : List Target) (names : List String) :
    Run.Paired P rule config row Eq
      (executor.processGroups rule rule.watermark projects targets names)
      (executor.processGroups (rule.configured config) rule.watermark projects targets names) := by
  induction names with
  | nil => exact Run.paired_pure rfl
  | cons name rest ih =>
    refine (paired_processGroup h projects targets name).bind ?_
    rintro report _ rfl
    refine ih.bind ?_
    rintro reports _ rfl
    exact Run.paired_pure rfl

/-- What a request for the watermark leaves alone, and what it writes. -/
theorem advance_frame (P : Pairing) (rule : Rule) {store : Store} {id : String}
    {requested : Stamp} {answer : Store.Advance} (h : store.advance id requested = .ok answer) :
    answer.store.publisherOf? rule = store.publisherOf? rule ∧
      ∀ entry ∈ answer.journal, P.writes entry := by
  have hOther : "rule_store" ≠ Publisher.logger := by decide
  obtain ⟨loaded, _, h⟩ := Answer.bind_eq_ok_iff.mp h
  obtain ⟨t, _, h⟩ := Answer.bind_eq_ok_iff.mp h
  split at h
  · rw [← Answer.pure_eq_ok_iff.mp h]
    exact ⟨rfl, List.forall_mem_singleton.mpr (P.free _ hOther)⟩
  · rw [← Answer.pure_eq_ok_iff.mp h]
    exact ⟨rfl, List.forall_mem_nil _⟩

theorem paired_advance : Run.Paired P rule config row Eq (advance rule : Run β (Option Instant))
    (advance (rule.configured config)) := by
  unfold advance
  refine Run.paired_now.bind ?_
  rintro now _ rfl
  have hAnswers : ∀ store : Store, store.publisherOf? rule = row → Answer.Alike
      (fun (x y : Store.Advance) => y = { x with store := x.store.withConfig rule.id config } ∧
        x.store.publisherOf? rule = row ∧ ∀ entry ∈ x.journal, P.writes entry)
      (store.advance rule.id now) ((store.withConfig rule.id config).advance rule.id now) := by
    intro store hRow
    rw [Store.advance_withConfig]
    cases hAnswer : store.advance rule.id now with
    | error fault => exact .error fault
    | ok x =>
      obtain ⟨hKept, hWrites⟩ := advance_frame P rule hAnswer
      exact .ok x _ ⟨rfl, hKept.trans hRow, hWrites⟩
  refine (Run.paired_query hAnswers).bind ?_
  rintro x _ ⟨rfl, hRow, hWrites⟩
  have hStored : Run.Paired P rule config row Eq
      (modify fun world => { world with store := x.store } : Run β Unit)
      (modify fun world => { world with store := x.store.withConfig rule.id config }) :=
    fun _ _ hTwins => ⟨.ok () () rfl, ⟨rfl, hTwins.clock, hTwins.outside, hRow⟩,
      .refl hTwins.outside⟩
  refine hStored.bind fun _ _ _ => ?_
  exact (Run.paired_logAll hWrites).bind fun _ _ _ => Run.paired_pure rfl

theorem paired_conclude (results : List GroupResult) :
    Run.Paired P rule config row Eq (conclude rule results : Run β Outcome)
      (conclude (rule.configured config) results) := by
  unfold conclude
  dsimp only [Rule.configured]
  refine Run.paired_ite ?_ ?_
  · refine paired_advance.bind ?_
    rintro moved _ rfl
    exact paired_logged (P.free _ ne_publishers) _
  · exact paired_logged (P.free _ ne_publishers) _

/-- From worlds that hold the rule under either configuration, runs of it correspond. -/
theorem paired_perform (h : executor.Pairs P rule config row a b) {world other : World β}
    (hTwins : World.Twins rule config row world other)
    (hRule : world.store.rule? rule.id = some rule) :
    Run.PairedAt P rule config row Eq (executor.perform rule.id) (executor.perform rule.id) world
      other := by
  have hOther : other.store.loadRule rule.id =
      (world.store.loadRule rule.id).map fun rule => rule.configured config := by
    rw [hTwins.store]
    exact Store.loadRule_changing (Rule.keepsId_configured config) world.store rule.id
  have hLoads : Run.PairedAt P rule config row (fun loaded again => loaded = rule ∧
      again = rule.configured config) (Run.query (·.loadRule rule.id))
        (Run.query (·.loadRule rule.id)) world other := by
    refine .of_start (Run.start_query ..) (Run.start_query ..) ?_ hTwins (.refl hTwins.outside)
    rw [hOther]
    cases hLoaded : world.store.loadRule rule.id with
    | error fault => exact .error fault
    | ok loaded =>
      obtain rfl : loaded = rule :=
        Option.some.inj ((Store.loadRule_eq_ok hLoaded).symm.trans hRule)
      exact .ok _ _ ⟨rfl, rfl⟩
  refine hLoads.bind ?_
  rintro _ _ ⟨rfl, rfl⟩
  dsimp only [Rule.configured]
  refine Run.paired_ite ?_ ?_
  · exact paired_logged (P.free _ ne_publishers) _
  · refine (Run.paired_log (P.free _ ne_publishers)).bind fun _ _ _ => ?_
    refine (Run.paired_query_of_eq fun _ => Store.loadScope_withConfig).bind ?_
    rintro projects _ rfl
    refine (Run.paired_query_of_eq fun _ => Store.loadTargets_withConfig).bind ?_
    rintro targets _ rfl
    refine (Run.paired_ofExcept fun _ _ => rfl).bind ?_
    rintro names _ rfl
    refine (paired_processGroups h projects targets names).bind ?_
    rintro reports _ rfl
    refine (paired_conclude _).bind ?_
    rintro outcome _ rfl
    exact Run.paired_pure rfl

theorem paired_execute (h : executor.Pairs P rule config row a b) {world other : World β}
    (hTwins : World.Twins rule config row world other)
    (hRule : world.store.rule? rule.id = some rule) :
    Run.PairedAt P rule config row Eq (executor.execute rule.id) (executor.execute rule.id) world
      other := by
  refine (paired_perform h hTwins hRule).bind ?_
  rintro done _ rfl
  exact Run.paired_pure rfl

/-- The publishers read configurations as named values, and no event is read from the table of
rules. -/
structure Fair (executor : Executor β) : Prop where
  registry : executor.registry.Fair executor.settings
  source : ∀ store rules, executor.source { store with rules } = executor.source store

theorem fair_standard (transport : Transport β) (settings : Settings) (zone : Zone) :
    Fair ⟨.standard transport, settings, zone, Store.eventSource⟩ where
  registry := Registry.fair_standard transport settings
  source _ _ := rfl

/-- Two runs that end alike, in worlds that differ in nothing but the configuration of a rule and
the notices about it; deliveries agree. -/
structure Matches (id : String) (config : Option String)
    (run again : Except Fault Outcome × World β) : Prop where
  answer : again.1 = run.1
  store : again.2.store = run.2.store.withConfig id config
  clock : again.2.clock = run.2.clock
  outside : again.2.desk.outside = run.2.desk.outside
  deliveries : List.Forall₂ Delivery.Agrees run.2.desk.deliveries again.2.desk.deliveries
  journal : again.2.desk.journal.filter (!·.isNotice) = run.2.desk.journal.filter (!·.isNotice)

/-- What was delivered and printed between two worlds is rendered from the descriptor. -/
structure Renders (d : Descriptor) (about : Notification → Prop) (before after : Desk β) :
    Prop where
  deliveries : ∃ made, after.deliveries = before.deliveries ++ made ∧
    ∀ delivery ∈ made, ∃ n, about n ∧ delivery.RenderedFrom d n
  journal : ∃ lines, after.journal = before.journal ++ lines ∧
    ∀ line ∈ lines, line.RenderedFrom d about

theorem Fair.pairs (h : executor.Fair) (hOwn : Config.parse rule.config = .ok a)
    (hOther : Config.parse config = .ok b) (hAgree : a.AgreesBesides b) :
    executor.Pairs .loose rule config row a b where
  own := hOwn
  other := hOther
  delivers n _ p _ := h.registry.pairs (some p.descriptor) n (hAgree.merged p.descriptor)
  source := h.source

theorem Fair.pairs_rendered (h : executor.Fair) {transport : Transport β}
    (hRegistry : executor.registry = .standard transport) {p : PublisherRow}
    (hOwn : Config.parse rule.config = .ok a) (hOther : Config.parse config = .ok b)
    (hAgree : a.AgreesBesides b) :
    executor.Pairs (.rendered p.descriptor (rule.Announces executor.zone)) rule config (some p) a
      b where
  own := hOwn
  other := hOther
  delivers n hAnnounced q hRow := by
    obtain rfl := Option.some.inj hRow
    rw [hRegistry]
    exact Registry.pairs_standard (hAgree.merged _) (Publisher.admits_rendered hAnnounced a) _ _
  source := h.source

end Executor

/-! A rule for a publisher with a template, and a document that says otherwise under the reserved
keys. -/
namespace Sample

def usurpingDocument : String :=
  "\x7b\"template\": \"all clear\", \"destination\": \"https://acme.org/hook\", " ++
    "\"mimeType\": \"text/html\"\x7d"

theorem parse_hookDocument : Config.parse (some hookDocument) =
    .ok [("destination", .text "https://acme.org/hook")] :=
  Config.parse_texts [("destination", "https://acme.org/hook")] (by decide +kernel)

theorem parse_usurpingDocument : Config.parse (some usurpingDocument) =
    .ok [("template", .text "all clear"), ("destination", .text "https://acme.org/hook"),
      ("mimeType", .text "text/html")] :=
  Config.parse_texts [("template", "all clear"), ("destination", "https://acme.org/hook"),
    ("mimeType", "text/html")] (by decide +kernel)

theorem agreesBesides_usurping : Config.AgreesBesides
    [("destination", .text "https://acme.org/hook")]
    [("template", .text "all clear"), ("destination", .text "https://acme.org/hook"),
      ("mimeType", .text "text/html")] := by
  intro key hKey
  have hOther : key ≠ "template" ∧ key ≠ "mimeType" := by
    simpa [Config.reserved, Key.template, Key.mimeType] using hKey
  have hTemplate : (key == "template") = false := by simpa using hOther.1
  have hMimeType : (key == "mimeType") = false := by simpa using hOther.2
  refine .of_eq ?_
  simp only [Fields.get?, List.lookup_cons, hTemplate, hMimeType, List.lookup_nil]

def bodyOf : Delivery → String
  | .http request => request.body
  | _ => ""

def templateRow : PublisherRow := { publisherRow "webhook" with template := some "$title" }

def templateRule : Rule := documentedRule ["NEW_VULNERABILITY"] hookDocument

def templateWorld : World Nat :=
  { deliveringWorld "webhook" templateRule with
    store := { store templateRule [] with publishers := [templateRow] } }

end Sample

namespace Executor
variable {P : Pairing} {executor : Executor β} {rule : Rule} {config : Option String}
  {row : Option PublisherRow} {a b : Config}

/-- What a rule says under the reserved keys makes no difference to a run of it: two configurations
that agree besides these end alike, deliver alike and leave the same store. With the standard
publishers the deliveries are the same, and every body is rendered from the descriptor. -/
theorem execute_reconfigured :
    (∀ (transport : Transport β) (settings : Settings) (zone : Zone),
      Fair ⟨.standard transport, settings, zone, Store.eventSource⟩) ∧
    ∀ {executor : Executor β}, executor.Fair →
      ∀ {world : World β} {rule : Rule} {config : Option String} {a b : Config},
        world.store.rule? rule.id = some rule → Config.parse rule.config = .ok a →
        Config.parse config = .ok b → a.AgreesBesides b →
        let first := (executor.execute rule.id).start world
        let second := (executor.execute rule.id).start
          { world with store := world.store.withConfig rule.id config }
        Matches rule.id config first second ∧
          ∀ transport, executor.registry = .standard transport →
            ∀ p, world.store.publisherOf? rule = some p →
              second.2.desk.deliveries = first.2.desk.deliveries ∧
                Renders p.descriptor (rule.Announces executor.zone) world.desk first.2.desk := by
  refine ⟨fair_standard, ?_⟩
  intro executor hFair world rule config a b hRule hOwn hOther hAgree
  have hTwins : World.Twins rule config (world.store.publisherOf? rule) world
      { world with store := world.store.withConfig rule.id config } := ⟨rfl, rfl, rfl, rfl⟩
  dsimp only
  constructor
  · have hRuns := paired_execute (hFair.pairs hOwn hOther hAgree) hTwins hRule
    obtain ⟨made, again, hMade, hAgain, hAll⟩ := hRuns.grow.deliveries
    obtain ⟨lines, others, hLines, hOthers, hSame, _⟩ := hRuns.grow.journal
    refine ⟨hRuns.answer.eq, hRuns.twins.store, hRuns.twins.clock, hRuns.twins.outside, ?_, ?_⟩
    · rw [hMade, hAgain]
      exact List.rel_append (List.forall₂_same.mpr fun delivery _ => .same delivery) hAll
    · rw [hLines, hOthers, List.filter_append, List.filter_append, hSame]
  · intro transport hRegistry p hRow
    rw [hRow] at hTwins
    have hRuns := paired_execute (hFair.pairs_rendered hRegistry hOwn hOther hAgree) hTwins hRule
    obtain ⟨made, again, hMade, hAgain, hAll⟩ := hRuns.grow.deliveries
    obtain ⟨lines, others, hLines, _, _, hWritten⟩ := hRuns.grow.journal
    obtain ⟨hEqual, hRendered⟩ := Pairing.eq_of_rendered hAll
    refine ⟨?_, ⟨made, hMade, hRendered⟩, ⟨lines, hLines, hWritten⟩⟩
    rw [hMade, hAgain, hEqual]

theorem execute_reconfigured_usurping :
    ∃ outcome after last,
      ((Sample.deliveringExecutor Sample.accepting).execute "r1").Returns Sample.templateWorld
        outcome after ∧
      after.desk.deliveries.map Sample.bodyOf =
        ["0 new Vulnerability(s) in 0 component(s) in Scheduled Rule 'Nightly digest'"] ∧
      ((Sample.deliveringExecutor Sample.accepting).execute "r1").Returns
        { Sample.templateWorld with
          store := Sample.templateWorld.store.withConfig "r1" (some Sample.usurpingDocument) }
        outcome last ∧
      last.desk.deliveries = after.desk.deliveries := by
  obtain ⟨outcome, after, h, hBodies⟩ := Run.returnsWith_iff.mp
    (show ((Sample.deliveringExecutor Sample.accepting).execute "r1").returnsWith
      Sample.templateWorld (fun _ after => after.desk.deliveries.map Sample.bodyOf =
        ["0 new Vulnerability(s) in 0 component(s) in Scheduled Rule 'Nightly digest'"]) = true
      by decide +kernel)
  have hFair : (Sample.deliveringExecutor Sample.accepting).Fair := fair_standard _ _ _
  have hRule : Sample.templateWorld.store.rule? Sample.templateRule.id =
      some Sample.templateRule := rfl
  obtain ⟨hMatches, hStandard⟩ := execute_reconfigured.2 hFair hRule Sample.parse_hookDocument
    Sample.parse_usurpingDocument Sample.agreesBesides_usurping
  have hSame := (hStandard Sample.accepting rfl Sample.templateRow rfl).1
  have hAnswer := hMatches.answer
  have hFirst : ((Sample.deliveringExecutor Sample.accepting).execute
      Sample.templateRule.id).start Sample.templateWorld = (.ok outcome, after) := h
  rw [hFirst] at hAnswer hSame
  exact ⟨outcome, after, _, h, of_decide_eq_true hBodies, Run.returns_of_answer hAnswer, hSame⟩

end Executor

end EventDigest

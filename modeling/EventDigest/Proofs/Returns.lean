import EventDigest.Run

/-! # Runs that return

A run started in a world either returns a value or ends with a fault, and leaves a world in both
cases. Each way of building a run has one law that reads its return off the returns of its parts,
and one that does the same for its fault; the theory of runs uses these laws and never the monad
below them.

A quiet run leaves the store as it was and takes readings from the one clock it was given; only the
end of a run is not quiet. An inward run delivers nothing; only publishing is not inward.
-/
set_option autoImplicit false
namespace EventDigest
open Time
variable {β α γ : Type}

namespace Run

def start (run : Run β α) (world : World β) : Except Fault α × World β := run.run.run world

def Returns (run : Run β α) (world : World β) (a : α) (after : World β) : Prop :=
  run.start world = (.ok a, after)

def returnsWith (run : Run β α) (world : World β) (test : α → World β → Bool) : Bool :=
  match run.start world with
  | (.ok a, after) => test a after
  | (.error _, _) => false

theorem returnsWith_iff {run : Run β α} {world : World β} {test : α → World β → Bool} :
    returnsWith run world test = true ↔
      ∃ a after, Returns run world a after ∧ test a after = true := by
  simp only [returnsWith, Returns]
  rcases run.start world with ⟨fault | a, after⟩
  · simp
  · simp [and_assoc]

theorem returns_of_answer {run : Run β α} {world : World β} {a : α}
    (h : (run.start world).1 = .ok a) : Returns run world a (run.start world).2 := Prod.ext h rfl

theorem start_log (entry : Entry) (world : World β) :
    (log entry).start world = (.ok (), { world with
      desk := { world.desk with journal := world.desk.journal ++ [entry] } }) := rfl

theorem start_bind (run : Run β α) (next : α → Run β γ) (world : World β) :
    (run >>= next).start world = match run.start world with
      | (.ok a, mid) => (next a).start mid
      | (.error fault, mid) => (.error fault, mid) := by
  unfold start ExceptT.run StateT.run
  simp only [bind, ExceptT.bind, ExceptT.mk, StateT.bind, ExceptT.bindCont]
  cases run world with
  | mk result mid => cases result <;> rfl

theorem returns_bind_iff {run : Run β α} {next : α → Run β γ} {world after : World β} {c : γ} :
    Returns (run >>= next) world c after ↔
      ∃ a mid, Returns run world a mid ∧ Returns (next a) mid c after := by
  simp only [Returns, start_bind]
  rcases run.start world with ⟨fault | a, mid⟩
  · simp
  · simp [and_assoc]

/-- Two runs in sequence relate the worlds before and after as each of them does. -/
theorem related_bind (R : World β → World β → Prop)
    (hTrans : ∀ {world mid after}, R world mid → R mid after → R world after)
    {run : Run β α} {next : α → Run β γ} (h : ∀ world, R world (run.start world).2)
    (hNext : ∀ a world, R world ((next a).start world).2) (world : World β) :
    R world ((run >>= next).start world).2 := by
  have hFirst := h world
  rw [start_bind]
  rcases hStart : run.start world with ⟨fault | a, mid⟩
  · rwa [hStart] at hFirst
  · rw [hStart] at hFirst
    exact hTrans hFirst (hNext a mid)

theorem returns_pure_iff {a b : α} {world after : World β} :
    Returns (pure a) world b after ↔ a = b ∧ world = after := by
  change ((Except.ok a : Except Fault α), world) = (.ok b, after) ↔ _
  rw [Prod.mk.injEq, Except.ok.injEq]

theorem Returns.bind {run : Run β α} {next : α → Run β γ} {world mid after : World β} {a : α}
    {c : γ} (h : run.Returns world a mid) (hNext : (next a).Returns mid c after) :
    (run >>= next).Returns world c after :=
  returns_bind_iff.mpr ⟨a, mid, h, hNext⟩

theorem returns_pure (a : α) (world : World β) : Returns (pure a) world a world :=
  returns_pure_iff.mpr ⟨rfl, rfl⟩

theorem returns_modify (change : World β → World β) (world : World β) :
    Returns (modify change) world () (change world) :=
  rfl

theorem returns_logAll (journal : Journal) (world : World β) :
    Returns (logAll journal) world ()
      { world with desk := { world.desk with journal := world.desk.journal ++ journal } } :=
  rfl

theorem returns_log (entry : Entry) (world : World β) :
    Returns (log entry) world ()
      { world with desk := { world.desk with journal := world.desk.journal ++ [entry] } } :=
  rfl

theorem not_returns_throw (fault : Fault) (b : α) (world after : World β) :
    ¬ Returns (throw fault) world b after := by
  intro h
  cases h

theorem returns_get_iff {current world after : World β} :
    Returns get world current after ↔ world = current ∧ world = after :=
  returns_pure_iff

theorem returns_modify_iff {change : World β → World β} {u : Unit} {world after : World β} :
    Returns (modify change) world u after ↔ change world = after := by
  change ((Except.ok () : Except Fault Unit), _) = (.ok u, after) ↔ _
  rw [Prod.mk.injEq]
  exact and_iff_right rfl

theorem returns_logAll_iff {journal : Journal} {u : Unit} {world after : World β} :
    Returns (logAll journal) world u after ↔
      { world with desk := { world.desk with journal := world.desk.journal ++ journal } } = after :=
  returns_modify_iff

theorem returns_now_iff {stamp : Stamp} {world after : World β} :
    Returns now world stamp after ↔
      world.clock.reading world.clock.taken = stamp ∧
        { world with clock := { world.clock with taken := world.clock.taken + 1 } } = after := by
  change ((Except.ok _ : Except Fault Stamp), _) = (.ok stamp, after) ↔ _
  rw [Prod.mk.injEq, Except.ok.injEq]

theorem returns_ofExcept_iff {answer : Except Fault α} {a : α} {world after : World β} :
    Returns (ofExcept answer) world a after ↔ answer = .ok a ∧ world = after := by
  cases answer with
  | error fault =>
    constructor
    · intro h
      exact (not_returns_throw fault a world after h).elim
    · rintro ⟨h, _⟩
      cases h
  | ok b =>
    rw [Except.ok.injEq]
    exact returns_pure_iff

theorem start_query (question : Store → Except Fault α) (world : World β) :
    (query question).start world = (question world.store, world) := by
  change (ofExcept (question world.store)).start world = _
  cases question world.store with
  | error fault => rfl
  | ok a => rfl

theorem returns_query_iff {question : Store → Except Fault α} {a : α} {world after : World β} :
    Returns (query question) world a after ↔ question world.store = .ok a ∧ world = after :=
  returns_ofExcept_iff

def Fails (run : Run β α) (world : World β) (fault : Fault) : Prop :=
  (run.start world).1 = .error fault

def failsWith (run : Run β α) (world : World β) (test : Fault → Bool) : Bool :=
  match run.start world with
  | (.error fault, _) => test fault
  | (.ok _, _) => false

theorem failsWith_iff {run : Run β α} {world : World β} {test : Fault → Bool} :
    failsWith run world test = true ↔ ∃ fault, Fails run world fault ∧ test fault = true := by
  simp only [failsWith, Fails]
  rcases run.start world with ⟨fault | a, after⟩
  · simp
  · simp

theorem Returns.unique {run : Run β α} {world after last : World β} {a b : α}
    (h : Returns run world a after) (hOther : Returns run world b last) : a = b ∧ after = last := by
  obtain ⟨hValue, hWorld⟩ := Prod.mk.inj (h.symm.trans hOther)
  exact ⟨Except.ok.inj hValue, hWorld⟩

theorem Returns.not_fails {run : Run β α} {world after : World β} {a : α}
    (h : Returns run world a after) (fault : Fault) : ¬Fails run world fault := by
  intro hFails
  rw [Fails, h] at hFails
  cases hFails

theorem fails_bind_iff {run : Run β α} {next : α → Run β γ} {world : World β} {fault : Fault} :
    Fails (run >>= next) world fault ↔
      Fails run world fault ∨ ∃ a mid, Returns run world a mid ∧ Fails (next a) mid fault := by
  simp only [Fails, Returns, start_bind]
  rcases run.start world with ⟨other | a, mid⟩
  · simp
  · simp [and_assoc]

theorem returns_or_fails (run : Run β α) (world : World β) :
    (∃ a after, Returns run world a after) ∨ ∃ fault, Fails run world fault := by
  unfold Returns Fails
  rcases run.start world with ⟨fault | a, after⟩
  · exact .inr ⟨fault, rfl⟩
  · exact .inl ⟨a, after, rfl⟩

theorem fails_throw_iff {fault other : Fault} {world : World β} :
    Fails (throw fault : Run β α) world other ↔ fault = other :=
  Except.error.injEq .. ▸ Iff.rfl

/-- Whatever the world, the run returns. -/
def Sure (run : Run β α) : Prop := ∀ world fault, ¬Fails run world fault

theorem sure_pure (a : α) : (pure a : Run β α).Sure := by
  intro world fault h
  cases h

theorem sure_get : (get : Run β (World β)).Sure := by
  intro world fault h
  cases h

theorem sure_modify (change : World β → World β) : (modify change : Run β Unit).Sure := by
  intro world fault h
  cases h

theorem sure_now : (now : Run β Stamp).Sure := by
  intro world fault h
  cases h

theorem sure_attempt (task : Task β α) : (attempt task).Sure := by
  intro world fault h
  cases h

theorem Sure.bind {run : Run β α} {next : α → Run β γ} (h : run.Sure)
    (hNext : ∀ a, (next a).Sure) : (run >>= next).Sure := by
  intro world fault hFails
  rcases fails_bind_iff.mp hFails with hFails | ⟨a, mid, _, hFails⟩
  · exact h world fault hFails
  · exact hNext a mid fault hFails

theorem Sure.of_fails_bind {run : Run β α} {next : α → Run β γ} (h : run.Sure) {world : World β}
    {fault : Fault} (hFails : Fails (run >>= next) world fault) :
    ∃ a mid, Returns run world a mid ∧ Fails (next a) mid fault :=
  (fails_bind_iff.mp hFails).resolve_left (h world fault)

theorem fails_of_sure_next {run : Run β α} {next : α → Run β γ} (hNext : ∀ a, (next a).Sure)
    {world : World β} {fault : Fault} (hFails : Fails (run >>= next) world fault) :
    Fails run world fault := by
  rcases fails_bind_iff.mp hFails with hFails | ⟨a, mid, _, hFails⟩
  · exact hFails
  · exact (hNext a mid fault hFails).elim

theorem fails_ofExcept_iff {answer : Except Fault α} {world : World β} {fault : Fault} :
    Fails (ofExcept answer) world fault ↔ answer = .error fault := by
  cases answer with
  | error other => exact fails_throw_iff.trans (Except.error.injEq .. ▸ Iff.rfl)
  | ok a =>
    constructor
    · intro h
      exact (sure_pure a world fault h).elim
    · intro h
      cases h

theorem fails_query_iff {question : Store → Except Fault α} {world : World β} {fault : Fault} :
    Fails (query question) world fault ↔ question world.store = .error fault :=
  fails_ofExcept_iff

end Run

/-- Between two desks nothing was delivered and the world outside was not asked; the journal may
have been written. -/
structure Desk.Idle (before after : Desk β) : Prop where
  deliveries : after.deliveries = before.deliveries
  outside : after.outside = before.outside

theorem Desk.Idle.refl (desk : Desk β) : desk.Idle desk := ⟨rfl, rfl⟩

theorem Desk.Idle.trans {before mid after : Desk β} (h₁ : before.Idle mid)
    (h₂ : mid.Idle after) : before.Idle after :=
  ⟨h₂.deliveries.trans h₁.deliveries, h₂.outside.trans h₁.outside⟩

/-- Between two worlds nothing was written to the store and the clock was at most read. -/
structure World.Follows (before after : World β) : Prop where
  store_eq : after.store = before.store
  reading_eq : after.clock.reading = before.clock.reading
  taken_le : before.clock.taken ≤ after.clock.taken

theorem World.Follows.refl (world : World β) : world.Follows world := ⟨rfl, rfl, Nat.le_refl _⟩

theorem World.Follows.trans {before mid after : World β} (h₁ : before.Follows mid)
    (h₂ : mid.Follows after) : before.Follows after where
  store_eq := h₂.store_eq.trans h₁.store_eq
  reading_eq := h₂.reading_eq.trans h₁.reading_eq
  taken_le := Nat.le_trans h₁.taken_le h₂.taken_le

namespace Run

/-- Whether it returns or ends with a fault, the run writes nothing to the store. -/
def Quiet (run : Run β α) : Prop := ∀ world : World β, world.Follows (run.start world).2

theorem Quiet.follows {run : Run β α} (h : run.Quiet) {world after : World β} {a : α}
    (hRun : run.Returns world a after) : world.Follows after := by
  have hFollows := h world
  rw [hRun] at hFollows
  exact hFollows

theorem Quiet.bind {run : Run β α} {next : α → Run β γ} (h : run.Quiet)
    (hNext : ∀ a, (next a).Quiet) : (run >>= next).Quiet :=
  related_bind World.Follows .trans h hNext

theorem quiet_pure (a : α) : (pure a : Run β α).Quiet := fun world => .refl world

theorem quiet_throw (fault : Fault) : (throw fault : Run β α).Quiet := fun world => .refl world

theorem quiet_get : (get : Run β (World β)).Quiet := fun world => .refl world

theorem quiet_log (entry : Entry) : (log entry : Run β Unit).Quiet :=
  fun _ => ⟨rfl, rfl, Nat.le_refl _⟩

theorem quiet_logAll (journal : Journal) : (logAll journal : Run β Unit).Quiet :=
  fun _ => ⟨rfl, rfl, Nat.le_refl _⟩

theorem quiet_now : (now : Run β Stamp).Quiet := fun _ => ⟨rfl, rfl, Nat.le_succ _⟩

theorem quiet_ofExcept (answer : Except Fault α) : (ofExcept answer : Run β α).Quiet := by
  cases answer with
  | error fault => exact quiet_throw fault
  | ok a => exact quiet_pure a

theorem quiet_query (question : Store → Except Fault α) : (query question : Run β α).Quiet :=
  fun world => quiet_ofExcept (question world.store) world

theorem quiet_attempt (task : Task β α) : (attempt task).Quiet :=
  fun _ => ⟨rfl, rfl, Nat.le_refl _⟩

/-- Whether it returns or ends with a fault, the run delivers nothing and does not ask the world
outside. -/
def Inward (run : Run β α) : Prop := ∀ world : World β, world.desk.Idle (run.start world).2.desk

theorem Inward.idle {run : Run β α} (h : run.Inward) {world after : World β} {a : α}
    (hRun : run.Returns world a after) : world.desk.Idle after.desk := by
  have hIdle := h world
  rw [hRun] at hIdle
  exact hIdle

theorem Inward.bind {run : Run β α} {next : α → Run β γ} (h : run.Inward)
    (hNext : ∀ a, (next a).Inward) : (run >>= next).Inward :=
  related_bind (fun world after => world.desk.Idle after.desk) .trans h hNext

theorem inward_modify {change : World β → World β}
    (h : ∀ world : World β, world.desk.Idle (change world).desk) :
    (modify change : Run β Unit).Inward := h

theorem inward_pure (a : α) : (pure a : Run β α).Inward := fun world => .refl world.desk

theorem inward_throw (fault : Fault) : (throw fault : Run β α).Inward :=
  fun world => .refl world.desk

theorem inward_get : (get : Run β (World β)).Inward := fun world => .refl world.desk

theorem inward_log (entry : Entry) : (log entry : Run β Unit).Inward :=
  inward_modify fun _ => ⟨rfl, rfl⟩

theorem inward_logAll (journal : Journal) : (logAll journal : Run β Unit).Inward :=
  inward_modify fun _ => ⟨rfl, rfl⟩

theorem inward_now : (now : Run β Stamp).Inward := fun world => .refl world.desk

theorem inward_ofExcept (answer : Except Fault α) : (ofExcept answer : Run β α).Inward := by
  intro world
  cases answer with
  | error fault => exact .refl world.desk
  | ok a => exact .refl world.desk

theorem inward_query (question : Store → Except Fault α) : (query question : Run β α).Inward :=
  fun world => inward_ofExcept (question world.store) world

end Run

end EventDigest

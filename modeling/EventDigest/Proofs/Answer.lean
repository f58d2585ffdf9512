/-! # Answers

An answer is a value or a fault. What a chain of questions answers is read off the answers of its
questions.
-/
set_option autoImplicit false
namespace EventDigest.Answer
variable {α γ δ ε : Type}

theorem bind_eq_ok_iff {answer : Except ε α} {next : α → Except ε γ} {c : γ} :
    answer >>= next = .ok c ↔ ∃ a, answer = .ok a ∧ next a = .ok c := by
  cases answer with
  | error e => simp [bind, Except.bind]
  | ok a => simp [bind, Except.bind]

theorem bind_eq_error_iff {answer : Except ε α} {next : α → Except ε γ} {e : ε} :
    answer >>= next = .error e ↔ answer = .error e ∨ ∃ a, answer = .ok a ∧ next a = .error e := by
  cases answer with
  | error e => simp [bind, Except.bind]
  | ok a => simp [bind, Except.bind]

theorem mapError_eq_error_iff {answer : Except ε α} {f : ε → δ} {e : δ} :
    answer.mapError f = .error e ↔ ∃ fault, answer = .error fault ∧ f fault = e := by
  cases answer with
  | error fault =>
    change (Except.error (f fault) : Except δ α) = .error e ↔ _
    simp
  | ok a =>
    change (Except.ok a : Except δ α) = .error e ↔ _
    simp

theorem mapError_eq_ok_iff {answer : Except ε α} {f : ε → δ} {a : α} :
    answer.mapError f = .ok a ↔ answer = .ok a := by
  cases answer with
  | error fault =>
    change (Except.error (f fault) : Except δ α) = .ok a ↔ _
    simp
  | ok b =>
    change (Except.ok b : Except δ α) = .ok a ↔ _
    simp

theorem pure_eq_ok_iff {a b : α} : (pure a : Except ε α) = .ok b ↔ a = b := by
  change (Except.ok a : Except ε α) = .ok b ↔ _
  rw [Except.ok.injEq]

def passes (answer : Except ε α) (test : α → Bool) : Bool :=
  match answer with
  | .ok a => test a
  | .error _ => false

theorem passes_iff {answer : Except ε α} {test : α → Bool} :
    passes answer test = true ↔ ∃ a, answer = .ok a ∧ test a = true := by
  cases answer with
  | error e => simp [passes]
  | ok a => simp [passes]

/-- A list of questions is answered when each of them is, in order. -/
theorem mapM_eq_ok_iff (question : α → Except ε γ) (as : List α) (cs : List γ) :
    as.mapM question = .ok cs ↔ as.map question = cs.map .ok := by
  induction as generalizing cs with
  | nil =>
    rw [List.mapM_nil, pure_eq_ok_iff]
    cases cs <;> simp
  | cons a as ih =>
    rw [List.mapM_cons]
    simp only [bind_eq_ok_iff, pure_eq_ok_iff, ih]
    constructor
    · rintro ⟨c, hHead, rest, hRest, rfl⟩
      rw [List.map_cons, List.map_cons, hHead, hRest]
    · intro h
      cases cs with
      | nil => cases h
      | cons c rest =>
        rw [List.map_cons, List.map_cons, List.cons.injEq] at h
        exact ⟨c, h.1, rest, h.2, rfl⟩

theorem mem_of_mapM {question : α → Except ε γ} {as : List α} {cs : List γ}
    (h : as.mapM question = .ok cs) (c : γ) : c ∈ cs ↔ ∃ a ∈ as, question a = .ok c := by
  have hMap := (mapM_eq_ok_iff question as cs).mp h
  have hInj : (Except.ok c : Except ε γ) ∈ cs.map .ok ↔ c ∈ cs := by simp
  rw [← hInj, ← hMap, List.mem_map]

theorem exists_of_mapM {question : α → Except ε γ} {as : List α} {cs : List γ}
    (h : as.mapM question = .ok cs) {a : α} (ha : a ∈ as) : ∃ c, question a = .ok c := by
  have hMap := (mapM_eq_ok_iff question as cs).mp h
  have hMem : question a ∈ cs.map .ok := hMap ▸ List.mem_map_of_mem ha
  obtain ⟨c, _, hc⟩ := List.mem_map.mp hMem
  exact ⟨c, hc.symm⟩

theorem exists_mapM (question : α → Except ε γ) (as : List α)
    (h : ∀ a ∈ as, ∃ c, question a = .ok c) : ∃ cs, as.mapM question = .ok cs := by
  induction as with
  | nil => exact ⟨[], rfl⟩
  | cons a rest ih =>
    obtain ⟨c, hHead⟩ := h a (List.mem_cons_self ..)
    obtain ⟨cs, hRest⟩ := ih fun b hb => h b (List.mem_cons_of_mem _ hb)
    refine ⟨c :: cs, ?_⟩
    rw [List.mapM_cons]
    exact bind_eq_ok_iff.mpr ⟨c, hHead, bind_eq_ok_iff.mpr ⟨cs, hRest, rfl⟩⟩

theorem map_eq_of_mapM {question : α → Except ε γ} {as : List α} {cs : List γ}
    (key : γ → δ) (asked : α → δ) (h : as.mapM question = .ok cs)
    (hKey : ∀ a c, question a = .ok c → key c = asked a) : cs.map key = as.map asked := by
  rw [mapM_eq_ok_iff] at h
  induction as generalizing cs with
  | nil =>
    rw [List.map_nil, List.nil_eq, List.map_eq_nil_iff] at h
    rw [h]
    rfl
  | cons a rest ih =>
    cases cs with
    | nil => cases h
    | cons c others =>
      rw [List.map_cons, List.map_cons, List.cons.injEq] at h
      rw [List.map_cons, List.map_cons, hKey a c h.1, ih h.2]

end EventDigest.Answer

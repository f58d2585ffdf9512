/-! # Ordered fields

Named values in the order in which the names were first put: putting a name again replaces its value
and keeps its place.
-/
set_option autoImplicit false
namespace EventDigest

abbrev Fields (α : Type) := List (String × α)

namespace Fields
variable {α : Type}

def get? (fields : Fields α) (name : String) : Option α := List.lookup name fields

def put (name : String) (value : α) : Fields α → Fields α
  | [] => [(name, value)]
  | (key, old) :: rest =>
    if key = name then (name, value) :: rest else (key, old) :: put name value rest

def update (fields later : Fields α) : Fields α :=
  later.foldl (fun fields (name, value) => fields.put name value) fields

def names (fields : Fields α) : List String := fields.map (·.1)

theorem get?_put_self (fields : Fields α) (name : String) (value : α) :
    (fields.put name value).get? name = some value := by
  induction fields with
  | nil => simp [put, get?]
  | cons field rest ih =>
    obtain ⟨key, old⟩ := field
    by_cases h : key = name
    · simp [put, get?, h]
    · have hn : (name == key) = false := by simpa using fun h' => h h'.symm
      simpa [put, get?, h, List.lookup_cons, hn] using ih

theorem get?_put_of_ne (fields : Fields α) {name other : String} (value : α) (h : other ≠ name) :
    (fields.put name value).get? other = fields.get? other := by
  have hn : (other == name) = false := by simpa using h
  induction fields with
  | nil => simp [put, get?, List.lookup_cons, hn]
  | cons field rest ih =>
    obtain ⟨key, old⟩ := field
    by_cases hk : key = name
    · subst hk
      simp [put, get?, List.lookup_cons, hn]
    · simp only [put, hk, if_false, get?, List.lookup_cons]
      split
      · rfl
      · exact ih

theorem mem_names_put (fields : Fields α) (name other : String) (value : α) :
    other ∈ names (fields.put name value) ↔ other = name ∨ other ∈ names fields := by
  induction fields with
  | nil => simp [put, names]
  | cons field rest ih =>
    obtain ⟨key, old⟩ := field
    by_cases h : key = name
    · subst h
      simp [put, names]
    · simp only [put, h, if_false, names, List.map_cons, List.mem_cons] at ih ⊢
      rw [ih]
      exact or_left_comm

theorem nodup_names_put {fields : Fields α} (h : fields.names.Nodup) (name : String) (value : α) :
    (names (fields.put name value)).Nodup := by
  induction fields with
  | nil => simp [put, names]
  | cons field rest ih =>
    obtain ⟨key, old⟩ := field
    rw [names, List.map_cons, List.nodup_cons] at h
    by_cases hk : key = name
    · subst hk
      simpa [put, names] using h
    · rw [put, if_neg hk, names, List.map_cons, List.nodup_cons]
      refine ⟨?_, ih h.2⟩
      intro hMem
      rcases (mem_names_put rest name key value).mp hMem with hSame | hRest
      · exact hk hSame
      · exact h.1 hRest

theorem put_of_not_mem {fields : Fields α} {name : String} (h : name ∉ fields.names) (value : α) :
    fields.put name value = fields ++ [(name, value)] := by
  induction fields with
  | nil => rfl
  | cons field rest ih =>
    obtain ⟨key, old⟩ := field
    rw [names, List.map_cons, List.mem_cons, not_or] at h
    rw [put, if_neg (Ne.symm h.1), ih h.2, List.cons_append]

theorem update_of_nodup {fields later : Fields α} (h : (names (fields ++ later)).Nodup) :
    fields.update later = fields ++ later := by
  induction later generalizing fields with
  | nil => exact (List.append_nil fields).symm
  | cons field rest ih =>
    obtain ⟨name, value⟩ := field
    have hSplit : fields ++ (name, value) :: rest = (fields ++ [(name, value)]) ++ rest := by simp
    have hNew : name ∉ fields.names := by
      intro hMem
      rw [names, List.map_append, List.nodup_append] at h
      exact h.2.2 name hMem name (List.mem_cons_self ..) rfl
    calc fields.update ((name, value) :: rest)
      _ = (fields.put name value).update rest := rfl
      _ = (fields ++ [(name, value)]).update rest := by rw [put_of_not_mem hNew]
      _ = fields ++ (name, value) :: rest := by rw [hSplit]; exact ih (hSplit ▸ h)

theorem update_nil {fields : Fields α} (h : fields.names.Nodup) : update [] fields = fields :=
  update_of_nodup (by rwa [List.nil_append])

theorem get?_eq_some_iff {fields : Fields α} (h : fields.names.Nodup) (name : String) (value : α) :
    fields.get? name = some value ↔ (name, value) ∈ fields := by
  induction fields with
  | nil => simp [get?]
  | cons field rest ih =>
    obtain ⟨key, first⟩ := field
    rw [names, List.map_cons, List.nodup_cons] at h
    rw [get?, List.lookup_cons, List.mem_cons, Prod.mk.injEq]
    by_cases hk : name = key
    · subst hk
      have hAbsent : (name, value) ∉ rest := by
        intro hMem
        exact h.1 (List.mem_map.mpr ⟨_, hMem, rfl⟩)
      simp [hAbsent, eq_comm]
    · have hn : (name == key) = false := by simpa using hk
      rw [hn]
      simpa [hk, get?] using ih h.2

end EventDigest.Fields

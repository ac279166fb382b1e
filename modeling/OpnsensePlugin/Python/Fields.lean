import OpnsensePlugin.Python.Json

/-!
# Fields of a dictionary

Looking up a key after a dictionary was built, extended or filtered.
-/

namespace Python

variable {α : Type} {name key other : Str} {value : α} {rest fields : List (Str × α)}

theorem field_nil : field ([] : List (Str × α)) name = none := rfl

theorem field_cons :
    field ((key, value) :: rest) name = if name = key then some value else field rest name := by
  unfold field
  rw [List.lookup_cons]
  by_cases same : name = key
  · simp [same]
  · simp [same, beq_eq_false_iff_ne.mpr same]

theorem field_setField :
    field (setField key value fields) name = if name = key then some value else field fields name := by
  induction fields with
  | nil => rw [setField, field_cons]
  | cons entry rest ih =>
      rcases entry with ⟨head, old⟩
      rw [setField]
      split
      · rename_i same
        rw [field_cons, field_cons, same]
        split <;> rfl
      · rename_i different
        rw [field_cons, field_cons, ih]
        by_cases first : name = head
        · simp [first, different]
        · simp [first]

theorem field_setField_ne (different : other ≠ key) :
    field (setField key value fields) other = field fields other := by
  rw [field_setField, if_neg different]

theorem field_setField_self : field (setField key value fields) key = some value := by
  rw [field_setField, if_pos rfl]

theorem field_filter_ne (different : other ≠ key) :
    field (fields.filter fun entry => entry.1 ≠ key) other = field fields other := by
  induction fields with
  | nil => rfl
  | cons entry rest ih =>
      rcases entry with ⟨head, old⟩
      by_cases same : head = key
      · rw [List.filter_cons_of_neg (by simpa using same), ih, field_cons,
          if_neg fun found => different (found.trans same)]
      · rw [List.filter_cons_of_pos (by simpa using same), field_cons, field_cons, ih]

theorem field_filter_self : field (fields.filter fun entry => entry.1 ≠ key) key = none := by
  induction fields with
  | nil => rfl
  | cons entry rest ih =>
      rcases entry with ⟨head, value⟩
      by_cases same : head = key
      · rw [List.filter_cons_of_neg (by simpa using same), ih]
      · rw [List.filter_cons_of_pos (by simpa using same), field_cons, if_neg (Ne.symm same), ih]

theorem field_append {front : List (Str × α)} :
    field (front ++ rest) name = (field front name).or (field rest name) := by
  induction front with
  | nil => rfl
  | cons entry front ih =>
      rcases entry with ⟨key, value⟩
      rw [List.cons_append, field_cons, field_cons, ih]
      by_cases same : name = key
      · simp [same]
      · simp [same]

theorem field_map {β : Type} {change : Str → α → β} :
    field (fields.map fun entry => (entry.1, change entry.1 entry.2)) name =
      (field fields name).map (change name) := by
  induction fields with
  | nil => rfl
  | cons entry rest ih =>
      rcases entry with ⟨head, value⟩
      rw [List.map_cons, field_cons, field_cons, ih]
      by_cases same : name = head
      · subst same
        simp
      · simp [same]

/-- The last value of a key is the one that is kept. -/
theorem field_foldl_setField {entries : List (Str × α)} :
    field (entries.foldl (fun fields entry => setField entry.1 entry.2 fields) fields) name =
      (field entries.reverse name).or (field fields name) := by
  induction entries generalizing fields with
  | nil => rfl
  | cons entry rest ih =>
      rcases entry with ⟨key, value⟩
      rw [List.foldl_cons, ih, field_setField, List.reverse_cons, field_append, field_cons]
      by_cases same : name = key
      · simp [same]
      · simp [same, field_nil]

/-- Storing appends a new key. -/
theorem map_fst_setField : (setField key value fields).map Prod.fst =
    if key ∈ fields.map Prod.fst then fields.map Prod.fst else fields.map Prod.fst ++ [key] := by
  induction fields with
  | nil => rfl
  | cons entry rest ih =>
      rcases entry with ⟨head, old⟩
      by_cases same : head = key
      · simp [setField, same]
      · rw [setField, if_neg same, List.map_cons, ih]
        by_cases known : key ∈ rest.map Prod.fst
        · simp [known]
        · simp [known, Ne.symm same]

theorem nodup_setField (distinct : (fields.map Prod.fst).Nodup) :
    ((setField key value fields).map Prod.fst).Nodup := by
  rw [map_fst_setField]
  split
  · exact distinct
  · rename_i fresh
    exact List.Nodup.append distinct (List.nodup_singleton key) (by simpa using fresh)

/-- A dictionary that is computed from its keys -/
theorem field_map_names {names : List Str} {valueOf : Str → α} :
    field (names.map fun name => (name, valueOf name)) name =
      if name ∈ names then some (valueOf name) else none := by
  induction names with
  | nil => rfl
  | cons head rest ih =>
      rw [List.map_cons, field_cons, ih]
      by_cases same : name = head
      · simp [same]
      · simp [same]

end Python

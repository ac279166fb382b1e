import OpnsensePlugin.Management.Preserved

/-!
# Places of dotted names

A dotted name leads to a key of the object if it is one, else along its parts.
In an object, `_get`, `_put` and `_drop` are reading, storing and dropping at that
place; two places that are not on one path do not affect each other.
-/

namespace OpnsensePlugin

open Python

namespace Management

variable {data : List (Str × Json)} {name other key : Str} {path target : List Str}
  {value default : Json}

/-- Where the name leads in an object -/
def place (data : List (Str × Json)) (name : Str) : List Str :=
  if (field data name).isSome then [name] else parts name

theorem parts_ne_nil : parts name ≠ [] := splitOn_ne_nil

theorem place_ne_nil : place data name ≠ [] := by
  unfold place
  split
  · simp
  · exact parts_ne_nil

theorem parts_inj (same : parts name = parts other) : name = other := by
  have joined : join [code '.'] (parts name) = join [code '.'] (parts other) := by rw [same]
  rwa [parts, parts, join_splitOn, join_splitOn] at joined

/-- Different names lead to different places. -/
theorem place_inj (same : place data name = place data other) : name = other := by
  have single : ∀ {whole split : Str}, [whole] = parts split → split = whole := by
    intro whole split same
    have joined : join [code '.'] (parts split) = split := join_splitOn
    rw [← same] at joined
    exact joined.symm
  unfold place at same
  split at same
  · split at same
    · exact (List.cons.inj same).1
    · exact (single same).symm
  · split at same
    · exact single same.symm
    · exact parts_inj same

theorem get_place : get (.obj data) name default =
    .ok ((lookupPath (place data name) (.obj data)).getD default) := by
  simp only [get, occurs, place]
  cases found : field data name with
  | none => rfl
  | some known => simp [lookupPath, found]

theorem put_place :
    put (.obj data) name value = .ok (.obj (putPath value (place data name) data)) := by
  simp only [put, occurs, place]
  cases found : field data name with
  | none => rfl
  | some known => rfl

theorem drop_place : drop (.obj data) name = .ok (.obj (dropPath (place data name) data)) := by
  simp only [drop, occurs, place]
  cases found : field data name with
  | none => rfl
  | some known => rfl

/-! ## Storing -/

theorem lookupPath_putPath_self (some : path ≠ []) :
    lookupPath path (.obj (putPath value path data)) = .some value := by
  induction path generalizing data with
  | nil => exact absurd rfl some
  | cons part rest ih =>
      cases rest with
      | nil => simp [putPath, lookupPath, field_setField_self]
      | cons next rest =>
          simp only [putPath, lookupPath, field_setField_self, Option.bind_some]
          exact ih (by simp)

/-- Below a text there is nothing. -/
theorem lookupPath_putPath_below {text part : Str} {rest : List Str} (some : path ≠ []) :
    lookupPath (path ++ part :: rest) (.obj (putPath (.str text) path data)) = none := by
  induction path generalizing data with
  | nil => exact absurd rfl some
  | cons first path ih =>
      cases path with
      | nil => simp [putPath, lookupPath, field_setField_self]
      | cons next path =>
          simp only [List.cons_append, putPath, lookupPath, field_setField_self, Option.bind_some]
          exact ih (by simp)

/-- Above a value there is an object. -/
theorem lookupPath_putPath_above {part : Str} {rest : List Str} (some : target ≠ []) :
    ∃ inner, lookupPath target (.obj (putPath value (target ++ part :: rest) data)) =
      .some (.obj inner) := by
  induction target generalizing data with
  | nil => exact absurd rfl some
  | cons first target ih =>
      cases target with
      | nil => simp [putPath, lookupPath, field_setField_self]
      | cons next target =>
          simp only [List.cons_append, putPath, lookupPath, field_setField_self, Option.bind_some]
          exact ih (by simp)

/-- A name that is a first part has no other part. -/
theorem parts_head {head : Str} {rest : List Str} (split : parts name = head :: rest) :
    parts head = [head] := by
  have first : head ∈ parts name := by simp [split]
  exact parts_of_mem_parts first

/-- Storing adds no key that is a dotted name. -/
theorem place_put : place (putPath value (place data other) data) name = place data name := by
  cases found : place data other with
  | nil => rfl
  | cons head rest =>
      rcases @putPath_eq value data head rest with ⟨stored, same⟩
      rw [same]
      by_cases first : name = head
      · subst first
        -- the first part of a place is a key, or a name of one part
        have single : (field data name).isSome = true ∨ parts name = [name] := by
          unfold place at found
          split at found
          · rename_i known
            rcases List.cons.inj found with ⟨rfl, _⟩
            exact .inl known
          · exact .inr (parts_head found)
        rw [place, place, field_setField_self, Option.isSome_some, if_pos rfl]
        rcases single with known | single
        · rw [if_pos known]
        · rw [single, ite_self]
      · rw [place, place, field_setField_ne first]

/-! ## Dropping -/

/-- Dropping a name drops no other key. -/
theorem isSome_field_drop (different : name ≠ other) :
    (field (dropPath (place data other) data) name).isSome = (field data name).isSome := by
  unfold place
  split
  · rw [dropPath, field_filter_ne different]
  · cases split : parts other with
    | nil => rfl
    | cons head rest =>
        by_cases first : name = head
        · subst first
          cases rest with
          | nil => exact absurd (parts_inj (split.trans (parts_head split).symm)).symm different
          | cons next rest =>
              unfold dropPath
              split
              · rename_i inner found
                rw [field_setField_self, found]
                rfl
              · rfl
        · rw [field_dropPath_ne first]

end Management

end OpnsensePlugin

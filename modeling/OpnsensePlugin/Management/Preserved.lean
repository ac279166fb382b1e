import OpnsensePlugin.Management.Engine
import OpnsensePlugin.Python.Fields
import OpnsensePlugin.Python.Split

/-!
# Values that an update keeps

A form sends a secret back blank unless it is changed. Storing and dropping
other values leaves it alone, because the dotted names of two fields that lead
to different places in an object do not meet.
-/

namespace OpnsensePlugin

open Python

namespace Management

/-! ## Dotted names -/

/-- Neither name is the other or leads to it. -/
def Apart (name other : Str) : Prop :=
  ¬ parts name <+: parts other ∧ ¬ parts other <+: parts name

section

variable {α : Type} {key other name : Str} {path target : List Str} {value data : Json}
  {fields : List (Str × Json)}

/-- A part of a name is a name of one part. -/
theorem parts_of_mem_parts {part : Str} (member : part ∈ parts name) : parts part = [part] :=
  splitOn_of_not_mem (not_mem_of_mem_splitOn member)

theorem Apart.symm (apart : Apart name other) : Apart other name := ⟨apart.2, apart.1⟩

theorem Apart.ne (apart : Apart name other) : other ≠ name := by
  intro same
  subst same
  exact apart.1 (List.prefix_refl _)

/-- The first part of a name is not a name that is apart from it. -/
theorem Apart.head_ne {head : Str} {rest : List Str} (apart : Apart name other)
    (split : parts name = head :: rest) : other ≠ head := by
  intro same
  subst same
  have first : other ∈ parts name := by simp [split]
  have single := parts_of_mem_parts first
  apply apart.2
  rw [single, split]
  exact ⟨rest, rfl⟩

/-! ## Frames -/

theorem lookupPath_putPath (below : ¬ path <+: target) (above : ¬ target <+: path) :
    lookupPath target (.obj (putPath value path fields)) = lookupPath target (.obj fields) := by
  induction path generalizing target fields with
  | nil => exact absurd List.nil_prefix below
  | cons part rest ih =>
      cases target with
      | nil => exact absurd List.nil_prefix above
      | cons first later =>
          by_cases same : first = part
          · subst same
            rw [List.prefix_cons_inj] at below above
            cases rest with
            | nil => exact absurd List.nil_prefix below
            | cons next rest =>
                cases later with
                | nil => exact absurd List.nil_prefix above
                | cons second later =>
                    simp only [putPath, lookupPath, field_setField_self, Option.bind_some]
                    rw [← lookupPath, ih below above]
                    cases field fields first with
                    | none => rfl
                    | some inner => cases inner <;> rfl
          · cases rest with
            | nil => simp only [putPath, lookupPath, field_setField_ne same]
            | cons next rest => simp only [putPath, lookupPath, field_setField_ne same]

theorem lookupPath_dropPath (below : ¬ path <+: target) (above : ¬ target <+: path) :
    lookupPath target (.obj (dropPath path fields)) = lookupPath target (.obj fields) := by
  induction path generalizing target fields with
  | nil => rfl
  | cons part rest ih =>
      cases target with
      | nil => exact absurd List.nil_prefix above
      | cons first later =>
          cases rest with
          | nil =>
              have different : first ≠ part := by
                intro same
                exact below (by simp [same])
              simp only [dropPath, lookupPath, field_filter_ne different]
          | cons next rest =>
              unfold dropPath
              split
              · rename_i inner found
                by_cases same : first = part
                · subst same
                  rw [List.prefix_cons_inj] at below above
                  simp only [lookupPath, field_setField_self, Option.bind_some, found]
                  exact ih below above
                · simp only [lookupPath, field_setField_ne same]
              · rfl

theorem putPath_eq {head : Str} {rest : List Str} :
    ∃ stored, putPath value (head :: rest) fields = setField head stored fields := by
  cases rest with
  | nil => exact ⟨value, rfl⟩
  | cons next rest => exact ⟨_, rfl⟩

theorem field_dropPath_ne {head : Str} {rest : List Str} (different : other ≠ head) :
    field (dropPath (head :: rest) fields) other = field fields other := by
  cases rest with
  | nil => exact field_filter_ne different
  | cons next rest =>
      unfold dropPath
      split
      · exact field_setField_ne different
      · rfl

/-- Reading a name after another one was stored as a key -/
theorem lookupPath_flat {change : List (Str × Json)} (apart : Apart name other)
    (frame : ∀ key, key ≠ name → field change key = field fields key) :
    lookupPath (parts other) (.obj change) = lookupPath (parts other) (.obj fields) := by
  cases split : parts other with
  | nil => exact absurd split splitOn_ne_nil
  | cons head rest => simp only [lookupPath, frame head (apart.symm.head_ne split).symm]

theorem get_put (apart : Apart name other) {merged default : Json}
    (stored : put data name value = .ok merged) : get merged other default = get data other default := by
  cases data with
  | obj fields =>
      simp only [put, occurs, bind_eq_ok, Except.ok.injEq, pure_eq_ok] at stored
      rcases stored with ⟨_, rfl, rfl⟩
      split
      · simp only [get, occurs, field_setField_ne apart.ne,
          lookupPath_flat apart fun key different => field_setField_ne different]
      · cases split : parts name with
        | nil => exact absurd split splitOn_ne_nil
        | cons head rest =>
            have direct : field (putPath value (head :: rest) fields) other = field fields other := by
              rcases putPath_eq with ⟨inner, same⟩
              rw [same, field_setField_ne (apart.head_ne split)]
            have below : lookupPath (parts other) (.obj (putPath value (parts name) fields)) =
                lookupPath (parts other) (.obj fields) := lookupPath_putPath apart.1 apart.2
            rw [split] at below
            simp only [get, occurs, direct, below]
  | _ =>
      simp only [put, bind_eq_ok] at stored
      rcases stored with ⟨_, _, stored⟩
      split at stored <;> cases stored

theorem get_drop (apart : Apart name other) {merged default : Json}
    (dropped : drop data name = .ok merged) :
    get merged other default = get data other default := by
  cases data with
  | obj fields =>
      simp only [drop, occurs, bind_eq_ok, Except.ok.injEq, pure_eq_ok] at dropped
      rcases dropped with ⟨_, rfl, rfl⟩
      split
      · simp only [get, occurs, field_filter_ne apart.ne,
          lookupPath_flat apart fun key different => field_filter_ne different]
      · cases split : parts name with
        | nil => exact absurd split splitOn_ne_nil
        | cons head rest =>
            have below : lookupPath (parts other) (.obj (dropPath (parts name) fields)) =
                lookupPath (parts other) (.obj fields) := lookupPath_dropPath apart.1 apart.2
            rw [split] at below
            simp only [get, occurs, field_dropPath_ne (apart.head_ne split), below]
  | _ =>
      simp only [drop, bind_eq_ok] at dropped
      rcases dropped with ⟨_, _, impossible⟩
      cases impossible

end

/-! ## Canonical forms -/

section

variable [Runtime]

omit [Runtime] in
theorem isEmptyObject_selectedForm [Runtime] {value : Json} :
    isEmptyObject (selectedForm value) = false := by
  cases value with
  | obj fields =>
      unfold selectedForm
      split
      · rfl
      · split
        · rfl
        · cases fields with
          | nil => simp_all
          | cons entry rest => rfl
  | arr items =>
      unfold selectedForm
      split
      · rfl
      · split <;> rfl
  | _ => rfl

mutual

/-- A canonical form has no empty objects left. -/
theorem normalizeEmptyOptions_selectedForm : ∀ value : Json,
    normalizeEmptyOptions (selectedForm value) = selectedForm value
  | .obj fields => by
      unfold selectedForm
      split
      · rfl
      · split
        · rfl
        · rw [normalizeEmptyOptions, normalizeFields_selectedForm fields]
  | .arr items => by
      unfold selectedForm
      split
      · rfl
      · split <;> rfl
  | .null | .bool _ | .int _ | .float _ | .str _ => rfl

theorem normalizeFields_selectedForm : ∀ fields : List (Str × Json),
    normalizeFields (selectedFormFields fields) = selectedFormFields fields
  | [] => rfl
  | (key, child) :: rest => by
      rw [selectedFormFields, normalizeFields, isEmptyObject_selectedForm,
        normalizeEmptyOptions_selectedForm child, normalizeFields_selectedForm rest]
      rfl

end

end

/-! ## Blank secrets -/

/-- A secret that the supplied values leave blank and that no other field of the form reaches -/
structure KeptSecret (spec : Spec) (supplied : List (Str × Json)) (item : FieldSpec) : Prop where
  member : item ∈ spec.fields
  secret : item.secret = true
  editable : (item.readonly || item.writeOnly) = false
  blank : ∀ value, (item.name, value) ∈ supplied → isBlank value = true
  apart : ∀ other ∈ spec.fields, other = item ∨ Apart other.name item.name

section

variable {spec : Spec} {supplied : List (Str × Json)} {item : FieldSpec}

theorem mem_setField {α : Type} {key : Str} {value : α} {fields : List (Str × α)}
    {entry : Str × α} (member : entry ∈ setField key value fields) :
    entry = (key, value) ∨ entry ∈ fields := by
  induction fields with
  | nil => exact .inl (List.mem_singleton.mp member)
  | cons head rest ih =>
      rcases head with ⟨name, old⟩
      unfold setField at member
      split at member
      · rename_i same
        subst same
        rcases List.mem_cons.mp member with rfl | member
        · exact .inl rfl
        · exact .inr (List.mem_cons_of_mem _ member)
      · rcases List.mem_cons.mp member with rfl | member
        · exact .inr List.mem_cons_self
        · exact (ih member).imp_right (List.mem_cons_of_mem _)

theorem mem_fieldMap {name : Str} {found : FieldSpec} (member : (name, found) ∈ fieldMap spec) :
    found ∈ spec.fields ∧ found.name = name := by
  have collected : ∀ (fields : List FieldSpec) (initial : List (Str × FieldSpec)),
      (name, found) ∈ fields.foldl (fun map item => setField item.name item map) initial →
        (found ∈ fields ∧ found.name = name) ∨ (name, found) ∈ initial := by
    intro fields
    induction fields with
    | nil => exact fun _ member => .inr member
    | cons head rest ih =>
        intro initial member
        rcases ih _ member with ⟨later, named⟩ | earlier
        · exact .inl ⟨List.mem_cons_of_mem _ later, named⟩
        · rcases mem_setField earlier with same | earlier
          · cases same
            exact .inl ⟨List.mem_cons_self, rfl⟩
          · exact .inr earlier
  exact (collected _ _ member).resolve_right (by simp)

/-- What every step of a fold keeps holds in the end. -/
theorem foldlM_ok {α β : Type} {items : List β} {step : α → β → Except Exn α} {initial final : α}
    (property : α → Prop)
    (keeps : ∀ state item next, item ∈ items → step state item = .ok next → property state →
      property next)
    (run : items.foldlM step initial = .ok final) (start : property initial) : property final := by
  induction items generalizing initial with
  | nil =>
      cases run
      exact start
  | cons head rest ih =>
      rw [List.foldlM_cons, bind_eq_ok] at run
      rcases run with ⟨next, first, later⟩
      refine ih (fun state item next member => keeps state item next ?_) later ?_
      · exact List.mem_cons_of_mem _ member
      · exact keeps initial head next List.mem_cons_self first start

variable [Runtime]

theorem storeValue_keeps {name : Str} {value merged result : Json}
    (kept : KeptSecret spec supplied item) (member : (name, value) ∈ supplied)
    (stored : storeValue (fieldMap spec) false merged name value = .ok result) :
    get result item.name = get merged item.name := by
  unfold storeValue at stored
  split at stored
  · cases stored
  · rename_i found lookup
    rcases mem_fieldMap (mem_of_field lookup) with ⟨listed, rfl⟩
    rcases kept.apart found listed with rfl | apart
    · have editable := kept.editable
      rw [Bool.or_eq_false_iff] at editable
      simp only [kept.blank value member, kept.secret, editable.1, Bool.and_true, Bool.true_or,
        Bool.not_false, Bool.false_eq_true, if_true, if_false] at stored
      split at stored <;> cases stored <;> rfl
    · split at stored
      · cases stored
        rfl
      · split at stored
        · cases stored
        · split at stored
          · cases stored
            rfl
          · split at stored
            · exact get_put apart stored
            · simp only [bind_eq_ok] at stored
              rcases stored with ⟨_, _, _, _, stored⟩
              exact get_put apart stored

theorem values_supplied {given current expected : Json} {creating : Bool}
    (made : values spec given current creating = .ok expected) : ∃ fields, given = .obj fields := by
  cases given with
  | obj fields => exact ⟨fields, rfl⟩
  | _ => cases made

/-- The values of an update have the current value of a secret that is left blank. -/
theorem values_keeps {object expected : Json} (kept : KeptSecret spec supplied item)
    (made : values spec (.obj supplied) (selectedForm object) false = .ok expected) :
    get expected item.name = get (selectedForm object) item.name := by
  simp only [values, initialValues, bind_eq_ok, Bool.false_eq_true, if_false, pure_eq_ok]
    at made
  rcases made with ⟨_, _, _, rfl, editable, dropped, merged, stored, _, _, rfl⟩
  rw [normalizeEmptyOptions_selectedForm] at dropped
  have cleared : get editable item.name = get (selectedForm object) item.name := by
    refine foldlM_ok (fun data => get data item.name = get (selectedForm object) item.name) ?_
      dropped rfl
    intro data entry next member step same
    rcases entry with ⟨name, found⟩
    rcases mem_fieldMap member with ⟨listed, rfl⟩
    dsimp only at step
    split at step
    · rename_i hidden
      rcases kept.apart found listed with rfl | apart
      · rw [kept.editable] at hidden
        cases hidden
      · exact (get_drop apart step).trans same
    · cases step
      exact same
  refine foldlM_ok (fun data => get data item.name = get (selectedForm object) item.name) ?_
    stored cleared
  intro data entry next member step same
  rcases entry with ⟨name, value⟩
  exact (storeValue_keeps kept member step).trans same

end

end Management

end OpnsensePlugin

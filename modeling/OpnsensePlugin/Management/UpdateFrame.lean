import OpnsensePlugin.Management.Success
import OpnsensePlugin.Management.SuppliedValues

/-!
# The frame of an update

The object that an update sends is the current one up to the fields that are
supplied and the fields that are only shown or only written. Supplied fields carry
their new values, and blank ones stay as they are where that is what blank means.
-/

namespace OpnsensePlugin

open Effects Python

namespace Management

/-- No field name of the form leads to another one. -/
def Separate (spec : Spec) : Prop :=
  ∀ first ∈ spec.fields, ∀ second ∈ spec.fields, first.name ≠ second.name →
    Apart first.name second.name

section

variable [Runtime]

/-- The text of a value: a truth value is `1` or `0`, and the items of a list are joined. -/
def normalized : Json → Str
  | .bool value => if value then "1" else "0"
  | .arr items => join "," (items.map Json.text)
  | value => value.text

/-- A blank value that leaves its field alone -/
def passedOver (item : FieldSpec) (creating : Bool) (value : Json) : Bool :=
  isBlank value && (item.generated || (item.secret || item.writeOnly) && !creating)

/-! ## The text of a value -/

variable {fields : List (Str × FieldSpec)} {creating : Bool} {item : FieldSpec}
  {name other text : Str} {value merged result default : Json}

theorem not_digits_arr {items : List Json} :
    isDigit ((Json.arr items).text.dropWhile (· = code '-')) = false := by
  have written : ∃ rest, (Json.arr items).text = code '[' :: rest := ⟨_, rfl⟩
  have bracket : isDigitChar (code '[') = false := by decide
  have first : ¬ code '[' = code '-' := by decide
  rcases written with ⟨rest, same⟩
  rw [same, List.dropWhile_cons_of_neg (by simpa using first)]
  simp [isDigit, bracket]

theorem valueText_normalized (valued : valueText item value = .ok text) : text = normalized value := by
  unfold valueText at valued
  split at valued
  · have joined := (limitedText_ok valued).1
    split at joined
    · split at joined
      · cases joined
        rfl
      · cases joined
    · rw [joined]
      rfl
  · split at valued
    · cases value with
      | bool truth =>
          cases valued
          rfl
      | _ => cases valued
    · split at valued
      · rcases numberText_ok valued with ⟨rfl, digits, _⟩
        cases value with
        | bool truth => cases valued
        | arr items =>
            rw [not_digits_arr] at digits
            cases digits
        | _ => rfl
      · rw [(limitedText_ok valued).1]
        rfl

/-- A value that passes its check is passed over, or stored as its text. -/
theorem checkedText_normalized {stored : Option Str} (found : field fields name = some item)
    (passed : checkedText fields creating (name, value) = .ok stored) :
    (passedOver item creating value = true ∧ stored = none) ∨
      (passedOver item creating value = false ∧ item.readonly = false ∧
        stored = some (normalized value)) := by
  simp only [checkedText, found] at passed
  split at passed
  · rename_i generated
    rw [Bool.and_eq_true] at generated
    cases passed
    exact .inl ⟨by simp [passedOver, generated], rfl⟩
  · rename_i kept
    split at passed
    · cases passed
    · rename_i editable
      split at passed
      · rename_i secret
        cases passed
        simp only [Bool.and_eq_true] at secret
        exact .inl ⟨by simp only [passedOver, secret, Bool.and_true, Bool.or_true], rfl⟩
      · rename_i shown
        have stays : passedOver item creating value = false := by
          simp only [passedOver]
          cases blank : isBlank value with
          | false => rfl
          | true =>
              simp only [blank, Bool.and_true, Bool.not_eq_true] at kept shown
              rw [kept, Bool.false_or, Bool.true_and]
              exact shown
        refine .inr ⟨stays, by simpa using editable, ?_⟩
        split at passed
        · rename_i empty
          cases passed
          simp only [Bool.and_eq_true] at empty
          cases value with
          | str text =>
              have same : text = [] := by simpa [Json.isText] using empty.1.2
              subst same
              rfl
          | _ => cases empty.1.2
        · simp only [bind_eq_ok, pure_eq_ok] at passed
          rcases passed with ⟨text, valued, _, _, rfl⟩
          rw [valueText_normalized valued]

/-! ## Frames -/

theorem storeValue_frame (stored : storeValue fields creating merged name value = .ok result)
    (apart : textOf fields creating (name, value) = none ∨ Apart name other) :
    get result other default = get merged other default := by
  rw [storeValue_checked, bind_eq_ok] at stored
  rcases stored with ⟨text, passed, stored⟩
  cases text with
  | none =>
      cases stored
      rfl
  | some text =>
      have written : textOf fields creating (name, value) = some text := by rw [textOf, passed]
      rcases apart with none | apart
      · rw [written] at none
        cases none
      · exact get_put apart stored

theorem stores_frame {supplied : List (Str × Json)}
    (stored : supplied.foldlM (fun merged (name, value) => storeValue fields creating merged name value)
      merged = .ok result)
    (apart : ∀ entry ∈ supplied, textOf fields creating entry = none ∨ Apart entry.1 other) :
    get result other default = get merged other default := by
  refine foldlM_ok (fun data => get data other default = get merged other default) ?_ stored rfl
  intro data entry next member step same
  rcases entry with ⟨name, value⟩
  exact (storeValue_frame step (apart _ member)).trans same

omit [Runtime] in
theorem drops_frame {items : List (Str × FieldSpec)}
    (dropped : items.foldlM (fun merged (name, item) =>
      if item.readonly || item.writeOnly then drop merged name else pure merged) merged = .ok result)
    (apart : ∀ entry ∈ items, (entry.2.readonly || entry.2.writeOnly) = true → Apart entry.1 other) :
    get result other default = get merged other default := by
  refine foldlM_ok (fun data => get data other default = get merged other default) ?_ dropped rfl
  intro data entry next member step same
  rcases entry with ⟨name, item⟩
  dsimp only at step
  split at step
  · rename_i hidden
    exact (get_drop (apart _ member hidden) step).trans same
  · cases step
    exact same

end

/-! ## Dropped fields -/

section

variable {data rest : List (Str × Json)} {name other : Str} {path : List Str} {default : Json}

/-- The object has the name as a key or along its parts, not both. -/
def Once (data : List (Str × Json)) (name : Str) : Prop :=
  parts name = [name] ∨ field data name = none ∨ lookupPath (parts name) (.obj data) = none

theorem lookupPath_dropPath_self (some : path ≠ []) :
    lookupPath path (.obj (dropPath path data)) = none := by
  induction path generalizing data with
  | nil => exact absurd rfl some
  | cons part rest ih =>
      cases rest with
      | nil => simp only [dropPath, lookupPath, field_filter_self, Option.bind_none]
      | cons next rest =>
          unfold dropPath
          split
          · simp only [lookupPath, field_setField_self, Option.bind_some]
            exact ih (by simp)
          · rename_i other
            cases found : field data part with
            | none => simp [lookupPath, found]
            | some value =>
                cases value with
                | obj inner => exact absurd found (other inner)
                | _ => simp [lookupPath, found]

/-- A name that is dropped is no longer read, if the object had it once. -/
theorem get_drop_self {merged : Json} (once : Once data name)
    (dropped : drop (.obj data) name = .ok merged) : get merged name default = .ok default := by
  rw [drop_place] at dropped
  cases dropped
  by_cases flat : (field data name).isSome = true
  · have absent : lookupPath (parts name) (.obj (data.filter fun entry => entry.1 ≠ name)) = none := by
      rcases once with single | none | nested
      · rw [single, lookupPath, field_filter_self, Option.bind_none]
      · rw [none] at flat
        cases flat
      · cases split : parts name with
        | nil => exact absurd split parts_ne_nil
        | cons head rest =>
            rw [split] at nested
            by_cases same : head = name
            · rw [same, lookupPath, field_filter_self, Option.bind_none]
            · rw [lookupPath, field_filter_ne same]
              exact nested
    rw [place, if_pos flat, dropPath, get_place, place, field_filter_self, Option.isSome_none,
      if_neg Bool.false_ne_true, absent, Option.getD_none]
  · have still : field (dropPath (parts name) data) name = none := by
      cases split : parts name with
      | nil => exact absurd split parts_ne_nil
      | cons head rest =>
          by_cases same : name = head
          · rw [← split, same, parts_head split, dropPath, field_filter_self]
          · rw [field_dropPath_ne same]
            simpa using flat
    rw [place, if_neg flat, get_place, place, still, Option.isSome_none, if_neg Bool.false_ne_true,
      lookupPath_dropPath_self parts_ne_nil, Option.getD_none]

/-- Of a name that an object has twice, the key is dropped and the nested value is still read. -/
example : let data : List (Str × Json) := [("a.b", .str "x"), ("a", .obj [("b", .str "y")])]
    ¬ Once data "a.b" ∧ (drop (.obj data) "a.b" >>= fun merged => get merged "a.b") =
      .ok (.str "y") :=
  ⟨by rintro (single | none | nested) <;> contradiction, rfl⟩

/-- Dropping another name leaves the name in its places. -/
theorem Once.drop (once : Once data name) (apart : Apart other name) :
    Once (dropPath (place data other) data) name := by
  rcases once with single | none | nested
  · exact .inl single
  · refine .inr (.inl (Option.not_isSome_iff_eq_none.mp ?_))
    rw [isSome_field_drop apart.ne, none]
    simp
  · refine .inr (.inr ?_)
    unfold place
    split
    · rw [dropPath, lookupPath_flat apart fun key different => field_filter_ne different]
      exact nested
    · rw [lookupPath_dropPath apart.1 apart.2]
      exact nested

end

/-! ## Updates -/

/-- What an update sends: `sent` agrees with `current` apart from the supplied fields and those that
are only shown or only written. Supplied fields carry their values. Fields that are left alone have
the current value, or none if they are not sent back. -/
structure UpdateFrame [Runtime] (spec : Spec) (supplied : List (Str × Json)) (current sent : Json) :
    Prop where
  untouched : ∀ name default, (∀ entry ∈ supplied, Apart entry.1 name) →
    (∀ entry ∈ fieldMap spec, (entry.2.readonly || entry.2.writeOnly) = true → Apart entry.1 name) →
    get sent name default = get current name default
  carried : ∀ name value item, (name, value) ∈ supplied → field (fieldMap spec) name = some item →
    passedOver item false value = false → get sent name = .ok (.str (normalized value))
  kept : ∀ name item default, field (fieldMap spec) name = some item →
    (∀ value, (name, value) ∈ supplied → passedOver item false value = true) →
    (item.readonly || item.writeOnly) = false → get sent name default = get current name default
  unsent : ∀ name item default, field (fieldMap spec) name = some item →
    (∀ value, (name, value) ∈ supplied → passedOver item false value = true) →
    (item.readonly || item.writeOnly) = true → (∀ data, current = .obj data → Once data name) →
    get sent name default = .ok default

section

variable [Runtime] {spec : Spec} {supplied : List (Str × Json)} {creating : Bool}
  {entry : Str × Json} {item : FieldSpec} {name : Str} {value : Json}

omit [Runtime] in
theorem nodup_fieldMap : ((fieldMap spec).map Prod.fst).Nodup := by
  have collected : ∀ (fields : List FieldSpec) (initial : List (Str × FieldSpec)),
      (initial.map Prod.fst).Nodup →
        ((fields.foldl (fun map item => setField item.name item map) initial).map Prod.fst).Nodup := by
    intro fields
    induction fields with
    | nil => exact fun _ distinct => distinct
    | cons head rest ih => exact fun _ distinct => ih _ (nodup_setField distinct)
  exact collected _ _ List.nodup_nil

omit [Runtime] in
theorem Separate.apart (separate : Separate spec) {known other : FieldSpec} {second : Str}
    (first : (name, known) ∈ fieldMap spec) (later : (second, other) ∈ fieldMap spec)
    (different : name ≠ second) : Apart name second := by
  rcases mem_fieldMap first with ⟨listed, rfl⟩
  rcases mem_fieldMap later with ⟨stands, rfl⟩
  exact separate _ listed _ stands different

theorem textOf_passedOver {fields : List (Str × FieldSpec)} (found : field fields name = some item)
    (passed : passedOver item creating value = true) : textOf fields creating (name, value) = none := by
  unfold textOf
  cases checked : checkedText fields creating (name, value) with
  | error => rfl
  | ok stored =>
      rcases checkedText_normalized found checked with ⟨_, same⟩ | ⟨stays, _⟩
      · exact same
      · rw [passed] at stays
        cases stays

theorem textOf_known {fields : List (Str × FieldSpec)} {text : Str}
    (written : textOf fields creating entry = some text) : ∃ item, field fields entry.1 = some item := by
  unfold textOf checkedText at written
  cases found : field fields entry.1 with
  | none =>
      rw [found] at written
      cases written
  | some item => exact ⟨item, rfl⟩

/-- Other supplied fields are passed over or lead elsewhere. -/
theorem Separate.others (separate : Separate spec) (found : field (fieldMap spec) name = some item)
    (different : entry.1 ≠ name) :
    textOf (fieldMap spec) creating entry = none ∨ Apart entry.1 name := by
  cases written : textOf (fieldMap spec) creating entry with
  | none => exact .inl rfl
  | some text =>
      rcases textOf_known written with ⟨other, known⟩
      exact .inr (separate.apart (mem_of_field known) (mem_of_field found) different)

theorem values_stages {given current sent : Json}
    (made : values spec given current creating = .ok sent) :
    ∃ supplied initial edited, given = .obj supplied ∧
      initialValues (fieldMap spec) current creating = .ok initial ∧
      (fieldMap spec).foldlM (fun merged (name, item) =>
        if item.readonly || item.writeOnly then drop merged name else pure merged)
        (normalizeEmptyOptions initial) = .ok edited ∧
      supplied.foldlM (fun merged (name, value) =>
        storeValue (fieldMap spec) creating merged name value) edited = .ok sent := by
  rcases values_supplied made with ⟨supplied, rfl⟩
  simp only [values, bind_eq_ok, pure_eq_ok] at made
  rcases made with ⟨_, _, initial, started, edited, dropped, merged, stored, _, _, rfl⟩
  exact ⟨supplied, initial, edited, rfl, started, dropped, stored⟩

omit [Runtime] in
theorem get_put_self {data next default : Json} (stored : put data name value = .ok next) :
    get next name default = .ok value := by
  cases data with
  | obj fields =>
      rw [put_place] at stored
      cases stored
      rw [get_place, place_put, lookupPath_putPath_self place_ne_nil, Option.getD_some]
  | _ =>
      simp only [put, bind_eq_ok] at stored
      rcases stored with ⟨_, _, stored⟩
      split at stored <;> cases stored

omit [Runtime] in
theorem foldlM_split {α β : Type} {before after : List β} {item : β} {step : α → β → Except Exn α}
    {start last : α} (run : (before ++ item :: after).foldlM step start = .ok last) :
    ∃ middle next, before.foldlM step start = .ok middle ∧ step middle item = .ok next ∧
      after.foldlM step next = .ok last := by
  simp only [List.foldlM_append, List.foldlM_cons, bind_eq_ok] at run
  rcases run with ⟨middle, first, next, stepped, rest⟩
  exact ⟨middle, next, first, stepped, rest⟩

/-- A supplied field that is not passed over has its value in the end. -/
theorem carried_of_stores (separate : Separate spec) (distinct : (supplied.map Prod.fst).Nodup)
    {edited sent : Json}
    (stored : supplied.foldlM (fun merged (name, value) =>
      storeValue (fieldMap spec) creating merged name value) edited = .ok sent)
    (member : (name, value) ∈ supplied) (found : field (fieldMap spec) name = some item)
    (stays : passedOver item creating value = false) :
    get sent name = .ok (.str (normalized value)) := by
  rcases List.append_of_mem member with ⟨before, after, rfl⟩
  rcases foldlM_split stored with ⟨middle, next, _, stepped, rest⟩
  dsimp only at stepped
  rw [storeValue_checked, bind_eq_ok] at stepped
  rcases stepped with ⟨text, passed, stepped⟩
  have written : text = some (normalized value) := by
    rcases checkedText_normalized found passed with ⟨skipped, _⟩ | ⟨_, _, same⟩
    · rw [stays] at skipped
      cases skipped
    · exact same
  subst written
  refine (stores_frame rest ?_).trans (get_put_self stepped)
  intro later listed
  refine separate.others found fun same => ?_
  rw [List.map_append, List.map_cons, List.nodup_append] at distinct
  exact (List.nodup_cons.mp distinct.2.1).1 (List.mem_map.mpr ⟨later, listed, same⟩)

omit [Runtime] in
/-- A field that is dropped is not read afterwards. -/
theorem absent_of_drops (separate : Separate spec) {initial edited default : Json}
    (dropped : (fieldMap spec).foldlM (fun merged (name, item) =>
      if item.readonly || item.writeOnly then drop merged name else pure merged) initial = .ok edited)
    (found : field (fieldMap spec) name = some item)
    (hidden : (item.readonly || item.writeOnly) = true)
    (once : ∀ data, initial = .obj data → Once data name) :
    get edited name default = .ok default := by
  have distinct := @nodup_fieldMap spec
  have known := mem_of_field found
  rcases List.append_of_mem known with ⟨before, after, split⟩
  rw [split] at dropped distinct
  rw [List.map_append, List.map_cons, List.nodup_append] at distinct
  rcases foldlM_split dropped with ⟨middle, next, first, stepped, rest⟩
  have listed : ∀ entry ∈ before ++ after, entry ∈ fieldMap spec := by
    intro entry member
    rw [split]
    simp only [List.mem_append, List.mem_cons] at member ⊢
    exact member.imp_right .inr
  have still : ∀ data, middle = .obj data → Once data name := by
    refine foldlM_ok (fun state => ∀ data, state = .obj data → Once data name) ?_ first once
    intro state entry next member step holds
    rcases entry with ⟨other, flags⟩
    dsimp only at step
    split at step
    · cases state with
      | obj data =>
          rw [drop_place] at step
          cases step
          intro data same
          cases same
          refine (holds _ rfl).drop (separate.apart (listed _ (List.mem_append_left _ member)) known ?_)
          rintro rfl
          exact distinct.2.2 other (List.mem_map.mpr ⟨_, member, rfl⟩) other List.mem_cons_self rfl
      | _ =>
          simp only [drop, bind_eq_ok] at step
          rcases step with ⟨_, _, impossible⟩
          cases impossible
    · cases step
      exact holds
  have gone : get next name default = .ok default := by
    dsimp only at stepped
    rw [if_pos hidden] at stepped
    cases middle with
    | obj data => exact get_drop_self (still data rfl) stepped
    | _ =>
        simp only [drop, bind_eq_ok] at stepped
        rcases stepped with ⟨_, _, impossible⟩
        cases impossible
  refine (drops_frame rest fun entry member _ => ?_).trans gone
  rcases entry with ⟨other, flags⟩
  refine separate.apart (listed _ (List.mem_append_right _ member)) known ?_
  rintro rfl
  exact (List.nodup_cons.mp distinct.2.1).1 (List.mem_map.mpr ⟨_, member, rfl⟩)

/-- The values of an update frame the canonical current object. -/
theorem values_frame (separate : Separate spec) (distinct : (supplied.map Prod.fst).Nodup)
    {object sent : Json}
    (made : values spec (.obj supplied) (selectedForm object) false = .ok sent) :
    UpdateFrame spec supplied (selectedForm object) sent := by
  rcases values_stages made with ⟨_, initial, edited, same, started, dropped, stored⟩
  cases same
  cases started
  rw [normalizeEmptyOptions_selectedForm] at dropped
  have unwritten : ∀ {name item}, field (fieldMap spec) name = some item →
      (∀ value, (name, value) ∈ supplied → passedOver item false value = true) →
      ∀ entry ∈ supplied, textOf (fieldMap spec) false entry = none ∨ Apart entry.1 name := by
    rintro name item found skipped ⟨other, value⟩ member
    by_cases same : other = name
    · subst same
      exact .inl (textOf_passedOver found (skipped value member))
    · exact separate.others found same
  refine ⟨?_, ?_, ?_, ?_⟩
  · intro name default apart hidden
    exact (stores_frame stored fun entry member => .inr (apart entry member)).trans
      (drops_frame dropped hidden)
  · intro name value item member found stays
    exact carried_of_stores separate distinct stored member found stays
  · intro name item default found skipped shown
    refine (stores_frame stored (unwritten found skipped)).trans (drops_frame dropped ?_)
    rintro ⟨other, flags⟩ member hidden
    refine separate.apart member (mem_of_field found) ?_
    rintro rfl
    have same := field_of_mem nodup_fieldMap member
    rw [found] at same
    cases same
    rw [shown] at hidden
    cases hidden
  · intro name item default found skipped hidden once
    exact (stores_frame stored (unwritten found skipped)).trans
      (absent_of_drops separate dropped found hidden once)

end

/-! ## Creations -/

/-- The object has nothing at names that neither are nor lead to or from a field of the form. -/
def Catalogued (spec : Spec) (sent : Json) : Prop :=
  ∀ name default, (∀ item ∈ spec.fields, Apart item.name name) → get sent name default = .ok default

section

variable {name : Str} {default : Json} {fields : List (Str × Json)} {path : List Str}

theorem field_normalizeFields {key : Str} : field (normalizeFields fields) key =
    (field fields key).map fun child =>
      if isEmptyObject child then .str [] else normalizeEmptyOptions child := by
  induction fields with
  | nil => rfl
  | cons entry rest ih =>
      rcases entry with ⟨head, child⟩
      rw [normalizeFields, field_cons, field_cons, ih]
      by_cases same : key = head
      · simp [same]
      · simp [same]

theorem lookupPath_normalizeFields (absent : lookupPath path (.obj fields) = none) :
    lookupPath path (.obj (normalizeFields fields)) = none := by
  induction path generalizing fields with
  | nil => cases absent
  | cons part rest ih =>
      rw [lookupPath, field_normalizeFields]
      rw [lookupPath] at absent
      cases found : field fields part with
      | none => rfl
      | some child =>
          rw [found, Option.bind_some] at absent
          simp only [Option.map_some, Option.bind_some]
          cases rest with
          | nil => cases absent
          | cons next rest =>
              cases child with
              | obj inner =>
                  cases inner with
                  | nil => rfl
                  | cons => exact ih absent
              | _ => rfl

theorem get_normalizeEmptyOptions {data : Json}
    (absent : ∀ default, get data name default = .ok default) (default : Json) :
    get (normalizeEmptyOptions data) name default = .ok default := by
  cases data with
  | obj fields =>
      have nothing : lookupPath (place fields name) (.obj fields) = none := by
        have first := absent .null
        have second := absent (.bool true)
        rw [get_place] at first second
        cases found : lookupPath (place fields name) (.obj fields) with
        | none => rfl
        | some value =>
            rw [found, Option.getD_some] at first second
            cases first
            cases second
      have same : place (normalizeFields fields) name = place fields name := by
        rw [place, place, field_normalizeFields, Option.isSome_map]
      rw [normalizeEmptyOptions, get_place, same, lookupPath_normalizeFields nothing,
        Option.getD_none]
  | _ => exact absent default

theorem get_empty : get (.obj []) name default = .ok default := by
  rw [get_place]
  cases split : place [] name with
  | nil => exact absurd split place_ne_nil
  | cons head rest => rfl

variable [Runtime] {spec : Spec} {given current sent : Json}

/-- The values of a creation are catalogued. -/
theorem values_catalogued (made : values spec given current true = .ok sent) :
    Catalogued spec sent := by
  intro name default apart
  rcases values_stages made with ⟨supplied, initial, edited, rfl, started, dropped, stored⟩
  have listed : ∀ entry ∈ fieldMap spec, Apart entry.1 name := by
    rintro ⟨key, item⟩ member
    rcases mem_fieldMap member with ⟨stands, rfl⟩
    exact apart item stands
  have created : ∀ default, get initial name default = .ok default := by
    refine foldlM_ok (fun data => ∀ default, get data name default = .ok default) ?_ started
      fun _ => get_empty
    intro data entry next member step absent default
    rcases entry with ⟨key, item⟩
    dsimp only at step
    split at step
    · cases step
      exact absent default
    · rw [bind_eq_ok] at step
      rcases step with ⟨value, _, step⟩
      split at step
      · cases step
        exact absent default
      · exact (get_put (listed _ member) step).trans (absent default)
  refine (stores_frame stored fun entry member => ?_).trans
    ((drops_frame dropped fun entry member _ => listed entry member).trans
      (get_normalizeEmptyOptions created default))
  cases written : textOf (fieldMap spec) true entry with
  | none => exact .inl rfl
  | some text =>
      rcases textOf_known written with ⟨item, known⟩
      exact .inr (listed _ (mem_of_field known))

end

end Management

namespace ManagementService

open Management

section

variable [Runtime] {service : ManagementService} {spec : Spec} {request : MutateRequest}
  {body expected payload current : Json} {target : Str} {trace : Trace Role}

/-! ## Runs -/

theorem ChangeRun.starts {outcome : Except Exn MutateResult}
    (run : ChangeRun spec request expected payload target trace outcome) :
    ∃ reply tail, trace = postEvent target payload reply :: tail := by
  have attempted : ∀ {trace : Trace Role} {outcome : Except Exn MutateResult} {after : Mutation},
      AttemptRun spec request expected payload target trace outcome after →
        ∃ reply tail, trace = postEvent target payload reply :: tail := by
    intro trace outcome after attempt
    cases attempt with
    | @unsaved reply => exact ⟨reply, [], rfl⟩
    | @unapplied reply => exact ⟨reply, _, rfl⟩
    | @finished reply => exact ⟨reply, _, rfl⟩
  cases run with
  | returned attempt => exact attempted attempt
  | raised attempt =>
      rcases attempted attempt with ⟨reply, tail, rfl⟩
      exact ⟨reply, _, rfl⟩

/-- The object that a call without a hook sends: an update frames the canonical current object, and
what a creation sends is catalogued. -/
theorem mutate_sends_frame (separate : Separate spec) (hook : spec.prepare = none)
    {outcome : Except Exn MutateResult} (run : (service.mutate spec body).Run () trace outcome ())
    {post : Post Role} {rest : List (Post Role)} (sent : posts trace = post :: rest) :
    ∃ request object expected front back, service.accept spec body = .ok request ∧
      trace = front ++ back ∧ Prepared spec request object expected post.body front ∧
      (request.action = .update → ((supplied request).map Prod.fst).Nodup →
        UpdateFrame spec (supplied request) (selectedForm object) expected) ∧
      (request.action = .create → Catalogued spec expected) := by
  cases mutate_run run with
  | refused => cases sent
  | @locked request target lock inner _ accepted targetEq locked =>
      rw [posts_append, posts_append] at sent
      cases locked with
      | unprepared quiet =>
          rw [posts_eq_nil quiet] at sent
          cases sent
      | @changed front changing object expected payload _ quiet prepared change =>
          rcases change.starts with ⟨reply, tail, rfl⟩
          rw [posts_append, posts_eq_nil quiet, postEvent, posts_post] at sent
          cases sent
          refine ⟨request, object, expected, [⟨.acquireGuard .managementLocks, ()⟩,
            ⟨.lockFor .managementLocks (service.lockKey spec), lock⟩,
            ⟨.releaseGuard .managementLocks, ()⟩, ⟨.acquire lock, ()⟩] ++ front,
            postEvent target payload reply :: (tail ++ [⟨.release lock, ()⟩]), accepted, by simp,
            ?_, ?_, ?_⟩
          · exact ⟨prepared.current, prepared.intendedEq, prepared.payloadEq, prepared.recorded.skip⟩
          · intro update distinct
            have made := intended_values prepared.intendedEq (by simp [update]) hook
            rw [update] at made
            exact values_frame separate distinct made
          · intro create
            have made := intended_values prepared.intendedEq (by simp [create]) hook
            rw [create] at made
            exact values_catalogued made

end

/-! ### A generated name -/

theorem demoSpec_separate : Separate demoSpec := by
  unfold Separate Apart
  decide

theorem mutate_sends_frame_update :
    ∃ trace outcome post rest,
      (@mutate Runtime.ascii demoService demoSpec demoUpdate).Run () trace outcome () ∧
      posts trace = post :: rest ∧ ∃ request object expected front back,
        @accept Runtime.ascii demoService demoSpec demoUpdate = .ok request ∧
        trace = front ++ back ∧
        @Prepared Runtime.ascii demoSpec request object expected post.body front ∧
        (request.action = .update → ((supplied request).map Prod.fst).Nodup →
          @UpdateFrame Runtime.ascii demoSpec (supplied request)
            (@selectedForm Runtime.ascii object) expected) ∧
        (request.action = .create → Catalogued demoSpec expected) := by
  rcases Program.replay_yields (fun _ => slowApply)
    (@mutate Runtime.ascii demoService demoSpec demoUpdate ()) [] with ⟨trace, recorded, run⟩
  have some : (posts trace).isEmpty = false := by
    rw [← List.nil_append trace, ← recorded]
    decide +kernel
  rcases List.exists_cons_of_ne_nil (List.isEmpty_eq_false_iff.mp some) with ⟨post, rest, sent⟩
  exact ⟨trace, _, post, rest, run, sent,
    @mutate_sends_frame Runtime.ascii _ _ _ _ demoSpec_separate rfl _ run _ _ sent⟩

/-- A form whose only field is generated where it is left blank -/
def generatedSpec : Spec := { demoSpec with fields := [{ name := "name", generated := true }] }

def blankUpdate : Json := .obj [("action", .str "update"), ("uuid", .str demoUuid),
  ("revision", .str demoRevision), ("values", .obj [("name", .str [])])]

/-- The name is supplied blank, and the object is sent with its current name. -/
theorem mutate_keeps_generated :
    ∃ trace outcome post rest request,
      (@mutate Runtime.ascii demoService generatedSpec blankUpdate).Run () trace outcome () ∧
      posts trace = post :: rest ∧
      @accept Runtime.ascii demoService generatedSpec blankUpdate = .ok request ∧
      (("name" : Str), Json.str []) ∈ supplied request ∧
      (∃ object, get post.body "item" = .ok object ∧
        get object "name" ≠ .ok (.str (@normalized Runtime.ascii (.str [])))) := by
  rcases Program.replay_yields (fun _ => slowApply)
    (@mutate Runtime.ascii demoService generatedSpec blankUpdate ()) [] with ⟨trace, recorded, run⟩
  have bodies : (posts trace).head?.any (fun post => (get post.body "item").toOption.any fun object =>
      (get object "name").toOption.any fun name => name.isText "old") = true := by
    rw [← List.nil_append trace, ← recorded]
    decide +kernel
  cases sent : posts trace with
  | nil =>
      rw [sent] at bodies
      cases bodies
  | cons post rest =>
      rw [sent, List.head?_cons, Option.any_some] at bodies
      refine ⟨trace, _, post, rest, { demoRequest with body := [("action", .str "update"),
        ("uuid", .str demoUuid), ("revision", .str demoRevision), ("values", .obj [("name", .str [])])] },
        run, sent, rfl, List.mem_singleton.mpr rfl, ?_⟩
      cases found : get post.body "item" with
      | error error =>
          rw [found] at bodies
          cases bodies
      | ok object =>
          refine ⟨object, rfl, fun same => ?_⟩
          rw [found, Except.toOption, Option.any_some, same] at bodies
          exact absurd bodies (by decide)

end ManagementService

end OpnsensePlugin

import OpnsensePlugin.Management.Decoding
import OpnsensePlugin.Management.Places
import OpnsensePlugin.Python.Checks
import OpnsensePlugin.Python.Decimal

/-!
# Supplied values

`_values` checks one supplied value after the other and stores its text. What a
check accepts is nearly of the kind of its field: the test of a number lets texts
pass that are no integer literals, and on some of them `int` raises.
-/

namespace OpnsensePlugin

open Python

namespace Management

/-! ## The check of a value -/

section

variable [Runtime]

/-- The text that a supplied value is stored as; `none` if it is passed over -/
def checkedText (fields : List (Str × FieldSpec)) (creating : Bool) (entry : Str × Json) :
    Except Exn (Option Str) :=
  match field fields entry.1 with
  | none => .error (.builtin .keyError entry.1)
  | some item =>
      if item.generated && isBlank entry.2 then return none
      else if item.readonly then
        .error (badRequest "Un campo de solo lectura no admite cambios.")
      else if (item.secret || item.writeOnly) && isBlank entry.2 && !creating then return none
      else if !item.multiple && !isBoolean item && isNumber item && entry.2.isText [] &&
          !item.required then
        return some []
      else do
        let text ← valueText item entry.2
        checkOptions item text
        return some text

end

/-- Store a text at the place of its name. -/
def storeText (data : List (Str × Json)) (entry : Str × Json) : Option Str → List (Str × Json)
  | none => data
  | some text => putPath (.str text) (place data entry.1) data

section

variable [Runtime] {fields : List (Str × FieldSpec)} {creating : Bool} {data : List (Str × Json)}
  {supplied : List (Str × Json)}

theorem storeValue_checked {name : Str} {value merged : Json} :
    storeValue fields creating merged name value =
      (checkedText fields creating (name, value) >>= fun
        | none => pure merged
        | some text => put merged name (.str text)) := by
  unfold storeValue checkedText
  cases field fields name with
  | none => rfl
  | some item =>
      dsimp only
      split
      · rfl
      · split
        · rfl
        · split
          · rfl
          · split
            · rfl
            · cases valueText item value with
              | error => rfl
              | ok text =>
                  change (checkOptions item text >>= fun _ => put merged name (.str text)) =
                    ((checkOptions item text >>= fun _ => pure (some text)) >>= _)
                  cases checkOptions item text <;> rfl

theorem storeValue_eq {name : Str} {value : Json} :
    storeValue fields creating (.obj data) name value =
      (checkedStep (checkedText fields creating) storeText data (name, value)).map Json.obj := by
  rw [storeValue_checked, checkedStep]
  cases checkedText fields creating (name, value) with
  | error => rfl
  | ok stored => cases stored with
    | none => rfl
    | some text => exact put_place

/-- The loop over the supplied values -/
theorem foldlM_storeValue :
    supplied.foldlM (fun merged (name, value) => storeValue fields creating merged name value)
        (.obj data) =
      (supplied.foldlM (checkedStep (checkedText fields creating) storeText) data).map Json.obj := by
  induction supplied generalizing data with
  | nil => rfl
  | cons entry rest ih =>
      rcases entry with ⟨name, value⟩
      rw [List.foldlM_cons, List.foldlM_cons]
      dsimp only
      rw [storeValue_eq]
      cases checkedStep (checkedText fields creating) storeText data (name, value) with
      | error => rfl
      | ok next => exact ih

/-! ## The object that values are stored in -/

/-- What is left of the current object, or of the defaults of a new one, without the fields that
are only shown or only written -/
def editableValues (fields : List (Str × FieldSpec)) (current : Json) (creating : Bool) :
    Except Exn Json := do
  let initial ← initialValues fields current creating
  fields.foldlM (fun merged (name, item) =>
    if item.readonly || item.writeOnly then drop merged name else return merged)
    (normalizeEmptyOptions initial)

omit [Runtime] in
theorem foldlM_obj {α : Type} {items : List α} {step : Json → α → Except Exn Json} {start : Json}
    (keeps : ∀ data item, ∃ next, step (.obj data) item = .ok (.obj next))
    (object : ∃ data, start = .obj data) : ∃ data, items.foldlM step start = .ok (.obj data) := by
  induction items generalizing start with
  | nil =>
      rcases object with ⟨data, rfl⟩
      exact ⟨data, rfl⟩
  | cons item rest ih =>
      rcases object with ⟨data, rfl⟩
      rcases keeps data item with ⟨next, stepped⟩
      rw [List.foldlM_cons, stepped]
      exact ih ⟨next, rfl⟩

omit [Runtime] in
theorem creationValues_obj {current : List (Str × Json)} :
    ∃ data, creationValues (.obj current) fields = .ok (.obj data) := by
  refine foldlM_obj ?_ ⟨[], rfl⟩
  intro data item
  rcases item with ⟨name, item⟩
  dsimp only
  split
  · exact ⟨data, rfl⟩
  · rw [get_place]
    cases (lookupPath (place current name) (.obj current)).getD item.default with
    | null => exact ⟨data, rfl⟩
    | _ => exact ⟨_, put_place⟩

omit [Runtime] in
theorem editableValues_obj {current : List (Str × Json)} :
    ∃ data, editableValues fields (.obj current) creating = .ok (.obj data) := by
  have started : ∃ data, initialValues fields (.obj current) creating = .ok (.obj data) := by
    unfold initialValues
    split
    · exact creationValues_obj
    · exact ⟨current, rfl⟩
  rcases started with ⟨data, started⟩
  rw [editableValues, started]
  refine foldlM_obj ?_ ⟨normalizeFields data, rfl⟩
  intro data item
  rcases item with ⟨name, item⟩
  dsimp only
  split
  · exact ⟨_, drop_place⟩
  · exact ⟨data, rfl⟩

/-- The object that the supplied values are stored in -/
def editable (spec : Spec) (current : List (Str × Json)) (creating : Bool) : List (Str × Json) :=
  match editableValues (fieldMap spec) (.obj current) creating with
  | .ok (.obj data) => data
  | _ => []

omit [Runtime] in
theorem editableValues_eq {spec : Spec} {current : List (Str × Json)} :
    editableValues (fieldMap spec) (.obj current) creating =
      .ok (.obj (editable spec current creating)) := by
  rcases @editableValues_obj (fieldMap spec) creating current with ⟨data, found⟩
  rw [editable, found]

/-- The text of a value that passes its check -/
def textOf (fields : List (Str × FieldSpec)) (creating : Bool) (entry : Str × Json) : Option Str :=
  match checkedText fields creating entry with
  | .ok text => text
  | .error _ => none

/-- The object with the texts of all supplied values -/
def storedValues (fields : List (Str × FieldSpec)) (creating : Bool) (supplied : List (Str × Json))
    (data : List (Str × Json)) : List (Str × Json) :=
  supplied.foldl (fun data entry => storeText data entry (textOf fields creating entry)) data

/-- All supplied values are of the form, and pass their checks. -/
def Accepted (fields : List (Str × FieldSpec)) (creating : Bool) (supplied : List (Str × Json)) :
    Prop :=
  ∀ entry ∈ supplied, ∃ text, checkedText fields creating entry = .ok text

/-- No required field of the form is missing in the object. -/
def Filled (fields : List (Str × FieldSpec)) (creating : Bool) (data : List (Str × Json)) : Prop :=
  ∀ entry ∈ fields, checkRequired (.obj data) creating entry.1 entry.2 = .ok ()

/-- Every supplied name is a field of the form. -/
def Known (fields : List (Str × FieldSpec)) (supplied : List (Str × Json)) : Prop :=
  ∀ entry ∈ supplied, (field fields entry.1).isSome = true

theorem foldlM_accepted (accepted : Accepted fields creating supplied) :
    supplied.foldlM (checkedStep (checkedText fields creating) storeText) data =
      .ok (storedValues fields creating supplied data) := by
  induction supplied generalizing data with
  | nil => rfl
  | cons entry rest ih =>
      rcases accepted entry List.mem_cons_self with ⟨text, passed⟩
      have step : checkedStep (checkedText fields creating) storeText data entry =
          .ok (storeText data entry (textOf fields creating entry)) := by
        rw [checkedStep, textOf, passed]
        rfl
      rw [List.foldlM_cons, step]
      exact ih fun later member => accepted later (List.mem_cons_of_mem _ member)

theorem Accepted.known (accepted : Accepted fields creating supplied) : Known fields supplied := by
  intro entry member
  rcases accepted entry member with ⟨text, passed⟩
  unfold checkedText at passed
  cases found : field fields entry.1 with
  | none =>
      rw [found] at passed
      cases passed
  | some item => rfl

omit [Runtime] in
theorem checkRequired_managed {name : Str} {item : FieldSpec} {error : Exn}
    (missing : checkRequired (.obj data) creating name item = .error error) :
    isManagement error = true := by
  unfold checkRequired at missing
  split at missing
  · rw [get_place] at missing
    change raiseIf _ _ = _ at missing
    rw [raiseIf_eq_error] at missing
    rw [missing.2]
    rfl
  · cases missing

omit [Runtime] in
theorem forM_error {α : Type} {items : List α} {check : α → Except Exn Unit} {error : Exn}
    (failed : items.forM check = .error error) : ∃ item ∈ items, check item = .error error := by
  induction items with
  | nil => cases failed
  | cons head rest ih =>
      change (check head >>= fun _ => rest.forM check) = .error error at failed
      rcases bind_eq_error.mp failed with failed | ⟨_, _, failed⟩
      · exact ⟨head, List.mem_cons_self, failed⟩
      · rcases ih failed with ⟨item, member, failed⟩
        exact ⟨item, List.mem_cons_of_mem _ member, failed⟩

/-- How `_values` ends, if it is given two objects -/
inductive ValuesEnd (spec : Spec) (creating : Bool) (supplied current : List (Str × Json)) :
    Except Exn Json → Prop
  | unknown {error : Exn} (unknown : ¬ Known (fieldMap spec) supplied)
      (managed : isManagement error = true) : ValuesEnd spec creating supplied current (.error error)
  | refused {error : Exn} {entry : Str × Json} (known : Known (fieldMap spec) supplied)
      (reached : Reached (checkedText (fieldMap spec) creating) supplied entry)
      (failed : checkedText (fieldMap spec) creating entry = .error error) :
      ValuesEnd spec creating supplied current (.error error)
  | missing {error : Exn} (accepted : Accepted (fieldMap spec) creating supplied)
      (unfilled : ¬ Filled (fieldMap spec) creating
        (storedValues (fieldMap spec) creating supplied (editable spec current creating)))
      (managed : isManagement error = true) : ValuesEnd spec creating supplied current (.error error)
  | returned (accepted : Accepted (fieldMap spec) creating supplied)
      (filled : Filled (fieldMap spec) creating
        (storedValues (fieldMap spec) creating supplied (editable spec current creating))) :
      ValuesEnd spec creating supplied current
        (.ok (.obj (storedValues (fieldMap spec) creating supplied
          (editable spec current creating))))

theorem values_end {spec : Spec} {supplied current : List (Str × Json)} :
    ValuesEnd spec creating supplied current
      (values spec (.obj supplied) (.obj current) creating) := by
  cases unknown : supplied.any fun entry => (field (fieldMap spec) entry.1).isNone with
  | true =>
      have refused : values spec (.obj supplied) (.obj current) creating =
          .error (badRequest "Hay campos no permitidos.") := by
        simp only [values, unknown]
        rfl
      rw [refused]
      refine .unknown (fun known => ?_) rfl
      rcases List.any_eq_true.mp unknown with ⟨entry, member, absent⟩
      have present := known entry member
      rw [Option.isNone_iff_eq_none.mp absent] at present
      cases present
  | false =>
      have known : Known (fieldMap spec) supplied := by
        intro entry member
        have present := List.any_eq_false.mp unknown entry member
        simpa [Option.isSome_iff_ne_none] using present
      have shape : values spec (.obj supplied) (.obj current) creating =
          (editableValues (fieldMap spec) (.obj current) creating >>= fun initial =>
            supplied.foldlM (fun merged (name, value) =>
              storeValue (fieldMap spec) creating merged name value) initial >>= fun merged =>
            (fieldMap spec).forM (fun entry => checkRequired merged creating entry.1 entry.2)
              >>= fun _ => pure merged) := by
        unfold values editableValues
        dsimp only
        rw [unknown]
        cases initialValues (fieldMap spec) (.obj current) creating <;> rfl
      rw [shape, editableValues_eq]
      change ValuesEnd _ _ _ _ (supplied.foldlM _ (Json.obj _) >>= _)
      rw [foldlM_storeValue]
      by_cases accepted : Accepted (fieldMap spec) creating supplied
      · rw [foldlM_accepted accepted]
        generalize same : storedValues (fieldMap spec) creating supplied
          (editable spec current creating) = data
        change ValuesEnd _ _ _ _ ((fieldMap spec).forM
          (fun entry => checkRequired (.obj data) creating entry.1 entry.2) >>= fun _ => pure (.obj data))
        cases required : (fieldMap spec).forM
            (fun entry => checkRequired (.obj data) creating entry.1 entry.2) with
        | error error =>
            rcases forM_error required with ⟨entry, member, failed⟩
            refine .missing accepted (fun filled => ?_) (checkRequired_managed failed)
            rw [same] at filled
            rw [filled entry member] at failed
            cases failed
        | ok =>
            have filled : Filled (fieldMap spec) creating data := forM_ok.mp required
            subst same
            exact .returned accepted filled
      · cases checked : supplied.foldlM (checkedStep (checkedText (fieldMap spec) creating) storeText)
            (editable spec current creating) with
        | error error =>
            rcases foldlM_error_iff.mp checked with ⟨entry, reached, failed⟩
            exact .refused known reached failed
        | ok result => exact absurd (foldlM_ok_iff.mp ⟨result, checked⟩) accepted

end

/-! ## Values of their kind -/

section

variable [Runtime]

/-- The bounds of a field, where it has any -/
def InRange (item : FieldSpec) (text : Str) : Prop :=
  (∀ low ∈ item.min, low ≤ literalValue text) ∧ ∀ high ∈ item.max, literalValue text ≤ high

/-- The options of a field offer the text; a selection of several is a list of options. -/
def Offered (item : FieldSpec) (text : Str) : Prop :=
  if item.multiple then text = [] ∨ ∀ choice ∈ splitOn (code ',') text, choice ∈ item.options.map Json.text
  else text ∈ item.options.map Json.text

/-- What is stored in a field is of the kind of the field. -/
structure Fits (item : FieldSpec) (stored : Json) : Prop where
  number : isNumber item = true → ∃ text, stored = .str text ∧ IsIntegerLiteral text ∧ InRange item text
  boolean : isBoolean item = true → stored = .str "0" ∨ stored = .str "1"
  option : item.options ≠ [] → ∃ text, stored = .str text ∧ Offered item text
  limited : ∀ text, stored = .str text → text.length ≤ 65536 ∧ 0 ∉ text

/-- `_values` refuses the values with a `ManagementError`, or returns an object in which each
supplied value that is not blank fits its field. -/
def ValidOutcome (fields : List (Str × FieldSpec)) (supplied : List (Str × Json)) :
    Except Exn Json → Prop
  | .error error => isManagement error = true
  | .ok (.obj data) => ∀ name value item, (name, value) ∈ supplied → isBlank value = false →
      field fields name = some item → ∃ stored, get (.obj data) name = .ok stored ∧ Fits item stored
  | .ok _ => False

/-- A number in a bounded field that passes the test of its digits, and that `int` does not read -/
structure Unreadable (item : FieldSpec) (value : Json) : Prop where
  number : item.multiple = false ∧ isBoolean item = false ∧ isNumber item = true
  editable : item.readonly = false
  bounded : item.min.isSome = true ∨ item.max.isSome = true
  written : isBool value = false
  digits : isDigit (value.text.dropWhile (· = code '-')) = true
  unread : parseInt 10 value.text = none

/-- What the checks of an accepted text leave open -/
structure WellWritten (item : FieldSpec) (text : Str) : Prop where
  number : isNumber item = true → IsIntegerLiteral text ∧ text.length ≤ 65536
  several : item.multiple = true → (isNumber item = true → InRange item text) ∧
    (isBoolean item = true → text = "0" ∨ text = "1")

/-- The field is more than a text. -/
def Typed (item : FieldSpec) : Prop :=
  isNumber item = true ∨ isBoolean item = true ∨ item.options ≠ []

variable {item : FieldSpec} {value : Json} {text : Str} {error : Exn}

omit [Runtime] in
theorem number_not_boolean (number : isNumber item = true) : isBoolean item = false := by
  simp only [isNumber, Bool.or_eq_true, decide_eq_true_eq] at number
  rcases number with same | same
  all_goals
    rw [isBoolean, same]
    decide

omit [Runtime] in
theorem limitedText_ok {detail : Str} (passed : limitedText detail value = .ok text) :
    value = .str text ∧ text.length ≤ 65536 ∧ 0 ∉ text := by
  cases value with
  | str found =>
      simp only [limitedText, bind_eq_ok, raiseIf_eq_ok, pure_eq_ok, Bool.or_eq_false_iff,
        decide_eq_false_iff_not, Nat.not_lt] at passed
      rcases passed with ⟨_, limits, rfl⟩
      exact ⟨rfl, limits⟩
  | _ => cases passed

omit [Runtime] in
theorem limitedText_error {detail : Str} (failed : limitedText detail value = .error error) :
    isManagement error = true := by
  cases value with
  | str found =>
      rcases bind_eq_error.mp failed with failed | ⟨_, _, impossible⟩
      · rw [raiseIf_eq_error] at failed
        rw [failed.2]
        rfl
      · cases impossible
  | _ =>
      cases failed
      rfl

omit [Runtime] in
theorem booleanText_ok (passed : booleanText value = .ok text) : text = "0" ∨ text = "1" := by
  cases value with
  | bool truth =>
      cases passed
      cases truth
      · exact .inl rfl
      · exact .inr rfl
  | _ => cases passed

omit [Runtime] in
theorem violates_ok {bound : Option Int} {bad : Int → Int → Bool} {answer : Bool}
    (passed : violates bound bad text = .ok answer) : ∀ limit ∈ bound, ∃ number,
      parseInt 10 text = some number ∧ answer = bad number limit := by
  intro limit bounded
  cases bounded
  simp only [violates, bind_eq_ok, pure_eq_ok] at passed
  rcases passed with ⟨number, read, rfl⟩
  refine ⟨number, ?_, rfl⟩
  rw [Json.toInt] at read
  split at read
  · rename_i found
    cases read
    exact found
  · cases read

omit [Runtime] in
theorem violates_error {bound : Option Int} {bad : Int → Int → Bool} :
    violates bound bad text = .error error ↔ bound.isSome = true ∧ parseInt 10 text = none ∧
      error = .builtin .valueError "invalid literal for int()" := by
  cases bound with
  | none => simp [violates]
  | some limit =>
      rw [violates, bind_eq_error, Json.toInt]
      cases parseInt 10 text with
      | none => simp [eq_comm]
      | some number => simp

/-- What an accepted number satisfies -/
theorem numberText_ok (passed : numberText item value = .ok text) :
    text = value.text ∧ isDigit (text.dropWhile (· = code '-')) = true ∧
      (IsIntegerLiteral text → InRange item text) := by
  simp only [numberText, bind_eq_ok, raiseIf_eq_ok, pure_eq_ok, Bool.or_eq_false_iff,
    Bool.not_eq_false'] at passed
  rcases passed with ⟨_, ⟨_, digits⟩, low, notLow, _, rfl, high, notHigh, _, rfl, rfl⟩
  refine ⟨rfl, digits, fun literal => ⟨?_, ?_⟩⟩
  · intro limit bounded
    rcases violates_ok notLow limit bounded with ⟨number, read, same⟩
    rw [← parseInt_literal literal read]
    simpa using same
  · intro limit bounded
    rcases violates_ok notHigh limit bounded with ⟨number, read, same⟩
    rw [← parseInt_literal literal read]
    simpa using same

/-- How the check of a number fails -/
theorem numberText_error (failed : numberText item value = .error error) :
    isManagement error = true ∨ error = .builtin .valueError "invalid literal for int()" ∧
      isBool value = false ∧ isDigit (value.text.dropWhile (· = code '-')) = true ∧
      (item.min.isSome = true ∨ item.max.isSome = true) ∧ parseInt 10 value.text = none := by
  have managed : ∀ {condition : Bool} {detail : Str},
      raiseIf condition (badRequest detail) = .error error → isManagement error = true := by
    intro condition detail raised
    rw [raiseIf_eq_error] at raised
    rw [raised.2]
    rfl
  rcases bind_eq_error.mp failed with failed | ⟨_, tested, failed⟩
  · exact .inl (managed failed)
  simp only [raiseIf_eq_ok, Bool.or_eq_false_iff, Bool.not_eq_false'] at tested
  rcases bind_eq_error.mp failed with failed | ⟨_, _, failed⟩
  · rcases violates_error.mp failed with ⟨bounded, unread, rfl⟩
    exact .inr ⟨rfl, tested.1, tested.2, .inl bounded, unread⟩
  rcases bind_eq_error.mp failed with failed | ⟨_, _, failed⟩
  · exact .inl (managed failed)
  rcases bind_eq_error.mp failed with failed | ⟨_, _, failed⟩
  · rcases violates_error.mp failed with ⟨bounded, unread, rfl⟩
    exact .inr ⟨rfl, tested.1, tested.2, .inr bounded, unread⟩
  rcases bind_eq_error.mp failed with failed | ⟨_, _, impossible⟩
  · exact .inl (managed failed)
  · cases impossible

theorem numberText_unread (written : isBool value = false)
    (digits : isDigit (value.text.dropWhile (· = code '-')) = true)
    (bounded : item.min.isSome = true ∨ item.max.isSome = true)
    (unread : parseInt 10 value.text = none) :
    numberText item value = .error (.builtin .valueError "invalid literal for int()") := by
  have raises : ∀ {bound : Option Int} {bad : Int → Int → Bool}, bound.isSome = true →
      violates bound bad value.text = .error (.builtin .valueError "invalid literal for int()") :=
    fun bounded => violates_error.mpr ⟨bounded, unread, rfl⟩
  simp only [numberText, written, digits, Bool.not_true, Bool.or_false]
  change violates _ _ _ >>= _ = _
  cases low : item.min with
  | some limit =>
      rw [raises rfl]
      rfl
  | none =>
      rw [low] at bounded
      have high : item.max.isSome = true := bounded.resolve_left (by simp)
      change violates _ _ _ >>= _ = _
      rw [raises high]
      rfl

omit [Runtime] in
theorem isDigit_some (digits : isDigit (text.dropWhile (· = code '-')) = true) : text ≠ [] := by
  rintro rfl
  cases digits

end

/-! ## The checks of a value, and its kind -/

section

variable [Runtime] {fields : List (Str × FieldSpec)} {creating : Bool} {item : FieldSpec}
  {name text : Str} {value : Json} {error : Exn}

omit [Runtime] in
theorem isBlank_of_digits [Runtime]
    (digits : isDigit (value.text.dropWhile (· = code '-')) = true) : isBlank value = false := by
  cases value with
  | null =>
      have none : isDigit (("None" : Str).dropWhile (· = code '-')) = false := by decide
      exact absurd (none.symm.trans digits) (by simp)
  | str text =>
      cases text with
      | nil => cases digits
      | cons => rfl
  | _ => rfl

omit [Runtime] in
theorem not_isText_of_not_blank (filled : isBlank value = false) : value.isText [] = false := by
  cases value with
  | str text =>
      cases text with
      | nil => cases filled
      | cons => simp [Json.isText]
  | _ => rfl

/-- The check of a value that is not blank -/
theorem checkedText_filled (found : field fields name = some item) (filled : isBlank value = false) :
    checkedText fields creating (name, value) =
      if item.readonly then .error (badRequest "Un campo de solo lectura no admite cambios.")
      else valueText item value >>= fun text => checkOptions item text >>= fun _ =>
        pure (some text) := by
  simp only [checkedText, found, filled, not_isText_of_not_blank filled, Bool.and_false,
    Bool.false_and, Bool.false_eq_true, if_false]

theorem checkOptions_managed (refused : checkOptions item text = .error error) :
    isManagement error = true := by
  unfold checkOptions at refused
  split at refused
  · cases refused
  · rw [raiseIf_eq_error] at refused
    rw [refused.2]
    rfl

/-- How the check of a value fails -/
theorem valueText_error (failed : valueText item value = .error error) :
    isManagement error = true ∨ error = .builtin .valueError "invalid literal for int()" ∧
      (item.readonly = false → Unreadable item value) := by
  unfold valueText at failed
  split at failed
  · exact .inl (limitedText_error failed)
  · rename_i single
    split at failed
    · left
      cases value with
      | bool => cases failed
      | _ =>
          cases failed
          rfl
    · rename_i other
      split at failed
      · rename_i number
        rcases numberText_error failed with managed | ⟨same, written, digits, bounded, unread⟩
        · exact .inl managed
        · refine .inr ⟨same, fun editable => ⟨⟨?_, ?_, number⟩, editable, bounded, written, digits, unread⟩⟩
          · simpa using single
          · simpa using other
      · exact .inl (limitedText_error failed)

theorem checkedText_error (found : field fields name = some item)
    (failed : checkedText fields creating (name, value) = .error error) :
    isManagement error = true ∨ Unreadable item value := by
  unfold checkedText at failed
  simp only [found] at failed
  split at failed
  · cases failed
  · split at failed
    · cases failed
      exact .inl rfl
    · rename_i editable
      split at failed
      · cases failed
      · split at failed
        · cases failed
        · rcases bind_eq_error.mp failed with failed | ⟨text, _, failed⟩
          · rcases valueText_error failed with managed | ⟨_, unread⟩
            · exact .inl managed
            · exact .inr (unread (by simpa using editable))
          · rcases bind_eq_error.mp failed with failed | ⟨_, _, impossible⟩
            · exact .inl (checkOptions_managed failed)
            · cases impossible

theorem checkedText_unread (found : field fields name = some item)
    (unread : Unreadable item value) : checkedText fields creating (name, value) =
      .error (.builtin .valueError "invalid literal for int()") := by
  rw [checkedText_filled found (isBlank_of_digits unread.digits), unread.editable]
  have raises : valueText item value = .error (.builtin .valueError "invalid literal for int()") := by
    simp only [valueText, unread.number.1, unread.number.2.1, unread.number.2.2,
      Bool.false_eq_true, if_false, if_true]
    exact numberText_unread unread.written unread.digits unread.bounded unread.unread
  rw [raises]
  rfl

omit [Runtime] in
theorem zero_not_literal (literal : IsIntegerLiteral text) : 0 ∉ text := by
  rcases literal with ⟨digits, shape, _, proper⟩
  have none : 0 ∉ digits := fun member => absurd (proper 0 member) (by decide)
  rcases shape with rfl | rfl
  · exact none
  · intro member
    rcases List.mem_cons.mp member with same | member
    · exact absurd same (by decide)
    · exact none member

/-- What an accepted text satisfies by the branch of its check -/
inductive TextOf (item : FieldSpec) (value : Json) (text : Str) : Prop
  | several (multiple : item.multiple = true) (limited : text.length ≤ 65536 ∧ 0 ∉ text)
  | boolean (single : item.multiple = false) (kind : isBoolean item = true)
      (truth : text = "0" ∨ text = "1")
  | number (single : item.multiple = false) (kind : isNumber item = true) (some : text ≠ [])
      (range : IsIntegerLiteral text → InRange item text)
  | plain (single : item.multiple = false) (other : isNumber item = false ∧ isBoolean item = false)
      (same : value = .str text) (limited : text.length ≤ 65536 ∧ 0 ∉ text)

theorem valueText_ok (passed : valueText item value = .ok text) : TextOf item value text := by
  unfold valueText at passed
  split at passed
  · rename_i multiple
    exact .several multiple (limitedText_ok passed).2
  · rename_i single
    have single : item.multiple = false := by simpa using single
    split at passed
    · rename_i boolean
      exact .boolean single boolean (booleanText_ok passed)
    · rename_i other
      split at passed
      · rename_i number
        rcases numberText_ok passed with ⟨_, digits, range⟩
        exact .number single number (isDigit_some digits) range
      · rename_i plain
        rcases limitedText_ok passed with ⟨same, limited⟩
        exact .plain single ⟨by simpa using plain, by simpa using other⟩ same limited

theorem checkOptions_ok (options : item.options ≠ []) (passed : checkOptions item text = .ok ())
    (some : item.multiple = false → text ≠ []) : Offered item text := by
  unfold checkOptions at passed
  cases multiple : item.multiple with
  | true =>
      rw [Offered, if_pos multiple]
      split at passed
      · rename_i empty
        exact .inl (by simpa [options] using empty)
      · right
        simpa [multiple, raiseIf_eq_ok] using passed
  | false =>
      rw [Offered, if_neg (by simp [multiple])]
      split at passed
      · rename_i empty
        exact absurd (by simpa [options] using empty) (some multiple)
      · simpa [multiple, raiseIf_eq_ok] using passed

/-- An accepted text fits its field exactly if it is proper. -/
theorem fits_iff (filled : isBlank value = false) (valued : valueText item value = .ok text)
    (offered : checkOptions item text = .ok ()) : Fits item (.str text) ↔ WellWritten item text := by
  have branch := valueText_ok valued
  constructor
  · intro fits
    have literal : isNumber item = true → IsIntegerLiteral text ∧ InRange item text := by
      intro number
      rcases fits.number number with ⟨found, same, literal⟩
      cases same
      exact literal
    refine ⟨fun number => ⟨(literal number).1, (fits.limited text rfl).1⟩, fun _ => ?_⟩
    refine ⟨fun number => (literal number).2, fun boolean => ?_⟩
    simpa using fits.boolean boolean
  · intro proper
    refine ⟨fun number => ⟨text, rfl, (proper.number number).1, ?_⟩, fun boolean => ?_,
      fun options => ⟨text, rfl, checkOptions_ok options offered fun single => ?_⟩, ?_⟩
    · cases branch with
      | several multiple => exact (proper.several multiple).1 number
      | boolean _ kind =>
          rw [number_not_boolean number] at kind
          cases kind
      | number _ _ _ range => exact range (proper.number number).1
      | plain _ other =>
          rw [number] at other
          cases other.1
    · have truth : text = "0" ∨ text = "1" := by
        cases branch with
        | several multiple => exact (proper.several multiple).2 boolean
        | boolean _ _ truth => exact truth
        | number _ kind =>
            rw [number_not_boolean kind] at boolean
            cases boolean
        | plain _ other =>
            rw [boolean] at other
            cases other.2
      simpa using truth
    · cases branch with
      | several multiple =>
          rw [single] at multiple
          cases multiple
      | boolean _ _ truth => rcases truth with rfl | rfl <;> decide
      | number _ _ some => exact some
      | plain _ _ same =>
          rintro rfl
          rw [same] at filled
          cases filled
    · intro found same
      cases same
      cases branch with
      | several _ limited => exact limited
      | boolean _ _ truth => rcases truth with rfl | rfl <;> decide
      | number _ kind => exact ⟨(proper.number kind).2, zero_not_literal (proper.number kind).1⟩
      | plain _ _ _ limited => exact limited

end

/-! ## The loop -/

/-- One of the places leads to the other. -/
def Meet (path target : List Str) : Prop := path <+: target ∨ target <+: path

section

variable {data : List (Str × Json)} {name : Str} {path : List Str} {entry : Str × Json}

theorem place_storeText {text : Option Str} :
    place (storeText data entry text) name = place data name := by
  cases text with
  | none => rfl
  | some text => exact place_put

theorem lookupPath_storeText {text : Option Str} (apart : ¬ Meet path (place data entry.1)) :
    lookupPath path (.obj (storeText data entry text)) = lookupPath path (.obj data) := by
  cases text with
  | none => rfl
  | some text =>
      exact lookupPath_putPath (fun above => apart (.inr above)) fun below => apart (.inl below)

/-- The place holds no text. -/
def Textless (path : List Str) (data : List (Str × Json)) : Prop :=
  ∀ text, lookupPath path (.obj data) ≠ some (.str text)

/-- A text that is stored above or below a place leaves no text there. -/
theorem textless_storeText {text : Str} (some : path ≠ []) (different : place data entry.1 ≠ path)
    (meet : Meet path (place data entry.1)) : Textless path (storeText data entry (.some text)) := by
  intro found same
  rcases meet with ⟨rest, below⟩ | ⟨rest, above⟩
  · cases rest with
    | nil => exact different (by simpa using below.symm)
    | cons part rest =>
        rw [storeText, ← below] at same
        rcases @lookupPath_putPath_above data path (.str text) part rest some with ⟨inner, object⟩
        rw [object] at same
        cases same
  · cases rest with
    | nil => exact different (by simpa using above)
    | cons part rest =>
        have nothing := @lookupPath_putPath_below data (place data entry.1) text part rest place_ne_nil
        rw [above] at nothing
        rw [storeText, nothing] at same
        cases same

variable [Runtime] {fields : List (Str × FieldSpec)} {creating : Bool} {after : List (Str × Json)}

theorem storedValues_cons : storedValues fields creating (entry :: after) data =
    storedValues fields creating after (storeText data entry (textOf fields creating entry)) :=
  rfl

theorem place_storedValues :
    place (storedValues fields creating after data) name = place data name := by
  induction after generalizing data with
  | nil => rfl
  | cons entry rest ih => exact Eq.trans ih place_storeText

/-- No later text is stored above or below the place. -/
def Untouched (fields : List (Str × FieldSpec)) (creating : Bool) (data after : List (Str × Json))
    (path : List Str) : Prop :=
  ∀ later ∈ after, (textOf fields creating later).isSome = true → ¬ Meet path (place data later.1)

theorem untouched_cons : Untouched fields creating data (entry :: after) path ↔
    ((textOf fields creating entry).isSome = true → ¬ Meet path (place data entry.1)) ∧
      Untouched fields creating (storeText data entry (textOf fields creating entry)) after path := by
  simp only [Untouched, List.forall_mem_cons, place_storeText]

theorem lookupPath_untouched (untouched : Untouched fields creating data after path) :
    lookupPath path (.obj (storedValues fields creating after data)) =
      lookupPath path (.obj data) := by
  induction after generalizing data with
  | nil => rfl
  | cons entry rest ih =>
      rw [untouched_cons] at untouched
      refine (ih untouched.2).trans ?_
      cases stored : textOf fields creating entry with
      | none => rfl
      | some text => exact lookupPath_storeText (untouched.1 (by simp [stored]))

theorem textless_storedValues (some : path ≠ [])
    (different : ∀ later ∈ after, place data later.1 ≠ path) (textless : Textless path data) :
    Textless path (storedValues fields creating after data) := by
  induction after generalizing data with
  | nil => exact textless
  | cons entry rest ih =>
      rw [List.forall_mem_cons] at different
      rw [storedValues_cons]
      apply ih
      · intro later member
        rw [place_storeText]
        exact different.2 later member
      · by_cases meet : Meet path (place data entry.1)
        · cases stored : textOf fields creating entry with
          | none => exact textless
          | some text => exact textless_storeText some different.1 meet
        · intro text
          rw [lookupPath_storeText meet]
          exact textless text

theorem textless_touched (some : path ≠ [])
    (different : ∀ later ∈ after, place data later.1 ≠ path)
    (touched : ¬ Untouched fields creating data after path) :
    Textless path (storedValues fields creating after data) := by
  induction after generalizing data with
  | nil => exact absurd (fun later member => nomatch member) touched
  | cons entry rest ih =>
      rw [List.forall_mem_cons] at different
      have apart : ∀ later ∈ rest,
          place (storeText data entry (textOf fields creating entry)) later.1 ≠ path := by
        intro later member
        rw [place_storeText]
        exact different.2 later member
      by_cases first : (textOf fields creating entry).isSome = true → ¬ Meet path (place data entry.1)
      · exact ih apart fun untouched => touched (untouched_cons.mpr ⟨first, untouched⟩)
      · rw [Classical.not_imp, not_not] at first
        rcases Option.isSome_iff_exists.mp first.1 with ⟨text, stored⟩
        rw [storedValues_cons]
        refine textless_storedValues some apart ?_
        rw [stored]
        exact textless_storeText some different.1 first.2

end

section

variable [Runtime] {spec : Spec} {creating : Bool} {supplied current : List (Str × Json)}

/-- No value that the loop comes to is a number that `int` does not read. If all values are
accepted and no required field is missing, each text is a proper one for its field, and no later
value is stored above or below the place of a field that is more than a text. -/
structure ProperValues (spec : Spec) (creating : Bool) (supplied current : List (Str × Json)) : Prop where
  readable : Known (fieldMap spec) supplied → ∀ entry item,
    Reached (checkedText (fieldMap spec) creating) supplied entry →
      field (fieldMap spec) entry.1 = some item → ¬ Unreadable item entry.2
  proper : Accepted (fieldMap spec) creating supplied →
    Filled (fieldMap spec) creating
      (storedValues (fieldMap spec) creating supplied (editable spec current creating)) →
    ∀ before name value after item text, supplied = before ++ (name, value) :: after →
      isBlank value = false → field (fieldMap spec) name = some item →
      checkedText (fieldMap spec) creating (name, value) = .ok (some text) →
      WellWritten item text ∧ (Typed item → Untouched (fieldMap spec) creating
        (editable spec current creating) after (place (editable spec current creating) name))

theorem checkedText_stored {fields : List (Str × FieldSpec)} {item : FieldSpec} {name : Str}
    {value : Json} {stored : Option Str} (found : field fields name = some item)
    (filled : isBlank value = false)
    (passed : checkedText fields creating (name, value) = .ok stored) :
    ∃ text, stored = some text ∧ valueText item value = .ok text ∧
      checkOptions item text = .ok () := by
  rw [checkedText_filled found filled] at passed
  split at passed
  · cases passed
  · simp only [bind_eq_ok, pure_eq_ok] at passed
    rcases passed with ⟨text, valued, _, offered, rfl⟩
    exact ⟨text, rfl, valued, offered⟩

/-- What the returned object has at the place of an accepted value -/
theorem fits_stored_iff {fields : List (Str × FieldSpec)} {data before after : List (Str × Json)}
    {item : FieldSpec} {name text : Str} {value : Json}
    (distinct : ((before ++ (name, value) :: after).map Prod.fst).Nodup)
    (found : field fields name = some item) (filled : isBlank value = false)
    (passed : checkedText fields creating (name, value) = .ok (some text)) :
    (∃ stored, get (.obj (storedValues fields creating (before ++ (name, value) :: after) data)) name =
        .ok stored ∧ Fits item stored) ↔
      WellWritten item text ∧ (Typed item → Untouched fields creating data after (place data name)) := by
  rcases checkedText_stored found filled passed with ⟨_, same, valued, offered⟩
  cases same
  have fits := fits_iff filled valued offered
  have now : textOf fields creating (name, value) = some text := by rw [textOf, passed]
  generalize earlier : storedValues fields creating before data = middle
  have whole : storedValues fields creating (before ++ (name, value) :: after) data =
      storedValues fields creating after (putPath (.str text) (place middle name) middle) := by
    rw [← earlier, storedValues, List.foldl_append, List.foldl_cons, now]
    rfl
  have known : ∀ other, place (putPath (.str text) (place middle name) middle) other =
      place data other := by
    intro other
    rw [place_put, ← earlier, place_storedValues]
  have stable : Untouched fields creating (putPath (.str text) (place middle name) middle) after
      (place data name) ↔ Untouched fields creating data after (place data name) := by
    simp only [Untouched, known]
  have different : ∀ later ∈ after,
      place (putPath (.str text) (place middle name) middle) later.1 ≠ place data name := by
    intro later member same
    rw [known] at same
    rw [List.map_append, List.map_cons, List.nodup_append] at distinct
    have absent := (List.nodup_cons.mp distinct.2.1).1
    rw [← place_inj same] at absent
    exact absent (List.mem_map.mpr ⟨later, member, rfl⟩)
  have written : lookupPath (place data name)
      (.obj (putPath (.str text) (place middle name) middle)) = some (.str text) := by
    rw [← known name, place_put]
    exact lookupPath_putPath_self place_ne_nil
  rw [whole, get_place, place_storedValues, known]
  by_cases untouched : Untouched fields creating data after (place data name)
  · rw [lookupPath_untouched (stable.mpr untouched), written]
    simp [fits, untouched]
  · have textless := textless_touched place_ne_nil different fun same => untouched (stable.mp same)
    unfold Textless at textless
    generalize lookupPath (place data name) _ = found at textless
    have noText : ∀ text, found.getD .null ≠ .str text := by
      intro text same
      cases found with
      | none => cases same
      | some stored => exact textless text (congrArg some same)
    constructor
    · rintro ⟨_, same, fitting⟩
      cases same
      have untyped : ¬ Typed item := by
        rintro (number | boolean | options)
        · rcases fitting.number number with ⟨text, same, _⟩
          exact noText text same
        · rcases fitting.boolean boolean with same | same
          · exact noText _ same
          · exact noText _ same
        · rcases fitting.option options with ⟨text, same, _⟩
          exact noText text same
      refine ⟨⟨fun number => absurd (.inl number) untyped, fun _ => ⟨fun number => ?_, fun boolean => ?_⟩⟩,
        fun typed => absurd typed untyped⟩
      · exact absurd (.inl number) untyped
      · exact absurd (.inr (.inl boolean)) untyped
    · rintro ⟨_, untyped⟩
      refine ⟨_, rfl, fun number => ?_, fun boolean => ?_, fun options => ?_,
        fun text same => absurd same (noText text)⟩
      · exact absurd (untyped (.inl number)) untouched
      · exact absurd (untyped (.inr (.inl boolean))) untouched
      · exact absurd (untyped (.inr (.inr options))) untouched

/-- `_values` does what it is for exactly if the values are read and written properly. -/
theorem values_valid_iff (distinct : (supplied.map Prod.fst).Nodup) :
    ValidOutcome (fieldMap spec) supplied (values spec (.obj supplied) (.obj current) creating) ↔
      ProperValues spec creating supplied current := by
  have run := @values_end _ creating spec supplied current
  generalize values spec (.obj supplied) (.obj current) creating = outcome at run
  cases run with
  | unknown unknown managed =>
      refine iff_of_true managed ⟨fun known => absurd known unknown, fun accepted => ?_⟩
      exact absurd accepted.known unknown
  | @refused error entry known reached failed =>
      have unaccepted : ¬ Accepted (fieldMap spec) creating supplied := by
        intro accepted
        rcases accepted entry reached.mem with ⟨_, passed⟩
        rw [passed] at failed
        cases failed
      constructor
      · intro managed
        refine ⟨fun _ other item comes found unread => ?_, fun accepted => absurd accepted unaccepted⟩
        rw [reached.error_unique failed comes (checkedText_unread found unread)] at managed
        cases managed
      · intro proper
        rcases Option.isSome_iff_exists.mp (known entry reached.mem) with ⟨item, found⟩
        rcases checkedText_error found failed with managed | unread
        · exact managed
        · exact absurd unread (proper.readable known entry item reached found)
  | missing accepted unfilled managed =>
      refine iff_of_true managed ⟨fun _ entry item comes found unread => ?_,
        fun _ filled => absurd filled unfilled⟩
      rcases accepted entry comes.mem with ⟨_, passed⟩
      rw [checkedText_unread found unread] at passed
      cases passed
  | returned accepted filled =>
      constructor
      · intro valid
        refine ⟨fun _ entry item comes found unread => ?_, fun _ _ => ?_⟩
        · rcases accepted entry comes.mem with ⟨_, passed⟩
          rw [checkedText_unread found unread] at passed
          cases passed
        · rintro before name value after item text rfl nonblank found passed
          exact (fits_stored_iff distinct found nonblank passed).mp
            (valid name value item (by simp) nonblank found)
      · rintro proper name value item member nonblank found
        rcases List.append_of_mem member with ⟨before, after, rfl⟩
        rcases accepted (name, value) member with ⟨stored, passed⟩
        rcases checkedText_stored found nonblank passed with ⟨text, rfl, _⟩
        exact (fits_stored_iff distinct found nonblank passed).mpr
          (proper.proper accepted filled before name value after item text rfl nonblank found passed)

end

/-! ### Ports and sizes -/

/-- Two numbers of a tunnel, the first without bounds -/
def tunnelFields : List FieldSpec :=
  [{ name := "port", kind := "integer" },
    { name := "mtu", kind := "integer", min := some 1, max := some 9300 }]

def tunnelSpec : Spec where
  id := "wireguard_servers"
  base := "wireguard/server"
  key := "server"
  search := none
  get := none
  add := none
  set := none
  delete := none
  fields := tunnelFields
  apply := .absent

theorem values_valid_iff_port :
    @ValidOutcome Runtime.ascii (fieldMap tunnelSpec) [("port", .int 51820)]
        (@values Runtime.ascii tunnelSpec (.obj [("port", .int 51820)]) (.obj []) false) ↔
      @ProperValues Runtime.ascii tunnelSpec false [("port", .int 51820)] [] :=
  @values_valid_iff Runtime.ascii tunnelSpec false [("port", .int 51820)] [] (by decide)

/-- A text with two signs is stored as a number, and a superscript digit raises a `ValueError`. -/
theorem values_accepts_signs :
    ¬ @ValidOutcome Runtime.ascii (fieldMap tunnelSpec) [("port", .str "--5")]
        (@values Runtime.ascii tunnelSpec (.obj [("port", .str "--5")]) (.obj []) false) ∧
      ¬ @ValidOutcome Runtime.ascii (fieldMap tunnelSpec) [("mtu", .str "²")]
        (@values Runtime.ascii tunnelSpec (.obj [("mtu", .str "²")]) (.obj []) false) := by
  have stored : @values Runtime.ascii tunnelSpec (.obj [("port", .str "--5")]) (.obj []) false =
      .ok (.obj [("port", .str "--5")]) := by rfl
  have raised : @values Runtime.ascii tunnelSpec (.obj [("mtu", .str "²")]) (.obj []) false =
      .error (.builtin .valueError "invalid literal for int()") := by rfl
  rw [stored, raised]
  constructor
  · intro valid
    rcases valid "port" (.str "--5") { name := "port", kind := "integer" } (by simp) rfl rfl with
      ⟨found, same, fits⟩
    cases same
    rcases @Fits.number Runtime.ascii _ _ fits rfl with ⟨text, same, ⟨digits, shape, some, proper⟩, _⟩
    have written : text = "--5" := (Json.str.inj same).symm
    rw [written] at shape
    have signed : code '-' ∈ digits := by
      rcases shape with rfl | same
      · decide
      · rw [← (List.cons.inj same).2]
        decide
    exact absurd (proper _ signed) (by decide)
  · intro valid
    cases valid

end Management

end OpnsensePlugin

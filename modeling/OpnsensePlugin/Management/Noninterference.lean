import OpnsensePlugin.Management.Failure
import OpnsensePlugin.Management.PagedScan
import OpnsensePlugin.Management.Views

/-!
# What the views say about hidden fields

An object is masked by emptying the texts that stand in no shown field. Two
objects that differ in such texts only have the same mask. The views of an object
are those of its mask, so that they tell nothing about hidden texts.
-/

namespace OpnsensePlugin

open Effects Python

namespace Management

/-! ## Masking -/

mutual

/-- The value of the field `name`, with the texts emptied that stand in no shown field -/
def maskValue (shown : Str → Bool) (name : Str) : Json → Json
  | .str text => if shown name then .str text else .str []
  | .arr items => if shown name then .arr items else .arr (maskItems shown name items)
  | .obj fields =>
      if shown name then .obj fields else .obj (maskFields shown (name ++ ".") fields)
  | value => value

def maskFields (shown : Str → Bool) (path : Str) : List (Str × Json) → List (Str × Json)
  | [] => []
  | (key, value) :: rest => (key, maskValue shown (path ++ key) value) :: maskFields shown path rest

def maskItems (shown : Str → Bool) (name : Str) : List Json → List Json
  | [] => []
  | value :: rest => maskValue shown name value :: maskItems shown name rest

end

/-- An object, with the texts emptied that stand in no shown field -/
def maskObject (shown : Str → Bool) : Json → Json
  | .obj fields => .obj (maskFields shown [] fields)
  | value => value

/-- A field of the catalogue that is not marked secret -/
def isPublic (spec : Spec) (name : Str) : Bool :=
  spec.fields.any fun known => known.name = name && !known.secret

/-- A field whose texts the views may depend on: `_public` also copies the `uuid` of an object. -/
def isShown (spec : Spec) (name : Str) : Bool := name = "uuid" || isPublic spec name

section Masks

variable {shown : Str → Bool} {name path : Str} {fields : List (Str × Json)} {value : Json}

theorem maskValue_of_shown (visible : shown name = true) : maskValue shown name value = value := by
  cases value <;> simp [maskValue, visible]

theorem field_maskFields {key : Str} :
    field (maskFields shown path fields) key =
      (field fields key).map (maskValue shown (path ++ key)) := by
  induction fields with
  | nil => rfl
  | cons entry rest ih =>
      rcases entry with ⟨head, value⟩
      rw [maskFields, field_cons, field_cons, ih]
      by_cases same : key = head
      · simp [same]
      · simp [same]

theorem maskFields_isEmpty : (maskFields shown path fields).isEmpty = fields.isEmpty := by
  cases fields with
  | nil => rfl
  | cons entry rest => rfl

theorem maskItems_isEmpty {items : List Json} :
    (maskItems shown name items).isEmpty = items.isEmpty := by
  cases items with
  | nil => rfl
  | cons item rest => rfl

/-- Masking keeps what is an option. -/
theorem isOption_maskValue : isOption (maskValue shown name value) = isOption value := by
  cases value with
  | obj fields =>
      rw [maskValue]
      split
      · rfl
      · simp [isOption, field_maskFields]
  | _ =>
      simp only [maskValue]
      try split
      all_goals rfl

theorem all_isOption_maskFields :
    ((maskFields shown path fields).all fun (_, child) => isOption child) =
      fields.all fun (_, child) => isOption child := by
  induction fields with
  | nil => rfl
  | cons entry rest ih =>
      rcases entry with ⟨key, value⟩
      simp only [maskFields, List.all_cons, isOption_maskValue, ih]

theorem all_isOption_maskItems {items : List Json} :
    (maskItems shown name items).all isOption = items.all isOption := by
  induction items with
  | nil => rfl
  | cons item rest ih =>
      rw [maskItems, List.all_cons, List.all_cons, ih, isOption_maskValue]

end Masks

/-! ## Lookups -/

section Lookups

variable [Runtime] {shown : Str → Bool} {name path part : Str} {parts : List Str}
  {fields : List (Str × Json)} {value : Json}

omit [Runtime] in
theorem join_cons {rest : List Str} (some : rest ≠ []) :
    join "." (part :: rest) = part ++ "." ++ join "." rest := by
  cases rest with
  | nil => exact absurd rfl some
  | cons next more => simp [join]

/-- The canonical form of a masked object is an object, of the masked fields, exactly where that
of the object is. -/
theorem selectedForm_maskFields :
    (selectedForm (.obj fields) = .obj (selectedFormFields fields) ∧
        selectedForm (.obj (maskFields shown path fields)) =
          .obj (selectedFormFields (maskFields shown path fields))) ∨
      ((selectedForm (.obj fields)).isObj = false ∧
        (selectedForm (.obj (maskFields shown path fields))).isObj = false) := by
  rw [selectedForm, selectedForm, maskFields_isEmpty, all_isOption_maskFields]
  split
  · exact .inr ⟨rfl, rfl⟩
  · split
    · exact .inr ⟨rfl, rfl⟩
    · exact .inl ⟨rfl, rfl⟩

theorem selectedForm_mask (hidden : shown name = false) :
    (∃ fields, value = .obj fields ∧ selectedForm value = .obj (selectedFormFields fields) ∧
        selectedForm (maskValue shown name value) =
          .obj (selectedFormFields (maskFields shown (name ++ ".") fields))) ∨
      ((selectedForm value).isObj = false ∧
        (selectedForm (maskValue shown name value)).isObj = false) := by
  cases value with
  | obj fields =>
      rw [maskValue, hidden, if_neg Bool.false_ne_true]
      rcases @selectedForm_maskFields _ shown (name ++ ".") fields with ⟨form, masked⟩ | others
      · exact .inl ⟨fields, rfl, form, masked⟩
      · exact .inr others
  | arr items =>
      refine .inr ?_
      rw [maskValue, hidden, if_neg Bool.false_ne_true, selectedForm, selectedForm,
        maskItems_isEmpty, all_isOption_maskItems]
      split
      · exact ⟨rfl, rfl⟩
      · split
        · exact ⟨rfl, rfl⟩
        · exact ⟨rfl, rfl⟩
  | str text =>
      refine .inr ⟨rfl, ?_⟩
      rw [maskValue]
      split <;> rfl
  | _ => exact .inr ⟨rfl, rfl⟩

omit [Runtime] in
theorem lookupPath_of_not_obj (other : value.isObj = false) :
    lookupPath (part :: parts) value = none := by
  cases value with
  | obj fields => cases other
  | _ => rfl

/-- A shown field has the same canonical value in a masked object. -/
theorem lookup_selectedForm_mask
    (visible : shown (path ++ join "." (part :: parts)) = true) :
    (field (selectedFormFields (maskFields shown path fields)) part).bind (lookupPath parts) =
      (field (selectedFormFields fields) part).bind (lookupPath parts) := by
  induction parts generalizing path part fields with
  | nil =>
      have own : shown (path ++ part) = true := by simpa [join] using visible
      rw [field_selectedFormFields, field_selectedFormFields, field_maskFields, Option.map_map]
      congr 2
      funext child
      exact congrArg selectedForm (maskValue_of_shown own)
  | cons next rest ih =>
      rw [field_selectedFormFields, field_selectedFormFields, field_maskFields, Option.map_map,
        Option.bind_map, Option.bind_map]
      congr 1
      funext child
      dsimp only [Function.comp]
      cases hidden : shown (path ++ part) with
      | true => rw [maskValue_of_shown hidden]
      | false =>
          rcases @selectedForm_mask _ _ _ child hidden with
            ⟨inner, rfl, form, masked⟩ | ⟨form, masked⟩
          · rw [form, masked]
            refine ih ?_
            rw [join_cons (by simp)] at visible
            simpa using visible
          · rw [lookupPath_of_not_obj form, lookupPath_of_not_obj masked]

omit [Runtime] in
/-- The same for the values as they were received -/
theorem lookup_mask (visible : shown (path ++ join "." (part :: parts)) = true) :
    (field (maskFields shown path fields) part).bind (lookupPath parts) =
      (field fields part).bind (lookupPath parts) := by
  induction parts generalizing path part fields with
  | nil =>
      have own : shown (path ++ part) = true := by simpa [join] using visible
      rw [field_maskFields]
      cases field fields part with
      | none => rfl
      | some child =>
          rw [Option.map_some, maskValue_of_shown own]
  | cons next rest ih =>
      rw [field_maskFields, Option.bind_map]
      congr 1
      funext child
      dsimp only [Function.comp]
      cases hidden : shown (path ++ part) with
      | true => rw [maskValue_of_shown hidden]
      | false =>
          cases child with
          | obj inner =>
              rw [maskValue, hidden, if_neg Bool.false_ne_true]
              refine ih ?_
              rw [join_cons (by simp)] at visible
              simpa using visible
          | str text =>
              rw [maskValue, hidden]
              rfl
          | arr items =>
              rw [maskValue, hidden]
              rfl
          | _ => rfl

omit [Runtime] in
theorem getD_eq {default : Json} : get (.obj fields) name default =
    .ok ((field fields name).getD ((lookupPath (Management.parts name) (.obj fields)).getD default)) :=
  rfl

omit [Runtime] in
/-- The dotted parts of a shown field lead to it. -/
theorem shown_parts (visible : shown name = true) :
    ∃ head rest, Management.parts name = head :: rest ∧
      shown ([] ++ join "." (head :: rest)) = true := by
  have joined : join "." (Management.parts name) = name := join_splitOn
  cases split : Management.parts name with
  | nil => exact absurd split splitOn_ne_nil
  | cons head rest =>
      rw [split] at joined
      exact ⟨head, rest, rfl, by rw [List.nil_append, joined, visible]⟩

theorem get_selectedForm_mask {default : Json} (visible : shown name = true) :
    get (.obj (selectedFormFields (maskFields shown [] fields))) name default =
      get (.obj (selectedFormFields fields)) name default := by
  have flat : field (selectedFormFields (maskFields shown [] fields)) name =
      field (selectedFormFields fields) name := by
    have same := @lookup_selectedForm_mask _ shown [] name [] fields (by simpa [join] using visible)
    simpa [lookupPath] using same
  rcases shown_parts visible with ⟨head, rest, split, leads⟩
  have nested : lookupPath (Management.parts name)
      (.obj (selectedFormFields (maskFields shown [] fields))) =
        lookupPath (Management.parts name) (.obj (selectedFormFields fields)) := by
    rw [split]
    exact lookup_selectedForm_mask leads
  rw [getD_eq, getD_eq, flat, nested]

omit [Runtime] in
theorem get_mask {default : Json} (visible : shown name = true) :
    get (.obj (maskFields shown [] fields)) name default = get (.obj fields) name default := by
  have flat : field (maskFields shown [] fields) name = field fields name := by
    have same := @lookup_mask shown [] name [] fields (by simpa [join] using visible)
    simpa [lookupPath] using same
  rcases shown_parts visible with ⟨head, rest, split, leads⟩
  have nested : lookupPath (Management.parts name) (.obj (maskFields shown [] fields)) =
      lookupPath (Management.parts name) (.obj fields) := by
    rw [split]
    exact lookup_mask leads
  rw [getD_eq, getD_eq, flat, nested]

end Lookups

/-! ## Views of one object -/

section Views

variable [Runtime] {spec : Spec} {first second value : Json}

omit [Runtime] in
theorem foldlM_congr {items : List FieldSpec} {step other : List (Str × Json) → FieldSpec →
    Except Exn (List (Str × Json))} {start : List (Str × Json)}
    (same : ∀ item ∈ items, ∀ state, step state item = other state item) :
    items.foldlM step start = items.foldlM other start := by
  induction items generalizing start with
  | nil => rfl
  | cons item rest ih =>
      rw [List.forall_mem_cons] at same
      rw [List.foldlM_cons, List.foldlM_cons, same.1]
      exact bind_congr fun _ => ih same.2

omit [Runtime] in
theorem isShown_of_mem {known : FieldSpec} (member : known ∈ spec.fields)
    (plain : known.secret = false) : isShown spec known.name = true := by
  have listed : isPublic spec known.name = true :=
    List.any_eq_true.mpr ⟨known, member, by simp [plain]⟩
  rw [isShown, listed, Bool.or_true]

omit [Runtime] in
/-- The views read the UUID and the public fields of the canonical form. -/
theorem publicItem_congr (uuid : (first.get "uuid" : Except Exn Json) = second.get "uuid")
    (same : ∀ known ∈ spec.fields, known.secret = false →
      get first known.name = get second known.name) :
    publicItem spec first = publicItem spec second := by
  unfold publicItem
  rw [uuid]
  refine bind_congr fun _ => foldlM_congr fun known member state => ?_
  cases secret : known.secret with
  | true => rfl
  | false => rw [same known member secret]

omit [Runtime] in
theorem publicRow_congr (uuid : (first.get "uuid" : Except Exn Json) = second.get "uuid")
    (same : ∀ known ∈ spec.fields, known.secret = false →
      get first known.name = get second known.name) :
    publicRow spec first = publicRow spec second := by
  unfold publicRow
  rw [uuid]
  refine bind_congr fun _ => foldlM_congr fun known member state => ?_
  cases secret : known.secret with
  | true => rfl
  | false => rw [same known member secret]

section Masked

variable {fields : List (Str × Json)}

/-- Either the canonical forms agree on the UUID and the public fields, or neither has any. -/
theorem selectedForm_agree :
    (∀ known ∈ spec.fields, known.secret = false →
        get (selectedForm (.obj (maskFields (isShown spec) [] fields))) known.name =
          get (selectedForm (.obj fields)) known.name) ∧
        ((selectedForm (.obj (maskFields (isShown spec) [] fields))).get "uuid" :
          Except Exn Json) = (selectedForm (.obj fields)).get "uuid" ∨
      ((selectedForm (.obj fields)).isObj = false ∧
        (selectedForm (.obj (maskFields (isShown spec) [] fields))).isObj = false) := by
  rcases @selectedForm_maskFields _ (isShown spec) [] fields with ⟨form, masked⟩ | others
  · rw [form, masked]
    refine .inl ⟨fun known member plain => get_selectedForm_mask (isShown_of_mem member plain), ?_⟩
    have own : isShown spec ([] ++ join "." ["uuid"]) = true := by
      simp [isShown, join]
    have same := @lookup_selectedForm_mask _ (isShown spec) [] "uuid" [] fields own
    have found : field (selectedFormFields (maskFields (isShown spec) [] fields)) "uuid" =
        field (selectedFormFields fields) "uuid" := by
      simpa [lookupPath] using same
    simp [Json.get, Json.getD, fieldD, found]
  · exact .inr others

omit [Runtime] in
theorem getUuid_of_not_obj (other : value.isObj = false) :
    (value.get "uuid" : Except Exn Json) = .error (.builtin .attributeError "get") := by
  cases value with
  | obj fields => cases other
  | _ => rfl

theorem publicItem_mask :
    publicItem spec (selectedForm (.obj (maskFields (isShown spec) [] fields))) =
      publicItem spec (selectedForm (.obj fields)) := by
  rcases @selectedForm_agree _ spec fields with ⟨same, uuid⟩ | ⟨plain, masked⟩
  · exact publicItem_congr uuid same
  · unfold publicItem
    rw [getUuid_of_not_obj plain, getUuid_of_not_obj masked]
    rfl

theorem publicRow_mask :
    publicRow spec (selectedForm (.obj (maskFields (isShown spec) [] fields))) =
      publicRow spec (selectedForm (.obj fields)) := by
  rcases @selectedForm_agree _ spec fields with ⟨same, uuid⟩ | ⟨plain, masked⟩
  · exact publicRow_congr uuid same
  · unfold publicRow
    rw [getUuid_of_not_obj plain, getUuid_of_not_obj masked]
    rfl

theorem detailOptions_mask {known : FieldSpec} (member : known ∈ spec.fields) :
    detailOptions (.obj (maskFields (isShown spec) [] fields)) known =
      detailOptions (.obj fields) known := by
  unfold detailOptions
  cases secret : known.secret with
  | true => simp [getD_eq, bind, Except.bind]
  | false => rw [get_mask (isShown_of_mem member secret)]

end Masked

/-- The item and the options of a detail -/
def formOf (spec : Spec) (uuid : Option Str) (raw : Json) :
    Except Exn (List (Str × Json) × List (Str × List (Str × Str))) := do
  let options ← spec.fields.mapM (detailOptions raw)
  let item ← publicItem spec (selectedForm raw)
  let item := detailDefaults spec uuid.isSome item
  match uuid with
  | some uuid => return (setField "uuid" (.str uuid) item, options.filterMap id)
  | none => return (item, options.filterMap id)

/-- The form that a viewer sees, of an outcome of `detail` -/
def seenForm (outcome : Except Exn DetailView) :
    Except Exn (List (Str × Json) × List (Str × List (Str × Str))) :=
  outcome.map fun view => (view.item, view.options)

theorem formOf_mask {uuid : Option Str} {fields : List (Str × Json)} :
    formOf spec uuid (.obj (maskFields (isShown spec) [] fields)) =
      formOf spec uuid (.obj fields) := by
  have options : ∀ items : List FieldSpec, (∀ item ∈ items, item ∈ spec.fields) →
      items.mapM (detailOptions (.obj (maskFields (isShown spec) [] fields))) =
        items.mapM (detailOptions (.obj fields)) := by
    intro items
    induction items with
    | nil => intro _; rfl
    | cons item rest ih =>
        intro members
        rw [List.forall_mem_cons] at members
        rw [List.mapM_cons, List.mapM_cons, detailOptions_mask members.1, ih members.2]
  unfold formOf
  rw [options spec.fields fun _ member => member, publicItem_mask]

theorem hashPayload_cases :
    (∃ hash, hashPayload value = .ok hash) ∨ hashPayload value = .error unicodeEncodeError := by
  cases value with
  | null => exact .inl ⟨[], rfl⟩
  | _ =>
      rw [hashPayload]
      · split
        · exact .inl ⟨_, rfl⟩
        · exact .inr rfl
      · intro same
        cases same

/-- A detail shows the form, unless its hash fails. -/
theorem seenForm_detailOf {uuid : Option Str}
    (encoded : Management.detailOf spec uuid value ≠ .error unicodeEncodeError) :
    seenForm (Management.detailOf spec uuid value) = formOf spec uuid value := by
  unfold Management.detailOf at encoded ⊢
  unfold formOf seenForm
  dsimp only at encoded ⊢
  cases options : spec.fields.mapM (detailOptions value) with
  | error error => rfl
  | ok options =>
      cases item : publicItem spec (selectedForm value) with
      | error error => rfl
      | ok item =>
          cases uuid with
          | none => rfl
          | some uuid =>
              rcases @hashPayload_cases _ (selectedForm value) with ⟨hash, hashed⟩ | failed
              · simp only [hashed]
                rfl
              · refine absurd ?_ encoded
                simp only [options, item, failed]
                rfl

end Views

/-! ## Answers -/

/-- The object in an answer, masked -/
def maskedRaw (shown : Str → Bool) (spec : Spec) (answer : Json) : Except Exn Json :=
  (rawOf spec answer).map (maskObject shown)

/-- The rows and the total in an answer, with the rows masked -/
def maskedListing (shown : Str → Bool) : Json → Option (Option (List Json) × Option Json)
  | .obj out =>
      let rows := match field out "rows" with
        | some (.arr rows) => some (rows.map (maskObject shown))
        | _ => none
      some (rows, field out "total")
  | _ => none

section Answers

variable [Runtime] {spec : Spec} {first second : Json}

theorem publicRow_maskObject {row : Json} :
    publicRow spec (selectedForm (maskObject (isShown spec) row)) =
      publicRow spec (selectedForm row) := by
  cases row with
  | obj fields => exact publicRow_mask
  | _ => rfl

omit [Runtime] in
theorem isObj_maskObject {shown : Str → Bool} {row : Json} :
    (maskObject shown row).isObj = row.isObj := by
  cases row with
  | obj fields => rfl
  | _ => rfl

omit [Runtime] in
theorem totalOf_congr {out other : List (Str × Json)} {count : Nat}
    (same : field out "total" = field other "total") : totalOf out count = totalOf other count := by
  unfold totalOf
  rw [same]

/-- A listing is made of masked rows. -/
theorem rows_masked {rows : List Json} :
    (rows.map (maskObject (isShown spec))).mapM (fun row => publicRow spec (selectedForm row)) =
      rows.mapM fun row => publicRow spec (selectedForm row) := by
  induction rows with
  | nil => rfl
  | cons row rest ih =>
      rw [List.map_cons, List.mapM_cons, List.mapM_cons, publicRow_maskObject, ih]

theorem listingOf_of_not_rows {out : List (Str × Json)}
    (none : ∀ rows, field out "rows" = some (.arr rows) → False) :
    listingOf spec (.obj out) = .error (invalidResponse "Lista de objetos inválida.") := by
  unfold listingOf
  dsimp only
  split
  · rename_i rows found
    exact absurd found (none rows)
  · rfl

theorem listingOf_alike
    (same : maskedListing (isShown spec) first = maskedListing (isShown spec) second) :
    listingOf spec first = listingOf spec second := by
  cases first with
  | obj out =>
      cases second with
      | obj other =>
          simp only [maskedListing, Option.some.injEq, Prod.mk.injEq] at same
          rcases same with ⟨rows, total⟩
          split at rows
          · rename_i listed found
            split at rows
            · rename_i others seen
              have masked := Option.some.inj rows
              have objects : (listed.any fun row => !row.isObj) =
                  others.any fun row => !row.isObj := by
                have either := congrArg (List.any · fun row => !row.isObj) masked
                simpa only [List.any_map, Function.comp_def, isObj_maskObject] using either
              have count : listed.length = others.length := by
                simpa using congrArg List.length masked
              unfold listingOf
              simp only [found, seen, objects, count, totalOf_congr total]
              rw [← @rows_masked _ spec listed, masked, rows_masked]
            · cases rows
          · rename_i unlisted
            split at rows
            · cases rows
            · rename_i unseen
              rw [listingOf_of_not_rows unlisted, listingOf_of_not_rows unseen]
      | _ => cases same
  | _ =>
      cases second with
      | obj other => cases same
      | _ => rfl

theorem detailOf_alike {uuid : Option Str} {object other : Json}
    (raw : rawOf spec first = .ok object) (read : rawOf spec second = .ok other)
    (same : maskedRaw (isShown spec) spec first = maskedRaw (isShown spec) spec second) :
    formOf spec uuid object = formOf spec uuid other := by
  rw [maskedRaw, maskedRaw, raw, read] at same
  have masked : maskObject (isShown spec) object = maskObject (isShown spec) other :=
    Except.ok.inj same
  have formed : ∀ value, formOf spec uuid (maskObject (isShown spec) value) =
      formOf spec uuid value := by
    intro value
    cases value with
    | obj fields => exact formOf_mask
    | _ => rfl
  rw [← formed object, masked, formed other]

end Answers

/-- An appliance: what it replies to a GET -/
abbrev Appliance := Str → List (Str × Json) → Reply

/-- The GETs of a trace were answered by the appliance. -/
def Answered (appliance : Appliance) (trace : Trace Role) : Prop :=
  ∀ role target params (reply : Reply), ⟨.get role target params, reply⟩ ∈ trace →
    reply = appliance target params

/-- The raw objects that two appliances return for a specification are equal but for texts of
fields that are not shown. -/
structure Alike (shown : Str → Bool) (spec : Spec) (first second : Appliance) : Prop where
  objects : ∀ uuid target, path spec spec.get uuid = .ok target →
    (first target []).map (maskedRaw shown spec) = (second target []).map (maskedRaw shown spec)
  listings : ∀ target params, path spec spec.search [] = .ok target →
    (first target params).map (maskedListing shown) =
      (second target params).map (maskedListing shown)

end Management

namespace ManagementService

open Management

section

variable [Runtime] {spec : Spec} {State : Type} {before after : State} {trace : Trace Role}
  {appliance first second : Appliance}

/-- What `detail` makes of the answers of an appliance -/
def detailWith (spec : Spec) (appliance : Appliance) (uuid : Option Json) :
    Except Exn DetailView := do
  let uuid ← detailUuid spec uuid
  let target ← path spec spec.get (uuid.getD [])
  let response ← called (appliance target [])
  let object ← rawOf spec response
  Management.detailOf spec uuid object

theorem detail_answered {uuid : Option Json} {outcome : Except Exn DetailView}
    (run : (detail spec uuid).Run before trace outcome after)
    (answered : Answered appliance trace) : outcome = detailWith spec appliance uuid := by
  unfold detailWith
  rw [detail, Action.run_bind_ofExcept] at run
  rcases run with ⟨uuid, same, run⟩ | ⟨error, same, _, rfl, _⟩
  rotate_left
  · rw [same]
    rfl
  rw [same]
  dsimp only [bind, Except.bind]
  rw [raw, Action.run_bind_assoc, Action.run_bind_ofExcept] at run
  rcases run with ⟨target, found, run⟩ | ⟨error, failed, _, rfl, _⟩
  rotate_left
  · rw [failed]
  rw [found]
  rw [Action.run_bind_assoc, callGet, Action.run_bind_decoded] at run
  rcases run with ⟨reply, tail, rfl, replied⟩
  have served : reply = appliance target [] := answered _ _ _ _ List.mem_cons_self
  dsimp only
  rw [← served]
  rcases replied with ⟨response, received, run⟩ | ⟨error, received, _, rfl, _⟩
  · rw [Action.ofExcept_bind, Action.run_ofExcept] at run
    rw [run.2.1, received]
    rfl
  · rw [received]

/-- What `list` makes of the answers of an appliance -/
def listWith (spec : Spec) (appliance : Appliance) (page rowCount search : Json) :
    Except Exn PageView := do
  let (page, rowCount, search) ← pageArguments page rowCount search
  if spec.singleton then do
    let view ← detailWith spec appliance (some (.str singletonUuid))
    return ⟨[view.item], 1, page, rowCount⟩
  else do
    let target ← path spec spec.search []
    let response ← called (appliance target
      [("current", .int page), ("rowCount", .int rowCount), ("searchPhrase", .str search)])
    let listing ← listingOf spec response
    return ⟨listing.rows, listing.total, page, rowCount⟩

theorem list_answered {page rowCount search : Json} {outcome : Except Exn PageView}
    (run : (listPage spec page rowCount search).Run before trace outcome after)
    (answered : Answered appliance trace) :
    outcome = listWith spec appliance page rowCount search := by
  unfold listWith
  rw [listPage, Action.run_bind_ofExcept] at run
  rcases run with ⟨⟨page, rowCount, search⟩, same, run⟩ | ⟨error, same, _, rfl, _⟩
  rotate_left
  · rw [same]
    rfl
  rw [same]
  dsimp only [bind, Except.bind]
  dsimp only at run
  by_cases single : spec.singleton = true
  · rw [if_pos single] at run ⊢
    rw [Action.run_bind] at run
    rcases run with ⟨front, view, middle, back, rfl, reading, run⟩ | ⟨error, rfl, reading⟩
    · rw [Action.run_pure] at run
      rcases run with ⟨rfl, rfl, _⟩
      rw [List.append_nil] at answered
      rw [← detail_answered reading answered]
      rfl
    · rw [← detail_answered reading answered]
  · rw [if_neg single] at run ⊢
    rw [Action.run_bind_ofExcept] at run
    rcases run with ⟨target, found, run⟩ | ⟨error, failed, _, rfl, _⟩
    rotate_left
    · rw [failed]
    rw [found]
    rw [callGet, Action.run_bind_decoded] at run
    rcases run with ⟨reply, tail, rfl, replied⟩
    have served : reply = appliance target _ := answered _ _ _ _ List.mem_cons_self
    dsimp only
    rw [← served]
    rcases replied with ⟨response, received, run⟩ | ⟨error, received, _, rfl, _⟩
    · rw [received]
      rw [Action.run_bind_ofExcept] at run
      rcases run with ⟨listing, listed, run⟩ | ⟨error, failed, _, rfl, _⟩
      · rw [Action.run_pure] at run
        dsimp only
        rw [run.2.1, listed]
        rfl
      · dsimp only
        rw [failed]
    · rw [received]

omit [Runtime] in
/-- Replies with one view are both received, or fail alike. -/
theorem called_alike {α : Type} {view : Json → α} {reply other : Reply}
    (same : reply.map view = other.map view) :
    (∃ failure, called reply = .error failure ∧ called other = .error failure) ∨
      ∃ answer response, called reply = .ok answer ∧ called other = .ok response ∧
        view answer = view response := by
  cases reply with
  | error failure =>
      cases other with
      | error failed =>
          cases same
          exact .inl ⟨_, rfl, rfl⟩
      | ok response => cases same
  | ok answer =>
      cases other with
      | error failed => cases same
      | ok response => exact .inr ⟨answer, response, rfl, rfl, Except.ok.inj same⟩

theorem detailWith_alike {uuid : Option Json} (alike : Alike (isShown spec) spec first second)
    (encoded : detailWith spec first uuid ≠ .error unicodeEncodeError)
    (encodes : detailWith spec second uuid ≠ .error unicodeEncodeError) :
    seenForm (detailWith spec first uuid) = seenForm (detailWith spec second uuid) := by
  unfold detailWith at encoded encodes ⊢
  cases identified : detailUuid spec uuid with
  | error error => rfl
  | ok uuid =>
      cases found : path spec spec.get (uuid.getD []) with
      | error error => simp only [found, bind, Except.bind]
      | ok target =>
          simp only [identified, found, bind, Except.bind] at encoded encodes ⊢
          rcases called_alike (alike.objects _ _ found) with
            ⟨failure, failed, fails⟩ | ⟨answer, response, answered, responded, same⟩
          · rw [failed, fails]
          · rw [answered] at encoded ⊢
            rw [responded] at encodes ⊢
            dsimp only at encoded encodes ⊢
            cases raw : rawOf spec answer with
            | error error =>
                cases read : rawOf spec response with
                | error other =>
                    rw [maskedRaw, maskedRaw, raw, read] at same
                    cases same
                    rfl
                | ok other =>
                    rw [maskedRaw, maskedRaw, raw, read] at same
                    cases same
            | ok object =>
                cases read : rawOf spec response with
                | error other =>
                    rw [maskedRaw, maskedRaw, raw, read] at same
                    cases same
                | ok other =>
                    rw [raw] at encoded
                    rw [read] at encodes
                    dsimp only at encoded encodes ⊢
                    rw [seenForm_detailOf encoded, seenForm_detailOf encodes]
                    exact detailOf_alike raw read same

omit [Runtime] in
/-- The page of a singleton shows its form. -/
theorem singletonPage_alike {outcome other : Except Exn DetailView} {page rowCount : Int}
    (same : seenForm outcome = seenForm other) :
    (outcome >>= fun view => .ok (PageView.mk [view.item] 1 page rowCount)) =
      other >>= fun view => .ok (PageView.mk [view.item] 1 page rowCount) := by
  cases outcome with
  | error error =>
      cases other with
      | error failure =>
          cases same
          rfl
      | ok view => cases same
  | ok view =>
      cases other with
      | error failure => cases same
      | ok seen =>
          simp only [seenForm, Except.map, Except.ok.injEq, Prod.mk.injEq] at same
          change Except.ok _ = Except.ok _
          rw [same.1]

theorem listWith_alike {page rowCount search : Json}
    (alike : Alike (isShown spec) spec first second)
    (encoded : listWith spec first page rowCount search ≠ .error unicodeEncodeError)
    (encodes : listWith spec second page rowCount search ≠ .error unicodeEncodeError) :
    listWith spec first page rowCount search = listWith spec second page rowCount search := by
  unfold listWith at encoded encodes ⊢
  cases accepted : pageArguments page rowCount search with
  | error error => rfl
  | ok arguments =>
      rcases arguments with ⟨page, rowCount, search⟩
      simp only [accepted, bind, Except.bind] at encoded encodes ⊢
      by_cases single : spec.singleton = true
      · simp only [single, if_true] at encoded encodes ⊢
        refine singletonPage_alike (detailWith_alike alike ?_ ?_)
        · exact fun failed => encoded (by rw [failed])
        · exact fun failed => encodes (by rw [failed])
      · rw [if_neg single, if_neg single]
        cases found : path spec spec.search [] with
        | error error => rfl
        | ok target =>
            dsimp only
            rcases called_alike (alike.listings _ [("current", .int page),
              ("rowCount", .int rowCount), ("searchPhrase", .str search)] found) with
                ⟨failure, failed, fails⟩ | ⟨answer, response, answered, responded, same⟩
            · rw [failed, fails]
            · rw [answered, responded]
              dsimp only
              rw [listingOf_alike same]

/-- On two appliances that differ in hidden texts only, `list` ends alike, and `detail` but for
the revision, unless the text of an object cannot be encoded for its hash. -/
theorem views_noninterfere {other : Trace Role} (alike : Alike (isShown spec) spec first second)
    (answered : Answered first trace) (replied : Answered second other) :
    (∀ page rowCount search outcome result,
      (listPage spec page rowCount search).Run before trace outcome after →
      (listPage spec page rowCount search).Run before other result after →
      outcome ≠ .error unicodeEncodeError → result ≠ .error unicodeEncodeError →
        outcome = result) ∧
      ∀ uuid outcome result, (detail spec uuid).Run before trace outcome after →
        (detail spec uuid).Run before other result after →
        outcome ≠ .error unicodeEncodeError → result ≠ .error unicodeEncodeError →
          seenForm outcome = seenForm result := by
  refine ⟨?_, ?_⟩
  · intro page rowCount search outcome result run again encoded encodes
    have listed := list_answered run answered
    have relisted := list_answered again replied
    subst listed relisted
    exact listWith_alike alike encoded encodes
  · intro uuid outcome result run again encoded encodes
    have read := detail_answered run answered
    have reread := detail_answered again replied
    subst read reread
    exact detailWith_alike alike encoded encodes

end

/-! ### Two appliances that differ in a password, or in a UUID -/

/-- An environment in which the GETs are replied by the appliance -/
def serve (appliance : Appliance) : (request : Request Role) → Answer request
  | .get _ target params => appliance target params
  | .post _ _ _ => .error (.error [])
  | .append _ => .ok ()
  | .clock => ⟨[], 0⟩
  | .lockFor _ _ => 0
  | .acquireGuard _ | .releaseGuard _ | .acquire _ | .release _ => ()

theorem replay_answered {α : Type} {program : Program (Request Role) Answer α}
    {appliance : Appliance} {trace : Trace Role}
    (recorded : (program.replay (fun _ => serve appliance) []).1 = [] ++ trace) :
    Answered appliance trace := by
  intro role target params reply member
  rcases List.append_of_mem member with ⟨front, back, split⟩
  exact Program.replay_answers recorded split

def listAnswer (uuid : Str) : Json :=
  .obj [("rows", .arr [.obj [("uuid", .str uuid), ("name", .str "web")]]), ("total", .int 1)]

def itemAnswer (password : Str) : Json :=
  .obj [("item", .obj [("name", .str "web"), ("password", .str password)])]

/-- An appliance with one object -/
def oneObject (uuid password : Str) : Appliance := fun target _ =>
  if target = "/api/demo/settings/searchItem" then .ok (listAnswer uuid)
  else .ok (itemAnswer password)

theorem oneObject_alike {shown : Str → Bool} {uuid other password secret : Str}
    (rows : maskedListing shown (listAnswer uuid) = maskedListing shown (listAnswer other))
    (items : maskedRaw shown demoSpec (itemAnswer password) =
      maskedRaw shown demoSpec (itemAnswer secret)) :
    Alike shown demoSpec (oneObject uuid password) (oneObject other secret) := by
  refine ⟨?_, ?_⟩
  · intro uuid target _
    unfold oneObject
    split
    · rfl
    · exact congrArg Except.ok items
  · intro target params found
    have searched : target = "/api/demo/settings/searchItem" := by
      cases found
      rfl
    rw [oneObject, oneObject, if_pos searched, if_pos searched]
    exact congrArg Except.ok rows

def firstPage (uuid : Str) : PageView :=
  ⟨[[("uuid", .str uuid), ("name", .str "web")]], 1, 1, 50⟩

theorem list_oneObject (uuid : Str) (password : Str) : ∃ trace,
    Answered (oneObject uuid password) trace ∧
      (@listPage Runtime.ascii Unit demoSpec (.int 1) (.int 50) (.str [])).Run () trace
        (.ok (firstPage uuid)) () := by
  rcases Program.replay_yields (fun _ => serve (oneObject uuid password))
    (@listPage Runtime.ascii Unit demoSpec (.int 1) (.int 50) (.str []) ()) [] with
    ⟨trace, recorded, run⟩
  exact ⟨trace, replay_answered recorded, run⟩

/-- Rows show a UUID that is in no catalogue. -/
theorem list_shows_uuid : ∃ first second trace other,
    Alike (isPublic demoSpec) demoSpec first second ∧ Answered first trace ∧
      Answered second other ∧
      (@listPage Runtime.ascii Unit demoSpec (.int 1) (.int 50) (.str [])).Run () trace
        (.ok (firstPage "a")) () ∧
      (@listPage Runtime.ascii Unit demoSpec (.int 1) (.int 50) (.str [])).Run () other
        (.ok (firstPage "b")) () ∧ firstPage "a" ≠ firstPage "b" := by
  rcases list_oneObject "a" "" with ⟨trace, answered, run⟩
  rcases list_oneObject "b" "" with ⟨other, replied, again⟩
  refine ⟨oneObject "a" "", oneObject "b" "", trace, other, oneObject_alike rfl rfl, answered, replied,
    run, again, ?_⟩
  intro same
  injection same with rows
  injection rows with row
  injection row with entry
  injection entry with _ text
  injection text with text
  exact absurd text (by decide)

theorem views_noninterfere_passwords : ∃ trace other outcome result,
    Answered (oneObject "a" "secret") trace ∧ Answered (oneObject "a" "hidden") other ∧
      (@detail Runtime.ascii Unit demoSpec (some (.str demoUuid))).Run () trace outcome () ∧
      (@detail Runtime.ascii Unit demoSpec (some (.str demoUuid))).Run () other result () ∧
      seenForm outcome = seenForm result := by
  rcases Program.replay_yields (fun _ => serve (oneObject "a" "secret"))
    (@detail Runtime.ascii Unit demoSpec (some (.str demoUuid)) ()) [] with
    ⟨trace, recorded, run⟩
  rcases Program.replay_yields (fun _ => serve (oneObject "a" "hidden"))
    (@detail Runtime.ascii Unit demoSpec (some (.str demoUuid)) ()) [] with
    ⟨other, repeated, again⟩
  have alike : Alike (isShown demoSpec) demoSpec (oneObject "a" "secret")
      (oneObject "a" "hidden") := oneObject_alike rfl rfl
  have encoded : ∀ outcome : Except Exn DetailView, builtinOf outcome = none →
      outcome ≠ .error unicodeEncodeError := by
    rintro _ plain rfl
    cases plain
  refine ⟨trace, other, _, _, replay_answered recorded, replay_answered repeated, run, again, ?_⟩
  exact (@views_noninterfere Runtime.ascii demoSpec Unit () () trace _ _ other alike
    (replay_answered recorded) (replay_answered repeated)).2 _ _ _ run again
      (encoded _ (by decide +kernel)) (encoded _ (by decide +kernel))

end ManagementService

end OpnsensePlugin

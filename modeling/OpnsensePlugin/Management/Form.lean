import OpnsensePlugin.Writers.Readback

/-!
# Catalogue forms

The pure half of `management/engine.py`: canonical form values, dotted field
names, acknowledgements, and the object that a request intends. `_get`, `_put`
and `_drop` work on objects; where the form of an object has collapsed to a text
they raise what Python raises.
-/

namespace OpnsensePlugin

open Python

/-! ## Specifications -/

/-- One entry of `spec['fields']`; `options` has the `value` of each option. -/
structure FieldSpec where
  name : Str
  kind : Str := "text"
  required : Bool := false
  secret : Bool := false
  writeOnly : Bool := false
  readonly : Bool := false
  generated : Bool := false
  volatile : Bool := false
  multiple : Bool := false
  options : List Json := []
  min : Option Int := none
  max : Option Int := none
  default : Json := .null
  editDefault : Option Json := none
  createDefault : Option Json := none

/-- `spec.get('apply')` -/
inductive ApplySpec
  | absent
  | single (path : Str)
  | several (paths : List Str)

/-- The arguments of a `ManagementError` that a hook raises -/
structure NewError where
  error : Str
  detail : Str
  status : Nat

/-- A resource of the catalogue -/
structure Spec where
  id : Str
  base : Str
  key : Str
  search : Option Str
  get : Option Str
  add : Option Str
  set : Option Str
  delete : Option Str
  fields : List FieldSpec
  apply : ApplySpec
  applyAck : List (Str × List Str) := []
  singleton : Bool := false
  persistenceOnly : Bool := false
  haSafe : Bool := false
  /-- `prepare(spec, expected, current, action)` -/
  prepare : Option (Json → Json → Str → Except (Raised NewError) Json) := none
  /-- `verify(spec, actual, expected, action)` -/
  verify : Option (Json → Json → Str → Except (Raised NewError) Unit) := none

/-- The list `paths` of `_mutate` -/
def ApplySpec.list : ApplySpec → List Str
  | .absent => []
  | .single path => if path.isEmpty then [] else [path]
  | .several paths => paths

/-- `bool(spec.get('apply'))` -/
def ApplySpec.truthy : ApplySpec → Bool
  | .absent => false
  | .single path => !path.isEmpty
  | .several paths => !paths.isEmpty

namespace Management

def raised (error : ManagementError) : Exn := .custom (.management error)

def badRequest (detail : Str) : Exn := raised (.new "bad_request" detail)

/-- What the engine gets from a hook; hooks raise errors of their own making. -/
def hookOutcome {α : Type} : Except (Raised NewError) α → Except Exn α
  | .ok value => .ok value
  | .error (.builtin kind detail) => .error (.builtin kind detail)
  | .error (.custom new) => .error (raised (.new new.error new.detail new.status))

section

variable [Runtime]

/-! ## Form values -/

mutual

/-- `selected` of the engine -/
def selectedForm : Json → Json
  | .obj fields =>
      if fields.isEmpty then .str []
      else if fields.all fun (_, child) => isOption child then
        .str (join "," ((fields.filter fun (_, child) => isSelected child).map (·.1)))
      else .obj (selectedFormFields fields)
  | .arr items =>
      if items.isEmpty then .str []
      else if items.all isOption then
        .str (join "," ((items.zipIdx.filter fun (child, _) => isSelected child).map fun item =>
          natText item.2))
      else .arr (selectedFormItems items)
  | value => value

def selectedFormFields : List (Str × Json) → List (Str × Json)
  | [] => []
  | (key, child) :: rest => (key, selectedForm child) :: selectedFormFields rest

def selectedFormItems : List Json → List Json
  | [] => []
  | child :: rest => selectedForm child :: selectedFormItems rest

end

/-- `value in ('', None)` -/
def isBlank : Json → Bool
  | .null => true
  | .str text => text.isEmpty
  | _ => false

/-- `value == {}` -/
def isEmptyObject : Json → Bool
  | .obj fields => fields.isEmpty
  | _ => false

end

/-! ## Dotted names -/

def typeError (detail : Str) : Exn := .builtin .typeError detail

/-- `name in data` -/
def occurs (name : Str) : Json → Except Exn Bool
  | .obj fields => .ok (field fields name).isSome
  | .str text => .ok (contains name text)
  | .arr items => .ok (items.any (Json.isText name))
  | _ => .error (typeError "argument is not iterable")

def parts (name : Str) : List Str := splitOn (code '.') name

def lookupPath : List Str → Json → Option Json
  | [], value => some value
  | part :: rest, .obj fields => (field fields part).bind (lookupPath rest)
  | _ :: _, _ => none

/-- `_get` -/
def get (data : Json) (name : Str) (default : Json := .null) : Except Exn Json := do
  let present ← occurs name data
  match data with
  | .obj fields =>
      return (field fields name).getD ((lookupPath (parts name) data).getD default)
  | _ => if present then .error (typeError "indices must be integers") else return default

theorem get_obj {fields : List (Str × Json)} {name : Str} :
    ∃ value, get (.obj fields) name = .ok value ∧
      ∀ known, field fields name = some known → value = known := by
  refine ⟨(field fields name).getD ((lookupPath (parts name) (.obj fields)).getD .null), rfl, ?_⟩
  intro known found
  rw [found]
  rfl

def putPath (value : Json) : List Str → List (Str × Json) → List (Str × Json)
  | [], fields => fields
  | [last], fields => setField last value fields
  | part :: rest, fields =>
      let inner := match field fields part with
        | some (.obj inner) => inner
        | _ => []
      setField part (.obj (putPath value rest inner)) fields

/-- `_put` -/
def put (data : Json) (name : Str) (value : Json) : Except Exn Json := do
  let present ← occurs name data
  match data with
  | .obj fields =>
      return .obj (if present then setField name value fields
        else putPath value (parts name) fields)
  | _ =>
      if !present && 1 < (parts name).length then .error (attributeError "get")
      else .error (typeError "does not support item assignment")

def dropPath : List Str → List (Str × Json) → List (Str × Json)
  | [], fields => fields
  | [last], fields => fields.filter fun (key, _) => key ≠ last
  | part :: rest, fields =>
      match field fields part with
      | some (.obj inner) => setField part (.obj (dropPath rest inner)) fields
      | _ => fields

/-- `_drop` -/
def drop (data : Json) (name : Str) : Except Exn Json := do
  let present ← occurs name data
  match data with
  | .obj fields =>
      return .obj (if present then fields.filter fun (key, _) => key ≠ name
        else dropPath (parts name) fields)
  | .arr _ => .error (typeError "'str' object cannot be interpreted as an integer")
  | _ => .error (attributeError "pop")

/-! ## Acknowledgements -/

section

variable [Runtime]

def invalidResponse (detail : Str) : Exn := raised (.new "invalid_response" detail 502)

/-- The error of an answer with validations; it names the rejected fields of the form. -/
def validationError (spec : Spec) (validations : Json) : Exn :=
  let rejected : List FieldSpec := match validations with
    | .obj fields => spec.fields.filter fun item =>
        (field fields item.name).isSome || (field fields (spec.key ++ "." ++ item.name)).isSome
    | _ => []
  raised { ManagementError.new "validation" "OPNsense rechazó los valores enviados." 422 with
    validations := rejected.foldl (fun names item =>
      setField item.name "Valor rechazado por OPNsense" names) [] }

def acknowledgedMarkers : List Str := ["ok", "saved", "deleted", "done", "success"]

/-- `_ack(response, spec)`, with the acknowledgement of an apply step if `apply` -/
def ack (spec : Spec) (apply : Bool) : Json → Except Exn Unit
  | .obj response => do
      let validations := fieldD response "validations" .null
      raiseIf validations.truthy (validationError spec validations)
      if apply && !spec.applyAck.isEmpty then
        raiseIf (!spec.applyAck.all fun (key, permitted) =>
            permitted.any fun text => (fieldD response key .null).isText text)
          (raised (.new "upstream" "OPNsense no confirmó la aplicación." 502))
      else
        let markers := (["status", "result"].filterMap (field response)).map fun value =>
          Runtime.lower value.text
        raiseIf (markers.isEmpty || markers.any fun marker => marker ∉ acknowledgedMarkers)
          (raised (.new "upstream" "OPNsense no confirmó la operación." 502))
  | _ => .error (invalidResponse "Respuesta de operación inválida.")

/-! ## The intended object -/

/-- `{field['name']: field for field in spec['fields']}` -/
def fieldMap (spec : Spec) : List (Str × FieldSpec) :=
  spec.fields.foldl (fun map item => setField item.name item map) []

/-- The catalogued fields of a creation form with their defaults -/
def creationValues (current : Json) (fields : List (Str × FieldSpec)) : Except Exn Json :=
  fields.foldlM (fun merged (name, item) =>
    if item.readonly then return merged
    else do
      match ← get current name item.default with
      | .null => return merged
      | value => put merged name value) (.obj [])

mutual

/-- `normalize_empty_options` -/
def normalizeEmptyOptions : Json → Json
  | .obj fields => .obj (normalizeFields fields)
  | value => value

def normalizeFields : List (Str × Json) → List (Str × Json)
  | [] => []
  | (key, child) :: rest =>
      (key, if isEmptyObject child then .str [] else normalizeEmptyOptions child) ::
        normalizeFields rest

end

/-- A text of at most 65536 characters without NUL -/
def limitedText (detail : Str) : Json → Except Exn Str
  | .str text => do
      raiseIf (65536 < text.length || 0 ∈ text) (badRequest detail)
      return text
  | _ => .error (badRequest detail)

def multipleText (value : Json) : Except Exn Str :=
  let joined := match value with
    | .arr items => if items.all Json.isStr then .str (join "," (items.map Json.text)) else value
    | _ => value
  limitedText "Selección múltiple inválida." joined

def booleanText : Json → Except Exn Str
  | .bool value => return if value then "1" else "0"
  | _ => .error (badRequest "Un campo booleano tiene un valor inválido.")

def isBool : Json → Bool
  | .bool _ => true
  | _ => false

/-- Whether `int(text)` violates a bound; without the bound it is not computed. -/
def violates (bound : Option Int) (bad : Int → Int → Bool) (text : Str) : Except Exn Bool :=
  match bound with
  | none => return false
  | some bound => do
      let number ← (Json.str text).toInt
      return bad number bound

def numberText (item : FieldSpec) (value : Json) : Except Exn Str := do
  let text := value.text
  raiseIf (isBool value || !isDigit (text.dropWhile (· = code '-')))
    (badRequest "Un campo numérico tiene un valor inválido.")
  let outOfRange := badRequest "Valor numérico fuera de rango."
  raiseIf (← violates item.min (fun number bound => number < bound) text) outOfRange
  raiseIf (← violates item.max (fun number bound => bound < number) text) outOfRange
  return text

def isBoolean (item : FieldSpec) : Bool := item.kind = "boolean" || item.kind = "checkbox"

def isNumber (item : FieldSpec) : Bool := item.kind = "number" || item.kind = "integer"

/-- The text that a supplied value becomes -/
def valueText (item : FieldSpec) (value : Json) : Except Exn Str :=
  if item.multiple then multipleText value
  else if isBoolean item then booleanText value
  else if isNumber item then numberText item value
  else limitedText "Valor de campo inválido." value

/-- The check of a text against the options of its field -/
def checkOptions (item : FieldSpec) (text : Str) : Except Exn Unit :=
  if item.options.isEmpty || text.isEmpty then return
  else
    let permitted := item.options.map Json.text
    let choices := if item.multiple then splitOn (code ',') text else [text]
    raiseIf (choices.any fun choice => choice ∉ permitted)
      (badRequest "Selección fuera de las opciones permitidas.")

/-- One supplied value -/
def storeValue (fields : List (Str × FieldSpec)) (creating : Bool) (merged : Json)
    (name : Str) (value : Json) : Except Exn Json :=
  match field fields name with
  | none => .error (.builtin .keyError name)
  | some item =>
      if item.generated && isBlank value then return merged
      else if item.readonly then
        .error (badRequest "Un campo de solo lectura no admite cambios.")
      else if (item.secret || item.writeOnly) && isBlank value && !creating then return merged
      else if !item.multiple && !isBoolean item && isNumber item && value.isText [] &&
          !item.required then
        put merged name (.str [])
      else do
        let text ← valueText item value
        checkOptions item text
        put merged name (.str text)

/-- The check that a required field has a value -/
def checkRequired (merged : Json) (creating : Bool) (name : Str) (item : FieldSpec) :
    Except Exn Unit :=
  if item.required && !(item.writeOnly && !creating) then do
    let value ← get merged name
    raiseIf (isBlank value) (badRequest "Falta un campo obligatorio.")
  else return

/-- The values before the supplied ones: a new object, or the current one -/
def initialValues (fields : List (Str × FieldSpec)) (current : Json) (creating : Bool) :
    Except Exn Json :=
  if creating then creationValues current fields else return current

/-- `_values` -/
def values (spec : Spec) (supplied current : Json) (creating : Bool) : Except Exn Json :=
  match supplied with
  | .obj supplied => do
      let fields := fieldMap spec
      raiseIf (supplied.any fun (name, _) => (field fields name).isNone)
        (badRequest "Hay campos no permitidos.")
      let initial ← initialValues fields current creating
      let editable ← fields.foldlM (fun merged (name, item) =>
        if item.readonly || item.writeOnly then drop merged name else return merged)
        (normalizeEmptyOptions initial)
      let merged ← supplied.foldlM (fun merged (name, value) =>
        storeValue fields creating merged name value) editable
      fields.forM fun (name, item) => checkRequired merged creating name item
      return merged
  | _ => .error (badRequest "Se requiere un objeto values.")

/-! ## Readback -/

/-- `'' if value == {} else str(value)` -/
def observedText (value : Json) : Str := if isEmptyObject value then [] else value.text

def sortedItems (text : Str) : List Str :=
  (splitOn (code ',') text).insertionSort fun a b => strLe a b = true

/-- The comparison of one field of the readback -/
def agrees (multiple : Bool) (observed desired : Json) : Bool :=
  if multiple then sortedItems (observedText observed) = sortedItems (observedText desired)
  else observedText observed = observedText desired

def readbackMismatch : Exn :=
  raised (.new "unverified" "La lectura posterior no coincide con el cambio." 502)

/-- Whether the readback of a field is compared: it was supplied and is neither exempt nor a
blank generated one. -/
def isCompared (supplied : List (Str × Json)) (item : FieldSpec) : Bool :=
  match field supplied item.name with
  | none => false
  | some value =>
      !(item.volatile || item.readonly || item.writeOnly) && !(item.generated && isBlank value)

/-- The readback check of one field -/
def checkField (supplied : List (Str × Json)) (actual expected : Json) (item : FieldSpec) :
    Except Exn Unit :=
  if !isCompared supplied item then return
  else do
    match ← get expected item.name with
    | .null => return
    | desired =>
        let observed ← get actual item.name (.str [])
        raiseIf (!agrees item.multiple observed desired) readbackMismatch

end

end Management

end OpnsensePlugin

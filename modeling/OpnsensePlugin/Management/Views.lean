import OpnsensePlugin.Management.Crl

/-!
# Listings and details

What the administration pages read: a page of a listing and the detail of one
object, of the catalogue and of the revocation lists.
-/

namespace OpnsensePlugin

open Effects Python

/-- What `ManagementService.detail` returns. The form has the fields of the specification; where
`options` names one, with these values and labels as its options. -/
structure DetailView where
  item : List (Str × Json)
  options : List (Str × List (Str × Str))
  revision : Option Str

/-- What `list` returns, with the page that was asked for -/
structure PageView where
  rows : List (List (Str × Json))
  total : Int
  page : Int
  rowCount : Int

namespace Management

/-- An `int` that is no `bool`, between one and `max` -/
def pageNumber (value : Json) (max : Int) : Option Int :=
  match value with
  | .int number => if 1 ≤ number ∧ number ≤ max then some number else none
  | _ => none

def required {α : Type} (value : Option α) (error : Exn) : Except Exn α :=
  match value with
  | some value => .ok value
  | none => .error error

/-- A text of at most 256 characters -/
def searchText (value : Json) : Option Str :=
  match value with
  | .str text => if text.length ≤ 256 then some text else none
  | _ => none

variable [Runtime]

/-- `_public(spec, raw)` -/
def publicItem (spec : Spec) (raw : Json) : Except Exn (List (Str × Json)) := do
  let uuid ← raw.get "uuid"
  let initial : List (Str × Json) := if uuid.isStr then [("uuid", uuid)] else []
  spec.fields.foldlM (fun item known =>
    if known.secret || known.writeOnly then return setField known.name (.str []) item
    else do
      let value ← get raw known.name
      return match listedValue value with
        | some value => setField known.name value item
        | none => item) initial

/-- The options of a value, with their keys -/
def optionItems : Json → List (Str × Json)
  | .obj fields => fields
  | .arr items => items.zipIdx.map fun (child, index) => (natText index, child)
  | _ => []

/-- `{'value': key, 'label': str(value.get('value', key))}` -/
def optionLabel (key : Str) : Json → Str × Str
  | .obj fields => (key, (fieldD fields "value" (.str key)).text)
  | _ => (key, key)

/-- The text of `option['value']` for each option of a field -/
def permittedOptions (known : FieldSpec) : List Str := known.options.map Json.text

/-- The options of a field in the returned object, where it has any -/
def detailOptions (raw : Json) (known : FieldSpec) :
    Except Exn (Option (Str × List (Str × Str))) := do
  let value ← get raw known.name
  let items := optionItems value
  if known.secret || items.isEmpty || !items.all (fun (_, child) => isOption child) then
    return none
  else
    let kept := if known.options.isEmpty then items
      else items.filter fun (key, _) => key ∈ permittedOptions known
    return some (known.name, kept.map fun (key, child) => optionLabel key child)

/-- The defaults of a form that edits, or of one that creates -/
def detailDefaults (spec : Spec) (editing : Bool) (item : List (Str × Json)) :
    List (Str × Json) :=
  spec.fields.foldl (fun item known =>
    match if editing then known.editDefault else known.createDefault with
    | some value => setField known.name value item
    | none => item) item

/-- What `detail` makes of the object -/
def detailOf (spec : Spec) (uuid : Option Str) (raw : Json) : Except Exn DetailView := do
  let canonical := selectedForm raw
  let options ← spec.fields.mapM (detailOptions raw)
  let item ← publicItem spec canonical
  let item := detailDefaults spec uuid.isSome item
  match uuid with
  | some uuid => do
      let revision ← hashPayload canonical
      return ⟨setField "uuid" (.str uuid) item, options.filterMap id, some revision⟩
  | none => return ⟨item, options.filterMap id, none⟩

end Management

namespace ManagementService

open Management

variable [Runtime]

/-- The UUID that `detail` reads; `None` asks for the form of a new object. -/
def detailUuid (spec : Spec) (uuid : Option Json) : Except Exn (Option Str) := do
  let uuid : Option Str ← match uuid with
    | none => pure none
    | some uuid => do
        let uuid ← (validateUuid uuid).mapError fun _ => badRequest "UUID inválido."
        pure (some uuid)
  if spec.singleton then
    raiseIf (uuid.any (· ≠ singletonUuid))
      (badRequest "Identificador de configuración inválido.")
    return some singletonUuid
  else return uuid

/-- `detail` -/
def detail {State : Type} (spec : Spec) (uuid : Option Json) : Py Role State DetailView := do
  let uuid ← Action.ofExcept (detailUuid spec uuid)
  let object ← raw spec (uuid.getD []) .client
  Action.ofExcept (Management.detailOf spec uuid object)

/-- The arguments that `list` accepts -/
def pageArguments (page rowCount search : Json) : Except Exn (Int × Int × Str) := do
  let page ← required (pageNumber page 100000) (badRequest "Página inválida.")
  let rowCount ← required (pageNumber rowCount 200) (badRequest "Tamaño de página inválido.")
  let search ← required ((searchText search).filter fun text => 0 ∉ text)
    (badRequest "Texto de búsqueda inválido.")
  return (page, rowCount, search)

/-- `list` -/
def listPage {State : Type} (spec : Spec) (page rowCount search : Json) :
    Py Role State PageView := do
  let (page, rowCount, search) ← Action.ofExcept (pageArguments page rowCount search)
  if spec.singleton then do
    let view ← detail spec (some (.str singletonUuid))
    return ⟨[view.item], 1, page, rowCount⟩
  else do
    let target ← Action.ofExcept (path spec spec.search [])
    let out ← callGet .client target
      [("current", .int page), ("rowCount", .int rowCount), ("searchPhrase", .str search)]
    let listing ← Action.ofExcept (listingOf spec out)
    return ⟨listing.rows, listing.total, page, rowCount⟩

end ManagementService

namespace CrlService

open Management

/-- One row of a listing -/
def listedRow : Json → Except Exn (List (Str × Json))
  | .obj row => do
      let ident ← (refid (fieldD row "refid" .null)).mapError fun _ =>
        invalidResponse "Referencia CRL inválida."
      let texts := (["descr", "crl_descr"] : List Str).filterMap fun key =>
        match field row key with
        | some (.str text) => some (key, Json.str text)
        | _ => none
      return ([("uuid", .str ident), ("refid", .str ident)] : List (Str × Json)) ++ texts
  | _ => .error (invalidResponse "Fila CRL inválida.")

variable [Runtime]

def listedTotal (value : Json) (count : Nat) : Except Exn Int := do
  let invalid := invalidResponse "Total CRL inválido."
  raiseIf (isBool value || !isDigit value.text) invalid
  let total ← value.toInt
  raiseIf (total < count) invalid
  return total

/-- What `list` makes of an answer -/
def pageOf (page rowCount : Int) : Json → Except Exn PageView
  | .obj out =>
      match fieldD out "rows" .null with
      | .arr items => do
          let rows ← items.mapM listedRow
          let total ← listedTotal (fieldD out "total" .null) rows.length
          return ⟨rows, total, page, rowCount⟩
      | _ => .error (invalidResponse "Listado CRL inválido.")
  | _ => .error (invalidResponse "Listado CRL inválido.")

/-- The arguments that `list` accepts -/
def pageArguments (page rowCount search : Json) : Except Exn (Int × Int × Str) := do
  let invalid := badRequest "Paginación CRL inválida."
  let page ← required (pageNumber page 100000) invalid
  let rowCount ← required (pageNumber rowCount 200) invalid
  let search ← required (searchText search) invalid
  return (page, rowCount, search)

/-- `list` -/
def listPage {State : Type} (page rowCount search : Json) : Py Role State PageView := do
  let (page, rowCount, search) ← Action.ofExcept (pageArguments page rowCount search)
  let out ← callGet .client (base ++ "search")
    [("current", .int page), ("rowCount", .int rowCount), ("searchPhrase", .str search)]
  Action.ofExcept (pageOf page rowCount out)

/-- What `detail` returns; `choices` are the options of the seven reasons. -/
structure CrlView where
  item : List (Str × Str)
  choices : List (List (Str × Str))
  revision : Str
  present : Bool

/-- `detail` -/
def detail {State : Type} (caref : Json) : Py Role State CrlView := do
  let caref ← Action.ofExcept (refid caref)
  let state ← raw caref
  let revision ← Action.ofExcept (hashPayload state.json)
  return ⟨setField "uuid" caref state.item, state.choices, revision,
    !(state.text "descr").isEmpty⟩

end CrlService

end OpnsensePlugin

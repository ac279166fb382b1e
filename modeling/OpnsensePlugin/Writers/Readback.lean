import OpnsensePlugin.Carp

/-!
# Decoding what a firewall answers

The pure half of `writers/verified.py`: canonical values of OPNsense forms, the
comparison of a readback with a payload, acknowledgements, listings, and the
validation of UUIDs and revisions.
-/

namespace OpnsensePlugin

open Python

inductive Resource
  | portForward
  | rules
  | aliases
deriving DecidableEq

def Resource.name : Resource → Str
  | .portForward => "port_forward"
  | .rules => "rules"
  | .aliases => "aliases"

structure ResourceSpec where
  base : Str
  suffix : Str
  key : Str
  applyName : Str

/-- `SPECS` -/
def Resource.spec : Resource → ResourceSpec
  | .portForward => ⟨"/api/firewall/d_nat", "Rule", "rule", "apply"⟩
  | .rules => ⟨"/api/firewall/filter", "Rule", "rule", "apply"⟩
  | .aliases => ⟨"/api/firewall/alias", "Item", "alias", "reconfigure"⟩

/-- `ALIAS_RUNTIME_FIELDS` -/
def aliasRuntimeFields : List Str :=
  ["last_updated", "eval_match", "eval_nomatch", "in_pass_b", "in_pass_p", "out_pass_b",
    "out_pass_p", "in_block_b", "in_block_p", "out_block_b", "out_block_p"]

section

variable [Runtime]

/-- `re.fullmatch(r"[0-9a-f]{64}", value)` -/
def isRevision (value : Str) : Bool :=
  value.length = 64 && value.all fun c => isAsciiDigit c || (code 'a' ≤ c && c ≤ code 'f')

/-- `validate_revision` -/
def validateRevision : Json → Except Exn Str
  | .str value =>
      if isRevision value then .ok value
      else .error (.builtin .valueError
        "revision must be the 64-character revision returned by the latest listing")
  | _ => .error (.builtin .valueError
      "revision must be the 64-character revision returned by the latest listing")

def invalidUuid : Exn := .builtin .valueError "uuid must be a canonical UUID"

/-- `validate_uuid` -/
def validateUuid : Json → Except Exn Str
  | .str value =>
      match parseUuid value with
      | none => .error invalidUuid
      | some number =>
          if uuidText number = Runtime.lower value then .ok (Runtime.lower value)
          else .error invalidUuid
  | _ => .error (.builtin .typeError "uuid must be a UUID string")

/-! ## Form values -/

/-- `isinstance(v, dict) and "selected" in v` -/
def isOption : Json → Bool
  | .obj fields => (field fields "selected").isSome
  | _ => false

/-- `str(v["selected"]) == "1"` -/
def isSelected : Json → Bool
  | .obj fields => (fieldD fields "selected" .null).text = "1"
  | _ => false

mutual

/-- `selected`: option dictionaries become their stored values. -/
def selected : Json → Json
  | .obj fields =>
      if !fields.isEmpty && fields.all fun (_, value) => isOption value then
        .str (join "," ((fields.filter fun (_, value) => isSelected value).map (·.1)))
      else .obj (selectedFields fields)
  | value => value

def selectedFields : List (Str × Json) → List (Str × Json)
  | [] => []
  | (key, value) :: rest => (key, selected value) :: selectedFields rest

end

/-- `"" if val is None else str(val)` -/
def flatText : Json → Str
  | .null => []
  | value => value.text

mutual

/-- Enter a value under its dotted name, nested objects field by field. -/
def flattenValue (name : Str) (value : Json) (result : List (Str × Str)) : List (Str × Str) :=
  match value with
  | .obj fields => flattenFields (name ++ ".") fields result
  | value => setField name (flatText value) result

/-- `_flatten`, collecting into `result` -/
def flattenFields (path : Str) (fields : List (Str × Json)) (result : List (Str × Str)) :
    List (Str × Str) :=
  match fields with
  | [] => result
  | (key, value) :: rest => flattenFields path rest (flattenValue (path ++ key) value result)

end

def attributeError (name : Str) : Exn := .builtin .attributeError name

/-- `_flatten(value)` of a value that need not be a `dict` -/
def flatten : Json → Except Exn (List (Str × Str))
  | .obj fields => .ok (flattenFields [] fields [])
  | _ => .error (attributeError "items")

/-- `sorted(text.replace("\n", ",").split(","))` -/
def contentItems (text : Str) : List Str :=
  (splitOn (code ',') (text.map fun c => if c = code '\n' then code ',' else c)).insertionSort
    fun a b => strLe a b = true

/-- The comparison `matches` makes for one expected field. -/
def fieldMatches (key observed value : Str) : Bool :=
  if key = "protocol" then Runtime.lower observed = Runtime.lower value
  else if key = "content" then contentItems observed = contentItems value
  else observed = value

/-- `matches` -/
def matchesPayload (actual expected : Json) : Except Exn Bool := do
  let actualFlat ← flatten (selected actual)
  let expectedFlat ← flatten expected
  return expectedFlat.all fun (key, value) =>
    match field actualFlat key with
    | none => false
    | some observed => fieldMatches key observed value

/-! ## Acknowledgements -/

/-- The texts that acknowledge success. -/
def successMarkers : List Str := ["ok", "saved", "deleted", "done", "success"]

/-- `[str(response[k]).strip().lower() for k in keys if k in response]` -/
def markersOf (keys : List Str) (response : List (Str × Json)) : List Str :=
  (keys.filterMap (field response)).map fun value => Runtime.lower (strip value.text)

/-- `require_success` -/
def requireSuccess (operation : Str) : Json → Except Exn (List (Str × Json))
  | .obj response => do
      let validations := fieldD response "validations" .null
      raiseIf validations.truthy (opnsenseError
        (.rejected (operation ++ ": OPNsense rejected validation") validations))
      let markers := markersOf ["result", "status"] response
      raiseIf (markers.isEmpty || markers.any fun marker => marker ∉ successMarkers)
        (opnsenseError (.rejected (operation ++ ": OPNsense did not acknowledge success") .null))
      return response
  | _ => .error (opnsenseError (.rejected (operation ++ ": invalid API response") .null))

/-! ## Listings and details -/

abbrev Row := List (Str × Json)

/-- The rows of a listing, if all of them are objects. -/
def rowsOf (items : List Json) : Option (List Row) :=
  items.mapM fun item => match item with
    | .obj row => some row
    | _ => none

/-- `re.fullmatch(r"lockout_\d+", text)` -/
def isLockout (text : Str) : Bool :=
  ("lockout_" : Str).isPrefixOf text && isDecimal (text.drop ("lockout_" : Str).length)

/-- `str(row.get("uuid", ""))` -/
def rowUuid (row : Row) : Str := fieldText row "uuid"

/-- The number of rows that count towards `total`. -/
def countedRows (resource : Resource) (rows : List Row) : Nat :=
  rows.countP fun row => !(resource = .portForward && isLockout (rowUuid row))

def searchError (detail : Str) : Exn := opnsenseError (.plain ("search: " ++ detail))

/-- The value of `total` when it is present. -/
def listedTotal : Json → Except Exn Int
  | .int value =>
      if 0 ≤ value then .ok value else .error (searchError "invalid total")
  | .str value =>
      if value.isEmpty || !value.all isAsciiDigit then .error (searchError "invalid total")
      else match parseInt 10 value with
        | some total => .ok total
        | none => .error (searchError "invalid total")
  | _ => .error (searchError "invalid total")

/-- What `search` makes of an answer. -/
def searchRows (resource : Resource) : Json → Except Exn (List Row)
  | .obj out =>
      match field out "rows" with
      | some (.arr items) =>
          match rowsOf items with
          | none => .error (searchError "invalid row")
          | some rows =>
              match field out "total" with
              | none => .ok rows
              | some value => do
                  let total ← listedTotal value
                  raiseIf (countedRows resource rows < total)
                    (searchError "incomplete response; refusing partial verification")
                  return rows
      | _ => .error (searchError "invalid API response (rows missing)")
  | _ => .error (searchError "invalid API response (rows missing)")

def readbackError : Exn :=
  opnsenseError (.plain "readback: requested object missing or invalid")

/-- What `get` makes of an answer. -/
def detailOf (resource : Resource) : Json → Except Exn Json
  | .obj out =>
      match field out resource.spec.key with
      | some (.obj []) => .error readbackError
      | some (.obj fields) =>
          let detail := selected (.obj fields)
          if resource = .aliases then
            match detail with
            | .obj fields => .ok (.obj (fields.filter fun (key, _) => key ∉ aliasRuntimeFields))
            | _ => .error (attributeError "items")
          else .ok detail
      | _ => .error readbackError
  | _ => .error readbackError

/-- Whether an accepted listing does not contain the UUID. -/
def isAbsent (uuid : Str) (rows : List Row) : Bool :=
  !rows.any fun row => Runtime.lower (rowUuid row) = Runtime.lower uuid

/-- The set of the UUIDs of a DNAT listing, generated lockout rows left out. -/
def dnatUuids : List Row → Except Exn (List Str)
  | [] => .ok []
  | row :: rest =>
      let value := fieldD row "uuid" .null
      match value with
      | .str text =>
          if isLockout text then dnatUuids rest
          else addUuid value (dnatUuids rest)
      | _ => addUuid value (dnatUuids rest)
where
  /-- Validate one UUID before the rest of the rows. -/
  addUuid (value : Json) (rest : Except Exn (List Str)) : Except Exn (List Str) :=
    match validateUuid value with
    | .ok uuid => rest.map (uuid :: ·)
    | .error _ => .error (opnsenseError
        (.unsafeSync "Unknown DNAT row; cannot qualify last-rule cleanup"))

/-- `ids == {uuid}` -/
def isExactly (uuid : Str) (ids : List Str) : Bool :=
  !ids.isEmpty && ids.all fun id => id = uuid

end

end OpnsensePlugin

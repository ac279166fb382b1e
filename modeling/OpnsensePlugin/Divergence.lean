import OpnsensePlugin.Collectors
import OpnsensePlugin.Python.Equality

/-!
# Divergence of a cluster

`compute_divergence` compares the snapshots of two nodes section by section and
sorts what it finds. It reads the snapshots as dictionaries and takes a missing
value for `None`. The name of a row is a text or `None`.
-/

namespace OpnsensePlugin

open Effects Python

abbrev Fields := List (Str × Json)

inductive Severity
  | info
  | warning
  | error
deriving DecidableEq

structure Divergence where
  category : Str
  key : Str
  severity : Severity
  a : Json
  b : Json
  detail : Str

/-- `_eq_or_diff` -/
def eqOrDiff (category key : Str) (a b : Json) (severity : Severity) (detail : Str) :
    Option Divergence :=
  if a.same b then none else some { category, key, severity, a, b, detail }

/-- `snapshot.get(name, {}) or {}`, where the next step is a `get` on the section -/
def sectionOf (snapshot : Json) (name : Str) : Except Exn Fields := do
  let found ← member snapshot name (.obj [])
  match orObject found with
  | .obj fields => return fields
  | other => .error (noAttribute other "get")

/-- `snapshot.get(name, []) or []`, item by item -/
def listOf (snapshot : Json) (name : Str) : Except Exn (List Json) := do
  itemsOrNone (← member snapshot name (.arr []))

/-- The comparison of some fields of a section -/
def diffFields (category : Str) (compared : List (Str × Severity × Str)) (a b : Fields) :
    List Divergence :=
  compared.filterMap fun (key, severity, detail) =>
    eqOrDiff category key (fieldD a key .null) (fieldD b key .null) severity detail

def systemFields : List (Str × Severity × Str) :=
  [("config_revision", .warning, "Config revision drift — pfSync may be falling behind."),
    ("version", .info, "OPNsense version mismatch between peers."),
    ("product_id", .info, "Product/edition mismatch (Business vs Community).")]

/-- `_diff_system` -/
def diffSystem (a b : Json) : Except Exn (List Divergence) := do
  let aSys ← sectionOf a "system"
  let bSys ← sectionOf b "system"
  return diffFields "system" systemFields aSys bSys

section Carp

variable [Runtime]

def isRolePair (a b : Json) (first second : Str) : Bool := a.isText first && b.isText second

def requireHashable (value : Json) : Except Exn Unit :=
  raiseIf (!value.isHashable)
    (.builtin .typeError ("unhashable type: '" ++ typeName value ++ [code '\'']))

/-- The entry about the roles, if they are not those of a healthy pair -/
def diffRoles (roleA roleB : Json) : Option Divergence :=
  if isRolePair roleA roleB "master" "backup" || isRolePair roleA roleB "backup" "master" ||
      isRolePair roleA roleB "disabled" "disabled" then none
  else
    let split := isRolePair roleA roleB "master" "master"
    some {
      category := "carp"
      key := "role_pair"
      severity := if split then .error else .warning
      a := roleA
      b := roleB
      detail := if split then "Split-brain: both nodes report MASTER."
        else ("Unexpected CARP roles (" : Str) ++ roleA.text ++ (" / " : Str) ++ roleB.text ++
          ("); expected master+backup." : Str) }

/-- The entry about the demotion, if it differs and is not zero on both nodes -/
def diffDemotion (a b : Json) : Option Divergence :=
  if !a.truthy && !b.truthy then none
  else eqOrDiff "carp" "demotion" a b .warning
    "CARP demotion values differ — at least one node has been demoted by a link/service issue."

/-- The entries about two nodes that both report a role -/
def carpEntries (aC bC : Fields) : List Divergence :=
  let maintenance := eqOrDiff "carp" "maintenance_mode" (fieldD aC "maintenance_mode" .null)
    (fieldD bC "maintenance_mode" .null) .info "Maintenance mode enabled on one node only."
  let demotion := diffDemotion (fieldD aC "demotion" (.int 0)) (fieldD bC "demotion" (.int 0))
  (diffRoles (fieldD aC "role" .null) (fieldD bC "role" .null)).toList ++ maintenance.toList ++
    demotion.toList

/-- `_diff_carp` -/
def diffCarp (a b : Json) : Except Exn (List Divergence) := do
  let aC ← sectionOf a "carp"
  let bC ← sectionOf b "carp"
  let roleA := fieldD aC "role" .null
  let roleB := fieldD bC "role" .null
  if !roleA.truthy || !roleB.truthy then return []
  requireHashable roleA
  requireHashable roleB
  return carpEntries aC bC

end Carp

def hasyncFields : List (Str × Severity × Str) :=
  [("enabled", .error, "pfSync enabled on one node only — config drift will accumulate."),
    ("pfsync_interface", .warning, "pfSync interface differs between peers."),
    ("pfsync_version", .info, "pfSync version mismatch."),
    ("sync_compatibility", .info, "Sync compatibility setting differs.")]

/-- `_diff_hasync` -/
def diffHasync (a b : Json) : Except Exn (List Divergence) := do
  let aH ← sectionOf a "hasync"
  let bH ← sectionOf b "hasync"
  return diffFields "hasync" hasyncFields aH bH

/-! ## Rows by name -/

abbrev RowName := Option Str

/-- The rows that a dictionary by name is built from, in order -/
abbrev NamedRows := List (RowName × Fields)

/-- A name as a key of a dictionary -/
def nameOf : Json → Except Exn RowName
  | .str text => .ok (some text)
  | .null => .ok none
  | value => .error (wrongType value "a name")

/-- `rows.get(name, {}).get(key)`: of several rows with a name the last one counts. -/
def valueIn (rows : NamedRows) (name : RowName) (key : Str) : Json :=
  match rows.reverse.find? fun row => row.1 = name with
  | some row => fieldD row.2 key .null
  | none => .null

/-- `sorted(names)` of a set: `None` cannot be compared with a text. -/
def sortedNames (names : List RowName) : Except Exn (List RowName) :=
  if names.dedup.length ≤ 1 then .ok names.dedup
  else if names.all Option.isSome then .ok ((sortedSet names.reduceOption).map some)
  else .error (.builtin .typeError "'<' not supported between instances of 'NoneType' and 'str'")

/-- A row of `_diff_services`; a row without a name is left out. -/
def serviceRow : Json → Except Exn (Option (RowName × Fields))
  | .obj svc => do
      let name := fieldD svc "name" .null
      if name.truthy then return some (← nameOf name, svc) else return none
  | value => .error (noAttribute value "get")

def serviceRows (snapshot : Json) : Except Exn NamedRows := do
  let services ← sectionOf snapshot "services"
  let items ← itemsOrNone (fieldD services "items" (.arr []))
  let rows ← items.mapM serviceRow
  return rows.reduceOption

/-- A row under the key that `keyed` finds in it; what is no `dict` is left out. -/
def keyedRow (keyed : Fields → Json) : Json → Except Exn (Option (RowName × Fields))
  | .obj fields => do
      let name ← nameOf (keyed fields)
      return some (name, fields)
  | _ => .ok none

def rowName (fields : Fields) : Json := fieldD fields "name" .null

/-- The rows of a list by their names -/
def namedRows (snapshot : Json) (name : Str) : Except Exn NamedRows := do
  let items ← listOf snapshot name
  let rows ← items.mapM (keyedRow rowName)
  return rows.reduceOption

def certKey (fields : Fields) : Json :=
  let fingerprint := fieldD fields "fingerprint" .null
  if fingerprint.truthy then fingerprint else fieldD fields "descr" .null

def certRows (snapshot : Json) : Except Exn NamedRows := do
  let certs ← sectionOf snapshot "certs"
  let items ← itemsOrNone (fieldD certs "expiring_soon" (.arr []))
  let rows ← items.mapM (keyedRow certKey)
  return rows.reduceOption

/-- `str(name)` -/
def nameText (name : RowName) : Str := name.getD "None"

/-- `name or "<unnamed>"` -/
def shownName (name : RowName) : Str :=
  match name with
  | some (c :: rest) => c :: rest
  | _ => "<unnamed>"

/-- The names of the rows of both nodes, in order -/
def bothNames (rowsA rowsB : NamedRows) : Except Exn (List RowName) :=
  sortedNames (rowsA.map Prod.fst ++ rowsB.map Prod.fst)

def serviceEntry (itemsA itemsB : NamedRows) (name : RowName) : Option Divergence :=
  eqOrDiff "services" (nameText name) (valueIn itemsA name "running")
    (valueIn itemsB name "running") .warning
    (("Service '" : Str) ++ nameText name ++ ("' running state differs." : Str))

/-- `_diff_services` -/
def diffServices (a b : Json) : Except Exn (List Divergence) := do
  let itemsA ← serviceRows a
  let itemsB ← serviceRows b
  let names ← bothNames itemsA itemsB
  return names.filterMap (serviceEntry itemsA itemsB)

def gatewayEntry (rowsA rowsB : NamedRows) (name : RowName) : Option Divergence :=
  eqOrDiff "gateways" (shownName name) (valueIn rowsA name "status") (valueIn rowsB name "status")
    .warning
    (("Gateway '" : Str) ++ nameText name ++ ("' reports different status on each node." : Str))

/-- `_diff_gateways` -/
def diffGateways (a b : Json) : Except Exn (List Divergence) := do
  let rowsA ← namedRows a "gateways"
  let rowsB ← namedRows b "gateways"
  let names ← bothNames rowsA rowsB
  return names.filterMap (gatewayEntry rowsA rowsB)

/-- `value in {"up", "down", None, ""}` -/
def isLinkState (value : Json) : Bool :=
  value.isText "up" || value.isText "down" || value.isText [] ||
    match value with
    | .null => true
    | _ => false

/-- The entry of `_diff_interfaces` for two link states -/
def diffLink (name : RowName) (a b : Json) : Except Exn (Option Divergence) := do
  if a.same b then return none
  requireHashable a
  requireHashable b
  if isLinkState a && isLinkState b then
    return eqOrDiff "interfaces" (shownName name) a b .warning
      (("Interface '" : Str) ++ nameText name ++ ("' link state differs." : Str))
  return none

/-- `_diff_interfaces` -/
def diffInterfaces (a b : Json) : Except Exn (List Divergence) := do
  let rowsA ← namedRows a "interfaces"
  let rowsB ← namedRows b "interfaces"
  let names ← bothNames rowsA rowsB
  let found ← names.mapM fun name =>
    diffLink name (valueIn rowsA name "link") (valueIn rowsB name "link")
  return found.reduceOption

/-- The names of the rows that have no counterpart, in order -/
def onlyNames (rows others : NamedRows) : Except Exn (List RowName) :=
  sortedNames ((rows.map Prod.fst).filter fun name => name ∉ others.map Prod.fst)

/-- An entry of `_diff_certs` -/
def certEntry (a b : Str) (detail : Str) (name : RowName) : Divergence where
  category := "certs"
  key := nameText name
  severity := .info
  a := .str a
  b := .str b
  detail := detail

/-- The entries about the certificates of each node alone -/
def certEntries (onlyA onlyB : List RowName) : List Divergence :=
  onlyA.map (certEntry "present" "missing" "Certificate (expiring soon) present on A only.") ++
    onlyB.map (certEntry "missing" "present" "Certificate (expiring soon) present on B only.")

/-- `_diff_certs` -/
def diffCerts (a b : Json) : Except Exn (List Divergence) := do
  let rowsA ← certRows a
  let rowsB ← certRows b
  let onlyA ← onlyNames rowsA rowsB
  let onlyB ← onlyNames rowsB rowsA
  return certEntries onlyA onlyB

/-! ## All sections -/

/-- `rank` -/
def Severity.rank : Severity → Nat
  | .error => 0
  | .warning => 1
  | .info => 2

/-- The order of the entries: by severity, then by category, then by key -/
def Divergence.le (first second : Divergence) : Bool :=
  first.severity.rank < second.severity.rank ||
    (first.severity.rank = second.severity.rank &&
      ((first.category ≠ second.category && strLe first.category second.category) ||
        (first.category = second.category && strLe first.key second.key)))

def sortEntries (entries : List Divergence) : List Divergence :=
  entries.insertionSort fun first second => first.le second = true

/-- `compute_divergence` -/
def computeDivergence [Runtime] (a b : Json) : Except Exn (List Divergence) := do
  let system ← diffSystem a b
  let carp ← diffCarp a b
  let hasync ← diffHasync a b
  let services ← diffServices a b
  let gateways ← diffGateways a b
  let interfaces ← diffInterfaces a b
  let certs ← diffCerts a b
  return sortEntries (system ++ carp ++ hasync ++ services ++ gateways ++ interfaces ++ certs)

end OpnsensePlugin

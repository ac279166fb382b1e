import OpnsensePlugin.Management.Form
import OpnsensePlugin.Writers.Verified

/-!
# Catalogue mutations

`ManagementService.mutate`: a request is checked, the current object read, the
change posted and applied, and the outcome read back. The local variables that
the handler of an error looks at are the state of the code in the `try`
statement.
-/

namespace OpnsensePlugin

open Effects Python

structure ManagementService where
  client : Host
  peer : Option Host
  actor : Str

/-- The variables `stage`, `uuid` and `confirmed_uuid` of `_mutate` -/
structure Mutation where
  stage : Stage
  uuid : Str
  confirmedUuid : Option Str

/-- What `_mutate` returns; `ok`, `config_saved` and `verified` are always true. -/
structure MutateResult where
  uuid : Str
  action : WriteAction
  applied : Bool
  secretChangeAcknowledged : Bool

/-- A request that `mutate` has accepted -/
structure MutateRequest where
  action : WriteAction
  uuid : Str
  revision : Str
  body : List (Str × Json)

def singletonUuid : Str := "00000000-0000-0000-0000-000000000000"

/-- `except ManagementError` -/
def isManagement : Exn → Bool
  | .custom (.management _) => true
  | _ => false

namespace Management

variable [Runtime]

/-! ## Calls -/

/-- The errors of `_call` -/
def callError : Failure → ManagementError
  | .auth _ => .new "auth" "OPNsense denegó acceso a esta operación." 401
  | .timeout _ => .new "timeout" "OPNsense no respondió a tiempo." 504
  | .error detail =>
      if contains "HTTP 404" detail then .new "unsupported" "La API no está disponible." 502
      else .new "upstream" "Falló la comunicación con OPNsense." 502

def called : Reply → Except Exn Json
  | .ok value => .ok value
  | .error failure => .error (raised (callError failure))

/-- `_call('get', …)` -/
def callGet {State : Type} (role : Role) (path : Str) (params : List (Str × Json) := []) :
    Py Role State Json := do
  let reply ← Action.ask (.get role path params)
  Action.ofExcept (called reply)

/-- `_call('post', …)`, which sends `payload or {}` -/
def callPost {State : Type} (role : Role) (path : Str) (payload : Json) :
    Py Role State Json := do
  let reply ← Action.ask (.post role path (if payload.truthy then payload else .obj []))
  Action.ofExcept (called reply)

/-- `text.rstrip('/')` -/
def rstripSlashes (text : Str) : Str := (text.reverse.dropWhile (· = code '/')).reverse

/-- `_path(spec, operation, uuid)`, given `spec.get(operation)` -/
def path (spec : Spec) (operation : Option Str) (uuid : Str) : Except Exn Str :=
  match operation with
  | none | some [] => .error (raised (.new "unsupported" "Esta operación no está disponible." 405))
  | some path =>
      let full := if ("/api/" : Str).isPrefixOf path then path
        else rstripSlashes spec.base ++ "/" ++ path
      .ok (rstripSlashes full ++ if !uuid.isEmpty && !spec.singleton then "/" ++ uuid else [])

/-- The object that `_raw` takes from an answer -/
def rawOf (spec : Spec) (response : Json) : Except Exn Json :=
  match response with
  | .obj _ => do
      match ← get response spec.key with
      | .obj (head :: rest) => return .obj (head :: rest)
      | _ => .error (invalidResponse "No se recibió el objeto solicitado.")
  | _ => .error (invalidResponse "No se recibió el objeto solicitado.")

/-- `_raw` -/
def raw {State : Type} (spec : Spec) (uuid : Str) (role : Role) : Py Role State Json := do
  let target ← Action.ofExcept (path spec spec.get uuid)
  let response ← callGet role target
  Action.ofExcept (rawOf spec response)

/-! ## Listings -/

/-- A value that a row keeps -/
def listedValue (value : Json) : Option Json :=
  match value with
  | .obj [] => some (.str [])
  | .str _ | .bool _ | .int _ | .float _ => some value
  | _ => none

/-- `_public(spec, raw, True)` -/
def publicRow (spec : Spec) (raw : Json) : Except Exn (List (Str × Json)) := do
  let uuid ← raw.get "uuid"
  let initial : List (Str × Json) := if uuid.isStr then [("uuid", uuid)] else []
  spec.fields.foldlM (fun row item =>
    if item.secret || item.writeOnly then return row
    else do
      let value ← get raw item.name
      return match listedValue value with
        | some value => setField item.name value row
        | none => row) initial

structure Listing where
  rows : List (List (Str × Json))
  total : Int

def invalidTotal : Exn := invalidResponse "Total de objetos inválido."

/-- The `total` of an answer with `count` rows -/
def totalOf (out : List (Str × Json)) (count : Nat) : Except Exn Int :=
  match field out "total" with
  | none => .error invalidTotal
  | some value =>
      match (value.toInt : Except Exn Int) with
      | .error error => if error.isValueOrType then .error invalidTotal else .error error
      | .ok total => if isBool value || total < count then .error invalidTotal else .ok total

/-- What `list` makes of an answer -/
def listingOf (spec : Spec) : Json → Except Exn Listing
  | .obj out =>
      match field out "rows" with
      | some (.arr rows) => do
          raiseIf (rows.any fun row => !row.isObj) (invalidResponse "Lista de objetos inválida.")
          let total ← totalOf out rows.length
          let rows ← rows.mapM fun row => publicRow spec (selectedForm row)
          return { rows, total }
      | _ => .error (invalidResponse "Lista de objetos inválida.")
  | _ => .error (invalidResponse "Lista de objetos inválida.")

def pageSize : Nat := 200

/-- `list(spec, page=page, row_count=200)` of a resource that is not a singleton -/
def list {State : Type} (spec : Spec) (role : Role) (page : Nat) : Py Role State Listing := do
  let target ← Action.ofExcept (path spec spec.search [])
  let out ← callGet role target
    [("current", .int page), ("rowCount", .int pageSize), ("searchPhrase", .str [])]
  Action.ofExcept (listingOf spec out)

/-- `any(row.get('uuid', '').lower() == uuid for row in rows)` -/
def hasUuid (uuid : Str) : List (List (Str × Json)) → Except Exn Bool
  | [] => .ok false
  | row :: rest =>
      match fieldD row "uuid" (.str []) with
      | .str text => if Runtime.lower text = uuid then .ok true else hasUuid uuid rest
      | _ => .error (attributeError "lower")

/-- What a page of a scan adds: it is the last one, too short, or full. -/
inductive ScanProgress
  | complete
  | short
  | full (observed : Nat)

/-- One page of a scan, after `observed` rows of earlier pages -/
def scanPage {State : Type} (spec : Spec) (role : Role) (uuid : Str) (present : Exn)
    (page observed : Nat) : Py Role State ScanProgress := do
  let listing ← list spec role page
  let found ← Action.ofExcept (hasUuid uuid listing.rows)
  Action.raiseIf found present
  let count := observed + listing.rows.length
  return if listing.total ≤ count then .complete
    else if listing.rows.length < pageSize then .short
    else .full count

/-- The scan for a deleted object, from page `page` on; at most `remaining` pages may follow. -/
def scan {State : Type} (spec : Spec) (role : Role) (uuid : Str) (present incomplete : Exn)
    (page observed : Nat) : Nat → Py Role State Unit
  | 0 => do
      match ← scanPage spec role uuid present page observed with
      | .complete => return
      | _ => Action.raise incomplete
  | remaining + 1 => do
      match ← scanPage spec role uuid present page observed with
      | .complete => return
      | .short => Action.raise incomplete
      | .full count => scan spec role uuid present incomplete (page + 1) count remaining

/-- The scan of all pages; page 1000 is the last. -/
def scanAll {State : Type} (spec : Spec) (role : Role) (uuid : Str)
    (present incomplete : Exn) : Py Role State Unit :=
  scan spec role uuid present incomplete 1 0 999

end Management

namespace ManagementService

open Management

variable [Runtime]

/-! ## Requests -/

/-- The action of a request, if it is one of the three -/
def actionOf (body : List (Str × Json)) : Option WriteAction :=
  let action := fieldD body "action" .null
  [WriteAction.create, .update, .delete].find? fun known => action.isText known.name

def operation (spec : Spec) : WriteAction → Option Str
  | .create => spec.add
  | .update => spec.set
  | .delete => spec.delete

/-- The UUID and the revision of a request -/
def identity (spec : Spec) (action : WriteAction) (body : List (Str × Json)) :
    Except Exn (Str × Str) :=
  if action = .create then return ([], [])
  else do
    let invalid := badRequest "UUID o revisión inválidos."
    let uuid ← (validateUuid (fieldD body "uuid" .null)).mapError fun _ => invalid
    let revision ← (validateRevision (fieldD body "revision" .null)).mapError fun _ => invalid
    raiseIf (spec.singleton && uuid ≠ singletonUuid)
      (badRequest "Identificador de configuración inválido.")
    return (uuid, revision)

/-- The checks of `mutate` before it takes the lock -/
def accept (service : ManagementService) (spec : Spec) (body : Json) :
    Except Exn MutateRequest := do
  raiseIf (service.peer.isSome && !spec.haSafe) (raised (.new "ha_unqualified"
    "Este módulo aún no tiene escritura HA verificada." 409))
  match body with
  | .obj body =>
      match actionOf body with
      | some action => do
          raiseIf (spec.singleton && action ≠ .update) (raised (.new "unsupported"
            "Esta configuración solo admite actualización." 405))
          let (uuid, revision) ← identity spec action body
          let _ ← path spec (operation spec action) uuid
          raiseIf (!spec.apply.truthy && !spec.persistenceOnly) (raised (.new "unsupported"
            "No hay acción de aplicación verificada." 405))
          return { action, uuid, revision, body }
      | none => .error (badRequest "Acción inválida.")
  | _ => .error (badRequest "Acción inválida.")

/-! ## Audit -/

def auditEntry (service : ManagementService) (spec : Spec) (action : WriteAction)
    (uuid result payloadSha256 : Str) (started now : Clock) : AuditEntry where
  ts := now.utcIso
  user := service.actor
  action := spec.id ++ "." ++ action.name
  target := uuid
  host := service.client.name
  result := result
  durationMs := now.monotonicMs - started.monotonicMs
  detail := []
  payloadSha256 := payloadSha256

def auditError : Exn := raised (.new "audit" "No se pudo persistir la auditoría." 503)

/-- `_audit` -/
def audit {State : Type} (service : ManagementService) (spec : Spec) (action : WriteAction)
    (uuid result : Str) (payload : Json) (started : Clock) : Py Role State Unit := do
  let hash ← Action.ofExcept (hashPayload payload)
  let now ← readClock
  let stored ← (auditAppend
    (service.auditEntry spec action uuid result hash started now)).attempt Raised.isOsError
  match stored with
  | .ok () => return
  | .error _ => Action.raise auditError

/-! ## Before the change -/

/-- The intended object; `None` for a delete -/
def intended (spec : Spec) (request : MutateRequest) (current : Json) : Except Exn Json :=
  if request.action = .delete then return .null
  else do
    let merged ← values spec (fieldD request.body "values" .null) current
      (request.action = .create)
    match spec.prepare with
    | some prepare => hookOutcome (prepare merged current request.action.name)
    | none => return merged

def payloadOf (spec : Spec) : Json → Except Exn Json
  | .null => return .obj []
  | expected => put (.obj []) spec.key expected

/-- The current object of an update or a delete is the one the revision was computed from. -/
def checkCurrent (request : MutateRequest) (current : Json) : Except Exn Unit :=
  if request.action = .create then return
  else do
    let hash ← hashPayload current
    raiseIf (hash ≠ request.revision)
      (raised (.new "conflict" "El objeto cambió; vuelve a cargarlo." 409))

/-- `_mutate` up to the change: the intended object and the payload -/
def prepare {State : Type} (service : ManagementService) (spec : Spec)
    (request : MutateRequest) (started : Clock) : Py Role State (Json × Json) := do
  let object ← raw spec request.uuid .client
  let current := selectedForm object
  Action.ofExcept (checkCurrent request current)
  let expected ← Action.ofExcept (intended spec request current)
  let payload ← Action.ofExcept (payloadOf spec expected)
  service.audit spec request.action request.uuid "started" payload started
  return (expected, payload)

/-! ## The change -/

/-- The UUID that an acknowledged save confirms -/
def confirmedUuid (action : WriteAction) (uuid : Str) (response : Json) : Except Exn Str :=
  if action = .create then do
    let created ← response.get "uuid"
    (validateUuid created).mapError fun _ =>
      invalidResponse "Creación sin UUID confirmado; revisa el estado."
  else return uuid

/-- `_mutate` from the change to its confirmation -/
def save (spec : Spec) (request : MutateRequest) (payload : Json) : Py Role Mutation Unit := do
  let target ← Action.ofExcept (path spec (operation spec request.action) request.uuid)
  let response ← callPost .client target payload
  Action.ofExcept (ack spec false response)
  let uuid ← Action.ofExcept (confirmedUuid request.action request.uuid response)
  Action.modifyState fun mutation =>
    { mutation with uuid, confirmedUuid := some uuid, stage := .apply }

/-- The apply steps in their order -/
def applyAll (spec : Spec) : List Str → Py Role Mutation Unit
  | [] => return
  | target :: rest => do
      let response ← callPost .client target (.obj [])
      Action.ofExcept (ack spec true response)
      applyAll spec rest

def applyChange (spec : Spec) : Py Role Mutation Unit := do
  Action.raiseIf (spec.apply.list.isEmpty && !spec.persistenceOnly)
    (raised (.new "unsupported" "No hay acción de aplicación verificada." 502))
  applyAll spec spec.apply.list
  Action.modifyState fun mutation => { mutation with stage := .verify }

/-! ## Verification -/

def supplied (request : MutateRequest) : List (Str × Json) :=
  match fieldD request.body "values" (.obj []) with
  | .obj supplied => supplied
  | _ => []

/-- The `verify` hook of a specification that has one -/
def runVerify (spec : Spec) (actual expected : Json) (action : WriteAction) : Except Exn Unit :=
  match spec.verify with
  | some verify => hookOutcome (verify actual expected action.name)
  | none => return

/-- The readback of a created or updated object -/
def readBack (spec : Spec) (request : MutateRequest) (expected : Json) (uuid : Str) :
    Py Role Mutation Json := do
  let object ← raw spec uuid .client
  let actual := selectedForm object
  Action.ofExcept (spec.fields.forM fun item =>
    checkField (supplied request) actual expected item)
  Action.ofExcept (runVerify spec actual expected request.action)
  return actual

/-- The comparison of the object of the peer with the readback -/
def comparePeer (spec : Spec) (uuid : Str) (actual : Json) : Py Role Mutation Unit := do
  let object ← raw spec uuid .peer
  let there ← Action.ofExcept (hashPayload (selectedForm object))
  let here ← Action.ofExcept (hashPayload actual)
  Action.raiseIf (there ≠ here)
    (raised (.new "ha_unverified" "El objeto del peer no coincide." 409))

/-- The verification on the local node, and on the peer where there is one -/
def verifyChange (service : ManagementService) (spec : Spec) (request : MutateRequest)
    (expected : Json) (uuid : Str) : Py Role Mutation Unit :=
  if request.action = .delete then do
    scanAll spec .client uuid
      (raised (.new "unverified" "El objeto sigue presente tras eliminarlo." 502))
      (raised (.new "unverified" "No se pudo verificar la lista completa." 502))
    if service.peer.isSome then
      scanAll spec .peer uuid
        (raised (.new "ha_unverified" "El peer todavía contiene el objeto." 409))
        (raised (.new "ha_unverified" "No se verificó la lista completa del peer." 409))
    else return
  else do
    let actual ← readBack spec request expected uuid
    if service.peer.isSome then comparePeer spec uuid actual else return

/-- Whether the request sets a field that cannot be read back -/
def changesSecret (request : MutateRequest) : List FieldSpec → Except Exn Bool
  | [] => .ok false
  | item :: rest =>
      if item.writeOnly then do
        let value ← (fieldD request.body "values" (.obj [])).get item.name
        if isBlank value then changesSecret request rest else return true
      else changesSecret request rest

/-- The body of the `try` statement of `_mutate` -/
def attemptMutation (service : ManagementService) (spec : Spec) (request : MutateRequest)
    (expected payload : Json) (started : Clock) : Py Role Mutation MutateResult := do
  save spec request payload
  applyChange spec
  let mutation ← Action.readState
  service.verifyChange spec request expected mutation.uuid
  service.audit spec request.action mutation.uuid "ok" payload started
  let secret ← Action.ofExcept (changesSecret request spec.fields)
  return { uuid := mutation.uuid, action := request.action, applied := !spec.apply.list.isEmpty,
           secretChangeAcknowledged := secret }

/-! ## The handler -/

/-- The report of an error that the change ended with -/
def report (mutation : Mutation) (error : ManagementError) : ManagementError :=
  { error with
    isPartial := !(error.error = "validation" && mutation.stage = .save)
    stage := some mutation.stage
    uuid := mutation.confirmedUuid }

/-- The handler of the `try` statement of `_mutate` -/
def recover (service : ManagementService) (spec : Spec) (request : MutateRequest)
    (payload : Json) (started : Clock) (error : Exn) : Py Role Mutation MutateResult :=
  match error with
  | .custom (.management error) => do
      let mutation ← Action.readState
      let stored ← (service.audit spec request.action mutation.uuid "error" payload
        started).attempt isManagement
      match stored with
      | .ok () => Action.raise (raised (report mutation error))
      | .error _ => Action.raise (raised { report mutation error with auditFailure := true })
  | error => Action.raise error

/-- The `try` statement of `_mutate` -/
def change (service : ManagementService) (spec : Spec) (request : MutateRequest)
    (expected payload : Json) (started : Clock) : Py Role Mutation MutateResult :=
  (service.attemptMutation spec request expected payload started).handle
    (service.recover spec request payload started)

/-- `_mutate` -/
def mutateLocked (service : ManagementService) (spec : Spec) (request : MutateRequest) :
    Py Role Unit MutateResult := do
  let started ← readClock
  let (expected, payload) ← service.prepare spec request started
  let (result, _) ← Action.withState ⟨.save, request.uuid, none⟩
    (service.change spec request expected payload started)
  return result

def lockKey (service : ManagementService) (spec : Spec) : LockKey :=
  (service.client.url, spec.id)

/-- `mutate` -/
def mutate (service : ManagementService) (spec : Spec) (body : Json) :
    Py Role Unit MutateResult := do
  let request ← Action.ofExcept (service.accept spec body)
  let _ ← Action.ask (.acquireGuard .managementLocks)
  let lock ← Action.ask (.lockFor .managementLocks (service.lockKey spec))
  let _ ← Action.ask (.releaseGuard .managementLocks)
  let _ ← Action.ask (.acquire lock)
  (service.mutateLocked spec request).finallyDo do
    let _ ← Action.ask (.release lock)

end ManagementService

end OpnsensePlugin

import OpnsensePlugin.Routes.FirewallForm
import OpnsensePlugin.Routes.Legacy
import OpnsensePlugin.Writers.Verified

/-!
# Firewall routes

The pages of port forwards, rules and aliases: the listing, the detail of one
object, and the action that creates, updates or deletes one.
-/

namespace OpnsensePlugin

open Effects Python

section Results

variable [Runtime]

/-- `asdict(entry)` -/
def AuditEntry.json (entry : AuditEntry) : Json :=
  .obj [("ts", .str entry.ts), ("user", .str entry.user), ("action", .str entry.action),
    ("target", .str entry.target), ("host", .str entry.host), ("result", .str entry.result),
    ("duration_ms", .int entry.durationMs), ("detail", .str entry.detail),
    ("payload_sha256", .str entry.payloadSha256)]

def SyncResult.json (result : SyncResult) : Json :=
  let cleanup : List (Str × Json) := match result.peerCleanup with
    | some cleanup => [("peer_cleanup", cleanup.json)]
    | none => []
  .obj (([("triggered", .bool result.triggered), ("mode", .str result.mode.name),
    ("verified", .bool result.verified), ("attempts", .int result.attempts),
    ("detail", .str result.detail)] : List (Str × Json)) ++ cleanup)

def WriteError.name : WriteError → Str
  | .haUnverified => "ha_unverified"
  | .haUnsafe => "ha_unsafe"
  | .conflict => "conflict"
  | .auth => "auth"
  | .timeout => "timeout"
  | .validation => "validation"
  | .upstream => "upstream"
  | .audit => "audit"

def ExecuteResult.json (result : ExecuteResult) : Json :=
  let error : List (Str × Json) := match result.error with
    | some error => [("error", .str error.name)]
    | none => []
  let validations : List (Str × Json) := match result.validations with
    | some validations => [("validations", validations)]
    | none => []
  .obj (([("ok", .bool result.ok), ("uuid", .str result.uuid),
    ("action", .str result.action.name), ("detail", .str result.detail),
    ("verified", .bool result.verified), ("applied", .bool result.applied),
    ("sync", (result.sync.map SyncResult.json).getD .null),
    ("rollback", result.rollback.json),
    ("audit", (result.audit.map AuditEntry.json).getD .null)] : List (Str × Json)) ++ error ++
      validations)

/-- The status of an action that has failed -/
def WriteError.status : WriteError → Nat
  | .validation => 422
  | .auth => 401
  | .timeout => 504
  | .haUnverified | .haUnsafe | .conflict => 409
  | .upstream | .audit => 502

def ExecuteResult.response (result : ExecuteResult) : Response :=
  if result.ok then (200, .obj [("ok", .bool true), ("data", result.json)])
  else
    let error := result.error.getD .upstream
    (error.status, .obj [("ok", .bool false), ("data", result.json), ("error", .str error.name),
      ("detail", .str result.detail)])

end Results

/-- What the configuration gives to the firewall routes; the attempts are those that the constructor
of the writer accepts. -/
structure FirewallSettings where
  host : Host
  peerHost : Option Host
  actor : Str
  readOnly : Bool
  haVerifyAttempts : Nat
  haSyncMode : HaSyncMode
  attempts_pos : 1 ≤ haVerifyAttempts
  attempts_le_ten : haVerifyAttempts ≤ 10

namespace FirewallRoute

open FirewallForm

variable [Runtime] {State : Type}

/-- `_error` -/
def errorResponse (error : Exn) : Response :=
  let supported : List (Str × Json) :=
    if contains "HTTP 404" (excText error) then [("supported", .bool false)] else []
  let refused (status : Nat) (name : Str) : Response :=
    (status, .obj (([("ok", .bool false), ("error", .str name),
      ("detail", .str (excText error))] : List (Str × Json)) ++ supported))
  match error with
  | .custom (.opnsense (.auth _)) => refused 401 "auth"
  | .custom (.opnsense (.timeout _)) => refused 504 "timeout"
  | _ => refused 502 "upstream"

def badRequest (error : Exn) : Response := refusal 400 "bad_request" (excText error)

def capabilities : List (Str × Json) :=
  [("supported", .bool true), ("capabilities", .obj [("create", .bool true),
    ("update", .bool true), ("delete", .bool true)])]

/-- A writer that only reads, as the listing and the detail construct it -/
def reader (host : Host) (resource : Resource) : VerifiedFirewallWriter where
  client := host
  peer := none
  resource := resource
  actor := "plugin"
  haVerifyAttempts := 6
  haSyncMode := .automatic
  attempts_pos := one_le_six_attempts
  attempts_le_ten := six_attempts_le_ten

/-- The entry of one object, read in full -/
def itemOf (resource : Resource) (uuid : Str) (detail : Json) : Except Exn (List (Str × Json)) := do
  let shown ← normalize resource detail
  let revision ← hashPayload detail
  return updateFields [("uuid", .str uuid), ("editable", .bool true), ("revision", .str revision)]
    shown

/-- The entry of one row of the search grid -/
def listedItem (host : Host) (resource : Resource) (summary : Bool) (row : Row) :
    Py Role State (List (Str × Json)) :=
  match validateUuid (fieldD row "uuid" .null) with
  | .error _ => do
      let shown ← Action.ofExcept (normalize resource (.obj row))
      return updateFields [("editable", .bool false)] shown
  | .ok uuid =>
      if summary then do
        let shown ← Action.ofExcept (normalize resource (.obj row))
        return updateFields [("uuid", .str uuid), ("editable", .bool true),
          ("detail_required", .bool true)] shown
      else do
        let detail ← (reader host resource).get uuid .client
        Action.ofExcept (itemOf resource uuid detail)

def listedItems (host : Host) (resource : Resource) (summary : Bool) :
    List Row → Py Role State (List Json)
  | [] => return []
  | row :: rest => do
      let item ← listedItem host resource summary row
      let items ← listedItems host resource summary rest
      return .obj item :: items

def listKey : Resource → Str
  | .aliases => "aliases"
  | _ => "rules"

/-- `except (OPNsenseError, ValueError)` -/
def isListError (error : Exn) : Bool := isOpnsense error || isValueError error

/-- `build_firewall_list_payload` -/
def listPayload (host : Host) (resource : Resource) (summary : Bool) : Py Role State Response := do
  let outcome ← Action.attempt isListError do
    Action.ofExcept (requireHttps host)
    let rows ← (reader host resource).search .client
    listedItems host resource summary rows
  match outcome with
  | .ok items =>
      return (200, .obj [("ok", .bool true), ("data", .obj
        (([(listKey resource, .arr items), ("total", .int items.length)] : List (Str × Json)) ++
          capabilities))])
  | .error error => return errorResponse error

/-- The request of a detail -/
def readItem (host : Host) (resource : Resource) (uuid : Str) :
    Py Role State (List (Str × Json)) := do
  Action.ofExcept (requireHttps host)
  let detail ← (reader host resource).get uuid .client
  Action.ofExcept (itemOf resource uuid detail)

/-- `build_firewall_detail_payload` -/
def detailPayload (host : Host) (resource : Resource) (uuid : Json) : Py Role State Response :=
  match validateUuid uuid with
  | .error error => return badRequest error
  | .ok uuid => do
      let outcome ← Action.attempt isOpnsense (readItem host resource uuid)
      match outcome with
      | .ok item =>
          return (200, .obj [("ok", .bool true), ("data", .obj
            (([("item", .obj item)] : List (Str × Json)) ++ capabilities))])
      | .error error => return errorResponse error

/-! ## Actions -/

/-- The arguments of `execute` that a request gives -/
structure ActionRequest where
  action : WriteAction
  payload : Json
  uuid : Str
  revision : Str

/-- The action that a request names -/
def actionOf (body : List (Str × Json)) : Option WriteAction :=
  let action := fieldD body "action" .null
  [WriteAction.create, .update, .delete].find? fun known => action.isText known.name

/-- The checks of `build_firewall_action_payload` -/
def actionRequest (resource : Resource) : Json → Except Exn ActionRequest
  | .obj body =>
      match actionOf body with
      | none => .error (valueError "action must be create|update|delete")
      | some action => do
          let uuid ← if action = .create then pure []
            else validateUuid (fieldD body "uuid" .null)
          let revision ← if action = .create then pure []
            else validateRevision (fieldD body "revision" .null)
          let payload ← if action = .delete then pure .null
            else parsePayload resource (fieldD body resource.spec.key .null)
          return { action, payload, uuid, revision }
  | _ => .error (valueError "Expected a JSON object and valid resource")

def writerOf (settings : FirewallSettings) (resource : Resource) : VerifiedFirewallWriter where
  client := settings.host
  peer := settings.peerHost
  resource := resource
  actor := settings.actor
  haVerifyAttempts := settings.haVerifyAttempts
  haSyncMode := settings.haSyncMode
  attempts_pos := settings.attempts_pos
  attempts_le_ten := settings.attempts_le_ten

/-- The attributes of a new writer -/
def newExecution (request : ActionRequest) : Execution where
  syncPlan := none
  peerDeleteRevision := none
  result := .initial request.action request.uuid
  accepted := false
  uuid := request.uuid

def requireHttpsOf (settings : FirewallSettings) : Except Exn Unit := do
  requireHttps settings.host
  match settings.peerHost with
  | some peer => requireHttps peer
  | none => return

/-- The handlers of `build_firewall_action_payload` -/
def isActionError (error : Exn) : Bool :=
  error.isValueOrType || isOpnsense error || error.isOsError

/-- The `try` statement of `build_firewall_action_payload` -/
def attemptAction (settings : FirewallSettings) (resource : Resource) (body : Json) :
    Py Role State ExecuteResult := do
  let request ← Action.ofExcept (actionRequest resource body)
  Action.ofExcept (requireHttpsOf settings)
  let (result, _) ← Action.withState (newExecution request)
    ((writerOf settings resource).execute request.action request.payload request.uuid
      request.revision)
  return result

/-- `build_firewall_action_payload` -/
def actionPayload (settings : FirewallSettings) (resource : Resource) (body : Json) :
    Py Role State Response :=
  if settings.readOnly then return refusal 403 "read_only" "Plugin is read-only"
  else do
    let outcome ← (attemptAction settings resource body).attempt isActionError
    match outcome with
    | .ok result => return result.response
    | .error error =>
        return if error.isValueOrType then badRequest error else errorResponse error

end FirewallRoute

end OpnsensePlugin

import OpnsensePlugin.Writers.Preflight

/-!
# Verified writer: synchronization and execution

`execute` changes one object, applies the change, reads it back locally and on
the peer, and records the outcome. The attributes of the writer and the local
variables of `_execute` are one state, so that what a failing step has already
assigned is still there when the failure is handled.
-/

namespace OpnsensePlugin

open Effects Python

inductive WriteAction
  | create
  | update
  | delete
deriving DecidableEq

def WriteAction.name : WriteAction → Str
  | .create => "create"
  | .update => "update"
  | .delete => "delete"

def WriteAction.verb : WriteAction → Str
  | .create => "add"
  | .update => "set"
  | .delete => "del"

structure Cleanup where
  attempted : Bool
  deleted : Bool
  applied : Bool
  verified : Bool
deriving DecidableEq

/-- The result of `_sync` -/
structure SyncResult where
  triggered : Bool
  mode : HaSyncMode
  verified : Bool
  attempts : Nat
  detail : Str
  peerCleanup : Option Cleanup
deriving DecidableEq

structure Rollback where
  attempted : Bool
  verified : Bool
  localVerified : Bool
  peerVerified : Option Bool
  detail : Str
deriving DecidableEq

inductive WriteError
  | haUnverified
  | haUnsafe
  | conflict
  | auth
  | timeout
  | validation
  | upstream
  | audit
deriving DecidableEq

/-- The result of `_execute` -/
structure ExecuteResult where
  ok : Bool
  uuid : Str
  action : WriteAction
  detail : Str
  verified : Bool
  applied : Bool
  sync : Option SyncResult
  rollback : Rollback
  audit : Option AuditEntry
  error : Option WriteError
  validations : Option Json

/-- The attributes `_sync_plan` and `_peer_delete_revision` and the variables of `_execute`. -/
structure Execution where
  syncPlan : Option SyncPlan
  peerDeleteRevision : Option Str
  result : ExecuteResult
  accepted : Bool
  uuid : Str

def ExecuteResult.initial (action : WriteAction) (uuid : Str) : ExecuteResult where
  ok := false
  uuid := uuid
  action := action
  detail := []
  verified := false
  applied := false
  sync := none
  rollback := ⟨false, false, false, none, "Not required"⟩
  audit := none
  error := none
  validations := none

def SyncResult.initial (mode : HaSyncMode) : SyncResult where
  triggered := false
  mode := mode
  verified := false
  attempts := 0
  detail := []
  peerCleanup := none

/-! ## Texts of the audit record -/

section Texts

variable [Runtime]

def Rollback.json (rollback : Rollback) : Json :=
  .obj [("attempted", .bool rollback.attempted), ("verified", .bool rollback.verified),
    ("local_verified", .bool rollback.localVerified),
    ("peer_verified", (rollback.peerVerified.map Json.bool).getD .null),
    ("detail", .str rollback.detail)]

def Cleanup.json (cleanup : Cleanup) : Json :=
  .obj [("attempted", .bool cleanup.attempted), ("deleted", .bool cleanup.deleted),
    ("applied", .bool cleanup.applied), ("verified", .bool cleanup.verified)]

def ExecuteResult.auditDetail (result : ExecuteResult) : Str :=
  result.detail ++
    (if result.rollback.attempted then "; rollback=" ++ result.rollback.json.repr else []) ++
    match result.sync.bind SyncResult.peerCleanup with
    | some cleanup => "; peer_cleanup=" ++ cleanup.json.repr
    | none => []

end Texts

/-! ## Errors -/

/-- `except (OPNsenseError, OSError)` -/
def isHandled (error : Exn) : Bool := isOpnsense error || error.isOsError

/-- The class of a handled exception in the result -/
def writeErrorOf : Exn → WriteError
  | .custom (.opnsense (.unsafeSync _)) => .haUnsafe
  | .custom (.opnsense (.conflict _)) => .conflict
  | .custom (.opnsense (.auth _)) => .auth
  | .custom (.opnsense (.timeout _)) => .timeout
  | .custom (.opnsense (.rejected _ validations)) =>
      if validations.truthy then .validation else .upstream
  | _ => .upstream

/-- The validations a handled exception adds to the result -/
def validationsOf : Exn → Option Json
  | .custom (.opnsense (.rejected _ validations)) =>
      if validations.truthy then some validations else none
  | _ => none

/-- `isinstance(exc, Rejected)` -/
def isRejected : Exn → Bool
  | .custom (.opnsense (.rejected _ _)) => true
  | _ => false

def conflict (detail : Str) : Exn := opnsenseError (.conflict detail)

/-- `payload[self.key] if payload else None`; `None` asks for absence. -/
def expectedOf (key : Str) (payload : Json) : Except Exn (Option Json) :=
  if !payload.truthy then .ok none
  else match payload with
    | .obj fields =>
        match field fields key with
        | none => .error (.builtin .keyError key)
        | some .null => .ok none
        | some value => .ok (some value)
    | _ => .error (.builtin .typeError "payload indices")

/-! ## Updates of the result -/

/-- The assignments at the start of `_execute` -/
def Execution.begin (action : WriteAction) (uuid : Str) (execution : Execution) : Execution :=
  { execution with
    peerDeleteRevision := none
    result := .initial action uuid
    accepted := false
    uuid }

/-- The UUID of a created object, in the variable and in the result -/
def Execution.adopt (uuid : Str) (execution : Execution) : Execution :=
  { execution with uuid, result := { execution.result with uuid } }

def ExecuteResult.synced (sync : Option SyncResult) (result : ExecuteResult) : ExecuteResult :=
  let ok := sync.all SyncResult.verified
  if ok then { result with sync, ok }
  else { result with
    sync, ok
    error := some .haUnverified
    detail := "Saved locally; HA verification failed" }

def ExecuteResult.failed (error : Exn) (result : ExecuteResult) : ExecuteResult :=
  { result with
    error := some (writeErrorOf error)
    detail := excText error
    validations := validationsOf error
    rollback := { result.rollback with
      detail := "Not attempted; inspect current configuration before retrying" } }

def rollbackDetail (verified : Bool) : Str :=
  if verified then "Deleted and applied; absence verified on all configured nodes"
  else "Rollback absence not verified on all configured nodes"

def peerDetail : Option SyncResult → Str
  | some sync => "; peer: " ++ sync.detail
  | none => []

/-- `rollback` with the outcome of its synchronization -/
def Rollback.synced (sync : Option SyncResult) (rollback : Rollback) : Rollback :=
  let peerVerified := sync.map SyncResult.verified
  let verified := rollback.localVerified && peerVerified.all id
  { rollback with
    peerVerified
    verified
    detail := rollbackDetail verified ++ peerDetail sync }

def ExecuteResult.unrecorded (result : ExecuteResult) : ExecuteResult :=
  { result with
    ok := false
    error := some .audit
    detail := result.detail ++ "; audit persistence failed" }

namespace VerifiedFirewallWriter

variable [Runtime]

/-- A `started` record of the writer -/
def startedEntry (writer : VerifiedFirewallWriter) (action target host payloadSha256 : Str)
    (now : Clock) : AuditEntry where
  ts := now.utcIso
  user := writer.actor
  action := action
  target := target
  host := host
  result := "started"
  durationMs := 0
  detail := []
  payloadSha256 := payloadSha256

def peerName (writer : VerifiedFirewallWriter) : Str :=
  (writer.peer.map Host.name).getD []

/-! ## Synchronization -/

/-- The explicit trigger of `_sync` -/
def triggerSync (writer : VerifiedFirewallWriter) (plan : Option SyncPlan) :
    Py Role SyncResult Unit := do
  let again ← writer.syncPreflight
  Action.raiseIf (again ≠ plan) (unsafeSync
    "XMLRPC configuration changed during the operation; reconcile manually")
  Action.modifyState fun result => { result with triggered := true }
  let _ ← acknowledged .client restartPath (.obj []) "HA sync"

/-- The polling loop of `_sync`, from attempt number `attempt` on -/
def poll (writer : VerifiedFirewallWriter) (uuid : Str) (expected : Option Json)
    (attempt : Nat) : Nat → Py Role SyncResult Bool
  | 0 => return false
  | remaining + 1 => do
      Action.modifyState fun result => { result with attempts := attempt }
      let outcome ← (writer.verify uuid expected .peer).attempt isOpnsense
      match outcome with
      | .ok true =>
          Action.modifyState fun result =>
            { result with verified := true, detail := "Peer configuration verified" }
          return true
      | .ok false =>
          Action.modifyState fun result =>
            { result with detail := "Peer configuration did not converge" }
          writer.poll uuid expected (attempt + 1) remaining
      | .error error =>
          Action.modifyState fun result => { result with detail := excText error }
          writer.poll uuid expected (attempt + 1) remaining

/-- Whether the plan still stands and the peer alone has a port forward, the given one. -/
def isLastOnPeer {State : Type} (writer : VerifiedFirewallWriter) (plan : Option SyncPlan)
    (uuid : Str) : Py Role State Bool := do
  let again ← writer.syncPreflight
  if again ≠ plan then return false
  else
    let here ← writer.dnatIds .client
    if !here.isEmpty then return false
    else
      let there ← writer.dnatIds .peer
      return isExactly uuid there

/-- The reads of `_finish_last_dnat_delete` before its first change -/
def confirmCleanup {State : Type} (writer : VerifiedFirewallWriter) (plan : Option SyncPlan)
    (revision uuid : Str) : Py Role State Unit := do
  let last ← writer.isLastOnPeer plan uuid
  Action.raiseIf (!last)
    (unsafeSync "HA or local DNAT changed; peer cleanup requires reconciliation")
  let detail ← writer.get uuid .peer
  let hash ← Action.ofExcept (hashPayload detail)
  Action.raiseIf (hash ≠ revision) (conflict "Peer DNAT changed; refusing peer cleanup")

/-- Whether neither node lists the object any more -/
def absentOnBoth {State : Type} (writer : VerifiedFirewallWriter) (uuid : Str) :
    Py Role State Bool := do
  let here ← writer.verify uuid none .client
  if here then writer.verify uuid none .peer else return false

def updateCleanup {Node : Type} (update : Cleanup → Cleanup) : Py Node SyncResult Unit :=
  Action.modifyState fun result => { result with peerCleanup := result.peerCleanup.map update }

/-- The changes of `_finish_last_dnat_delete` -/
def deleteOnPeer (writer : VerifiedFirewallWriter) (revision uuid : Str) :
    Py Role SyncResult Unit := do
  auditRecord (writer.startedEntry "port_forward.peer_delete" uuid writer.peerName revision)
  updateCleanup fun cleanup => { cleanup with attempted := true }
  let _ ← acknowledged .peer (writer.deletePath uuid) (.obj []) "peer delete"
  updateCleanup fun cleanup => { cleanup with deleted := true }
  let _ ← acknowledged .peer writer.applyPath (.obj []) "peer apply"
  updateCleanup fun cleanup => { cleanup with applied := true }
  let absent ← writer.absentOnBoth uuid
  updateCleanup fun cleanup => { cleanup with verified := absent }
  Action.modifyState fun result =>
    { result with
      verified := absent
      detail := if absent then "Last DNAT absence verified on both nodes"
        else "Peer cleanup absence unverified" }

/-- `_finish_last_dnat_delete` -/
def finishLastDnatDelete (writer : VerifiedFirewallWriter) (plan : Option SyncPlan)
    (revision uuid : Str) : Py Role SyncResult Unit := do
  Action.modifyState fun result =>
    { result with peerCleanup := some ⟨false, false, false, false⟩ }
  let outcome ← Action.attempt isHandled do
    writer.confirmCleanup plan revision uuid
    writer.deleteOnPeer revision uuid
  match outcome with
  | .ok () => return
  | .error error => Action.modifyState fun result => { result with detail := excText error }

/-- The observation of the peer, after the trigger where there is one -/
def observe (writer : VerifiedFirewallWriter) (plan : Option SyncPlan) (revision : Option Str)
    (uuid : Str) (expected : Option Json) : Py Role SyncResult Unit := do
  let converged ← writer.poll uuid expected 1 writer.haVerifyAttempts
  match converged, expected, revision with
  | false, none, some revision => writer.finishLastDnatDelete plan revision uuid
  | _, _, _ => return

/-- The part of `_sync` that a configured peer takes part in -/
def syncPeer (writer : VerifiedFirewallWriter) (plan : Option SyncPlan) (revision : Option Str)
    (uuid : Str) (expected : Option Json) : Py Role SyncResult Unit :=
  match writer.haSyncMode with
  | .automatic => writer.observe plan revision uuid expected
  | .xmlrpcPf => do
      let triggered ← (writer.triggerSync plan).attempt isOpnsense
      match triggered with
      | .ok () => writer.observe plan revision uuid expected
      | .error error => Action.modifyState fun result => { result with detail := excText error }

/-- `_sync` -/
def sync (writer : VerifiedFirewallWriter) (uuid : Str) (expected : Option Json) :
    Py Role Execution (Option SyncResult) :=
  match writer.peer with
  | none => return none
  | some _ => do
      let execution ← Action.readState
      let synced ← Action.withState (.initial writer.haSyncMode)
        (writer.syncPeer execution.syncPlan execution.peerDeleteRevision uuid expected)
      return some synced.2

/-! ## Execution -/

def updateResult {Node : Type} (update : ExecuteResult → ExecuteResult) :
    Py Node Execution Unit :=
  Action.modifyState fun execution => { execution with result := update execution.result }

def updateRollback {Node : Type} (update : Rollback → Rollback) : Py Node Execution Unit :=
  updateResult fun result => { result with rollback := update result.rollback }

def auditAction (writer : VerifiedFirewallWriter) (action : WriteAction) : Str :=
  writer.resource.name ++ "." ++ action.name

/-- The `started` record of `_execute` -/
def auditStarted (writer : VerifiedFirewallWriter) (action : WriteAction) (payload : Json)
    (uuid : Str) : Py Role Execution Unit := do
  let hash ← Action.ofExcept (hashPayload payload)
  auditRecord (writer.startedEntry (writer.auditAction action) uuid writer.client.name hash)

/-- Whether a delete empties the port forwards of a node that synchronizes its peer -/
def deletesLast (writer : VerifiedFirewallWriter) (action : WriteAction) (uuid : Str) :
    Py Role Execution Bool :=
  if action = .delete ∧ writer.resource = .portForward ∧ writer.peer.isSome ∧
      writer.haSyncMode = .xmlrpcPf then do
    let ids ← writer.dnatIds .client
    return isExactly uuid ids
  else return false

/-- Whether the peer has the object at the same revision and no other port forward -/
def sameOnPeer (writer : VerifiedFirewallWriter) (uuid revision hash : Str) :
    Py Role Execution Bool :=
  if hash ≠ revision then return false
  else do
    let ids ← writer.dnatIds .peer
    return isExactly uuid ids

/-- Qualify the deletion of the last port forward for the cleanup of the peer. -/
def qualifyLast (writer : VerifiedFirewallWriter) (uuid revision : Str) :
    Py Role Execution Unit := do
  let detail ← writer.get uuid .peer
  let hash ← Action.ofExcept (hashPayload detail)
  let same ← writer.sameOnPeer uuid revision hash
  Action.raiseIf (!same) (conflict "Last DNAT differs on peer; reconcile before deleting")
  Action.modifyState fun execution => { execution with peerDeleteRevision := some hash }

/-- The comparison of the current object with the requested revision -/
def checkRevision (writer : VerifiedFirewallWriter) (action : WriteAction)
    (uuid revision : Str) : Py Role Execution Unit := do
  let current ← writer.get uuid .client
  let hash ← Action.ofExcept (hashPayload current)
  Action.raiseIf (hash ≠ revision) (conflict
    "Configuration changed since it was loaded; refresh before editing or deleting")
  let last ← writer.deletesLast action uuid
  if last then writer.qualifyLast uuid revision else return

/-- `_execute` up to the first change -/
def prepare (writer : VerifiedFirewallWriter) (action : WriteAction) (payload : Json)
    (uuid revision : Str) : Py Role Execution Unit := do
  writer.auditStarted action payload uuid
  let plan ← writer.syncPreflight
  Action.modifyState fun execution => { execution with syncPlan := plan }
  if action = .create then return
  else writer.checkRevision action uuid revision

/-- `f"/{uuid}" if uuid else ""` -/
def itemSegment (uuid : Str) : Str := if uuid.isEmpty then [] else "/" ++ uuid

def mutationPath (writer : VerifiedFirewallWriter) (action : WriteAction) (uuid : Str) : Str :=
  writer.spec.base ++ "/" ++ action.verb ++ writer.spec.suffix ++ itemSegment uuid

def missingUuid : Exn :=
  opnsenseError (.plain "Create acknowledged without valid UUID; reconcile manually")

/-- `validate_uuid(response.get("uuid"))` of an acknowledged create -/
def createdUuid (response : List (Str × Json)) : Except Exn Str :=
  match validateUuid (fieldD response "uuid" .null) with
  | .ok uuid => .ok uuid
  | .error _ => .error missingUuid

/-- Take over the UUID of a created object. -/
def adoptUuid (action : WriteAction) (response : List (Str × Json)) :
    Py Role Execution Unit :=
  if action = .create then do
    let created ← Action.ofExcept (createdUuid response)
    Action.modifyState (Execution.adopt created)
  else return

/-- The acknowledged change of `_execute` -/
def mutate (writer : VerifiedFirewallWriter) (action : WriteAction) (payload : Json)
    (uuid : Str) : Py Role Execution Unit := do
  let response ← acknowledged .client (writer.mutationPath action uuid) payload action.name
  adoptUuid action response
  Action.modifyState fun execution => { execution with accepted := true }

def readbackMismatch : Exn :=
  opnsenseError (.plain "Readback does not match requested configuration")

/-- `_execute` from the accepted change to the local readback -/
def applyVerified (writer : VerifiedFirewallWriter) (expected : Option Json) :
    Py Role Execution Unit := do
  writer.apply
  updateResult fun result => { result with applied := true }
  let execution ← Action.readState
  let same ← writer.verify execution.uuid expected .client
  Action.raiseIf (!same) readbackMismatch
  updateResult fun result => { result with verified := true }

/-- The body of the `try` statement of `_execute` -/
def attemptWrite (writer : VerifiedFirewallWriter) (action : WriteAction) (payload : Json)
    (uuid revision : Str) (expected : Option Json) : Py Role Execution Unit := do
  writer.prepare action payload uuid revision
  writer.mutate action payload uuid
  writer.applyVerified expected
  let execution ← Action.readState
  let sync ← writer.sync execution.uuid expected
  updateResult (ExecuteResult.synced sync)

/-- The rollback of a create that was accepted but not applied -/
def rollback (writer : VerifiedFirewallWriter) : Py Role Execution Unit := do
  let execution ← Action.readState
  let _ ← acknowledged .client (writer.deletePath execution.uuid) (.obj []) "rollback delete"
  writer.apply
  let absent ← writer.verify execution.uuid none .client
  updateRollback fun rollback => { rollback with localVerified := absent }
  let sync ← writer.sync execution.uuid none
  updateRollback (Rollback.synced sync)

/-- The attempted rollback -/
def attemptRollback (writer : VerifiedFirewallWriter) : Py Role Execution Unit := do
  updateRollback fun rollback => { rollback with attempted := true }
  let outcome ← writer.rollback.attempt isOpnsense
  match outcome with
  | .ok () => return
  | .error error => updateRollback fun rollback => { rollback with detail := excText error }

/-- The handler of the `try` statement of `_execute` -/
def recover (writer : VerifiedFirewallWriter) (action : WriteAction) (error : Exn) :
    Py Role Execution Unit := do
  updateResult (ExecuteResult.failed error)
  let execution ← Action.readState
  if execution.accepted ∧ action = .create ∧ isRejected error then writer.attemptRollback
  else return

/-- What follows the body of the `try` statement -/
def settle (writer : VerifiedFirewallWriter) (action : WriteAction) :
    Except Exn Unit → Py Role Execution Unit
  | .ok () => return
  | .error error => writer.recover action error

/-- The final record of `_execute` -/
def finalEntry (writer : VerifiedFirewallWriter) (action : WriteAction) (execution : Execution)
    (payloadSha256 : Str) (started now : Clock) : AuditEntry where
  ts := now.utcIso
  user := writer.actor
  action := writer.auditAction action
  target := execution.uuid
  host := writer.client.name
  result := if execution.result.ok then "ok" else "error"
  durationMs := now.monotonicMs - started.monotonicMs
  detail := execution.result.auditDetail
  payloadSha256 := payloadSha256

/-- `_execute` from the final record on -/
def auditFinal (writer : VerifiedFirewallWriter) (action : WriteAction) (payload : Json)
    (started : Clock) : Py Role Execution Unit := do
  let execution ← Action.readState
  let hash ← Action.ofExcept (hashPayload payload)
  let now ← readClock
  let entry := writer.finalEntry action execution hash started now
  let stored ← (auditAppend entry).attempt Raised.isOsError
  match stored with
  | .ok () => updateResult fun result => { result with audit := some entry }
  | .error _ => updateResult ExecuteResult.unrecorded

/-- `_execute` -/
def executeLocked (writer : VerifiedFirewallWriter) (action : WriteAction) (payload : Json)
    (uuid revision : Str) : Py Role Execution ExecuteResult := do
  let started ← readClock
  Action.modifyState (Execution.begin action uuid)
  let expected ← Action.ofExcept (expectedOf writer.spec.key payload)
  let outcome ← (writer.attemptWrite action payload uuid revision expected).attempt isHandled
  writer.settle action outcome
  writer.auditFinal action payload started
  let execution ← Action.readState
  return execution.result

def lockKey (writer : VerifiedFirewallWriter) : LockKey :=
  let local_ := writer.client.url
  let peer := (writer.peer.map Host.url).getD []
  if strLe local_ peer then (local_, peer) else (peer, local_)

/-- The validated UUID of an update or a delete -/
def checkedUuid (action : WriteAction) (uuid revision : Str) : Except Exn Str :=
  if action = .create then .ok uuid
  else do
    let uuid ← validateUuid (.str uuid)
    let _ ← validateRevision (.str revision)
    return uuid

/-- `execute` -/
def execute (writer : VerifiedFirewallWriter) (action : WriteAction) (payload : Json)
    (uuid revision : Str) : Py Role Execution ExecuteResult := do
  let uuid ← Action.ofExcept (checkedUuid action uuid revision)
  let _ ← Action.ask (.acquireGuard .writeLocks)
  let lock ← Action.ask (.lockFor .writeLocks writer.lockKey)
  let _ ← Action.ask (.releaseGuard .writeLocks)
  let _ ← Action.ask (.acquire lock)
  (writer.executeLocked action payload uuid revision).finallyDo do
    let _ ← Action.ask (.release lock)

end VerifiedFirewallWriter

end OpnsensePlugin

import OpnsensePlugin.Writers.HaVerifier

/-!
# Legacy writers

The ten legacy writers share one lifecycle: a mutating POST, the POST that
applies it, for a failed creation a compensating delete, an optional HA
verification and an audit record. `LegacyWriter` holds what they differ in;
`OpnsensePlugin.Writers.LegacyKinds` lists the writers.
-/

namespace OpnsensePlugin

open Effects Python

/-- What a legacy writer makes of an input of its own type. -/
structure LegacyWriter (Input : Type) where
  base : Str
  applyPath : Str
  addName : Str
  /-- The action of `update`, for the writers that have one -/
  setName : Option Str
  delName : Str
  searchName : Str
  /-- What the names of the audited actions begin with -/
  kind : Str
  rollbackNote : Str
  validate : Input → Except Exn Unit
  toPayload : Input → Json
  /-- The audited target when the creation was refused -/
  refusedTarget : Input → Str
  /-- The audited target when the creation was not completed -/
  failedTarget : Input → Str
  createdTarget : Str → Input → Str
  createdDetail : Str → Input → Str
  updatedDetail : Input → Str

/-- `self.actor`, `self.host_name` and `self.ha` of a writer -/
structure LegacyContext where
  actor : Str
  hostName : Str
  ha : Option HaVerifier

/-- `AliasResult`, which the other writers reuse -/
structure LegacyResult where
  ok : Bool
  uuid : Str := []
  detail : Str := []
  sync : Option HaVerifier.SyncResult := none
  audit : Option AuditEntry := none
deriving DecidableEq

namespace LegacyWriter

variable [Runtime] {Input State : Type}

def path (writer : LegacyWriter Input) (name : Str) : Str := writer.base ++ "/" ++ name

def itemPath (writer : LegacyWriter Input) (name uuid : Str) : Str :=
  writer.path name ++ "/" ++ uuid

def searchPath (writer : LegacyWriter Input) : Str := writer.path writer.searchName

/-- `_apply` and `_reconfigure` -/
def apply (writer : LegacyWriter Input) : Py Party State Unit := do
  let _ ← clientPost .client writer.applyPath (.obj [])

/-- `_maybe_sync` -/
def maybeSync (writer : LegacyWriter Input) (context : LegacyContext) :
    Py Party State (Option HaVerifier.SyncResult) :=
  match context.ha with
  | none => return none
  | some ha => do
      let result ← ha.verifyRobust writer.searchPath
      return some result

/-- `AuditEntry.now` -/
def auditEntry (context : LegacyContext) (action target result detail payloadSha256 : Str)
    (durationMs : Int) (now : Clock) : AuditEntry :=
  { ts := now.utcIso, user := context.actor, action, target, host := context.hostName, result,
    durationMs, detail, payloadSha256 }

/-- `_record`; within the timed block the elapsed time is still 0. -/
def record (context : LegacyContext) (action target result detail : Str)
    (payloadSha256 : Str := []) (durationMs : Int := 0) : Py Party State AuditEntry := do
  let now ← readClock
  let entry := auditEntry context action target result detail payloadSha256 durationMs now
  let _ ← Action.attempt Raised.isOsError (auditAppend entry)
  return entry

/-- `with TimedAction()`: an early return of the block or its value, and the elapsed time -/
def timed {α : Type} (block : Py Party State (Except LegacyResult α)) :
    Py Party State (Except LegacyResult α × Int) := do
  let started ← readClock
  let outcome ← block
  let ended ← readClock
  return (outcome, ended.monotonicMs - started.monotonicMs)

/-- What follows the timed block, unless it has returned early -/
def conclude {α : Type} (finish : α → Int → Py Party State LegacyResult) :
    Except LegacyResult α × Int → Py Party State LegacyResult
  | (.error result, _) => return result
  | (.ok value, elapsed) => finish value elapsed

/-- The failure branch of the apply in `create` -/
def rollBack (writer : LegacyWriter Input) (context : LegacyContext) (input : Input)
    (uuid : Str) (error : Exn) : Py Party State (Except LegacyResult Str) := do
  let _ ← Action.attempt isOpnsense
    (clientPost .client (writer.itemPath writer.delName uuid) (.obj []))
  let detail := writer.rollbackNote ++ excText error
  let _ ← record context (writer.kind ++ ".create") (writer.failedTarget input) "error" detail
  return .error { ok := false, detail }

/-- `create` after the row has a UUID -/
def applyCreated (writer : LegacyWriter Input) (context : LegacyContext) (input : Input)
    (uuid : Str) : Py Party State (Except LegacyResult Str) := do
  let applied ← Action.attempt isOpnsense writer.apply
  match applied with
  | .ok _ => return .ok uuid
  | .error error => writer.rollBack context input uuid error

/-- `create` after the answer to the add -/
def created (writer : LegacyWriter Input) (context : LegacyContext) (input : Input)
    (resp : Json) : Py Party State (Except LegacyResult Str) := do
  let found ← Action.ofExcept (resp.getD "uuid" (.str ""))
  if found.text.isEmpty then do
    let _ ← record context (writer.kind ++ ".create") (writer.failedTarget input) "error"
      "no uuid in response"
    return .error { ok := false, detail := "OPNsense did not return uuid" }
  else writer.applyCreated context input found.text

/-- The timed block of `create` -/
def add (writer : LegacyWriter Input) (context : LegacyContext) (input : Input) :
    Py Party State (Except LegacyResult Str) := do
  let added ← Action.attempt isOpnsense
    (clientPost .client (writer.path writer.addName) (writer.toPayload input))
  match added with
  | .ok resp => writer.created context input resp
  | .error error => do
      let _ ← record context (writer.kind ++ ".create") (writer.refusedTarget input) "error"
        (excText error)
      return .error { ok := false, detail := excText error }

/-- What follows the timed block: the HA verification and the audit record -/
def finish (writer : LegacyWriter Input) (context : LegacyContext)
    (action target detail uuid : Str) (payload : Option Json) (durationMs : Int) :
    Py Party State LegacyResult := do
  let sync ← writer.maybeSync context
  let payloadSha256 ← Action.ofExcept (hashPayload (payload.getD .null))
  let entry ← record context action target "ok" detail payloadSha256 durationMs
  return { ok := true, uuid, sync, audit := some entry }

/-- `create` -/
def create (writer : LegacyWriter Input) (context : LegacyContext) (input : Input) :
    Py Party State LegacyResult := do
  Action.ofExcept (writer.validate input)
  let block ← timed (writer.add context input)
  conclude (fun uuid => writer.finish context (writer.kind ++ ".create")
    (writer.createdTarget uuid input) (writer.createdDetail uuid input) uuid
    (some (writer.toPayload input))) block

/-- The timed block of `update` and `delete` -/
def change (writer : LegacyWriter Input) (context : LegacyContext) (action uuid path : Str)
    (payload : Json) : Py Party State (Except LegacyResult Unit) := do
  let changed ← Action.attempt isOpnsense do
    let _ ← clientPost .client path payload
    writer.apply
  match changed with
  | .ok _ => return .ok ()
  | .error error => do
      let _ ← record context action uuid "error" (excText error)
      return .error { ok := false, uuid, detail := excText error }

def changeAndFinish (writer : LegacyWriter Input) (context : LegacyContext)
    (action uuid path detail : Str) (payload : Option Json) : Py Party State LegacyResult := do
  let block ← timed (writer.change context action uuid path (payload.getD (.obj [])))
  conclude (fun _ => writer.finish context action uuid detail uuid payload) block

/-- `update` of a writer whose action for it is `setName` -/
def update (writer : LegacyWriter Input) (context : LegacyContext) (setName uuid : Str)
    (input : Input) : Py Party State LegacyResult := do
  Action.ofExcept (writer.validate input)
  writer.changeAndFinish context (writer.kind ++ ".update") uuid (writer.itemPath setName uuid)
    (writer.updatedDetail input) (some (writer.toPayload input))

/-- `delete` -/
def delete (writer : LegacyWriter Input) (context : LegacyContext) (uuid : Str) :
    Py Party State LegacyResult :=
  writer.changeAndFinish context (writer.kind ++ ".delete") uuid
    (writer.itemPath writer.delName uuid) [] none

end LegacyWriter

end OpnsensePlugin

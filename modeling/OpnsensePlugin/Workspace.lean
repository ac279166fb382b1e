import OpnsensePlugin.Python.Fields

/-!
# The administration workspace

`workspace.js`: the state of the page, the handlers of its controls, and how they
go on when an answer arrives. A script runs to its next `await` undisturbed, so
one step is one handler, or what follows one answer. Requests whose answers have
not arrived are `pending`; answers arrive in any order.
-/

namespace OpnsensePlugin

open Python

namespace Workspace

/-! ## Modules and forms -/

inductive WriteAction
  | create
  | update
  | delete
deriving DecidableEq

/-- A field of a form; `secret` says `field.secret || field.kind === "password"`. -/
structure Field where
  name : Str
  secret : Bool := false
  readonly : Bool := false
  required : Bool := false
  default : Json := .str []

/-- A module of the navigation; `get` says that the method of an operation is `GET`. -/
structure Resource where
  id : Str
  operation : Bool := false
  get : Bool := false
  backup : Bool := false
  readOnly : Bool := false
  fields : List Field := []
  actions : List WriteAction := []

/-! ## Answers -/

/-- What becomes of a request: no answer, one that is no JSON text, or one that is -/
inductive Fetched
  | lost
  | unread (status : Nat)
  | read (status : Nat) (body : Json)

/-- What a `catch` block gets: the status, where the value has one, and its other members -/
structure Thrown where
  status : Option Nat
  body : List (Str × Json)

/-- `value.key === true` -/
def isTrue (members : List (Str × Json)) (key : Str) : Bool :=
  match field members key with
  | some (.bool true) => true
  | _ => false

/-- `value.key === false` -/
def isFalse (members : List (Str × Json)) (key : Str) : Bool :=
  match field members key with
  | some (.bool false) => true
  | _ => false

/-- The named members of a value; those of a list or a text have numbers for names. -/
def members : Json → List (Str × Json)
  | .obj fields => fields
  | _ => []

/-- `!!value` -/
def truthy : Json → Bool
  | .null => false
  | .bool value => value
  | .int value => value ≠ 0
  | .float (.finite _ mantissa _) => mantissa ≠ 0
  | .float .nan => false
  | .float (.infinity _) => true
  | .str text => !text.isEmpty
  | .arr _ | .obj _ => true

/-- `api(route, parameters, body)`, where `sends` says that there is a body -/
def api (sends : Bool) : Fetched → Except Thrown (List (Str × Json))
  | .lost => .error ⟨some 0, [("partial", .bool sends)]⟩
  | .unread status => .error ⟨some status, [("partial", .bool sends)]⟩
  | .read status body =>
      if !(200 ≤ status && status < 300) then .error ⟨some status, members body⟩
      else match body with
        | .null => .error ⟨none, []⟩
        | body =>
            if !isTrue (members body) "ok" then .error ⟨some status, members body⟩
            else match field (members body) "data" with
              | some (.obj data) => .ok data
              | some (.arr _) => .ok []
              | _ => .error ⟨some 502, [("partial", .bool sends)]⟩

/-- The statuses of answers that refuse a change -/
def refusals : List Nat := [400, 401, 403, 404, 409, 422]

def Thrown.isRefusal (thrown : Thrown) : Bool := thrown.status.any fun status => status ∈ refusals

/-- `error.data || error` -/
def Thrown.detail (thrown : Thrown) : List (Str × Json) :=
  match field thrown.body "data" with
  | some value => if truthy value then members value else thrown.body
  | none => thrown.body

def Thrown.definitelyRejected (thrown : Thrown) : Bool :=
  thrown.isRefusal && !isTrue thrown.body "partial" && !isTrue thrown.detail "partial"

/-! ## The page -/

/-- The body of a write -/
structure ManagePost where
  resource : Str
  action : WriteAction
  identity : Option (Str × Str)
  values : Option (List (Str × Json))

/-- A request whose answer has not arrived, and what awaits it: a list that is shown, the list
after a write, a form, a write, an operation (`sends` is `false` if it only reads) or one of the
requests for backups. Writes, with their lists, and operations keep the number of their form. -/
inductive Task
  | list (epoch ticket : Nat)
  | reload (form epoch ticket : Nat)
  | detail (epoch : Nat) (uuid : Str)
  | write (form : Nat) (post : ManagePost)
  | operate (form : Nat) (sends : Bool)
  | backupList
  | backupChange
  | backupReload
  | backupDownload

structure Backups where
  available : Bool
  busy : Bool := false
  loaded : Bool := false
  uncertain : Bool := false

/-- The variables of the page. `form` counts the forms that were opened; the source has no such
counter, it tells one form from another. -/
structure State where
  catalogReadOnly : Bool
  backups : Backups
  resource : Option Resource := none
  rows : List Json := []
  page : Nat := 1
  query : Str := []
  readOnly : Bool := true
  loaded : Bool := false
  listing : Bool := false
  editing : Bool := false
  fields : List Field := []
  values : List (Str × Json) := []
  uuid : Str := []
  revision : Str := []
  dirty : Bool := false
  writing : Bool := false
  loadingDetail : Bool := false
  reconcile : Bool := false
  epoch : Nat := 0
  listTicket : Nat := 0
  pending : List Task := []
  form : Nat := 0

def State.locked (state : State) : Bool :=
  state.writing || state.loadingDetail || state.backups.busy

/-- Whether the module is an operation that only reads -/
def State.reads (state : State) : Bool :=
  state.resource.any fun resource => resource.operation && resource.get

def State.writable (state : State) : Bool :=
  state.loaded && (state.reads || !state.readOnly && !state.catalogReadOnly) && !state.locked &&
    !state.reconcile

def State.supports (state : State) (action : WriteAction) : Bool :=
  state.resource.any fun resource => action ∈ resource.actions

def State.operates (state : State) : Bool := state.resource.any Resource.operation

def State.archives (state : State) : Bool := state.resource.any Resource.backup

/-- The answer `discard` is only asked for if there are changes. -/
def State.allowDiscard (state : State) (discard : Bool) : Bool :=
  !state.locked && !state.reconcile && (!state.dirty || discard)

def closeEditor (state : State) : State :=
  { state with editing := false, values := [], fields := [], uuid := [], revision := [], dirty := false }

/-- `state.values[field.name] ?? field.default` -/
def shown (values : List (Str × Json)) (item : Field) : Json :=
  match field values item.name with
  | none | some .null => item.default
  | some value => value

/-- The values after `renderFields`; a secret is shown blank. -/
def renderFields (fields : List Field) (values : List (Str × Json)) : List (Str × Json) :=
  fields.foldl (fun values item =>
    setField item.name (if item.secret then .str [] else shown values item) values) values

def openOperation (resource : Resource) (state : State) : State :=
  { state with
    fields := resource.fields
    values := renderFields resource.fields []
    editing := true
    loaded := true
    readOnly := state.catalogReadOnly || resource.readOnly
    form := state.form + 1 }

/-- The form of an operation is shown again after it was closed. -/
def reopen (state : State) : State :=
  match state.resource with
  | some resource => if resource.operation then openOperation resource state else state
  | none => state

def await (task : Task) (state : State) : State := { state with pending := state.pending ++ [task] }

def clearSecret (values : List (Str × Json)) (item : Field) : List (Str × Json) :=
  if item.secret then setField item.name (.str []) values else values

def clearSecrets (state : State) : State :=
  { state with values := state.fields.foldl clearSecret state.values }

/-- The `finally` block of a write or an operation -/
def release (state : State) : State := { clearSecrets state with writing := false }

/-! ## Handlers -/

/-- `loadList(page)`; `task` says what awaits the list. -/
def loadList (task : Nat → Nat → Task) (page : Nat) (state : State) : State :=
  if state.resource.isNone || state.locked then state
  else await (task state.epoch (state.listTicket + 1))
    { state with listTicket := state.listTicket + 1, listing := true, page }

def loadBackups (task : Task) (state : State) : State :=
  if state.backups.busy || !state.backups.available then state
  else await task { state with backups := { state.backups with busy := true } }

def operate (confirmed : Bool) (state : State) : State :=
  match state.resource with
  | some resource =>
      if !resource.operation || !state.writable then state
      else if !resource.get && !confirmed then state
      else await (.operate state.form !resource.get) { state with writing := true }
  | none => state

/-- `state.fields.some(field => field.required && !state.values[field.name])` -/
def State.incomplete (state : State) : Bool :=
  state.fields.any fun item =>
    item.required && !((field state.values item.name).any truthy)

def selectResource (resource : Resource) (discard : Bool) (state : State) : State :=
  if (state.resource.any fun current => current.id = resource.id) || !state.allowDiscard discard then
    state
  else
    let cleared := closeEditor { state with
      epoch := state.epoch + 1, resource := some resource, rows := [], page := 1, query := []
      loaded := false, readOnly := true }
    if resource.backup then loadBackups .backupList cleared
    else if resource.operation then
      let opened := openOperation resource cleared
      if resource.get && !opened.incomplete then operate true opened else opened
    else loadList .list 1 cleared

/-- `openEditor(uuid)`; a new entry has no UUID. -/
def openEditor (uuid : Str) (discard : Bool) (state : State) : State :=
  if !state.allowDiscard discard || !state.loaded || uuid.isEmpty && !state.writable then state
  else await (.detail state.epoch uuid) { state with loadingDetail := true }

/-- The body that `write` sends -/
def State.post (state : State) (action : WriteAction) : ManagePost where
  resource := (state.resource.map Resource.id).getD []
  action := action
  identity := if state.uuid.isEmpty then none else some (state.uuid, state.revision)
  values := if action = .delete then none
    else some ((state.fields.filter fun item => !item.readonly).filterMap fun item =>
      (field state.values item.name).map fun value => (item.name, value))

def write (action : WriteAction) (confirmed : Bool) (state : State) : State :=
  if !state.writable || !state.editing || !state.supports action then state
  else if action = .delete && !confirmed then state
  else await (.write state.form (state.post action)) { state with writing := true }

def edit (name : Str) (value : Json) (state : State) : State :=
  { state with values := setField name value state.values, dirty := true }

def cancelEdit (discard : Bool) (state : State) : State :=
  if state.allowDiscard discard then reopen (closeEditor state) else state

def reconcile (confirmed : Bool) (state : State) : State :=
  if state.locked || state.listing || !confirmed then state
  else reopen (closeEditor { state with reconcile := false })

def mutateBackup (confirmed : Bool) (state : State) : State :=
  let backups := state.backups
  if !backups.available || !backups.loaded || backups.busy || backups.uncertain || !confirmed then state
  else await .backupChange { state with backups := { backups with busy := true } }

def reconcileBackups (confirmed : Bool) (state : State) : State :=
  if !state.backups.busy && state.backups.loaded && confirmed then
    { state with backups := { state.backups with uncertain := false } }
  else state

/-! ## Arrivals -/

/-- What `loadList` takes from an answer -/
structure Listing where
  rows : List Json
  readOnly : Bool

/-- What `openEditor` takes from an answer -/
structure Detail where
  fields : List Field
  item : List (Str × Json)
  revision : Str
  readOnly : Bool

/-- The answers that a task may get; `none` is one that cannot be used. -/
abbrev Answer : Task → Type
  | .list _ _ | .reload _ _ _ => Option Listing
  | .detail _ _ => Option Detail
  | .write _ _ | .operate _ _ => Fetched
  | .backupList | .backupReload | .backupDownload => Bool
  | .backupChange => Fetched

/-- `loadList` after its answer; an old list is not shown. -/
def showList (epoch ticket : Nat) (listing : Option Listing) (state : State) : State :=
  if state.epoch = epoch && state.listTicket = ticket then
    match listing with
    | some listing =>
        { state with rows := listing.rows, loaded := true, readOnly := listing.readOnly, listing := false }
    | none => { state with rows := [], loaded := false, readOnly := true, listing := false }
  else state

/-- A list whose rows cannot be drawn: reading a member of `null` throws. -/
def undrawable (listing : Option Listing) : Bool :=
  listing.any fun listing => listing.rows.any fun
    | .null => true
    | _ => false

/-- `write` after the list that it reloads -/
def finishReload (epoch ticket : Nat) (listing : Option Listing) (state : State) : State :=
  let thrown := state.epoch = epoch && state.listTicket = ticket && undrawable listing
  let shown := showList epoch ticket listing state
  release (if thrown then { shown with reconcile := true } else shown)

/-- `openEditor` after its answer -/
def showDetail (epoch : Nat) (uuid : Str) (detail : Option Detail) (state : State) : State :=
  if state.epoch ≠ epoch then state
  else
    let failed := { state with
      loadingDetail := false, editing := false, fields := [], values := [], uuid := [], revision := [] }
    match detail with
    | none => failed
    | some detail =>
        if !uuid.isEmpty && detail.revision.isEmpty then failed
        else { state with
          loadingDetail := false
          fields := detail.fields
          values := renderFields detail.fields detail.item
          uuid := uuid
          revision := detail.revision
          editing := true
          dirty := false
          readOnly := state.readOnly || detail.readOnly
          form := state.form + 1 }

/-- The answer to a write confirms the change. -/
def confirms (data : List (Str × Json)) : Bool :=
  let savedOnly := isTrue data "config_saved" && isFalse data "applied" && isTrue data "verified"
  (savedOnly || isTrue data "applied") && isTrue data "verified" && !isTrue data "partial" &&
    !isFalse data "ok"

/-- The `catch` block of `write` -/
def failWrite (thrown : Thrown) (state : State) : State :=
  release { state with reconcile := !thrown.definitelyRejected }

/-- `write` after its answer -/
def finishWrite (form : Nat) (answer : Fetched) (state : State) : State :=
  match api true answer with
  | .ok data =>
      if confirms data then
        let closed := closeEditor { state with writing := false }
        if closed.resource.isNone || closed.locked then release closed
        else loadList (.reload form) closed.page closed
      else failWrite ⟨some 502, [("partial", .bool true)]⟩ state
  | .error thrown => failWrite thrown state

/-- `operate` after its answer -/
def finishOperate (sends : Bool) (answer : Fetched) (state : State) : State :=
  match api sends answer with
  | .ok data =>
      if !sends then release state
      else if isTrue data "verified" then release { state with dirty := false }
      else release { state with reconcile := true }
  | .error thrown =>
      if sends && (isTrue thrown.body "partial" || !thrown.isRefusal) then
        release { state with reconcile := true }
      else release state

/-- The requests for backups after their answers -/
def finishBackups (loaded : Bool) (state : State) : State :=
  { state with backups := { state.backups with loaded, busy := false } }

def finishBackupChange (answer : Fetched) (state : State) : State :=
  let free := { state with backups := { state.backups with busy := false } }
  match api true answer with
  | .ok _ => loadBackups .backupReload free
  | .error thrown =>
      if isTrue thrown.body "partial" || !thrown.isRefusal then
        { free with backups := { free.backups with uncertain := true } }
      else free

def resume : (task : Task) → Answer task → State → State
  | .list epoch ticket, listing => showList epoch ticket listing
  | .reload _ epoch ticket, listing => finishReload epoch ticket listing
  | .detail epoch uuid, detail => showDetail epoch uuid detail
  | .write form _, answer => finishWrite form answer
  | .operate _ sends, answer => finishOperate sends answer
  | .backupList, loaded | .backupReload, loaded => finishBackups loaded
  | .backupChange, answer => finishBackupChange answer
  | .backupDownload, _ => fun state =>
      { state with backups := { state.backups with busy := false } }

/-! ## Steps -/

/-- What the user does, with the answers to the questions that are asked -/
inductive UserEvent
  | select (resource : Resource) (discard : Bool)
  | list (page : Nat) (query : Str)
  | detail (uuid : Str) (discard : Bool)
  | new (discard : Bool)
  | edit (name : Str) (value : Json)
  | submit (confirmed : Bool)
  | delete (confirmed : Bool)
  | cancel (discard : Bool)
  | reconcile (confirmed : Bool)
  | listBackups
  | changeBackup (confirmed : Bool)
  | downloadBackup
  | reconcileBackups (confirmed : Bool)

/-- The control of the event is enabled; a module can always be named in the address. -/
def State.enables (state : State) : UserEvent → Bool
  | .select _ _ => true
  | .list _ _ => !state.locked && !state.listing && !state.operates && !state.archives
  | .detail uuid _ => !state.locked && !state.reconcile && !uuid.isEmpty &&
      state.rows.any fun row => (field (members row) "uuid").any (Json.isText uuid)
  | .new _ => state.writable && state.supports .create && !state.listing
  | .edit name _ => state.writable && state.fields.any fun item => item.name = name && !item.readonly
  | .submit _ => state.writable && state.editing &&
      (state.operates || state.supports (if state.uuid.isEmpty then .create else .update))
  | .delete _ => state.writable && !state.uuid.isEmpty && !state.revision.isEmpty &&
      state.supports .delete
  | .cancel _ => !state.locked && !state.reconcile
  | .reconcile _ => state.reconcile && !state.locked && !state.listing
  | .listBackups | .downloadBackup => state.archives && !state.backups.busy
  | .changeBackup _ => state.archives && state.backups.available && state.backups.loaded &&
      !state.backups.busy && !state.backups.uncertain
  | .reconcileBackups _ => state.archives && state.backups.uncertain && !state.backups.busy

def handle : UserEvent → State → State
  | .select resource discard, state => selectResource resource discard state
  | .list page query, state => loadList .list page { state with query }
  | .detail uuid discard, state => openEditor uuid discard state
  | .new discard, state => openEditor [] discard state
  | .edit name value, state => edit name value state
  | .submit confirmed, state =>
      if state.operates then operate confirmed state
      else write (if state.uuid.isEmpty then .create else .update) confirmed state
  | .delete confirmed, state => write .delete confirmed state
  | .cancel discard, state => cancelEdit discard state
  | .reconcile confirmed, state => reconcile confirmed state
  | .listBackups, state => loadBackups .backupList state
  | .changeBackup confirmed, state => mutateBackup confirmed state
  | .downloadBackup, state =>
      if state.backups.busy || !state.backups.available then state
      else await .backupDownload { state with backups := { state.backups with busy := true } }
  | .reconcileBackups confirmed, state => reconcileBackups confirmed state

inductive Move
  | user (event : UserEvent)
  | arrival (task : Task) (answer : Answer task)

inductive Step : State → Move → State → Prop
  | user {state : State} {event : UserEvent} (enabled : state.enables event = true) :
      Step state (.user event) (handle event state)
  | arrival {state : State} {task : Task} {front back : List Task}
      (waiting : state.pending = front ++ task :: back) (answer : Answer task) :
      Step state (.arrival task answer) (resume task answer { state with pending := front ++ back })

/-- Runs whose moves all satisfy a condition on the state before them -/
inductive Run (fits : State → Move → Prop) : State → List Move → State → Prop
  | done {state : State} : Run fits state [] state
  | step {state next last : State} {move : Move} {moves : List Move} (first : Step state move next)
      (fit : fits state move) (rest : Run fits next moves last) : Run fits state (move :: moves) last

theorem Run.mono {weak strong : State → Move → Prop} {state last : State} {moves : List Move}
    (weaker : ∀ state move, strong state move → weak state move) (run : Run strong state moves last) :
    Run weak state moves last := by
  induction run with
  | done => exact .done
  | step first fit _ ih => exact .step first (weaker _ _ fit) ih

theorem Run.append {fits : State → Move → Prop} {state middle last : State} {before after : List Move}
    (first : Run fits state before middle) (second : Run fits middle after last) :
    Run fits state (before ++ after) last := by
  induction first with
  | done => exact second
  | step first fit _ ih => exact .step first fit (ih second)

/-- The page after the catalogue was read -/
def opening (catalogReadOnly backups : Bool) : State where
  catalogReadOnly := catalogReadOnly
  backups := { available := backups }

/-- The request changes the firewall. -/
def Task.posts : Task → Bool
  | .write _ _ | .operate _ true => true
  | _ => false

/-- The requests in flight that change the firewall -/
def State.inFlight (state : State) : List Task := state.pending.filter Task.posts

end Workspace

end OpnsensePlugin

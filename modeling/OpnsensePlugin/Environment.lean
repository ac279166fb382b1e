import OpnsensePlugin.Effects.Rules
import OpnsensePlugin.Python.Json

/-!
# What the plugin asks of its environment

Requests to the firewalls, appends to the audit log, clock readings and the
locks of the process. The type of an answer says what can happen: a request to
a firewall returns any JSON value or fails as `OPNsenseClient` reports failures,
an append succeeds or raises `OSError`. `Node` names the clients a piece of code
talks to. Sleeping between attempts has no answer and is left out.
-/

namespace OpnsensePlugin

open Effects Python

structure AuditEntry where
  ts : Str
  user : Str
  action : Str
  target : Str
  host : Str
  result : Str
  durationMs : Int
  detail : Str
  payloadSha256 : Str
deriving DecidableEq

/-- How a call of `OPNsenseClient` fails: `OPNsenseError` or one of its two subclasses. -/
inductive Failure
  | error (detail : Str)
  | auth (detail : Str)
  | timeout (detail : Str)
deriving DecidableEq

/-- How a call of `AuditLog.append` fails: `OSError`, or text that UTF-8 cannot encode. -/
inductive AppendFailure
  | os (detail : Str)
  | encoding
deriving DecidableEq

/-- The two guarded lock dictionaries: `_WRITE_LOCKS` and `_LOCKS`. -/
inductive LockTable
  | writeLocks
  | managementLocks
deriving DecidableEq

abbrev LockKey := Str × Str

/-- A reading of the wall clock and of `time.monotonic` in milliseconds. -/
structure Clock where
  utcIso : Str
  monotonicMs : Int

inductive Request (Node : Type)
  | get (node : Node) (path : Str) (params : List (Str × Json))
  | post (node : Node) (path : Str) (body : Json)
  | append (entry : AuditEntry)
  | clock
  | acquireGuard (table : LockTable)
  | lockFor (table : LockTable) (key : LockKey)
  | releaseGuard (table : LockTable)
  | acquire (lock : Nat)
  | release (lock : Nat)

abbrev Reply := Except Failure Json

abbrev Answer {Node : Type} : Request Node → Type
  | .get _ _ _ | .post _ _ _ => Reply
  | .append _ => Except AppendFailure Unit
  | .clock => Clock
  | .lockFor _ _ => Nat
  | .acquireGuard _ | .releaseGuard _ | .acquire _ | .release _ => Unit

/-- Whatever is asked, some answer is possible. -/
theorem answer_nonempty {Node : Type} (request : Request Node) : Nonempty (Answer request) := by
  cases request with
  | get | post => exact ⟨.ok .null⟩
  | append => exact ⟨.ok ()⟩
  | clock => exact ⟨⟨[], 0⟩⟩
  | lockFor => exact ⟨0⟩
  | acquireGuard | releaseGuard | acquire | release => exact ⟨()⟩

abbrev Exchange (Node : Type) := Event (Request Node) (@Answer Node)

abbrev Trace (Node : Type) := List (Exchange Node)

def Request.IsGet {Node : Type} : Request Node → Prop
  | .get _ _ _ => True
  | _ => False

def Request.IsPost {Node : Type} : Request Node → Prop
  | .post _ _ _ => True
  | _ => False

def Request.IsPostTo {Node : Type} (node : Node) : Request Node → Prop
  | .post target _ _ => target = node
  | _ => False

theorem Request.IsPostTo.isPost {Node : Type} {node : Node} {request : Request Node}
    (post : request.IsPostTo node) : request.IsPost := by
  cases request <;> simp_all [Request.IsPost, Request.IsPostTo]

theorem Request.IsGet.not_post {Node : Type} {request : Request Node} (get : request.IsGet) :
    ¬ request.IsPost := by
  cases request <;> simp_all [Request.IsGet, Request.IsPost]

/-! ## The POSTs of a trace -/

structure Post (Node : Type) where
  node : Node
  path : Str
  body : Json
  reply : Reply

section Posts

variable {Node : Type}

def postOf : Exchange Node → Option (Post Node)
  | ⟨.post node path body, reply⟩ => some ⟨node, path, body, reply⟩
  | _ => none

def posts (trace : Trace Node) : List (Post Node) := trace.filterMap postOf

variable {trace front back : Trace Node}

@[simp]
theorem posts_nil : posts ([] : Trace Node) = [] := rfl

@[simp]
theorem posts_append : posts (front ++ back) = posts front ++ posts back :=
  List.filterMap_append

@[simp]
theorem posts_post {node : Node} {path : Str} {body : Json} {reply : Reply} :
    posts (⟨.post node path body, reply⟩ :: trace) = ⟨node, path, body, reply⟩ :: posts trace :=
  rfl

@[simp]
theorem posts_clock {now : Clock} :
    posts ((⟨.clock, now⟩ : Exchange Node) :: trace) = posts trace :=
  rfl

@[simp]
theorem posts_record {entry : AuditEntry} {answer : Except AppendFailure Unit} :
    posts ((⟨.append entry, answer⟩ : Exchange Node) :: trace) = posts trace :=
  rfl

theorem not_postTo_of_posts {node : Node} (others : ∀ post ∈ posts trace, post.node ≠ node) :
    ∀ event ∈ trace, ¬ event.request.IsPostTo node := by
  intro event member post
  rcases event with ⟨request, answer⟩
  cases request with
  | post target path body =>
      have found : (⟨target, path, body, answer⟩ : Post Node) ∈ posts trace :=
        List.mem_filterMap.mpr ⟨_, member, rfl⟩
      exact others _ found post
  | _ => exact post.elim

theorem exists_of_mem_posts {post : Post Node} (member : post ∈ posts trace) :
    ∃ front back,
      trace = front ++ ⟨.post post.node post.path post.body, post.reply⟩ :: back := by
  rcases List.mem_filterMap.mp member with ⟨⟨request, answer⟩, occurs, same⟩
  cases request with
  | post node path body =>
      cases same
      exact List.append_of_mem occurs
  | _ => cases same

/-- What follows the last POST -/
theorem exists_of_posts_concat {earlier : List (Post Node)} {post : Post Node}
    (same : posts trace = earlier ++ [post]) :
    ∃ front back, trace = front ++ ⟨.post post.node post.path post.body, post.reply⟩ :: back ∧
      posts front = earlier ∧ posts back = [] := by
  rcases List.filterMap_eq_append_iff.mp same with ⟨first, rest, rfl, before, found⟩
  rcases List.filterMap_eq_cons_iff.mp found with ⟨silent, event, back, rfl, none, isPost, after⟩
  rcases event with ⟨request, answer⟩
  cases request with
  | post node path body =>
      cases isPost
      have quiet : posts silent = [] := List.filterMap_eq_nil_iff.mpr none
      refine ⟨first ++ silent, back, by simp, ?_, after⟩
      rw [posts_append, quiet, List.append_nil]
      exact before
  | _ => cases isPost

theorem posts_of_reads (reads : ∀ event ∈ trace, event.request.IsGet) : posts trace = [] := by
  apply List.filterMap_eq_nil_iff.mpr
  intro event member
  have get := reads event member
  rcases event with ⟨request, answer⟩
  cases request with
  | post => exact absurd get id
  | _ => rfl

theorem posts_eq_nil (none : ∀ event ∈ trace, ¬ event.request.IsPost) : posts trace = [] := by
  apply List.filterMap_eq_nil_iff.mpr
  intro event member
  have other := none event member
  rcases event with ⟨request, answer⟩
  cases request with
  | post => exact absurd trivial other
  | _ => rfl

end Posts

/-- The exchange of a POST -/
def Post.exchange {Node : Type} (post : Post Node) : Exchange Node :=
  ⟨.post post.node post.path post.body, post.reply⟩

theorem posts_exchanges {Node : Type} {sent : List (Post Node)} :
    posts (sent.map Post.exchange) = sent := by
  induction sent with
  | nil => rfl
  | cons post rest ih => rw [List.map_cons, Post.exchange, posts_post, ih]

/-- A trace has one first POST. -/
theorem firstPost_unique {Node : Type} {front other back rest : Trace Node} {post send : Post Node}
    (quiet : posts front = []) (silent : posts other = [])
    (same : front ++ post.exchange :: back = other ++ send.exchange :: rest) :
    post = send ∧ back = rest := by
  induction front generalizing other with
  | nil =>
      cases other with
      | nil =>
          rcases post with ⟨node, path, body, reply⟩
          rcases send with ⟨target, place, content, answer⟩
          cases same
          exact ⟨rfl, rfl⟩
      | cons event events =>
          rcases List.cons.inj same with ⟨rfl, _⟩
          rw [Post.exchange, posts_post] at silent
          cases silent
  | cons first front ih =>
      cases other with
      | nil =>
          rcases List.cons.inj same with ⟨rfl, _⟩
          rw [Post.exchange, posts_post] at quiet
          cases quiet
      | cons event events =>
          rcases List.cons.inj same with ⟨rfl, later⟩
          rw [← List.singleton_append, posts_append, List.append_eq_nil_iff] at quiet silent
          exact ih quiet.2 silent.2 later

/-! ## The stored records of a trace -/

section Records

variable {Node : Type} {trace front back : Trace Node}

def storedEntry : Exchange Node → Option AuditEntry
  | ⟨.append entry, .ok ()⟩ => some entry
  | _ => none

/-- The entries that were appended to the audit log -/
def storedEntries (trace : Trace Node) : List AuditEntry := trace.filterMap storedEntry

@[simp]
theorem storedEntries_nil : storedEntries ([] : Trace Node) = [] := rfl

@[simp]
theorem storedEntries_append :
    storedEntries (front ++ back) = storedEntries front ++ storedEntries back :=
  List.filterMap_append

@[simp]
theorem storedEntries_clock {now : Clock} :
    storedEntries ((⟨.clock, now⟩ : Exchange Node) :: trace) = storedEntries trace :=
  rfl

@[simp]
theorem storedEntries_post {node : Node} {path : Str} {body : Json} {reply : Reply} :
    storedEntries ((⟨.post node path body, reply⟩ : Exchange Node) :: trace) =
      storedEntries trace :=
  rfl

theorem storedEntries_eq_nil (none : ∀ event ∈ trace, ∀ entry, event.request ≠ .append entry) :
    storedEntries trace = [] := by
  apply List.filterMap_eq_nil_iff.mpr
  intro event member
  have other := none event member
  rcases event with ⟨request, answer⟩
  cases request with
  | append entry => exact absurd rfl (other entry)
  | _ => rfl

theorem storedEntries_exchanges {sent : List (Post Node)} :
    storedEntries (sent.map Post.exchange) = [] := by
  apply storedEntries_eq_nil
  intro event member entry
  rcases List.mem_map.mp member with ⟨post, _, rfl⟩
  simp [Post.exchange]

end Records

/-! ## Errors -/

/-- `OPNsenseError` and its subclasses, those of the verified writer included. -/
inductive OpnsenseError
  | plain (detail : Str)
  | auth (detail : Str)
  | timeout (detail : Str)
  | rejected (detail : Str) (validations : Json)
  | conflict (detail : Str)
  | unsafeSync (detail : Str)

/-- `str(exc)` -/
def OpnsenseError.detail : OpnsenseError → Str
  | plain detail | auth detail | timeout detail | rejected detail _ | conflict detail
  | unsafeSync detail => detail

/-- The steps of `ManagementService._mutate`, `execute_operation` and `CrlService.mutate` that
errors name. -/
inductive Stage
  | save
  | apply
  | verify
  | audit
  | operation
  | read
  | crlWrite
deriving DecidableEq

structure ManagementError where
  error : Str
  detail : Str
  status : Nat
  isPartial : Bool
  stage : Option Stage
  auditFailure : Bool
  validations : List (Str × Str)
  uuid : Option Str
deriving DecidableEq

/-- `ManagementError(error, detail, status, partial=…, stage=…)` -/
def ManagementError.new (error detail : Str) (status : Nat := 400) (isPartial : Bool := false)
    (stage : Option Stage := none) : ManagementError :=
  { error, detail, status, isPartial, stage, auditFailure := false, validations := [],
    uuid := none }

inductive AppError
  | opnsense (error : OpnsenseError)
  | management (error : ManagementError)

abbrev Exn := Raised AppError

/-- `except OPNsenseError` -/
def isOpnsense : Exn → Bool
  | .custom (.opnsense _) => true
  | _ => false

/-- `str(exc)` -/
def excText : Exn → Str
  | .builtin _ detail => detail
  | .custom (.opnsense error) => error.detail
  | .custom (.management error) => error.detail

/-- `type(value).__name__` -/
def typeName : Json → Str
  | .null => "NoneType"
  | .bool _ => "bool"
  | .int _ => "int"
  | .float _ => "float"
  | .str _ => "str"
  | .arr _ => "list"
  | .obj _ => "dict"

def noAttribute (value : Json) (name : Str) : Exn :=
  .builtin .attributeError ("'" ++ typeName value ++ ("' object has no attribute '" : Str) ++ name ++
    [code '\''])

def opnsenseError (error : OpnsenseError) : Exn := .custom (.opnsense error)

/-- The class of a built-in exception -/
def builtinOf {α : Type} : Except Exn α → Option Builtin
  | .error (.builtin kind _) => some kind
  | _ => none

/-- Code of the plugin that talks to the clients named by `Node` and has variables `State`. -/
abbrev Py (Node State : Type) : Type → Type :=
  Action (Request Node) (@Answer Node) State Exn

/-! ## Clients -/

section Clients

variable {Node State : Type} {before after : State} {trace : Trace Node}

/-- What the caller of a client gets from a reply. -/
def received : Reply → Except Exn Json
  | .ok value => .ok value
  | .error (.error detail) => .error (opnsenseError (.plain detail))
  | .error (.auth detail) => .error (opnsenseError (.auth detail))
  | .error (.timeout detail) => .error (opnsenseError (.timeout detail))

@[simp]
theorem received_eq_ok {reply : Reply} {value : Json} :
    received reply = .ok value ↔ reply = .ok value := by
  rcases reply with (detail | detail | detail) | value <;> simp [received]

/-- `OPNsenseClient.get` -/
def clientGet (node : Node) (path : Str) (params : List (Str × Json) := []) :
    Py Node State Json := do
  let reply ← Action.ask (.get node path params)
  Action.ofExcept (received reply)

/-- `OPNsenseClient.post`, which sends `payload or {}` -/
def clientPost (node : Node) (path : Str) (payload : Json) : Py Node State Json := do
  let reply ← Action.ask (.post node path (if payload.truthy then payload else .obj []))
  Action.ofExcept (received reply)

def readClock : Py Node State Clock := Action.ask (Request.clock : Request Node)

@[simp]
theorem run_clientGet {node : Node} {path : Str} {params : List (Str × Json)}
    {outcome : Except Exn Json} :
    (clientGet node path params : Py Node State Json).Run before trace outcome after ↔
      ∃ reply : Reply, trace = [⟨.get node path params, reply⟩] ∧ outcome = received reply ∧
        after = before := by
  simp [clientGet, Action.run_bind, exists_and_left]

@[simp]
theorem run_clientPost {node : Node} {path : Str} {payload : Json} {outcome : Except Exn Json} :
    (clientPost node path payload : Py Node State Json).Run before trace outcome after ↔
      ∃ reply : Reply,
        trace = [⟨.post node path (if payload.truthy then payload else .obj []), reply⟩] ∧
        outcome = received reply ∧ after = before := by
  simp [clientPost, Action.run_bind, exists_and_left]

@[simp]
theorem run_readClock {outcome : Except Exn Clock} :
    (readClock : Py Node State Clock).Run before trace outcome after ↔
      ∃ now : Clock, trace = [⟨.clock, now⟩] ∧ outcome = .ok now ∧ after = before := by
  simp [readClock]

def Failure.detail : Failure → Str
  | .error detail | .auth detail | .timeout detail => detail

/-- Every failure reaches the caller of a client as an `OPNsenseError` with its text. -/
theorem received_error {failure : Failure} :
    ∃ error, received (.error failure) = .error error ∧ isOpnsense error = true ∧
      excText error = failure.detail := by
  cases failure <;> exact ⟨_, rfl, rfl, rfl⟩

/-- What `OPNsenseClient.post` sends: `payload or {}` -/
def sentBody (payload : Json) : Json := if payload.truthy then payload else .obj []

theorem run_attempt_clientPost {α : Type} {node : Node} {path : Str} {payload : Json}
    {next : Except Exn Json → Py Node State α} {outcome : Except Exn α} :
    (Action.attempt isOpnsense (clientPost node path payload) >>= next).Run
        before trace outcome after ↔
      ∃ (reply : Reply) (tail : Trace Node),
        trace = ⟨.post node path (sentBody payload), reply⟩ :: tail ∧
          (next (received reply)).Run before tail outcome after := by
  have caught : ∀ (reply : Reply) (error : Exn), received reply = .error error →
      isOpnsense error = true := by
    intro reply error same
    rcases reply with failure | value
    · rcases @received_error failure with ⟨raised, found, opnsense, _⟩
      rw [found] at same
      cases same
      exact opnsense
    · cases same
  rw [Action.run_bind_attempt]
  constructor
  · rintro (⟨front, result, middle, back, rfl, run, _, rest⟩ | ⟨error, uncaught, run, rfl⟩)
    · rw [run_clientPost] at run
      rcases run with ⟨reply, rfl, rfl, rfl⟩
      exact ⟨reply, back, rfl, rest⟩
    · rw [run_clientPost] at run
      rcases run with ⟨reply, rfl, same, rfl⟩
      simp [caught reply error same.symm] at uncaught
  · rintro ⟨reply, tail, rfl, rest⟩
    refine .inl ⟨[⟨.post node path (sentBody payload), reply⟩], received reply, before, tail,
      rfl, ?_, caught reply, rest⟩
    exact run_clientPost.mpr ⟨reply, rfl, rfl, rfl⟩

theorem clientGet_observes {node : Node} {path : Str} {params : List (Str × Json)} :
    Action.Ensures (Action.Observes Request.IsGet)
      (clientGet node path params : Py Node State Json) := by
  intro before trace outcome after run
  rw [run_clientGet] at run
  rcases run with ⟨reply, rfl, _, rfl⟩
  simp [Action.Observes, Request.IsGet]

end Clients

/-! ## Audit log -/

section Audit

variable {Node State : Type} {before after : State} {trace : Trace Node}

def unicodeEncodeError : Exn := .builtin .unicodeEncodeError "surrogates not allowed"

/-- `hash_payload`; `None` is JSON `null` -/
def hashPayload [Runtime] : Json → Except Exn Str
  | .null => .ok []
  | payload =>
      if payload.dumps.all Python.isEncodable then .ok (Runtime.sha256 payload.dumps)
      else .error unicodeEncodeError

theorem hashPayload_obj [Runtime] {members : List (Str × Json)} {revision : Str}
    (hashed : hashPayload (.obj members) = .ok revision) :
    revision = Runtime.sha256 (Json.obj members).dumps := by
  rw [hashPayload] at hashed
  · split at hashed
    · cases hashed
      rfl
    · cases hashed
  · intro none
    cases none

/-- What the caller of `AuditLog.append` gets. -/
def appended : Except AppendFailure Unit → Except Exn Unit
  | .ok () => .ok ()
  | .error (.os detail) => .error (.builtin .osError detail)
  | .error .encoding => .error unicodeEncodeError

@[simp]
theorem appended_eq_ok {answer : Except AppendFailure Unit} {value : Unit} :
    appended answer = .ok value ↔ answer = .ok () := by
  rcases answer with (detail | _) | _ <;> simp [appended]

/-- `AuditLog.append` -/
def auditAppend (entry : AuditEntry) : Py Node State Unit := do
  let answer ← Action.ask (.append entry)
  Action.ofExcept (appended answer)

@[simp]
theorem run_auditAppend {entry : AuditEntry} {outcome : Except Exn Unit} :
    (auditAppend entry : Py Node State Unit).Run before trace outcome after ↔
      ∃ answer : Except AppendFailure Unit, trace = [⟨.append entry, answer⟩] ∧
        outcome = appended answer ∧ after = before := by
  simp [auditAppend, Action.run_bind, exists_and_left]

/-- `AuditLog.append` of an entry that is made with the time of the call -/
def auditRecord (entry : Clock → AuditEntry) : Py Node State Unit := do
  let now ← readClock
  auditAppend (entry now)

/-- An entry was appended to the audit log. -/
def Recorded (property : AuditEntry → Prop) (segment : Trace Node) : Prop :=
  ∃ entry : AuditEntry, segment = [⟨.append entry, .ok ()⟩] ∧ property entry

theorem auditRecord_observes {entry : Clock → AuditEntry} :
    Action.Ensures (Action.Observes fun request => ¬ request.IsPost)
      (auditRecord entry : Py Node State Unit) := by
  intro before trace outcome after run
  simp only [auditRecord, Action.run_bind, run_readClock, run_auditAppend] at run
  rcases run with ⟨_, _, _, back, rfl, ⟨now, rfl, _, rfl⟩, answer, rfl, _, rfl⟩ | run
  · simp [Action.Observes, Request.IsPost]
  · simp at run

theorem auditRecord_ok {entry : Clock → AuditEntry}
    (run : (auditRecord entry : Py Node State Unit).Run before trace (.ok ()) after) :
    ∃ now : Clock, trace = [⟨.clock, now⟩, ⟨.append (entry now), .ok ()⟩] := by
  simp only [auditRecord, Action.run_bind_ok, run_readClock, run_auditAppend] at run
  rcases run with ⟨_, _, _, back, rfl, ⟨now, rfl, same, rfl⟩, answer, rfl, stored, _⟩
  cases same
  rw [eq_comm, appended_eq_ok] at stored
  subst stored
  exact ⟨_, rfl⟩

end Audit

end OpnsensePlugin

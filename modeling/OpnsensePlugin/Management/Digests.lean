import OpnsensePlugin.Management.CrlRuns
import OpnsensePlugin.Management.Failure
import OpnsensePlugin.Management.OperationRuns
import OpnsensePlugin.Python.Canonical
import OpnsensePlugin.Writers.Digests

/-!
# Hashes of the bodies that are sent

What the records of the four ways of writing hash, and what each of them sends.
The verified writer and the administration service hash the body. A change of a
revocation list hashes what it wraps, and an operation what it was given.
-/

namespace OpnsensePlugin

open Effects Python

/-! ## Requests of the engine -/

namespace Management

variable {State : Type} {hashes : Str → Prop} {sent : Json → Prop}

theorem callGet_evidences {role : Role} {path : Str} {params : List (Str × Json)} :
    Action.Ensures (Action.Observes (Evidences hashes sent))
      (callGet role path params : Py Role State Json) :=
  observes_evidences callGet_observes

theorem callPost_evidences {role : Role} {path : Str} {payload : Json}
    (body : sent (sentBody payload)) :
    Action.Ensures (Action.Observes (Evidences hashes sent))
      (callPost role path payload : Py Role State Json) :=
  Action.ensures_bind (ask_evidences body) fun _ => Action.ensures_ofExcept

theorem recordSent_evidences {entry : Clock → AuditEntry} {failure : Str}
    (hash : ∀ now, hashes (entry now).payloadSha256) :
    Action.Ensures (Action.Observes (Evidences hashes sent)) (recordSent entry failure) := by
  refine Action.ensures_bind (Action.ensures_attempt (auditRecord_evidences hash)) ?_
  intro stored
  cases stored with
  | ok value => exact Action.ensures_pure
  | error error =>
      refine Action.ensures_bind Action.ensures_readState ?_
      intro posted
      exact Action.ensures_raise

end Management

/-! ## The administration service -/

namespace ManagementService

open Management

variable [Runtime] {service : ManagementService} {spec : Spec} {request : MutateRequest}
  {expected payload : Json} {started : Clock}

theorem audit_hashes {State : Type} {action : WriteAction} {uuid result : Str} :
    Action.Ensures (Action.Observes (HashesPayload payload))
      (service.audit spec action uuid result payload started : Py Role State Unit) := by
  refine Action.ensures_bind_ofExcept ?_
  intro hash hashed
  refine Action.ensures_bind readClock_evidences ?_
  intro now
  refine Action.ensures_bind (Action.ensures_attempt (auditAppend_evidences hashed)) ?_
  intro stored
  cases stored with
  | ok value => exact Action.ensures_pure
  | error error => exact Action.ensures_raise

theorem prepare_hashes {State : Type} {before after : State} {trace : Trace Role}
    (run : (service.prepare spec request started : Py Role State (Json × Json)).Run before trace
      (.ok (expected, payload)) after) :
    ∀ event ∈ trace, HashesPayload payload event.request := by
  rw [prepare, Action.run_bind_ok] at run
  rcases run with ⟨front, object, _, back, rfl, reading, run⟩
  have read := raw_observes _ _ _ _ reading
  have quiet : ∀ event ∈ front, HashesPayload payload event.request :=
    fun event member => (read.2 event member).evidences
  simp only [Action.run_bind_ofExcept, reduceCtorEq, false_and, and_false, exists_false,
    or_false] at run
  rcases run with ⟨_, _, _, _, made, _, run⟩
  rw [Action.run_bind_ok] at run
  rcases run with ⟨record, _, _, rest, rfl, recording, run⟩
  rw [Action.run_pure] at run
  rcases run with ⟨rfl, same, _⟩
  cases same
  rw [List.append_nil]
  exact List.forall_mem_append.mpr ⟨quiet, (audit_hashes _ _ _ _ recording).2⟩

omit [Runtime] in
theorem payloadOf_isObj (made : payloadOf spec expected = .ok payload) : payload.isObj = true := by
  cases expected with
  | null =>
      cases made
      rfl
  | _ => exact put_isObj made

theorem applyAll_hashes {paths : List Str} :
    Action.Ensures (Action.Observes (HashesPayload payload)) (applyAll spec paths) := by
  induction paths with
  | nil => exact Action.ensures_pure
  | cons target rest ih =>
      refine Action.ensures_bind (callPost_evidences trivial) ?_
      intro response
      exact Action.ensures_bind Action.ensures_ofExcept fun _ => ih

theorem save_hashes :
    Action.Ensures (Action.Requests (HashesPayload payload)) (save spec request payload) := by
  refine Action.ensures_bind Action.ensures_ofExcept ?_
  intro target
  refine Action.ensures_bind (callPost_evidences trivial).requests ?_
  intro response
  refine Action.ensures_bind Action.ensures_ofExcept ?_
  intro _
  exact Action.ensures_bind Action.ensures_ofExcept fun _ => Action.requests_modifyState

theorem attemptMutation_hashes :
    Action.Ensures (Action.Requests (HashesPayload payload))
      (service.attemptMutation spec request expected payload started) := by
  refine Action.ensures_bind save_hashes ?_
  intro _
  apply Action.ensures_bind
  · refine Action.ensures_bind Action.ensures_raiseIf ?_
    intro _
    exact Action.ensures_bind applyAll_hashes.requests fun _ => Action.requests_modifyState
  · intro _
    refine Action.ensures_bind Action.ensures_readState ?_
    intro mutation
    refine Action.ensures_bind (observes_evidences verifyChange_observes).requests ?_
    intro _
    refine Action.ensures_bind audit_hashes.requests ?_
    intro _
    exact Action.ensures_bind Action.ensures_ofExcept fun _ => Action.ensures_pure

theorem recover_hashes {error : Exn} :
    Action.Ensures (Action.Requests (HashesPayload payload))
      (service.recover spec request payload started error) := by
  unfold recover
  split
  · refine Action.ensures_bind Action.ensures_readState ?_
    intro mutation
    refine Action.ensures_bind (Action.ensures_attempt audit_hashes.requests) ?_
    intro stored
    cases stored with
    | ok value => exact Action.ensures_raise
    | error error => exact Action.ensures_raise
  · exact Action.ensures_raise

theorem change_hashes :
    Action.Ensures (Action.Requests (HashesPayload payload))
      (service.change spec request expected payload started) :=
  Action.ensures_handle attemptMutation_hashes fun _ => recover_hashes

theorem ChangeRun.first_post {target : Str} {trace : Trace Role} {result : MutateResult}
    (run : ChangeRun spec request expected payload target trace (.ok result)) :
    ∃ post later, posts trace = post :: later ∧ post.body = payload := by
  cases run with
  | returned attempt =>
      rcases attempt.posts_eq with ⟨reply, back, rfl, _⟩
      exact ⟨_, _, rfl, rfl⟩

theorem mutateLocked_documents {target : Str} {trace : Trace Role} {result : MutateResult}
    (run : (service.mutateLocked spec request).Run () trace (.ok result) ())
    (targetEq : path spec (operation spec request.action) request.uuid = .ok target)
    (applicable : spec.apply.list.isEmpty = true → spec.persistenceOnly = true) :
    ∃ payload, payload.isObj = true ∧ (∀ event ∈ trace, HashesPayload payload event.request) ∧
      (∃ post later, posts trace = post :: later ∧ post.body = payload) ∧
      ∃ record, record ∈ appends trace := by
  rw [mutateLocked, readClock, Action.run_bind_ask] at run
  rcases run with ⟨started, rest, rfl, run⟩
  rw [Action.run_bind_ok] at run
  rcases run with ⟨front, ⟨expected, payload⟩, _, back, rfl, preparing, run⟩
  rcases prepare_run preparing with ⟨quiet, prepared⟩
  rcases prepared expected payload rfl with ⟨object, prepared⟩
  have preparedHashes := prepare_hashes preparing
  rw [Action.run_bind_ok] at run
  rcases run with ⟨changing, ⟨value, last⟩, _, closing, rfl, running, run⟩
  rw [Action.run_pure] at run
  rcases run with ⟨rfl, _, _⟩
  rw [Action.run_withState] at running
  rcases running with ⟨changed, final, running, _, same⟩
  cases changed with
  | error error => cases same
  | ok value =>
      have posted := payloadOf_posted prepared.payloadEq
      rcases (change_run running targetEq posted applicable).first_post with
        ⟨post, later, sent, body⟩
      rcases prepared.recorded with ⟨skipped, found, closing, rfl, _, recorded⟩
      rcases exists_appends recorded with ⟨record, member⟩
      refine ⟨payload, payloadOf_isObj prepared.payloadEq, ?_, ⟨post, later, ?_, body⟩, record, ?_⟩
      · rw [List.append_nil, List.forall_mem_cons]
        exact ⟨trivial, List.forall_mem_append.mpr
          ⟨preparedHashes, change_hashes _ _ _ _ running⟩⟩
      · rw [posts_clock, posts_append, posts_eq_nil quiet, List.append_nil, sent]
        rfl
      · rw [← List.singleton_append, appends_append, appends_append, appends_append,
          appends_append]
        refine List.mem_append_right _ (List.mem_append_left _ ?_)
        exact List.mem_append_right _ (List.mem_append_right _ member)

/-- A successful call records the hash of the payload that it saves. -/
theorem mutate_documents {body : Json} {trace : Trace Role} {result : MutateResult}
    (run : (service.mutate spec body).Run () trace (.ok result) ()) :
    ∃ payload, Documents payload (Runtime.sha256 payload.dumps) trace := by
  rw [mutate, Action.run_bind_ofExcept] at run
  rcases run with ⟨request, accepted, run⟩ | ⟨_, _, _, impossible, _⟩
  rotate_left
  · cases impossible
  rcases accept_ok accepted with ⟨⟨target, targetEq⟩, applicable⟩
  simp only [Action.run_bind_ask] at run
  rcases run with ⟨_, _, rfl, lock, _, rfl, _, _, rfl, _, _, rfl, run⟩
  rw [Action.run_finallyDo] at run
  rcases run with ⟨front, returned, _, back, closing, rfl, locked, releasing, same⟩
  rw [Action.run_bind_ask] at releasing
  rcases releasing with ⟨_, _, rfl, done⟩
  rw [Action.run_pure] at done
  rcases done with ⟨rfl, rfl, _⟩
  subst same
  rcases mutateLocked_documents locked targetEq applicable with
    ⟨payload, isObj, hashes, sent, recorded⟩
  have opening : posts ([⟨.acquireGuard .managementLocks, ()⟩,
      ⟨.lockFor .managementLocks (service.lockKey spec), lock⟩,
      ⟨.releaseGuard .managementLocks, ()⟩, ⟨.acquire lock, ()⟩] : Trace Role) = [] := rfl
  refine ⟨payload, documents_of_part opening sent recorded ?_⟩
  intro record member
  rw [appends_append, appends_append] at member
  have inside : record ∈ appends front := by simpa [appends] using member
  cases payload with
  | obj fields => exact hashPayload_obj (appends_evidenced hashes record inside)
  | _ => cases isObj

end ManagementService

/-! ## Calls with one POST -/

namespace Management

variable [Runtime] {α : Type} {check : Reply → Except Exn Unit} {trace : Trace Role}

omit [Runtime] in
theorem HandledRun.first_post {value : α} (run : HandledRun check trace (.ok value)) :
    ∃ post, posts trace = [post] := by
  cases run with
  | returned sent =>
      cases sent with
      | returned _ quiet =>
          rw [posts_post, quiet]
          exact ⟨_, rfl⟩

end Management

/-! ## Revocation lists -/

namespace CrlService

open Management

variable [Runtime] {service : CrlService} {request : CrlRequest} {change : CrlChange}
  {trace : Trace Role}

/-- A record with the hash of the change, the POST of the change, or another request -/
abbrev HashesChange (change : CrlChange) : Request Role → Prop :=
  Evidences (fun hash => hash = change.digest)
    fun body => body = .obj [("crl", .obj change.payload)]

omit [Runtime] in
theorem record_hashes {result : Str} :
    Action.Ensures (Action.Observes (HashesChange change)) (record change result) :=
  recordSent_evidences fun _ => rfl

omit [Runtime] in
theorem raw_reads {State : Type} {caref : Str} :
    Action.Ensures (Action.Observes Request.IsGet) (raw caref : Py Role State CrlState) :=
  Action.ensures_bind callGet_observes fun _ => Action.ensures_ofExcept

theorem attemptChange_hashes (keeps : change.request.action ≠ .delete) :
    Action.Ensures (Action.Requests (HashesChange change)) (attemptChange change) := by
  have kept : decide (change.request.action = .delete) = false := decide_eq_false keeps
  refine Action.ensures_bind Action.requests_modifyState ?_
  intro _
  simp only [kept, Bool.false_eq_true, if_false]
  refine Action.ensures_bind (callPost_evidences ?_).requests ?_
  · rfl
  intro response
  refine Action.ensures_bind Action.ensures_ofExcept ?_
  intro _
  apply Action.ensures_bind
  · refine Action.ensures_bind (observes_evidences raw_reads).requests ?_
    intro after
    refine Action.ensures_bind Action.ensures_ofExcept ?_
    intro same
    exact Action.ensures_bind Action.ensures_raiseIf fun _ => record_hashes.requests
  · intro _
    exact Action.ensures_pure

omit [Runtime] in
theorem recoverChange_hashes {error : Exn} :
    Action.Ensures (Action.Requests (HashesChange change)) (recoverChange change error) := by
  unfold recoverChange
  split
  · apply Action.ensures_bind
    · apply Action.ensures_attempt
      split
      · exact Action.ensures_pure
      · exact record_hashes.requests
    · intro stored
      cases stored with
      | ok value => exact Action.ensures_raise
      | error error => exact Action.ensures_raise
  · exact Action.ensures_raise

theorem prepareChange_ok {started : Clock} {before after : Bool}
    (run : (service.prepareChange request started).Run before trace (.ok change) after) :
    (∀ event ∈ trace, event.request.IsGet) ∧ change.request = request ∧
      hashPayload (.obj change.payload) = .ok change.digest := by
  rw [prepareChange, Action.run_bind_ok] at run
  rcases run with ⟨front, state, _, back, rfl, reading, run⟩
  simp only [Action.run_bind_ofExcept, Action.run_pure, reduceCtorEq, false_and, and_false,
    exists_false, or_false, Except.ok.injEq] at run
  rcases run with ⟨_, _, payload, _, digest, hashed, rfl, rfl, rfl⟩
  rw [List.append_nil]
  exact ⟨(raw_reads _ _ _ _ reading).2, rfl, hashed⟩

/-- A successful change of a list records the hash of what it wraps. -/
theorem runChange_documents {before after : Bool} {caref : Str} (keeps : request.action ≠ .delete)
    (run : (service.runChange request).Run before trace (.ok caref) after) :
    ∃ payload, Documents (.obj [("crl", .obj payload)])
      (Runtime.sha256 (Json.obj payload).dumps) trace := by
  rw [runChange, readClock, Action.run_bind_ask] at run
  rcases run with ⟨started, rest, rfl, run⟩
  rw [Action.run_bind_ok] at run
  rcases run with ⟨front, change, _, back, rfl, preparing, run⟩
  rcases prepareChange_ok preparing with ⟨reads, rfl, hashed⟩
  rw [Action.run_bind_ok] at run
  rcases run with ⟨recording, _, _, handling, rfl, recorded, run⟩
  have attempted := (record_run recorded).2.2.1 rfl
  rcases exists_appends attempted with ⟨record, member⟩
  rcases (handleChange_run run).first_post with ⟨post, sent⟩
  have handled : ∀ event ∈ handling, HashesChange change event.request :=
    Action.ensures_handle (attemptChange_hashes keeps) (fun _ => recoverChange_hashes) _ _ _ _ run
  have silent := posts_eq_nil fun event member => ((record_run recorded).2.1 event member).1
  have whole : ∀ event ∈ (⟨.clock, started⟩ :: (front ++ (recording ++ handling)) : Trace Role),
      HashesChange change event.request := by
    rw [List.forall_mem_cons]
    refine ⟨trivial, List.forall_mem_append.mpr ⟨?_, List.forall_mem_append.mpr ⟨?_, handled⟩⟩⟩
    · exact fun event member => (reads event member).evidences
    · exact (record_hashes _ _ _ _ recorded).2
  have first : posts (⟨.clock, started⟩ :: (front ++ (recording ++ handling)) : Trace Role) =
      [post] := by
    rw [posts_clock, posts_append, posts_append, posts_of_reads reads, silent, sent]
    rfl
  have body := posts_evidenced whole post (by simp [first])
  refine ⟨change.payload, ⟨post, [], first, body⟩, ⟨record, ?_⟩, ?_⟩
  · rw [← List.singleton_append, appends_append, appends_append, appends_append]
    refine List.mem_append_right _ (List.mem_append_right _ ?_)
    exact List.mem_append_left _ member
  · intro other present
    rw [appends_evidenced whole other present, hashPayload_obj hashed]

end CrlService

/-! ## Operations -/

namespace Management

variable [Runtime] {call : OperationCall} {payload : List (Str × Json)} {trace : Trace Role}

/-- A record with the hash of the operation, its POST, or another request -/
abbrev HashesOperation (call : OperationCall) (payload : List (Str × Json)) :
    Request Role → Prop :=
  Evidences (fun hash => hash = call.digest) fun body => body = .obj payload

omit [Runtime] in
theorem sentBody_obj : sentBody (.obj payload) = .obj payload := by
  cases payload with
  | nil => rfl
  | cons entry rest => rfl

omit [Runtime] in
theorem record_hashes {result detail : Str} :
    Action.Ensures (Action.Observes (HashesOperation call payload)) (record call result detail) :=
  recordSent_evidences fun _ => rfl

omit [Runtime] in
theorem recordPost_hashes {result detail : Str} :
    Action.Ensures (Action.Observes (HashesOperation call payload))
      (recordPost call result detail) := by
  unfold recordPost
  split
  · exact record_hashes
  · exact Action.ensures_pure

theorem attemptOperation_hashes {path : Str} :
    Action.Ensures (Action.Requests (HashesOperation call payload))
      (attemptOperation call path payload) := by
  apply Action.ensures_bind
  · unfold sendOperation
    split
    · refine Action.ensures_bind Action.requests_modifyState ?_
      intro _
      exact (callPost_evidences sentBody_obj).requests
    · exact callGet_evidences.requests
  · intro response
    refine Action.ensures_bind Action.ensures_ofExcept ?_
    intro _
    apply Action.ensures_bind
    · unfold readStatus
      split
      · exact Action.ensures_pure
      · refine Action.ensures_bind callGet_evidences.requests ?_
        intro status
        exact Action.ensures_bind Action.ensures_ofExcept fun _ => Action.ensures_pure
    · intro status
      refine Action.ensures_bind Action.ensures_ofExcept ?_
      intro result
      exact Action.ensures_bind recordPost_hashes.requests fun _ => Action.ensures_pure

omit [Runtime] in
theorem recoverOperation_hashes {error : Exn} :
    Action.Ensures (Action.Requests (HashesOperation call payload))
      (recoverOperation call error) := by
  unfold recoverOperation
  split
  · refine Action.ensures_bind Action.ensures_readState ?_
    intro posted
    apply Action.ensures_bind
    · apply Action.ensures_attempt
      split
      · exact record_hashes.requests
      · exact Action.ensures_pure
    · intro stored
      cases stored with
      | ok value => exact Action.ensures_raise
      | error error => exact Action.ensures_raise
  · exact Action.ensures_raise

theorem runOperation_documents {path : Str} {before after : Bool} {result : OperationResult}
    (post : call.spec.method = .post)
    (run : (runOperation call path payload).Run before trace (.ok result) after) :
    Documents (.obj payload) call.digest trace := by
  rw [runOperation, Action.run_bind_ok] at run
  rcases run with ⟨recording, _, _, handling, rfl, recorded, run⟩
  have attempted := (recordPost_run recorded).2.2.1 rfl post
  rcases (handleOperation_run post run).first_post with ⟨sent, first⟩
  have handled : ∀ event ∈ handling, HashesOperation call payload event.request :=
    Action.ensures_handle attemptOperation_hashes (fun _ => recoverOperation_hashes) _ _ _ _ run
  have silent := posts_eq_nil fun event member => ((recordPost_run recorded).2.1 event member).1
  have whole : ∀ event ∈ recording ++ handling, HashesOperation call payload event.request :=
    List.forall_mem_append.mpr ⟨(recordPost_hashes _ _ _ _ recorded).2, handled⟩
  have only : posts (recording ++ handling) = [sent] := by
    rw [posts_append, silent, first]
    rfl
  rcases exists_appends attempted with ⟨record, member⟩
  refine ⟨⟨sent, [], only, posts_evidenced whole sent (by simp [only])⟩, ⟨record, ?_⟩, ?_⟩
  · rw [appends_append]
    exact List.mem_append_left _ member
  · exact fun other present => appends_evidenced whole other present

/-- An operation records the hash of what it was given. -/
theorem executeOperation_documents {client : Host} {actor : Str} {operation values : Json}
    {spec : OperationSpec} {path : Str} {result : OperationResult}
    (planned : planOperation operation values = .ok (spec, path, payload))
    (post : spec.method = .post)
    (run : (executeOperation client actor operation values).Run () trace (.ok result) ()) :
    ∃ hash, hashPayload values = .ok hash ∧ Documents (.obj payload) hash trace := by
  rw [executeOperation, planned, Action.run_bind_ofExcept] at run
  rcases run with ⟨_, same, run⟩ | ⟨_, impossible, _⟩
  rotate_left
  · cases impossible
  cases same
  rw [readClock, Action.run_bind_ask] at run
  rcases run with ⟨started, rest, rfl, run⟩
  rw [Action.run_bind_ofExcept] at run
  rcases run with ⟨hash, hashed, run⟩ | ⟨_, _, _, impossible, _⟩
  rotate_left
  · cases impossible
  rw [Action.run_bind_ok] at run
  rcases run with ⟨front, ⟨value, last⟩, _, back, rfl, running, run⟩
  rw [Action.run_pure] at run
  rcases run with ⟨rfl, _, _⟩
  rw [Action.run_withState] at running
  rcases running with ⟨changed, final, running, _, same⟩
  cases changed with
  | error error => cases same
  | ok value =>
      have documents := runOperation_documents post running
      refine ⟨hash, hashed, ?_⟩
      rw [← List.singleton_append]
      refine documents_of_part rfl documents.sent documents.recorded ?_
      intro record member
      refine documents.hashed record ?_
      simpa [appends] using member

end Management

end OpnsensePlugin

import OpnsensePlugin.Writers.Outcome

/-!
# The hash of a payload in the records of a write

All records of a create or an update carry the hash of its payload. The one
record with another hash precedes the deletion of the last port forward of the
peer, which no create and no update can reach.
-/

namespace OpnsensePlugin

open Effects Python

/-! ## Records and bodies -/

/-- A record with such a hash, a POST with such a body, or another request -/
def Evidences {Node : Type} (hashes : Str → Prop) (sent : Json → Prop) : Request Node → Prop
  | .append entry => hashes entry.payloadSha256
  | .post _ _ body => sent body
  | _ => True

section Requests

variable {Node State : Type} {hashes : Str → Prop} {sent : Json → Prop}

theorem Request.IsGet.evidences {request : Request Node} (get : request.IsGet) :
    Evidences hashes sent request := by
  cases request with
  | get => trivial
  | _ => cases get

theorem observes_evidences {α : Type} {action : Py Node State α}
    (reads : Action.Ensures (Action.Observes Request.IsGet) action) :
    Action.Ensures (Action.Observes (Evidences hashes sent)) action :=
  reads.widen fun _ get => get.evidences

theorem ask_evidences {request : Request Node} (allowed : Evidences hashes sent request) :
    Action.Ensures (Action.Observes (Evidences hashes sent))
      (Action.ask request : Py Node State (Answer request)) := by
  apply Action.ensures_ask
  intro state answer
  exact ⟨rfl, by simpa using allowed⟩

theorem readClock_evidences :
    Action.Ensures (Action.Observes (Evidences hashes sent)) (readClock : Py Node State Clock) :=
  ask_evidences trivial

theorem clientPost_evidences {node : Node} {path : Str} {payload : Json}
    (body : sent (sentBody payload)) :
    Action.Ensures (Action.Observes (Evidences hashes sent))
      (clientPost node path payload : Py Node State Json) :=
  Action.ensures_bind (ask_evidences body) fun _ => Action.ensures_ofExcept

theorem auditAppend_evidences {entry : AuditEntry} (hash : hashes entry.payloadSha256) :
    Action.Ensures (Action.Observes (Evidences hashes sent))
      (auditAppend entry : Py Node State Unit) :=
  Action.ensures_bind (ask_evidences hash) fun _ => Action.ensures_ofExcept

theorem auditRecord_evidences {entry : Clock → AuditEntry}
    (hash : ∀ now, hashes (entry now).payloadSha256) :
    Action.Ensures (Action.Observes (Evidences hashes sent))
      (auditRecord entry : Py Node State Unit) := by
  refine Action.ensures_bind readClock_evidences ?_
  intro now
  exact auditAppend_evidences (hash now)

end Requests

section Traces

variable {Node : Type} {hashes : Str → Prop} {sent : Json → Prop} {trace : Trace Node}

theorem appends_evidenced
    (evidenced : ∀ event ∈ trace, Evidences hashes sent event.request) :
    ∀ record ∈ appends trace, hashes record.1.payloadSha256 := by
  intro record member
  rcases List.mem_filterMap.mp member with ⟨⟨request, answer⟩, listed, found⟩
  have evidence := evidenced _ listed
  cases request with
  | append entry =>
      cases found
      exact evidence
  | _ => cases found

theorem posts_evidenced
    (evidenced : ∀ event ∈ trace, Evidences hashes sent event.request) :
    ∀ post ∈ posts trace, sent post.body := by
  intro post member
  rcases exists_of_mem_posts member with ⟨front, back, rfl⟩
  exact evidenced ⟨.post post.node post.path post.body, post.reply⟩ (by simp)

end Traces

/-- The first POST sent this body, and all records have this hash. -/
structure Documents {Node : Type} (body : Json) (hash : Str) (trace : Trace Node) : Prop where
  sent : ∃ post later, posts trace = post :: later ∧ post.body = body
  recorded : ∃ record, record ∈ appends trace
  hashed : ∀ record ∈ appends trace, record.1.payloadSha256 = hash

/-- All records have the hash of the canonical text that was sent first. -/
def HashesBody {Node : Type} [Runtime] (trace : Trace Node) : Prop :=
  ∃ post later, posts trace = post :: later ∧
    ∀ record ∈ appends trace, record.1.payloadSha256 = Runtime.sha256 post.body.dumps

/-- A first POST and a record are the first POST and a record of what surrounds them. -/
theorem documents_of_part {Node : Type} {front part back : Trace Node} {body : Json} {hash : Str}
    (quiet : posts front = []) (sent : ∃ post later, posts part = post :: later ∧ post.body = body)
    (recorded : ∃ record, record ∈ appends part)
    (hashed : ∀ record ∈ appends (front ++ (part ++ back)), record.1.payloadSha256 = hash) :
    Documents body hash (front ++ (part ++ back)) := by
  rcases sent with ⟨post, later, sent, same⟩
  rcases recorded with ⟨record, member⟩
  have first : posts (front ++ (part ++ back)) = post :: (later ++ posts back) := by
    rw [posts_append, posts_append, quiet, sent]
    rfl
  refine ⟨⟨post, _, first, same⟩, ⟨record, ?_⟩, hashed⟩
  rw [appends_append, appends_append]
  exact List.mem_append_right _ (List.mem_append_left _ member)

theorem Documents.hashesDocument_iff {Node : Type} [Runtime] {trace : Trace Node} {body : Json}
    {hash : Str} (documents : Documents body hash trace) :
    HashesBody trace ↔ hash = Runtime.sha256 body.dumps := by
  rcases documents.sent with ⟨post, later, sent, rfl⟩
  constructor
  · rintro ⟨first, rest, same, hashed⟩
    rw [sent, List.cons.injEq] at same
    rcases documents.recorded with ⟨record, member⟩
    rw [← documents.hashed record member, hashed record member, same.1]
  · intro same
    refine ⟨post, later, sent, ?_⟩
    intro record member
    rw [documents.hashed record member, same]

/-- A record with the hash of the payload, or another request -/
abbrev HashesPayload [Runtime] (payload : Json) : Request Role → Prop :=
  Evidences (fun hash => hashPayload payload = .ok hash) fun _ => True

/-! ## The verified writer -/

namespace VerifiedFirewallWriter

variable [Runtime] {writer : VerifiedFirewallWriter} {action : WriteAction} {payload : Json}
  {uuid revision : Str} {expected : Option Json} {plan : Option SyncPlan}

/-- The last port forward of the peer is not to be deleted. -/
def Unqualified (execution : Execution) : Prop := execution.peerDeleteRevision = none

theorem acknowledged_hashes {State : Type} {node : Role} {path operation : Str} {body : Json} :
    Action.Ensures (Action.Observes (HashesPayload payload))
      (acknowledged node path body operation : Py Role State (List (Str × Json))) :=
  Action.ensures_bind (clientPost_evidences trivial) fun _ => Action.ensures_ofExcept

theorem apply_hashes {State : Type} :
    Action.Ensures (Action.Observes (HashesPayload payload)) (writer.apply : Py Role State Unit) :=
  Action.ensures_bind acknowledged_hashes fun _ => Action.ensures_pure

/-! ### Synchronization without a cleanup -/

theorem observe_hashes :
    Action.Ensures (Action.Requests (HashesPayload payload))
      (writer.observe plan none uuid expected) := by
  refine Action.ensures_bind (poll_requests.mono ?_) ?_
  · intro before trace after reads event member
    exact (reads event member).evidences
  · intro converged
    split
    · rename_i impossible
      cases impossible
    · exact Action.ensures_pure

theorem triggerSync_hashes :
    Action.Ensures (Action.Requests (HashesPayload payload)) (writer.triggerSync plan) := by
  refine Action.ensures_bind (observes_evidences syncPreflight_observes).requests ?_
  intro again
  refine Action.ensures_bind Action.ensures_raiseIf ?_
  intro _
  refine Action.ensures_bind Action.requests_modifyState ?_
  intro _
  exact Action.ensures_bind acknowledged_hashes.requests fun _ => Action.ensures_pure

theorem syncPeer_hashes :
    Action.Ensures (Action.Requests (HashesPayload payload))
      (writer.syncPeer plan none uuid expected) := by
  unfold syncPeer
  split
  · exact observe_hashes
  · apply Action.ensures_bind (Action.ensures_attempt triggerSync_hashes)
    intro triggered
    cases triggered with
    | ok value => exact observe_hashes
    | error error => exact Action.requests_modifyState

theorem sync_hashes :
    Action.Ensures (Action.Guards Unqualified (HashesPayload payload))
      (writer.sync uuid expected) := by
  unfold sync
  split
  · exact Action.ensures_pure
  · refine Action.guards_readState ?_
    intro execution unqualified
    rw [Unqualified] at unqualified
    rw [unqualified]
    exact (Action.ensures_bind (Action.observes_withState syncPeer_hashes) fun _ =>
      Action.ensures_pure).guards

/-! ### Execution -/

theorem updateResult_unqualified {update : ExecuteResult → ExecuteResult} :
    Action.Ensures (Action.Guards Unqualified (HashesPayload payload))
      (updateResult update : Py Role Execution Unit) :=
  Action.guards_modifyState fun _ unqualified => unqualified

theorem auditStarted_hashes :
    Action.Ensures (Action.Observes (HashesPayload payload))
      (writer.auditStarted action payload uuid) := by
  refine Action.ensures_bind_ofExcept ?_
  intro hash hashed
  exact auditRecord_evidences fun _ => hashed

theorem checkRevision_hashes (keeps : action ≠ .delete) :
    Action.Ensures (Action.Observes (HashesPayload payload))
      (writer.checkRevision action uuid revision) := by
  refine Action.ensures_bind (observes_evidences get_observes) ?_
  intro current
  refine Action.ensures_bind Action.ensures_ofExcept ?_
  intro hash
  refine Action.ensures_bind Action.ensures_raiseIf ?_
  intro _
  have others : writer.deletesLast action uuid = pure false := by simp [deletesLast, keeps]
  rw [others]
  exact Action.ensures_bind_pure Action.ensures_pure

theorem prepare_hashes (keeps : action ≠ .delete) :
    Action.Ensures (Action.Guards Unqualified (HashesPayload payload))
      (writer.prepare action payload uuid revision) := by
  refine Action.ensures_bind auditStarted_hashes.guards ?_
  intro _
  refine Action.ensures_bind (observes_evidences syncPreflight_observes).guards ?_
  intro plan
  refine Action.ensures_bind (Action.guards_modifyState fun _ unqualified => unqualified) ?_
  intro _
  split
  · exact Action.ensures_pure
  · exact (checkRevision_hashes keeps).guards

theorem mutate_hashes :
    Action.Ensures (Action.Guards Unqualified (HashesPayload payload))
      (writer.mutate action payload uuid) := by
  refine Action.ensures_bind acknowledged_hashes.guards ?_
  intro response
  apply Action.ensures_bind
  · unfold adoptUuid
    split
    · refine Action.ensures_bind Action.ensures_ofExcept ?_
      intro created
      exact Action.guards_modifyState fun _ unqualified => unqualified
    · exact Action.ensures_pure
  · intro _
    exact Action.guards_modifyState fun _ unqualified => unqualified

theorem applyVerified_hashes :
    Action.Ensures (Action.Guards Unqualified (HashesPayload payload))
      (writer.applyVerified expected) := by
  refine Action.ensures_bind apply_hashes.guards ?_
  intro _
  refine Action.ensures_bind updateResult_unqualified ?_
  intro _
  refine Action.ensures_bind Action.ensures_readState ?_
  intro execution
  refine Action.ensures_bind (observes_evidences verify_observes).guards ?_
  intro same
  exact Action.ensures_bind Action.ensures_raiseIf fun _ => updateResult_unqualified

theorem attemptWrite_hashes (keeps : action ≠ .delete) :
    Action.Ensures (Action.Guards Unqualified (HashesPayload payload))
      (writer.attemptWrite action payload uuid revision expected) := by
  refine Action.ensures_bind (prepare_hashes keeps) ?_
  intro _
  refine Action.ensures_bind mutate_hashes ?_
  intro _
  refine Action.ensures_bind applyVerified_hashes ?_
  intro _
  refine Action.ensures_bind Action.ensures_readState ?_
  intro execution
  exact Action.ensures_bind sync_hashes fun _ => updateResult_unqualified

theorem rollback_hashes :
    Action.Ensures (Action.Guards Unqualified (HashesPayload payload)) writer.rollback := by
  refine Action.ensures_bind Action.ensures_readState ?_
  intro execution
  refine Action.ensures_bind acknowledged_hashes.guards ?_
  intro _
  refine Action.ensures_bind apply_hashes.guards ?_
  intro _
  refine Action.ensures_bind (observes_evidences verify_observes).guards ?_
  intro absent
  refine Action.ensures_bind updateResult_unqualified ?_
  intro _
  exact Action.ensures_bind sync_hashes fun _ => updateResult_unqualified

theorem settle_hashes {result : Except Exn Unit} :
    Action.Ensures (Action.Guards Unqualified (HashesPayload payload))
      (writer.settle action result) := by
  cases result with
  | ok value => exact Action.ensures_pure
  | error error =>
      refine Action.ensures_bind updateResult_unqualified ?_
      intro _
      refine Action.ensures_bind Action.ensures_readState ?_
      intro execution
      split
      · refine Action.ensures_bind updateResult_unqualified ?_
        intro _
        refine Action.ensures_bind (Action.ensures_attempt rollback_hashes) ?_
        intro outcome
        cases outcome with
        | ok value => exact Action.ensures_pure
        | error error => exact updateResult_unqualified
      · exact Action.ensures_pure

theorem auditFinal_hashes {started : Clock} :
    Action.Ensures (Action.Guards Unqualified (HashesPayload payload))
      (writer.auditFinal action payload started) := by
  refine Action.ensures_bind Action.ensures_readState ?_
  intro execution
  refine Action.ensures_bind_ofExcept ?_
  intro hash hashed
  refine Action.ensures_bind readClock_evidences.guards ?_
  intro now
  refine Action.ensures_bind (Action.ensures_attempt (auditAppend_evidences hashed).guards) ?_
  intro stored
  cases stored with
  | ok value => exact updateResult_unqualified
  | error error => exact updateResult_unqualified

theorem executeLocked_hashes (keeps : action ≠ .delete) :
    Action.Ensures (Action.Requests (HashesPayload payload))
      (writer.executeLocked action payload uuid revision) := by
  refine Action.ensures_bind readClock_evidences.requests ?_
  intro started before trace outcome after run
  rw [Action.run_bind_modifyState] at run
  have rest : Action.Ensures (Action.Guards Unqualified (HashesPayload payload)) (do
      let expected ← Action.ofExcept (expectedOf writer.spec.key payload)
      let outcome ← (writer.attemptWrite action payload uuid revision expected).attempt isHandled
      writer.settle action outcome
      writer.auditFinal action payload started
      let execution ← Action.readState
      return execution.result) := by
    refine Action.ensures_bind Action.ensures_ofExcept ?_
    intro expected
    refine Action.ensures_bind (Action.ensures_attempt (attemptWrite_hashes keeps)) ?_
    intro outcome
    refine Action.ensures_bind settle_hashes ?_
    intro _
    refine Action.ensures_bind auditFinal_hashes ?_
    intro _
    exact Action.ensures_bind Action.ensures_readState fun _ => Action.ensures_pure
  exact (rest _ _ _ _ run rfl).1

/-- A create or an update records the hash of its payload and no other. -/
theorem execute_hashes (keeps : action ≠ .delete) :
    Action.Ensures (Action.Requests (HashesPayload payload))
      (writer.execute action payload uuid revision) := by
  refine Action.ensures_bind Action.ensures_ofExcept ?_
  intro checked
  refine Action.ensures_bind (ask_evidences ?_).requests ?_
  · exact trivial
  intro _
  refine Action.ensures_bind (ask_evidences ?_).requests ?_
  · exact trivial
  intro lock
  refine Action.ensures_bind (ask_evidences ?_).requests ?_
  · exact trivial
  intro _
  refine Action.ensures_bind (ask_evidences ?_).requests ?_
  · exact trivial
  intro _
  refine Action.ensures_finallyDo (executeLocked_hashes keeps) ?_
  refine Action.ensures_bind (ask_evidences ?_).requests ?_
  · exact trivial
  intro _
  exact Action.ensures_pure

theorem AttemptRun.first_post {before : Execution} {trace : Trace Role}
    (attempt : AttemptRun writer action payload uuid revision expected trace (.ok ()) before) :
    ∃ post later, posts trace = post :: later ∧ post.body = bodyOf payload := by
  cases attempt with
  | synced changed =>
      rw [posts_append, posts_eq_nil changed.quiet, mutationEvent, posts_post]
      exact ⟨_, _, rfl, rfl⟩

theorem LockedRun.documents {trace : Trace Role} {result : ExecuteResult}
    (run : LockedRun writer action payload uuid revision trace (.ok result))
    (ok : result.ok = true) :
    (∃ post later, posts trace = post :: later ∧ post.body = bodyOf payload) ∧
      ∃ record, record ∈ appends trace := by
  cases run with
  | @returned _ _ _ _ _ _ _ settled _ _ attempt recovery _ final =>
      cases final with
      | lost failed =>
          rw [failed] at ok
          cases ok
      | @stored hash began now _ same _ _ =>
          rw [same] at ok
          rcases recovery.ok_passed attempt ok with ⟨rfl, rfl, rfl⟩
          rcases attempt.first_post with ⟨post, later, sent, body⟩
          rw [posts_clock, posts_append, sent]
          refine ⟨⟨post, _, rfl, body⟩, (writer.finalEntry action settled hash began now, .ok ()), ?_⟩
          exact mem_appends (by simp)

/-- A successful create or update records the hash of its payload. -/
theorem execute_documents {before after : Execution} {trace : Trace Role}
    {result : ExecuteResult} (keeps : action ≠ .delete)
    (run : (writer.execute action payload uuid revision).Run before trace (.ok result) after)
    (ok : result.ok = true) :
    ∃ hash, hashPayload payload = .ok hash ∧ Documents (bodyOf payload) hash trace := by
  have hashes := appends_evidenced (execute_hashes keeps _ _ _ _ run)
  cases execute_run run with
  | @locked _ lock locked _ _ inner =>
      rcases inner.documents ok with ⟨sent, record, member⟩
      have hashed := hashes record (by
        rw [appends_append, appends_append]
        exact List.mem_append_right _ (List.mem_append_left _ member))
      refine ⟨record.1.payloadSha256, hashed, documents_of_part rfl sent ⟨record, member⟩ ?_⟩
      intro other present
      have same := hashes other present
      rw [hashed, Except.ok.injEq] at same
      exact same.symm

end VerifiedFirewallWriter

end OpnsensePlugin

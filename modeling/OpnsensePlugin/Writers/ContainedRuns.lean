import OpnsensePlugin.Routes.FirewallForm
import OpnsensePlugin.Writers.Containment

/-!
# Contained runs of the verified writer

Every step after the change is watched by the same monitor. A call of `_execute`
whose change was sent returns and attempts its last record exactly if the monitor
can digest what was exchanged after the change.
-/

namespace OpnsensePlugin

open Effects Python

namespace VerifiedFirewallWriter

section

variable [Runtime] {writer : VerifiedFirewallWriter} {expected target : Option Json}
  {uuid : Str} {role : Role}

/-! ## Synchronization -/

section Sync

variable {State : Type} {good : State → Prop} {plan : Option SyncPlan} {revision : Str}

omit [Runtime] in
theorem isOpnsense_handled : ∀ error : Exn, isOpnsense error = true → isHandled error = true := by
  intro error opnsense
  rw [isHandled, opnsense]
  rfl

/-- What is read back is the payload, or nothing at all. -/
theorem verify_target_watched (same : target = expected ∨ target = none) :
    writer.Watched expected good (writer.verify uuid target role : Py Role State Bool) := by
  rcases same with rfl | rfl
  · exact verify_watched
  · exact verify_absence_watched

theorem poll_watched {attempt remaining : Nat} (same : target = expected ∨ target = none) :
    writer.Watched expected (fun _ => True) (writer.poll uuid target attempt remaining) := by
  induction remaining generalizing attempt with
  | zero => exact Action.monitored_pure
  | succ remaining ih =>
      refine Action.monitored_bind (Action.monitored_modifyState fun _ _ => trivial) fun _ => ?_
      refine Action.monitored_bind (Action.monitored_attempt isOpnsense_handled
        (fun _ known => known)
        (verify_target_watched same)) fun outcome => ?_
      have again : ∀ update, writer.Watched expected (fun _ => True) (do
          Action.modifyState update
          writer.poll uuid target (attempt + 1) remaining) := fun update =>
        Action.monitored_bind (Action.monitored_modifyState fun _ _ => trivial) fun _ => ih
      rcases outcome with error | (_ | _)
      · exact again _
      · exact again _
      · exact Action.monitored_bind (Action.monitored_modifyState fun _ _ => trivial)
          fun _ => Action.monitored_pure

theorem triggerSync_watched :
    writer.Watched expected (fun _ => True) (writer.triggerSync plan) := by
  refine Action.monitored_bind syncPreflight_watched fun _ => ?_
  refine Action.monitored_bind (Action.monitored_raiseIf rfl) fun _ => ?_
  refine Action.monitored_bind (Action.monitored_modifyState fun _ _ => trivial) fun _ => ?_
  exact Action.monitored_bind acknowledged_watched fun _ => Action.monitored_pure

theorem isLastOnPeer_watched :
    writer.Watched expected good (writer.isLastOnPeer plan uuid : Py Role State Bool) := by
  refine Action.monitored_bind syncPreflight_watched fun again => ?_
  split
  · exact Action.monitored_pure
  · refine Action.monitored_bind dnatIds_watched fun here => ?_
    split
    · exact Action.monitored_pure
    · exact Action.monitored_bind dnatIds_watched fun _ => Action.monitored_pure

/-- The revision of the peer's object is only taken when nothing is read back. -/
theorem confirmCleanup_watched :
    writer.Watched none good (writer.confirmCleanup plan revision uuid : Py Role State Unit) := by
  refine Action.monitored_bind isLastOnPeer_watched fun _ => ?_
  refine Action.monitored_bind (Action.monitored_raiseIf rfl) fun _ => ?_
  have hashed : writer.Watched none good (do
      let detail ← writer.get uuid .peer
      Action.ofExcept (hashPayload detail) : Py Role State Str) :=
    get_watched fun _ => hashPayload_splits
  refine Action.monitored_assoc.mp (Action.monitored_bind hashed fun _ => ?_)
  exact Action.monitored_raiseIf rfl

theorem absentOnBoth_watched :
    writer.Watched expected good (writer.absentOnBoth uuid : Py Role State Bool) := by
  refine Action.monitored_bind verify_absence_watched fun here => ?_
  split
  · exact verify_absence_watched
  · exact Action.monitored_pure

/-- A text that UTF-8 cannot encode fails outside of the classes that are handled. -/
theorem auditAppend_watched {entry : AuditEntry} :
    Action.Monitored isHandled Raised.isOsError (writer.digest expected) none good
      (auditAppend entry : Py Role State Unit) := by
  apply Action.monitored_decoded
  intro answer
  rcases answer with (detail | _) | _
  · exact .inr ⟨rfl, Action.contained_error rfl⟩
  · exact .inl ⟨rfl, Action.escapes_error.mpr rfl⟩
  · exact .inr ⟨rfl, Action.contained_ok⟩

omit [Runtime] in
theorem isOsError_handled : ∀ error : Exn, error.isOsError = true → isHandled error = true := by
  intro error failed
  rw [isHandled, failed, Bool.or_true]

theorem deleteOnPeer_watched :
    Action.Monitored isHandled isHandled (writer.digest expected) none (fun _ => True)
      (writer.deleteOnPeer revision uuid) := by
  have update : ∀ change, writer.Watched expected (fun _ => True)
      (updateCleanup change : Py Role SyncResult Unit) :=
    fun _ => Action.monitored_modifyState fun _ _ => trivial
  have recorded : Action.Monitored isHandled isHandled (writer.digest expected) none
      (fun _ => True) (auditRecord (writer.startedEntry "port_forward.peer_delete" uuid
        writer.peerName revision) : Py Role SyncResult Unit) :=
    Action.monitored_bind (Action.monitored_ask fun _ => rfl) fun _ =>
      auditAppend_watched.mono isOsError_handled
  refine Action.monitored_bind recorded fun _ => Action.Monitored.mono ?_ isOpnsense_handled
  refine Action.monitored_bind (update _) fun _ => ?_
  refine Action.monitored_bind acknowledged_watched fun _ => ?_
  refine Action.monitored_bind (update _) fun _ => ?_
  refine Action.monitored_bind acknowledged_watched fun _ => ?_
  refine Action.monitored_bind (update _) fun _ => ?_
  refine Action.monitored_bind absentOnBoth_watched fun _ => ?_
  refine Action.monitored_bind (update _) fun _ => ?_
  exact Action.monitored_modifyState fun _ _ => trivial

theorem finishLastDnatDelete_watched :
    writer.Watched none (fun _ => True) (writer.finishLastDnatDelete plan revision uuid) := by
  refine Action.monitored_bind (Action.monitored_modifyState fun _ _ => trivial) fun _ => ?_
  refine Action.monitored_bind (Action.monitored_attempt (fun _ known => known)
    (fun _ known => known) (Action.monitored_bind
      (confirmCleanup_watched.mono isOpnsense_handled) fun _ => deleteOnPeer_watched))
    fun outcome => ?_
  rcases outcome with error | _
  · exact Action.monitored_modifyState fun _ _ => trivial
  · exact Action.monitored_pure

/-- The cleanup of the peer belongs to a call that expects nothing to be left. -/
theorem observe_watched {qualified : Option Str} (same : target = expected ∨ target = none)
    (deletes : target = none → expected = none ∨ qualified = none) :
    writer.Watched expected (fun _ => True) (writer.observe plan qualified uuid target) := by
  refine Action.monitored_bind (poll_watched same) fun converged => ?_
  split
  · rcases deletes rfl with rfl | impossible
    · exact finishLastDnatDelete_watched
    · cases impossible
  · exact Action.monitored_pure

theorem syncPeer_watched {qualified : Option Str} (same : target = expected ∨ target = none)
    (deletes : target = none → expected = none ∨ qualified = none) :
    writer.Watched expected (fun _ => True) (writer.syncPeer plan qualified uuid target) := by
  unfold syncPeer
  split
  · exact observe_watched same deletes
  · refine Action.monitored_bind
      (Action.monitored_attempt isOpnsense_handled (fun _ known => known)
        triggerSync_watched) fun triggered => ?_
    rcases triggered with error | _
    · exact Action.monitored_modifyState fun _ _ => trivial
    · exact observe_watched same deletes

/-- A synchronization in a state that qualifies for a cleanup only if nothing is expected -/
theorem sync_watched {good : Execution → Prop} (same : target = expected ∨ target = none)
    (deletes : ∀ execution, good execution → target = none →
      expected = none ∨ execution.peerDeleteRevision = none) :
    writer.Watched expected good (writer.sync uuid target) := by
  unfold sync
  split
  · exact Action.monitored_pure
  · refine Action.monitored_readState fun execution holds => ?_
    refine Action.monitored_bind (Action.monitored_withState
      (syncPeer_watched same (deletes execution holds))) fun _ => ?_
    exact Action.monitored_pure

end Sync

/-! ## Execution -/

section Execution

variable {action : WriteAction} {payload : Json} {revision : Str}

/-- A create has not taken the revision of an object of the peer. -/
def CreatesUnqualified (action : WriteAction) (execution : Execution) : Prop :=
  action = .create → execution.peerDeleteRevision = none

theorem updateResult_watched {update : ExecuteResult → ExecuteResult}
    {known : Exn → Bool} : Action.Monitored isHandled known (writer.digest expected) none
      (CreatesUnqualified action) (updateResult update : Py Role Execution Unit) :=
  Action.monitored_modifyState fun _ holds => holds

theorem mutate_watched :
    writer.Watched expected (CreatesUnqualified action) (writer.mutate action payload uuid) := by
  refine Action.monitored_bind acknowledged_watched fun response => ?_
  have adopted : writer.Watched expected (CreatesUnqualified action)
      (adoptUuid action response : Py Role Execution Unit) := by
    unfold adoptUuid
    split
    · have contained : Action.Contained isOpnsense (createdUuid response) := by
        unfold createdUuid
        split
        · exact Action.contained_ok
        · exact Action.contained_error rfl
      exact Action.monitored_bind (Action.monitored_ofExcept contained) fun _ =>
        Action.monitored_modifyState fun _ holds => holds
    · exact Action.monitored_pure
  exact Action.monitored_bind adopted fun _ => Action.monitored_modifyState fun _ holds => holds

theorem applyVerified_watched :
    writer.Watched expected (CreatesUnqualified action) (writer.applyVerified expected) := by
  refine Action.monitored_bind apply_watched fun _ => ?_
  refine Action.monitored_bind updateResult_watched fun _ => ?_
  refine Action.monitored_readState fun execution _ => ?_
  refine Action.monitored_bind verify_watched fun _ => ?_
  exact Action.monitored_bind (Action.monitored_raiseIf rfl) fun _ => updateResult_watched

/-- What `attemptWrite` does after its preparation -/
def change (writer : VerifiedFirewallWriter) (action : WriteAction) (payload : Json)
    (uuid : Str) (expected : Option Json) : Py Role Execution Unit := do
  writer.mutate action payload uuid
  writer.applyVerified expected
  let execution ← Action.readState
  let sync ← writer.sync execution.uuid expected
  updateResult (ExecuteResult.synced sync)

theorem change_watched : writer.Watched expected (CreatesUnqualified action)
    (writer.change action payload uuid expected) := by
  refine Action.monitored_bind mutate_watched fun _ => ?_
  refine Action.monitored_bind applyVerified_watched fun _ => ?_
  refine Action.monitored_readState fun execution _ => ?_
  refine Action.monitored_bind (sync_watched (.inl rfl) ?_) fun _ => updateResult_watched
  exact fun _ _ none => .inl none

theorem rollback_watched :
    writer.Watched expected (CreatesUnqualified .create) writer.rollback := by
  refine Action.monitored_readState fun execution _ => ?_
  refine Action.monitored_bind acknowledged_watched fun _ => ?_
  refine Action.monitored_bind apply_watched fun _ => ?_
  refine Action.monitored_bind verify_absence_watched fun _ => ?_
  refine Action.monitored_bind updateResult_watched fun _ => ?_
  refine Action.monitored_bind (sync_watched (.inr rfl) ?_) fun _ => updateResult_watched
  exact fun _ unqualified _ => .inr (unqualified rfl)

/-- The handler leaves no error that it could handle. -/
theorem settle_watched {outcome : Except Exn Unit} :
    Action.Monitored isHandled (fun _ => false) (writer.digest expected) none
      (CreatesUnqualified action) (writer.settle action outcome) := by
  cases outcome with
  | ok value => exact Action.monitored_pure
  | error error =>
      refine Action.monitored_bind updateResult_watched fun _ => ?_
      refine Action.monitored_readState fun execution _ => ?_
      split
      · rename_i undone
        rcases undone with ⟨_, rfl, _⟩
        refine Action.monitored_bind updateResult_watched fun _ => ?_
        refine Action.monitored_bind (Action.monitored_attempt isOpnsense_handled
          (fun _ known => known) rollback_watched) fun result => ?_
        rcases result with error | _
        · exact updateResult_watched
        · exact Action.monitored_pure
      · exact Action.monitored_pure

theorem auditFinal_watched {started : Clock} {hash : Str}
    (hashed : hashPayload payload = .ok hash) :
    Action.Monitored isHandled (fun _ => false) (writer.digest expected) none
      (CreatesUnqualified action) (writer.auditFinal action payload started) := by
  refine Action.monitored_readState fun execution _ => ?_
  rw [hashed]
  refine Action.monitored_bind (Action.monitored_ofExcept Action.contained_ok) fun _ => ?_
  refine Action.monitored_bind (Action.monitored_ask fun _ => rfl) fun now => ?_
  refine Action.monitored_bind (Action.monitored_attempt isOsError_handled
    (fun _ known => known) auditAppend_watched) fun stored => ?_
  rcases stored with error | _
  · exact updateResult_watched
  · exact updateResult_watched

end Execution

/-! ## Whole calls -/

section Calls

variable {action : WriteAction} {payload : Json} {revision : Str} {trace : Trace Role}

/-- Once a change was sent, the call returns, and it has attempted its last record. -/
def IsContained (writer : VerifiedFirewallWriter) (action : WriteAction) (trace : Trace Role)
    (outcome : Except Exn ExecuteResult) : Prop :=
  posts trace = [] ∨ (∃ result, outcome = .ok result) ∧
    ∃ (front : Trace Role) (post : Post Role) (back : Trace Role),
      trace = front ++ post.exchange :: back ∧ posts front = [] ∧
        ∃ record ∈ appends back, record.1.action = writer.auditAction action ∧
          record.1.result ∈ (["ok", "error"] : List Str)

/-- The monitor stops at what was exchanged after the change was sent. -/
def Choked (writer : VerifiedFirewallWriter) (payload : Json) (trace : Trace Role) : Prop :=
  ∃ (expected : Option Json) (front : Trace Role) (post : Post Role) (back : Trace Role),
    expectedOf writer.spec.key payload = .ok expected ∧ trace = front ++ post.exchange :: back ∧
      posts front = [] ∧ back.foldlM (writer.digest expected) none = none

/-- What `executeLocked` does after the body of the `try` statement -/
def conclude (writer : VerifiedFirewallWriter) (action : WriteAction) (payload : Json)
    (started : Clock) (outcome : Except Exn Unit) : Py Role Execution ExecuteResult := do
  writer.settle action outcome
  writer.auditFinal action payload started
  let execution ← Action.readState
  return execution.result

theorem conclude_watched {started : Clock} {hash : Str} {outcome : Except Exn Unit}
    (hashed : hashPayload payload = .ok hash) :
    Action.Monitored isHandled (fun _ => false) (writer.digest expected) none
      (CreatesUnqualified action) (writer.conclude action payload started outcome) := by
  refine Action.monitored_bind settle_watched fun _ => ?_
  refine Action.monitored_bind (auditFinal_watched hashed) fun _ => ?_
  exact Action.monitored_readState fun _ _ => Action.monitored_pure

/-- A change starts with its POST. -/
theorem change_posts {before after : Execution} {outcome : Except Exn Unit}
    (run : (writer.change action payload uuid expected).Run before trace outcome after) :
    ∃ reply rest, trace = writer.mutationEvent action payload uuid reply :: rest := by
  rw [change, Action.run_bind] at run
  rcases run with ⟨front, _, middle, back, rfl, mutating, _⟩ | ⟨error, rfl, mutating⟩
  · rcases mutate_run mutating with ⟨reply, rfl, _⟩
    exact ⟨reply, back, rfl⟩
  · rcases mutate_run mutating with ⟨reply, rfl, _⟩
    exact ⟨reply, [], rfl⟩

/-- A call that returns has attempted its last record. -/
theorem conclude_records {before after : Execution} {started : Clock} {outcome : Except Exn Unit}
    {result : ExecuteResult} (run : (writer.conclude action payload started outcome).Run
      before trace (.ok result) after) :
    ∃ record ∈ appends trace, record.1.action = writer.auditAction action ∧
      record.1.result ∈ (["ok", "error"] : List Str) := by
  rw [conclude, Action.run_bind_ok] at run
  rcases run with ⟨front, _, middle, back, rfl, _, run⟩
  rw [Action.run_bind_ok] at run
  rcases run with ⟨recorded, _, last, rest, rfl, recording, _⟩
  rw [auditFinal, Action.run_bind_readState, Action.run_bind_ofExcept] at recording
  rcases recording with ⟨hash, hashed, run⟩ | ⟨error, _, _, impossible, _⟩
  rotate_left
  · cases impossible
  rw [readClock, Action.run_bind_ask] at run
  rcases run with ⟨now, tail, rfl, run⟩
  have entered : (writer.finalEntry action middle hash started now).result ∈
      (["ok", "error"] : List Str) := by
    rw [finalEntry]
    dsimp only
    split
    · exact List.mem_cons_self
    · exact List.mem_cons_of_mem _ List.mem_cons_self
  rw [Action.run_bind_attempt] at run
  rcases run with ⟨asked, stored, _, _, rfl, appending, _⟩ | ⟨_, _, _, impossible⟩
  rotate_left
  · cases impossible
  rw [run_auditAppend] at appending
  rcases appending with ⟨answer, rfl, _, _⟩
  exact ⟨(writer.finalEntry action middle hash started now, answer), mem_appends (by simp), rfl,
    entered⟩

theorem settle_unaccepted {before after : Execution} {attempted outcome : Except Exn Unit}
    (unaccepted : before.accepted = false)
    (run : (writer.settle action attempted).Run before trace outcome after) : trace = [] := by
  cases attempted with
  | ok value =>
      rw [settle, Action.run_pure] at run
      exact run.1
  | error error =>
      rw [settle, recover, updateResult, Action.run_bind_modifyState,
        Action.run_bind_readState] at run
      split at run
      · rename_i undone
        exact absurd undone.1 (by simp [unaccepted])
      · rw [Action.run_pure] at run
        exact run.1

theorem conclude_unaccepted {before after : Execution} {started : Clock}
    {attempted : Except Exn Unit} {outcome : Except Exn ExecuteResult}
    (unaccepted : before.accepted = false)
    (run : (writer.conclude action payload started attempted).Run before trace outcome after) :
    ∀ event ∈ trace, ¬ event.request.IsPost := by
  rw [conclude, Action.run_bind] at run
  rcases run with ⟨settling, _, settled, rest, rfl, settle, run⟩ | ⟨_, _, settle⟩
  rotate_left
  · rw [settle_unaccepted unaccepted settle]
    simp
  rw [settle_unaccepted unaccepted settle, List.nil_append]
  rw [Action.run_bind] at run
  rcases run with ⟨recorded, _, last, rest, rfl, recording, run⟩ | ⟨_, _, recording⟩
  · rw [Action.run_bind_readState, Action.run_pure] at run
    rcases run with ⟨rfl, _, _⟩
    rw [List.append_nil]
    exact (auditFinal_run recording).1
  · exact (auditFinal_run recording).1

/-- A call without a completed preparation sends nothing. -/
theorem unprepared_silent {before after : Execution} {started : Clock} {error : Exn}
    {outcome : Except Exn ExecuteResult} (unaccepted : before.accepted = false)
    (run : ((Action.raise error : Py Role Execution Unit).attempt isHandled >>=
      writer.conclude action payload started).Run before trace outcome after) :
    ∀ event ∈ trace, ¬ event.request.IsPost := by
  rw [Action.run_bind_attempt] at run
  rcases run with ⟨front, result, middle, back, rfl, raised, _, run⟩ | ⟨_, _, raised, _⟩
  · rw [Action.run_raise] at raised
    rcases raised with ⟨rfl, _, rfl⟩
    exact conclude_unaccepted unaccepted run
  · rw [Action.run_raise] at raised
    rw [raised.1]
    simp

/-- `_execute` sends nothing, or the answers after its change decide how it ends. -/
theorem executeLocked_end {before after : Execution} {outcome : Except Exn ExecuteResult}
    (run : (writer.executeLocked action payload uuid revision).Run before trace outcome after) :
    posts trace = [] ∨ ∃ (expected : Option Json) (front : Trace Role) (post : Post Role)
      (back : Trace Role), expectedOf writer.spec.key payload = .ok expected ∧
        trace = front ++ post.exchange :: back ∧ posts front = [] ∧
        Action.Agrees isHandled (fun _ => false) (writer.digest expected) none back outcome ∧
        ((∃ result, outcome = .ok result) → ∃ record ∈ appends back,
          record.1.action = writer.auditAction action ∧
            record.1.result ∈ (["ok", "error"] : List Str)) := by
  rw [executeLocked, readClock, Action.run_bind_ask] at run
  rcases run with ⟨started, rest, rfl, run⟩
  rw [Action.run_bind_modifyState, Action.run_bind_ofExcept] at run
  rcases run with ⟨expected, expectedEq, run⟩ | ⟨error, _, rfl, rfl, rfl⟩
  rotate_left
  · exact .inl rfl
  change (((writer.prepare action payload uuid revision >>= fun _ =>
    writer.change action payload uuid expected).attempt isHandled) >>=
      writer.conclude action payload started).Run _ _ _ _ at run
  rcases Action.split_attempt run with ⟨front, _, middle, back, rfl, preparing, run⟩ |
    ⟨front, error, middle, back, rfl, preparing, run⟩
  all_goals
    rcases prepare_run preparing rfl with ⟨quiet, same, complete⟩
  rotate_left
  · refine .inl (posts_eq_nil (List.forall_mem_cons.mpr ⟨by simp [Request.IsPost], ?_⟩))
    have unaccepted : middle.accepted = false := by
      rw [same]
      rfl
    exact List.forall_mem_append.mpr ⟨quiet, unprepared_silent unaccepted run⟩
  have prepared := complete rfl
  have unqualified : CreatesUnqualified action middle := by
    intro create
    cases qualified : middle.peerDeleteRevision with
    | none => rfl
    | some hash =>
        have deletes := (prepared.qualified hash qualified).2.1.1
        rw [create] at deletes
        cases deletes
  have hashed : ∃ hash, hashPayload payload = .ok hash := by
    rcases prepared.opening with ⟨_, _, _, _, _, ⟨entry, _, _, _, _, hashed⟩, _⟩
    exact ⟨_, hashed⟩
  rcases hashed with ⟨hash, hashed⟩
  have watched : Action.Monitored isHandled (fun _ => false) (writer.digest expected) none
      (CreatesUnqualified action) ((writer.change action payload uuid expected).attempt isHandled
        >>= writer.conclude action payload started) :=
    Action.monitored_bind (Action.monitored_attempt (fun _ known => known) isOpnsense_handled
      change_watched) fun _ => conclude_watched hashed
  have agrees := (watched middle back outcome after run unqualified).2
  have begins : ∃ reply later, back = writer.mutationEvent action payload uuid reply :: later := by
    rw [Action.run_bind_attempt] at run
    rcases run with ⟨first, _, _, last, rfl, changing, _, _⟩ | ⟨_, _, changing, _⟩
    · rcases change_posts changing with ⟨reply, later, rfl⟩
      exact ⟨reply, later ++ last, rfl⟩
    · exact change_posts changing
  have records : (∃ result, outcome = .ok result) → ∃ record ∈ appends back,
      record.1.action = writer.auditAction action ∧
        record.1.result ∈ (["ok", "error"] : List Str) := by
    rintro ⟨result, rfl⟩
    rw [Action.run_bind_attempt] at run
    rcases run with ⟨first, _, _, last, rfl, _, _, concluding⟩ | ⟨_, _, _, impossible⟩
    · rcases conclude_records concluding with ⟨record, member, named⟩
      refine ⟨record, ?_, named⟩
      rw [appends_append]
      exact List.mem_append_right _ member
    · cases impossible
  rcases begins with ⟨reply, later, rfl⟩
  refine .inr ⟨expected, ⟨.clock, started⟩ :: front, ⟨.client, _, _, reply⟩, later, expectedEq, rfl,
    ?_, agrees, records⟩
  rw [posts_clock, posts_eq_nil quiet]

/-- A call is contained exactly if the monitor does not stop after its change was sent. -/
theorem execute_contained_iff {before after : Execution} {outcome : Except Exn ExecuteResult}
    (run : (writer.execute action payload uuid revision).Run before trace outcome after) :
    writer.IsContained action trace outcome ↔ ¬ writer.Choked payload trace := by
  have silent : posts trace = [] →
      (writer.IsContained action trace outcome ↔ ¬ writer.Choked payload trace) := by
    intro nothing
    refine ⟨fun _ => ?_, fun _ => .inl nothing⟩
    rintro ⟨_, front, post, back, _, rfl, _, _⟩
    rw [posts_append, Post.exchange, posts_post] at nothing
    exact absurd nothing (by simp)
  rw [execute, Action.run_bind_ofExcept] at run
  rcases run with ⟨valid, _, run⟩ | ⟨_, _, rfl, _, _⟩
  rotate_left
  · exact silent rfl
  simp only [Action.run_bind_ask] at run
  rcases run with ⟨_, _, rfl, lock, _, rfl, _, _, rfl, _, _, rfl, run⟩
  rw [Action.run_finallyDo] at run
  rcases run with ⟨inner, result, _, closing, closed, rfl, locked, releasing, ended⟩
  rw [Action.run_bind_ask] at releasing
  rcases releasing with ⟨_, _, rfl, done⟩
  rw [Action.run_pure] at done
  rcases done with ⟨rfl, rfl, _⟩
  subst ended
  let opening : Trace Role := [⟨.acquireGuard .writeLocks, ()⟩,
    ⟨.lockFor .writeLocks writer.lockKey, lock⟩, ⟨.releaseGuard .writeLocks, ()⟩,
    ⟨.acquire lock, ()⟩]
  let release : Exchange Role := ⟨.release lock, ()⟩
  change writer.IsContained action (opening ++ (inner ++ [release])) outcome ↔
    ¬ writer.Choked payload (opening ++ (inner ++ [release]))
  rcases executeLocked_end locked with nothing |
    ⟨expected, front, post, back, expectedEq, rfl, quiet, agrees, recorded⟩
  · refine silent ?_
    change posts (opening ++ (inner ++ [release])) = []
    rw [posts_append, posts_append, nothing]
    rfl
  have shape : opening ++ ((front ++ post.exchange :: back) ++ [release]) =
      (opening ++ front) ++ post.exchange :: (back ++ [release]) := by simp
  have opened : posts (opening ++ front) = [] := by
    rw [posts_append, quiet]
    rfl
  have sent : ¬ posts (opening ++ ((front ++ post.exchange :: back) ++ [release])) = [] := by
    rw [shape, posts_append, Post.exchange, posts_post]
    simp
  have stops : (back ++ [release]).foldlM (writer.digest expected) none =
      back.foldlM (writer.digest expected) none >>= fun _ => some none := by
    rw [List.foldlM_append]
    rfl
  rcases agrees with ⟨stopped, escaped⟩ | ⟨watched, contained⟩
  · refine iff_of_false ?_ (not_not.mpr ?_)
    · rintro (nothing | ⟨⟨result, rfl⟩, _⟩)
      · exact sent nothing
      · exact Action.not_escapes_ok escaped
    · refine ⟨expected, _, post, _, expectedEq, shape, opened, ?_⟩
      rw [stops, stopped]
      rfl
  · refine iff_of_true (.inr ?_) ?_
    · have returned : ∃ result, outcome = .ok result := by
        cases outcome with
        | ok result => exact ⟨result, rfl⟩
        | error error => exact absurd (contained error rfl) Bool.false_ne_true
      rcases recorded returned with ⟨record, member, named⟩
      refine ⟨returned, opening ++ front, post, back ++ [release], shape, opened, record, ?_, named⟩
      rw [appends_append]
      exact List.mem_append_left _ member
    · rintro ⟨other, first, send, rest, otherEq, same, quietly, stopped⟩
      rw [expectedEq] at otherEq
      cases otherEq
      rw [shape] at same
      rcases firstPost_unique opened quietly same with ⟨rfl, rfl⟩
      rw [stops, watched] at stopped
      cases stopped

end Calls

end

/-! ### A create whose readback is a set of options -/

def hostsForm : Json :=
  .obj [("name", .str "Hosts"), ("type", .str "host"), ("content", .str "10.0.0.1")]

def hostsPayload : Json :=
  .obj [("alias", .obj [("name", .str "Hosts"), ("type", .str "host"), ("content", .str "10.0.0.1"),
    ("description", .str []), ("enabled", .str "1"), ("proto", .str [])])]

/-- The form is accepted. -/
example : @FirewallForm.parsePayload Runtime.ascii .aliases hostsForm = .ok hostsPayload := by
  rfl

/-- A node that saves and applies every change and returns an alias of which only options are left -/
def returnsOptions : (request : Request Role) → Answer request
  | .get _ _ _ => .ok (.obj [("alias", .obj [("type", .obj [("selected", .int 1)])])])
  | .post _ _ _ => .ok (.obj [("status", .str "ok"), ("uuid", .str exampleUuid)])
  | .append _ => .ok ()
  | .clock => ⟨[], 0⟩
  | .lockFor _ _ => 0
  | .acquireGuard _ | .releaseGuard _ | .acquire _ | .release _ => ()

theorem create_raises_attributeError : ∃ trace detail after,
    @FirewallForm.parsePayload Runtime.ascii .aliases hostsForm = .ok hostsPayload ∧
    (@execute Runtime.ascii aliasWriter .create hostsPayload [] []).Run idle trace
      (.error (.builtin .attributeError detail)) after ∧
    (posts trace).map Post.path = [aliasWriter.mutationPath .create [], aliasWriter.applyPath] ∧
    ¬ aliasWriter.IsContained .create trace (.error (.builtin .attributeError detail)) := by
  rcases Program.replay_yields (fun _ => returnsOptions)
    (@execute Runtime.ascii aliasWriter .create hostsPayload [] [] idle) []
    with ⟨trace, recorded, run⟩
  have kind : builtinOf ((@execute Runtime.ascii aliasWriter .create hostsPayload [] [] idle).replay
      (fun _ => returnsOptions) []).2.1 = some .attributeError := by
    decide +kernel
  have paths : (posts trace).map Post.path =
      [aliasWriter.mutationPath .create [], aliasWriter.applyPath] := by
    rw [List.nil_append] at recorded
    rw [← recorded]
    decide +kernel
  generalize ((@execute Runtime.ascii aliasWriter .create hostsPayload [] [] idle).replay
    (fun _ => returnsOptions) []).2 = last at run kind
  rcases last with ⟨(⟨_, detail⟩ | error | error) | result, after⟩
  · cases kind
    refine ⟨trace, detail, after, rfl, run, paths, ?_⟩
    rintro (nothing | ⟨⟨result, same⟩, _⟩)
    · rw [nothing] at paths
      cases paths
    · cases same
  · cases kind
  · cases kind
  · cases kind

theorem create_contained_iff : ∃ trace outcome after,
    (@execute Runtime.ascii aliasWriter .create hostsPayload [] []).Run idle trace outcome after ∧
    (aliasWriter.IsContained .create trace outcome ↔
      ¬ @Choked Runtime.ascii aliasWriter hostsPayload trace) := by
  rcases Program.replay_yields (fun _ => returnsOptions)
    (@execute Runtime.ascii aliasWriter .create hostsPayload [] [] idle) [] with ⟨trace, _, run⟩
  exact ⟨trace, _, _, run, @execute_contained_iff Runtime.ascii aliasWriter [] .create hostsPayload
    [] trace idle _ _ run⟩

end VerifiedFirewallWriter

end OpnsensePlugin

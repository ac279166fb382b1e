import OpnsensePlugin.Writers.ExecutionRuns

/-!
# Whole runs of the verified writer

`ExecuteRun` puts the stages together: what a call of `execute` may have done
when it returns or raises. The guarantees of the writer are read off it.
-/

namespace OpnsensePlugin

open Effects Python

namespace VerifiedFirewallWriter

variable [Runtime] {writer : VerifiedFirewallWriter} {action : WriteAction} {payload : Json}
  {uuid revision : Str} {before after : Execution} {trace : Trace Role}

/-! ## Recovery -/

/-- What follows the body of the `try` statement: trace and state in the end -/
inductive RecoveryRun (writer : VerifiedFirewallWriter) (action : WriteAction)
    (attempted : Except Exn Unit) (before : Execution) : Trace Role → Execution → Prop
  | passed (success : attempted = .ok ()) :
      RecoveryRun writer action attempted before [] before
  | kept {error : Exn} {after : Execution} (failed : attempted = .error error)
      (ok : after.result.ok = before.result.ok) (reported : after.result.error ≠ none)
      (rollback : after.result.rollback.verified = before.result.rollback.verified) :
      RecoveryRun writer action attempted before [] after
  | rolledBack {error : Exn} {trace : Trace Role} {after : Execution}
      (failed : attempted = .error error) (accepted : before.accepted = true)
      (create : action = .create) (rejected : isRejected error = true)
      (run : RollbackRun writer before.syncPlan before.peerDeleteRevision before.uuid trace
        after.result.rollback.verified)
      (ok : after.result.ok = before.result.ok) (reported : after.result.error ≠ none) :
      RecoveryRun writer action attempted before trace after

theorem attemptRollback_run {outcome : Except Exn Unit}
    (run : writer.attemptRollback.Run before trace outcome after)
    (fresh : before.result.rollback.verified = false) :
    RollbackRun writer before.syncPlan before.peerDeleteRevision before.uuid trace
        after.result.rollback.verified ∧
      after.result.ok = before.result.ok ∧ after.result.error = before.result.error := by
  rw [attemptRollback, updateRollback, updateResult, Action.run_bind_modifyState,
    Action.run_bind_attempt] at run
  rcases run with ⟨front, result, middle, back, rfl, rolling, _, rest⟩ | ⟨error, _, rolling, rfl⟩
  · rcases rollback_run rolling fresh with ⟨rollback, ok, error⟩
    rcases result with raised | _
    all_goals
      simp only [updateRollback, updateResult, Action.run_modifyState, Action.run_pure] at rest
      rcases rest with ⟨rfl, _, rfl⟩
      rw [List.append_nil]
      exact ⟨rollback, ok, error⟩
  · rcases rollback_run rolling fresh with ⟨rollback, ok, same⟩
    exact ⟨rollback, ok, same⟩

theorem settle_run {attempted outcome : Except Exn Unit}
    (run : (writer.settle action attempted).Run before trace outcome after)
    (fresh : ∀ error, attempted = .error error → before.result.rollback.verified = false) :
    RecoveryRun writer action attempted before trace after := by
  rcases attempted with error | _
  rotate_left
  · rw [settle, Action.run_pure] at run
    rcases run with ⟨rfl, rfl, rfl⟩
    exact .passed rfl
  have unverified := fresh error rfl
  rw [settle, recover, updateResult, Action.run_bind_modifyState, Action.run_bind_readState] at run
  split at run
  · rename_i condition
    rcases condition with ⟨accepted, create, rejected⟩
    rcases attemptRollback_run run unverified with ⟨rollback, ok, same⟩
    refine .rolledBack rfl accepted create rejected rollback ok ?_
    rw [same]
    exact Option.some_ne_none _
  · rw [Action.run_pure] at run
    rcases run with ⟨rfl, rfl, rfl⟩
    exact .kept rfl rfl (Option.some_ne_none _) rfl

/-! ## The final record -/

/-- The end of `_execute`: trace and returned result -/
inductive FinalRun (writer : VerifiedFirewallWriter) (action : WriteAction)
    (settled : Execution) : Trace Role → ExecuteResult → Prop
  | stored {hash : Str} {started now : Clock} {result : ExecuteResult}
      (ok : result.ok = settled.result.ok) (error : result.error = settled.result.error)
      (rollback : result.rollback = settled.result.rollback)
      (uuid : result.uuid = settled.result.uuid) :
      FinalRun writer action settled
        [⟨.clock, now⟩, ⟨.append (writer.finalEntry action settled hash started now), .ok ()⟩]
        result
  | lost {entry : AuditEntry} {now : Clock} {detail : Str} {result : ExecuteResult}
      (ok : result.ok = false) (error : result.error = some .audit)
      (rollback : result.rollback = settled.result.rollback) :
      FinalRun writer action settled
        [⟨.clock, now⟩, ⟨.append entry, .error (.os detail)⟩] result

theorem auditFinal_run {started : Clock} {outcome : Except Exn Unit}
    (run : (writer.auditFinal action payload started).Run before trace outcome after) :
    (∀ event ∈ trace, ¬ event.request.IsPost) ∧
      (outcome = .ok () → FinalRun writer action before trace after.result) := by
  rw [auditFinal, Action.run_bind_readState, Action.run_bind_ofExcept] at run
  rcases run with ⟨hash, hashed, run⟩ | ⟨error, _, rfl, rfl, rfl⟩
  rotate_left
  · exact ⟨by simp, by simp⟩
  rw [readClock, Action.run_bind_ask] at run
  rcases run with ⟨now, rest, rfl, run⟩
  rw [Action.run_bind_attempt] at run
  rcases run with ⟨front, stored, middle, back, rfl, appending, caught, run⟩ |
    ⟨error, _, appending, rfl⟩
  all_goals
    rw [run_auditAppend] at appending
    rcases appending with ⟨answer, rfl, same, rfl⟩
  · subst same
    rcases answer with (detail | _) | _
    · simp only [appended, updateResult, Action.run_modifyState] at run
      rcases run with ⟨rfl, rfl, rfl⟩
      exact ⟨by simp [Request.IsPost], fun _ => .lost rfl rfl rfl⟩
    · have impossible := caught unicodeEncodeError rfl
      cases impossible
    · simp only [appended, updateResult, Action.run_modifyState] at run
      rcases run with ⟨rfl, rfl, rfl⟩
      exact ⟨by simp [Request.IsPost], fun _ => .stored rfl rfl rfl rfl⟩
  · exact ⟨by simp [Request.IsPost], by simp⟩

/-! ## Whole runs -/

/-- A call of `_execute`: trace and outcome -/
inductive LockedRun (writer : VerifiedFirewallWriter) (action : WriteAction) (payload : Json)
    (uuid revision : Str) : Trace Role → Except Exn ExecuteResult → Prop
  | malformed {started : Clock} {error : Exn} :
      LockedRun writer action payload uuid revision [⟨.clock, started⟩] (.error error)
  | raised {started : Clock} {expected : Option Json} {attempting recovering closing : Trace Role}
      {attempted : Except Exn Unit} {middle settled : Execution} {error : Exn}
      (expectedEq : expectedOf writer.spec.key payload = .ok expected)
      (attempt : AttemptRun writer action payload uuid revision expected attempting attempted
        middle)
      (recovery : RecoveryRun writer action attempted middle recovering settled)
      (quiet : ∀ event ∈ closing, ¬ event.request.IsPost) :
      LockedRun writer action payload uuid revision
        (⟨.clock, started⟩ :: (attempting ++ (recovering ++ closing))) (.error error)
  | returned {started : Clock} {expected : Option Json}
      {attempting recovering closing : Trace Role} {attempted : Except Exn Unit}
      {middle settled : Execution} {result : ExecuteResult}
      (expectedEq : expectedOf writer.spec.key payload = .ok expected)
      (attempt : AttemptRun writer action payload uuid revision expected attempting attempted
        middle)
      (recovery : RecoveryRun writer action attempted middle recovering settled)
      (quiet : ∀ event ∈ closing, ¬ event.request.IsPost)
      (final : FinalRun writer action settled closing result) :
      LockedRun writer action payload uuid revision
        (⟨.clock, started⟩ :: (attempting ++ (recovering ++ closing))) (.ok result)

/-- The parts of a call, whether it returns or raises -/
theorem LockedRun.parts {outcome : Except Exn ExecuteResult}
    (run : LockedRun writer action payload uuid revision trace outcome) :
    (∃ started : Clock, trace = [⟨.clock, started⟩]) ∨
      ∃ (started : Clock) (expected : Option Json) (attempting recovering closing : Trace Role)
        (attempted : Except Exn Unit) (middle settled : Execution),
        trace = ⟨.clock, started⟩ :: (attempting ++ (recovering ++ closing)) ∧
        expectedOf writer.spec.key payload = .ok expected ∧
        AttemptRun writer action payload uuid revision expected attempting attempted middle ∧
        RecoveryRun writer action attempted middle recovering settled ∧
        ∀ event ∈ closing, ¬ event.request.IsPost := by
  cases run with
  | malformed => exact .inl ⟨_, rfl⟩
  | raised expectedEq attempt recovery quiet =>
      exact .inr ⟨_, _, _, _, _, _, _, _, rfl, expectedEq, attempt, recovery, quiet⟩
  | returned expectedEq attempt recovery quiet _ =>
      exact .inr ⟨_, _, _, _, _, _, _, _, rfl, expectedEq, attempt, recovery, quiet⟩

/-- A prepared part without POSTs precedes everything else an attempt does. -/
theorem AttemptRun.prepared {expected : Option Json} {attempted : Except Exn Unit}
    (attempt : AttemptRun writer action payload uuid revision expected trace attempted after) :
    (∃ error, attempted = .error error ∧ after.accepted = false ∧
        ∀ event ∈ trace, ¬ event.request.IsPost) ∨
      ∃ front rest, trace = front ++ rest ∧ (∀ event ∈ front, ¬ event.request.IsPost) ∧
        Prepared writer action payload uuid revision front after := by
  cases attempt with
  | unprepared quiet unaccepted _ => exact .inl ⟨_, rfl, unaccepted, quiet⟩
  | refused quiet prepared _ _ => exact .inr ⟨_, _, rfl, quiet, prepared⟩
  | unapplied changed _ _ => exact .inr ⟨_, _, rfl, changed.quiet, changed.prepared⟩
  | unverified changed _ _ _ _ => exact .inr ⟨_, _, rfl, changed.quiet, changed.prepared⟩
  | unsynced changed _ _ _ _ _ _ => exact .inr ⟨_, _, rfl, changed.quiet, changed.prepared⟩
  | synced changed _ _ _ _ _ _ _ => exact .inr ⟨_, _, rfl, changed.quiet, changed.prepared⟩

theorem RecoveryRun.unaccepted {attempted : Except Exn Unit} {settled : Execution}
    (recovery : RecoveryRun writer action attempted before trace settled)
    (unaccepted : before.accepted = false) : trace = [] := by
  cases recovery with
  | passed => rfl
  | kept => rfl
  | rolledBack _ accepted _ _ _ _ _ => simp [unaccepted] at accepted

/-- Whatever POSTs a call makes, a completed preparation precedes them. -/
theorem LockedRun.prepared {outcome : Except Exn ExecuteResult}
    (run : LockedRun writer action payload uuid revision trace outcome) :
    (∀ event ∈ trace, ¬ event.request.IsPost) ∨
      ∃ (started : Clock) (front rest : Trace Role) (state : Execution),
        trace = ⟨.clock, started⟩ :: (front ++ rest) ∧
        (∀ event ∈ front, ¬ event.request.IsPost) ∧
        Prepared writer action payload uuid revision front state := by
  rcases run.parts with ⟨started, rfl⟩ | ⟨started, expected, attempting, recovering, closing,
    attempted, middle, settled, rfl, _, attempt, recovery, quiet⟩
  · exact .inl (by simp [Request.IsPost])
  rcases attempt.prepared with ⟨_, _, unaccepted, silent⟩ | ⟨front, rest, rfl, silent, prepared⟩
  · have nothing := recovery.unaccepted unaccepted
    subst nothing
    refine .inl (List.forall_mem_cons.mpr ⟨by simp [Request.IsPost], ?_⟩)
    exact List.forall_mem_append.mpr ⟨silent, quiet⟩
  · refine .inr ⟨started, front, rest ++ (recovering ++ closing), middle, ?_, silent, prepared⟩
    rw [List.append_assoc]

theorem AttemptRun.rollback_unverified {expected : Option Json} {attempted : Except Exn Unit}
    (attempt : AttemptRun writer action payload uuid revision expected trace attempted after) :
    after.result.rollback.verified = false := by
  cases attempt with
  | unprepared _ _ pending => exact pending.rollback
  | refused _ _ _ pending => exact pending.rollback
  | unapplied _ _ pending => exact pending.rollback
  | unverified _ _ _ _ pending => exact pending.rollback
  | unsynced _ _ _ _ _ _ pending => exact pending.rollback
  | synced _ _ _ _ _ pending resultEq _ =>
      rw [resultEq, ExecuteResult.synced]
      split <;> exact pending.rollback

theorem executeLocked_run {outcome : Except Exn ExecuteResult}
    (run : (writer.executeLocked action payload uuid revision).Run before trace outcome after) :
    LockedRun writer action payload uuid revision trace outcome := by
  rw [executeLocked, readClock, Action.run_bind_ask] at run
  rcases run with ⟨started, rest, rfl, run⟩
  rw [Action.run_bind_modifyState, Action.run_bind_ofExcept] at run
  rcases run with ⟨expected, expectedEq, run⟩ | ⟨error, _, rfl, rfl, rfl⟩
  rotate_left
  · exact .malformed
  rw [Action.run_bind_attempt] at run
  rcases run with ⟨front, attempted, middle, rest, rfl, attempting, _, run⟩ |
    ⟨error, _, attempting, rfl⟩
  all_goals
    have attempt := attemptWrite_run attempting rfl rfl rfl ⟨rfl, rfl, rfl, rfl⟩
  rotate_left
  · have kept : RecoveryRun writer action (.error error) after []
        { after with result := after.result.failed error } :=
      .kept rfl rfl (Option.some_ne_none _) rfl
    rw [← List.append_nil rest, ← List.append_nil []]
    exact .raised expectedEq attempt kept (by simp)
  have unverified := attempt.rollback_unverified
  rw [Action.run_bind] at run
  rcases run with ⟨recovering, _, settled, rest, rfl, settling, run⟩ | ⟨error, rfl, settling⟩
  rotate_left
  · have recovery := settle_run settling fun _ _ => unverified
    rw [← List.append_nil rest]
    exact .raised expectedEq attempt recovery (by simp)
  have recovery := settle_run settling fun _ _ => unverified
  rw [Action.run_bind] at run
  rcases run with ⟨final, _, last, rest, rfl, recording, run⟩ | ⟨error, rfl, recording⟩
  · rcases auditFinal_run recording with ⟨quiet, final⟩
    rw [Action.run_bind_readState, Action.run_pure] at run
    rcases run with ⟨rfl, rfl, rfl⟩
    rw [List.append_nil]
    exact .returned expectedEq attempt recovery quiet (final rfl)
  · rcases auditFinal_run recording with ⟨quiet, _⟩
    exact .raised expectedEq attempt recovery quiet

/-- A call of `execute`: trace and outcome -/
inductive ExecuteRun (writer : VerifiedFirewallWriter) (action : WriteAction) (payload : Json)
    (uuid revision : Str) : Trace Role → Except Exn ExecuteResult → Prop
  | invalid {error : Exn} : ExecuteRun writer action payload uuid revision [] (.error error)
  | locked {valid : Str} {lock : Nat} {trace : Trace Role} {outcome : Except Exn ExecuteResult}
      (validEq : checkedUuid action uuid revision = .ok valid)
      (run : LockedRun writer action payload valid revision trace outcome) :
      ExecuteRun writer action payload uuid revision
        ([⟨.acquireGuard .writeLocks, ()⟩, ⟨.lockFor .writeLocks writer.lockKey, lock⟩,
          ⟨.releaseGuard .writeLocks, ()⟩, ⟨.acquire lock, ()⟩] ++
          (trace ++ [⟨.release lock, ()⟩])) outcome

theorem execute_run {outcome : Except Exn ExecuteResult}
    (run : (writer.execute action payload uuid revision).Run before trace outcome after) :
    ExecuteRun writer action payload uuid revision trace outcome := by
  rw [execute, Action.run_bind_ofExcept] at run
  rcases run with ⟨valid, validEq, run⟩ | ⟨error, _, rfl, rfl, rfl⟩
  rotate_left
  · exact .invalid
  simp only [Action.run_bind_ask] at run
  rcases run with ⟨_, _, rfl, lock, _, rfl, _, _, rfl, _, _, rfl, run⟩
  rw [Action.run_finallyDo] at run
  rcases run with ⟨front, result, middle, back, closing, rfl, locked, releasing, rfl⟩
  rw [Action.run_bind_ask] at releasing
  rcases releasing with ⟨_, _, rfl, done⟩
  rw [Action.run_pure] at done
  rcases done with ⟨rfl, rfl, rfl⟩
  exact .locked validEq (executeLocked_run locked)

end VerifiedFirewallWriter

end OpnsensePlugin

import OpnsensePlugin.Writers.PostOrder

/-!
# What a reported success means

A result is read off flags that are set in many places. The results below say
what a call has observed when it returns `ok` or a verified rollback.
-/

namespace OpnsensePlugin

open Effects Python

/-- The appends of a trace to the audit log, with their answers -/
def appends {Node : Type} (trace : Trace Node) :
    List (AuditEntry × Except AppendFailure Unit) :=
  trace.filterMap fun event => match event with
    | ⟨.append entry, answer⟩ => some (entry, answer)
    | _ => none

section

variable {Node : Type} {trace front back : Trace Node}

theorem appends_append :
    appends (front ++ back) = appends front ++ appends back :=
  List.filterMap_append

theorem mem_appends {entry : AuditEntry} {answer : Except AppendFailure Unit}
    (member : ⟨.append entry, answer⟩ ∈ trace) : (entry, answer) ∈ appends trace :=
  List.mem_filterMap.mpr ⟨_, member, rfl⟩

theorem exists_appends {property : AuditEntry → Prop}
    (recorded : InOrder [Recorded property] trace) : ∃ record, record ∈ appends trace := by
  rcases recorded with ⟨front, _, back, rfl, ⟨entry, rfl, _⟩, _⟩
  exact ⟨(entry, .ok ()), mem_appends (by simp)⟩

end

namespace VerifiedFirewallWriter

section

variable [Runtime] {writer : VerifiedFirewallWriter} {action : WriteAction} {payload : Json}
  {uuid revision : Str} {expected : Option Json} {before after : Execution} {trace : Trace Role}

/-- A configured peer was confirmed. -/
def PeerChecked (writer : VerifiedFirewallWriter) (uuid : Str) (expected : Option Json)
    (segment : Trace Role) : Prop :=
  writer.peer.isSome → writer.PeerConfirmed uuid expected segment

/-- The change was acknowledged. The object of a create is the one that the answer names. -/
def Made (writer : VerifiedFirewallWriter) (action : WriteAction) (payload : Json)
    (uuid target : Str) (segment : Trace Role) : Prop :=
  ∃ reply response, segment = [writer.mutationEvent action payload uuid reply] ∧
    answered action.name reply = .ok response ∧
    (action = .create → createdUuid response = .ok target) ∧ (action ≠ .create → target = uuid)

/-- The record of a successful call was appended. -/
def RecordedOk (writer : VerifiedFirewallWriter) (action : WriteAction) (target : Str) :
    Trace Role → Prop :=
  Recorded fun entry => entry.action = writer.auditAction action ∧ entry.target = target ∧
    entry.result = "ok"

/-- What a successful call has observed -/
def successEvidence (writer : VerifiedFirewallWriter) (action : WriteAction) (payload : Json)
    (uuid target : Str) (expected : Option Json) : List (Trace Role → Prop) :=
  [writer.Made action payload uuid target,
    Acknowledged .client writer.applyPath (.obj []) "apply",
    writer.Confirmed .client target expected,
    writer.PeerChecked target expected]

/-- What a verified rollback has observed -/
def rollbackEvidence (writer : VerifiedFirewallWriter) (payload : Json) (uuid created : Str) :
    List (Trace Role → Prop) :=
  [writer.Made .create payload uuid created,
    Acknowledged .client (writer.deletePath created) (.obj []) "rollback delete",
    writer.Confirmed .client created none,
    writer.PeerChecked created none]

/-- An accepted listing of the node does not contain the object. -/
def ListsWithout (writer : VerifiedFirewallWriter) (role : Role) (uuid : Str)
    (segment : Trace Role) : Prop :=
  ∃ (out : Json) (rows : List Row),
    segment = [⟨.get role writer.searchPath searchParams, .ok out⟩] ∧
    searchRows writer.resource out = .ok rows ∧ isAbsent uuid rows = true

theorem Confirmed.listsWithout {role : Role} {segment : Trace Role}
    (confirmed : writer.Confirmed role uuid none segment) :
    writer.ListsWithout role uuid segment := by
  rcases confirmed with ⟨_, _, _, _, run, rfl⟩
  simp only [verify, search] at run
  rw [Action.run_bind_ok] at run
  rcases run with ⟨_, rows, _, _, rfl, searching, done⟩
  rw [Action.run_pure] at done
  rcases done with ⟨rfl, absent, _⟩
  rw [Action.run_bind_ok] at searching
  rcases searching with ⟨_, out, _, _, rfl, getting, decoding⟩
  rw [run_clientGet] at getting
  rcases getting with ⟨reply, rfl, received, _⟩
  rw [Action.run_ofExcept] at decoding
  rcases decoding with ⟨rfl, accepted, _⟩
  have replied := received_eq_ok.mp received.symm
  subst replied
  exact ⟨out, rows, rfl, accepted.symm, (Except.ok.inj absent).symm⟩

theorem AttemptRun.pending_of_error {error : Exn}
    (attempt : AttemptRun writer action payload uuid revision expected trace (.error error)
      after) : Pending after := by
  cases attempt with
  | unprepared _ _ pending => exact pending
  | refused _ _ _ pending => exact pending
  | unapplied _ _ pending => exact pending
  | unverified _ _ _ _ pending => exact pending
  | unsynced _ _ _ _ _ _ pending => exact pending

/-- Only a completed attempt leaves a success behind. -/
theorem RecoveryRun.ok_passed {attempting recovering : Trace Role}
    {attempted : Except Exn Unit} {middle settled : Execution}
    (recovery : RecoveryRun writer action attempted middle recovering settled)
    (attempt : AttemptRun writer action payload uuid revision expected attempting attempted
      middle) (ok : settled.result.ok = true) :
    attempted = .ok () ∧ settled = middle ∧ recovering = [] := by
  cases recovery with
  | passed success => exact ⟨success, rfl, rfl⟩
  | kept failed same _ _ =>
      subst failed
      rw [same, attempt.pending_of_error.ok] at ok
      cases ok
  | rolledBack failed _ _ _ _ same _ =>
      subst failed
      rw [same, attempt.pending_of_error.ok] at ok
      cases ok

omit [Runtime] in
theorem synced_ok {result : ExecuteResult} {sync : Option SyncResult}
    (ok : (result.synced sync).ok = true) (fresh : result.error = none) :
    sync.all SyncResult.verified = true ∧ (result.synced sync).error = none := by
  cases verified : sync.all SyncResult.verified with
  | true => simp [ExecuteResult.synced, verified, fresh]
  | false => simp [ExecuteResult.synced, verified] at ok

theorem AttemptRun.success
    (attempt : AttemptRun writer action payload uuid revision expected trace (.ok ()) after)
    (ok : after.result.ok = true) :
    after.result.uuid = after.uuid ∧ after.result.error = none ∧
      InOrder (writer.successEvidence action payload uuid after.uuid expected) trace := by
  cases attempt with
  | synced changed answer reads confirmed sync pending resultEq named =>
      refine ⟨named, ?_⟩
      rw [resultEq] at ok ⊢
      rcases synced_ok ok pending.error with ⟨verified, silent⟩
      rcases changed.answer with ⟨response, acknowledged, created⟩
      refine ⟨silent, InOrder.skip ?_⟩
      have first : writer.Made action payload uuid after.uuid
          [writer.mutationEvent action payload uuid _] :=
        ⟨_, _, rfl, acknowledged, created, changed.uuid⟩
      have second : Acknowledged .client writer.applyPath (.obj []) "apply"
          [writer.applyEvent _] := ⟨_, _, rfl, answer⟩
      have checked : writer.PeerChecked after.uuid expected _ :=
        fun paired => sync.confirmed verified paired
      exact InOrder.cons first (InOrder.cons second (confirmed.append (.single checked)))

theorem RollbackRun.confirmed {plan : Option SyncPlan} {qualified : Option Str}
    {verified : Bool} (run : RollbackRun writer plan qualified uuid trace verified)
    (success : verified = true) :
    InOrder [Acknowledged .client (writer.deletePath uuid) (.obj []) "rollback delete",
      writer.Confirmed .client uuid none, writer.PeerChecked uuid none] trace := by
  cases run with
  | refused => cases success
  | unapplied => cases success
  | unread => cases success
  | synced acknowledged answer reads sync confirmed =>
      rcases confirmed success with ⟨absent, result, rfl, all⟩
      have first : Acknowledged .client (writer.deletePath uuid) (.obj []) "rollback delete"
          [writer.deleteEvent uuid _] := ⟨_, _, rfl, acknowledged⟩
      have checked : writer.PeerChecked uuid none _ := fun paired => sync.confirmed all paired
      exact InOrder.cons first (absent.append (.single checked)).skipEvent

/-- A verified rollback follows the create it undoes. -/
theorem RecoveryRun.rollback_confirmed {attempting recovering : Trace Role}
    {attempted : Except Exn Unit} {middle settled : Execution}
    (recovery : RecoveryRun writer action attempted middle recovering settled)
    (attempt : AttemptRun writer action payload uuid revision expected attempting attempted
      middle) (verified : settled.result.rollback.verified = true) :
    ∃ created, InOrder (writer.rollbackEvidence payload uuid created)
      (attempting ++ recovering) := by
  cases recovery with
  | passed success =>
      rw [attempt.rollback_unverified] at verified
      cases verified
  | kept failed _ _ rollback =>
      rw [rollback, attempt.rollback_unverified] at verified
      cases verified
  | rolledBack failed accepted create rejected run _ _ =>
      subst failed create
      rcases attempt.rejected accepted rejected with ⟨front, reply, applied, rfl, changed, _⟩
      rcases changed.answer with ⟨response, acknowledged, created⟩
      have add : writer.Made .create payload uuid middle.uuid
          [writer.mutationEvent .create payload uuid reply] :=
        ⟨reply, response, rfl, acknowledged, created, changed.uuid⟩
      have undone := run.confirmed verified
      refine ⟨middle.uuid, ?_⟩
      rw [List.append_assoc, List.cons_append, List.singleton_append]
      exact InOrder.skip (InOrder.cons add undone.skipEvent)

theorem FinalRun.rollback_eq {settled : Execution} {result : ExecuteResult}
    (final : FinalRun writer action settled trace result) :
    result.rollback = settled.result.rollback := by
  cases final with
  | stored _ _ rollback _ => exact rollback
  | lost _ _ rollback => exact rollback

/-- The answer to the final record decides whether a call can be successful. -/
theorem FinalRun.last_append {settled : Execution} {result : ExecuteResult}
    {entry : AuditEntry} {detail : Str} {front : Trace Role}
    (final : FinalRun writer action settled trace result)
    (last : (appends (front ++ trace)).getLast? = some (entry, .error (.os detail))) :
    result.ok = false := by
  cases final with
  | stored => simp [appends] at last
  | lost lost => exact lost

/-- What a call that returns has observed when it reports a success or a verified rollback -/
structure Sound (writer : VerifiedFirewallWriter) (action : WriteAction) (payload : Json)
    (uuid : Str) (trace : Trace Role) (result : ExecuteResult) : Prop where
  ok : result.ok = true → ∃ expected, expectedOf writer.spec.key payload = .ok expected ∧
    InOrder (writer.successEvidence action payload uuid result.uuid expected ++
      [writer.RecordedOk action result.uuid]) trace
  absent : result.ok = true → payload = .null →
    InOrder [writer.Made action .null uuid result.uuid,
      Acknowledged .client writer.applyPath (.obj []) "apply",
      writer.ListsWithout .client result.uuid] trace
  rollback : result.rollback.verified = true → ∃ created,
    InOrder (writer.rollbackEvidence payload uuid created) trace
  silent : result.ok = true → result.error = none
  stored : ∀ entry detail,
    (appends trace).getLast? = some (entry, .error (.os detail)) → result.ok = false

theorem absent_of_success {target : Str}
    (evidence : InOrder (writer.successEvidence action .null uuid target none) trace) :
    InOrder [writer.Made action .null uuid target,
      Acknowledged .client writer.applyPath (.obj []) "apply",
      writer.ListsWithout .client target] trace := by
  have short : InOrder [writer.Made action .null uuid target, Acknowledged .client writer.applyPath (.obj []) "apply",
      writer.Confirmed .client target none] trace := InOrder.left evidence
  refine short.imp (.cons (fun _ same => same) (.cons (fun _ same => same) (.cons ?_ .nil)))
  exact fun _ confirmed => confirmed.listsWithout

theorem LockedRun.sound {result : ExecuteResult}
    (run : LockedRun writer action payload uuid revision trace (.ok result)) :
    Sound writer action payload uuid trace result := by
  cases run with
  | @returned started expected attempting recovering closing attempted middle settled _
      expectedEq attempt recovery quiet final =>
      refine ⟨fun ok => ?_, fun ok missing => ?_, fun verified => ?_, fun ok => ?_,
        fun entry detail last => ?_⟩
      · cases final with
        | lost lost => simp [lost] at ok
        | @stored hash began now _ same _ _ uuidEq =>
            rw [same] at ok
            rcases recovery.ok_passed attempt ok with ⟨rfl, rfl, rfl⟩
            rcases attempt.success ok with ⟨named, _, evidence⟩
            rw [uuidEq, named]
            refine ⟨expected, expectedEq, InOrder.skipEvent ?_⟩
            have recorded : writer.RecordedOk action settled.uuid
                [⟨.append (writer.finalEntry action settled hash began now), .ok ()⟩] :=
              ⟨_, rfl, rfl, rfl, if_pos ok⟩
            exact evidence.append (InOrder.single recorded).skipEvent
      · cases final with
        | lost lost => simp [lost] at ok
        | stored same _ _ uuidEq =>
            rw [same] at ok
            subst missing
            cases expectedEq
            rcases recovery.ok_passed attempt ok with ⟨rfl, rfl, rfl⟩
            rcases attempt.success ok with ⟨named, _, evidence⟩
            rw [uuidEq, named]
            exact (absent_of_success evidence).extend.skipEvent
      · rw [final.rollback_eq] at verified
        rcases recovery.rollback_confirmed attempt verified with ⟨created, evidence⟩
        refine ⟨created, InOrder.skipEvent ?_⟩
        rw [← List.append_assoc]
        exact evidence.extend
      · cases final with
        | lost lost => simp [lost] at ok
        | stored same silent _ _ =>
            rw [same] at ok
            rcases recovery.ok_passed attempt ok with ⟨rfl, rfl, rfl⟩
            rw [silent]
            exact (attempt.success ok).2.1
      · rw [← List.append_assoc, ← List.cons_append] at last
        exact final.last_append last

/-- Whatever a call of `execute` reports, it has observed: for a success both acknowledgements,
the readback, the peer where there is one and the stored record; for a verified rollback the
absence of the created object on every node. -/
theorem execute_sound {result : ExecuteResult}
    (run : (writer.execute action payload uuid revision).Run before trace (.ok result) after) :
    ∃ valid, checkedUuid action uuid revision = .ok valid ∧
      Sound writer action payload valid trace result := by
  cases execute_run run with
  | @locked valid lock locked _ validEq inner =>
      have sound := inner.sound
      refine ⟨valid, validEq, fun ok => ?_, fun ok missing => ?_, fun verified => ?_, sound.silent,
        fun _ _ last => ?_⟩
      · rcases sound.ok ok with ⟨expected, expectedEq, evidence⟩
        exact ⟨expected, expectedEq, evidence.extend.skip⟩
      · exact (sound.absent ok missing).extend.skip
      · rcases sound.rollback verified with ⟨created, evidence⟩
        exact ⟨created, evidence.extend.skip⟩
      · apply sound.stored
        simpa [appends] using last

end

/-! ### A successful create -/

/-- A node that does what it is asked to -/
def acknowledges : (request : Request Role) → Answer request
  | .get _ _ _ => .ok aliasPayload
  | .post _ _ _ => .ok (.obj [("status", .str "ok"), ("uuid", .str exampleUuid)])
  | .append _ => .ok ()
  | .clock => ⟨[], 0⟩
  | .lockFor _ _ => 0
  | .acquireGuard _ | .releaseGuard _ | .acquire _ | .release _ => ()

theorem execute_sound_create :
    ∃ trace result after,
      (@execute Runtime.ascii aliasWriter .create aliasPayload [] []).Run idle trace (.ok result)
        after ∧ result.ok = true ∧ result.uuid = exampleUuid ∧ result.error = none ∧
      ∃ expected, InOrder (@successEvidence Runtime.ascii aliasWriter .create aliasPayload []
        exampleUuid expected ++ [aliasWriter.RecordedOk .create exampleUuid]) trace := by
  rcases Program.replay_yields (fun _ => acknowledges)
    (@execute Runtime.ascii aliasWriter .create aliasPayload [] [] idle) []
    with ⟨trace, _, run⟩
  have success : ((@execute Runtime.ascii aliasWriter .create aliasPayload [] [] idle).replay
      (fun _ => acknowledges) []).2.1.toOption.any (fun result =>
        result.ok && result.uuid = exampleUuid) = true := by
    decide +kernel
  generalize ((@execute Runtime.ascii aliasWriter .create aliasPayload [] [] idle).replay
      (fun _ => acknowledges) []).2 = last at run success
  rcases last with ⟨error | result, after⟩
  · cases success
  have reported : result.ok = true ∧ result.uuid = exampleUuid := by
    simpa [Except.toOption] using success
  rcases @execute_sound Runtime.ascii aliasWriter .create aliasPayload [] [] idle after trace result
    run with ⟨valid, validEq, sound⟩
  cases validEq
  let _ : Runtime := Runtime.ascii
  rcases sound.ok reported.1 with ⟨expected, _, evidence⟩
  rw [reported.2] at evidence
  exact ⟨trace, result, after, run, reported.1, reported.2, sound.silent reported.1, expected, evidence⟩

end VerifiedFirewallWriter

end OpnsensePlugin

import OpnsensePlugin.Writers.SyncRuns

/-!
# Runs of execution

The stages a run of `_execute` goes through: preparation, the acknowledged
change, its application and readback, synchronization, and for a create that was
not applied the rollback. A stage that fails ends the sequence.
-/

namespace OpnsensePlugin

open Effects Python

namespace VerifiedFirewallWriter

variable [Runtime] {writer : VerifiedFirewallWriter} {action : WriteAction} {payload : Json}
  {uuid revision : Str} {expected : Option Json} {before after : Execution} {trace : Trace Role}

/-! ## Preparation -/

/-- The record that precedes the changes of the local node -/
def Started (writer : VerifiedFirewallWriter) (action : WriteAction) (payload : Json)
    (uuid : Str) : Trace Role → Prop :=
  Recorded fun entry => entry.action = writer.auditAction action ∧ entry.target = uuid ∧
    entry.result = "started" ∧ hashPayload payload = .ok entry.payloadSha256

/-- Whether a delete may have to be repeated on the peer -/
def Qualifies (writer : VerifiedFirewallWriter) (action : WriteAction) : Prop :=
  action = .delete ∧ writer.resource = .portForward ∧ writer.peer.isSome ∧
    writer.haSyncMode = .xmlrpcPf

instance : Decidable (writer.Qualifies action) := by
  unfold Qualifies
  infer_instance

/-- What a qualified delete has read before the first change -/
def qualificationEvidence (writer : VerifiedFirewallWriter) (uuid revision : Str) :
    List (Trace Role → Prop) :=
  [writer.HasRevision .client uuid revision, writer.ListsOnly .client uuid,
    writer.HasRevision .peer uuid revision, writer.ListsOnly .peer uuid]

/-- What a completed preparation has read and left in the attributes of the writer -/
structure Prepared (writer : VerifiedFirewallWriter) (action : WriteAction) (payload : Json)
    (uuid revision : Str) (trace : Trace Role) (after : Execution) : Prop where
  opening : ∃ (now : Clock) (record planning rest : Trace Role),
    trace = ⟨.clock, now⟩ :: (record ++ (planning ++ rest)) ∧
      writer.Started action payload uuid record ∧ writer.Planned after.syncPlan planning
  current : action ≠ .create → InOrder [writer.Started action payload uuid,
    writer.Planned after.syncPlan, writer.HasRevision .client uuid revision] trace
  qualified : ∀ hash, after.peerDeleteRevision = some hash → hash = revision ∧
    writer.Qualifies action ∧ InOrder ([writer.Started action payload uuid,
      writer.Planned after.syncPlan] ++ writer.qualificationEvidence uuid revision) trace

theorem Prepared.planned (prepared : Prepared writer action payload uuid revision trace after) :
    InOrder [writer.Started action payload uuid, writer.Planned after.syncPlan] trace := by
  rcases prepared.opening with ⟨now, record, planning, rest, rfl, started, planned⟩
  exact (InOrder.cons started (.cons planned .nil)).skipEvent

theorem auditStarted_observes :
    Action.Ensures (Action.Observes fun request => ¬ request.IsPost)
      (writer.auditStarted action payload uuid) :=
  Action.ensures_bind Action.ensures_ofExcept fun _ => auditRecord_observes

theorem auditStarted_ok
    (run : (writer.auditStarted action payload uuid).Run before trace (.ok ()) after) :
    ∃ (now : Clock) (record : Trace Role), trace = ⟨.clock, now⟩ :: record ∧
      writer.Started action payload uuid record := by
  rw [auditStarted, Action.run_bind_ofExcept] at run
  rcases run with ⟨hash, hashed, recording⟩ | ⟨_, _, _, impossible, _⟩
  rotate_left
  · cases impossible
  rcases auditRecord_ok recording with ⟨now, rfl⟩
  have stored : writer.Started action payload uuid
      [⟨.append (writer.startedEntry (writer.auditAction action) uuid writer.client.name hash now),
        .ok ()⟩] := ⟨_, rfl, rfl, rfl, rfl, hashed⟩
  exact ⟨now, _, rfl, stored⟩

theorem deletesLast_observes :
    Action.Ensures (Action.Observes Request.IsGet) (writer.deletesLast action uuid) := by
  unfold deletesLast
  split
  · exact Action.ensures_bind dnatIds_observes fun _ => Action.ensures_pure
  · exact Action.ensures_pure

theorem deletesLast_ok {last : Bool}
    (run : (writer.deletesLast action uuid).Run before trace (.ok last) after)
    (success : last = true) :
    writer.Qualifies action ∧ InOrder [writer.ListsOnly .client uuid] trace := by
  subst success
  unfold deletesLast at run
  split at run
  · rename_i qualifies
    rw [Action.run_bind_ok] at run
    rcases run with ⟨front, ids, middle, back, rfl, listing, run⟩
    simp only [Action.run_pure, Except.ok.injEq] at run
    rcases run with ⟨rfl, exactly, _⟩
    have only : writer.ListsOnly .client uuid front := .intro listing exactly.symm
    rw [List.append_nil]
    exact ⟨qualifies, .single only⟩
  · simp at run

theorem sameOnPeer_observes {hash : Str} :
    Action.Ensures (Action.Observes Request.IsGet) (writer.sameOnPeer uuid revision hash) := by
  unfold sameOnPeer
  split
  · exact Action.ensures_pure
  · exact Action.ensures_bind dnatIds_observes fun _ => Action.ensures_pure

theorem sameOnPeer_ok {hash : Str} {same : Bool}
    (run : (writer.sameOnPeer uuid revision hash).Run before trace (.ok same) after)
    (success : same = true) :
    hash = revision ∧ InOrder [writer.ListsOnly .peer uuid] trace := by
  subst success
  unfold sameOnPeer at run
  split at run
  · simp at run
  rename_i same
  rw [Action.run_bind_ok] at run
  rcases run with ⟨front, ids, middle, back, rfl, listing, run⟩
  simp only [Action.run_pure, Except.ok.injEq] at run
  rcases run with ⟨rfl, exactly, _⟩
  have only : writer.ListsOnly .peer uuid front := .intro listing exactly.symm
  rw [List.append_nil]
  exact ⟨not_not.mp same, .single only⟩

/-- A qualification reads; it may set the revision of the peer's object and nothing else. -/
theorem qualifyLast_run {outcome : Except Exn Unit}
    (run : (writer.qualifyLast uuid revision).Run before trace outcome after) :
    (∀ event ∈ trace, event.request.IsGet) ∧
      ((∃ error, outcome = .error error ∧ after = before) ∨
        (after = { before with peerDeleteRevision := some revision } ∧
          InOrder [writer.HasRevision .peer uuid revision, writer.ListsOnly .peer uuid] trace)) := by
  rw [qualifyLast, Action.run_bind] at run
  rcases run with ⟨front, detail, middle, back, rfl, getting, run⟩ | ⟨error, rfl, getting⟩
  rotate_left
  · rcases get_observes _ _ _ _ getting with ⟨rfl, reads⟩
    exact ⟨reads, .inl ⟨error, rfl, rfl⟩⟩
  rcases get_observes _ _ _ _ getting with ⟨rfl, reads⟩
  rw [Action.run_bind_ofExcept] at run
  rcases run with ⟨hash, hashed, run⟩ | ⟨error, _, rfl, rfl, rfl⟩
  rotate_left
  · exact ⟨by simpa using reads, .inl ⟨error, rfl, rfl⟩⟩
  rw [Action.run_bind] at run
  rcases run with ⟨listed, same, middle, back, rfl, listing, run⟩ | ⟨error, rfl, listing⟩
  rotate_left
  · rcases sameOnPeer_observes _ _ _ _ listing with ⟨rfl, more⟩
    exact ⟨List.forall_mem_append.mpr ⟨reads, more⟩, .inl ⟨error, rfl, rfl⟩⟩
  rcases sameOnPeer_observes _ _ _ _ listing with ⟨rfl, more⟩
  rw [Action.run_bind_raiseIf] at run
  rcases run with ⟨isSame, run⟩ | ⟨_, rfl, rfl, rfl⟩
  rotate_left
  · exact ⟨by simpa using List.forall_mem_append.mpr ⟨reads, more⟩, .inl ⟨_, rfl, rfl⟩⟩
  rw [Action.run_modifyState] at run
  rcases run with ⟨rfl, rfl, rfl⟩
  rcases sameOnPeer_ok listing (by simpa using isSame) with ⟨rfl, only⟩
  have current : writer.HasRevision .peer uuid hash front := .intro getting hashed
  rw [List.append_nil]
  exact ⟨List.forall_mem_append.mpr ⟨reads, more⟩, .inr ⟨rfl, .cons current only⟩⟩

/-- The same for the whole comparison with the requested revision -/
theorem checkRevision_run {outcome : Except Exn Unit}
    (run : (writer.checkRevision action uuid revision).Run before trace outcome after) :
    (∀ event ∈ trace, event.request.IsGet) ∧
      (outcome = .ok () → InOrder [writer.HasRevision .client uuid revision] trace) ∧
      (after = before ∨ (after = { before with peerDeleteRevision := some revision } ∧
        writer.Qualifies action ∧
        InOrder (writer.qualificationEvidence uuid revision) trace)) := by
  rw [checkRevision, Action.run_bind] at run
  rcases run with ⟨front, current, middle, back, rfl, getting, run⟩ | ⟨error, rfl, getting⟩
  rotate_left
  · rcases get_observes _ _ _ _ getting with ⟨rfl, reads⟩
    exact ⟨reads, by simp, .inl rfl⟩
  rcases get_observes _ _ _ _ getting with ⟨rfl, reads⟩
  rw [Action.run_bind_ofExcept] at run
  rcases run with ⟨hash, hashed, run⟩ | ⟨error, _, rfl, rfl, rfl⟩
  rotate_left
  · exact ⟨by simpa using reads, by simp, .inl rfl⟩
  rw [Action.run_bind_raiseIf] at run
  rcases run with ⟨isSame, run⟩ | ⟨_, rfl, rfl, rfl⟩
  rotate_left
  · exact ⟨by simpa using reads, by simp, .inl rfl⟩
  have same : hash = revision := by simpa using isSame
  subst same
  have checked : writer.HasRevision .client uuid hash front := .intro getting hashed
  rw [Action.run_bind] at run
  rcases run with ⟨listed, last, middle, back, rfl, listing, run⟩ | ⟨error, rfl, listing⟩
  rotate_left
  · rcases deletesLast_observes _ _ _ _ listing with ⟨rfl, more⟩
    exact ⟨List.forall_mem_append.mpr ⟨reads, more⟩, by simp, .inl rfl⟩
  rcases deletesLast_observes _ _ _ _ listing with ⟨rfl, more⟩
  cases last with
  | false =>
      rw [if_neg (by decide), Action.run_pure] at run
      rcases run with ⟨rfl, rfl, rfl⟩
      rw [List.append_nil]
      exact ⟨List.forall_mem_append.mpr ⟨reads, more⟩, fun _ => .cons checked .nil, .inl rfl⟩
  | true =>
      rw [if_pos rfl] at run
      rcases qualifyLast_run run with ⟨rest, ⟨error, rfl, rfl⟩ | ⟨rfl, evidence⟩⟩
      · exact ⟨List.forall_mem_append.mpr ⟨reads, List.forall_mem_append.mpr ⟨more, rest⟩⟩,
          by simp, .inl rfl⟩
      · rcases deletesLast_ok listing rfl with ⟨qualifies, only⟩
        exact ⟨List.forall_mem_append.mpr ⟨reads, List.forall_mem_append.mpr ⟨more, rest⟩⟩,
          fun _ => .cons checked .nil,
          .inr ⟨rfl, qualifies, InOrder.cons checked (only.append evidence)⟩⟩

theorem prepare_run {outcome : Except Exn Unit}
    (run : (writer.prepare action payload uuid revision).Run before trace outcome after)
    (fresh : before.peerDeleteRevision = none) :
    (∀ event ∈ trace, ¬ event.request.IsPost) ∧
      after = { before with
        syncPlan := after.syncPlan, peerDeleteRevision := after.peerDeleteRevision } ∧
      (outcome = .ok () → Prepared writer action payload uuid revision trace after) := by
  rw [prepare, Action.run_bind] at run
  rcases run with ⟨front, _, middle, back, rfl, starting, run⟩ | ⟨error, rfl, starting⟩
  rotate_left
  · rcases auditStarted_observes _ _ _ _ starting with ⟨rfl, quiet⟩
    exact ⟨quiet, rfl, by simp⟩
  rcases auditStarted_observes _ _ _ _ starting with ⟨rfl, quiet⟩
  rcases auditStarted_ok starting with ⟨now, record, rfl, stored⟩
  have started : InOrder [writer.Started action payload uuid] (⟨.clock, now⟩ :: record) :=
    (InOrder.single stored).skipEvent
  rw [Action.run_bind] at run
  rcases run with ⟨planning, plan, middle, back, rfl, preflight, run⟩ | ⟨error, rfl, preflight⟩
  rotate_left
  · rcases syncPreflight_observes _ _ _ _ preflight with ⟨rfl, reads⟩
    exact ⟨List.forall_mem_append.mpr ⟨quiet, fun event member => (reads event member).not_post⟩,
      rfl, by simp⟩
  rcases syncPreflight_observes _ _ _ _ preflight with ⟨rfl, reads⟩
  have silent := fun event member => (reads event member).not_post
  have planned : writer.Planned plan planning := .intro preflight rfl
  rw [Action.run_bind_modifyState] at run
  split at run
  · rename_i isCreate
    rw [Action.run_pure] at run
    rcases run with ⟨rfl, rfl, rfl⟩
    rw [List.append_nil]
    refine ⟨List.forall_mem_append.mpr ⟨quiet, silent⟩, rfl, fun _ => ⟨?_, ?_, ?_⟩⟩
    · exact ⟨now, record, planning, [], by simp, stored, planned⟩
    · exact fun other => absurd isCreate other
    · intro hash qualified
      rw [fresh] at qualified
      cases qualified
  · rcases checkRevision_run run with ⟨more, current, unchanged | ⟨changed, qualifies, evidence⟩⟩
    all_goals
      have all := List.forall_mem_append.mpr ⟨quiet, List.forall_mem_append.mpr
        ⟨silent, fun event member => (more event member).not_post⟩⟩
    · subst unchanged
      refine ⟨all, rfl, fun returned => ⟨?_, fun _ => ?_, ?_⟩⟩
      · exact ⟨now, record, planning, back, rfl, stored, planned⟩
      · exact started.append (.cons planned (current returned))
      · intro hash qualified
        rw [fresh] at qualified
        cases qualified
    · subst changed
      refine ⟨all, rfl, fun returned => ⟨?_, fun _ => ?_, ?_⟩⟩
      · exact ⟨now, record, planning, back, rfl, stored, planned⟩
      · exact started.append (.cons planned (current returned))
      · intro hash qualified
        cases qualified
        exact ⟨rfl, qualifies, started.append (.cons planned evidence)⟩

/-! ## Change, application and readback -/

/-- The body of the POST of a payload: `payload or {}` -/
def bodyOf (payload : Json) : Json := if payload.truthy then payload else .obj []

/-- The POST that changes the object -/
def mutationEvent (writer : VerifiedFirewallWriter) (action : WriteAction) (payload : Json)
    (uuid : Str) (reply : Reply) : Exchange Role :=
  ⟨.post .client (writer.mutationPath action uuid) (bodyOf payload), reply⟩

def applyEvent (writer : VerifiedFirewallWriter) (reply : Reply) : Exchange Role :=
  ⟨.post .client writer.applyPath (.obj []), reply⟩

def deleteEvent (writer : VerifiedFirewallWriter) (uuid : Str) (reply : Reply) :
    Exchange Role :=
  ⟨.post .client (writer.deletePath uuid) (.obj []), reply⟩

/-- What later stages rely on and the stages of a change leave as it is -/
structure Carries (before after : Execution) : Prop where
  syncPlan : after.syncPlan = before.syncPlan
  peerDeleteRevision : after.peerDeleteRevision = before.peerDeleteRevision
  ok : after.result.ok = before.result.ok
  error : after.result.error = before.result.error
  rollback : after.result.rollback = before.result.rollback
  named : before.result.uuid = before.uuid → after.result.uuid = after.uuid

omit [Runtime] in
theorem Carries.trans {middle : Execution} (first : Carries before middle)
    (second : Carries middle after) : Carries before after where
  syncPlan := second.syncPlan.trans first.syncPlan
  peerDeleteRevision := second.peerDeleteRevision.trans first.peerDeleteRevision
  ok := second.ok.trans first.ok
  error := second.error.trans first.error
  rollback := second.rollback.trans first.rollback
  named same := second.named (first.named same)

/-- The change was acknowledged; a created object has the UUID of the answer. -/
structure Accepted (action : WriteAction) (reply : Reply) (before after : Execution) :
    Prop where
  answer : ∃ response, answered action.name reply = .ok response ∧
    (action = .create → createdUuid response = .ok after.uuid)
  uuid : action ≠ .create → after.uuid = before.uuid
  accepted : after.accepted = true
  carries : Carries before after

theorem adoptUuid_run {response : List (Str × Json)} {outcome : Except Exn Unit}
    (run : (adoptUuid action response).Run before trace outcome after) :
    trace = [] ∧ after.accepted = before.accepted ∧ Carries before after ∧
      (action ≠ .create → after.uuid = before.uuid) ∧
      ((∃ error, outcome = .error error) ∨
        (outcome = .ok () ∧ (action = .create → createdUuid response = .ok after.uuid))) := by
  unfold adoptUuid at run
  split at run
  · rename_i isCreate
    rw [Action.run_bind_ofExcept] at run
    rcases run with ⟨created, valid, run⟩ | ⟨error, _, rfl, rfl, rfl⟩
    · rw [Action.run_modifyState] at run
      rcases run with ⟨rfl, rfl, rfl⟩
      exact ⟨rfl, rfl, ⟨rfl, rfl, rfl, rfl, rfl, fun _ => rfl⟩, fun other => absurd isCreate other,
        .inr ⟨rfl, fun _ => valid⟩⟩
    · exact ⟨rfl, rfl, ⟨rfl, rfl, rfl, rfl, rfl, id⟩, fun _ => rfl, .inl ⟨error, rfl⟩⟩
  · rename_i notCreate
    rw [Action.run_pure] at run
    rcases run with ⟨rfl, rfl, rfl⟩
    exact ⟨rfl, rfl, ⟨rfl, rfl, rfl, rfl, rfl, id⟩, fun _ => rfl,
      .inr ⟨rfl, fun isCreate => absurd isCreate notCreate⟩⟩

theorem mutate_run {outcome : Except Exn Unit}
    (run : (writer.mutate action payload uuid).Run before trace outcome after) :
    ∃ reply, trace = [writer.mutationEvent action payload uuid reply] ∧
      ((∃ error, outcome = .error error ∧ after.accepted = before.accepted ∧
          Carries before after) ∨
        (outcome = .ok () ∧ Accepted action reply before after)) := by
  rw [mutate, Action.run_bind] at run
  simp only [run_acknowledged] at run
  rcases run with ⟨_, response, middle, back, rfl, ⟨reply, rfl, answer, rfl⟩, run⟩ |
    ⟨error, rfl, reply, rfl, _, rfl⟩
  rotate_left
  · exact ⟨reply, rfl, .inl ⟨error, rfl, rfl, ⟨rfl, rfl, rfl, rfl, rfl, id⟩⟩⟩
  refine ⟨reply, ?_⟩
  rw [Action.run_bind] at run
  rcases run with ⟨front, _, adopted, back, rfl, adopting, run⟩ | ⟨error, rfl, adopting⟩
  · rcases adoptUuid_run adopting with ⟨rfl, _, carries, uuidEq, ⟨_, impossible⟩ | ⟨_, created⟩⟩
    · cases impossible
    · rw [Action.run_modifyState] at run
      rcases run with ⟨rfl, rfl, rfl⟩
      exact ⟨rfl, .inr ⟨rfl, ⟨response, answer.symm, created⟩, uuidEq, rfl,
        carries.trans ⟨rfl, rfl, rfl, rfl, rfl, id⟩⟩⟩
  · rcases adoptUuid_run adopting with ⟨rfl, accepted, carries, _⟩
    exact ⟨rfl, .inl ⟨error, rfl, accepted, carries⟩⟩

/-- An application and readback: the apply POST, then reads. -/
theorem applyVerified_run {outcome : Except Exn Unit}
    (run : (writer.applyVerified expected).Run before trace outcome after) :
    ∃ reply back, trace = writer.applyEvent reply :: back ∧
      (∀ event ∈ back, event.request.IsGet) ∧ Carries before after ∧
      after.uuid = before.uuid ∧ after.accepted = before.accepted ∧
      ((∃ error, outcome = .error error ∧ answered "apply" reply = .error error ∧ back = []) ∨
        ∃ response, answered "apply" reply = .ok response ∧
          ((∃ error, outcome = .error error ∧ isRejected error = false) ∨
            (outcome = .ok () ∧ InOrder [writer.Confirmed .client after.uuid expected] back))) := by
  rw [applyVerified, Action.run_bind] at run
  rcases run with ⟨_, _, middle, back, rfl, applying, run⟩ | ⟨error, rfl, applying⟩
  all_goals
    rw [apply, run_bind_acknowledged] at applying
    rcases applying with ⟨reply, _, rfl, ⟨response, answer, done⟩ | ⟨raised, answer, rfl, done, rfl⟩⟩
  · rw [Action.run_pure] at done
    rcases done with ⟨rfl, _, rfl⟩
    rw [updateResult, Action.run_bind_modifyState, Action.run_bind_readState,
      Action.run_bind] at run
    rcases run with ⟨front, same, middle, back, rfl, verifying, run⟩ | ⟨error, rfl, verifying⟩
    · rcases verify_observes _ _ _ _ verifying with ⟨rfl, reads⟩
      rw [Action.run_bind_raiseIf] at run
      rcases run with ⟨isSame, run⟩ | ⟨_, rfl, rfl, rfl⟩
      · rw [updateResult, Action.run_modifyState] at run
        rcases run with ⟨rfl, rfl, rfl⟩
        have confirmed : writer.Confirmed .client _ expected front :=
          .intro verifying (by simpa using isSame)
        refine ⟨reply, front, by simp [applyEvent], reads, ⟨rfl, rfl, rfl, rfl, rfl, id⟩, rfl, rfl, ?_⟩
        exact .inr ⟨response, answer, .inr ⟨rfl, .single confirmed⟩⟩
      · refine ⟨reply, front, by simp [applyEvent], reads, ⟨rfl, rfl, rfl, rfl, rfl, id⟩, rfl, rfl, ?_⟩
        exact .inr ⟨response, answer, .inl ⟨_, rfl, rfl⟩⟩
    · rcases verify_observes _ _ _ _ verifying with ⟨rfl, reads⟩
      refine ⟨reply, back, by simp [applyEvent], reads, ⟨rfl, rfl, rfl, rfl, rfl, id⟩, rfl, rfl, ?_⟩
      exact .inr ⟨response, answer, .inl ⟨error, rfl, verify_raises _ _ _ _ verifying⟩⟩
  · cases done
  · simp at done
  · cases done
    refine ⟨reply, [], by simp [applyEvent], by simp, ⟨rfl, rfl, rfl, rfl, rfl, id⟩, rfl, rfl, ?_⟩
    exact .inl ⟨error, rfl, answer, rfl⟩

/-! ## The body of the `try` statement -/

/-- Nothing has been reported yet. -/
structure Pending (execution : Execution) : Prop where
  ok : execution.result.ok = false
  error : execution.result.error = none
  rollback : execution.result.rollback.verified = false
  named : execution.result.uuid = execution.uuid

omit [Runtime] in
theorem Pending.carry (pending : Pending before) (carries : Carries before after) :
    Pending after where
  ok := carries.ok.trans pending.ok
  error := carries.error.trans pending.error
  rollback := by rw [carries.rollback, pending.rollback]
  named := carries.named pending.named

theorem Prepared.carry (prepared : Prepared writer action payload uuid revision trace before)
    (syncPlan : after.syncPlan = before.syncPlan)
    (peerDeleteRevision : after.peerDeleteRevision = before.peerDeleteRevision) :
    Prepared writer action payload uuid revision trace after where
  opening := by
    rw [syncPlan]
    exact prepared.opening
  current := by
    rw [syncPlan]
    exact prepared.current
  qualified := by
    rw [syncPlan, peerDeleteRevision]
    exact prepared.qualified

/-- A change was prepared and accepted. -/
structure Changed (writer : VerifiedFirewallWriter) (action : WriteAction) (payload : Json)
    (uuid revision : Str) (front : Trace Role) (reply : Reply) (after : Execution) : Prop where
  quiet : ∀ event ∈ front, ¬ event.request.IsPost
  prepared : Prepared writer action payload uuid revision front after
  answer : ∃ response, answered action.name reply = .ok response ∧
    (action = .create → createdUuid response = .ok after.uuid)
  uuid : action ≠ .create → after.uuid = uuid
  accepted : after.accepted = true

/-- How far the body of the `try` statement gets: trace, outcome, and state in the end -/
inductive AttemptRun (writer : VerifiedFirewallWriter) (action : WriteAction) (payload : Json)
    (uuid revision : Str) (expected : Option Json) :
    Trace Role → Except Exn Unit → Execution → Prop
  | unprepared {front : Trace Role} {error : Exn} {after : Execution}
      (quiet : ∀ event ∈ front, ¬ event.request.IsPost) (unaccepted : after.accepted = false)
      (pending : Pending after) :
      AttemptRun writer action payload uuid revision expected front (.error error) after
  | refused {front : Trace Role} {reply : Reply} {error : Exn} {after : Execution}
      (quiet : ∀ event ∈ front, ¬ event.request.IsPost)
      (prepared : Prepared writer action payload uuid revision front after)
      (unaccepted : after.accepted = false) (pending : Pending after) :
      AttemptRun writer action payload uuid revision expected
        (front ++ [writer.mutationEvent action payload uuid reply]) (.error error) after
  | unapplied {front : Trace Role} {reply applied : Reply} {error : Exn} {after : Execution}
      (changed : Changed writer action payload uuid revision front reply after)
      (failed : answered "apply" applied = .error error) (pending : Pending after) :
      AttemptRun writer action payload uuid revision expected
        (front ++ [writer.mutationEvent action payload uuid reply, writer.applyEvent applied])
        (.error error) after
  | unverified {front back : Trace Role} {reply applied : Reply} {error : Exn}
      {response : List (Str × Json)} {after : Execution}
      (changed : Changed writer action payload uuid revision front reply after)
      (answer : answered "apply" applied = .ok response)
      (reads : ∀ event ∈ back, event.request.IsGet) (lenient : isRejected error = false)
      (pending : Pending after) :
      AttemptRun writer action payload uuid revision expected
        (front ++ (writer.mutationEvent action payload uuid reply ::
          writer.applyEvent applied :: back)) (.error error) after
  | unsynced {front back tail : Trace Role} {reply applied : Reply} {error : Exn}
      {response : List (Str × Json)} {after : Execution}
      (changed : Changed writer action payload uuid revision front reply after)
      (answer : answered "apply" applied = .ok response)
      (reads : ∀ event ∈ back, event.request.IsGet)
      (confirmed : InOrder [writer.Confirmed .client after.uuid expected] back)
      (sync : Synced writer after.syncPlan after.peerDeleteRevision after.uuid expected tail
        (.error error)) (lenient : isRejected error = false) (pending : Pending after) :
      AttemptRun writer action payload uuid revision expected
        (front ++ (writer.mutationEvent action payload uuid reply ::
          writer.applyEvent applied :: (back ++ tail))) (.error error) after
  | synced {front back tail : Trace Role} {reply applied : Reply}
      {response : List (Str × Json)} {result : Option SyncResult} {before after : Execution}
      (changed : Changed writer action payload uuid revision front reply after)
      (answer : answered "apply" applied = .ok response)
      (reads : ∀ event ∈ back, event.request.IsGet)
      (confirmed : InOrder [writer.Confirmed .client after.uuid expected] back)
      (sync : Synced writer after.syncPlan after.peerDeleteRevision after.uuid expected tail
        (.ok result)) (pending : Pending before)
      (resultEq : after.result = before.result.synced result)
      (named : after.result.uuid = after.uuid) :
      AttemptRun writer action payload uuid revision expected
        (front ++ (writer.mutationEvent action payload uuid reply ::
          writer.applyEvent applied :: (back ++ tail))) (.ok ()) after

omit [Runtime] in
theorem synced_uuid {result : ExecuteResult} {sync : Option SyncResult} :
    (result.synced sync).uuid = result.uuid := by
  unfold ExecuteResult.synced
  dsimp only
  split <;> rfl

omit [Runtime] in
theorem not_rejected_of_not_opnsense {error : Exn} (other : isOpnsense error = false) :
    isRejected error = false := by
  rcases error with ⟨kind, detail⟩ | error | error
  · rfl
  · cases other
  · rfl

theorem Synced.error_not_rejected {plan : Option SyncPlan} {qualified : Option Str}
    {error : Exn} (synced : Synced writer plan qualified uuid expected trace (.error error)) :
    isRejected error = false := by
  cases synced with
  | raised _ passed => exact not_rejected_of_not_opnsense passed

theorem Changed.carry {front : Trace Role} {reply : Reply}
    (changed : Changed writer action payload uuid revision front reply before)
    (carries : Carries before after) (uuidEq : after.uuid = before.uuid)
    (accepted : after.accepted = before.accepted) :
    Changed writer action payload uuid revision front reply after where
  quiet := changed.quiet
  prepared := changed.prepared.carry carries.syncPlan carries.peerDeleteRevision
  answer := by
    rw [uuidEq]
    exact changed.answer
  uuid := by
    rw [uuidEq]
    exact changed.uuid
  accepted := accepted.trans changed.accepted

/-- What `attemptWrite` does once the change is accepted -/
theorem confirmChange_run {outcome : Except Exn Unit} {front : Trace Role} {reply : Reply}
    (run : Action.Run (do
      writer.applyVerified expected
      let execution ← Action.readState
      let sync ← writer.sync execution.uuid expected
      updateResult (ExecuteResult.synced sync)) before trace outcome after)
    (changed : Changed writer action payload uuid revision front reply before)
    (pending : Pending before) :
    AttemptRun writer action payload uuid revision expected
      (front ++ (writer.mutationEvent action payload uuid reply :: trace)) outcome after := by
  rw [Action.run_bind] at run
  rcases run with ⟨_, _, verified, rest, rfl, applying, run⟩ | ⟨error, rfl, applying⟩
  all_goals
    rcases applyVerified_run applying with
      ⟨applied, back, rfl, reads, carries, uuidEq, accepted, cases⟩
    have changed := changed.carry carries uuidEq accepted
    have pending := pending.carry carries
  rotate_left
  · rcases cases with ⟨_, same, failed, rfl⟩ | ⟨response, answer, ⟨_, same, lenient⟩ | ⟨impossible, _⟩⟩
    · cases same
      exact .unapplied changed failed pending
    · cases same
      exact .unverified changed answer reads lenient pending
    · cases impossible
  rcases cases with ⟨_, impossible, _⟩ | ⟨response, answer, ⟨_, impossible, _⟩ | ⟨_, confirmed⟩⟩
  · cases impossible
  · cases impossible
  rw [Action.run_bind_readState, Action.run_bind] at run
  rcases run with ⟨tail, result, synced, rest, rfl, syncing, run⟩ | ⟨error, rfl, syncing⟩
  · rcases sync_run syncing with ⟨rfl, sync⟩
    rw [updateResult, Action.run_modifyState] at run
    rcases run with ⟨rfl, rfl, rfl⟩
    rw [List.append_nil, List.cons_append]
    exact .synced ⟨changed.quiet, changed.prepared.carry rfl rfl, changed.answer, changed.uuid,
      changed.accepted⟩ answer reads confirmed sync pending rfl (synced_uuid.trans pending.named)
  · rcases sync_run syncing with ⟨rfl, sync⟩
    rw [List.cons_append]
    exact .unsynced changed answer reads confirmed sync sync.error_not_rejected pending

theorem attemptWrite_run {outcome : Except Exn Unit}
    (run : (writer.attemptWrite action payload uuid revision expected).Run
      before trace outcome after)
    (uuidEq : before.uuid = uuid) (unaccepted : before.accepted = false)
    (unqualified : before.peerDeleteRevision = none) (pending : Pending before) :
    AttemptRun writer action payload uuid revision expected trace outcome after := by
  rw [attemptWrite, Action.run_bind] at run
  rcases run with ⟨front, _, prepared, rest, rfl, preparing, run⟩ | ⟨error, rfl, preparing⟩
  rotate_left
  · rcases prepare_run preparing unqualified with ⟨quiet, same, _⟩
    rw [same]
    exact .unprepared quiet unaccepted ⟨pending.ok, pending.error, pending.rollback, pending.named⟩
  rcases prepare_run preparing unqualified with ⟨quiet, same, complete⟩
  have preparation := complete rfl
  have preparedPending : Pending prepared := by
    rw [same]
    exact ⟨pending.ok, pending.error, pending.rollback, pending.named⟩
  have preparedUuid : prepared.uuid = uuid := by
    rw [same]
    exact uuidEq
  have preparedUnaccepted : prepared.accepted = false := by
    rw [same]
    exact unaccepted
  rw [Action.run_bind] at run
  rcases run with ⟨_, _, mutated, rest, rfl, mutating, run⟩ | ⟨error, rfl, mutating⟩
  rotate_left
  · rcases mutate_run mutating with ⟨reply, rfl, ⟨_, _, kept, carries⟩ | ⟨impossible, _⟩⟩
    · exact .refused quiet (preparation.carry carries.syncPlan carries.peerDeleteRevision) (kept.trans preparedUnaccepted)
        (preparedPending.carry carries)
    · cases impossible
  rcases mutate_run mutating with ⟨reply, rfl, ⟨_, impossible, _⟩ | ⟨_, accepted⟩⟩
  · cases impossible
  have carries := accepted.carries
  have changed : Changed writer action payload uuid revision front reply mutated :=
    ⟨quiet, preparation.carry carries.syncPlan carries.peerDeleteRevision, accepted.answer,
      fun other => (accepted.uuid other).trans preparedUuid, accepted.accepted⟩
  exact confirmChange_run run changed (preparedPending.carry carries)

/-! ## Rollback -/

/-- A rollback: trace, and whether the absence was read wherever it has to be -/
inductive RollbackRun (writer : VerifiedFirewallWriter) (plan : Option SyncPlan)
    (qualified : Option Str) (uuid : Str) : Trace Role → Bool → Prop
  | refused (reply : Reply) :
      RollbackRun writer plan qualified uuid [writer.deleteEvent uuid reply] false
  | unapplied {deleted : Reply} {response : List (Str × Json)}
      (acknowledged : answered "rollback delete" deleted = .ok response) (reply : Reply) :
      RollbackRun writer plan qualified uuid
        [writer.deleteEvent uuid deleted, writer.applyEvent reply] false
  | unread {deleted applied : Reply} {response answer : List (Str × Json)} {back : Trace Role}
      (acknowledged : answered "rollback delete" deleted = .ok response)
      (answer : answered "apply" applied = .ok answer)
      (reads : ∀ event ∈ back, event.request.IsGet) :
      RollbackRun writer plan qualified uuid
        (writer.deleteEvent uuid deleted :: writer.applyEvent applied :: back) false
  | synced {deleted applied : Reply} {response answer : List (Str × Json)}
      {back tail : Trace Role} {outcome : Except Exn (Option SyncResult)} {verified : Bool}
      (acknowledged : answered "rollback delete" deleted = .ok response)
      (answer : answered "apply" applied = .ok answer)
      (reads : ∀ event ∈ back, event.request.IsGet)
      (sync : Synced writer plan qualified uuid none tail outcome)
      (confirmed : verified = true → InOrder [writer.Confirmed .client uuid none] back ∧
        ∃ result, outcome = .ok result ∧ result.all SyncResult.verified = true) :
      RollbackRun writer plan qualified uuid
        (writer.deleteEvent uuid deleted :: writer.applyEvent applied :: (back ++ tail)) verified

theorem rollback_run {outcome : Except Exn Unit}
    (run : writer.rollback.Run before trace outcome after)
    (fresh : before.result.rollback.verified = false) :
    RollbackRun writer before.syncPlan before.peerDeleteRevision before.uuid trace
        after.result.rollback.verified ∧
      after.result.ok = before.result.ok ∧ after.result.error = before.result.error := by
  rw [rollback, Action.run_bind_readState, run_bind_acknowledged] at run
  rcases run with ⟨deleted, rest, rfl, ⟨response, acknowledged, run⟩ | ⟨error, _, rfl, rfl, rfl⟩⟩
  rotate_left
  · exact ⟨fresh ▸ .refused deleted, rfl, rfl⟩
  rw [Action.run_bind] at run
  rcases run with ⟨_, _, middle, back, rfl, applying, run⟩ | ⟨error, rfl, applying⟩
  all_goals
    rw [apply, run_bind_acknowledged] at applying
    rcases applying with ⟨applied, _, rfl, ⟨answer, applyAnswer, done⟩ | ⟨_, _, rfl, done, rfl⟩⟩
  · rw [Action.run_pure] at done
    rcases done with ⟨rfl, _, rfl⟩
    rw [Action.run_bind] at run
    rcases run with ⟨front, absent, middle, back, rfl, verifying, run⟩ | ⟨error, rfl, verifying⟩
    · rcases verify_observes _ _ _ _ verifying with ⟨rfl, reads⟩
      rw [updateRollback, updateResult, Action.run_bind_modifyState, Action.run_bind] at run
      rcases run with ⟨tail, result, synced, rest, rfl, syncing, run⟩ | ⟨error, rfl, syncing⟩
      · rcases sync_run syncing with ⟨rfl, sync⟩
        rw [updateRollback, updateResult, Action.run_modifyState] at run
        rcases run with ⟨rfl, rfl, rfl⟩
        rw [List.append_nil, List.singleton_append]
        refine ⟨.synced acknowledged applyAnswer reads sync fun verified => ?_, rfl, rfl⟩
        simp only [Rollback.synced, Bool.and_eq_true] at verified
        rcases verified with ⟨isAbsent, peer⟩
        have confirmed : writer.Confirmed .client _ none front := .intro verifying isAbsent
        refine ⟨.single confirmed, result, rfl, ?_⟩
        cases result with
        | none => rfl
        | some sync => simpa using peer
      · rcases sync_run syncing with ⟨rfl, sync⟩
        rw [List.singleton_append]
        refine ⟨.synced acknowledged applyAnswer reads sync fun verified => ?_, rfl, rfl⟩
        rw [show (_ : Bool) = false from fresh] at verified
        cases verified
    · rcases verify_observes _ _ _ _ verifying with ⟨rfl, reads⟩
      exact ⟨fresh ▸ .unread acknowledged applyAnswer reads, rfl, rfl⟩
  · cases done
  · simp at done
  · exact ⟨fresh ▸ .unapplied acknowledged applied, rfl, rfl⟩

end VerifiedFirewallWriter

end OpnsensePlugin

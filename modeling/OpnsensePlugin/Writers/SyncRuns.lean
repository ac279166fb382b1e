import OpnsensePlugin.Writers.Runs

/-!
# Runs of synchronization

What a run of `_sync` has observed when it reports a verified peer, which POSTs
it makes, and what precedes those to the peer.
-/

namespace OpnsensePlugin

open Effects Python

namespace VerifiedFirewallWriter

/-! ## Observations -/

section Observations

variable [Runtime] (writer : VerifiedFirewallWriter)

/-- `_sync_preflight` returned the plan. -/
def Planned (plan : Option SyncPlan) : Trace Role → Prop :=
  Action.Returned (fun _ => writer.syncPreflight) fun returned => returned = plan

/-- The object was read, and its hash is the revision. -/
def HasRevision (role : Role) (uuid revision : Str) : Trace Role → Prop :=
  Action.Returned (fun _ => writer.get uuid role) fun detail => hashPayload detail = .ok revision

/-- The listing of port forwards has exactly the object, lockout rows aside. -/
def ListsOnly (role : Role) (uuid : Str) : Trace Role → Prop :=
  Action.Returned (fun _ => writer.dnatIds role) fun ids => isExactly uuid ids = true

/-- The listing of port forwards is empty, lockout rows aside. -/
def ListsNothing (role : Role) : Trace Role → Prop :=
  Action.Returned (fun _ => writer.dnatIds role) fun ids => ids.isEmpty = true

/-- `verify` returned true. -/
def Confirmed (role : Role) (uuid : Str) (expected : Option Json) : Trace Role → Prop :=
  Action.Returned (fun _ => writer.verify uuid expected role) fun same => same = true

/-- `verify` was called on the peer and did not return true. -/
def NotConverged (uuid : Str) (expected : Option Json) (segment : Trace Role) : Prop :=
  ∃ before outcome after,
    (writer.verify uuid expected .peer : Py Role SyncResult Bool).Run
      before segment outcome after ∧ outcome ≠ .ok true

/-- A POST was made and its answer acknowledged success. -/
def Acknowledged (role : Role) (path : Str) (body : Json) (operation : Str)
    (segment : Trace Role) : Prop :=
  ∃ (reply : Reply) (response : List (Str × Json)),
    segment = [⟨.post role path body, reply⟩] ∧ answered operation reply = .ok response

end Observations

/-! ## Polling -/

section Polling

variable [Runtime] {writer : VerifiedFirewallWriter} {uuid : Str} {expected : Option Json}
  {before after : SyncResult} {trace : Trace Role}

theorem poll_requests {attempt remaining : Nat} :
    Action.Ensures (Action.Requests Request.IsGet)
      (writer.poll uuid expected attempt remaining) := by
  induction remaining generalizing attempt with
  | zero => exact Action.ensures_pure
  | succ remaining ih =>
      refine Action.ensures_bind Action.requests_modifyState fun _ => ?_
      refine Action.ensures_bind (Action.ensures_attempt verify_observes.requests) fun outcome => ?_
      rcases outcome with error | _ | _
      · exact Action.ensures_bind Action.requests_modifyState fun _ => ih
      · exact Action.ensures_bind Action.requests_modifyState fun _ => ih
      · exact Action.ensures_bind Action.requests_modifyState fun _ => Action.ensures_pure

theorem poll_raises {attempt remaining : Nat} :
    Action.Raises (fun error => isOpnsense error = false)
      (writer.poll uuid expected attempt remaining) := by
  induction remaining generalizing attempt with
  | zero => exact Action.raises_pure
  | succ remaining ih =>
      refine Action.raises_bind Action.raises_modifyState fun _ => ?_
      refine Action.raises_bind (Action.raises_attempt fun _ uncaught => uncaught) fun outcome => ?_
      rcases outcome with error | _ | _
      · exact Action.raises_bind Action.raises_modifyState fun _ => ih
      · exact Action.raises_bind Action.raises_modifyState fun _ => ih
      · exact Action.raises_bind Action.raises_modifyState fun _ => Action.raises_pure

/-- A returned loop of at most the given number of attempts, and whether one was confirmed. -/
inductive Polled (writer : VerifiedFirewallWriter) (uuid : Str) (expected : Option Json) :
    Nat → Trace Role → Bool → Prop
  | exhausted : Polled writer uuid expected 0 [] false
  | confirmed {remaining : Nat} {trace : Trace Role}
      (confirmed : writer.Confirmed .peer uuid expected trace) :
      Polled writer uuid expected (remaining + 1) trace true
  | failed {remaining : Nat} {front back : Trace Role} {converged : Bool}
      (failed : writer.NotConverged uuid expected front)
      (rest : Polled writer uuid expected remaining back converged) :
      Polled writer uuid expected (remaining + 1) (front ++ back) converged

theorem poll_returns {attempt remaining : Nat} {converged : Bool}
    (run : (writer.poll uuid expected attempt remaining).Run before trace (.ok converged) after) :
    Polled writer uuid expected remaining trace converged ∧
      after.verified = (before.verified || converged) := by
  induction remaining generalizing attempt before trace with
  | zero =>
      rw [poll, Action.run_pure] at run
      rcases run with ⟨rfl, same, rfl⟩
      cases same
      exact ⟨.exhausted, by simp⟩
  | succ remaining ih =>
      rw [poll, Action.run_bind_ok] at run
      rcases run with ⟨_, _, _, _, rfl, started, run⟩
      rw [Action.run_modifyState] at started
      rcases started with ⟨rfl, _, rfl⟩
      rw [Action.run_bind_ok] at run
      rcases run with ⟨front, outcome, middle, back, rfl, attempted, rest⟩
      rw [Action.run_attempt] at attempted
      rcases attempted with ⟨result, verifying, outcomeEq⟩
      have unchanged := (verify_observes _ _ _ _ verifying).1
      subst unchanged
      rcases outcome with error | _ | _
      all_goals
        simp only [Action.run_bind_ok, Action.run_modifyState] at rest
        rcases rest with ⟨_, _, _, _, rfl, ⟨rfl, _, rfl⟩, rest⟩
        simp only [List.nil_append]
      · have failed : writer.NotConverged uuid expected front := by
          refine ⟨_, result, _, verifying, ?_⟩
          rintro rfl
          cases outcomeEq
        rcases ih rest with ⟨polled, verified⟩
        exact ⟨.failed failed polled, verified⟩
      · have failed : writer.NotConverged uuid expected front := by
          refine ⟨_, result, _, verifying, ?_⟩
          rintro rfl
          cases outcomeEq
        rcases ih rest with ⟨polled, verified⟩
        exact ⟨.failed failed polled, verified⟩
      · have same : result = .ok true := by
          rcases result with error | value
          · by_cases caught : isOpnsense error <;> simp [caught] at outcomeEq
          · cases outcomeEq
            rfl
        subst same
        rw [Action.run_pure] at rest
        rcases rest with ⟨rfl, returned, rfl⟩
        cases returned
        have confirmed : writer.Confirmed .peer uuid expected front := .intro verifying rfl
        exact ⟨by simpa using Polled.confirmed confirmed, by simp⟩

theorem Polled.confirmed_inOrder {remaining : Nat} {trace : Trace Role} {converged : Bool}
    (polled : Polled writer uuid expected remaining trace converged)
    (success : converged = true) : InOrder [writer.Confirmed .peer uuid expected] trace := by
  induction polled with
  | exhausted => cases success
  | confirmed confirmed => exact .single confirmed
  | failed _ _ ih => exact (ih success).skip

end Polling

/-! ## POSTs -/

def deletePost (writer : VerifiedFirewallWriter) (role : Role) (uuid : Str) (reply : Reply) :
    Post Role :=
  ⟨role, writer.deletePath uuid, .obj [], reply⟩

def applyPost (writer : VerifiedFirewallWriter) (role : Role) (reply : Reply) : Post Role :=
  ⟨role, writer.applyPath, .obj [], reply⟩

def restartPost (reply : Reply) : Post Role := ⟨.client, restartPath, .obj [], reply⟩

section Cleanup

variable [Runtime]

/-- The POSTs to the peer: its object is deleted, and if that succeeded the change applied. -/
inductive PeerPosts (writer : VerifiedFirewallWriter) (uuid : Str) : List (Post Role) → Prop
  | none : PeerPosts writer uuid []
  | deletion (reply : Reply) : PeerPosts writer uuid [writer.deletePost .peer uuid reply]
  | applied {deleted : Reply} {response : List (Str × Json)}
      (acknowledged : answered "peer delete" deleted = .ok response) (reply : Reply) :
      PeerPosts writer uuid [writer.deletePost .peer uuid deleted, writer.applyPost .peer reply]

/-- The POSTs of a synchronization -/
inductive SyncPosts (writer : VerifiedFirewallWriter) (uuid : Str) : List (Post Role) → Prop
  | none : SyncPosts writer uuid []
  | triggered (reply : Reply) : SyncPosts writer uuid [restartPost reply]
  | cleaned {reply : Reply} {response : List (Str × Json)} {rest : List (Post Role)}
      (acknowledged : answered "HA sync" reply = .ok response)
      (cleanup : PeerPosts writer uuid rest) : SyncPosts writer uuid (restartPost reply :: rest)

variable {writer : VerifiedFirewallWriter} {uuid revision : Str} {plan : Option SyncPlan}
  {before after : SyncResult} {trace : Trace Role}

/-- The record that precedes the changes of the peer -/
def PeerRecorded (uuid revision : Str) : Trace Role → Prop :=
  Recorded fun entry => entry.action = "port_forward.peer_delete" ∧ entry.target = uuid ∧
    entry.result = "started" ∧ entry.payloadSha256 = revision

/-- How far the changes of `_finish_last_dnat_delete` get: trace, outcome, and absence read. -/
inductive PeerDeletion (writer : VerifiedFirewallWriter) (revision uuid : Str) :
    Trace Role → Except Exn Unit → Bool → Prop
  | unrecorded {front : Trace Role} {error : Exn}
      (quiet : ∀ event ∈ front, ¬ event.request.IsPost) :
      PeerDeletion writer revision uuid front (.error error) false
  | refused {front : Trace Role} {reply : Reply} {error : Exn}
      (quiet : ∀ event ∈ front, ¬ event.request.IsPost)
      (recorded : InOrder [PeerRecorded uuid revision] front) :
      PeerDeletion writer revision uuid
        (front ++ [⟨.post .peer (writer.deletePath uuid) (.obj []), reply⟩]) (.error error) false
  | changed {front back : Trace Role} {deleted reply : Reply}
      {response : List (Str × Json)} {outcome : Except Exn Unit} {absent : Bool}
      (quiet : ∀ event ∈ front, ¬ event.request.IsPost)
      (recorded : InOrder [PeerRecorded uuid revision] front)
      (acknowledged : answered "peer delete" deleted = .ok response)
      (reads : ∀ event ∈ back, event.request.IsGet)
      (confirmed : absent = true → InOrder [writer.Confirmed .client uuid none,
        writer.Confirmed .peer uuid none] back) :
      PeerDeletion writer revision uuid
        (front ++ (⟨.post .peer (writer.deletePath uuid) (.obj []), deleted⟩ ::
          ⟨.post .peer writer.applyPath (.obj []), reply⟩ :: back)) outcome absent

theorem absentOnBoth_ok {State : Type} {before after : State} {absent : Bool}
    (run : (writer.absentOnBoth uuid : Py Role State Bool).Run before trace (.ok absent) after)
    (success : absent = true) :
    InOrder [writer.Confirmed .client uuid none, writer.Confirmed .peer uuid none] trace := by
  subst success
  rw [absentOnBoth, Action.run_bind_ok] at run
  rcases run with ⟨front, here, middle, back, rfl, first, second⟩
  cases here with
  | true =>
      have localAbsent : writer.Confirmed .client uuid none front := .intro first rfl
      have peerAbsent : writer.Confirmed .peer uuid none back := .intro second rfl
      exact .cons localAbsent (.single peerAbsent)
  | false => simp at second

theorem deleteOnPeer_run {outcome : Except Exn Unit}
    (run : (writer.deleteOnPeer revision uuid).Run before trace outcome after)
    (fresh : before.verified = false) :
    PeerDeletion writer revision uuid trace outcome after.verified := by
  rw [deleteOnPeer, Action.run_bind] at run
  rcases run with ⟨front, _, recordedState, rest, rfl, recording, run⟩ | ⟨error, rfl, recording⟩
  rotate_left
  · rcases auditRecord_observes _ _ _ _ recording with ⟨rfl, quiet⟩
    rw [fresh]
    exact .unrecorded quiet
  rcases auditRecord_observes _ _ _ _ recording with ⟨rfl, quiet⟩
  have recorded : InOrder [PeerRecorded uuid revision] front := by
    rcases auditRecord_ok recording with ⟨now, rfl⟩
    have stored : PeerRecorded uuid revision [⟨.append (writer.startedEntry
        "port_forward.peer_delete" uuid writer.peerName revision now), .ok ()⟩] :=
      ⟨_, rfl, rfl, rfl, rfl, rfl⟩
    exact (InOrder.single stored).skipEvent
  rw [updateCleanup, Action.run_bind_modifyState, run_bind_acknowledged] at run
  rcases run with ⟨deleted, tail, rfl, ⟨response, acknowledged, run⟩ | ⟨error, _, rfl, rfl, rfl⟩⟩
  rotate_left
  · exact fresh ▸ .refused quiet recorded
  rw [updateCleanup, Action.run_bind_modifyState, run_bind_acknowledged] at run
  rcases run with ⟨applied, tail, rfl, ⟨_, _, run⟩ | ⟨error, _, rfl, rfl, rfl⟩⟩
  rotate_left
  · exact fresh ▸ .changed quiet recorded acknowledged (by simp) (by simp)
  rw [updateCleanup, Action.run_bind_modifyState, Action.run_bind] at run
  rcases run with ⟨front', absent, middle, back, rfl, checking, run⟩ | ⟨error, rfl, checking⟩
  · have observed := absentOnBoth_observes _ _ _ _ checking
    rw [updateCleanup, Action.run_bind_modifyState, Action.run_modifyState] at run
    rcases run with ⟨rfl, rfl, rfl⟩
    rw [List.append_nil]
    exact .changed quiet recorded acknowledged observed.2 (absentOnBoth_ok checking)
  · rcases absentOnBoth_observes _ _ _ _ checking with ⟨rfl, reads⟩
    exact fresh ▸ .changed quiet recorded acknowledged reads (by simp)

/-- A run of `_finish_last_dnat_delete`, and whether it read the absence on both nodes -/
inductive CleanupRun (writer : VerifiedFirewallWriter) (plan : Option SyncPlan)
    (revision uuid : Str) : Trace Role → Bool → Prop
  | unconfirmed {trace : Trace Role} (reads : ∀ event ∈ trace, event.request.IsGet) :
      CleanupRun writer plan revision uuid trace false
  | confirmed {front back : Trace Role} {outcome : Except Exn Unit} {verified : Bool}
      (reads : ∀ event ∈ front, event.request.IsGet)
      (found : InOrder [writer.Planned plan, writer.ListsNothing .client,
        writer.ListsOnly .peer uuid, writer.HasRevision .peer uuid revision] front)
      (deletion : PeerDeletion writer revision uuid back outcome verified) :
      CleanupRun writer plan revision uuid (front ++ back) verified

theorem isLastOnPeer_ok {State : Type} {before after : State} {last : Bool}
    (run : (writer.isLastOnPeer plan uuid : Py Role State Bool).Run before trace (.ok last) after)
    (success : last = true) :
    InOrder [writer.Planned plan, writer.ListsNothing .client, writer.ListsOnly .peer uuid]
      trace := by
  subst success
  rw [isLastOnPeer, Action.run_bind_ok] at run
  rcases run with ⟨front, again, middle, back, rfl, planning, run⟩
  split at run
  · simp at run
  rename_i same
  have planned : writer.Planned plan front := .intro planning (not_not.mp same)
  rw [Action.run_bind_ok] at run
  rcases run with ⟨second, here, middle, back, rfl, listing, run⟩
  split at run
  · simp at run
  rename_i empty
  have nothing : writer.ListsNothing .client second := .intro listing (by simpa using empty)
  rw [Action.run_bind_ok] at run
  rcases run with ⟨third, there, middle, back, rfl, peerListing, run⟩
  simp only [Action.run_pure, Except.ok.injEq] at run
  rcases run with ⟨rfl, exactly, _⟩
  have only : writer.ListsOnly .peer uuid third := .intro peerListing exactly.symm
  rw [List.append_nil]
  exact .cons planned (.cons nothing (.single only))

theorem confirmCleanup_ok {State : Type} {before after : State}
    (run : (writer.confirmCleanup plan revision uuid : Py Role State Unit).Run
      before trace (.ok ()) after) :
    InOrder [writer.Planned plan, writer.ListsNothing .client,
      writer.ListsOnly .peer uuid, writer.HasRevision .peer uuid revision] trace := by
  rw [confirmCleanup, Action.run_bind_ok] at run
  rcases run with ⟨front, last, middle, back, rfl, checking, run⟩
  rw [Action.run_bind_raiseIf] at run
  rcases run with ⟨isLast, run⟩ | ⟨_, _, impossible, _⟩
  rotate_left
  · cases impossible
  have ordered := isLastOnPeer_ok checking (by simpa using isLast)
  rw [Action.run_bind_ok] at run
  rcases run with ⟨reading, detail, middle, back, rfl, getting, run⟩
  rw [Action.run_bind_ofExcept] at run
  rcases run with ⟨hash, hashed, run⟩ | ⟨_, _, _, impossible, _⟩
  rotate_left
  · cases impossible
  rw [Action.run_raiseIf] at run
  rcases run with ⟨rfl, same, _⟩
  have unchanged : hash = revision := by
    by_contra different
    simp [different] at same
  subst unchanged
  have current : writer.HasRevision .peer uuid hash reading := .intro getting hashed
  rw [List.append_nil]
  exact ordered.append (.single current)

theorem cleanup_run {outcome : Except Exn Unit}
    (run : Action.Run (do
      writer.confirmCleanup plan revision uuid
      writer.deleteOnPeer revision uuid) before trace outcome after)
    (fresh : before.verified = false) :
    CleanupRun writer plan revision uuid trace after.verified := by
  rw [Action.run_bind] at run
  rcases run with ⟨front, _, middle, back, rfl, confirming, deleting⟩ | ⟨error, rfl, confirming⟩
  · rcases confirmCleanup_observes _ _ _ _ confirming with ⟨rfl, reads⟩
    exact .confirmed reads (confirmCleanup_ok confirming) (deleteOnPeer_run deleting fresh)
  · rcases confirmCleanup_observes _ _ _ _ confirming with ⟨rfl, reads⟩
    exact fresh ▸ .unconfirmed reads

theorem finishLastDnatDelete_run {outcome : Except Exn Unit}
    (run : (writer.finishLastDnatDelete plan revision uuid).Run before trace outcome after)
    (fresh : before.verified = false) :
    CleanupRun writer plan revision uuid trace after.verified := by
  rw [finishLastDnatDelete, Action.run_bind_modifyState, Action.run_bind_attempt] at run
  rcases run with ⟨front, result, middle, back, rfl, body, _, rest⟩ | ⟨error, _, body, rfl⟩
  · have cleaned := cleanup_run body fresh
    rcases result with error | _
    all_goals
      simp only [Action.run_modifyState, Action.run_pure] at rest
      rcases rest with ⟨rfl, _, rfl⟩
      simpa using cleaned
  · exact cleanup_run body fresh

end Cleanup

/-! ## The synchronization -/

section Sync

variable [Runtime] {writer : VerifiedFirewallWriter} {uuid : Str} {expected : Option Json}
  {plan : Option SyncPlan} {revision : Option Str} {trace : Trace Role}

/-- A run of the polling and the cleanup: trace, outcome, and whether the peer is as expected -/
inductive ObservationRun (writer : VerifiedFirewallWriter) (plan : Option SyncPlan)
    (revision : Option Str) (uuid : Str) (expected : Option Json) :
    Trace Role → Except Exn Unit → Bool → Prop
  | interrupted {trace : Trace Role} {error : Exn} {verified : Bool}
      (reads : ∀ event ∈ trace, event.request.IsGet) :
      ObservationRun writer plan revision uuid expected trace (.error error) verified
  | polled {trace : Trace Role} {converged : Bool}
      (reads : ∀ event ∈ trace, event.request.IsGet)
      (polled : Polled writer uuid expected writer.haVerifyAttempts trace converged) :
      ObservationRun writer plan revision uuid expected trace (.ok ()) converged
  | cleaned {front back : Trace Role} {qualified : Str} {outcome : Except Exn Unit}
      {verified : Bool} (reads : ∀ event ∈ front, event.request.IsGet)
      (polled : Polled writer uuid expected writer.haVerifyAttempts front false)
      (absent : expected = none) (revisionEq : revision = some qualified)
      (cleanup : CleanupRun writer plan qualified uuid back verified) :
      ObservationRun writer plan revision uuid expected (front ++ back) outcome verified

/-- The POST that triggers the synchronization -/
def restartEvent (reply : Reply) : Exchange Role := ⟨.post .client restartPath (.obj []), reply⟩

/-- A run of `_sync` with a peer: trace, outcome, and whether the peer is as expected -/
inductive SyncRun (writer : VerifiedFirewallWriter) (plan : Option SyncPlan)
    (revision : Option Str) (uuid : Str) (expected : Option Json) :
    Trace Role → Except Exn Unit → Bool → Prop
  | observed {trace : Trace Role} {outcome : Except Exn Unit} {verified : Bool}
      (automatic : writer.haSyncMode = .automatic)
      (observation : ObservationRun writer plan revision uuid expected trace outcome verified) :
      SyncRun writer plan revision uuid expected trace outcome verified
  | refused {trace : Trace Role} {outcome : Except Exn Unit}
      (reads : ∀ event ∈ trace, event.request.IsGet) :
      SyncRun writer plan revision uuid expected trace outcome false
  | unacknowledged {front : Trace Role} {reply : Reply} {outcome : Except Exn Unit}
      (reads : ∀ event ∈ front, event.request.IsGet) (planned : writer.Planned plan front) :
      SyncRun writer plan revision uuid expected (front ++ [restartEvent reply]) outcome false
  | triggered {front back : Trace Role} {reply : Reply} {response : List (Str × Json)}
      {outcome : Except Exn Unit} {verified : Bool}
      (reads : ∀ event ∈ front, event.request.IsGet) (planned : writer.Planned plan front)
      (acknowledged : answered "HA sync" reply = .ok response)
      (observation : ObservationRun writer plan revision uuid expected back outcome verified) :
      SyncRun writer plan revision uuid expected (front ++ restartEvent reply :: back)
        outcome verified

theorem observe_run {before after : SyncResult} {outcome : Except Exn Unit}
    (run : (writer.observe plan revision uuid expected).Run before trace outcome after)
    (fresh : before.verified = false) :
    ObservationRun writer plan revision uuid expected trace outcome after.verified := by
  rw [observe, Action.run_bind] at run
  rcases run with ⟨front, converged, middle, back, rfl, polling, rest⟩ | ⟨error, rfl, polling⟩
  rotate_left
  · exact .interrupted (poll_requests _ _ _ _ polling)
  have reads := poll_requests _ _ _ _ polling
  rcases poll_returns polling with ⟨polled, verified⟩
  rw [fresh, Bool.false_or] at verified
  split at rest
  · rename_i qualified
    have cleanup := finishLastDnatDelete_run rest verified
    exact .cleaned reads polled rfl rfl cleanup
  · rw [Action.run_pure] at rest
    rcases rest with ⟨rfl, rfl, rfl⟩
    rw [List.append_nil, verified]
    exact .polled reads polled

theorem triggerSync_run {before after : SyncResult} {outcome : Except Exn Unit}
    (run : (writer.triggerSync plan).Run before trace outcome after) :
    after.verified = before.verified ∧
      ((∃ error, outcome = .error error ∧ ∀ event ∈ trace, event.request.IsGet) ∨
        ∃ front reply, trace = front ++ [restartEvent reply] ∧
          (∀ event ∈ front, event.request.IsGet) ∧ writer.Planned plan front ∧
          (outcome = .ok () → ∃ response, answered "HA sync" reply = .ok response)) := by
  rw [triggerSync, Action.run_bind] at run
  rcases run with ⟨front, again, middle, back, rfl, planning, run⟩ | ⟨error, rfl, planning⟩
  rotate_left
  · rcases syncPreflight_observes _ _ _ _ planning with ⟨rfl, reads⟩
    exact ⟨rfl, .inl ⟨error, rfl, reads⟩⟩
  rcases syncPreflight_observes _ _ _ _ planning with ⟨rfl, reads⟩
  rw [Action.run_bind_raiseIf] at run
  rcases run with ⟨same, run⟩ | ⟨_, rfl, rfl, rfl⟩
  rotate_left
  · exact ⟨rfl, .inl ⟨_, rfl, by simpa using reads⟩⟩
  have planned : writer.Planned plan front := .intro planning (by simpa using same)
  rw [Action.run_bind_modifyState, run_bind_acknowledged] at run
  rcases run with ⟨reply, tail, rfl, ⟨response, answer, run⟩ | ⟨error, answer, rfl, rfl, rfl⟩⟩
  · rw [Action.run_pure] at run
    rcases run with ⟨rfl, rfl, rfl⟩
    exact ⟨rfl, .inr ⟨front, reply, rfl, reads, planned, fun _ => ⟨response, answer⟩⟩⟩
  · exact ⟨rfl, .inr ⟨front, reply, rfl, reads, planned, by simp⟩⟩

theorem syncPeer_run {before after : SyncResult} {outcome : Except Exn Unit}
    (run : (writer.syncPeer plan revision uuid expected).Run before trace outcome after)
    (fresh : before.verified = false) :
    SyncRun writer plan revision uuid expected trace outcome after.verified := by
  unfold syncPeer at run
  split at run
  · rename_i automatic
    exact .observed automatic (observe_run run fresh)
  rw [Action.run_bind_attempt] at run
  rcases run with ⟨front, result, middle, back, rfl, triggering, _, rest⟩ |
    ⟨error, _, triggering, rfl⟩
  rotate_left
  · rcases triggerSync_run triggering with ⟨verified, ⟨_, _, reads⟩ | ⟨front, reply, rfl, reads, planned, _⟩⟩
    · rw [verified, fresh]
      exact .refused reads
    · rw [verified, fresh]
      exact .unacknowledged reads planned
  rcases triggerSync_run triggering with ⟨verified, cases⟩
  rw [fresh] at verified
  rcases result with error | _
  · rw [Action.run_modifyState] at rest
    rcases rest with ⟨rfl, rfl, rfl⟩
    rw [List.append_nil, verified]
    rcases cases with ⟨_, _, reads⟩ | ⟨front, reply, rfl, reads, planned, _⟩
    · exact .refused reads
    · exact .unacknowledged reads planned
  · rcases cases with ⟨_, impossible, _⟩ | ⟨front, reply, rfl, reads, planned, answer⟩
    · cases impossible
    · rcases answer rfl with ⟨response, acknowledged⟩
      rw [List.append_assoc]
      exact .triggered reads planned acknowledged (observe_run rest verified)

theorem observe_raises :
    Action.Raises (fun error => isOpnsense error = false)
      (writer.observe plan revision uuid expected) := by
  refine Action.raises_bind poll_raises fun converged => ?_
  split
  · refine Action.raises_bind Action.raises_modifyState fun _ => ?_
    refine Action.raises_bind (Action.raises_attempt fun error uncaught => ?_) fun outcome => ?_
    · simp only [isHandled, Bool.or_eq_false_iff] at uncaught
      exact uncaught.1
    · rcases outcome with error | _
      · exact Action.raises_modifyState
      · exact Action.raises_pure
  · exact Action.raises_pure

theorem syncPeer_raises :
    Action.Raises (fun error => isOpnsense error = false)
      (writer.syncPeer plan revision uuid expected) := by
  unfold syncPeer
  split
  · exact observe_raises
  · refine Action.raises_bind (Action.raises_attempt fun _ uncaught => uncaught) fun triggered => ?_
    rcases triggered with error | _
    · exact Action.raises_modifyState
    · exact observe_raises

/-- A call of `_sync`: trace and outcome -/
inductive Synced (writer : VerifiedFirewallWriter) (plan : Option SyncPlan)
    (revision : Option Str) (uuid : Str) (expected : Option Json) :
    Trace Role → Except Exn (Option SyncResult) → Prop
  | alone (single : writer.peer = none) :
      Synced writer plan revision uuid expected [] (.ok none)
  | raised {trace : Trace Role} {outcome : Except Exn Unit} {verified : Bool} {error : Exn}
      (run : SyncRun writer plan revision uuid expected trace outcome verified)
      (passed : isOpnsense error = false) :
      Synced writer plan revision uuid expected trace (.error error)
  | returned {trace : Trace Role} {result : SyncResult}
      (run : SyncRun writer plan revision uuid expected trace (.ok ()) result.verified) :
      Synced writer plan revision uuid expected trace (.ok (some result))

theorem sync_run {before after : Execution} {outcome : Except Exn (Option SyncResult)}
    (run : (writer.sync uuid expected).Run before trace outcome after) :
    after = before ∧
      Synced writer before.syncPlan before.peerDeleteRevision uuid expected trace outcome := by
  unfold sync at run
  split at run
  · rename_i single
    rw [Action.run_pure] at run
    rcases run with ⟨rfl, rfl, rfl⟩
    exact ⟨rfl, .alone single⟩
  rw [Action.run_bind_readState, Action.run_bind] at run
  rcases run with ⟨front, synced, middle, back, rfl, syncing, run⟩ | ⟨error, rfl, syncing⟩
  all_goals
    rw [Action.run_withState] at syncing
    rcases syncing with ⟨result, last, syncing, rfl, same⟩
    rcases result with raised | _
    all_goals cases same
  · rw [Action.run_pure] at run
    rcases run with ⟨rfl, rfl, rfl⟩
    rw [List.append_nil]
    exact ⟨rfl, .returned (syncPeer_run syncing rfl)⟩
  · exact ⟨rfl, .raised (syncPeer_run syncing rfl) (syncPeer_raises _ _ _ _ syncing)⟩

/-! ### Posts -/

theorem PeerDeletion.posts_eq {revision : Str} {outcome : Except Exn Unit} {absent : Bool}
    (deletion : PeerDeletion writer revision uuid trace outcome absent) :
    PeerPosts writer uuid (posts trace) := by
  cases deletion with
  | unrecorded quiet =>
      rw [posts_eq_nil quiet]
      exact .none
  | refused quiet recorded =>
      rw [posts_append, posts_eq_nil quiet]
      exact .deletion _
  | changed quiet recorded acknowledged reads confirmed =>
      rw [posts_append, posts_eq_nil quiet, posts_post, posts_post, posts_of_reads reads]
      exact .applied acknowledged _

theorem CleanupRun.posts_eq {revision : Str} {verified : Bool}
    (cleanup : CleanupRun writer plan revision uuid trace verified) :
    PeerPosts writer uuid (posts trace) := by
  cases cleanup with
  | unconfirmed reads =>
      rw [posts_of_reads reads]
      exact .none
  | confirmed reads found deletion =>
      rw [posts_append, posts_of_reads reads]
      exact deletion.posts_eq

/-- Without a qualified revision an observation makes no POST. -/
theorem ObservationRun.posts_eq {outcome : Except Exn Unit} {verified : Bool}
    (observation : ObservationRun writer plan revision uuid expected trace outcome verified) :
    PeerPosts writer uuid (posts trace) ∧ (revision = none → posts trace = []) := by
  cases observation with
  | interrupted reads =>
      rw [posts_of_reads reads]
      exact ⟨.none, fun _ => rfl⟩
  | polled reads _ =>
      rw [posts_of_reads reads]
      exact ⟨.none, fun _ => rfl⟩
  | cleaned reads _ _ revisionEq cleanup =>
      rw [posts_append, posts_of_reads reads, List.nil_append]
      exact ⟨cleanup.posts_eq, fun unqualified => by simp [unqualified] at revisionEq⟩

theorem SyncRun.posts_eq {outcome : Except Exn Unit} {verified : Bool}
    (sync : SyncRun writer plan revision uuid expected trace outcome verified)
    (qualified : revision ≠ none → writer.haSyncMode = .xmlrpcPf) :
    SyncPosts writer uuid (posts trace) := by
  cases sync with
  | observed automatic observation =>
      have unqualified : revision = none := by
        by_contra other
        rw [qualified other] at automatic
        cases automatic
      rw [observation.posts_eq.2 unqualified]
      exact .none
  | refused reads =>
      rw [posts_of_reads reads]
      exact .none
  | unacknowledged reads _ =>
      rw [posts_append, posts_of_reads reads]
      exact .triggered _
  | triggered reads _ acknowledged observation =>
      rw [posts_append, posts_of_reads reads, restartEvent, posts_post]
      exact .cleaned acknowledged observation.posts_eq.1

/-- Without a qualified revision the trigger is the only POST. -/
theorem SyncRun.posts_unqualified {outcome : Except Exn Unit} {verified : Bool}
    (sync : SyncRun writer plan none uuid expected trace outcome verified) :
    posts trace = [] ∨ ∃ reply, posts trace = [restartPost reply] := by
  cases sync with
  | observed _ observation => exact .inl (observation.posts_eq.2 rfl)
  | refused reads => exact .inl (posts_of_reads reads)
  | @unacknowledged front reply _ reads _ =>
      refine .inr ⟨reply, ?_⟩
      rw [posts_append, posts_of_reads reads]
      rfl
  | @triggered front back reply _ _ _ reads _ _ observation =>
      refine .inr ⟨reply, ?_⟩
      rw [posts_append, posts_of_reads reads, restartEvent, posts_post, observation.posts_eq.2 rfl]
      rfl

/-! ### What a verified synchronization has read -/

/-- The peer was confirmed, or, for the cleanup, the absence on both nodes. -/
def PeerConfirmed (writer : VerifiedFirewallWriter) (uuid : Str) (expected : Option Json)
    (trace : Trace Role) : Prop :=
  InOrder [writer.Confirmed .peer uuid expected] trace ∨
    (expected = none ∧
      InOrder [writer.Confirmed .client uuid none, writer.Confirmed .peer uuid none] trace)

theorem PeerDeletion.confirmed {revision : Str} {outcome : Except Exn Unit} {absent : Bool}
    (deletion : PeerDeletion writer revision uuid trace outcome absent)
    (success : absent = true) :
    InOrder [writer.Confirmed .client uuid none, writer.Confirmed .peer uuid none] trace := by
  cases deletion with
  | unrecorded => cases success
  | refused => cases success
  | changed _ _ _ _ confirmed =>
      exact (confirmed success).skipEvent.skipEvent.skip

theorem PeerConfirmed.skip {front back : Trace Role}
    (confirmed : writer.PeerConfirmed uuid expected back) :
    writer.PeerConfirmed uuid expected (front ++ back) := by
  rcases confirmed with confirmed | ⟨absent, confirmed⟩
  · exact .inl confirmed.skip
  · exact .inr ⟨absent, confirmed.skip⟩

theorem PeerConfirmed.skipEvent {event : Exchange Role}
    (confirmed : writer.PeerConfirmed uuid expected trace) :
    writer.PeerConfirmed uuid expected (event :: trace) := by
  rw [← List.singleton_append]
  exact confirmed.skip

theorem ObservationRun.confirmed {outcome : Except Exn Unit} {verified : Bool}
    (observation : ObservationRun writer plan revision uuid expected trace outcome verified)
    (returned : outcome = .ok ()) (success : verified = true) :
    writer.PeerConfirmed uuid expected trace := by
  cases observation with
  | interrupted => cases returned
  | polled _ polled => exact .inl (polled.confirmed_inOrder success)
  | cleaned _ _ absent _ cleanup =>
      cases cleanup with
      | unconfirmed => cases success
      | confirmed _ _ deletion => exact .inr ⟨absent, (deletion.confirmed success).skip.skip⟩

theorem SyncRun.confirmed {outcome : Except Exn Unit} {verified : Bool}
    (sync : SyncRun writer plan revision uuid expected trace outcome verified)
    (returned : outcome = .ok ()) (success : verified = true) :
    writer.PeerConfirmed uuid expected trace := by
  cases sync with
  | observed _ observation => exact observation.confirmed returned success
  | refused => cases success
  | unacknowledged => cases success
  | triggered _ _ _ observation =>
      exact (observation.confirmed returned success).skipEvent.skip

/-! ### What precedes the POSTs -/

/-- Every attempt of a polling loop failed. -/
def PollingFailed (writer : VerifiedFirewallWriter) (uuid : Str) (expected : Option Json)
    (segment : Trace Role) : Prop :=
  Polled writer uuid expected writer.haVerifyAttempts segment false

/-- What is confirmed before the peer is changed -/
def cleanupEvidence (writer : VerifiedFirewallWriter) (plan : Option SyncPlan)
    (revision uuid : Str) : List (Trace Role → Prop) :=
  [writer.Planned plan, writer.ListsNothing .client, writer.ListsOnly .peer uuid,
    writer.HasRevision .peer uuid revision, PeerRecorded uuid revision]

/-- What a synchronization does before it changes the peer -/
def syncEvidence (writer : VerifiedFirewallWriter) (plan : Option SyncPlan)
    (revision uuid : Str) : List (Trace Role → Prop) :=
  [writer.Planned plan, Acknowledged .client restartPath (.obj []) "HA sync",
    writer.PollingFailed uuid none] ++ writer.cleanupEvidence plan revision uuid

omit [Runtime] in
theorem not_postTo_of_reads {role : Role} (reads : ∀ event ∈ trace, event.request.IsGet) :
    ∀ event ∈ trace, ¬ event.request.IsPostTo role := by
  intro event member post
  exact (reads event member).not_post post.isPost

theorem PeerDeletion.guarded {revision : Str} {outcome : Except Exn Unit} {absent : Bool}
    (deletion : PeerDeletion writer revision uuid trace outcome absent) :
    Guarded (fun event => event.request.IsPostTo .peer) (InOrder [PeerRecorded uuid revision])
      trace := by
  cases deletion with
  | unrecorded quiet => exact .of_none fun event member post => quiet event member post.isPost
  | refused quiet recorded =>
      rw [guarded_append]
      refine ⟨.of_none fun event member post => quiet event member post.isPost, ?_⟩
      exact guarded_singleton.mpr fun _ => recorded.extend
  | changed quiet recorded acknowledged reads confirmed =>
      rw [guarded_append]
      refine ⟨.of_none fun event member post => quiet event member post.isPost, ?_⟩
      rw [guarded_cons, guarded_cons]
      refine ⟨fun _ => recorded.extend, fun _ => recorded.extend, ?_⟩
      exact .of_none (not_postTo_of_reads reads)

theorem CleanupRun.guarded {revision : Str} {verified : Bool}
    (cleanup : CleanupRun writer plan revision uuid trace verified) :
    Guarded (fun event => event.request.IsPostTo .peer)
      (InOrder (writer.cleanupEvidence plan revision uuid)) trace := by
  cases cleanup with
  | unconfirmed reads => exact .of_none (not_postTo_of_reads reads)
  | confirmed reads found deletion =>
      exact Guarded.inOrder_append (not_postTo_of_reads reads) found deletion.guarded

/-- POSTs to the peer happen in a cleanup only, which needs a qualified revision. -/
theorem ObservationRun.guarded {outcome : Except Exn Unit} {verified : Bool}
    (observation : ObservationRun writer plan revision uuid expected trace outcome verified) :
    Guarded (fun event => event.request.IsPostTo .peer)
      (fun front => expected = none ∧ ∃ qualified, revision = some qualified ∧
        InOrder ([writer.PollingFailed uuid none] ++ writer.cleanupEvidence plan qualified uuid)
          front) trace := by
  cases observation with
  | interrupted reads => exact .of_none (not_postTo_of_reads reads)
  | polled reads _ => exact .of_none (not_postTo_of_reads reads)
  | cleaned reads polled absent revisionEq cleanup =>
      subst absent
      have failed : InOrder [writer.PollingFailed uuid none] _ := .single polled
      have guarded := Guarded.inOrder_append (not_postTo_of_reads reads) failed cleanup.guarded
      exact guarded.mono fun front ordered => ⟨rfl, _, revisionEq, ordered⟩

theorem SyncRun.guarded {outcome : Except Exn Unit} {verified : Bool}
    (sync : SyncRun writer plan revision uuid expected trace outcome verified)
    (qualified : revision ≠ none → writer.haSyncMode = .xmlrpcPf) :
    Guarded (fun event => event.request.IsPostTo .peer)
      (fun front => expected = none ∧ ∃ qualified, revision = some qualified ∧
        InOrder (writer.syncEvidence plan qualified uuid) front) trace := by
  cases sync with
  | observed automatic observation =>
      refine observation.guarded.mono fun front evidence => ?_
      rcases evidence with ⟨_, hash, rfl, _⟩
      rw [qualified (by simp)] at automatic
      cases automatic
  | refused reads => exact .of_none (not_postTo_of_reads reads)
  | unacknowledged reads _ =>
      rw [guarded_append, guarded_singleton]
      exact ⟨.of_none (not_postTo_of_reads reads), by simp [restartEvent, Request.IsPostTo]⟩
  | triggered reads planned acknowledged observation =>
      rw [guarded_append, guarded_cons]
      refine ⟨.of_none (not_postTo_of_reads reads), by simp [restartEvent, Request.IsPostTo], ?_⟩
      refine observation.guarded.mono fun front evidence => ?_
      rcases evidence with ⟨absent, hash, revisionEq, ordered⟩
      have trigger : Acknowledged .client restartPath (.obj []) "HA sync" [restartEvent _] :=
        ⟨_, _, rfl, acknowledged⟩
      refine ⟨absent, hash, revisionEq, ?_⟩
      exact InOrder.cons planned (InOrder.cons trigger ordered)

/-! ### What precedes the trigger -/

def IsRestart : Request Role → Prop
  | .post _ path _ => path = restartPath
  | _ => False

omit [Runtime] in
theorem not_restart_of_reads (reads : ∀ event ∈ trace, event.request.IsGet) :
    ∀ event ∈ trace, ¬ IsRestart event.request := by
  intro event member restart
  have get := reads event member
  rcases event with ⟨request, answer⟩
  cases request <;> simp_all [IsRestart, Request.IsGet]

omit [Runtime] in
theorem restartPath_ne {rest : Str} : writer.spec.base ++ rest ≠ restartPath := by
  intro same
  have sixth := congrArg (fun path => path[5]?) same
  cases kind : writer.resource <;>
    simp [restartPath, spec, kind, Resource.spec, Str.ofString, code] at sixth

omit [Runtime] in
theorem not_restart_of_quiet (quiet : ∀ event ∈ trace, ¬ event.request.IsPost) :
    ∀ event ∈ trace, ¬ IsRestart event.request := by
  intro event member restart
  have other := quiet event member
  rcases event with ⟨request, answer⟩
  cases request <;> simp_all [IsRestart, Request.IsPost]

omit [Runtime] in
theorem deletePath_not_restart {role : Role} {body : Json} :
    ¬ IsRestart (.post role (writer.deletePath uuid) body) := by
  simp only [IsRestart, deletePath, List.append_assoc]
  exact restartPath_ne

omit [Runtime] in
theorem applyPath_not_restart {role : Role} {body : Json} :
    ¬ IsRestart (.post role writer.applyPath body) := by
  simp only [IsRestart, applyPath, List.append_assoc]
  exact restartPath_ne

omit [Runtime] in
theorem mutationPath_not_restart {role : Role} {action : WriteAction} {body : Json} :
    ¬ IsRestart (.post role (writer.mutationPath action uuid) body) := by
  simp only [IsRestart, mutationPath, List.append_assoc]
  exact restartPath_ne

theorem PeerDeletion.not_restart {revision : Str} {outcome : Except Exn Unit} {absent : Bool}
    (deletion : PeerDeletion writer revision uuid trace outcome absent) :
    ∀ event ∈ trace, ¬ IsRestart event.request := by
  cases deletion with
  | unrecorded quiet => exact not_restart_of_quiet quiet
  | refused quiet recorded =>
      simp only [List.forall_mem_append, List.forall_mem_singleton]
      exact ⟨not_restart_of_quiet quiet, deletePath_not_restart⟩
  | changed quiet recorded acknowledged reads confirmed =>
      simp only [List.forall_mem_append, List.forall_mem_cons]
      exact ⟨not_restart_of_quiet quiet, deletePath_not_restart, applyPath_not_restart,
        not_restart_of_reads reads⟩

theorem ObservationRun.not_restart {outcome : Except Exn Unit} {verified : Bool}
    (observation : ObservationRun writer plan revision uuid expected trace outcome verified) :
    ∀ event ∈ trace, ¬ IsRestart event.request := by
  cases observation with
  | interrupted reads => exact not_restart_of_reads reads
  | polled reads _ => exact not_restart_of_reads reads
  | cleaned reads _ _ _ cleanup =>
      rw [List.forall_mem_append]
      refine ⟨not_restart_of_reads reads, ?_⟩
      cases cleanup with
      | unconfirmed reads => exact not_restart_of_reads reads
      | confirmed reads _ deletion =>
          rw [List.forall_mem_append]
          exact ⟨not_restart_of_reads reads, deletion.not_restart⟩

/-- A synchronization is triggered right after the preflight has returned the plan again. -/
theorem SyncRun.guarded_restart {outcome : Except Exn Unit} {verified : Bool}
    (sync : SyncRun writer plan revision uuid expected trace outcome verified) :
    Guarded (fun event => IsRestart event.request)
      (fun front => writer.Planned plan front ∧ ∀ event ∈ front, event.request.IsGet) trace := by
  cases sync with
  | observed _ observation => exact .of_none observation.not_restart
  | refused reads => exact .of_none (not_restart_of_reads reads)
  | unacknowledged reads planned =>
      rw [guarded_append, guarded_singleton, List.append_nil]
      exact ⟨.of_none (not_restart_of_reads reads), fun _ => ⟨planned, reads⟩⟩
  | triggered reads planned acknowledged observation =>
      rw [guarded_append, guarded_cons, List.append_nil]
      exact ⟨.of_none (not_restart_of_reads reads), fun _ => ⟨planned, reads⟩,
        .of_none observation.not_restart⟩

/-! ### The same for calls of `_sync` -/

theorem Synced.posts_eq {outcome : Except Exn (Option SyncResult)}
    (synced : Synced writer plan revision uuid expected trace outcome)
    (qualified : revision ≠ none → writer.haSyncMode = .xmlrpcPf) :
    SyncPosts writer uuid (posts trace) := by
  cases synced with
  | alone => exact .none
  | raised run => exact run.posts_eq qualified
  | returned run => exact run.posts_eq qualified

theorem Synced.posts_unqualified {outcome : Except Exn (Option SyncResult)}
    (synced : Synced writer plan none uuid expected trace outcome) :
    posts trace = [] ∨ ∃ reply, posts trace = [restartPost reply] := by
  cases synced with
  | alone => exact .inl rfl
  | raised run => exact run.posts_unqualified
  | returned run => exact run.posts_unqualified

theorem Synced.confirmed {result : Option SyncResult}
    (synced : Synced writer plan revision uuid expected trace (.ok result))
    (success : result.all SyncResult.verified = true) (paired : writer.peer.isSome) :
    writer.PeerConfirmed uuid expected trace := by
  cases synced with
  | alone single => simp [single] at paired
  | returned run => exact run.confirmed rfl (by simpa using success)

theorem Synced.guarded {outcome : Except Exn (Option SyncResult)}
    (synced : Synced writer plan revision uuid expected trace outcome)
    (qualified : revision ≠ none → writer.haSyncMode = .xmlrpcPf) :
    Guarded (fun event => event.request.IsPostTo .peer)
      (fun front => expected = none ∧ ∃ qualified, revision = some qualified ∧
        InOrder (writer.syncEvidence plan qualified uuid) front) trace := by
  cases synced with
  | alone => exact .of_none (by simp)
  | raised run => exact run.guarded qualified
  | returned run => exact run.guarded qualified

theorem Synced.guarded_restart {outcome : Except Exn (Option SyncResult)}
    (synced : Synced writer plan revision uuid expected trace outcome) :
    Guarded (fun event => IsRestart event.request)
      (fun front => writer.Planned plan front ∧ ∀ event ∈ front, event.request.IsGet) trace := by
  cases synced with
  | alone => exact .of_none (by simp)
  | raised run => exact run.guarded_restart
  | returned run => exact run.guarded_restart

end Sync

end VerifiedFirewallWriter

end OpnsensePlugin

import OpnsensePlugin.Gateway.Authorization
import OpnsensePlugin.Sections.Calls

/-!
# Records of attempts

The writer of the firewall pages, the services and the operations put a record of what
they are about to do into the audit log before they send anything to a node. The record
names the user and the node; where it cannot be stored, nothing is sent.
-/

namespace OpnsensePlugin

open Effects Python

/-- A record that something is about to be done -/
structure AuditEntry.Announces (entry : AuditEntry) (user host action : Str) : Prop where
  user : entry.user = user
  host : entry.host = host
  action : entry.action = action
  result : entry.result ∈ (["started", "attempt"] : List Str)

section Announced

variable {Node State α : Type} {counts : Node → AuditEntry → Prop} {node : Node}
  {fact : State → Prop} {action : Py Node State α} {history : Trace Node} {event : Exchange Node}

/-- A record that counts for the node was stored. -/
def Recalls (counts : Node → AuditEntry → Prop) (node : Node) (history : Trace Node) : Prop :=
  ∃ entry, (⟨.append entry, .ok ()⟩ : Exchange Node) ∈ history ∧ counts node entry

/-- A POST to a node comes after a record that counts for it. -/
def Announced (counts : Node → AuditEntry → Prop) (history : Trace Node) (event : Exchange Node) :
    Prop :=
  event.request.PostsWithin fun node _ => Recalls counts node history

theorem recalls_lasting : Lasting (Recalls counts node) := by
  rintro history more ⟨entry, stored, counted⟩
  exact ⟨entry, List.mem_append_left _ stored, counted⟩

theorem Announced.mono {wider : Node → AuditEntry → Prop} (announced : Announced counts history event)
    (widens : ∀ node entry, counts node entry → wider node entry) : Announced wider history event := by
  apply Request.PostsWithin.mono announced
  rintro node path ⟨entry, stored, counted⟩
  exact ⟨entry, stored, widens node entry counted⟩

theorem announced_of_quiet (quiet : ¬ event.request.IsPost) : Announced counts history event :=
  .of_not_post quiet

/-- Code that stores a record when it succeeds, and sends nothing -/
theorem heeds_recording {pre : Trace Node → State → Prop}
    (lasting : ∀ state, Lasting fun history => pre history state)
    (observes : Action.Ensures (Action.Observes fun request => ¬ request.IsPost) action)
    (stores : ∀ {before trace value after}, action.Run before trace (.ok value) after →
      Recalls counts node trace) :
    Action.Heeds (Announced counts) pre action
      (fun _ history state => Recalls counts node history ∧ pre history state) fun _ => pre := by
  intro history before trace outcome after given run
  rcases observes _ _ _ _ run with ⟨rfl, quiet⟩
  refine ⟨.of_all fun past event member => announced_of_quiet (quiet event member), ?_⟩
  cases outcome with
  | ok value =>
      rcases stores run with ⟨entry, stored, counted⟩
      exact ⟨⟨entry, List.mem_append_right _ stored, counted⟩, lasting _ history trace given⟩
  | error error => exact lasting _ history trace given

/-- Code that sends to one node only, once there is a record for it -/
theorem heeds_sending {known : Trace Node → Prop} (lasting : Lasting known)
    (recalls : ∀ history, known history → Recalls counts node history)
    (posts : Posts (fun other _ => other = node) action) :
    Action.Heeds (Announced counts) (fun history _ => known history) action
      (fun _ history _ => known history) fun _ history _ => known history := by
  apply Action.Heeds.under lasting posts
  intro history event given within
  apply Request.PostsWithin.mono within
  rintro other path rfl
  exact recalls history given

/-- Code that sends nothing -/
theorem heeds_quiet {known : Trace Node → Prop} (lasting : Lasting known)
    (quiet : Posts (fun _ _ => False) action) :
    Action.Heeds (Announced counts) (fun history _ => known history) action
      (fun _ history _ => known history) fun _ history _ => known history := by
  apply Action.Heeds.under lasting quiet
  intro history event given within
  exact Request.PostsWithin.mono within fun _ _ none => none.elim

theorem lasting_true : Lasting fun _ : Trace Node => True := fun _ _ known => known

theorem ask_posts {allowed : Node → Str → Prop} {request : Request Node}
    (within : request.PostsWithin allowed) :
    Posts allowed (Action.ask request : Py Node State (Answer request)) := by
  apply Action.ensures_ask
  intro state answer
  simpa [Action.Requests] using within

theorem recalls_of_auditRecord {entry : Clock → AuditEntry} (counted : ∀ now, counts node (entry now))
    {before after : State} {trace : Trace Node} {value : Unit}
    (run : (auditRecord entry : Py Node State Unit).Run before trace (.ok value) after) :
    Recalls counts node trace := by
  rcases auditRecord_ok run with ⟨now, rfl⟩
  exact ⟨entry now, by simp, counted now⟩

end Announced

/-! ## The verified writer -/

namespace VerifiedFirewallWriter

variable [Runtime] {writer : VerifiedFirewallWriter} {action : WriteAction} {payload : Json}
  {uuid revision : Str} {expected : Option Json} {plan : Option SyncPlan} {State : Type}

/-- The records of the writer that count for a node -/
def Counts (writer : VerifiedFirewallWriter) (action : WriteAction) : Role → AuditEntry → Prop
  | .client, entry => entry.Announces writer.actor writer.client.name (writer.auditAction action)
  | .peer, entry => entry.Announces writer.actor writer.peerName "port_forward.peer_delete"

theorem acknowledged_posts {role : Role} {path operation : Str} {body : Json} :
    Posts (fun other _ => other = role)
      (acknowledged role path body operation : Py Role State (List (Str × Json))) := by
  apply Action.ensures_bind
  · exact clientPost_posts rfl
  · intro response
    exact Action.ensures_ofExcept

theorem apply_posts : Posts (fun other _ => other = .client) (writer.apply : Py Role State Unit) :=
  Action.ensures_bind acknowledged_posts fun _ => Action.ensures_pure

theorem triggerSync_posts : Posts (fun other _ => other = .client) (writer.triggerSync plan) := by
  refine Action.ensures_bind (posts_of_gets syncPreflight_observes) ?_
  intro again
  refine Action.ensures_bind Action.ensures_raiseIf ?_
  intro _
  refine Action.ensures_bind Action.requests_modifyState ?_
  intro _
  exact Action.ensures_bind acknowledged_posts fun _ => Action.ensures_pure

theorem mutate_posts : Posts (fun other _ => other = .client) (writer.mutate action payload uuid) := by
  refine Action.ensures_bind acknowledged_posts ?_
  intro response
  refine Action.ensures_bind ?_ fun _ => Action.requests_modifyState
  unfold adoptUuid
  split
  · exact Action.ensures_bind Action.ensures_ofExcept fun _ => Action.requests_modifyState
  · exact Action.ensures_pure

theorem applyVerified_posts : Posts (fun other _ => other = .client) (writer.applyVerified expected) := by
  refine Action.ensures_bind apply_posts ?_
  intro _
  refine Action.ensures_bind Action.requests_modifyState ?_
  intro _
  refine Action.ensures_bind Action.ensures_readState ?_
  intro execution
  refine Action.ensures_bind (posts_of_gets verify_observes) ?_
  intro same
  exact Action.ensures_bind Action.ensures_raiseIf fun _ => Action.requests_modifyState

/-- There is a record for the client. -/
def AfterRecord (writer : VerifiedFirewallWriter) (action : WriteAction) (history : Trace Role) : Prop :=
  Recalls (writer.Counts action) .client history

/-- Code that keeps to the records from the one for the client on -/
abbrev HeedsRecord {α : Type} (writer : VerifiedFirewallWriter) (action : WriteAction)
    (code : Py Role State α) : Prop :=
  Action.Heeds (Announced (writer.Counts action)) (fun history _ => writer.AfterRecord action history) code
    (fun _ history _ => writer.AfterRecord action history) fun _ history _ => writer.AfterRecord action history

omit [Runtime] in
theorem afterRecord_lasting : Lasting (writer.AfterRecord action) := recalls_lasting

omit [Runtime] in
theorem heeds_to_client {α : Type} {code : Py Role State α}
    (posts : Posts (fun other _ => other = .client) code) : writer.HeedsRecord action code :=
  heeds_sending afterRecord_lasting (fun _ recorded => recorded) posts

theorem deleteOnPeer_heeds : writer.HeedsRecord action (writer.deleteOnPeer revision uuid) := by
  have both : Lasting fun history : Trace Role =>
      Recalls (writer.Counts action) .peer history ∧ writer.AfterRecord action history := by
    intro history more recalls
    exact ⟨recalls_lasting history more recalls.1, afterRecord_lasting history more recalls.2⟩
  have records : ∀ now, writer.Counts action .peer (writer.startedEntry "port_forward.peer_delete" uuid
      writer.peerName revision now) := by
    intro now
    exact ⟨rfl, rfl, rfl, by simp [startedEntry]⟩
  refine .bind (heeds_recording (fun _ => afterRecord_lasting) auditRecord_observes
    (recalls_of_auditRecord records)) fun _ => ?_
  refine .weaken (heeds_sending both (fun _ recalls => recalls.1) ?_) (fun _ _ _ recalls => recalls.2)
    fun _ _ _ recalls => recalls.2
  refine Action.ensures_bind Action.requests_modifyState fun _ => ?_
  refine Action.ensures_bind acknowledged_posts fun _ => ?_
  refine Action.ensures_bind Action.requests_modifyState fun _ => ?_
  refine Action.ensures_bind acknowledged_posts fun _ => ?_
  refine Action.ensures_bind Action.requests_modifyState fun _ => ?_
  refine Action.ensures_bind (posts_of_gets absentOnBoth_observes) fun absent => ?_
  exact Action.ensures_bind Action.requests_modifyState fun _ => Action.requests_modifyState

omit [Runtime] in
theorem heeds_update {update : State → State} :
    writer.HeedsRecord action (Action.modifyState update : Py Role State Unit) :=
  .modifyState fun _ _ recorded => recorded

omit [Runtime] in
theorem heeds_done {α : Type} {value : α} :
    writer.HeedsRecord action (pure value : Py Role State α) :=
  .pure fun _ _ recorded => recorded

omit [Runtime] in
theorem heeds_attempt {α : Type} {code : Py Role State α} {catches : Exn → Bool}
    (heeds : writer.HeedsRecord action code) : writer.HeedsRecord action (code.attempt catches) :=
  .attempt heeds fun _ _ _ recorded => recorded

theorem finishLastDnatDelete_heeds :
    writer.HeedsRecord action (writer.finishLastDnatDelete plan revision uuid) := by
  refine .bind heeds_update fun _ => ?_
  refine .bind (heeds_attempt ?_) fun outcome => ?_
  · exact .bind (heeds_to_client (posts_of_gets confirmCleanup_observes)) fun _ => deleteOnPeer_heeds
  · cases outcome with
    | ok value => exact heeds_done
    | error error => exact heeds_update

theorem observe_heeds {qualified : Option Str} :
    writer.HeedsRecord action (writer.observe plan qualified uuid expected) := by
  refine .bind (heeds_to_client ?_) fun converged => ?_
  · intro before trace outcome after run event member
    exact (poll_requests before trace outcome after run event member).postsWithin
  · split
    · exact finishLastDnatDelete_heeds
    · exact heeds_done

theorem syncPeer_heeds {qualified : Option Str} :
    writer.HeedsRecord action (writer.syncPeer plan qualified uuid expected) := by
  unfold syncPeer
  split
  · exact observe_heeds
  · refine .bind (heeds_attempt (heeds_to_client triggerSync_posts)) fun triggered => ?_
    cases triggered with
    | ok value => exact observe_heeds
    | error error => exact heeds_update

theorem sync_heeds : writer.HeedsRecord action (writer.sync uuid expected) := by
  unfold sync
  split
  · exact heeds_done
  · refine .readState fun execution => ?_
    refine .require ?_ fun _ _ known => known.1
    exact .bind (.withState fun _ => syncPeer_heeds) fun _ => heeds_done

/-! ### Before and after the record -/

theorem auditStarted_heeds :
    Action.Heeds (Announced (writer.Counts action)) (fun _ execution => execution.accepted = false)
      (writer.auditStarted action payload uuid) (fun _ history _ => writer.AfterRecord action history)
      fun _ _ execution => execution.accepted = false := by
  refine .weaken (heeds_recording (fun _ _ _ unaccepted => unaccepted) auditStarted_observes ?_)
    (fun _ _ _ recalls => recalls.1) fun _ _ _ unaccepted => unaccepted
  intro before trace value after run
  rw [auditStarted, Action.run_bind_ofExcept] at run
  rcases run with ⟨hash, hashed, recording⟩ | ⟨_, _, _, impossible, _⟩
  · refine recalls_of_auditRecord ?_ recording
    intro now
    exact ⟨rfl, rfl, rfl, by simp [startedEntry]⟩
  · cases impossible

theorem checkRevision_posts : Posts (fun other _ => other = .client)
    (writer.checkRevision action uuid revision) := by
  refine Action.ensures_bind (posts_of_gets get_observes) fun current => ?_
  refine Action.ensures_bind Action.ensures_ofExcept fun hash => ?_
  refine Action.ensures_bind Action.ensures_raiseIf fun _ => ?_
  refine Action.ensures_bind (posts_of_gets deletesLast_observes) fun last => ?_
  split
  · refine Action.ensures_bind (posts_of_gets get_observes) fun detail => ?_
    refine Action.ensures_bind Action.ensures_ofExcept fun hash => ?_
    refine Action.ensures_bind (posts_of_gets sameOnPeer_observes) fun same => ?_
    exact Action.ensures_bind Action.ensures_raiseIf fun _ => Action.requests_modifyState
  · exact Action.ensures_pure

/-- A change that was accepted comes after the record. -/
def Ordered (writer : VerifiedFirewallWriter) (action : WriteAction) (history : Trace Role)
    (execution : Execution) : Prop :=
  execution.accepted = true → writer.AfterRecord action history

/-- Until it has a record the writer has accepted nothing. -/
theorem attemptWrite_heeds :
    Action.Heeds (Announced (writer.Counts action)) (fun _ execution => execution.accepted = false)
      (writer.attemptWrite action payload uuid revision expected)
      (fun _ history _ => writer.AfterRecord action history)
      fun _ => writer.Ordered action := by
  have later : ∀ {α : Type} {code : Py Role Execution α}, writer.HeedsRecord action code →
      Action.Heeds (Announced (writer.Counts action)) (fun history _ => writer.AfterRecord action history)
        code (fun _ history _ => writer.AfterRecord action history) fun _ => writer.Ordered action :=
    fun heeds => heeds.weaken (fun _ _ _ recorded => recorded) fun _ _ _ recorded _ => recorded
  refine .bind (.bind (auditStarted_heeds.weaken (fun _ _ _ recorded => recorded) ?_)
    fun _ => later ?_) fun _ => later ?_
  · intro error history execution unaccepted accepted
    rw [unaccepted] at accepted
    cases accepted
  · refine .bind (heeds_to_client (posts_of_gets syncPreflight_observes)) fun plan => ?_
    refine .bind heeds_update fun _ => ?_
    split
    · exact heeds_done
    · exact heeds_to_client checkRevision_posts
  · refine .bind (heeds_to_client mutate_posts) fun _ => ?_
    refine .bind (heeds_to_client applyVerified_posts) fun _ => ?_
    refine .readState fun execution => ?_
    refine .require ?_ fun _ _ known => known.1
    exact .bind sync_heeds fun _ => heeds_update

theorem rollback_heeds : writer.HeedsRecord action writer.rollback := by
  refine .readState fun execution => ?_
  refine .require ?_ fun _ _ known => known.1
  refine .bind (heeds_to_client acknowledged_posts) fun _ => ?_
  refine .bind (heeds_to_client apply_posts) fun _ => ?_
  refine .bind (heeds_to_client (posts_of_gets verify_observes)) fun absent => ?_
  refine .bind heeds_update fun _ => ?_
  exact .bind sync_heeds fun _ => heeds_update

theorem attemptRollback_heeds : writer.HeedsRecord action writer.attemptRollback := by
  refine .bind heeds_update fun _ => ?_
  refine .bind (heeds_attempt rollback_heeds) fun outcome => ?_
  cases outcome with
  | ok value => exact heeds_done
  | error error => exact heeds_update

/-- A rollback needs a change that was accepted. -/
theorem settle_heeds {outcome : Except Exn Unit} :
    Action.Heeds (Announced (writer.Counts action)) (writer.Ordered action)
      (writer.settle action outcome) (fun _ _ _ => True) fun _ _ _ => True := by
  cases outcome with
  | ok value => exact .pure fun _ _ _ => trivial
  | error error =>
      have noted : Action.Heeds (Announced (writer.Counts action)) (writer.Ordered action)
          (updateResult (ExecuteResult.failed error) : Py Role Execution Unit)
          (fun _ => writer.Ordered action) fun _ _ _ => True :=
        .modifyState fun _ _ ordered => ordered
      refine noted.bind fun _ => ?_
      refine .readState fun execution => ?_
      split
      · rename_i rolls
        have rolling : writer.HeedsRecord action writer.attemptRollback := attemptRollback_heeds
        refine .weaken (rolling.require ?_) (fun _ _ _ _ => trivial) fun _ _ _ _ => trivial
        rintro history state ⟨ordered, rfl⟩
        exact ordered rolls.1
      · exact .pure fun _ _ _ => trivial

theorem auditFinal_quiet {started : Clock} :
    Posts (fun _ _ => False) (writer.auditFinal action payload started) := by
  intro before trace outcome after run event member
  exact .of_not_post ((auditFinal_run run).1 event member)

theorem executeLocked_heeds :
    Action.Heeds (Announced (writer.Counts action)) (fun _ _ => True)
      (writer.executeLocked action payload uuid revision) (fun _ _ _ => True) fun _ _ _ => True := by
  refine .bind (heeds_quiet lasting_true ?_) fun started => ?_
  · intro before trace outcome after run event member
    rw [run_readClock] at run
    rcases run with ⟨now, rfl, _⟩
    rw [List.mem_singleton.mp member]
    exact trivial
  have begun : Action.Heeds (Announced (writer.Counts action)) (fun _ _ => True)
      (Action.modifyState (Execution.begin action uuid) : Py Role Execution Unit)
      (fun _ _ execution => execution.accepted = false) fun _ _ _ => True :=
    .modifyState fun _ _ _ => rfl
  refine begun.bind fun _ => ?_
  refine .bind_ofExcept (fun expected _ => ?_) fun _ _ _ _ => trivial
  have attempted : Action.Heeds (Announced (writer.Counts action))
      (fun _ execution => execution.accepted = false)
      ((writer.attemptWrite action payload uuid revision expected).attempt isHandled)
      (fun _ => writer.Ordered action) fun _ _ _ => True :=
    .attempt (attemptWrite_heeds.weaken (fun _ _ _ recorded _ => recorded) fun _ _ _ ordered => ordered)
      fun _ _ _ _ => trivial
  refine attempted.bind fun outcome => ?_
  refine .bind settle_heeds fun _ => ?_
  refine .bind (heeds_quiet lasting_true auditFinal_quiet) fun _ => ?_
  exact .readState fun execution => .pure fun _ _ _ => trivial

theorem execute_heeds :
    Action.Heeds (Announced (writer.Counts action)) (fun _ _ => True)
      (writer.execute action payload uuid revision) (fun _ _ _ => True) fun _ _ _ => True := by
  refine .bind (heeds_quiet lasting_true Action.ensures_ofExcept) fun valid => ?_
  refine .bind (heeds_quiet lasting_true (ask_posts trivial)) fun _ => ?_
  refine .bind (heeds_quiet lasting_true (ask_posts trivial)) fun lock => ?_
  refine .bind (heeds_quiet lasting_true (ask_posts trivial)) fun _ => ?_
  refine .bind (heeds_quiet lasting_true (ask_posts trivial)) fun _ => ?_
  have releasing : Posts (fun _ _ => False)
      (do let _ ← Action.ask (.release lock) : Py Role Execution Unit) :=
    Action.ensures_bind (ask_posts trivial) fun _ => Action.ensures_pure
  exact .finallyDo executeLocked_heeds (fun _ => heeds_quiet lasting_true releasing)
    fun _ => heeds_quiet lasting_true releasing

end VerifiedFirewallWriter

/-! ## The pages of the firewall -/

namespace FirewallRoute

variable [Runtime] {settings : FirewallSettings} {resource : Resource} {body : Json} {State : Type}

/-- The records of an action that count for a node -/
def Counts (settings : FirewallSettings) (resource : Resource) (body : Json) (role : Role)
    (entry : AuditEntry) : Prop :=
  ∃ fields action, body = .obj fields ∧ actionOf fields = some action ∧
    (writerOf settings resource).Counts action role entry

theorem execute_counts {request : ActionRequest} (accepted : actionRequest resource body = .ok request) :
    Action.Heeds (Announced (Counts settings resource body)) (fun _ _ => True)
      ((writerOf settings resource).execute request.action request.payload request.uuid request.revision)
      (fun _ _ _ => True) fun _ _ _ => True := by
  apply VerifiedFirewallWriter.execute_heeds.permit
  intro history event announced
  rcases actionRequest_eq_ok accepted with ⟨fields, same, named, _⟩
  exact announced.mono fun role entry counted => ⟨fields, request.action, same, named, counted⟩

theorem actionPayload_heeds :
    Action.Heeds (Announced (Counts settings resource body)) (fun _ _ => True)
      (actionPayload settings resource body : Py Role State Response) (fun _ _ _ => True)
      fun _ _ _ => True := by
  unfold actionPayload
  split
  · exact .pure fun _ _ _ => trivial
  have attempted : Action.Heeds (Announced (Counts settings resource body)) (fun _ _ => True)
      ((attemptAction settings resource body : Py Role State ExecuteResult).attempt isActionError)
      (fun _ _ _ => True) fun _ _ _ => True := by
    refine .attempt (.bind_ofExcept (fun request accepted => ?_) fun _ _ _ _ => trivial) fun _ _ _ _ => trivial
    refine .bind (heeds_quiet lasting_true Action.ensures_ofExcept) fun _ => ?_
    refine .bind (.withState fun _ => execute_counts accepted) fun ended => ?_
    exact .pure fun _ _ _ => trivial
  refine attempted.bind fun outcome => ?_
  cases outcome <;> exact .pure fun _ _ _ => trivial

end FirewallRoute

/-! ## The services -/

namespace ManagementService

open Management

variable [Runtime] {service : ManagementService} {spec : Spec} {request : MutateRequest} {body : Json}

/-- The records of a mutation that count for a node -/
def Counts (service : ManagementService) (spec : Spec) (body : Json) : Role → AuditEntry → Prop
  | .client, entry => ∃ fields action, body = .obj fields ∧ actionOf fields = some action ∧
      entry.Announces service.actor service.client.name (spec.id ++ "." ++ action.name)
  | .peer, _ => False

theorem accept_action (accepted : service.accept spec body = .ok request) :
    ∃ fields, body = .obj fields ∧ actionOf fields = some request.action := by
  simp only [accept, bind_eq_ok, raiseIf_eq_ok] at accepted
  rcases accepted with ⟨_, _, accepted⟩
  cases body with
  | obj fields =>
      dsimp only at accepted
      split at accepted
      · rename_i action named
        simp only [bind_eq_ok, raiseIf_eq_ok, pure_eq_ok] at accepted
        rcases accepted with ⟨_, _, _, _, _, _, _, _, rfl⟩
        exact ⟨fields, rfl, named⟩
      · cases accepted
  | _ => cases accepted

theorem audit_recalls {State : Type} {payload : Json} {started : Clock} {before after : State}
    {trace : Trace Role} {value : Unit} (accepted : service.accept spec body = .ok request)
    (run : (service.audit spec request.action request.uuid "started" payload started :
      Py Role State Unit).Run before trace (.ok value) after) :
    Recalls (service.Counts spec body) .client trace := by
  rw [audit, Action.run_bind_ofExcept] at run
  rcases run with ⟨hash, _, run⟩ | ⟨_, _, _, impossible, _⟩
  rotate_left
  · cases impossible
  rw [readClock, Action.run_bind_ask] at run
  rcases run with ⟨now, rest, rfl, run⟩
  rw [Action.run_bind_attempt] at run
  rcases run with ⟨front, stored, middle, back, rfl, appending, _, run⟩ | ⟨_, _, _, impossible⟩
  rotate_left
  · cases impossible
  rcases stored with error | _
  · simp at run
  rw [run_auditAppend] at appending
  rcases appending with ⟨answer, rfl, same, rfl⟩
  have success := appended_eq_ok.mp same.symm
  subst success
  refine ⟨service.auditEntry spec request.action request.uuid "started" hash started now, by simp, ?_⟩
  rcases accept_action accepted with ⟨fields, same, named⟩
  exact ⟨fields, request.action, same, named, rfl, rfl, rfl, by simp [auditEntry]⟩

theorem change_posts {expected payload : Json} {started : Clock} :
    Posts ToClient (service.change spec request expected payload started) :=
  Action.ensures_handle attemptMutation_posts fun _ => posts_of_internal recover_internal

theorem mutateLocked_heeds (accepted : service.accept spec body = .ok request) :
    Action.Heeds (Announced (service.Counts spec body)) (fun _ _ => True)
      (service.mutateLocked spec request) (fun _ _ _ => True) fun _ _ _ => True := by
  refine .bind (heeds_quiet lasting_true (posts_of_internal readClock_internal)) fun started => ?_
  have prepared : Action.Heeds (Announced (service.Counts spec body)) (fun _ _ => True)
      (service.prepare spec request started : Py Role Unit (Json × Json))
      (fun _ history _ => Recalls (service.Counts spec body) .client history) fun _ _ _ => True := by
    refine .bind (heeds_quiet lasting_true (posts_of_gets raw_observes)) fun object => ?_
    refine .bind (heeds_quiet lasting_true Action.ensures_ofExcept) fun _ => ?_
    refine .bind (heeds_quiet lasting_true Action.ensures_ofExcept) fun expected => ?_
    refine .bind (heeds_quiet lasting_true Action.ensures_ofExcept) fun payload => ?_
    refine .bind (heeds_recording (fun _ => lasting_true) audit_observes (audit_recalls accepted)) fun _ => ?_
    exact .pure fun _ _ recalls => recalls.1
  refine prepared.bind fun ready => ?_
  refine .weaken (heeds_sending recalls_lasting (fun _ recalls => recalls) ?_) (fun _ _ _ _ => trivial)
    fun _ _ _ _ => trivial
  exact Action.ensures_bind (Action.observes_withState change_posts).requests fun _ =>
    Action.ensures_pure

theorem mutate_heeds :
    Action.Heeds (Announced (service.Counts spec body)) (fun _ _ => True) (service.mutate spec body)
      (fun _ _ _ => True) fun _ _ _ => True := by
  refine .bind_ofExcept (fun request accepted => ?_) fun _ _ _ _ => trivial
  refine .bind (heeds_quiet lasting_true (ask_posts trivial)) fun _ => ?_
  refine .bind (heeds_quiet lasting_true (ask_posts trivial)) fun lock => ?_
  refine .bind (heeds_quiet lasting_true (ask_posts trivial)) fun _ => ?_
  refine .bind (heeds_quiet lasting_true (ask_posts trivial)) fun _ => ?_
  have releasing : Posts (fun _ _ => False)
      (do let _ ← Action.ask (.release lock) : Py Role Unit Unit) :=
    Action.ensures_bind (ask_posts trivial) fun _ => Action.ensures_pure
  exact .finallyDo (mutateLocked_heeds accepted) (fun _ => heeds_quiet lasting_true releasing)
    fun _ => heeds_quiet lasting_true releasing

end ManagementService

/-! ### Records whose failure is an error of their own -/

theorem recordSent_recalls {counts : Role → AuditEntry → Prop} {node : Role} {entry : Clock → AuditEntry}
    {failure : Str} (counted : ∀ now, counts node (entry now)) {before after : Bool}
    {trace : Trace Role} {value : Unit}
    (run : (Management.recordSent entry failure).Run before trace (.ok value) after) :
    Recalls counts node trace := by
  have stored := (Management.recordSent_run counted run).2.2.1 rfl
  rcases stored with ⟨skipped, found, rest, rfl, ⟨recorded, rfl, holds⟩, _⟩
  exact ⟨recorded, by simp, holds⟩

theorem recordSent_observes {entry : Clock → AuditEntry} {failure : Str} :
    Action.Ensures (Action.Observes fun request => ¬ request.IsPost)
      (Management.recordSent entry failure) := by
  intro before trace outcome after run
  rcases @Management.recordSent_run _ _ _ _ _ (fun _ => True) _ (fun _ => trivial) run with
    ⟨same, silent, _⟩
  exact ⟨same, fun event member => (silent event member).1⟩

namespace CrlService

open Management

variable [Runtime] {service : CrlService} {request : CrlRequest} {body : Json}

/-- The records of a change that count for a node -/
def Counts (service : CrlService) (body : Json) : Role → AuditEntry → Prop
  | .client, entry => ∃ fields action, body = .obj fields ∧ crlActionOf fields = some action ∧
      entry.Announces service.actor service.client.name ("crl." ++ action.name)
  | .peer, _ => False

omit [Runtime] in
theorem accept_action (accepted : service.accept body = .ok request) :
    ∃ fields, body = .obj fields ∧ crlActionOf fields = some request.action := by
  simp only [accept, bind_eq_ok, raiseIf_eq_ok] at accepted
  rcases accepted with ⟨_, _, accepted⟩
  cases body with
  | obj fields =>
      dsimp only at accepted
      split at accepted
      · rename_i action named
        rw [bind_eq_ok] at accepted
        rcases accepted with ⟨caref, _, accepted⟩
        split at accepted
        · simp only [bind_eq_ok, raiseIf_eq_ok, pure_eq_ok] at accepted
          rcases accepted with ⟨_, _, rfl⟩
          exact ⟨fields, rfl, named⟩
        · cases accepted
      · cases accepted
  | _ => cases accepted

theorem prepareChange_heeds {started : Clock} :
    Action.Heeds (Announced (service.Counts body)) (fun _ _ => True)
      (service.prepareChange request started)
      (fun change _ _ => (change.actor = service.actor ∧ change.host = service.client.name ∧
        change.request = request) ∧ True) fun _ _ _ => True := by
  refine .bind (heeds_quiet lasting_true raw_posts) fun current => ?_
  refine .bind (heeds_quiet lasting_true Action.ensures_ofExcept) fun _ => ?_
  refine .bind (heeds_quiet lasting_true Action.ensures_ofExcept) fun payload => ?_
  refine .bind (heeds_quiet lasting_true Action.ensures_ofExcept) fun digest => ?_
  exact .pure fun _ _ _ => ⟨⟨rfl, rfl, rfl⟩, trivial⟩

theorem runChange_heeds (accepted : service.accept body = .ok request) :
    Action.Heeds (Announced (service.Counts body)) (fun _ _ => True) (service.runChange request)
      (fun _ _ _ => True) fun _ _ _ => True := by
  refine .bind (heeds_quiet lasting_true (posts_of_internal readClock_internal)) fun started => ?_
  refine prepareChange_heeds.bind fun change => .assuming fun ready => ?_
  have records : ∀ now, service.Counts body .client (change.entry "attempt" now) := by
    intro now
    rcases ready with ⟨user, host, rfl⟩
    rcases accept_action accepted with ⟨fields, same, named⟩
    exact ⟨fields, change.request.action, same, named, user, host, rfl, by simp [CrlChange.entry]⟩
  refine .bind (heeds_recording (fun _ => lasting_true) recordSent_observes
    (recordSent_recalls records)) fun _ => ?_
  refine .weaken (.require (heeds_sending recalls_lasting (fun _ recalls => recalls) ?_)
    fun _ _ recalls => recalls.1) (fun _ _ _ _ => trivial) fun _ _ _ _ => trivial
  exact Action.ensures_handle attemptChange_posts fun _ => posts_of_internal recoverChange_internal

theorem mutate_heeds :
    Action.Heeds (Announced (service.Counts body)) (fun _ _ => True) (service.mutate body)
      (fun _ _ _ => True) fun _ _ _ => True := by
  refine .bind_ofExcept (fun request accepted => ?_) fun _ _ _ _ => trivial
  refine .bind (.withState fun _ => runChange_heeds accepted) fun ended => ?_
  exact .pure fun _ _ _ => trivial

end CrlService

namespace Management

variable [Runtime] {call : OperationCall} {client : Host} {actor target : Str}
  {payload : List (Str × Json)}

/-- The records of an operation that count for a node -/
def OperationCounts (client : Host) (actor id : Str) : Role → AuditEntry → Prop
  | .client, entry => entry.Announces actor client.name ("operation." ++ id)
  | .peer, _ => False

theorem runOperation_heeds (user : call.actor = actor) (host : call.host = client.name) :
    Action.Heeds (Announced (OperationCounts client actor call.spec.id)) (fun _ _ => True)
      (runOperation call target payload) (fun _ _ _ => True) fun _ _ _ => True := by
  by_cases post : call.spec.method = .post
  · have records : ∀ now, OperationCounts client actor call.spec.id .client
        (call.entry "attempt" "Solicitud validada; pendiente de envío." now) := by
      intro now
      exact ⟨user, host, rfl, by simp [OperationCall.entry]⟩
    have recording : recordPost call "attempt" "Solicitud validada; pendiente de envío." =
        record call "attempt" "Solicitud validada; pendiente de envío." := if_pos post
    rw [runOperation, recording]
    refine .bind (heeds_recording (fun _ => lasting_true) recordSent_observes
      (recordSent_recalls records)) fun _ => ?_
    refine .weaken (.require (heeds_sending recalls_lasting (fun _ recalls => recalls) ?_)
      fun _ _ recalls => recalls.1) (fun _ _ _ _ => trivial) fun _ _ _ _ => trivial
    exact recordedOperation_posts fun _ => rfl
  · exact heeds_quiet lasting_true (runOperation_posts fun same => absurd same post)

theorem planOperation_id {id : Str} {values : Json} {plan : OperationSpec × Str × List (Str × Json)}
    (known : planOperation (.str id) values = .ok plan) : plan.1.id = id := by
  unfold planOperation at known
  split at known
  · cases known
  · rename_i spec found
    simp only [bind_eq_ok, pure_eq_ok] at known
    rcases known with ⟨_, _, _, _, rfl⟩
    have named := List.find?_some found
    simpa [Json.isText, eq_comm] using named

theorem executeOperation_heeds {id : Str} {values : Json} :
    Action.Heeds (Announced (OperationCounts client actor id)) (fun _ _ => True)
      (executeOperation client actor (.str id) values) (fun _ _ _ => True) fun _ _ _ => True := by
  refine .bind_ofExcept ?_ fun _ _ _ _ => trivial
  rintro ⟨spec, target, payload⟩ known
  have same : spec.id = id := planOperation_id known
  cases same
  refine .bind (heeds_quiet lasting_true (posts_of_internal readClock_internal)) fun started => ?_
  refine .bind (heeds_quiet lasting_true Action.ensures_ofExcept) fun digest => ?_
  have running : ∀ started digest, Action.Heeds (Announced (OperationCounts client actor spec.id))
      (fun _ _ => True) (runOperation ⟨client.name, actor, spec, started, digest⟩ target payload)
      (fun _ _ _ => True) fun _ _ _ => True := fun _ _ => runOperation_heeds rfl rfl
  refine .bind (.withState fun _ => running started digest) fun ended => ?_
  exact .pure fun _ _ _ => trivial

end Management

end OpnsensePlugin

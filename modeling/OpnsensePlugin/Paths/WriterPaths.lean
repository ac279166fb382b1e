import OpnsensePlugin.Paths.Segments
import OpnsensePlugin.Routes.Firewall

/-!
# Paths of the verified writer

Every request of the writer goes to a fixed path of its resource, or to one
with a canonical UUID behind it. The UUID is the validated one of the caller, or
the validated one of an acknowledged create.
-/

namespace OpnsensePlugin

open Effects Python

section Requests

variable {Node State : Type} {fixed : List Str} {segment : Str → Prop}

theorem clientGet_stays {node : Node} {path : Str} {params : List (Str × Json)}
    (confined : Confined fixed segment path) :
    Action.Ensures (Action.Observes (StaysWithin fixed segment))
      (clientGet node path params : Py Node State Json) := by
  apply Action.ensures_bind
  · apply Action.ensures_ask
    intro state answer
    exact ⟨rfl, by simpa [StaysWithin] using confined⟩
  · intro reply
    exact Action.ensures_ofExcept

theorem clientPost_stays {node : Node} {path : Str} {payload : Json}
    (confined : Confined fixed segment path) :
    Action.Ensures (Action.Observes (StaysWithin fixed segment))
      (clientPost node path payload : Py Node State Json) := by
  apply Action.ensures_bind
  · apply Action.ensures_ask
    intro state answer
    exact ⟨rfl, by simpa [StaysWithin] using confined⟩
  · intro reply
    exact Action.ensures_ofExcept

theorem ask_internal {request : Request Node} (internal : IsInternal request) :
    Action.Ensures (Action.Observes IsInternal)
      (Action.ask request : Py Node State (Answer request)) := by
  apply Action.ensures_ask
  intro state answer
  exact ⟨rfl, by simpa using internal⟩

theorem readClock_internal :
    Action.Ensures (Action.Observes IsInternal) (readClock : Py Node State Clock) :=
  ask_internal trivial

theorem auditAppend_internal {entry : AuditEntry} :
    Action.Ensures (Action.Observes IsInternal) (auditAppend entry : Py Node State Unit) := by
  apply Action.ensures_bind
  · exact ask_internal trivial
  · intro answer
    exact Action.ensures_ofExcept

theorem auditRecord_internal {entry : Clock → AuditEntry} :
    Action.Ensures (Action.Observes IsInternal) (auditRecord entry : Py Node State Unit) := by
  refine Action.ensures_bind readClock_internal ?_
  intro now
  exact auditAppend_internal

theorem internal_stays {α : Type} {action : Py Node State α}
    (internal : Action.Ensures (Action.Observes IsInternal) action) :
    Action.Ensures (Action.Observes (StaysWithin fixed segment)) action :=
  internal.widen fun _ => IsInternal.staysWithin

end Requests

namespace VerifiedFirewallWriter

/-- The paths of a resource without an identifier -/
def fixedPaths (resource : Resource) : List Str :=
  let spec := resource.spec
  [spec.base ++ "/search" ++ spec.suffix, spec.base ++ "/get" ++ spec.suffix,
    spec.base ++ "/add" ++ spec.suffix, spec.base ++ "/set" ++ spec.suffix,
    spec.base ++ "/del" ++ spec.suffix, spec.base ++ "/" ++ spec.applyName, hasyncPath,
    interfacesPath, vipStatusPath, restartPath]

/-- A request to a fixed path of the resource, or to one of its objects -/
abbrev Reaches (resource : Resource) : Request Role → Prop :=
  StaysWithin (fixedPaths resource) IsCanonicalUuid

section Paths

variable {writer : VerifiedFirewallWriter} {action : WriteAction} {uuid : Str}

theorem searchPath_confined :
    Confined (fixedPaths writer.resource) IsCanonicalUuid writer.searchPath :=
  .inl (by simp [fixedPaths, searchPath, spec])

theorem applyPath_confined :
    Confined (fixedPaths writer.resource) IsCanonicalUuid writer.applyPath :=
  .inl (by simp [fixedPaths, applyPath, spec])

theorem detailPath_confined (canonical : IsCanonicalUuid uuid) :
    Confined (fixedPaths writer.resource) IsCanonicalUuid (writer.detailPath uuid) :=
  .inr ⟨_, by simp [fixedPaths, spec], uuid, canonical, rfl⟩

theorem deletePath_confined (canonical : IsCanonicalUuid uuid) :
    Confined (fixedPaths writer.resource) IsCanonicalUuid (writer.deletePath uuid) :=
  .inr ⟨_, by simp [fixedPaths, spec], uuid, canonical, rfl⟩

/-- What the caller passes as the UUID of an action, once it is checked -/
def Addressed (action : WriteAction) (uuid : Str) : Prop :=
  if action = .create then uuid = [] else IsCanonicalUuid uuid

theorem verb_fixed :
    writer.spec.base ++ "/" ++ action.verb ++ writer.spec.suffix ∈ fixedPaths writer.resource := by
  have joined : ("/add" : Str) = "/" ++ "add" ∧ ("/set" : Str) = "/" ++ "set" ∧
      ("/del" : Str) = "/" ++ "del" := by decide
  cases action <;> simp [fixedPaths, spec, WriteAction.verb, joined]

theorem mutationPath_confined (addressed : Addressed action uuid) :
    Confined (fixedPaths writer.resource) IsCanonicalUuid (writer.mutationPath action uuid) := by
  unfold Addressed at addressed
  split at addressed
  · subst addressed
    left
    have plain := @verb_fixed writer action
    simpa [mutationPath, itemSegment] using plain
  · have named : itemSegment uuid = "/" ++ uuid := by
      simp [itemSegment, addressed.ne_nil]
    exact .inr ⟨_, @verb_fixed writer action, uuid, addressed, by simp [mutationPath, named]⟩

end Paths

/-! ## Reads -/

variable [Runtime] {State : Type} {writer : VerifiedFirewallWriter} {role : Role} {uuid : Str}

theorem validateUuid_eq_ok {value : Json} {checked : Str} (valid : validateUuid value = .ok checked) :
    ∃ text, value = .str text ∧ (parseUuid text).isSome = true ∧ checked = Runtime.lower text ∧
      IsCanonicalUuid checked := by
  unfold validateUuid at valid
  split at valid
  · rename_i text
    split at valid
    · cases valid
    · rename_i number parsed
      split at valid
      · rename_i canonical
        cases valid
        exact ⟨text, rfl, by simp [parsed], rfl, number, parseUuid_lt parsed, canonical.symm⟩
      · cases valid
  · cases valid

theorem search_stays :
    Action.Ensures (Action.Observes (Reaches writer.resource))
      (writer.search role : Py Role State (List Row)) :=
  Action.ensures_bind (clientGet_stays searchPath_confined) fun _ => Action.ensures_ofExcept

theorem get_stays (canonical : IsCanonicalUuid uuid) :
    Action.Ensures (Action.Observes (Reaches writer.resource))
      (writer.get uuid role : Py Role State Json) :=
  Action.ensures_bind (clientGet_stays (detailPath_confined canonical))
    fun _ => Action.ensures_ofExcept

theorem verify_stays (canonical : IsCanonicalUuid uuid) {expected : Option Json} :
    Action.Ensures (Action.Observes (Reaches writer.resource))
      (writer.verify uuid expected role : Py Role State Bool) := by
  cases expected with
  | none => exact Action.ensures_bind search_stays fun _ => Action.ensures_pure
  | some payload =>
      exact Action.ensures_bind (get_stays canonical) fun _ => Action.ensures_ofExcept

theorem dnatIds_stays :
    Action.Ensures (Action.Observes (Reaches writer.resource))
      (writer.dnatIds role : Py Role State (List Str)) :=
  Action.ensures_bind search_stays fun _ => Action.ensures_ofExcept

theorem acknowledged_stays {path : Str} {payload : Json} {operation : Str} {resource : Resource}
    (confined : Confined (fixedPaths resource) IsCanonicalUuid path) :
    Action.Ensures (Action.Observes (Reaches resource))
      (acknowledged role path payload operation : Py Role State (List (Str × Json))) :=
  Action.ensures_bind (clientPost_stays confined) fun _ => Action.ensures_ofExcept

theorem apply_stays :
    Action.Ensures (Action.Observes (Reaches writer.resource))
      (writer.apply : Py Role State Unit) :=
  Action.ensures_bind (acknowledged_stays applyPath_confined) fun _ => Action.ensures_pure

variable {resource : Resource}

omit [Runtime] in
theorem addresses_stays :
    Action.Ensures (Action.Observes (Reaches resource))
      (addresses role : Py Role State (List IpAddress)) := by
  apply Action.ensures_bind
  · exact clientGet_stays (.inl (by simp [fixedPaths]))
  · intro config
    exact Action.ensures_ofExcept

omit [Runtime] in
theorem isExclusive_stays {address : IpAddress} :
    Action.Ensures (Action.Observes (Reaches resource))
      (isExclusive address : Py Role State Bool) := by
  refine Action.ensures_bind addresses_stays ?_
  intro peer
  split
  · exact Action.ensures_bind addresses_stays fun _ => Action.ensures_pure
  · exact Action.ensures_pure

theorem collectCarpStatus_stays :
    Action.Ensures (Action.Observes (Reaches resource))
      (collectCarpStatus role : Py Role State CarpStatus) := by
  have fixed : vipStatusPath ∈ fixedPaths resource := by simp [fixedPaths]
  apply Action.ensures_bind
  · apply Action.ensures_ask
    intro state answer
    exact ⟨rfl, by simpa [StaysWithin] using .inl fixed⟩
  · intro reply
    exact Action.ensures_ofExcept

theorem xmlrpcPreflight_stays :
    Action.Ensures (Action.Observes (Reaches writer.resource))
      (writer.xmlrpcPreflight : Py Role State SyncPlan) := by
  have fixed : hasyncPath ∈ fixedPaths writer.resource := by simp [fixedPaths]
  refine Action.ensures_bind (clientGet_stays (.inl fixed)) ?_
  intro localData
  refine Action.ensures_bind (clientGet_stays (.inl fixed)) ?_
  intro peerData
  refine Action.ensures_bind Action.ensures_ofExcept ?_
  rintro ⟨target, sections, address⟩
  refine Action.ensures_bind isExclusive_stays ?_
  intro exclusive
  refine Action.ensures_bind Action.ensures_raiseIf ?_
  intro _
  refine Action.ensures_bind collectCarpStatus_stays ?_
  intro left
  refine Action.ensures_bind collectCarpStatus_stays ?_
  intro right
  exact Action.ensures_ofExcept

theorem syncPreflight_stays :
    Action.Ensures (Action.Observes (Reaches writer.resource))
      (writer.syncPreflight : Py Role State (Option SyncPlan)) := by
  unfold syncPreflight
  split
  · exact Action.ensures_pure
  · exact Action.ensures_bind xmlrpcPreflight_stays fun _ => Action.ensures_pure

/-! ## Synchronization -/

section Synchronization

variable {plan : Option SyncPlan} {revision : Str} {expected : Option Json}

theorem triggerSync_stays :
    Action.Ensures (Action.Requests (Reaches writer.resource)) (writer.triggerSync plan) := by
  refine Action.ensures_bind syncPreflight_stays.requests ?_
  intro again
  refine Action.ensures_bind Action.ensures_raiseIf ?_
  intro _
  refine Action.ensures_bind Action.requests_modifyState ?_
  intro _
  have fixed : restartPath ∈ fixedPaths writer.resource := by simp [fixedPaths]
  exact Action.ensures_bind (acknowledged_stays (.inl fixed)).requests fun _ =>
    Action.ensures_pure

theorem poll_stays (canonical : IsCanonicalUuid uuid) {attempt remaining : Nat} :
    Action.Ensures (Action.Requests (Reaches writer.resource))
      (writer.poll uuid expected attempt remaining) := by
  induction remaining generalizing attempt with
  | zero => exact Action.ensures_pure
  | succ remaining ih =>
      refine Action.ensures_bind Action.requests_modifyState ?_
      intro _
      refine Action.ensures_bind (Action.ensures_attempt (verify_stays canonical).requests) ?_
      intro outcome
      rcases outcome with error | same
      · exact Action.ensures_bind Action.requests_modifyState fun _ => ih
      · cases same with
        | true => exact Action.ensures_bind Action.requests_modifyState fun _ => Action.ensures_pure
        | false => exact Action.ensures_bind Action.requests_modifyState fun _ => ih

theorem isLastOnPeer_stays :
    Action.Ensures (Action.Observes (Reaches writer.resource))
      (writer.isLastOnPeer plan uuid : Py Role State Bool) := by
  refine Action.ensures_bind syncPreflight_stays ?_
  intro again
  split
  · exact Action.ensures_pure
  · apply Action.ensures_bind dnatIds_stays
    intro here
    split
    · exact Action.ensures_pure
    · exact Action.ensures_bind dnatIds_stays fun _ => Action.ensures_pure

theorem confirmCleanup_stays (canonical : IsCanonicalUuid uuid) :
    Action.Ensures (Action.Observes (Reaches writer.resource))
      (writer.confirmCleanup plan revision uuid : Py Role State Unit) := by
  refine Action.ensures_bind isLastOnPeer_stays ?_
  intro last
  refine Action.ensures_bind Action.ensures_raiseIf ?_
  intro _
  refine Action.ensures_bind (get_stays canonical) ?_
  intro detail
  exact Action.ensures_bind Action.ensures_ofExcept fun _ => Action.ensures_raiseIf

theorem absentOnBoth_stays (canonical : IsCanonicalUuid uuid) :
    Action.Ensures (Action.Observes (Reaches writer.resource))
      (writer.absentOnBoth uuid : Py Role State Bool) := by
  refine Action.ensures_bind (verify_stays canonical) ?_
  intro here
  split
  · exact verify_stays canonical
  · exact Action.ensures_pure

theorem deleteOnPeer_stays (canonical : IsCanonicalUuid uuid) :
    Action.Ensures (Action.Requests (Reaches writer.resource))
      (writer.deleteOnPeer revision uuid) := by
  refine Action.ensures_bind (internal_stays auditRecord_internal).requests ?_
  intro _
  refine Action.ensures_bind Action.requests_modifyState ?_
  intro _
  refine Action.ensures_bind (acknowledged_stays (deletePath_confined canonical)).requests ?_
  intro _
  refine Action.ensures_bind Action.requests_modifyState ?_
  intro _
  refine Action.ensures_bind (acknowledged_stays applyPath_confined).requests ?_
  intro _
  refine Action.ensures_bind Action.requests_modifyState ?_
  intro _
  refine Action.ensures_bind (absentOnBoth_stays canonical).requests ?_
  intro absent
  exact Action.ensures_bind Action.requests_modifyState fun _ => Action.requests_modifyState

theorem finishLastDnatDelete_stays (canonical : IsCanonicalUuid uuid) :
    Action.Ensures (Action.Requests (Reaches writer.resource))
      (writer.finishLastDnatDelete plan revision uuid) := by
  refine Action.ensures_bind Action.requests_modifyState ?_
  intro _
  apply Action.ensures_bind
  · apply Action.ensures_attempt
    exact Action.ensures_bind (confirmCleanup_stays canonical).requests fun _ =>
      deleteOnPeer_stays canonical
  · intro outcome
    cases outcome with
    | ok value => exact Action.ensures_pure
    | error error => exact Action.requests_modifyState

theorem observe_stays (canonical : IsCanonicalUuid uuid) {qualified : Option Str} :
    Action.Ensures (Action.Requests (Reaches writer.resource))
      (writer.observe plan qualified uuid expected) := by
  refine Action.ensures_bind (poll_stays canonical) ?_
  intro converged
  split
  · exact finishLastDnatDelete_stays canonical
  · exact Action.ensures_pure

theorem syncPeer_stays (canonical : IsCanonicalUuid uuid) {qualified : Option Str} :
    Action.Ensures (Action.Requests (Reaches writer.resource))
      (writer.syncPeer plan qualified uuid expected) := by
  unfold syncPeer
  split
  · exact observe_stays canonical
  · apply Action.ensures_bind (Action.ensures_attempt triggerSync_stays)
    intro triggered
    cases triggered with
    | ok value => exact observe_stays canonical
    | error error => exact Action.requests_modifyState

theorem sync_stays (canonical : IsCanonicalUuid uuid) :
    Action.Ensures (Action.Observes (Reaches writer.resource)) (writer.sync uuid expected) := by
  unfold sync
  split
  · exact Action.ensures_pure
  · refine Action.ensures_bind Action.ensures_readState ?_
    intro execution
    exact Action.ensures_bind (Action.observes_withState (syncPeer_stays canonical)) fun _ =>
      Action.ensures_pure

end Synchronization

/-! ## Execution -/

section Execution

variable {action : WriteAction} {payload : Json} {revision : Str} {expected : Option Json}
  {before after : Execution} {trace : Trace Role}

/-- Nothing is changed yet, and the variable has the UUID of the caller. -/
def Unchanged (uuid : Str) (execution : Execution) : Prop :=
  execution.accepted = false ∧ execution.uuid = uuid

/-- The variable has a canonical UUID. -/
def Named (execution : Execution) : Prop := IsCanonicalUuid execution.uuid

/-- An accepted change has a canonical UUID, which a rollback deletes. -/
def Settled (execution : Execution) : Prop := execution.accepted = true → Named execution

variable {good : Execution → Prop}

theorem auditStarted_stays :
    Action.Ensures (Action.Guards good (Reaches writer.resource))
      (writer.auditStarted action payload uuid) := by
  refine Action.Ensures.guards ?_
  refine Action.ensures_bind Action.ensures_ofExcept ?_
  intro hash
  exact internal_stays auditRecord_internal

theorem deletesLast_stays :
    Action.Ensures (Action.Observes (Reaches writer.resource))
      (writer.deletesLast action uuid) := by
  unfold deletesLast
  split
  · exact Action.ensures_bind dnatIds_stays fun _ => Action.ensures_pure
  · exact Action.ensures_pure

theorem sameOnPeer_stays {hash : Str} :
    Action.Ensures (Action.Observes (Reaches writer.resource))
      (writer.sameOnPeer uuid revision hash) := by
  unfold sameOnPeer
  split
  · exact Action.ensures_pure
  · exact Action.ensures_bind dnatIds_stays fun _ => Action.ensures_pure

theorem qualifyLast_stays (canonical : IsCanonicalUuid uuid) :
    Action.Ensures (Action.Guards (Unchanged uuid) (Reaches writer.resource))
      (writer.qualifyLast uuid revision) := by
  refine Action.ensures_bind (get_stays canonical).guards ?_
  intro detail
  refine Action.ensures_bind Action.ensures_ofExcept ?_
  intro hash
  refine Action.ensures_bind sameOnPeer_stays.guards ?_
  intro same
  refine Action.ensures_bind Action.ensures_raiseIf ?_
  intro _
  exact Action.guards_modifyState fun _ unchanged => unchanged

theorem checkRevision_stays (canonical : IsCanonicalUuid uuid) :
    Action.Ensures (Action.Guards (Unchanged uuid) (Reaches writer.resource))
      (writer.checkRevision action uuid revision) := by
  refine Action.ensures_bind (get_stays canonical).guards ?_
  intro current
  refine Action.ensures_bind Action.ensures_ofExcept ?_
  intro hash
  refine Action.ensures_bind Action.ensures_raiseIf ?_
  intro _
  refine Action.ensures_bind deletesLast_stays.guards ?_
  intro last
  split
  · exact qualifyLast_stays canonical
  · exact Action.ensures_pure

theorem prepare_stays (addressed : Addressed action uuid) :
    Action.Ensures (Action.Guards (Unchanged uuid) (Reaches writer.resource))
      (writer.prepare action payload uuid revision) := by
  refine Action.ensures_bind auditStarted_stays ?_
  intro _
  refine Action.ensures_bind syncPreflight_stays.guards ?_
  intro plan
  refine Action.ensures_bind (Action.guards_modifyState fun _ unchanged => unchanged) ?_
  intro _
  split
  · exact Action.ensures_pure
  · rename_i other
    rw [Addressed, if_neg other] at addressed
    exact checkRevision_stays addressed

theorem createdUuid_canonical {response : List (Str × Json)} {created : Str}
    (adopted : createdUuid response = .ok created) : IsCanonicalUuid created := by
  unfold createdUuid at adopted
  split at adopted
  · rename_i checked valid
    cases adopted
    rcases validateUuid_eq_ok valid with ⟨_, _, _, _, canonical⟩
    exact canonical
  · cases adopted

/-- An acknowledged change has a canonical UUID: the given one, or that of the created object. -/
theorem adoptUuid_stays {response : List (Str × Json)} {outcome : Except Exn Unit}
    (addressed : Addressed action uuid) (unchanged : Unchanged uuid before)
    (run : (adoptUuid action response).Run before trace outcome after) :
    trace = [] ∧ after.accepted = false ∧ (outcome = .ok () → Named after) := by
  unfold adoptUuid at run
  split at run
  · rw [Action.run_bind_ofExcept] at run
    rcases run with ⟨created, adopted, run⟩ | ⟨error, _, rfl, rfl, rfl⟩
    · rw [Action.run_modifyState] at run
      rcases run with ⟨rfl, _, rfl⟩
      exact ⟨rfl, unchanged.1, fun _ => createdUuid_canonical adopted⟩
    · exact ⟨rfl, unchanged.1, by simp⟩
  · rename_i other
    rw [Action.run_pure] at run
    rcases run with ⟨rfl, _, rfl⟩
    rw [Addressed, if_neg other, ← unchanged.2] at addressed
    exact ⟨rfl, unchanged.1, fun _ => addressed⟩

/-- A change is accepted only with a canonical UUID. -/
theorem mutate_stays {outcome : Except Exn Unit} (addressed : Addressed action uuid)
    (unchanged : Unchanged uuid before)
    (run : (writer.mutate action payload uuid).Run before trace outcome after) :
    (∀ event ∈ trace, Reaches writer.resource event.request) ∧ Settled after ∧
      (outcome = .ok () → Named after) := by
  have sends : Action.Ensures (Action.Observes (Reaches writer.resource))
      (acknowledged .client (writer.mutationPath action uuid) payload action.name :
        Py Role Execution (List (Str × Json))) :=
    acknowledged_stays (mutationPath_confined addressed)
  rw [mutate, Action.run_bind] at run
  rcases run with ⟨front, response, middle, back, rfl, sent, run⟩ | ⟨error, rfl, sent⟩
  · have observed := sends _ _ _ _ sent
    rw [observed.1] at run
    rw [Action.run_bind] at run
    rcases run with ⟨adopting, _, named, rest, rfl, adopt, run⟩ | ⟨error, rfl, adopt⟩
    · have adopted := adoptUuid_stays addressed unchanged adopt
      rw [Action.run_modifyState] at run
      rcases run with ⟨rfl, _, rfl⟩
      rw [adopted.1, List.append_nil, List.append_nil]
      exact ⟨observed.2, fun _ => adopted.2.2 rfl, fun _ => adopted.2.2 rfl⟩
    · have adopted := adoptUuid_stays addressed unchanged adopt
      rw [adopted.1, List.append_nil]
      refine ⟨observed.2, fun accepted => ?_, by simp⟩
      rw [adopted.2.1] at accepted
      cases accepted
  · have observed := sends _ _ _ _ sent
    refine ⟨observed.2, fun accepted => ?_, by simp⟩
    rw [observed.1, unchanged.1] at accepted
    cases accepted

omit [Runtime] in
theorem updateResult_named {update : ExecuteResult → ExecuteResult} :
    Action.Ensures (Action.Guards Named (Reaches writer.resource))
      (updateResult update : Py Role Execution Unit) :=
  Action.guards_modifyState fun _ named => named

theorem applyVerified_stays :
    Action.Ensures (Action.Guards Named (Reaches writer.resource))
      (writer.applyVerified expected) := by
  refine Action.ensures_bind apply_stays.guards ?_
  intro _
  refine Action.ensures_bind updateResult_named ?_
  intro _
  refine Action.guards_readState ?_
  intro execution named
  refine Action.ensures_bind (verify_stays named).guards ?_
  intro same
  exact Action.ensures_bind Action.ensures_raiseIf fun _ => updateResult_named

/-- The body of the `try` statement after the change -/
theorem finish_stays :
    Action.Ensures (Action.Guards Named (Reaches writer.resource)) (do
      writer.applyVerified expected
      let execution ← Action.readState
      let sync ← writer.sync execution.uuid expected
      updateResult (ExecuteResult.synced sync)) := by
  refine Action.ensures_bind applyVerified_stays ?_
  intro _
  refine Action.guards_readState ?_
  intro execution named
  exact Action.ensures_bind (sync_stays named).guards fun _ => updateResult_named

omit [Runtime] in
theorem Unchanged.settled {execution : Execution} (unchanged : Unchanged uuid execution) :
    Settled execution := by
  intro accepted
  rw [unchanged.1] at accepted
  cases accepted

theorem attemptWrite_stays {outcome : Except Exn Unit} (addressed : Addressed action uuid)
    (unchanged : Unchanged uuid before)
    (run : (writer.attemptWrite action payload uuid revision expected).Run before trace outcome
      after) :
    (∀ event ∈ trace, Reaches writer.resource event.request) ∧ Settled after := by
  rw [attemptWrite, Action.run_bind] at run
  rcases run with ⟨front, _, middle, back, rfl, preparing, run⟩ | ⟨error, rfl, preparing⟩
  · have prepared := prepare_stays addressed _ _ _ _ preparing unchanged
    rw [Action.run_bind] at run
    rcases run with ⟨change, _, changed, rest, rfl, mutating, run⟩ | ⟨error, rfl, mutating⟩
    · have mutated := mutate_stays addressed prepared.2 mutating
      have finished := finish_stays _ _ _ _ run (mutated.2.2 rfl)
      refine ⟨?_, fun _ => finished.2⟩
      exact List.forall_mem_append.mpr
        ⟨prepared.1, List.forall_mem_append.mpr ⟨mutated.1, finished.1⟩⟩
    · have mutated := mutate_stays addressed prepared.2 mutating
      exact ⟨List.forall_mem_append.mpr ⟨prepared.1, mutated.1⟩, mutated.2.1⟩
  · have prepared := prepare_stays addressed _ _ _ _ preparing unchanged
    exact ⟨prepared.1, prepared.2.settled⟩

theorem rollback_stays :
    Action.Ensures (Action.Guards Named (Reaches writer.resource)) writer.rollback := by
  refine Action.guards_readState ?_
  intro execution named
  refine Action.ensures_bind (acknowledged_stays (deletePath_confined named)).guards ?_
  intro _
  refine Action.ensures_bind apply_stays.guards ?_
  intro _
  refine Action.ensures_bind (verify_stays named).guards ?_
  intro absent
  refine Action.ensures_bind updateResult_named ?_
  intro _
  exact Action.ensures_bind (sync_stays named).guards fun _ => updateResult_named

theorem attemptRollback_stays :
    Action.Ensures (Action.Guards Named (Reaches writer.resource)) writer.attemptRollback := by
  refine Action.ensures_bind updateResult_named ?_
  intro _
  refine Action.ensures_bind (Action.ensures_attempt rollback_stays) ?_
  intro outcome
  cases outcome with
  | ok value => exact Action.ensures_pure
  | error error => exact updateResult_named

theorem settle_stays {result : Except Exn Unit} {outcome : Except Exn Unit}
    (settled : Settled before)
    (run : (writer.settle action result).Run before trace outcome after) :
    ∀ event ∈ trace, Reaches writer.resource event.request := by
  cases result with
  | ok value =>
      rw [settle, Action.run_pure] at run
      rcases run with ⟨rfl, _, _⟩
      simp
  | error error =>
      rw [settle, recover, updateResult, Action.run_bind_modifyState,
        Action.run_bind_readState] at run
      split at run
      · rename_i accepted
        exact (attemptRollback_stays _ _ _ _ run (settled accepted.1)).1
      · rw [Action.run_pure] at run
        rcases run with ⟨rfl, _, _⟩
        simp

theorem auditFinal_stays {started : Clock} :
    Action.Ensures (Action.Requests (Reaches writer.resource))
      (writer.auditFinal action payload started) := by
  refine Action.ensures_bind Action.ensures_readState ?_
  intro execution
  refine Action.ensures_bind Action.ensures_ofExcept ?_
  intro hash
  refine Action.ensures_bind (internal_stays readClock_internal).requests ?_
  intro now
  refine Action.ensures_bind
    (Action.ensures_attempt (internal_stays auditAppend_internal).requests) ?_
  intro stored
  cases stored with
  | ok value => exact Action.requests_modifyState
  | error error => exact Action.requests_modifyState

theorem executeLocked_stays (addressed : Addressed action uuid) :
    Action.Ensures (Action.Requests (Reaches writer.resource))
      (writer.executeLocked action payload uuid revision) := by
  refine Action.ensures_bind (internal_stays readClock_internal).requests ?_
  intro started before trace outcome after run
  rw [Action.run_bind_modifyState, Action.run_bind_ofExcept] at run
  rcases run with ⟨expected, _, run⟩ | ⟨error, _, rfl, _⟩
  rotate_left
  · simp [Action.Requests]
  have unchanged : Unchanged uuid (before.begin action uuid) := ⟨rfl, rfl⟩
  rw [Action.run_bind_attempt] at run
  rcases run with ⟨front, result, middle, back, rfl, writing, _, run⟩ | ⟨error, _, writing, _⟩
  · have written := attemptWrite_stays addressed unchanged writing
    refine List.forall_mem_append.mpr ⟨written.1, ?_⟩
    rw [Action.run_bind] at run
    rcases run with ⟨settling, _, settled, rest, rfl, handled, run⟩ | ⟨error, _, handled⟩
    · have reached := settle_stays written.2 handled
      have recorded : Action.Ensures (Action.Requests (Reaches writer.resource))
          (do
            writer.auditFinal action payload started
            let execution ← Action.readState
            return execution.result) := by
        refine Action.ensures_bind auditFinal_stays ?_
        intro _
        exact Action.ensures_bind Action.ensures_readState fun _ => Action.ensures_pure
      exact List.forall_mem_append.mpr ⟨reached, recorded _ _ _ _ run⟩
    · exact settle_stays written.2 handled
  · exact (attemptWrite_stays addressed unchanged writing).1

/-- Under the lock -/
theorem locked_stays (addressed : Addressed action uuid) :
    Action.Ensures (Action.Requests (Reaches writer.resource)) (do
      let _ ← Action.ask (.acquireGuard .writeLocks)
      let lock ← Action.ask (.lockFor .writeLocks writer.lockKey)
      let _ ← Action.ask (.releaseGuard .writeLocks)
      let _ ← Action.ask (.acquire lock)
      (writer.executeLocked action payload uuid revision).finallyDo do
        let _ ← Action.ask (.release lock)) := by
  refine Action.ensures_bind (internal_stays (ask_internal ?_)).requests ?_
  · exact trivial
  intro _
  refine Action.ensures_bind (internal_stays (ask_internal ?_)).requests ?_
  · exact trivial
  intro lock
  refine Action.ensures_bind (internal_stays (ask_internal ?_)).requests ?_
  · exact trivial
  intro _
  refine Action.ensures_bind (internal_stays (ask_internal ?_)).requests ?_
  · exact trivial
  intro _
  refine Action.ensures_finallyDo (executeLocked_stays addressed) ?_
  refine Action.ensures_bind (internal_stays (ask_internal ?_)).requests ?_
  · exact trivial
  intro _
  exact Action.ensures_pure

theorem execute_stays
    (addressed : ∀ checked, checkedUuid action uuid revision = .ok checked →
      Addressed action checked) :
    Action.Ensures (Action.Requests (Reaches writer.resource))
      (writer.execute action payload uuid revision) := by
  intro before trace outcome after run
  rw [execute, Action.run_bind_ofExcept] at run
  rcases run with ⟨checked, valid, run⟩ | ⟨error, _, rfl, _⟩
  · exact locked_stays (addressed checked valid) _ _ _ _ run
  · simp [Action.Requests]

end Execution

end VerifiedFirewallWriter

end OpnsensePlugin

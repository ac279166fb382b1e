import OpnsensePlugin.Management.CrlRuns
import OpnsensePlugin.Management.Views
import OpnsensePlugin.Paths.WriterPaths
import OpnsensePlugin.Routes.FormValues

/-!
# Paths of the administration services

The catalogue engine, the revocation lists and the operations put a validated
or quoted identifier behind a fixed path of their specification, and nothing
else of what the caller gives.
-/

namespace OpnsensePlugin

open Effects Python

namespace Management

/-! ## Catalogue -/

/-- The requests of a specification without an identifier -/
def operationsOf (spec : Spec) : List (Option Str) :=
  [spec.get, spec.search, spec.add, spec.set, spec.delete]

/-- The paths of a specification without an identifier -/
def fixedPaths (spec : Spec) : List Str :=
  (operationsOf spec).filterMap (fun operation => (path spec operation []).toOption) ++
    spec.apply.list

/-- A request to a fixed path of the specification, or to one of its objects -/
abbrev Reaches (spec : Spec) : Request Role → Prop :=
  StaysWithin (fixedPaths spec) IsCanonicalUuid

/-- No identifier yet, or a canonical one -/
def Addresses (uuid : Str) : Prop := uuid = [] ∨ IsCanonicalUuid uuid

section Calls

variable {State : Type} {fixed : List Str} {segment : Str → Prop} {role : Role} {target : Str}

theorem callGet_stays {params : List (Str × Json)} (confined : Confined fixed segment target) :
    Action.Ensures (Action.Observes (StaysWithin fixed segment))
      (callGet role target params : Py Role State Json) := by
  apply Action.ensures_bind
  · apply Action.ensures_ask
    intro state answer
    exact ⟨rfl, by simpa [StaysWithin] using confined⟩
  · intro reply
    exact Action.ensures_ofExcept

theorem callPost_stays {payload : Json} (confined : Confined fixed segment target) :
    Action.Ensures (Action.Observes (StaysWithin fixed segment))
      (callPost role target payload : Py Role State Json) := by
  apply Action.ensures_bind
  · apply Action.ensures_ask
    intro state answer
    exact ⟨rfl, by simpa [StaysWithin] using confined⟩
  · intro reply
    exact Action.ensures_ofExcept

end Calls

section Catalogue

variable {spec : Spec} {operation : Option Str} {uuid target : Str}

theorem path_eq_ok (known : path spec operation uuid = .ok target) :
    ∃ base, path spec operation [] = .ok base ∧
      target = base ++ if !uuid.isEmpty && !spec.singleton then "/" ++ uuid else [] := by
  unfold path at known ⊢
  split at known
  · cases known
  · cases known
  · cases known
    exact ⟨_, rfl, by simp⟩

theorem path_confined (listed : operation ∈ operationsOf spec) (addresses : Addresses uuid)
    (known : path spec operation uuid = .ok target) :
    Confined (fixedPaths spec) IsCanonicalUuid target := by
  rcases path_eq_ok known with ⟨base, plain, rfl⟩
  have fixed : base ∈ fixedPaths spec := by
    refine List.mem_append_left _ (List.mem_filterMap.mpr ⟨operation, listed, ?_⟩)
    rw [plain]
    rfl
  rcases addresses with rfl | canonical
  · exact .inl (by simpa using fixed)
  · split
    · exact .inr ⟨base, fixed, uuid, canonical, by simp⟩
    · exact .inl (by simpa using fixed)

variable {State : Type} {role : Role}

/-- A request to a path that is looked up first -/
theorem located_stays {α : Type} {next : Str → Py Role State α}
    (listed : operation ∈ operationsOf spec) (addresses : Addresses uuid)
    (rest : ∀ target, Confined (fixedPaths spec) IsCanonicalUuid target →
      Action.Ensures (Action.Observes (Reaches spec)) (next target)) :
    Action.Ensures (Action.Observes (Reaches spec))
      (Action.ofExcept (path spec operation uuid) >>= next) := by
  intro before trace outcome after run
  rw [Action.run_bind_ofExcept] at run
  rcases run with ⟨target, known, run⟩ | ⟨error, _, rfl, _, rfl⟩
  · exact rest target (path_confined listed addresses known) _ _ _ _ run
  · exact Action.Composable.refl after

theorem raw_stays (addresses : Addresses uuid) :
    Action.Ensures (Action.Observes (Reaches spec)) (raw spec uuid role : Py Role State Json) := by
  refine located_stays (by simp [operationsOf]) addresses ?_
  intro target confined
  exact Action.ensures_bind (callGet_stays confined) fun _ => Action.ensures_ofExcept

variable [Runtime]

theorem list_stays {page : Nat} :
    Action.Ensures (Action.Observes (Reaches spec))
      (list spec role page : Py Role State Listing) := by
  refine located_stays (by simp [operationsOf]) (.inl rfl) ?_
  intro target confined
  exact Action.ensures_bind (callGet_stays confined) fun _ => Action.ensures_ofExcept

theorem scanPage_stays {present : Exn} {page observed : Nat} :
    Action.Ensures (Action.Observes (Reaches spec))
      (scanPage spec role uuid present page observed : Py Role State ScanProgress) := by
  refine Action.ensures_bind list_stays ?_
  intro listing
  refine Action.ensures_bind Action.ensures_ofExcept ?_
  intro found
  exact Action.ensures_bind Action.ensures_raiseIf fun _ => Action.ensures_pure

theorem scan_stays {present incomplete : Exn} {page observed remaining : Nat} :
    Action.Ensures (Action.Observes (Reaches spec))
      (scan spec role uuid present incomplete page observed remaining : Py Role State Unit) := by
  induction remaining generalizing page observed with
  | zero =>
      refine Action.ensures_bind scanPage_stays ?_
      intro progress
      split
      · exact Action.ensures_pure
      · exact Action.ensures_raise
  | succ remaining ih =>
      refine Action.ensures_bind scanPage_stays ?_
      intro progress
      split
      · exact Action.ensures_pure
      · exact Action.ensures_raise
      · exact ih

end Catalogue

end Management

namespace ManagementService

open Management

variable [Runtime] {service : ManagementService} {spec : Spec} {request : MutateRequest}
  {State : Type} {expected payload : Json} {started : Clock}

theorem audit_internal {action : WriteAction} {uuid result : Str} :
    Action.Ensures (Action.Observes IsInternal)
      (service.audit spec action uuid result payload started : Py Role State Unit) := by
  refine Action.ensures_bind Action.ensures_ofExcept ?_
  intro hash
  refine Action.ensures_bind readClock_internal ?_
  intro now
  refine Action.ensures_bind (Action.ensures_attempt auditAppend_internal) ?_
  intro stored
  cases stored with
  | ok value => exact Action.ensures_pure
  | error error => exact Action.ensures_raise

theorem prepare_stays (addresses : Addresses request.uuid) :
    Action.Ensures (Action.Observes (Reaches spec))
      (service.prepare spec request started : Py Role State (Json × Json)) := by
  refine Action.ensures_bind (raw_stays addresses) ?_
  intro object
  refine Action.ensures_bind Action.ensures_ofExcept ?_
  intro _
  refine Action.ensures_bind Action.ensures_ofExcept ?_
  intro expected
  refine Action.ensures_bind Action.ensures_ofExcept ?_
  intro payload
  exact Action.ensures_bind (internal_stays audit_internal) fun _ => Action.ensures_pure

omit [Runtime] in
theorem singletonUuid_canonical : IsCanonicalUuid singletonUuid := ⟨0, by decide, by decide⟩

/-- The variable has no UUID, or a canonical one. -/
def Located (mutation : Mutation) : Prop := Addresses mutation.uuid

omit [Runtime] in
theorem operation_listed {action : WriteAction} : operation spec action ∈ operationsOf spec := by
  cases action <;> simp [operation, operationsOf]

theorem confirmedUuid_addresses {action : WriteAction} {uuid confirmed : Str} {response : Json}
    (addresses : Addresses uuid) (found : confirmedUuid action uuid response = .ok confirmed) :
    Addresses confirmed := by
  unfold confirmedUuid at found
  split at found
  · rw [bind_eq_ok] at found
    rcases found with ⟨created, _, checked⟩
    cases valid : validateUuid created with
    | error error =>
        rw [valid] at checked
        cases checked
    | ok uuid =>
        rw [valid] at checked
        cases checked
        rcases VerifiedFirewallWriter.validateUuid_eq_ok valid with ⟨_, _, _, _, canonical⟩
        exact .inr canonical
  · cases found
    exact addresses

theorem save_stays (addresses : Addresses request.uuid) :
    Action.Ensures (Action.Guards Located (Reaches spec)) (save spec request payload) := by
  intro before trace outcome after run located
  rw [save, Action.run_bind_ofExcept] at run
  rcases run with ⟨target, known, run⟩ | ⟨error, _, rfl, _, rfl⟩
  rotate_left
  · exact ⟨by simp, located⟩
  have sends : Action.Ensures (Action.Observes (Reaches spec))
      (callPost .client target payload : Py Role Mutation Json) :=
    callPost_stays (path_confined operation_listed addresses known)
  rw [Action.run_bind] at run
  rcases run with ⟨front, response, middle, back, rfl, sent, run⟩ | ⟨error, rfl, sent⟩
  rotate_left
  · have observed := sends _ _ _ _ sent
    exact ⟨observed.2, observed.1 ▸ located⟩
  have observed := sends _ _ _ _ sent
  rw [observed.1] at run
  have rest : back = [] ∧ Located after := by
    rw [Action.run_bind_ofExcept] at run
    rcases run with ⟨_, _, run⟩ | ⟨error, _, rfl, _, rfl⟩
    rotate_left
    · exact ⟨rfl, located⟩
    rw [Action.run_bind_ofExcept] at run
    rcases run with ⟨uuid, found, run⟩ | ⟨error, _, rfl, _, rfl⟩
    rotate_left
    · exact ⟨rfl, located⟩
    rw [Action.run_modifyState] at run
    rcases run with ⟨rfl, _, rfl⟩
    exact ⟨rfl, confirmedUuid_addresses addresses found⟩
  rw [rest.1, List.append_nil]
  exact ⟨observed.2, rest.2⟩

theorem applyAll_stays {targets : List Str} (listed : ∀ target ∈ targets, target ∈ spec.apply.list) :
    Action.Ensures (Action.Observes (Reaches spec)) (applyAll spec targets) := by
  induction targets with
  | nil => exact Action.ensures_pure
  | cons target rest ih =>
      have fixed : target ∈ fixedPaths spec :=
        List.mem_append_right _ (listed target (List.mem_cons_self ..))
      refine Action.ensures_bind (callPost_stays (.inl fixed)) ?_
      intro response
      refine Action.ensures_bind Action.ensures_ofExcept ?_
      intro _
      exact ih fun other member => listed other (List.mem_cons_of_mem _ member)

theorem applyChange_stays :
    Action.Ensures (Action.Guards Located (Reaches spec)) (applyChange spec) := by
  refine Action.ensures_bind Action.ensures_raiseIf ?_
  intro _
  refine Action.ensures_bind (applyAll_stays fun _ member => member).guards ?_
  intro _
  exact Action.guards_modifyState fun _ located => located

theorem readBack_stays {uuid : Str} (addresses : Addresses uuid) :
    Action.Ensures (Action.Observes (Reaches spec)) (readBack spec request expected uuid) := by
  refine Action.ensures_bind (raw_stays addresses) ?_
  intro object
  refine Action.ensures_bind Action.ensures_ofExcept ?_
  intro _
  exact Action.ensures_bind Action.ensures_ofExcept fun _ => Action.ensures_pure

theorem comparePeer_stays {uuid : Str} {actual : Json} (addresses : Addresses uuid) :
    Action.Ensures (Action.Observes (Reaches spec)) (comparePeer spec uuid actual) := by
  refine Action.ensures_bind (raw_stays addresses) ?_
  intro object
  refine Action.ensures_bind Action.ensures_ofExcept ?_
  intro there
  exact Action.ensures_bind Action.ensures_ofExcept fun _ => Action.ensures_raiseIf

theorem verifyChange_stays {uuid : Str} (addresses : Addresses uuid) :
    Action.Ensures (Action.Observes (Reaches spec))
      (service.verifyChange spec request expected uuid) := by
  unfold verifyChange
  split
  · refine Action.ensures_bind scan_stays ?_
    intro _
    split
    · exact scan_stays
    · exact Action.ensures_pure
  · refine Action.ensures_bind (readBack_stays addresses) ?_
    intro actual
    split
    · exact comparePeer_stays addresses
    · exact Action.ensures_pure

theorem attemptMutation_stays (addresses : Addresses request.uuid) :
    Action.Ensures (Action.Guards Located (Reaches spec))
      (service.attemptMutation spec request expected payload started) := by
  refine Action.ensures_bind (save_stays addresses) ?_
  intro _
  refine Action.ensures_bind applyChange_stays ?_
  intro _
  refine Action.guards_readState ?_
  intro mutation located
  refine Action.ensures_bind (verifyChange_stays located).guards ?_
  intro _
  refine Action.ensures_bind (internal_stays audit_internal).guards ?_
  intro _
  exact Action.ensures_bind Action.ensures_ofExcept fun _ => Action.ensures_pure

theorem recover_internal {error : Exn} :
    Action.Ensures (Action.Observes IsInternal)
      (service.recover spec request payload started error) := by
  unfold recover
  split
  · refine Action.ensures_bind Action.ensures_readState ?_
    intro mutation
    refine Action.ensures_bind (Action.ensures_attempt audit_internal) ?_
    intro stored
    cases stored with
    | ok value => exact Action.ensures_raise
    | error error => exact Action.ensures_raise
  · exact Action.ensures_raise

theorem change_stays (addresses : Addresses request.uuid) :
    Action.Ensures (Action.Guards Located (Reaches spec))
      (service.change spec request expected payload started) :=
  Action.ensures_handle (attemptMutation_stays addresses) fun _ =>
    (internal_stays recover_internal).guards

theorem mutateLocked_stays (addresses : Addresses request.uuid) :
    Action.Ensures (Action.Observes (Reaches spec)) (service.mutateLocked spec request) := by
  refine Action.ensures_bind (internal_stays readClock_internal) ?_
  intro started
  refine Action.ensures_bind (prepare_stays addresses) ?_
  rintro ⟨expected, payload⟩
  refine Action.ensures_bind ?_ ?_
  · intro before trace outcome after run
    rw [Action.run_withState] at run
    rcases run with ⟨result, last, run, rfl, _⟩
    exact ⟨rfl, (change_stays addresses _ _ _ _ run addresses).1⟩
  · rintro ⟨result, last⟩
    exact Action.ensures_pure

/-- The identifier of an accepted request is that of its body, checked. -/
theorem accept_eq_ok {body : Json} (accepted : service.accept spec body = .ok request) :
    ∃ fields, body = .obj fields ∧ actionOf fields = some request.action ∧
      identity spec request.action fields = .ok (request.uuid, request.revision) := by
  simp only [accept, bind_eq_ok] at accepted
  rcases accepted with ⟨_, _, accepted⟩
  split at accepted
  · rename_i fields
    split at accepted
    · rename_i action named
      simp only [bind_eq_ok] at accepted
      rcases accepted with ⟨_, _, ⟨uuid, revision⟩, identified, _, _, _, _, same⟩
      cases same
      exact ⟨fields, rfl, named, identified⟩
    · cases accepted
  · cases accepted

theorem identity_eq_ok {action : WriteAction} {fields : List (Str × Json)} {uuid revision : Str}
    (identified : identity spec action fields = .ok (uuid, revision)) :
    (action = .create ∧ uuid = []) ∨
      (action ≠ .create ∧ validateUuid (fieldD fields "uuid" .null) = .ok uuid) := by
  unfold identity at identified
  split at identified
  · rename_i creates
    cases identified
    exact .inl ⟨creates, rfl⟩
  · rename_i changes
    simp only [bind_eq_ok] at identified
    rcases identified with ⟨checked, valid, _, _, _, _, same⟩
    cases same
    cases found : validateUuid (fieldD fields "uuid" .null) with
    | error error =>
        rw [found] at valid
        cases valid
    | ok uuid =>
        rw [found] at valid
        cases valid
        exact .inr ⟨changes, rfl⟩

theorem accept_addresses {body : Json} (accepted : service.accept spec body = .ok request) :
    Addresses request.uuid := by
  rcases accept_eq_ok accepted with ⟨fields, _, _, identified⟩
  rcases identity_eq_ok identified with ⟨_, none⟩ | ⟨_, valid⟩
  · exact .inl none
  · rcases VerifiedFirewallWriter.validateUuid_eq_ok valid with ⟨_, _, _, _, canonical⟩
    exact .inr canonical

/-- Under the lock -/
theorem locked_stays (addresses : Addresses request.uuid) :
    Action.Ensures (Action.Observes (Reaches spec)) (do
      let _ ← Action.ask (.acquireGuard .managementLocks)
      let lock ← Action.ask (.lockFor .managementLocks (service.lockKey spec))
      let _ ← Action.ask (.releaseGuard .managementLocks)
      let _ ← Action.ask (.acquire lock)
      (service.mutateLocked spec request).finallyDo do
        let _ ← Action.ask (.release lock)) := by
  refine Action.ensures_bind (internal_stays (ask_internal ?_)) ?_
  · exact trivial
  intro _
  refine Action.ensures_bind (internal_stays (ask_internal ?_)) ?_
  · exact trivial
  intro lock
  refine Action.ensures_bind (internal_stays (ask_internal ?_)) ?_
  · exact trivial
  intro _
  refine Action.ensures_bind (internal_stays (ask_internal ?_)) ?_
  · exact trivial
  intro _
  refine Action.ensures_finallyDo (mutateLocked_stays addresses) ?_
  refine Action.ensures_bind (internal_stays (ask_internal ?_)) ?_
  · exact trivial
  intro _
  exact Action.ensures_pure

theorem mutate_stays {body : Json} :
    Action.Ensures (Action.Observes (Reaches spec)) (service.mutate spec body) := by
  intro before trace outcome after run
  rw [mutate, Action.run_bind_ofExcept] at run
  rcases run with ⟨request, accepted, run⟩ | ⟨error, _, rfl, _, rfl⟩
  · exact locked_stays (accept_addresses accepted) _ _ _ _ run
  · exact Action.Composable.refl after

/-! ## Pages -/

omit [Runtime] in
/-- A singleton is read under its fixed identifier, other objects under the given one. -/
theorem singleton_addresses {known found : Option Str} {refused : Exn}
    (addresses : Addresses (known.getD []))
    (chosen : (if spec.singleton then do
        raiseIf (known.any (· ≠ singletonUuid)) refused
        return some singletonUuid
      else return known : Except Exn (Option Str)) = .ok found) :
    Addresses (found.getD []) := by
  split at chosen
  · simp only [bind_eq_ok, pure_eq_ok] at chosen
    rcases chosen with ⟨_, _, rfl⟩
    exact .inr singletonUuid_canonical
  · cases chosen
    exact addresses

theorem detailUuid_eq_ok {given : Option Json} {found : Option Str}
    (checked : detailUuid spec given = .ok found) :
    (∀ uuid, given = some uuid → ∃ text, validateUuid uuid = .ok text) ∧
      Addresses (found.getD []) := by
  cases given with
  | none => exact ⟨by simp, singleton_addresses (.inl rfl) checked⟩
  | some uuid =>
      simp only [detailUuid, bind_eq_ok, pure_eq_ok] at checked
      rcases checked with ⟨text, valid, _, rfl, checked⟩
      cases known : validateUuid uuid with
      | error error =>
          rw [known] at valid
          cases valid
      | ok canonicalText =>
          rw [known] at valid
          cases valid
          rcases VerifiedFirewallWriter.validateUuid_eq_ok known with ⟨_, _, _, _, canonical⟩
          have addresses : Addresses ((some text).getD []) := .inr canonical
          refine ⟨fun other same => ?_, singleton_addresses addresses checked⟩
          cases same
          exact ⟨text, known⟩

theorem detail_stays {uuid : Option Json} :
    Action.Ensures (Action.Observes (Reaches spec)) (detail spec uuid : Py Role State DetailView) := by
  intro before trace outcome after run
  rw [detail, Action.run_bind_ofExcept] at run
  rcases run with ⟨found, checked, run⟩ | ⟨error, _, rfl, _, rfl⟩
  · have reads : Action.Ensures (Action.Observes (Reaches spec)) (do
        let object ← raw spec (found.getD []) .client
        Action.ofExcept (Management.detailOf spec found object) : Py Role State DetailView) :=
      Action.ensures_bind (raw_stays (detailUuid_eq_ok checked).2) fun _ => Action.ensures_ofExcept
    exact reads _ _ _ _ run
  · exact Action.Composable.refl after

theorem listPage_stays {page rowCount search : Json} :
    Action.Ensures (Action.Observes (Reaches spec))
      (listPage spec page rowCount search : Py Role State PageView) := by
  refine Action.ensures_bind Action.ensures_ofExcept ?_
  rintro ⟨page, rowCount, search⟩
  dsimp only
  split
  · exact Action.ensures_bind detail_stays fun _ => Action.ensures_pure
  · refine located_stays (by simp [operationsOf]) (.inl rfl) ?_
    intro target confined
    refine Action.ensures_bind (callGet_stays confined) ?_
    intro out
    exact Action.ensures_bind Action.ensures_ofExcept fun _ => Action.ensures_pure

end ManagementService

namespace CrlService

open Management

/-! ## Revocation lists -/

/-- The paths of the revocation lists without a reference -/
def fixedPaths : List Str := [base ++ "search", base ++ "get", base ++ "set", base ++ "del"]

/-- A request to a fixed path of the lists, or to the list of one CA -/
abbrev Reaches : Request Role → Prop := StaysWithin fixedPaths fun text => isRefid text = true

variable {State : Type} {caref : Str}

theorem refid_eq_ok {value : Json} (checked : refid value = .ok caref) :
    value = .str caref ∧ isRefid caref = true := by
  unfold refid at checked
  split at checked
  · split at checked
    · rename_i valid
      cases checked
      exact ⟨rfl, valid⟩
    · cases checked
  · cases checked

/-- `operation ++ "/" ++ caref` behind the base -/
theorem listPath_confined {operation slashed : Str} (joined : slashed = operation ++ "/")
    (listed : base ++ operation ∈ fixedPaths) (valid : isRefid caref = true) :
    Confined fixedPaths (fun text => isRefid text = true) (base ++ slashed ++ caref) :=
  .inr ⟨_, listed, caref, valid, by simp [joined]⟩

theorem raw_stays (valid : isRefid caref = true) :
    Action.Ensures (Action.Observes Reaches) (raw caref : Py Role State CrlState) := by
  have confined : Confined fixedPaths (fun text => isRefid text = true) (base ++ "get/" ++ caref) :=
    @listPath_confined caref "get" "get/" (by decide) (by simp [fixedPaths]) valid
  exact Action.ensures_bind (callGet_stays confined) fun _ => Action.ensures_ofExcept

theorem recordSent_internal {entry : Clock → AuditEntry} {failure : Str} :
    Action.Ensures (Action.Observes IsInternal) (recordSent entry failure) := by
  refine Action.ensures_bind (Action.ensures_attempt auditRecord_internal) ?_
  intro stored
  cases stored with
  | ok value => exact Action.ensures_pure
  | error error => exact Action.ensures_bind Action.ensures_readState fun _ => Action.ensures_raise

variable [Runtime] {change : CrlChange} {service : CrlService}

theorem confirm_stays (valid : isRefid change.request.caref = true) :
    Action.Ensures (Action.Requests Reaches) (confirm change) := by
  refine Action.ensures_bind (raw_stays valid).requests ?_
  intro after
  refine Action.ensures_bind Action.ensures_ofExcept ?_
  intro same
  refine Action.ensures_bind Action.ensures_raiseIf ?_
  intro _
  exact (internal_stays recordSent_internal).requests

theorem attemptChange_stays (valid : isRefid change.request.caref = true) :
    Action.Ensures (Action.Requests Reaches) (attemptChange change) := by
  refine Action.ensures_bind Action.requests_modifyState ?_
  intro _
  have confined : Confined fixedPaths (fun text => isRefid text = true) (base ++
      (if (change.request.action = .delete : Bool) then "del/" else "set/") ++
        change.request.caref) := by
    split
    · exact @listPath_confined _ "del" "del/" (by decide) (by simp [fixedPaths]) valid
    · exact @listPath_confined _ "set" "set/" (by decide) (by simp [fixedPaths]) valid
  refine Action.ensures_bind (callPost_stays confined).requests ?_
  intro response
  refine Action.ensures_bind Action.ensures_ofExcept ?_
  intro _
  exact Action.ensures_bind (confirm_stays valid) fun _ => Action.ensures_pure

omit [Runtime] in
theorem recoverChange_internal {error : Exn} :
    Action.Ensures (Action.Observes IsInternal) (recoverChange change error) := by
  unfold recoverChange
  split
  · refine Action.ensures_bind (Action.ensures_attempt ?_) ?_
    · split
      · exact Action.ensures_pure
      · exact recordSent_internal
    · intro stored
      cases stored with
      | ok value => exact Action.ensures_raise
      | error error => exact Action.ensures_raise
  · exact Action.ensures_raise

theorem runChange_stays {request : CrlRequest} (valid : isRefid request.caref = true) :
    Action.Ensures (Action.Requests Reaches) (service.runChange request) := by
  refine Action.ensures_bind (internal_stays readClock_internal).requests ?_
  intro started before trace outcome after run
  rw [Action.run_bind] at run
  have prepares : Action.Ensures (Action.Requests Reaches)
      (service.prepareChange request started) := by
    refine Action.ensures_bind (raw_stays valid).requests ?_
    intro current
    refine Action.ensures_bind Action.ensures_ofExcept ?_
    intro _
    refine Action.ensures_bind Action.ensures_ofExcept ?_
    intro payload
    exact Action.ensures_bind Action.ensures_ofExcept fun _ => Action.ensures_pure
  rcases run with ⟨front, change, middle, back, rfl, prepared, run⟩ | ⟨error, _, prepared⟩
  · have known : change.request = request := (prepareChange_run prepared).2 change rfl
    have changes : Action.Ensures (Action.Requests Reaches) (do
        record change "attempt"
        (attemptChange change).handle (recoverChange change)) := by
      refine Action.ensures_bind (internal_stays recordSent_internal).requests ?_
      intro _
      exact Action.ensures_handle (attemptChange_stays (known ▸ valid)) fun _ =>
        (internal_stays recoverChange_internal).requests
    exact Action.Composable.trans (prepares _ _ _ _ prepared) (changes _ _ _ _ run)
  · exact prepares _ _ _ _ prepared

omit [Runtime] in
/-- The reference of an accepted change is that of the body. -/
theorem accept_eq_ok {body : Json} {request : CrlRequest}
    (accepted : service.accept body = .ok request) :
    ∃ fields, body = .obj fields ∧ fieldD fields "uuid" .null = .str request.caref ∧
      isRefid request.caref = true := by
  simp only [accept, bind_eq_ok] at accepted
  rcases accepted with ⟨_, _, accepted⟩
  split at accepted
  · rename_i fields
    split at accepted
    · simp only [bind_eq_ok] at accepted
      rcases accepted with ⟨caref, checked, accepted⟩
      split at accepted
      · simp only [bind_eq_ok, pure_eq_ok] at accepted
        rcases accepted with ⟨_, _, rfl⟩
        exact ⟨fields, rfl, refid_eq_ok checked⟩
      · cases accepted
    · cases accepted
  · cases accepted

theorem mutate_stays {body : Json} :
    Action.Ensures (Action.Observes Reaches) (service.mutate body) := by
  intro before trace outcome after run
  rw [mutate, Action.run_bind_ofExcept] at run
  rcases run with ⟨request, accepted, run⟩ | ⟨error, _, rfl, _, rfl⟩
  · rcases accept_eq_ok accepted with ⟨_, _, _, valid⟩
    exact Action.ensures_bind (Action.observes_withState (runChange_stays valid))
      (fun _ => Action.ensures_pure) _ _ _ _ run
  · exact Action.Composable.refl after

theorem detail_stays {given : Json} :
    Action.Ensures (Action.Observes Reaches) (detail given : Py Role State CrlView) := by
  intro before trace outcome after run
  rw [detail, Action.run_bind_ofExcept] at run
  rcases run with ⟨caref, checked, run⟩ | ⟨error, _, rfl, _, rfl⟩
  · have reads : Action.Ensures (Action.Observes Reaches) (do
        let state ← raw caref
        let revision ← Action.ofExcept (hashPayload state.json)
        return ⟨setField "uuid" caref state.item, state.choices, revision,
          !(state.text "descr").isEmpty⟩ : Py Role State CrlView) := by
      refine Action.ensures_bind (raw_stays (refid_eq_ok checked).2) ?_
      intro state
      exact Action.ensures_bind Action.ensures_ofExcept fun _ => Action.ensures_pure
    exact reads _ _ _ _ run
  · exact Action.Composable.refl after

theorem listPage_stays {page rowCount search : Json} :
    Action.Ensures (Action.Observes Reaches)
      (listPage page rowCount search : Py Role State PageView) := by
  refine Action.ensures_bind Action.ensures_ofExcept ?_
  rintro ⟨page, rowCount, search⟩
  refine Action.ensures_bind (callGet_stays (.inl (by simp [fixedPaths]))) ?_
  intro out
  exact Action.ensures_ofExcept

end CrlService

/-! ## Operations -/

/-- The paths of an operation without an identifier -/
def OperationSpec.fixedPaths (spec : OperationSpec) : List Str :=
  spec.path :: (spec.verify.map StatusCheck.path).toList

section

variable [Runtime]

/-- The quoted identifier of a job or a session -/
def IsOperationSegment (segment : Str) : Prop := IsJobSegment segment ∨ IsSessionSegment segment

/-- A request to a fixed path of the operation, or to one of its jobs or sessions -/
abbrev OperationSpec.Reaches (spec : OperationSpec) : Request Role → Prop :=
  StaysWithin spec.fixedPaths IsOperationSegment

end

namespace Management

section

variable [Runtime] {spec : OperationSpec} {call : OperationCall} {target : Str}
  {payload : List (Str × Json)}

omit [Runtime] in
theorem record_internal {result detail : Str} :
    Action.Ensures (Action.Observes IsInternal) (recordPost call result detail) := by
  unfold recordPost
  split
  · exact CrlService.recordSent_internal
  · exact Action.ensures_pure

theorem sendOperation_stays
    (confined : Confined spec.fixedPaths IsOperationSegment target) :
    Action.Ensures (Action.Requests spec.Reaches)
      (sendOperation spec target payload) := by
  unfold sendOperation
  split
  · refine Action.ensures_bind Action.requests_modifyState ?_
    intro _
    exact (callPost_stays confined).requests
  · exact (callGet_stays confined).requests

theorem readStatus_stays :
    Action.Ensures (Action.Requests spec.Reaches) (readStatus spec) := by
  unfold readStatus
  split
  · exact Action.ensures_pure
  · rename_i check read
    have fixed : check.path ∈ spec.fixedPaths := by
      simp [OperationSpec.fixedPaths, read]
    refine Action.ensures_bind (callGet_stays (.inl fixed)).requests ?_
    intro status
    exact Action.ensures_bind Action.ensures_ofExcept fun _ => Action.ensures_pure

theorem attemptOperation_stays
    (confined : Confined call.spec.fixedPaths IsOperationSegment target) :
    Action.Ensures (Action.Requests call.spec.Reaches)
      (attemptOperation call target payload) := by
  refine Action.ensures_bind (sendOperation_stays confined) ?_
  intro response
  refine Action.ensures_bind Action.ensures_ofExcept ?_
  intro _
  refine Action.ensures_bind readStatus_stays ?_
  intro status
  refine Action.ensures_bind Action.ensures_ofExcept ?_
  intro result
  exact Action.ensures_bind (internal_stays record_internal).requests fun _ => Action.ensures_pure

omit [Runtime] in
theorem recoverOperation_internal {error : Exn} :
    Action.Ensures (Action.Observes IsInternal) (recoverOperation call error) := by
  unfold recoverOperation
  split
  · refine Action.ensures_bind Action.ensures_readState ?_
    intro posted
    refine Action.ensures_bind (Action.ensures_attempt ?_) ?_
    · split
      · exact CrlService.recordSent_internal
      · exact Action.ensures_pure
    · intro stored
      cases stored with
      | ok value => exact Action.ensures_raise
      | error error => exact Action.ensures_raise
  · exact Action.ensures_raise

theorem runOperation_stays
    (confined : Confined call.spec.fixedPaths IsOperationSegment target) :
    Action.Ensures (Action.Requests call.spec.Reaches)
      (runOperation call target payload) := by
  refine Action.ensures_bind (internal_stays record_internal).requests ?_
  intro _
  exact Action.ensures_handle (attemptOperation_stays confined) fun _ =>
    (internal_stays recoverOperation_internal).requests

/-! ## The identifier of an operation -/

/-- The kinds of fields that a path takes -/
def IsIdentifierKind : ValueKind → Prop
  | .uuid | .identifier => True
  | _ => False

instance : DecidablePred IsIdentifierKind := fun kind =>
  match kind with
  | .uuid | .identifier => .isTrue trivial
  | .integer _ _ | .ip | .hostname | .select _ => .isFalse id

/-- What an identifier of an operation may be -/
def IsIdentifierOf : ValueKind → Json → Prop
  | .uuid, .str text => IsJobId text
  | .identifier, .str text => isIdentifier text = true
  | _, _ => False

theorem operationValue_identifier {kind : ValueKind} {value checked : Json}
    (identifier : IsIdentifierKind kind) (valid : operationValue kind value = .ok checked) :
    checked = value ∧ IsIdentifierOf kind value := by
  cases kind with
  | uuid =>
      cases value with
      | str text =>
          simp only [operationValue, checkText, bind_eq_ok, pure_eq_ok] at valid
          rcases valid with ⟨_, _, _, checkedText, rfl⟩
          split at checkedText
          · rename_i uuid canonical
            rcases VerifiedFirewallWriter.validateUuid_eq_ok canonical with
              ⟨_, same, parsed, lowered, named⟩
            cases same
            exact ⟨rfl, parsed, lowered ▸ named⟩
          · split at checkedText <;> cases checkedText
      | _ => cases valid
  | identifier =>
      cases value with
      | str text =>
          simp only [operationValue, checkText, bind_eq_ok, raiseIf_eq_ok, pure_eq_ok] at valid
          rcases valid with ⟨_, _, _, checkedText, rfl⟩
          exact ⟨rfl, by simpa [IsIdentifierOf] using checkedText⟩
      | _ => cases valid
  | _ => exact identifier.elim

theorem identifier_segment {kind : ValueKind} {text segment : Str}
    (identifier : IsIdentifierKind kind) (valid : IsIdentifierOf kind (.str text))
    (quoted : quote text = .ok segment) : IsOperationSegment segment := by
  cases kind with
  | uuid => exact .inl ⟨text, valid, quoted⟩
  | identifier => exact .inr ⟨text, valid, quoted⟩
  | _ => exact identifier.elim

/-- Every value that is kept was checked as a value of its field. -/
theorem operationValues_checked {values : List (Str × Json)} {fields : List OperationField}
    {start result : List (Str × Json)} {name : Str} {value : Json}
    (folded : fields.foldlM (fun result item => do
      let value := fieldD values item.name item.default
      if isBlank value then
        raiseIf item.required (badRequest "Falta un campo obligatorio.")
        return result
      else
        let checked ← operationValue item.kind value
        return setField item.name checked result) start = .ok result)
    (found : field result name = some value) :
    field start name = some value ∨ ∃ item ∈ fields, item.name = name ∧
      operationValue item.kind (fieldD values item.name item.default) = .ok value := by
  induction fields generalizing start with
  | nil =>
      cases folded
      exact .inl found
  | cons item rest ih =>
      rw [List.foldlM_cons, bind_eq_ok] at folded
      rcases folded with ⟨middle, step, folded⟩
      rcases ih folded with earlier | ⟨other, member, known⟩
      rotate_left
      · exact .inr ⟨other, List.mem_cons_of_mem _ member, known⟩
      dsimp only at step
      split at step
      · simp only [bind_eq_ok, pure_eq_ok] at step
        rcases step with ⟨_, _, rfl⟩
        exact .inl earlier
      · simp only [bind_eq_ok, pure_eq_ok] at step
        rcases step with ⟨checked, valid, rfl⟩
        rw [field_setField] at earlier
        split at earlier
        · rename_i same
          cases earlier
          exact .inr ⟨item, List.mem_cons_self .., same.symm, valid⟩
        · exact .inl earlier

omit [Runtime] in
/-- An identifier in a path is that of a job or a session, and must be given. -/
theorem segment_fields : ∀ spec ∈ operations, ∀ name ∈ spec.segment, ∀ item ∈ spec.fields,
    item.name = name → IsIdentifierKind item.kind ∧ item.default matches .null := by
  decide +kernel

/-- The identifier that the path of an operation takes from the given values -/
def NamesObject (spec : OperationSpec) (fields : List (Str × Json)) : Prop :=
  ∀ name ∈ spec.segment, ∃ item ∈ spec.fields, item.name = name ∧
    IsIdentifierOf item.kind (fieldD fields name .null)

/-- The path of an operation is fixed, or has the quoted identifier behind it. -/
theorem planOperation_eq_ok {operation values : Json}
    (planned : planOperation operation values = .ok (spec, target, payload)) :
    (operations.find? fun spec => operation.isText spec.id) = some spec ∧
      (∃ fields, values = .obj fields ∧ NamesObject spec fields) ∧
      Confined spec.fixedPaths IsOperationSegment target := by
  unfold planOperation at planned
  split at planned
  · cases planned
  rename_i known found
  simp only [bind_eq_ok, pure_eq_ok] at planned
  rcases planned with ⟨checked, valued, ⟨path, rest⟩, located, same⟩
  cases same
  refine ⟨found, ?_⟩
  have member := List.mem_of_find?_eq_some found
  cases values with
  | obj fields =>
      simp only [operationValues, bind_eq_ok] at valued
      rcases valued with ⟨_, _, folded⟩
      unfold operationTarget at located
      split at located
      · rename_i plain
        cases located
        refine ⟨⟨fields, rfl, ?_⟩, .inl (by simp [OperationSpec.fixedPaths])⟩
        intro name named
        rw [plain] at named
        cases named
      · rename_i name named
        split at located
        · cases located
        · rename_i text kept
          simp only [bind_eq_ok, pure_eq_ok] at located
          rcases located with ⟨segment, quoted, same⟩
          cases same
          rcases operationValues_checked folded kept with impossible | ⟨item, listed, rfl, valid⟩
          · cases impossible
          have table := segment_fields _ member _ named item listed rfl
          have absent : item.default = .null := by
            cases default : item.default <;> simp_all
          rcases operationValue_identifier table.1 valid with ⟨given, identifier⟩
          rw [absent] at given identifier
          refine ⟨⟨fields, rfl, ?_⟩, .inr ⟨_, List.mem_cons_self .., segment, ?_, rfl⟩⟩
          · intro name other
            rw [named] at other
            cases other
            exact ⟨item, listed, rfl, identifier⟩
          · rw [← given] at identifier
            exact identifier_segment table.1 identifier quoted
        · cases located
  | _ => cases valued

end

end Management

end OpnsensePlugin

import OpnsensePlugin.Paths.ManagementPaths

/-!
# Calls of the catalogue-driven API

Whatever a caller sends, each request goes to a fixed path of the resource, the
specification or the operation, or to one with a single checked segment behind
it. An identifier that is no such segment is refused before the first request.
-/

namespace OpnsensePlugin

open Effects Python

/-- A call of the API, with what the caller controls and the configuration it runs under -/
inductive ApiCall
  | firewallList (host : Host) (resource : Resource) (summary : Bool)
  | firewallDetail (host : Host) (resource : Resource) (uuid : Json)
  | firewallAction (settings : FirewallSettings) (resource : Resource) (body : Json)
  | managementList (spec : Spec) (page rowCount search : Json)
  | managementDetail (spec : Spec) (uuid : Option Json)
  | managementMutate (service : ManagementService) (spec : Spec) (body : Json)
  | crlList (page rowCount search : Json)
  | crlDetail (caref : Json)
  | crlMutate (service : CrlService) (body : Json)
  | operate (client : Host) (actor : Str) (operation values : Json)

namespace ApiCall

/-- The specification of an operation that exists -/
def operationSpec (operation : Json) : Option OperationSpec :=
  operations.find? fun spec => operation.isText spec.id

/-- The paths of a call without an identifier -/
def fixedPaths : ApiCall → List Str
  | firewallList _ resource _ | firewallDetail _ resource _ | firewallAction _ resource _ =>
      VerifiedFirewallWriter.fixedPaths resource
  | managementList spec _ _ _ | managementDetail spec _ | managementMutate _ spec _ =>
      Management.fixedPaths spec
  | crlList _ _ _ | crlDetail _ | crlMutate _ _ => CrlService.fixedPaths
  | operate _ _ operation _ => ((operationSpec operation).map OperationSpec.fixedPaths).getD []

variable [Runtime]

/-- What may follow a fixed path of a call -/
def IsIdentifier : ApiCall → Str → Prop
  | crlList _ _ _ | crlDetail _ | crlMutate _ _ => fun text => CrlService.isRefid text = true
  | operate _ _ _ _ => IsOperationSegment
  | _ => IsCanonicalUuid

/-- A text that is a canonical UUID but for the case of its letters -/
def IsUuid (value : Json) : Prop := ∃ text, value = .str text ∧ IsCanonicalUuid (Runtime.lower text)

/-- The reference of a CA -/
def IsReference (value : Json) : Prop :=
  ∃ text, value = .str text ∧ CrlService.isRefid text = true

/-- The call needs an identifier, and what it was given is none. -/
def Misnamed : ApiCall → Prop
  | firewallDetail _ _ uuid => ¬ IsUuid uuid
  | firewallAction _ _ body => ∃ fields action, body = .obj fields ∧
      FirewallRoute.actionOf fields = some action ∧ action ≠ .create ∧
        ¬ IsUuid (fieldD fields "uuid" .null)
  | managementDetail _ uuid => ∃ given, uuid = some given ∧ ¬ IsUuid given
  | managementMutate _ _ body => ∃ fields action, body = .obj fields ∧
      ManagementService.actionOf fields = some action ∧ action ≠ .create ∧
        ¬ IsUuid (fieldD fields "uuid" .null)
  | crlDetail caref => ¬ IsReference caref
  | crlMutate _ body => ∃ fields, body = .obj fields ∧ ¬ IsReference (fieldD fields "uuid" .null)
  | operate _ _ operation values => ∃ spec fields, operationSpec operation = some spec ∧
      values = .obj fields ∧ ¬ Management.NamesObject spec fields
  | _ => False

/-- The status of the response; errors of the administration services are raised. -/
def run : ApiCall → Py Role Unit Nat
  | firewallList host resource summary => do
      let response ← FirewallRoute.listPayload host resource summary
      return response.1
  | firewallDetail host resource uuid => do
      let response ← FirewallRoute.detailPayload host resource uuid
      return response.1
  | firewallAction settings resource body => do
      let response ← FirewallRoute.actionPayload settings resource body
      return response.1
  | managementList spec page rowCount search => do
      let _ ← ManagementService.listPage spec page rowCount search
      return 200
  | managementDetail spec uuid => do
      let _ ← ManagementService.detail spec uuid
      return 200
  | managementMutate service spec body => do
      let _ ← service.mutate spec body
      return 200
  | crlList page rowCount search => do
      let _ ← CrlService.listPage page rowCount search
      return 200
  | crlDetail caref => do
      let _ ← CrlService.detail caref
      return 200
  | crlMutate service body => do
      let _ ← service.mutate body
      return 200
  | operate client actor operation values => do
      let _ ← Management.executeOperation client actor operation values
      return 200

/-- What may follow a fixed path is one segment. -/
theorem isSegment {call : ApiCall} {text : Str} (identifier : call.IsIdentifier text) :
    IsSegment text := by
  cases call with
  | crlList | crlDetail | crlMutate => exact isSegment_of_isRefid identifier
  | operate =>
      rcases identifier with job | session
      · exact job.isSegment
      · exact session.isSegment
  | _ => exact IsCanonicalUuid.isSegment identifier

end ApiCall

/-! ## Requests of the firewall routes -/

namespace FirewallRoute

variable [Runtime] {State : Type} {host : Host} {resource : Resource} {settings : FirewallSettings}

open VerifiedFirewallWriter

theorem listedItem_stays {summary : Bool} {row : Row} :
    Action.Ensures (Action.Observes (Reaches resource))
      (listedItem host resource summary row : Py Role State (List (Str × Json))) := by
  unfold listedItem
  split
  · exact Action.ensures_bind Action.ensures_ofExcept fun _ => Action.ensures_pure
  · rename_i uuid valid
    rcases validateUuid_eq_ok valid with ⟨_, _, _, _, canonical⟩
    split
    · exact Action.ensures_bind Action.ensures_ofExcept fun _ => Action.ensures_pure
    · have reads := @get_stays _ State (reader host resource) .client _ canonical
      exact Action.ensures_bind reads fun _ => Action.ensures_ofExcept

theorem listedItems_stays {summary : Bool} {rows : List Row} :
    Action.Ensures (Action.Observes (Reaches resource))
      (listedItems host resource summary rows : Py Role State (List Json)) := by
  induction rows with
  | nil => exact Action.ensures_pure
  | cons row rest ih =>
      refine Action.ensures_bind listedItem_stays ?_
      intro item
      exact Action.ensures_bind ih fun _ => Action.ensures_pure

theorem listPayload_stays {summary : Bool} :
    Action.Ensures (Action.Observes (Reaches resource))
      (listPayload host resource summary : Py Role State Response) := by
  refine Action.ensures_bind (Action.ensures_attempt ?_) ?_
  · refine Action.ensures_bind Action.ensures_ofExcept ?_
    intro _
    have searches := @search_stays _ State (reader host resource) .client
    exact Action.ensures_bind searches fun _ => listedItems_stays
  · intro outcome
    cases outcome with
    | ok items => exact Action.ensures_pure
    | error error => exact Action.ensures_pure

theorem detailPayload_stays {uuid : Json} :
    Action.Ensures (Action.Observes (Reaches resource))
      (detailPayload host resource uuid : Py Role State Response) := by
  unfold detailPayload
  split
  · exact Action.ensures_pure
  · rename_i uuid valid
    rcases validateUuid_eq_ok valid with ⟨_, _, _, _, canonical⟩
    refine Action.ensures_bind (Action.ensures_attempt ?_) ?_
    · refine Action.ensures_bind Action.ensures_ofExcept ?_
      intro _
      have reads := @get_stays _ State (reader host resource) .client _ canonical
      exact Action.ensures_bind reads fun _ => Action.ensures_ofExcept
    · intro outcome
      cases outcome with
      | ok item => exact Action.ensures_pure
      | error error => exact Action.ensures_pure

/-- A create has no UUID; that of an update or a delete is checked. -/
theorem actionRequest_eq_ok {body : Json} {request : ActionRequest}
    (accepted : actionRequest resource body = .ok request) :
    ∃ fields, body = .obj fields ∧ actionOf fields = some request.action ∧
      (request.action = .create → request.uuid = []) ∧
      (request.action ≠ .create → validateUuid (fieldD fields "uuid" .null) = .ok request.uuid) := by
  cases body with
  | obj fields =>
      unfold actionRequest at accepted
      dsimp only at accepted
      split at accepted
      · cases accepted
      · rename_i action named
        cases action with
        | create =>
            simp only [reduceCtorEq, if_true, if_false, bind_eq_ok, pure_eq_ok] at accepted
            rcases accepted with ⟨_, rfl, _, rfl, payload, _, rfl⟩
            exact ⟨fields, rfl, named, fun _ => rfl, fun other => absurd rfl other⟩
        | update =>
            simp only [reduceCtorEq, if_false, bind_eq_ok, pure_eq_ok] at accepted
            rcases accepted with ⟨uuid, valid, revision, _, payload, _, rfl⟩
            exact ⟨fields, rfl, named, by simp, fun _ => valid⟩
        | delete =>
            simp only [reduceCtorEq, if_true, if_false, bind_eq_ok, pure_eq_ok] at accepted
            rcases accepted with ⟨uuid, valid, revision, _, payload, _, rfl⟩
            exact ⟨fields, rfl, named, by simp, fun _ => valid⟩
  | _ => cases accepted

theorem attemptAction_stays {body : Json} :
    Action.Ensures (Action.Observes (Reaches resource))
      (attemptAction settings resource body : Py Role State ExecuteResult) := by
  intro before trace outcome after run
  rw [attemptAction, Action.run_bind_ofExcept] at run
  rcases run with ⟨request, accepted, run⟩ | ⟨error, _, rfl, _, rfl⟩
  rotate_left
  · exact Action.Composable.refl after
  have addressed : ∀ checked, checkedUuid request.action request.uuid request.revision = .ok checked →
      Addressed request.action checked := by
    intro checked valid
    unfold checkedUuid at valid
    split at valid
    · rename_i creates
      cases valid
      rcases actionRequest_eq_ok accepted with ⟨_, _, _, none, _⟩
      rw [Addressed, if_pos creates]
      exact none creates
    · rename_i changes
      simp only [bind_eq_ok, pure_eq_ok] at valid
      rcases valid with ⟨uuid, valid, _, _, rfl⟩
      rcases validateUuid_eq_ok valid with ⟨_, _, _, _, canonical⟩
      rw [Addressed, if_neg changes]
      exact canonical
  have requests := @execute_stays _ (writerOf settings resource) request.uuid request.action
    request.payload request.revision addressed
  refine Action.ensures_bind Action.ensures_ofExcept (fun _ => ?_) _ _ _ _ run
  exact Action.ensures_bind (Action.observes_withState requests) fun _ => Action.ensures_pure

theorem actionPayload_stays {body : Json} :
    Action.Ensures (Action.Observes (Reaches resource))
      (actionPayload settings resource body : Py Role State Response) := by
  unfold actionPayload
  split
  · exact Action.ensures_pure
  · refine Action.ensures_bind (Action.ensures_attempt attemptAction_stays) ?_
    intro outcome
    cases outcome with
    | ok result => exact Action.ensures_pure
    | error error => exact Action.ensures_pure

end FirewallRoute

/-! ## Refusals -/

section Refusals

variable {State α β : Type} {before after : State} {trace : Trace Role}

/-- A check that no value passes ends the run before its first request. -/
theorem refused_run {check : Except Exn α} {next : α → Py Role State β} {outcome : Except Exn β}
    (refuses : ∀ value, check ≠ .ok value)
    (run : (Action.ofExcept check >>= next).Run before trace outcome after) :
    trace = [] ∧ ∃ error, outcome = .error error := by
  rw [Action.run_bind_ofExcept] at run
  rcases run with ⟨value, passed, _⟩ | ⟨error, _, rfl, rfl, _⟩
  · exact absurd passed (refuses value)
  · exact ⟨rfl, error, rfl⟩

end Refusals

namespace ApiCall

variable [Runtime] {trace : Trace Role}

theorem isUuid_of_valid {value : Json} {uuid : Str} (valid : validateUuid value = .ok uuid) :
    IsUuid value := by
  rcases VerifiedFirewallWriter.validateUuid_eq_ok valid with ⟨text, same, _, rfl, canonical⟩
  exact ⟨text, same, canonical⟩

theorem firewallDetail_refused {host : Host} {resource : Resource} {uuid : Json}
    {outcome : Except Exn Response} (misnamed : ¬ IsUuid uuid)
    (run : (FirewallRoute.detailPayload host resource uuid).Run () trace outcome ()) :
    trace = [] ∧ outcome.map (·.1) ≠ .ok 200 := by
  unfold FirewallRoute.detailPayload at run
  split at run
  · rw [Action.run_pure] at run
    rcases run with ⟨rfl, rfl, _⟩
    exact ⟨rfl, by simp [Except.map, FirewallRoute.badRequest, refusal]⟩
  · rename_i canonical valid
    exact absurd (isUuid_of_valid valid) misnamed

omit [Runtime] in
theorem errorResponse_refused {error : Exn} : (FirewallRoute.errorResponse error).1 ≠ 200 := by
  unfold FirewallRoute.errorResponse
  dsimp only
  split
  all_goals
    intro same
    cases same

theorem firewallAction_refused {settings : FirewallSettings} {resource : Resource} {body : Json}
    {outcome : Except Exn Response} (misnamed : (firewallAction settings resource body).Misnamed)
    (run : (FirewallRoute.actionPayload settings resource body).Run () trace outcome ()) :
    trace = [] ∧ outcome.map (·.1) ≠ .ok 200 := by
  rcases misnamed with ⟨fields, action, rfl, named, changes, misnamed⟩
  have refuses : ∀ request, FirewallRoute.actionRequest resource (.obj fields) ≠ .ok request := by
    intro request accepted
    rcases FirewallRoute.actionRequest_eq_ok accepted with ⟨_, same, found, _, given⟩
    cases same
    rw [named] at found
    cases found
    exact misnamed (isUuid_of_valid (given changes))
  unfold FirewallRoute.actionPayload at run
  split at run
  · rw [Action.run_pure] at run
    rcases run with ⟨rfl, rfl, _⟩
    exact ⟨rfl, by simp [Except.map, refusal]⟩
  · rw [Action.run_bind_attempt] at run
    rcases run with ⟨front, result, middle, back, rfl, attempted, _, run⟩ | ⟨error, _, attempted, rfl⟩
    · rcases refused_run refuses attempted with ⟨rfl, error, rfl⟩
      dsimp only at run
      rw [Action.run_pure] at run
      rcases run with ⟨rfl, rfl, _⟩
      refine ⟨rfl, fun served => ?_⟩
      have status := Except.ok.inj served
      split at status
      · cases status
      · exact errorResponse_refused status
    · rcases refused_run refuses attempted with ⟨rfl, _⟩
      exact ⟨rfl, by simp [Except.map]⟩

theorem managementDetail_refuses {spec : Spec} {uuid : Option Json}
    (misnamed : (managementDetail spec uuid).Misnamed) (found : Option Str) :
    ManagementService.detailUuid spec uuid ≠ .ok found := by
  intro checked
  rcases misnamed with ⟨given, rfl, misnamed⟩
  rcases (ManagementService.detailUuid_eq_ok checked).1 given rfl with ⟨text, valid⟩
  exact misnamed (isUuid_of_valid valid)

theorem managementMutate_refuses {service : ManagementService} {spec : Spec} {body : Json}
    (misnamed : (managementMutate service spec body).Misnamed) (request : MutateRequest) :
    service.accept spec body ≠ .ok request := by
  intro accepted
  rcases misnamed with ⟨fields, action, rfl, named, changes, misnamed⟩
  rcases ManagementService.accept_eq_ok accepted with ⟨_, same, found, identified⟩
  cases same
  rw [named] at found
  cases found
  rcases ManagementService.identity_eq_ok identified with ⟨creates, _⟩ | ⟨_, valid⟩
  · exact changes creates
  · exact misnamed (isUuid_of_valid valid)

omit [Runtime] in
theorem crlDetail_refuses {caref : Json} (misnamed : ¬ IsReference caref) (checked : Str) :
    CrlService.refid caref ≠ .ok checked := by
  intro valid
  exact misnamed ⟨checked, CrlService.refid_eq_ok valid⟩

theorem crlMutate_refuses {service : CrlService} {body : Json}
    (misnamed : (crlMutate service body).Misnamed) (request : CrlService.CrlRequest) :
    service.accept body ≠ .ok request := by
  intro accepted
  rcases misnamed with ⟨fields, rfl, misnamed⟩
  rcases CrlService.accept_eq_ok accepted with ⟨_, same, given, valid⟩
  cases same
  exact misnamed ⟨_, given, valid⟩

theorem operate_refuses {client : Host} {actor : Str} {operation values : Json}
    (misnamed : (operate client actor operation values).Misnamed)
    (planned : OperationSpec × Str × List (Str × Json)) :
    Management.planOperation operation values ≠ .ok planned := by
  intro accepted
  rcases misnamed with ⟨spec, fields, found, rfl, misnamed⟩
  rcases planned with ⟨known, target, payload⟩
  rcases Management.planOperation_eq_ok accepted with ⟨listed, ⟨_, same, names⟩, _⟩
  cases same
  rw [operationSpec, listed] at found
  cases found
  exact misnamed names

theorem operate_stays {client : Host} {actor : Str} {operation values : Json} :
    Action.Ensures
      (Action.Observes (StaysWithin (operate client actor operation values).fixedPaths
        IsOperationSegment))
      (Management.executeOperation client actor operation values) := by
  intro before trace outcome after run
  rw [Management.executeOperation, Action.run_bind_ofExcept] at run
  rcases run with ⟨⟨spec, target, payload⟩, planned, run⟩ | ⟨error, _, rfl, _, rfl⟩
  rotate_left
  · exact Action.Composable.refl after
  rcases Management.planOperation_eq_ok planned with ⟨listed, _, confined⟩
  have fixed : (operate client actor operation values).fixedPaths = spec.fixedPaths := by
    simp [fixedPaths, operationSpec, listed]
  rw [fixed]
  refine Action.ensures_bind (internal_stays readClock_internal) (fun started => ?_) _ _ _ _ run
  refine Action.ensures_bind Action.ensures_ofExcept ?_
  intro digest
  refine Action.ensures_bind (Action.observes_withState ?_) ?_
  · exact Management.runOperation_stays confined
  · intro ended
    exact Action.ensures_pure

theorem run_stays {call : ApiCall} :
    Action.Ensures (Action.Observes (StaysWithin call.fixedPaths call.IsIdentifier)) call.run := by
  cases call with
  | firewallList host resource summary =>
      exact Action.ensures_bind FirewallRoute.listPayload_stays fun _ => Action.ensures_pure
  | firewallDetail host resource uuid =>
      exact Action.ensures_bind FirewallRoute.detailPayload_stays fun _ => Action.ensures_pure
  | firewallAction settings resource body =>
      exact Action.ensures_bind FirewallRoute.actionPayload_stays fun _ => Action.ensures_pure
  | managementList spec page rowCount search =>
      exact Action.ensures_bind ManagementService.listPage_stays fun _ => Action.ensures_pure
  | managementDetail spec uuid =>
      exact Action.ensures_bind ManagementService.detail_stays fun _ => Action.ensures_pure
  | managementMutate service spec body =>
      exact Action.ensures_bind ManagementService.mutate_stays fun _ => Action.ensures_pure
  | crlList page rowCount search =>
      exact Action.ensures_bind CrlService.listPage_stays fun _ => Action.ensures_pure
  | crlDetail caref =>
      exact Action.ensures_bind CrlService.detail_stays fun _ => Action.ensures_pure
  | crlMutate service body =>
      exact Action.ensures_bind CrlService.mutate_stays fun _ => Action.ensures_pure
  | operate client actor operation values =>
      exact Action.ensures_bind operate_stays fun _ => Action.ensures_pure

omit [Runtime] in
/-- A refused call of a service raises. -/
theorem served_refused {α : Type} {action : Py Role Unit α} {outcome : Except Exn Nat}
    (refused : ∀ result, action.Run () trace result () →
      trace = [] ∧ ∃ error, result = .error error)
    (run : (do let _ ← action; return 200).Run () trace outcome ()) :
    trace = [] ∧ outcome ≠ .ok 200 := by
  rw [Action.run_bind_pure] at run
  rcases run with ⟨result, called, rfl⟩
  rcases refused result called with ⟨none, error, rfl⟩
  exact ⟨none, by simp [Except.map]⟩

theorem run_refused {call : ApiCall} {outcome : Except Exn Nat} (misnamed : call.Misnamed)
    (run : call.run.Run () trace outcome ()) : trace = [] ∧ outcome ≠ .ok 200 := by
  cases call with
  | firewallList | managementList | crlList => exact misnamed.elim
  | firewallDetail host resource uuid =>
      rw [ApiCall.run, Action.run_bind_pure] at run
      rcases run with ⟨result, called, rfl⟩
      exact firewallDetail_refused misnamed called
  | firewallAction settings resource body =>
      rw [ApiCall.run, Action.run_bind_pure] at run
      rcases run with ⟨result, called, rfl⟩
      exact firewallAction_refused misnamed called
  | managementDetail spec uuid =>
      exact served_refused (fun _ called => refused_run (managementDetail_refuses misnamed) called)
        run
  | managementMutate service spec body =>
      exact served_refused (fun _ called => refused_run (managementMutate_refuses misnamed) called)
        run
  | crlDetail caref =>
      exact served_refused (fun _ called => refused_run (crlDetail_refuses misnamed) called) run
  | crlMutate service body =>
      exact served_refused (fun _ called => refused_run (crlMutate_refuses misnamed) called) run
  | operate client actor operation values =>
      exact served_refused (fun _ called => refused_run (operate_refuses misnamed) called) run

/-- Every request of a call goes to one of its fixed paths, or to one of them with a single segment
that is an identifier of its kind; any other identifier is refused before the first request. -/
theorem paths_confined {call : ApiCall} {outcome : Except Exn Nat}
    (run : call.run.Run () trace outcome ()) :
    (∀ event ∈ trace, StaysWithin call.fixedPaths call.IsIdentifier event.request) ∧
      (∀ text, call.IsIdentifier text → IsSegment text) ∧
      (call.Misnamed → trace = [] ∧ outcome ≠ .ok 200) :=
  ⟨(run_stays _ _ _ _ run).2, fun _ => isSegment, fun misnamed => run_refused misnamed run⟩

/-- The detail of a revocation list that the firewall does not give -/
theorem crlDetail_unanswered {caref : Str} {failure : Failure}
    (valid : CrlService.isRefid caref = true) :
    (crlDetail (.str caref)).run.Run ()
      [⟨.get .client (CrlService.base ++ "get/" ++ caref) [], .error failure⟩]
      (.error (Management.raised (Management.callError failure))) () := by
  rw [ApiCall.run, Action.run_bind_pure]
  refine ⟨.error (Management.raised (Management.callError failure)), ?_, rfl⟩
  rw [CrlService.detail, Action.run_bind_ofExcept]
  refine .inl ⟨caref, by simp [CrlService.refid, valid, pure, Except.pure], ?_⟩
  rw [Action.run_bind]
  refine .inr ⟨_, rfl, ?_⟩
  rw [CrlService.raw, Action.run_bind]
  refine .inr ⟨_, rfl, ?_⟩
  rw [Management.callGet, Action.run_bind_ask]
  exact ⟨.error failure, [], rfl, Action.run_ofExcept.mpr ⟨rfl, rfl, rfl⟩⟩

end ApiCall

namespace PathDemo

/-- The list of a CA is asked for, and the firewall does not answer. -/
theorem reference_confined :
    (∀ event ∈ ([⟨.get .client (CrlService.base ++ "get/" ++ "0123456789abc") [],
        .error (.timeout [])⟩] : Trace Role),
      StaysWithin (ApiCall.crlDetail (.str "0123456789abc")).fixedPaths
        (@ApiCall.IsIdentifier Runtime.ascii (.crlDetail (.str "0123456789abc"))) event.request) ∧
      ¬ @ApiCall.Misnamed Runtime.ascii (.crlDetail (.str "0123456789abc")) := by
  have valid : CrlService.isRefid "0123456789abc" = true := by decide
  have confined := @ApiCall.paths_confined Runtime.ascii _ _ _
    (@ApiCall.crlDetail_unanswered Runtime.ascii _ (.timeout []) valid)
  refine ⟨confined.1, fun misnamed => ?_⟩
  have none := (confined.2.2 misnamed).1
  cases none

end PathDemo

end OpnsensePlugin

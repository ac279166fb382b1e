import OpnsensePlugin.Management.MutationRuns

/-!
# What a failed mutation reports

An operator reads `partial`, `stage` and `uuid` of an error to decide whether a
request may be repeated. They are read off the POSTs of the call, and no POST is
made before the request has been found current, valid and recorded.
-/

namespace OpnsensePlugin

open Effects Python

namespace ManagementService

open Management

section

variable [Runtime] {service : ManagementService} {spec : Spec} {request : MutateRequest}
  {body expected payload : Json} {target : Str} {trace : Trace Role}

/-! ## Posts -/

/-- Apply steps in the order of the list, none after one that was not acknowledged -/
inductive ApplyPosts (spec : Spec) : List Str → List (Post Role) → Prop
  | none {paths : List Str} : ApplyPosts spec paths []
  | last {target : Str} {rest : List Str} (reply : Reply) :
      ApplyPosts spec (target :: rest) [⟨.client, target, .obj [], reply⟩]
  | more {target : Str} {rest : List Str} {reply : Reply} {later : List (Post Role)}
      (answer : applied spec reply = .ok ()) (posts : ApplyPosts spec rest later) :
      ApplyPosts spec (target :: rest) (⟨.client, target, .obj [], reply⟩ :: later)

/-- The POSTs of a call: none, or the save of a prepared request and apply steps. -/
def ChangePosts (spec : Spec) (request : MutateRequest) (trace : Trace Role) : Prop :=
  posts trace = [] ∨ ∃ front back target object expected payload reply,
    trace = front ++ postEvent target payload reply :: back ∧ posts front = [] ∧
      path spec (operation spec request.action) request.uuid = .ok target ∧
      Prepared spec request object expected payload front ∧
      ApplyPosts spec spec.apply.list (posts back) ∧
      (posts back ≠ [] → ∃ uuid, saved spec request reply = .ok uuid)

/-- The last of the stages save, apply and verify that a call with these POSTs entered -/
def enteredStage (spec : Spec) (request : MutateRequest) : List (Post Role) → Option Stage
  | [] => none
  | save :: applies =>
      if (saved spec request save.reply).toOption.isNone then some .save
      else if applies.length = spec.apply.list.length &&
          applies.all fun post => (applied spec post.reply).toOption.isSome then some .verify
      else some .apply

/-- The object that the answer to the save confirmed -/
def confirmedObject (spec : Spec) (request : MutateRequest) : List (Post Role) → Option Str
  | [] => none
  | save :: _ => (saved spec request save.reply).toOption

def HasValidations (reply : Reply) : Prop :=
  ∃ response, reply = .ok (.obj response) ∧ (fieldD response "validations" .null).truthy = true

/-- What an error says about a call with these POSTs -/
structure Report (spec : Spec) (request : MutateRequest) (posts : List (Post Role))
    (error : ManagementError) : Prop where
  harmless : error.isPartial = false →
    posts = [] ∨ ∃ save, posts = [save] ∧ HasValidations save.reply
  stage : error.stage = enteredStage spec request posts
  uuid : error.uuid = confirmedObject spec request posts

/-! ## Apply steps -/

theorem ApplyRun.posts_eq {paths : List Str} {outcome : Except Exn Unit}
    (run : ApplyRun spec paths trace outcome) : ApplyPosts spec paths (posts trace) := by
  induction run with
  | done => exact .none
  | acknowledged answer _ ih => exact .more answer ih
  | failed answer => exact .last _

theorem ApplyRun.complete {paths : List Str} {outcome : Except Exn Unit}
    (run : ApplyRun spec paths trace outcome) (success : outcome = .ok ()) :
    (posts trace).length = paths.length ∧
      ∀ post ∈ posts trace, applied spec post.reply = .ok () := by
  induction run with
  | done => simp
  | acknowledged answer _ ih =>
      rcases ih success with ⟨lengths, all⟩
      rw [postEvent, posts_post]
      exact ⟨congrArg (· + 1) lengths, List.forall_mem_cons.mpr ⟨answer, all⟩⟩
  | failed => cases success

theorem ApplyRun.incomplete {paths : List Str} {outcome : Except Exn Unit} {error : Exn}
    (run : ApplyRun spec paths trace outcome) (failure : outcome = .error error) :
    ∃ post ∈ posts trace, applied spec post.reply = .error error := by
  induction run with
  | done => cases failure
  | acknowledged answer _ ih =>
      rcases ih failure with ⟨post, member, failed⟩
      exact ⟨post, List.mem_cons_of_mem _ member, failed⟩
  | failed answer =>
      cases failure
      exact ⟨_, List.mem_cons_self, answer⟩

/-! ## Errors of a save -/

omit [Runtime] in
theorem callError_not_validation {failure : Failure} :
    (callError failure).error ≠ "validation" := by
  have names : (callError failure).error ∈ (["unsupported", "upstream", "auth", "timeout"] : List Str) := by
    cases failure with
    | error detail =>
        simp only [callError]
        split <;> simp [ManagementError.new]
    | _ => simp [callError, ManagementError.new]
  intro same
  rw [same] at names
  exact absurd names (by decide)

theorem ack_validation {response : Json} {cause : ManagementError}
    (refused : ack spec false response = .error (raised cause))
    (kind : cause.error = "validation") :
    ∃ fields, response = .obj fields ∧ (fieldD fields "validations" .null).truthy = true := by
  cases response with
  | obj fields =>
      refine ⟨fields, rfl, ?_⟩
      rcases bind_eq_error.mp refused with rejected | ⟨_, _, unmarked⟩
      · exact (raiseIf_eq_error.mp rejected).1
      · simp only [Bool.false_and, Bool.false_eq_true, if_false, raiseIf_eq_error] at unmarked
        cases unmarked.2
        exact absurd kind (by decide)
  | _ =>
      cases refused
      exact absurd kind (by decide)

theorem saved_validation {reply : Reply} {cause : ManagementError}
    (refused : saved spec request reply = .error (raised cause))
    (kind : cause.error = "validation") : HasValidations reply := by
  rcases reply with failure | response
  · cases refused
    exact absurd kind callError_not_validation
  rcases bind_eq_error.mp refused with impossible | ⟨_, same, rest⟩
  · cases impossible
  cases same
  rcases bind_eq_error.mp rest with unacknowledged | ⟨_, _, unconfirmed⟩
  · rcases ack_validation unacknowledged kind with ⟨fields, rfl, validations⟩
    exact ⟨fields, rfl, validations⟩
  · exfalso
    unfold confirmedUuid at unconfirmed
    split at unconfirmed
    · rcases bind_eq_error.mp unconfirmed with missing | ⟨created, _, invalid⟩
      · cases response <;> cases missing
      · cases valid : validateUuid created with
        | ok uuid =>
            rw [valid] at invalid
            cases invalid
        | error error =>
            rw [valid] at invalid
            cases invalid
            exact absurd kind (by decide)
    · cases unconfirmed

/-! ## Reports -/

theorem AttemptRun.posts_eq {outcome : Except Exn MutateResult} {after : Mutation}
    (attempt : AttemptRun spec request expected payload target trace outcome after) :
    ∃ reply back, trace = postEvent target payload reply :: back ∧
      ApplyPosts spec spec.apply.list (posts back) ∧
      (posts back ≠ [] → ∃ uuid, saved spec request reply = .ok uuid) := by
  cases attempt with
  | @unsaved reply => exact ⟨reply, [], rfl, .none, by simp⟩
  | @unapplied reply uuid applies _ answer run =>
      exact ⟨reply, applies, rfl, run.posts_eq, fun _ => ⟨uuid, answer⟩⟩
  | @finished reply uuid applies late _ answer run quiet =>
      refine ⟨reply, applies ++ late, rfl, ?_, fun _ => ⟨uuid, answer⟩⟩
      rw [posts_append, posts_eq_nil quiet, List.append_nil]
      exact run.posts_eq

theorem enteredStage_unsaved {save : Post Role} {applies : List (Post Role)} {error : Exn}
    (answer : saved spec request save.reply = .error error) :
    enteredStage spec request (save :: applies) = some .save := by
  rw [enteredStage, answer]
  rfl

theorem enteredStage_stopped {save post : Post Role} {applies : List (Post Role)} {uuid : Str}
    {error : Exn} (answer : saved spec request save.reply = .ok uuid) (member : post ∈ applies)
    (failed : applied spec post.reply = .error error) :
    enteredStage spec request (save :: applies) = some .apply := by
  have stopped : (applies.all fun post => (applied spec post.reply).toOption.isSome) = false := by
    apply Bool.eq_false_iff.mpr
    intro complete
    have acknowledged := List.all_eq_true.mp complete post member
    simp [failed, Except.toOption] at acknowledged
  rw [enteredStage, answer, stopped, Bool.and_false]
  rfl

theorem enteredStage_complete {save : Post Role} {applies : List (Post Role)} {uuid : Str}
    (answer : saved spec request save.reply = .ok uuid)
    (lengths : applies.length = spec.apply.list.length)
    (all : ∀ post ∈ applies, applied spec post.reply = .ok ()) :
    enteredStage spec request (save :: applies) = some .verify := by
  have complete : (applies.all fun post => (applied spec post.reply).toOption.isSome) = true := by
    apply List.all_eq_true.mpr
    intro post member
    rw [all post member]
    rfl
  rw [enteredStage, answer, complete, Bool.and_true, if_neg (by simp [Except.toOption]),
    if_pos (by simpa using lengths)]

theorem AttemptRun.report {cause final : ManagementError} {middle : Mutation}
    (attempt : AttemptRun spec request expected payload target trace (.error (raised cause))
      middle)
    (harmless : final.isPartial = (report middle cause).isPartial)
    (stage : final.stage = (report middle cause).stage)
    (uuid : final.uuid = (report middle cause).uuid) :
    Report spec request (posts trace) final := by
  cases attempt with
  | unsaved answer =>
      refine ⟨fun whole => .inr ⟨_, rfl, ?_⟩, ?_, ?_⟩
      · rw [harmless] at whole
        have kind : cause.error = "validation" := by
          simpa [ManagementService.report] using whole
        exact saved_validation answer kind
      · exact stage.trans (enteredStage_unsaved answer).symm
      · rw [uuid, postEvent, posts_post, confirmedObject, answer]
        rfl
  | unapplied answer run =>
      refine ⟨fun whole => ?_, ?_, ?_⟩
      · rw [harmless] at whole
        simp [ManagementService.report] at whole
      · rcases run.incomplete rfl with ⟨post, member, failed⟩
        exact stage.trans (enteredStage_stopped answer member failed).symm
      · rw [uuid, postEvent, posts_post, confirmedObject, answer]
        rfl
  | finished answer run quiet =>
      refine ⟨fun whole => ?_, ?_, ?_⟩
      · rw [harmless] at whole
        simp [ManagementService.report] at whole
      · rcases run.complete rfl with ⟨lengths, all⟩
        rw [postEvent, posts_post, posts_append, posts_eq_nil quiet, List.append_nil]
        exact stage.trans (enteredStage_complete answer lengths all).symm
      · rw [uuid, postEvent, posts_post, confirmedObject, answer]
        rfl

theorem report_of_fresh {error : ManagementError} (fresh : Fresh (raised error)) :
    Report spec request [] error := by
  rcases fresh error rfl with ⟨_, stage, uuid⟩
  exact ⟨fun _ => .inl rfl, stage, uuid⟩

theorem ChangeRun.parts {outcome : Except Exn MutateResult}
    (change : ChangeRun spec request expected payload target trace outcome) :
    ∃ attempt closing attempted middle, trace = attempt ++ closing ∧
      AttemptRun spec request expected payload target attempt attempted middle ∧
      ∀ event ∈ closing, ¬ event.request.IsPost := by
  cases change with
  | returned attempt => exact ⟨_, [], _, _, by simp, attempt, by simp⟩
  | raised attempt quiet => exact ⟨_, _, _, _, rfl, attempt, quiet⟩

theorem LockedRun.posts_eq {outcome : Except Exn MutateResult}
    (targetEq : path spec (operation spec request.action) request.uuid = .ok target)
    (run : LockedRun spec request target trace outcome) : ChangePosts spec request trace := by
  cases run with
  | unprepared quiet => exact .inl (posts_eq_nil quiet)
  | @changed front trace object expected payload _ quiet prepared change =>
      rcases change.parts with ⟨attempt, closing, _, _, rfl, attempted, silent⟩
      rcases attempted.posts_eq with ⟨reply, back, rfl, applies, answer⟩
      refine .inr ⟨front, back ++ closing, target, object, expected, payload, reply, rfl,
        posts_eq_nil quiet, targetEq, prepared, ?_⟩
      rw [posts_append, posts_eq_nil silent, List.append_nil]
      exact ⟨applies, answer⟩

theorem LockedRun.report {error : ManagementError}
    (run : LockedRun spec request target trace (.error (raised error))) :
    Report spec request (posts trace) error := by
  cases run with
  | unprepared quiet fresh =>
      rw [posts_eq_nil quiet]
      exact report_of_fresh fresh
  | changed quiet prepared change =>
      rw [posts_append, posts_eq_nil quiet, List.nil_append]
      cases change with
      | raised attempt silent reported =>
          rcases reported error rfl with ⟨cause, rfl, harmless, stage, uuid⟩
          rw [posts_append, posts_eq_nil silent, List.append_nil]
          exact attempt.report harmless stage uuid

/-! ## The guarantee -/

theorem ChangePosts.enclose {front back : Trace Role} (quiet : posts front = [])
    (silent : posts back = []) (changed : ChangePosts spec request trace) :
    ChangePosts spec request (front ++ (trace ++ back)) := by
  rcases changed with nothing | ⟨early, late, target, object, expected, payload, reply, rfl,
    none, targetEq, prepared, applies, answer⟩
  · exact .inl (by simp [quiet, silent, nothing])
  · refine .inr ⟨front ++ early, late ++ back, target, object, expected, payload, reply, by simp,
      by simp [quiet, none], targetEq, ?_, ?_⟩
    · exact ⟨prepared.current, prepared.intendedEq, prepared.payloadEq, prepared.recorded.skip⟩
    · rw [posts_append, silent, List.append_nil]
      exact ⟨applies, answer⟩

/-- A request that is not accepted is refused without a request to a node. A POST is made only
for a request whose object is current, whose values are valid and whose record is stored, and an
error reports what the POSTs of the call have done. -/
theorem mutate_reports {outcome : Except Exn MutateResult}
    (run : (service.mutate spec body).Run () trace outcome ()) :
    (∃ error, service.accept spec body = .error error ∧ trace = [] ∧
        outcome = .error error ∧ Fresh error) ∨
      ∃ request, service.accept spec body = .ok request ∧ ChangePosts spec request trace ∧
        ∀ error, outcome = .error (raised error) →
          Report spec request (posts trace) error := by
  cases mutate_run run with
  | refused refusal => exact .inl ⟨_, refusal, rfl, rfl, accept_careful _ refusal⟩
  | @locked request target lock locked _ accepted targetEq inner =>
      refine .inr ⟨request, accepted, (inner.posts_eq targetEq).enclose rfl rfl,
        fun error same => ?_⟩
      subst same
      have lockedOnly : posts ([⟨.acquireGuard .managementLocks, ()⟩,
          ⟨.lockFor .managementLocks (service.lockKey spec), lock⟩,
          ⟨.releaseGuard .managementLocks, ()⟩, ⟨.acquire lock, ()⟩] ++
            (locked ++ [⟨.release lock, ()⟩])) = posts locked := by
        rw [posts_append, posts_append]
        exact List.append_nil _
      rw [lockedOnly]
      exact inner.report

end

/-! ### An update whose application times out -/

def demoSpec : Spec where
  id := "demo"
  base := "/api/demo/settings"
  key := "item"
  search := some "searchItem"
  get := some "getItem"
  add := some "addItem"
  set := some "setItem"
  delete := some "delItem"
  fields := [{ name := "name", required := true }, { name := "password", secret := true },
    { name := "enabled", kind := "boolean" }, { name := "nested.port", kind := "number" }]
  apply := .single "/api/demo/service/reconfigure"

def demoService : ManagementService where
  client := ⟨"demo", "https://engine.test"⟩
  peer := none
  actor := "plugin"

def demoUuid : Str := "11111111-1111-4111-8111-111111111111"

/-- The hash of the object that `slowApply` and `fillsPassword` hold -/
def demoRevision : Str := "3019e7e4a10f3eb3e297a14d25b64b0d989d5412dcdc5b737355c165ab9f8c67"

/-- An update that leaves the password blank -/
def demoUpdate : Json := .obj [("action", .str "update"), ("uuid", .str demoUuid),
  ("revision", .str demoRevision),
  ("values", .obj [("name", .str "new"), ("password", .str [])])]

/-- A node that saves an object and does not answer the request to apply it -/
def slowApply : (request : Request Role) → Answer request
  | .get _ _ _ => .ok (.obj [("item", .obj [("name", .str "old")])])
  | .post _ target _ =>
      if target = "/api/demo/service/reconfigure" then .error (.timeout [])
      else .ok (.obj [("result", .str "saved")])
  | .append _ => .ok ()
  | .clock => ⟨[], 0⟩
  | .lockFor _ _ => 0
  | .acquireGuard _ | .releaseGuard _ | .acquire _ | .release _ => ()

def managementErrorOf {α : Type} : Except Exn α → Option ManagementError
  | .error (.custom (.management error)) => some error
  | _ => none

theorem mutate_reports_unapplied :
    ∃ trace error,
      (@mutate Runtime.ascii demoService demoSpec demoUpdate).Run () trace
        (.error (raised error)) () ∧
      error.isPartial = true ∧ error.stage = some .apply ∧ error.uuid = some demoUuid ∧
      (posts trace).length = 2 ∧
      ∃ request, @ChangePosts Runtime.ascii demoSpec request trace ∧
        @Report Runtime.ascii demoSpec request (posts trace) error := by
  rcases Program.replay_yields (fun _ => slowApply)
    (@mutate Runtime.ascii demoService demoSpec demoUpdate ()) [] with ⟨trace, recorded, run⟩
  have reported : (managementErrorOf ((@mutate Runtime.ascii demoService demoSpec demoUpdate
      ()).replay (fun _ => slowApply) []).2.1).map (fun error =>
        (error.isPartial, error.stage, error.uuid)) = some (true, some .apply, some demoUuid) := by
    decide +kernel
  have posted : (posts ((@mutate Runtime.ascii demoService demoSpec demoUpdate ()).replay
      (fun _ => slowApply) []).1).length = 2 := by
    decide +kernel
  rw [recorded, List.nil_append] at posted
  generalize ((@mutate Runtime.ascii demoService demoSpec demoUpdate ()).replay
    (fun _ => slowApply) []).2 = last at run reported
  rcases last with ⟨(⟨kind, detail⟩ | error | error) | result, _⟩
  · cases reported
  · cases reported
  · simp only [managementErrorOf, Option.map_some, Option.some.injEq, Prod.mk.injEq] at reported
    rcases @mutate_reports Runtime.ascii demoService demoSpec demoUpdate trace _ run with
      ⟨_, _, rfl, _⟩ | ⟨request, _, changed, report⟩
    · cases posted
    · exact ⟨trace, error, run, reported.1, reported.2.1, reported.2.2, posted, request, changed,
        report error rfl⟩
  · cases reported

end ManagementService

end OpnsensePlugin

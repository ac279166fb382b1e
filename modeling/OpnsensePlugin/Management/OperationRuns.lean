import OpnsensePlugin.Management.Acceptance

/-!
# Runs of an operation

A POST of an operation follows the record of the attempt and is followed by the
status readback and by records. The handler decides from the class of an error
whether the request was refused; only a denied readback misleads it.
-/

namespace OpnsensePlugin

open Effects Python

namespace Management

section

variable {spec : OperationSpec} {call : OperationCall} {trace : Trace Role}
  {before after : Bool}

theorem record_run {result detail : Str} {outcome : Except Exn Unit}
    (run : (record call result detail).Run before trace outcome after) :
    after = before ∧ (∀ event ∈ trace, Local event) ∧
      (outcome = .ok () → InOrder [Recorded fun entry =>
        entry.action = "operation." ++ call.spec.id ∧ entry.result = result] trace) ∧
      ∀ error, outcome = .error error → ∃ cause, error = raised cause ∧
        cause.error = "audit" ∧ cause.isPartial = before :=
  recordSent_run (fun _ => ⟨rfl, rfl⟩) run

theorem recordPost_run {result detail : Str} {outcome : Except Exn Unit}
    (run : (recordPost call result detail).Run before trace outcome after) :
    after = before ∧ (∀ event ∈ trace, Local event) ∧
      (outcome = .ok () → call.spec.method = .post → InOrder [Recorded fun entry =>
        entry.action = "operation." ++ call.spec.id ∧ entry.result = result] trace) ∧
      ∀ error, outcome = .error error → ∃ cause, error = raised cause ∧
        cause.error = "audit" ∧ cause.isPartial = before := by
  unfold recordPost at run
  split at run
  · rcases record_run run with ⟨same, silent, recorded, audits⟩
    exact ⟨same, silent, fun success _ => recorded success, audits⟩
  · rename_i other
    rw [Action.run_pure] at run
    rcases run with ⟨rfl, rfl, rfl⟩
    exact ⟨rfl, by simp, fun _ post => absurd post other, by simp⟩

theorem confirmedState_error {check : StatusCheck} {status : Json} {error : Exn}
    (failed : confirmedState check status = .error error) :
    ∃ cause, error = raised cause ∧ cause.error ∉ refusals := by
  cases status with
  | obj fields =>
      rcases bind_eq_error.mp failed with mismatch | ⟨_, _, impossible⟩
      · rw [raiseIf_eq_error] at mismatch
        exact ⟨_, mismatch.2, by decide⟩
      · cases impossible
  | _ =>
      cases failed
      exact ⟨_, rfl, by decide⟩

theorem readStatus_run {outcome : Except Exn (Option Json)}
    (run : (readStatus spec).Run before trace outcome after) :
    after = before ∧ Ended trace outcome := by
  unfold readStatus at run
  split at run
  · rw [Action.run_pure] at run
    rcases run with ⟨rfl, rfl, rfl⟩
    exact ⟨rfl, rfl, .inr ⟨by simp, unrefusing_ok⟩⟩
  · rw [Action.run_bind] at run
    rcases run with ⟨front, status, _, back, rfl, reading, run⟩ | ⟨error, rfl, reading⟩
    all_goals
      rcases callGet_run reading with ⟨rfl, ended⟩
    rotate_left
    · exact ⟨rfl, ended.error⟩
    rw [Action.run_bind_ofExcept] at run
    rcases run with ⟨state, _, run⟩ | ⟨error, mismatch, rfl, rfl, rfl⟩
    · rw [Action.run_pure] at run
      rcases run with ⟨rfl, rfl, rfl⟩
      exact ⟨rfl, ended.append rfl (by simp) unrefusing_ok⟩
    · refine ⟨rfl, ended.append rfl (by simp) fun raised same => ?_⟩
      cases same
      exact confirmedState_error mismatch

mutual

theorem sanitize_error {depth : Nat} {error : Exn} : ∀ {value : Json},
    sanitize depth value = .error error → error = tooDeep
  | .obj fields => by
      intro failed
      rcases bind_eq_error.mp failed with failed | ⟨_, _, failed⟩
      · exact (raiseIf_eq_error.mp failed).2
      · rcases bind_eq_error.mp failed with failed | ⟨_, _, impossible⟩
        · exact sanitizeFields_error failed
        · cases impossible
  | .arr items => by
      intro failed
      rcases bind_eq_error.mp failed with failed | ⟨_, _, failed⟩
      · exact (raiseIf_eq_error.mp failed).2
      · rcases bind_eq_error.mp failed with failed | ⟨_, _, impossible⟩
        · exact sanitizeItems_error failed
        · cases impossible
  | .null | .bool _ | .int _ | .float _ | .str _ => by
      intro failed
      rcases bind_eq_error.mp failed with failed | ⟨_, _, impossible⟩
      · exact (raiseIf_eq_error.mp failed).2
      · cases impossible

theorem sanitizeFields_error {depth : Nat} {error : Exn} : ∀ {fields : List (Str × Json)},
    sanitizeFields depth fields = .error error → error = tooDeep
  | [] => by simp [sanitizeFields]
  | (key, value) :: rest => by
      intro failed
      unfold sanitizeFields at failed
      split at failed
      · exact sanitizeFields_error failed
      · rcases bind_eq_error.mp failed with failed | ⟨_, _, failed⟩
        · exact sanitize_error failed
        · rcases bind_eq_error.mp failed with failed | ⟨_, _, impossible⟩
          · exact sanitizeFields_error failed
          · cases impossible

theorem sanitizeItems_error {depth : Nat} {error : Exn} : ∀ {items : List Json},
    sanitizeItems depth items = .error error → error = tooDeep
  | [] => by simp [sanitizeItems]
  | value :: rest => by
      intro failed
      rcases bind_eq_error.mp failed with failed | ⟨_, _, failed⟩
      · exact sanitize_error failed
      · rcases bind_eq_error.mp failed with failed | ⟨_, _, impossible⟩
        · exact sanitizeItems_error failed
        · cases impossible

end

/-! ## The judgement of an answer -/

variable [Runtime]

/-- What `execute_operation` makes of the answer to its POST -/
def judged (spec : OperationSpec) (reply : Reply) : Except Exn Unit := do
  let response ← called reply
  checkResponse spec response

theorem checkRejection_error {fields : List (Str × Json)} {error : Exn}
    (failed : checkRejection fields = .error error) :
    Plain error ∨ (fieldD fields "validations" .null).truthy = true ∧ ∃ cause,
      error = raised cause ∧ cause.isPartial = false := by
  rcases bind_eq_error.mp failed with failed | ⟨_, _, failed⟩
  · rw [raiseIf_eq_error] at failed
    exact .inr ⟨failed.1, _, failed.2, rfl⟩
  · rcases bind_eq_error.mp failed with failed | ⟨_, _, failed⟩
    all_goals
      rw [raiseIf_eq_error] at failed
      rw [failed.2]
      exact .inl (plain_new (by decide))

theorem checkAck_error {response : Json} {error : Exn}
    (failed : checkAck spec response = .error error) : Plain error := by
  unfold checkAck at failed
  split at failed
  · cases failed
  · rcases bind_eq_error.mp failed with failed | ⟨_, _, failed⟩
    all_goals
      rw [raiseIf_eq_error] at failed
      rw [failed.2]
      exact plain_new (by decide)
  · cases failed
    exact plain_new (by decide)

theorem checkResponse_error {response : Json} {error : Exn}
    (failed : checkResponse spec response = .error error) :
    Plain error ∨ ManagementService.HasValidations (.ok response) ∧ ∃ cause,
      error = raised cause ∧ cause.isPartial = false := by
  rcases bind_eq_error.mp failed with failed | ⟨_, _, failed⟩
  · cases response with
    | obj fields =>
        rcases checkRejection_error failed with plain | ⟨validations, managed⟩
        · exact .inl plain
        · exact .inr ⟨⟨fields, rfl, validations⟩, managed⟩
    | arr => cases failed
    | _ =>
        cases failed
        exact .inl (plain_new (by decide))
  · exact .inl (checkAck_error failed)

theorem checkResponse_ok {response : Json} (passed : checkResponse spec response = .ok ()) :
    ¬ ManagementService.HasValidations (.ok response) := by
  rintro ⟨fields, same, validations⟩
  cases same
  rcases bind_eq_ok.mp passed with ⟨_, shape, _⟩
  rcases bind_eq_ok.mp shape with ⟨_, clean, _⟩
  rw [raiseIf_eq_ok, validations] at clean
  cases clean

theorem judged_discerning : Discerning (judged spec) := by
  constructor
  · intro reply error failed
    rcases bind_eq_error.mp failed with failed | ⟨response, answered, failed⟩
    · rcases called_error failed with ⟨cause, rfl, whole, kind⟩ | ⟨detail, rfl, rfl⟩
      · exact ⟨cause, rfl, whole, fun refusal => absurd refusal kind⟩
      · exact ⟨_, rfl, rfl, fun _ => .inr ⟨detail, rfl⟩⟩
    · have received := called_ok answered
      rcases checkResponse_error failed with ⟨cause, rfl, whole, kind⟩ | ⟨refused, cause, rfl, whole⟩
      · exact ⟨cause, rfl, whole, fun refusal => absurd refusal kind⟩
      · refine ⟨cause, rfl, whole, fun _ => .inl ?_⟩
        rw [received]
        exact refused
  · rintro reply passed (validations | ⟨detail, rfl⟩)
    · rcases bind_eq_ok.mp passed with ⟨response, answered, checked⟩
      rcases reply with failure | value
      · cases answered
      · cases answered
        exact checkResponse_ok checked validations
    · cases passed

/-! ## Runs -/

omit [Runtime] in
theorem sendOperation_run {path : Str} {payload : List (Str × Json)}
    {outcome : Except Exn Json} (post : spec.method = .post)
    (run : (sendOperation spec path payload).Run before trace outcome after) :
    after = true ∧ ∃ body reply, trace = [⟨.post .client path body, reply⟩] ∧
      outcome = called reply := by
  rw [sendOperation, post] at run
  dsimp only at run
  rw [Action.run_bind_modifyState, callPost, Action.run_bind_ask] at run
  rcases run with ⟨reply, rest, rfl, run⟩
  rw [Action.run_ofExcept] at run
  rcases run with ⟨rfl, rfl, rfl⟩
  exact ⟨rfl, _, reply, rfl, rfl⟩

omit [Runtime] in
theorem finishOperation_run {response : Json} {outcome : Except Exn OperationResult}
    (run : (finishOperation call response).Run before trace outcome after) :
    after = before ∧ Ended trace outcome := by
  rw [finishOperation, Action.run_bind] at run
  rcases run with ⟨reading, status, _, rest, rfl, status, run⟩ | ⟨error, rfl, status⟩
  all_goals
    rcases readStatus_run status with ⟨rfl, ended⟩
  rotate_left
  · exact ⟨rfl, ended.error⟩
  rw [Action.run_bind_ofExcept] at run
  rcases run with ⟨result, _, run⟩ | ⟨error, nested, rfl, rfl, rfl⟩
  rotate_left
  · refine ⟨rfl, ended.append rfl (by simp) fun raised same => ?_⟩
    cases same
    rw [sanitize_error nested]
    exact ⟨_, rfl, by decide⟩
  rw [Action.run_bind] at run
  rcases run with ⟨recording, _, _, rest, rfl, recorded, run⟩ | ⟨error, rfl, recorded⟩
  all_goals
    rcases recordPost_run recorded with ⟨rfl, silent, _, audits⟩
    have quiet := posts_eq_nil fun event member => (silent event member).1
    have clear := fun event member => (silent event member).not_denied
  · rw [Action.run_pure] at run
    rcases run with ⟨rfl, rfl, rfl⟩
    rw [List.append_nil]
    exact ⟨rfl, ended.append quiet clear unrefusing_ok⟩
  · refine ⟨rfl, ended.append quiet clear fun raised same => ?_⟩
    cases same
    rcases audits error rfl with ⟨cause, rfl, kind, _⟩
    refine ⟨cause, rfl, ?_⟩
    rw [kind]
    decide

theorem attemptOperation_run {path : Str} {payload : List (Str × Json)}
    {outcome : Except Exn OperationResult} (post : call.spec.method = .post)
    (run : (attemptOperation call path payload).Run before trace outcome after) :
    after = true ∧ SentRun (judged call.spec) trace outcome := by
  rw [attemptOperation, Action.run_bind] at run
  rcases run with ⟨_, response, _, rest, rfl, sending, run⟩ | ⟨error, rfl, sending⟩
  all_goals
    rcases sendOperation_run post sending with ⟨rfl, body, reply, rfl, same⟩
  rotate_left
  · have answer : judged call.spec reply = .error error := by
      rw [judged, ← same]
      rfl
    rcases judged_discerning.managed reply error answer with ⟨cause, rfl, _⟩
    exact ⟨rfl, .refused answer⟩
  have judgement : judged call.spec reply = checkResponse call.spec response := by
    rw [judged, ← same]
    rfl
  rw [Action.run_bind_ofExcept] at run
  rcases run with ⟨_, passed, run⟩ | ⟨error, failed, rfl, rfl, rfl⟩
  · rcases finishOperation_run run with ⟨rfl, ended⟩
    exact ⟨rfl, ended.sent (judgement.trans passed)⟩
  · rw [← judgement] at failed
    rcases judged_discerning.managed reply error failed with ⟨cause, rfl, _⟩
    exact ⟨rfl, .refused failed⟩

omit [Runtime] in
theorem recoverOperation_run {cause : ManagementError} {outcome : Except Exn OperationResult}
    (run : (recoverOperation call (.custom (.management cause))).Run before trace outcome after) :
    (∀ event ∈ trace, Local event) ∧ ∃ final, outcome = .error (raised final) ∧
      final.isPartial = (cause.isPartial || (before && !decide (cause.error ∈ refusals))) := by
  rw [recoverOperation, Action.run_bind_readState, Action.run_bind_attempt] at run
  rcases run with ⟨front, stored, middle, back, rfl, recording, _, run⟩ |
    ⟨error, other, recording, _⟩
  · have silent : ∀ event ∈ front, Local event := by
      split at recording
      · exact (record_run recording).2.1
      · rw [Action.run_pure] at recording
        simp [recording.1]
    rcases stored with error | _
    all_goals
      rw [Action.run_raise] at run
      rcases run with ⟨rfl, rfl, rfl⟩
      rw [List.append_nil]
      exact ⟨silent, _, rfl, by simp [reportOperation, refusals]⟩
  · split at recording
    · rcases (record_run recording).2.2.2 error rfl with ⟨cause, rfl, _⟩
      cases other
    · simp at recording

omit [Runtime] in
theorem recoverOperation_local {error : Exn} {outcome : Except Exn OperationResult}
    (run : (recoverOperation call error).Run before trace outcome after) :
    ∀ event ∈ trace, Local event := by
  rcases error with ⟨kind, detail⟩ | error | error
  · rw [recoverOperation, Action.run_raise] at run
    · simp [run.1]
    · simp
  · rw [recoverOperation, Action.run_raise] at run
    · simp [run.1]
    · simp
  · exact (recoverOperation_run run).1

omit [Runtime] in
/-- A cause that is partial by itself is no refusal. -/
theorem SentRun.harmless {α : Type} {check : Reply → Except Exn Unit} {cause : ManagementError}
    (discerning : Discerning check)
    (sent : SentRun check trace (.error (raised cause) : Except Exn α)) :
    (cause.isPartial || !decide (cause.error ∈ refusals)) = !decide (cause.error ∈ refusals) := by
  cases sent with
  | refused answer =>
      rcases discerning.managed _ _ answer with ⟨_, same, whole, _⟩
      cases same
      rw [whole, Bool.false_or]
  | denied => rfl
  | stopped _ _ _ kind => simp [kind]

theorem handleOperation_run {path : Str} {payload : List (Str × Json)}
    {outcome : Except Exn OperationResult} (post : call.spec.method = .post)
    (run : ((attemptOperation call path payload).handle (recoverOperation call)).Run before trace
      outcome after) : HandledRun (judged call.spec) trace outcome := by
  rw [Action.run_handle] at run
  rcases run with ⟨result, rfl, attempt⟩ | ⟨front, error, middle, back, rfl, attempt, handling⟩
  · exact .returned (attemptOperation_run post attempt).2
  · rcases attemptOperation_run post attempt with ⟨rfl, sent⟩
    rcases sent.managed with ⟨cause, rfl⟩
    rcases recoverOperation_run handling with ⟨silent, final, rfl, harmless⟩
    rw [Bool.true_and, sent.harmless judged_discerning] at harmless
    exact .raised sent (fun event member => ⟨(silent event member).1,
      (silent event member).not_denied⟩) harmless

/-! ## Whole runs -/

omit [Runtime] in
/-- Nothing is sent with POST by an operation that reads. -/
theorem sendOperation_reads {path : Str} {payload : List (Str × Json)}
    (get : spec.method ≠ .post) :
    Action.Ensures (Action.Requests fun request => ¬ request.IsPost)
      (sendOperation spec path payload) := by
  unfold sendOperation
  split
  · contradiction
  · refine Action.ensures_bind ?_ fun _ => Action.ensures_ofExcept
    apply Action.ensures_ask
    simp [Action.Requests, Request.IsPost]

omit [Runtime] in
theorem finishOperation_requests {response : Json} :
    Action.Ensures (Action.Requests fun request => ¬ request.IsPost)
      (finishOperation call response) := by
  intro before trace outcome after run event member post
  have none := posts_ne_nil_of_front post (List.append_of_mem member).choose_spec.choose_spec
  exact none (finishOperation_run run).2.1

theorem handleOperation_reads {path : Str} {payload : List (Str × Json)}
    (get : call.spec.method ≠ .post) :
    Action.Ensures (Action.Requests fun request => ¬ request.IsPost)
      ((attemptOperation call path payload).handle (recoverOperation call)) := by
  refine Action.ensures_handle ?_ fun error => ?_
  · refine Action.ensures_bind (sendOperation_reads get) fun _ => ?_
    exact Action.ensures_bind Action.ensures_ofExcept fun _ => finishOperation_requests
  · intro before trace outcome after run event member
    exact (recoverOperation_local run event member).1

/-- The record that precedes the POST of an operation -/
def IsAttempt (spec : OperationSpec) (entry : AuditEntry) : Prop :=
  entry.action = "operation." ++ spec.id ∧ entry.result = "attempt"

theorem runOperation_run {path : Str} {payload : List (Str × Json)}
    {outcome : Except Exn OperationResult}
    (run : (runOperation call path payload).Run before trace outcome after) :
    CallRun (judged call.spec) (IsAttempt call.spec) trace outcome := by
  rw [runOperation, Action.run_bind] at run
  rcases run with ⟨front, _, _, back, rfl, recording, run⟩ | ⟨error, rfl, recording⟩
  all_goals
    rcases recordPost_run recording with ⟨rfl, silent, recorded, _⟩
    have quiet := posts_eq_nil fun event member => (silent event member).1
  · by_cases post : call.spec.method = .post
    · exact .sent quiet (recorded rfl post) (handleOperation_run post run)
    · have reads := posts_eq_nil (handleOperation_reads post _ _ _ _ run)
      refine .unsent ?_
      rw [posts_append, quiet, reads]
      rfl
  · exact .unsent quiet

/-- The operation that a call plans, if it gets that far -/
inductive OperationRun (values : Json) (operation : Json) :
    Trace Role → Except Exn OperationResult → Prop
  | unplanned {error : Exn} (refusal : planOperation operation values = .error error) :
      OperationRun values operation [] (.error error)
  | unhashed {spec : OperationSpec} {path : Str} {payload : List (Str × Json)} {error : Exn}
      {started : Clock} (planned : planOperation operation values = .ok (spec, path, payload)) :
      OperationRun values operation [⟨.clock, started⟩] (.error error)
  | planned {spec : OperationSpec} {path : Str} {payload : List (Str × Json)} {started : Clock}
      {trace : Trace Role} {outcome : Except Exn OperationResult}
      (planned : planOperation operation values = .ok (spec, path, payload))
      (call : CallRun (judged spec) (IsAttempt spec) trace outcome) :
      OperationRun values operation (⟨.clock, started⟩ :: trace) outcome

theorem executeOperation_run {client : Host} {actor : Str} {operation values : Json}
    {outcome : Except Exn OperationResult}
    (run : (executeOperation client actor operation values).Run () trace outcome ()) :
    OperationRun values operation trace outcome := by
  rw [executeOperation, Action.run_bind_ofExcept] at run
  rcases run with ⟨⟨spec, path, payload⟩, planned, run⟩ | ⟨error, refusal, rfl, rfl, _⟩
  rotate_left
  · exact .unplanned refusal
  rw [readClock, Action.run_bind_ask] at run
  rcases run with ⟨started, rest, rfl, run⟩
  rw [Action.run_bind_ofExcept] at run
  rcases run with ⟨digest, _, run⟩ | ⟨error, _, rfl, rfl, _⟩
  rotate_left
  · exact .unhashed planned
  rw [Action.run_bind] at run
  rcases run with ⟨front, ⟨result, last⟩, _, back, rfl, running, run⟩ | ⟨error, rfl, running⟩
  all_goals
    rw [Action.run_withState] at running
    rcases running with ⟨changed, final, running, _, same⟩
    rcases changed with raised | value
    all_goals cases same
  · rw [Action.run_pure] at run
    rcases run with ⟨rfl, rfl, _⟩
    rw [List.append_nil]
    exact .planned planned (runOperation_run running)
  · exact .planned planned (runOperation_run running)

theorem planOperation_mem {operation values : Json} {path : Str} {payload : List (Str × Json)}
    (planned : planOperation operation values = .ok (spec, path, payload)) :
    spec ∈ operations := by
  unfold planOperation at planned
  split at planned
  · cases planned
  · rename_i found lookup
    simp only [bind_eq_ok, pure_eq_ok] at planned
    rcases planned with ⟨_, _, _, _, same⟩
    cases same
    exact List.mem_of_find?_eq_some lookup

/-- No POST was made, or what the outcome says about the POST of the operation is true. -/
def OperationTruthful (operation values : Json) (trace : Trace Role)
    (outcome : Except Exn OperationResult) : Prop :=
  posts trace = [] ∨ ∃ spec ∈ operations, ∃ path payload,
    planOperation operation values = .ok (spec, path, payload) ∧
    Truthful (judged spec) (IsAttempt spec) trace outcome

/-- The report of an operation is truthful exactly if the status readback after its POST was not
answered with 401 or 403. -/
theorem executeOperation_truthful_iff {client : Host} {actor : Str} {operation values : Json}
    {outcome : Except Exn OperationResult}
    (run : (executeOperation client actor operation values).Run () trace outcome ()) :
    OperationTruthful operation values trace outcome ↔ ¬ ReadbackDenied trace := by
  cases executeOperation_run run with
  | unplanned | unhashed => exact ⟨fun _ denied => denied.posts_ne_nil rfl, fun _ => .inl rfl⟩
  | @planned spec path payload started trace _ planned call =>
      have whole : CallRun (judged spec) (IsAttempt spec) (⟨.clock, started⟩ :: trace) outcome :=
        call.cons rfl
      have iff := whole.truthful_iff judged_discerning
      constructor
      · rintro (nothing | ⟨other, _, _, _, same, truthful⟩)
        · exact fun denied => denied.posts_ne_nil nothing
        · rw [planned] at same
          cases same
          exact iff.mp truthful
      · intro answered
        exact .inr ⟨spec, planOperation_mem planned, path, payload, planned, iff.mpr answered⟩

end

/-! ### A start whose readback is denied -/

/-- A node that starts a service and denies the question for its status -/
def deniesStatus : (request : Request Role) → Answer request
  | .get _ _ _ => .error (.auth [])
  | .post _ _ _ => .ok (.obj [("response", .str "ok")])
  | .append _ => .ok ()
  | .clock => ⟨[], 0⟩
  | .lockFor _ _ => 0
  | .acquireGuard _ | .releaseGuard _ | .acquire _ | .release _ => ()

def labHost : Host := ⟨"lab", "https://operations.test"⟩

/-- The start was acknowledged, and the error says that it was not accepted. -/
theorem executeOperation_misreports :
    ∃ trace error post,
      (@executeOperation Runtime.ascii labHost "qa" (.str "wireguard_start") (.obj [])).Run ()
        trace (.error (raised error)) () ∧
      error.error = "auth" ∧ error.isPartial = false ∧ posts trace = [post] ∧
      post.path = "/api/wireguard/service/start" ∧
      post.reply = .ok (.obj [("response", .str "ok")]) ∧ ¬ Unaccepted post.reply := by
  rcases Program.replay_yields (fun _ => deniesStatus)
    (@executeOperation Runtime.ascii labHost "qa" (.str "wireguard_start") (.obj []) ()) []
    with ⟨trace, recorded, run⟩
  have reported : (ManagementService.managementErrorOf
      ((@executeOperation Runtime.ascii labHost "qa" (.str "wireguard_start") (.obj [])
        ()).replay (fun _ => deniesStatus) []).2.1).map (fun error =>
        (error.error, error.isPartial)) = some (("auth" : Str), false) := by
    decide +kernel
  have paths : (posts trace).map Post.path = ["/api/wireguard/service/start"] := by
    rw [← List.nil_append trace, ← recorded]
    decide +kernel
  generalize ((@executeOperation Runtime.ascii labHost "qa" (.str "wireguard_start") (.obj [])
    ()).replay (fun _ => deniesStatus) []).2 = last at run reported
  rcases last with ⟨(⟨kind, detail⟩ | error | error) | result, _⟩
  · cases reported
  · cases reported
  · simp only [ManagementService.managementErrorOf, Option.map_some, Option.some.injEq,
      Prod.mk.injEq] at reported
    rcases List.map_eq_singleton_iff.mp paths with ⟨post, only, path⟩
    have member : post ∈ posts trace := by simp [only]
    rcases exists_of_mem_posts member with ⟨front, back, split⟩
    have answered : post.reply = .ok (.obj [("response", .str "ok")]) :=
      Program.replay_answers recorded split
    refine ⟨trace, error, post, run, reported.1, reported.2, only, path, answered, ?_⟩
    rw [answered]
    rintro (⟨fields, same, validations⟩ | ⟨_, same⟩)
    · cases same
      exact absurd validations (by decide)
    · cases same
  · cases reported

theorem executeOperation_truthful_iff_denied :
    ∃ trace outcome,
      (@executeOperation Runtime.ascii labHost "qa" (.str "wireguard_start") (.obj [])).Run ()
        trace outcome () ∧
      (@OperationTruthful Runtime.ascii (.str "wireguard_start") (.obj []) trace outcome ↔
        ¬ ReadbackDenied trace) := by
  rcases Program.replay_yields (fun _ => deniesStatus)
    (@executeOperation Runtime.ascii labHost "qa" (.str "wireguard_start") (.obj []) ()) []
    with ⟨trace, _, run⟩
  exact ⟨trace, _, run, @executeOperation_truthful_iff trace Runtime.ascii _ _ _ _ _ run⟩

end Management

end OpnsensePlugin

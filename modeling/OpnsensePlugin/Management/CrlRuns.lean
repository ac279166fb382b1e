import OpnsensePlugin.Management.Acceptance
import OpnsensePlugin.Management.Crl

/-!
# Runs of a CRL change

The POST of a change is followed by one read of the list. As for operations, the
handler goes by the class of an error, which a denied read shares with a denied
POST.
-/

namespace OpnsensePlugin

open Effects Python

namespace CrlService

open Management

variable {service : CrlService} {request : CrlRequest} {change : CrlChange}
  {trace : Trace Role} {before after : Bool}

/-! ## Reading -/

theorem detailText_unrefusing {fields : List (Str × Json)} {name : Str} :
    Unrefusing (detailText fields name) := by
  unfold detailText
  dsimp only
  split
  · exact unrefusing_ok
  · exact unrefusing_error (plain_new (by decide))

theorem chosen_unrefusing {value : Json} : Unrefusing (chosen value) := by
  unfold chosen
  split
  · exact unrefusing_ok
  · exact unrefusing_ok
  · exact unrefusing_ok
  · exact unrefusing_error (plain_new (by decide))

theorem reasonChoice_unrefusing {ref : Str} {option : Json} :
    Unrefusing (reasonChoice ref option) := by
  refine unrefusing_bind (unrefusing_raiseIf (plain_new (by decide))) fun _ => ?_
  split
  · split
    · exact unrefusing_ok
    · exact unrefusing_error (plain_new (by decide))
  · exact unrefusing_error (plain_new (by decide))

theorem reasonOf_unrefusing {fields : List (Str × Json)} {name : Str} :
    Unrefusing (reasonOf fields name) := by
  unfold reasonOf
  dsimp only
  split
  · refine unrefusing_bind (unrefusing_mapM fun _ => reasonChoice_unrefusing) fun _ => ?_
    exact unrefusing_bind chosen_unrefusing fun _ => unrefusing_ok
  · exact unrefusing_error (plain_new (by decide))

theorem stateOf_unrefusing {caref : Str} {response : Json} :
    Unrefusing (stateOf caref response) := by
  have plain {detail : Str} : Plain (invalidResponse detail) := plain_new (by decide)
  unfold stateOf
  dsimp only
  split
  · split
    · refine unrefusing_bind (unrefusing_raiseIf plain) fun _ => ?_
      refine unrefusing_bind detailText_unrefusing fun _ => ?_
      refine unrefusing_bind detailText_unrefusing fun _ => ?_
      refine unrefusing_bind detailText_unrefusing fun _ => ?_
      refine unrefusing_bind detailText_unrefusing fun _ => ?_
      refine unrefusing_bind (unrefusing_raiseIf plain) fun _ => ?_
      refine unrefusing_bind (unrefusing_raiseIf plain) fun _ => ?_
      refine unrefusing_bind chosen_unrefusing fun _ => ?_
      refine unrefusing_bind (unrefusing_raiseIf plain) fun _ => ?_
      exact unrefusing_bind (unrefusing_mapM fun _ => reasonOf_unrefusing) fun _ => unrefusing_ok
    · exact unrefusing_error plain
  · exact unrefusing_error plain

theorem raw_run {State : Type} {caref : Str} {before after : State}
    {outcome : Except Exn CrlState}
    (run : (raw caref : Py Role State CrlState).Run before trace outcome after) :
    after = before ∧ Ended trace outcome := by
  rw [raw, Action.run_bind] at run
  rcases run with ⟨front, response, _, back, rfl, reading, run⟩ | ⟨error, rfl, reading⟩
  all_goals
    rcases callGet_run reading with ⟨rfl, ended⟩
  · rw [Action.run_ofExcept] at run
    rcases run with ⟨rfl, rfl, rfl⟩
    exact ⟨rfl, ended.append rfl (by simp) stateOf_unrefusing⟩
  · exact ⟨rfl, ended.error⟩

/-! ## The judgement of an answer -/

/-- What `mutate` makes of the answer to its POST -/
def judged (action : CrlAction) (reply : Reply) : Except Exn Unit := do
  let response ← called reply
  checkAnswer action response

theorem checkAnswer_error {action : CrlAction} {response : Json} {error : Exn}
    (failed : checkAnswer action response = .error error) :
    Plain error ∨ ManagementService.HasValidations (.ok response) ∧ ∃ cause,
      error = raised cause ∧ cause.isPartial = false := by
  cases response with
  | obj fields =>
      rcases bind_eq_error.mp failed with failed | ⟨_, _, failed⟩
      · rw [raiseIf_eq_error] at failed
        exact .inr ⟨⟨fields, rfl, failed.1⟩, _, failed.2, rfl⟩
      · rw [raiseIf_eq_error] at failed
        rw [failed.2]
        exact .inl (plain_new (by decide))
  | _ =>
      cases failed
      exact .inl (plain_new (by decide))

theorem judged_discerning {action : CrlAction} : Discerning (judged action) := by
  constructor
  · intro reply error failed
    rcases bind_eq_error.mp failed with failed | ⟨response, answered, failed⟩
    · rcases called_error failed with ⟨cause, rfl, whole, kind⟩ | ⟨detail, rfl, rfl⟩
      · exact ⟨cause, rfl, whole, fun refusal => absurd refusal kind⟩
      · exact ⟨_, rfl, rfl, fun _ => .inr ⟨detail, rfl⟩⟩
    · rcases checkAnswer_error failed with ⟨cause, rfl, whole, kind⟩ | ⟨refused, cause, rfl, whole⟩
      · exact ⟨cause, rfl, whole, fun refusal => absurd refusal kind⟩
      · refine ⟨cause, rfl, whole, fun _ => .inl ?_⟩
        rw [called_ok answered]
        exact refused
  · rintro reply passed (⟨fields, rfl, validations⟩ | ⟨detail, rfl⟩)
    · rcases bind_eq_ok.mp passed with ⟨response, answered, checked⟩
      cases answered
      rcases bind_eq_ok.mp checked with ⟨_, clean, _⟩
      rw [raiseIf_eq_ok, validations] at clean
      cases clean
    · cases passed

/-! ## Confirmation -/

/-- The error that the handler makes of a caught one -/
def reportedError (error : Exn) : Exn :=
  match caughtError error with
  | some cause => raised cause
  | none => error

theorem Unrefusing.reported {α : Type} {outcome : Except Exn α} (plain : Unrefusing outcome) :
    Unrefusing (outcome.mapError reportedError) := by
  cases outcome with
  | ok value => exact unrefusing_ok
  | error error =>
      rcases plain error rfl with ⟨cause, rfl, kind⟩
      intro raised same
      cases same
      exact ⟨cause, rfl, kind⟩

theorem Ended.reported {α : Type} {outcome : Except Exn α} (ended : Ended trace outcome) :
    Ended trace (outcome.mapError reportedError) := by
  refine ⟨ended.1, ?_⟩
  rcases ended.2 with ⟨path, params, detail, same, rfl⟩ | ⟨clear, kinds⟩
  · exact .inl ⟨path, params, detail, same, rfl⟩
  · exact .inr ⟨clear, Unrefusing.reported kinds⟩

theorem toInt_unrefusing {text : Str} :
    Unrefusing (((Json.str text).toInt : Except Exn Int).mapError reportedError) := by
  unfold Json.toInt
  dsimp only
  split
  · exact unrefusing_ok
  · exact unrefusing_error (plain_new (by decide))

theorem mapError_bind {α β : Type} {value : Except Exn α} {next : α → Except Exn β} :
    (value >>= next).mapError reportedError =
      (value.mapError reportedError >>= fun value => (next value).mapError reportedError) := by
  cases value with
  | ok value => rfl
  | error error => rfl

variable [Runtime]

theorem matchesChange_unrefusing {after : CrlState} :
    Unrefusing ((matchesChange change after).mapError reportedError) := by
  unfold matchesChange
  split
  · exact unrefusing_ok
  · split
    · rw [nextSerial, mapError_bind]
      refine unrefusing_bind toInt_unrefusing fun _ => ?_
      rw [mapError_bind]
      exact unrefusing_bind toInt_unrefusing fun _ => unrefusing_ok
    · exact unrefusing_ok

omit [Runtime] in
theorem record_run {result : Str} {outcome : Except Exn Unit}
    (run : (record change result).Run before trace outcome after) :
    after = before ∧ (∀ event ∈ trace, Local event) ∧
      (outcome = .ok () → InOrder [Recorded fun entry =>
        entry.action = "crl." ++ change.request.action.name ∧ entry.result = result] trace) ∧
      ∀ error, outcome = .error error → ∃ cause, error = raised cause ∧
        cause.error = "audit" ∧ cause.isPartial = before :=
  recordSent_run (fun _ => ⟨rfl, rfl⟩) run

theorem confirm_run {outcome : Except Exn Unit}
    (run : (confirm change).Run before trace outcome after) :
    after = before ∧ Ended trace (outcome.mapError reportedError) := by
  rw [confirm, Action.run_bind] at run
  rcases run with ⟨front, state, _, back, rfl, reading, run⟩ | ⟨error, rfl, reading⟩
  all_goals
    rcases raw_run reading with ⟨rfl, ended⟩
  rotate_left
  · exact ⟨rfl, (Ended.reported ended).error⟩
  have plain := @matchesChange_unrefusing change _ state
  rw [Action.run_bind_ofExcept] at run
  rcases run with ⟨same, matched, run⟩ | ⟨error, failed, rfl, rfl, rfl⟩
  rotate_left
  · rw [failed] at plain
    exact ⟨rfl, ended.append rfl (by simp) fun error same => plain error (by cases same; rfl)⟩
  rw [Action.run_bind_raiseIf] at run
  rcases run with ⟨_, run⟩ | ⟨_, rfl, rfl, rfl⟩
  rotate_left
  · exact ⟨rfl, ended.append rfl (by simp) (unrefusing_error (plain_new (by decide)))⟩
  rcases record_run run with ⟨rfl, silent, _, audits⟩
  refine ⟨rfl, ended.append (posts_eq_nil fun event member => (silent event member).1)
    (fun event member => (silent event member).not_denied) ?_⟩
  refine Unrefusing.reported fun error same => ?_
  rcases audits error same with ⟨cause, rfl, kind, _⟩
  refine ⟨cause, rfl, ?_⟩
  rw [kind]
  decide

/-! ## Runs -/

theorem attemptChange_run {outcome : Except Exn Str}
    (run : (attemptChange change).Run before trace outcome after) :
    SentRun (judged change.request.action) trace (outcome.mapError reportedError) := by
  rw [attemptChange, Action.run_bind_modifyState] at run
  dsimp only at run
  rw [callPost, Action.run_bind_decoded] at run
  rcases run with ⟨reply, tail, rfl, ⟨response, answered, run⟩ | ⟨error, failed, rfl, rfl, _⟩⟩
  rotate_left
  · have answer : judged change.request.action reply = .error error := by
      rw [judged, failed]
      rfl
    rcases judged_discerning.managed reply error answer with ⟨cause, rfl, _⟩
    exact .refused answer
  have judgement : judged change.request.action reply =
      checkAnswer change.request.action response := by
    rw [judged, answered]
    rfl
  rw [Action.run_bind_ofExcept] at run
  rcases run with ⟨_, passed, run⟩ | ⟨error, failed, rfl, rfl, _⟩
  rotate_left
  · rw [← judgement] at failed
    rcases judged_discerning.managed reply error failed with ⟨cause, rfl, _⟩
    exact .refused failed
  have answer := judgement.trans passed
  rw [Action.run_bind] at run
  rcases run with ⟨front, _, _, back, rfl, confirming, run⟩ | ⟨error, rfl, confirming⟩
  all_goals
    rcases confirm_run confirming with ⟨rfl, ended⟩
  · rw [Action.run_pure] at run
    rcases run with ⟨rfl, rfl, rfl⟩
    rw [List.append_nil]
    exact .returned answer ended.1 ended.ok_clear
  · exact ended.error.sent answer

omit [Runtime] in
theorem recoverChange_run {error : Exn} {cause : ManagementError} {outcome : Except Exn Str}
    (caught : caughtError error = some cause)
    (run : (recoverChange change error).Run before trace outcome after) :
    (∀ event ∈ trace, Local event) ∧ ∃ final, outcome = .error (raised final) ∧
      final.isPartial = !decide (cause.error ∈ refusals) := by
  rw [recoverChange, caught, Action.run_bind_attempt] at run
  rcases run with ⟨front, stored, middle, back, rfl, recording, _, run⟩ |
    ⟨error, other, recording, _⟩
  · have silent : ∀ event ∈ front, Local event := by
      split at recording
      · rw [Action.run_pure] at recording
        simp [recording.1]
      · exact (record_run recording).2.1
    rcases stored with error | _
    all_goals
      rw [Action.run_raise] at run
      rcases run with ⟨rfl, rfl, rfl⟩
      rw [List.append_nil]
      exact ⟨silent, _, rfl, by simp [refusals]⟩
  · split at recording
    · simp at recording
    · rcases (record_run recording).2.2.2 error rfl with ⟨cause, rfl, _⟩
      cases other

theorem handleChange_run {outcome : Except Exn Str}
    (run : ((attemptChange change).handle (recoverChange change)).Run before trace outcome after) :
    HandledRun (judged change.request.action) trace outcome := by
  rw [Action.run_handle] at run
  rcases run with ⟨result, rfl, attempt⟩ | ⟨front, error, middle, back, rfl, attempt, handling⟩
  · exact .returned (attemptChange_run attempt)
  · have sent : SentRun (judged change.request.action) front
        (.error (reportedError error) : Except Exn Str) := attemptChange_run attempt
    rcases sent.managed with ⟨cause, same⟩
    have caught : caughtError error = some cause := by
      unfold reportedError at same
      split at same
      · cases same
        assumption
      · rw [same]
        rfl
    rcases recoverChange_run caught handling with ⟨silent, final, rfl, harmless⟩
    rw [same] at sent
    exact .raised sent (fun event member => ⟨(silent event member).1,
      (silent event member).not_denied⟩) harmless

/-! ## Whole runs -/

def IsAttempt (request : CrlRequest) (entry : AuditEntry) : Prop :=
  entry.action = "crl." ++ request.action.name ∧ entry.result = "attempt"

theorem prepareChange_run {started : Clock} {outcome : Except Exn CrlChange}
    (run : (service.prepareChange request started).Run before trace outcome after) :
    posts trace = [] ∧ ∀ change, outcome = .ok change → change.request = request := by
  rw [prepareChange, Action.run_bind] at run
  rcases run with ⟨front, state, _, back, rfl, reading, run⟩ | ⟨error, rfl, reading⟩
  all_goals
    rcases raw_run reading with ⟨rfl, ended⟩
  rotate_left
  · exact ⟨ended.1, by simp⟩
  simp only [Action.run_bind_ofExcept, Action.run_pure] at run
  rcases run with ⟨_, _, ⟨_, _, ⟨_, _, rfl, rfl, _⟩ | ⟨_, _, rfl, rfl, _⟩⟩ | ⟨_, _, rfl, rfl, _⟩⟩ |
    ⟨_, _, rfl, rfl, _⟩
  all_goals
    rw [List.append_nil]
    refine ⟨ended.1, fun change same => ?_⟩
    cases same
  rfl

theorem runChange_run {outcome : Except Exn Str}
    (run : (service.runChange request).Run before trace outcome after) :
    CallRun (judged request.action) (IsAttempt request) trace outcome := by
  rw [runChange, readClock, Action.run_bind_ask] at run
  rcases run with ⟨started, rest, rfl, run⟩
  refine CallRun.cons ?_ rfl
  rw [Action.run_bind] at run
  rcases run with ⟨front, change, _, back, rfl, preparing, run⟩ | ⟨error, rfl, preparing⟩
  all_goals
    rcases prepareChange_run preparing with ⟨quiet, named⟩
  rotate_left
  · exact .unsent quiet
  have same := named change rfl
  rw [Action.run_bind] at run
  rcases run with ⟨recording, _, _, rest, rfl, recorded, run⟩ | ⟨error, rfl, recorded⟩
  all_goals
    rcases record_run recorded with ⟨rfl, silent, attempted, _⟩
    have still := posts_eq_nil fun event member => (silent event member).1
  · have handled := handleChange_run run
    have attempted := attempted rfl
    rw [same] at handled attempted
    rw [← List.append_assoc]
    refine .sent ?_ attempted.skip handled
    rw [posts_append, quiet, still]
    rfl
  · refine .unsent ?_
    rw [posts_append, quiet, still]
    rfl

/-- No POST was made, or what the outcome says about the POST of the change is true. -/
def CrlTruthful (service : CrlService) (body : Json) (trace : Trace Role)
    (outcome : Except Exn Str) : Prop :=
  posts trace = [] ∨ ∃ request, service.accept body = .ok request ∧
    Truthful (judged request.action) (IsAttempt request) trace outcome

/-- The report of a change is truthful exactly if the read of the list after its POST was not
answered with 401 or 403. -/
theorem mutate_truthful_iff {body : Json} {outcome : Except Exn Str}
    (run : (service.mutate body).Run () trace outcome ()) :
    CrlTruthful service body trace outcome ↔ ¬ ReadbackDenied trace := by
  rw [mutate, Action.run_bind_ofExcept] at run
  rcases run with ⟨request, accepted, run⟩ | ⟨error, _, rfl, rfl, _⟩
  rotate_left
  · exact ⟨fun _ denied => denied.posts_ne_nil rfl, fun _ => .inl rfl⟩
  have call : CallRun (judged request.action) (IsAttempt request) trace outcome := by
    rw [Action.run_bind] at run
    rcases run with ⟨front, ⟨result, last⟩, _, back, rfl, running, run⟩ | ⟨error, rfl, running⟩
    all_goals
      rw [Action.run_withState] at running
      rcases running with ⟨changed, final, running, _, same⟩
      rcases changed with raised | value
      all_goals cases same
    · rw [Action.run_pure] at run
      rcases run with ⟨rfl, rfl, _⟩
      rw [List.append_nil]
      exact runChange_run running
    · exact runChange_run running
  have iff := call.truthful_iff judged_discerning
  constructor
  · rintro (nothing | ⟨other, same, truthful⟩)
    · exact fun denied => denied.posts_ne_nil nothing
    · rw [accepted] at same
      cases same
      exact iff.mp truthful
  · intro answered
    exact .inr ⟨request, accepted, iff.mpr answered⟩

/-! ### A deletion whose readback is denied -/

def labService : CrlService where
  client := ⟨"lab", "https://crl.test"⟩
  peer := none
  actor := "qa"
  loadPem _ := .ok ()

def labCaref : Str := "123456789abcd"

/-- A list without revoked certificates -/
def labCrl : List (Str × Json) :=
  ([("caref", .str labCaref), ("descr", .str "Current"), ("serial", .str "1"),
    ("lifetime", .str "9999"), ("text", .str []), ("crlmethod", .str "internal")] :
      List (Str × Json)) ++ reasonNames.map fun name => (name, .arr [])

/-- The hash of the list above -/
def labRevision : Str := "724f1294c9a918d9a8fe9cae41e6dbade0b34a0b9dafe47c0307435d7dd5eef5"

def labDelete : Json := .obj [("action", .str "delete"), ("uuid", .str labCaref),
  ("revision", .str labRevision)]

/-- A node that deletes the list and denies the question for it afterwards -/
def deniesReadback (history : Trace Role) : (request : Request Role) → Answer request
  | .get _ _ _ =>
      if (posts history).isEmpty then .ok (.obj [("crl", .obj labCrl)]) else .error (.auth [])
  | .post _ _ _ => .ok (.obj [("status", .str "deleted")])
  | .append _ => .ok ()
  | .clock => ⟨[], 0⟩
  | .lockFor _ _ => 0
  | .acquireGuard _ | .releaseGuard _ | .acquire _ | .release _ => ()

omit [Runtime] in
/-- The deletion was acknowledged, and the error says that it was not accepted. -/
theorem mutate_misreports :
    ∃ trace error post,
      (@mutate Runtime.ascii labService labDelete).Run () trace (.error (raised error)) () ∧
      error.error = "auth" ∧ error.isPartial = false ∧ posts trace = [post] ∧
      post.path = "/api/trust/crl/del/123456789abcd" ∧
      post.reply = .ok (.obj [("status", .str "deleted")]) ∧ ¬ Unaccepted post.reply := by
  rcases Program.replay_yields deniesReadback (@mutate Runtime.ascii labService labDelete ()) []
    with ⟨trace, recorded, run⟩
  have reported : (ManagementService.managementErrorOf ((@mutate Runtime.ascii labService
      labDelete ()).replay deniesReadback []).2.1).map (fun error =>
        (error.error, error.isPartial)) = some (("auth" : Str), false) := by
    decide +kernel
  have paths : (posts trace).map Post.path = ["/api/trust/crl/del/123456789abcd"] := by
    rw [← List.nil_append trace, ← recorded]
    decide +kernel
  generalize ((@mutate Runtime.ascii labService labDelete ()).replay deniesReadback []).2 = last
    at run reported
  rcases last with ⟨(⟨kind, detail⟩ | error | error) | result, _⟩
  · cases reported
  · cases reported
  · simp only [ManagementService.managementErrorOf, Option.map_some, Option.some.injEq,
      Prod.mk.injEq] at reported
    rcases List.map_eq_singleton_iff.mp paths with ⟨post, only, path⟩
    have member : post ∈ posts trace := by simp [only]
    rcases exists_of_mem_posts member with ⟨front, back, split⟩
    have answered : post.reply = .ok (.obj [("status", .str "deleted")]) :=
      Program.replay_answers recorded split
    refine ⟨trace, error, post, run, reported.1, reported.2, only, path, answered, ?_⟩
    rw [answered]
    rintro (⟨fields, same, validations⟩ | ⟨_, same⟩)
    · cases same
      exact absurd validations (by decide)
    · cases same
  · cases reported

omit [Runtime] in
theorem mutate_truthful_iff_denied :
    ∃ trace outcome,
      (@mutate Runtime.ascii labService labDelete).Run () trace outcome () ∧
      (CrlTruthful labService labDelete trace outcome ↔ ¬ ReadbackDenied trace) := by
  rcases Program.replay_yields deniesReadback (@mutate Runtime.ascii labService labDelete ()) []
    with ⟨trace, _, run⟩
  generalize ((@mutate Runtime.ascii labService labDelete ()).replay deniesReadback []).2 = last
    at run
  rcases last with ⟨outcome, _⟩
  exact ⟨trace, outcome, run, @mutate_truthful_iff labService trace Runtime.ascii _ _ run⟩

end CrlService

end OpnsensePlugin

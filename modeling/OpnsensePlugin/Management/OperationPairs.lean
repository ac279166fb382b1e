import OpnsensePlugin.Effects.Relational
import OpnsensePlugin.Management.OperationRuns
import OpnsensePlugin.Management.Sanitizing

/-!
# Pairs of runs of an operation

Two runs of one operation whose answers differ only in values under the names of
secrets have the same outcome, whether they return or raise.
-/

namespace OpnsensePlugin

open Effects Python

namespace Management

/-! ## Answers -/

/-- The replies are the same failure, or values that differ in secrets only. -/
abbrev RepliesAlike : Reply → Reply → Prop := OutcomesRelated SameButSecrets

/-- The firewall's answers may differ in secrets; everything else is the same. -/
def AlikeAnswers : (request : Request Role) → Answer request → Answer request → Prop
  | .get _ _ _, first, second | .post _ _ _, first, second => RepliesAlike first second
  | .append _, first, second => first = second
  | .clock, first, second => first = second
  | .lockFor _ _, first, second => first = second
  | .acquireGuard _, _, _ | .releaseGuard _, _, _ | .acquire _, _, _ | .release _, _, _ => True

section Calls

variable {State : Type} {role : Role} {path : Str}

theorem called_alike_replies {first second : Reply} (alike : RepliesAlike first second) :
    OutcomesRelated SameButSecrets (called first) (called second) := by
  cases first with
  | ok => cases second with
    | ok => exact alike
    | error => exact alike.elim
  | error => cases second with
    | ok => exact alike.elim
    | error =>
        cases alike
        rfl

theorem callGet_related {params : List (Str × Json)} :
    Action.Related AlikeAnswers SameButSecrets (callGet role path params : Py Role State Json)
      (callGet role path params) :=
  .bind (.ask fun _ _ alike => alike) fun _ _ alike => .ofExcept (called_alike_replies alike)

theorem callPost_related {payload : Json} :
    Action.Related AlikeAnswers SameButSecrets (callPost role path payload : Py Role State Json)
      (callPost role path payload) :=
  .bind (.ask fun _ _ alike => alike) fun _ _ alike => .ofExcept (called_alike_replies alike)

theorem readClock_related :
    Action.Related AlikeAnswers Eq (readClock : Py Role State Clock) readClock := by
  have asked : ∀ first second : Clock, AlikeAnswers .clock first second → first = second :=
    fun _ _ same => same
  exact @Action.Related.ask _ _ _ _ AlikeAnswers .clock _ asked

theorem auditRecord_related {entry : Clock → AuditEntry} :
    Action.Related AlikeAnswers Eq (auditRecord entry : Py Role State Unit) (auditRecord entry) := by
  refine .bind readClock_related ?_
  rintro now _ rfl
  have asked : ∀ first second : Except AppendFailure Unit,
      AlikeAnswers (.append (entry now)) first second → first = second := fun _ _ same => same
  refine .bind (@Action.Related.ask _ _ _ _ AlikeAnswers (.append (entry now)) _ asked) ?_
  rintro answer _ rfl
  refine .ofExcept ?_
  cases appended answer <;> rfl

end Calls

/-! ## The operation -/

section Operations

variable {spec : OperationSpec} {call : OperationCall}

theorem recordSent_related {entry : Clock → AuditEntry} {failure : Str} :
    Action.Related AlikeAnswers Eq (recordSent entry failure) (recordSent entry failure) := by
  refine .bind (.attempt auditRecord_related) ?_
  intro stored saved alike
  cases outcomesRelated_eq alike
  cases stored with
  | ok => exact .pure rfl
  | error =>
      refine .bind .readState ?_
      rintro posted _ rfl
      exact .raise

theorem recordPost_related {result detail : Str} :
    Action.Related AlikeAnswers Eq (recordPost call result detail) (recordPost call result detail) := by
  unfold recordPost
  split
  · exact recordSent_related
  · exact .pure rfl

theorem sendOperation_related {path : Str} {payload : List (Str × Json)} :
    Action.Related AlikeAnswers SameButSecrets (sendOperation spec path payload)
      (sendOperation spec path payload) := by
  unfold sendOperation
  split
  · exact .bind .modifyState fun _ _ _ => callPost_related
  · exact callGet_related

variable [Runtime]

theorem checkResponse_same (brackets : LowersBrackets) (plain : PlainAck spec)
    {first second : Json} (same : SameButSecrets first second) :
    checkResponse spec first = checkResponse spec second := by
  rw [← checkResponse_mask brackets plain, same, checkResponse_mask brackets plain]

omit [Runtime] in
theorem confirmedState_same {check : StatusCheck} {first second : Json}
    (same : SameButSecrets first second) :
    confirmedState check first = confirmedState check second := by
  rw [← confirmedState_mask, same, confirmedState_mask]

omit [Runtime] in
theorem ofExcept_related {α State : Type} {first second : Except Exn α} (same : first = second) :
    Action.Related AlikeAnswers Eq (Action.ofExcept first : Py Role State α)
      (Action.ofExcept second) := by
  refine .ofExcept ?_
  rw [same]
  cases second <;> rfl

omit [Runtime] in
theorem readStatus_related :
    Action.Related AlikeAnswers Eq (readStatus spec) (readStatus spec) := by
  unfold readStatus
  split
  · exact .pure rfl
  · refine .bind callGet_related ?_
    intro status other same
    refine .bind (ofExcept_related (confirmedState_same same)) ?_
    rintro state _ rfl
    exact .pure rfl

omit [Runtime] in
theorem finishOperation_related {first second : Json} (same : SameButSecrets first second) :
    Action.Related AlikeAnswers Eq (finishOperation call first) (finishOperation call second) := by
  refine .bind readStatus_related ?_
  rintro status _ rfl
  refine .bind (ofExcept_related (sanitize_same same)) ?_
  rintro result _ rfl
  refine .bind recordPost_related ?_
  intro _ _ _
  exact .pure rfl

theorem attemptOperation_related (brackets : LowersBrackets) (plain : PlainAck call.spec)
    {path : Str} {payload : List (Str × Json)} :
    Action.Related AlikeAnswers Eq (attemptOperation call path payload)
      (attemptOperation call path payload) := by
  refine .bind sendOperation_related ?_
  intro first second same
  refine .bind (ofExcept_related (checkResponse_same brackets plain same)) ?_
  intro _ _ _
  exact finishOperation_related same

omit [Runtime] in
theorem recoverOperation_related {error : Exn} :
    Action.Related AlikeAnswers Eq (recoverOperation call error) (recoverOperation call error) := by
  unfold recoverOperation
  split
  · rename_i cause
    refine .bind .readState ?_
    rintro posted _ rfl
    have recorded : Action.Related AlikeAnswers Eq
        (if posted && !cause.auditFailure then record call "error" cause.error else pure ())
        (if posted && !cause.auditFailure then record call "error" cause.error else pure ()) := by
      split
      · exact recordSent_related
      · exact .pure rfl
    refine .bind (.attempt recorded) ?_
    intro stored saved alike
    cases outcomesRelated_eq alike
    split
    · exact .raise
    · exact .raise
  · exact .raise

theorem runOperation_related (brackets : LowersBrackets) (plain : PlainAck call.spec)
    {path : Str} {payload : List (Str × Json)} :
    Action.Related AlikeAnswers Eq (runOperation call path payload)
      (runOperation call path payload) :=
  .bind recordPost_related fun _ _ _ =>
    .handle (attemptOperation_related brackets plain) fun _ => recoverOperation_related

theorem executeOperation_related (brackets : LowersBrackets) {client : Host} {actor : Str}
    {operation values : Json} :
    Action.Related AlikeAnswers Eq (executeOperation client actor operation values)
      (executeOperation client actor operation values) := by
  unfold executeOperation
  cases planned : planOperation operation values with
  | error error => exact fun _ => .done ⟨rfl, rfl⟩
  | ok plan =>
      rcases plan with ⟨spec, path, payload⟩
      have plain := operations_plain spec (planOperation_mem planned)
      rw [Action.ofExcept_ok_bind]
      refine .bind readClock_related ?_
      rintro started _ rfl
      refine .bind (ofExcept_related rfl) ?_
      rintro digest _ rfl
      refine .bind (.withState (runOperation_related brackets plain)) ?_
      rintro ⟨first, _⟩ ⟨second, _⟩ ⟨same, _⟩
      exact .pure same

end Operations

/-! ## What a run returns -/

/-- The dictionary that `execute_operation` returns -/
def OperationResult.json (value : OperationResult) : Json :=
  .obj [("operation", .str value.operation), ("accepted", .bool value.accepted),
    ("verified", .bool value.verified), ("state", value.state), ("result", value.result)]

def answered : Exchange Role → Option Reply
  | ⟨.get _ _ _, reply⟩ | ⟨.post _ _ _, reply⟩ => some reply
  | _ => none

/-- The answers of the firewall, in order -/
def answers (trace : Trace Role) : List Reply := trace.filterMap answered

/-- The result names no secret and exposes none, and sanitizing it again changes nothing. -/
structure Discreet (value : OperationResult) : Prop where
  unnamed : ∀ key ∈ allKeys value.json, isSecretKey key = false
  unexposed : ∀ text ∈ allKeys value.json ++ allTexts value.json, ¬ Exposes text
  stable : sanitize 0 value.result = .ok value.result

section Returns

variable {call : OperationCall} {trace : Trace Role} {before after : Bool} {value : OperationResult}

theorem answers_local (silent : ∀ event ∈ trace, Local event) : answers trace = [] := by
  refine List.filterMap_eq_nil_iff.mpr ?_
  intro event member
  rcases event with ⟨request, answer⟩
  rcases silent _ member with ⟨noPost, noGet⟩
  cases request with
  | get => exact absurd trivial noGet
  | post => exact absurd trivial noPost
  | _ => rfl

/-- A text of the state that a result may report -/
def IsState (spec : OperationSpec) (text : Str) : Prop :=
  text = "accepted" ∨ text = "observed" ∨ ∃ check ∈ spec.verify, text ∈ check.expected

/-- The result of `call` that the answer `response` was sanitized to -/
def ReportsOn (call : OperationCall) (response : Json) (value : OperationResult) : Prop :=
  value.operation = call.spec.id ∧ sanitize 0 response = .ok value.result ∧
    ∃ text, value.state = .str text ∧ IsState call.spec text

theorem confirmedState_returns {check : StatusCheck} {response state : Json}
    (confirmed : confirmedState check response = .ok state) :
    ∃ text ∈ check.expected, state = .str text := by
  cases response with
  | obj fields =>
      simp only [confirmedState, bind_eq_ok, raiseIf_eq_ok, pure_eq_ok] at confirmed
      rcases confirmed with ⟨_, expected, rfl⟩
      rw [Bool.not_eq_false', List.any_eq_true] at expected
      rcases expected with ⟨text, listed, isText⟩
      refine ⟨text, listed, ?_⟩
      cases status : fieldD fields "status" .null with
      | str found =>
          rw [status] at isText
          simpa [Json.isText] using isText
      | _ =>
          rw [status] at isText
          cases isText
  | _ => cases confirmed

theorem readStatus_returns {spec : OperationSpec} {status : Option Json}
    (run : (readStatus spec).Run before trace (.ok status) after) :
    ∀ state ∈ status, ∃ text, state = .str text ∧ ∃ check ∈ spec.verify, text ∈ check.expected := by
  unfold readStatus at run
  split at run
  · rw [Action.run_pure] at run
    rcases run with ⟨_, same, _⟩
    cases same
    simp
  · rename_i check verified
    rw [Action.run_bind_ok] at run
    rcases run with ⟨_, _, _, _, _, _, run⟩
    rw [Action.run_bind_ofExcept] at run
    rcases run with ⟨state, confirmed, run⟩ | ⟨_, _, _, impossible, _⟩
    · rw [Action.run_pure] at run
      rcases run with ⟨_, same, _⟩
      cases same
      rcases confirmedState_returns confirmed with ⟨text, expected, rfl⟩
      intro state found
      cases found
      exact ⟨text, rfl, check, verified, expected⟩
    · cases impossible

theorem finishOperation_returns {response : Json}
    (run : (finishOperation call response).Run before trace (.ok value) after) :
    ReportsOn call response value := by
  rw [finishOperation, Action.run_bind_ok] at run
  rcases run with ⟨_, status, _, _, _, reading, run⟩
  have states := readStatus_returns reading
  rw [Action.run_bind_ofExcept] at run
  rcases run with ⟨result, sanitized, run⟩ | ⟨_, _, _, impossible, _⟩
  · rw [Action.run_bind_ok] at run
    rcases run with ⟨_, _, _, _, _, _, run⟩
    rw [Action.run_pure] at run
    rcases run with ⟨_, same, _⟩
    cases same
    refine ⟨rfl, sanitized, ?_⟩
    cases status with
    | none =>
        refine ⟨_, rfl, ?_⟩
        split
        · exact .inl rfl
        · exact .inr (.inl rfl)
    | some state =>
        rcases states state rfl with ⟨text, rfl, check, verified, expected⟩
        exact ⟨text, rfl, .inr (.inr ⟨check, verified, expected⟩)⟩
  · cases impossible

theorem sendOperation_returns {spec : OperationSpec} {path : Str} {payload : List (Str × Json)}
    {response : Json} (run : (sendOperation spec path payload).Run before trace (.ok response) after) :
    answers trace = [.ok response] := by
  unfold sendOperation at run
  split at run
  · rw [Action.run_bind_modifyState, callPost, Action.run_bind_ask] at run
    rcases run with ⟨reply, rest, rfl, run⟩
    rw [Action.run_ofExcept] at run
    rcases run with ⟨rfl, same, _⟩
    rw [called_ok same.symm]
    rfl
  · rw [callGet, Action.run_bind_ask] at run
    rcases run with ⟨reply, rest, rfl, run⟩
    rw [Action.run_ofExcept] at run
    rcases run with ⟨rfl, same, _⟩
    rw [called_ok same.symm]
    rfl

variable [Runtime]

theorem attemptOperation_returns {path : Str} {payload : List (Str × Json)}
    (run : (attemptOperation call path payload).Run before trace (.ok value) after) :
    ∃ response rest, answers trace = .ok response :: rest ∧ ReportsOn call response value := by
  rw [attemptOperation, Action.run_bind_ok] at run
  rcases run with ⟨front, response, _, back, rfl, sending, run⟩
  have sent := sendOperation_returns sending
  rw [Action.run_bind_ofExcept] at run
  rcases run with ⟨_, _, run⟩ | ⟨_, _, _, impossible, _⟩
  · refine ⟨response, answers back, ?_, finishOperation_returns run⟩
    rw [answers, List.filterMap_append]
    exact congrArg (· ++ answers back) sent
  · cases impossible

omit [Runtime] in
theorem recoverOperation_raises {error : Exn} :
    ¬ (recoverOperation call error).Run before trace (.ok value) after := by
  intro run
  rcases error with ⟨kind, detail⟩ | error | error
  · rw [recoverOperation, Action.run_raise] at run
    · cases run.2.1
    · simp
  · rw [recoverOperation, Action.run_raise] at run
    · cases run.2.1
    · simp
  · rcases recoverOperation_run run with ⟨_, _, impossible, _⟩
    cases impossible

theorem runOperation_returns {path : Str} {payload : List (Str × Json)}
    (run : (runOperation call path payload).Run before trace (.ok value) after) :
    ∃ response rest, answers trace = .ok response :: rest ∧ ReportsOn call response value := by
  rw [runOperation, Action.run_bind_ok] at run
  rcases run with ⟨front, _, _, back, rfl, recording, run⟩
  rw [Action.run_handle] at run
  rcases run with ⟨_, same, attempt⟩ | ⟨_, _, _, _, _, _, impossible⟩
  · cases same
    rw [answers, List.filterMap_append]
    change ∃ response rest, answers front ++ answers back = _ ∧ _
    rw [answers_local (recordPost_run recording).2.1]
    exact attemptOperation_returns attempt
  · exact absurd impossible recoverOperation_raises

theorem executeOperation_returns {client : Host} {actor : Str} {operation values : Json}
    (run : (executeOperation client actor operation values).Run () trace (.ok value) ()) :
    ∃ spec ∈ operations, ∃ started digest response rest, answers trace = .ok response :: rest ∧
      ReportsOn ⟨client.name, actor, spec, started, digest⟩ response value := by
  rw [executeOperation, Action.run_bind_ofExcept] at run
  rcases run with ⟨⟨spec, path, payload⟩, planned, run⟩ | ⟨_, _, _, impossible, _⟩
  rotate_left
  · cases impossible
  rw [readClock, Action.run_bind_ask] at run
  rcases run with ⟨started, tail, rfl, run⟩
  rw [Action.run_bind_ofExcept] at run
  rcases run with ⟨digest, _, run⟩ | ⟨_, _, _, impossible, _⟩
  rotate_left
  · cases impossible
  rw [Action.run_bind_ok] at run
  rcases run with ⟨front, ⟨result, _⟩, _, back, rfl, running, run⟩
  rw [Action.run_pure] at run
  rcases run with ⟨rfl, same, _⟩
  cases same
  rw [Action.run_withState] at running
  rcases running with ⟨outcome, _, running, _, same⟩
  cases outcome with
  | error => cases same
  | ok returned =>
      cases same
      rcases runOperation_returns running with ⟨response, rest, answer, report⟩
      refine ⟨spec, planOperation_mem planned, started, digest, response, rest, ?_, report⟩
      rw [List.append_nil]
      exact answer

end Returns

/-! ## Discretion -/

theorem operations_unexposing : ∀ spec ∈ operations, ¬ Exposes spec.id ∧
    ∀ check ∈ spec.verify, ∀ text ∈ check.expected, ¬ Exposes text := by
  decide +kernel

section Discretion

variable {spec : OperationSpec} {call : OperationCall} {value : OperationResult} {response : Json}

theorem IsState.unexposing (listed : spec ∈ operations) {text : Str} (state : IsState spec text) :
    ¬ Exposes text := by
  rcases state with rfl | rfl | ⟨check, verified, expected⟩
  · decide
  · decide
  · exact (operations_unexposing spec listed).2 check verified text expected

/-- The keys of the dictionary that is returned -/
def resultKeys : List Str := ["operation", "accepted", "verified", "state", "result"]

theorem ReportsOn.keys (report : ReportsOn call response value) :
    allKeys value.json = resultKeys ++ openKeys response := by
  rcases report with ⟨_, sanitized, text, state, _⟩
  rw [← allKeys_sanitize sanitized, OperationResult.json, state]
  simp [allKeys, allKeysFields, resultKeys]

theorem ReportsOn.texts_unexposed (listed : call.spec ∈ operations)
    (report : ReportsOn call response value) : ∀ text ∈ allTexts value.json, ¬ Exposes text := by
  rcases report with ⟨operation, sanitized, state, reported, isState⟩
  intro text member
  simp only [OperationResult.json, reported, allTexts, allTextsFields, List.mem_append,
    List.mem_singleton, List.not_mem_nil, or_false, false_or] at member
  rcases member with rfl | rfl | inside
  · rw [operation]
    exact (operations_unexposing _ listed).1
  · exact isState.unexposing listed
  · exact clean_of_sanitize sanitized text inside

/-- Only a kept key of the answer can make a result indiscreet. -/
theorem ReportsOn.discreet_iff (listed : call.spec ∈ operations)
    (report : ReportsOn call response value) :
    Discreet value ↔ ∀ key ∈ openKeys response, ¬ Exposes key := by
  constructor
  · intro discreet key member
    apply discreet.unexposed
    rw [report.keys]
    simp [member]
  · intro clean
    refine ⟨?_, ?_, sanitize_sanitize report.2.1⟩
    · intro key member
      rw [report.keys] at member
      have own : ∀ key ∈ resultKeys, isSecretKey key = false := by decide
      rcases List.mem_append.mp member with fixed | kept
      · exact own key fixed
      · exact open_of_mem_openKeys kept
    · intro text member
      have own : ∀ key ∈ resultKeys, ¬ Exposes key := by decide
      rw [report.keys] at member
      rcases List.mem_append.mp member with named | inside
      · rcases List.mem_append.mp named with fixed | kept
        · exact own text fixed
        · exact clean text kept
      · exact report.texts_unexposed listed text inside

end Discretion

/-- Two runs whose answers differ in secrets only end alike. What they return is discreet exactly
if no key of the answer that is kept exposes a secret. -/
theorem executeOperation_discreet_iff [Runtime] (brackets : LowersBrackets) {client : Host}
    {actor : Str} {operation values : Json} {trace other : Trace Role}
    {outcome result : Except Exn OperationResult}
    (run : (executeOperation client actor operation values).Run () trace outcome ())
    (twin : (executeOperation client actor operation values).Run () other result ())
    (alike : Matched AlikeAnswers trace other) :
    outcome = result ∧ ∀ value, outcome = .ok value →
      (Discreet value ↔ ∀ answer, (answers trace).head? = some (.ok answer) →
        ∀ key ∈ openKeys answer, ¬ Exposes key) := by
  refine ⟨outcomesRelated_eq ((executeOperation_related brackets).outcomes run twin alike), ?_⟩
  rintro value rfl
  rcases executeOperation_returns run with ⟨spec, listed, _, _, response, rest, answer, report⟩
  rw [report.discreet_iff listed, answer]
  constructor
  · intro clean found same key member
    cases same
    exact clean key member
  · intro clean
    exact clean response rfl

/-! ### Two passwords -/

theorem lowersBrackets : @LowersBrackets Runtime.ascii := by
  intro c rest bracket
  have lowered : ∀ bracket ∈ [code '[', code '{'],
      (if code 'A' ≤ bracket ∧ bracket ≤ code 'Z' then bracket + 32 else bracket) = bracket := by
    decide
  have listed : c ∈ [code '[', code '{'] := by
    simpa [isBracket] using bracket
  exact ⟨rest.map _, congrArg (· :: _) (lowered c listed)⟩

/-- A firewall that answers each question with the same value -/
def repeats (value : Json) : (request : Request Role) → Answer request
  | .get _ _ _ | .post _ _ _ => .ok value
  | .append _ => .ok ()
  | .clock => ⟨[], 0⟩
  | .lockFor _ _ => 0
  | .acquireGuard _ | .releaseGuard _ | .acquire _ | .release _ => ()

theorem repeats_alike {first second : Json} (same : SameButSecrets first second)
    (request : Request Role) : AlikeAnswers request (repeats first request) (repeats second request) := by
  cases request with
  | get | post => exact same
  | append | clock | lockFor => rfl
  | _ => trivial

theorem replay_repeats {α : Type} {value : Json} {program : Program (Request Role) Answer α}
    {trace : Trace Role} (recorded : (program.replay (fun _ => repeats value) []).1 = [] ++ trace) :
    ∀ event ∈ trace, event.answer = repeats value event.request := by
  intro event member
  rcases List.append_of_mem member with ⟨front, back, split⟩
  exact Program.replay_answers recorded split

def firmwareInfo (password : Str) : Json :=
  .obj [("version", .str "26.1.2"), ("password", .str password)]

theorem executeOperation_discreet_iff_passwords : ∃ trace other outcome result,
    (@executeOperation Runtime.ascii labHost "qa" (.str "firmware_info") (.obj [])).Run ()
      trace outcome () ∧
    (@executeOperation Runtime.ascii labHost "qa" (.str "firmware_info") (.obj [])).Run ()
      other result () ∧
    outcome = result ∧ ∀ value, outcome = .ok value →
      (Discreet value ↔ ∀ answer, (answers trace).head? = some (.ok answer) →
        ∀ key ∈ openKeys answer, ¬ Exposes key) := by
  have same : SameButSecrets (firmwareInfo "one") (firmwareInfo "two") := rfl
  rcases Program.replay_yields (fun _ => repeats (firmwareInfo "one"))
    (@executeOperation Runtime.ascii labHost "qa" (.str "firmware_info") (.obj []) ()) []
    with ⟨trace, recorded, run⟩
  rcases Program.replay_yields (fun _ => repeats (firmwareInfo "two"))
    (@executeOperation Runtime.ascii labHost "qa" (.str "firmware_info") (.obj []) ()) []
    with ⟨other, replied, twin⟩
  have alike : Matched AlikeAnswers trace other :=
    .of_answers (repeats_alike same) (replay_repeats recorded) (replay_repeats replied)
  exact ⟨trace, other, _, _, run, twin,
    @executeOperation_discreet_iff Runtime.ascii lowersBrackets _ _ _ _ _ _ _ _ run twin alike⟩

/-- A key that is a URL with a password is returned as it is. -/
theorem executeOperation_returns_key : ∃ trace value,
    (@executeOperation Runtime.ascii labHost "qa" (.str "firmware_info") (.obj [])).Run ()
      trace (.ok value) () ∧
    ("https://user:word@fw" : Str) ∈ allKeys value.json ∧ Exposes "https://user:word@fw" ∧
      ¬ Discreet value := by
  rcases Program.replay_yields (fun _ => repeats (.obj [("https://user:word@fw", .int 1)]))
    (@executeOperation Runtime.ascii labHost "qa" (.str "firmware_info") (.obj []) ()) []
    with ⟨trace, _, run⟩
  have exposes : Exposes "https://user:word@fw" := by decide +kernel
  have kept : ((@executeOperation Runtime.ascii labHost "qa" (.str "firmware_info") (.obj [])
      ()).replay (fun _ => repeats (.obj [("https://user:word@fw", .int 1)])) []).2.1.toOption.any
        (fun value => decide (("https://user:word@fw" : Str) ∈ allKeys value.json)) = true := by
    decide +kernel
  generalize ((@executeOperation Runtime.ascii labHost "qa" (.str "firmware_info") (.obj [])
    ()).replay (fun _ => repeats (.obj [("https://user:word@fw", .int 1)])) []).2 = last at run kept
  rcases last with ⟨error | value, ⟨⟩⟩
  · cases kept
  · have member : ("https://user:word@fw" : Str) ∈ allKeys value.json := by
      simpa [Except.toOption] using kept
    refine ⟨trace, value, run, member, exposes, fun discreet => ?_⟩
    exact discreet.unexposed _ (List.mem_append_left _ member) exposes

end Management

end OpnsensePlugin

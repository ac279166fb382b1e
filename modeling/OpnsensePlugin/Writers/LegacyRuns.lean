import OpnsensePlugin.Writers.LegacyKinds

/-!
# Runs of the legacy writers

Every run of `create` is one of the cases of `CreateRun`, and every run of the
lifecycle of `update` and `delete` one of `ChangeRun`. What follows the timed
block is a `FinishRun`, and a written record a `RecordRun`.
-/

namespace OpnsensePlugin

open Effects Python

/-- An attempt to append one entry to the audit log. -/
inductive RecordRun (entry : Clock → AuditEntry) :
    Trace Party → Except Exn AuditEntry → Prop
  | stored (now : Clock) :
      RecordRun entry [⟨.clock, now⟩, ⟨.append (entry now), .ok ()⟩] (.ok (entry now))
  | lost (now : Clock) (detail : Str) :
      RecordRun entry [⟨.clock, now⟩, ⟨.append (entry now), .error (.os detail)⟩]
        (.ok (entry now))
  | unencodable (now : Clock) :
      RecordRun entry [⟨.clock, now⟩, ⟨.append (entry now), .error .encoding⟩]
        (.error unicodeEncodeError)

section Records

variable {segment : Trace Party} {entry : Clock → AuditEntry} {saved : Except Exn AuditEntry}

theorem RecordRun.posts (record : RecordRun entry segment saved) :
    posts segment = [] := by
  cases record <;> rfl

/-- What is stored is the entry. -/
theorem RecordRun.of_stored (record : RecordRun entry segment saved) {stored : AuditEntry}
    (member : stored ∈ storedEntries segment) : ∃ now, stored = entry now := by
  cases record with
  | stored now => exact ⟨now, List.mem_singleton.mp member⟩
  | lost | unencodable => cases member

theorem RecordRun.encodable (record : RecordRun entry segment saved) :
    (∃ written, saved = .ok written) ↔
      ∀ other, (⟨.append other, .error .encoding⟩ : Exchange Party) ∉ segment := by
  cases record with
  | stored | lost => simp
  | unencodable now =>
      constructor
      · rintro ⟨_, same⟩
        cases same
      · intro none
        exact absurd (by simp) (none (entry now))

end Records

namespace LegacyWriter

section

variable {State : Type} {before after : State} {trace : Trace Party} {context : LegacyContext}
  {action target result detail payloadSha256 : Str} {durationMs : Int}

theorem record_run {outcome : Except Exn AuditEntry}
    (run : (record context action target result detail payloadSha256 durationMs :
      Py Party State AuditEntry).Run before trace outcome after) :
    RecordRun (auditEntry context action target result detail payloadSha256 durationMs)
      trace outcome := by
  rw [record, readClock, Action.run_bind_ask] at run
  rcases run with ⟨now, tail, rfl, run⟩
  rw [Action.run_bind_attempt] at run
  rcases run with ⟨front, appended, middle, back, rfl, run, caught, rest⟩ | ⟨error, uncaught, run, rfl⟩
  · rw [run_auditAppend] at run
    rcases run with ⟨answer, rfl, rfl, rfl⟩
    rw [Action.run_pure] at rest
    rcases rest with ⟨rfl, rfl, rfl⟩
    rcases answer with (detail | _) | _
    · exact .lost now detail
    · exact absurd (caught _ rfl) (by simp [unicodeEncodeError, Raised.isOsError])
    · exact .stored now
  · rw [run_auditAppend] at run
    rcases run with ⟨answer, rfl, same, rfl⟩
    rcases answer with (detail | _) | _
    · cases same
      cases uncaught
    · cases same
      exact .unencodable now
    · cases same

/-- The timed block and what follows it -/
inductive TimedRun {α : Type} (Block : Trace Party → Except Exn (Except LegacyResult α) → Prop)
    (Finish : α → Int → Trace Party → Except Exn LegacyResult → Prop) :
    Trace Party → Except Exn LegacyResult → Prop
  | raised {started : Clock} {front : Trace Party} {error : Exn}
      (block : Block front (.error error)) :
      TimedRun Block Finish (⟨.clock, started⟩ :: front) (.error error)
  | returned {started ended : Clock} {front : Trace Party} {result : LegacyResult}
      (block : Block front (.ok (.error result))) :
      TimedRun Block Finish (⟨.clock, started⟩ :: front ++ [⟨.clock, ended⟩]) (.ok result)
  | finished {started ended : Clock} {front back : Trace Party} {value : α} {elapsed : Int}
      {outcome : Except Exn LegacyResult} (block : Block front (.ok (.ok value)))
      (finish : Finish value elapsed back outcome) :
      TimedRun Block Finish (⟨.clock, started⟩ :: front ++ ⟨.clock, ended⟩ :: back) outcome

theorem timed_run {α : Type} {Block : Trace Party → Except Exn (Except LegacyResult α) → Prop}
    {Finish : α → Int → Trace Party → Except Exn LegacyResult → Prop}
    {block : Py Party State (Except LegacyResult α)}
    {finish : α → Int → Py Party State LegacyResult} {outcome : Except Exn LegacyResult}
    (blockRun : ∀ {before trace outcome after}, block.Run before trace outcome after →
      Block trace outcome)
    (finishRun : ∀ {value elapsed before trace outcome after},
      (finish value elapsed).Run before trace outcome after → Finish value elapsed trace outcome)
    (run : (timed block >>= conclude finish).Run before trace outcome after) :
    TimedRun Block Finish trace outcome := by
  rw [Action.run_bind] at run
  rcases run with ⟨front, timedValue, middle, back, rfl, measured, rest⟩ | ⟨error, rfl, measured⟩
  all_goals
    rw [timed, readClock, Action.run_bind_ask] at measured
    rcases measured with ⟨started, tail, rfl, measured⟩
    rw [Action.run_bind] at measured
    rcases measured with ⟨inner, result, between, last, rfl, ran, closing⟩ | ⟨raised, same, ran⟩
  · rw [Action.run_bind_ask] at closing
    rcases closing with ⟨ended, none, rfl, closing⟩
    rw [Action.run_pure] at closing
    rcases closing with ⟨rfl, same, rfl⟩
    cases same
    cases result with
    | error result =>
        rw [conclude, Action.run_pure] at rest
        rcases rest with ⟨rfl, rfl, rfl⟩
        simpa using TimedRun.returned (blockRun ran)
    | ok value =>
        have whole : (⟨.clock, started⟩ :: (inner ++ [⟨.clock, ended⟩])) ++ back =
            (⟨.clock, started⟩ :: inner) ++ (⟨.clock, ended⟩ : Exchange Party) :: back := by
          simp
        rw [whole]
        exact .finished (blockRun ran) (finishRun rest)
  · cases same
  · rw [Action.run_bind_ask] at closing
    rcases closing with ⟨ended, none, rfl, closing⟩
    rw [Action.run_pure] at closing
    cases closing.2.1
  · cases same
    exact .raised (blockRun ran)

end

section

variable [Runtime] {Input State : Type} {writer : LegacyWriter Input} {context : LegacyContext}
  {input : Input} {before after : State} {trace : Trace Party}

omit [Runtime] in
/-- An early return after a record -/
theorem run_record_return {α : Type} {value : α} {outcome : Except Exn α}
    {action target result detail : Str}
    (run : ((record context action target result detail : Py Party State AuditEntry) >>=
      fun _ => pure value).Run before trace outcome after) :
    ∃ saved, RecordRun (auditEntry context action target result detail [] 0) trace saved ∧
      outcome = saved.map fun _ => value := by
  rw [Action.run_bind_pure] at run
  rcases run with ⟨saved, run, rfl⟩
  exact ⟨saved, record_run run, rfl⟩

omit [Runtime] in
theorem run_attempt_apply {α : Type} {next : Except Exn Unit → Py Party State α}
    {outcome : Except Exn α}
    (run : (Action.attempt isOpnsense writer.apply >>= next).Run before trace outcome after) :
    ∃ (reply : Reply) (tail : Trace Party),
      trace = ⟨.post .client writer.applyPath (.obj []), reply⟩ :: tail ∧
        (next ((received reply).map fun _ => ())).Run before tail outcome after := by
  rw [Action.run_bind_attempt] at run
  rcases run with ⟨front, result, middle, back, rfl, run, _, rest⟩ | ⟨error, uncaught, run, rfl⟩
  · rw [apply, Action.run_bind_pure] at run
    rcases run with ⟨_, run, rfl⟩
    rw [run_clientPost] at run
    rcases run with ⟨reply, rfl, rfl, rfl⟩
    exact ⟨reply, back, rfl, rest⟩
  · rw [apply, Action.run_bind_pure] at run
    rcases run with ⟨_, run, same⟩
    rw [run_clientPost] at run
    rcases run with ⟨reply, rfl, rfl, rfl⟩
    cases reply with
    | error failure =>
        rcases @received_error failure with ⟨raised, found, opnsense, _⟩
        rw [found] at same
        cases same
        simp [opnsense] at uncaught
    | ok value => cases same

/-- The timed block of `create` -/
inductive AddRun (writer : LegacyWriter Input) (context : LegacyContext) (input : Input) :
    Trace Party → Except Exn (Except LegacyResult Str) → Prop
  | refused {failure : Failure} {segment : Trace Party} {saved : Except Exn AuditEntry}
      (record : RecordRun (auditEntry context (writer.kind ++ ".create")
        (writer.refusedTarget input) "error" failure.detail [] 0) segment saved) :
      AddRun writer context input
        (⟨.post .client (writer.path writer.addName) (sentBody (writer.toPayload input)),
          .error failure⟩ :: segment)
        (saved.map fun _ => .error { ok := false, detail := failure.detail })
  | malformed {resp : Json} (malformed : resp.isObj = false) (error : Exn) :
      AddRun writer context input
        [⟨.post .client (writer.path writer.addName) (sentBody (writer.toPayload input)),
          .ok resp⟩] (.error error)
  | unnamed {fields : List (Str × Json)} {segment : Trace Party}
      {saved : Except Exn AuditEntry} (unnamed : fieldText fields "uuid" = [])
      (record : RecordRun (auditEntry context (writer.kind ++ ".create")
        (writer.failedTarget input) "error" "no uuid in response" [] 0) segment saved) :
      AddRun writer context input
        (⟨.post .client (writer.path writer.addName) (sentBody (writer.toPayload input)),
          .ok (.obj fields)⟩ :: segment)
        (saved.map fun _ => .error { ok := false, detail := "OPNsense did not return uuid" })
  | rolledBack {fields : List (Str × Json)} {failure : Failure} {compensation : Reply}
      {segment : Trace Party} {saved : Except Exn AuditEntry}
      (named : fieldText fields "uuid" ≠ [])
      (record : RecordRun (auditEntry context (writer.kind ++ ".create")
        (writer.failedTarget input) "error" (writer.rollbackNote ++ failure.detail) [] 0)
        segment saved) :
      AddRun writer context input
        (⟨.post .client (writer.path writer.addName) (sentBody (writer.toPayload input)),
          .ok (.obj fields)⟩ ::
          ⟨.post .client writer.applyPath (.obj []), .error failure⟩ ::
          ⟨.post .client (writer.itemPath writer.delName (fieldText fields "uuid")) (.obj []),
            compensation⟩ :: segment)
        (saved.map fun _ => .error
          { ok := false, detail := writer.rollbackNote ++ failure.detail })
  | applied {fields : List (Str × Json)} {value : Json}
      (named : fieldText fields "uuid" ≠ []) :
      AddRun writer context input
        [⟨.post .client (writer.path writer.addName) (sentBody (writer.toPayload input)),
          .ok (.obj fields)⟩, ⟨.post .client writer.applyPath (.obj []), .ok value⟩]
        (.ok (.ok (fieldText fields "uuid")))

theorem add_run {outcome : Except Exn (Except LegacyResult Str)}
    (run : (writer.add context input : Py Party State _).Run before trace outcome after) :
    AddRun writer context input trace outcome := by
  rw [add, run_attempt_clientPost] at run
  rcases run with ⟨reply, tail, rfl, run⟩
  cases reply with
  | error failure =>
      rcases @received_error failure with ⟨error, found, _, text⟩
      rw [found] at run
      dsimp only at run
      rw [text] at run
      rcases run_record_return run with ⟨saved, record, rfl⟩
      exact .refused record
  | ok resp =>
      rw [received_eq_ok.mpr rfl] at run
      dsimp only at run
      rw [created, Action.run_bind_ofExcept] at run
      cases resp with
      | obj fields =>
          rcases run with ⟨found, same, run⟩ | ⟨error, same, _⟩
          · rw [Json.getD, Except.ok.injEq] at same
            subst same
            have text : (fieldD fields "uuid" (.str "")).text = fieldText fields "uuid" := rfl
            rw [text] at run
            by_cases unnamed : fieldText fields "uuid" = []
            · rw [if_pos (by simp [unnamed])] at run
              rcases run_record_return run with ⟨saved, record, rfl⟩
              exact .unnamed unnamed record
            · rw [if_neg (by simpa using unnamed), applyCreated] at run
              rcases run_attempt_apply run with ⟨applied, rest, rfl, continued⟩
              cases applied with
              | error failure =>
                  rcases @received_error failure with ⟨error, found, _, text⟩
                  rw [found] at continued
                  simp only [Except.map, rollBack] at continued
                  rw [run_attempt_clientPost] at continued
                  rcases continued with ⟨compensation, segment, rfl, recorded⟩
                  rw [text] at recorded
                  rcases run_record_return recorded with ⟨saved, record, rfl⟩
                  exact .rolledBack unnamed record
              | ok value =>
                  rw [received_eq_ok.mpr rfl] at continued
                  simp only [Except.map, Action.run_pure] at continued
                  rcases continued with ⟨rfl, rfl, rfl⟩
                  exact .applied unnamed
          · cases same
      | _ =>
          rcases run with ⟨found, same, _⟩ | ⟨error, _, rfl, rfl, rfl⟩
          · cases same
          · exact .malformed rfl error

/-- The timed block of `update` and `delete` -/
inductive ChangeRun (writer : LegacyWriter Input) (context : LegacyContext)
    (action uuid path : Str) (payload : Json) :
    Trace Party → Except Exn (Except LegacyResult Unit) → Prop
  | refused {failure : Failure} {segment : Trace Party} {saved : Except Exn AuditEntry}
      (record : RecordRun (auditEntry context action uuid "error" failure.detail [] 0)
        segment saved) :
      ChangeRun writer context action uuid path payload
        (⟨.post .client path (sentBody payload), .error failure⟩ :: segment)
        (saved.map fun _ => .error { ok := false, uuid, detail := failure.detail })
  | unapplied {value : Json} {failure : Failure} {segment : Trace Party}
      {saved : Except Exn AuditEntry}
      (record : RecordRun (auditEntry context action uuid "error" failure.detail [] 0)
        segment saved) :
      ChangeRun writer context action uuid path payload
        (⟨.post .client path (sentBody payload), .ok value⟩ ::
          ⟨.post .client writer.applyPath (.obj []), .error failure⟩ :: segment)
        (saved.map fun _ => .error { ok := false, uuid, detail := failure.detail })
  | applied {value done : Json} :
      ChangeRun writer context action uuid path payload
        [⟨.post .client path (sentBody payload), .ok value⟩,
          ⟨.post .client writer.applyPath (.obj []), .ok done⟩] (.ok (.ok ()))

omit [Runtime] in
theorem change_run {action uuid path : Str} {payload : Json}
    {outcome : Except Exn (Except LegacyResult Unit)}
    (run : (writer.change context action uuid path payload : Py Party State _).Run
      before trace outcome after) :
    ChangeRun writer context action uuid path payload trace outcome := by
  rw [change, Action.run_bind_attempt] at run
  rcases run with ⟨front, result, middle, back, rfl, run, _, rest⟩ | ⟨error, uncaught, run, rfl⟩
  all_goals
    rw [clientPost, Action.run_bind_decoded] at run
    rcases run with ⟨reply, tail, rfl, ⟨value, answered, run⟩ | ⟨raised, answered, rfl, same, rfl⟩⟩
  · rw [apply, Action.run_bind_pure] at run
    rcases run with ⟨_, run, rfl⟩
    rw [run_clientPost] at run
    rcases run with ⟨applied, rfl, rfl, rfl⟩
    rw [received_eq_ok] at answered
    subst answered
    cases applied with
    | error failure =>
        rcases @received_error failure with ⟨error, found, _, text⟩
        rw [found] at rest
        simp only [Except.map] at rest
        rw [text] at rest
        rcases run_record_return rest with ⟨saved, record, rfl⟩
        exact .unapplied record
    | ok done =>
        rw [received_eq_ok.mpr rfl] at rest
        simp only [Except.map, Action.run_pure] at rest
        rcases rest with ⟨rfl, rfl, rfl⟩
        exact .applied
  · subst same
    cases reply with
    | error failure =>
        rcases @received_error failure with ⟨error, found, _, text⟩
        rw [found] at answered
        cases answered
        dsimp only at rest
        rw [text] at rest
        rcases run_record_return rest with ⟨saved, record, rfl⟩
        exact .refused record
    | ok value =>
        rw [received_eq_ok.mpr rfl] at answered
        cases answered
  · rw [apply, Action.run_bind_pure] at run
    rcases run with ⟨_, run, same⟩
    rw [run_clientPost] at run
    rcases run with ⟨applied, rfl, rfl, rfl⟩
    cases applied with
    | error failure =>
        rcases @received_error failure with ⟨raised, found, opnsense, _⟩
        rw [found] at same
        cases same
        simp [opnsense] at uncaught
    | ok done => cases same
  · cases same
    cases reply with
    | error failure =>
        rcases @received_error failure with ⟨raised, found, opnsense, _⟩
        rw [found] at answered
        cases answered
        simp [opnsense] at uncaught
    | ok value =>
        rw [received_eq_ok.mpr rfl] at answered
        cases answered

/-- A block that returned a UUID has added and applied the row. -/
theorem AddRun.of_ok {front : Trace Party} {result : Except Exn (Except LegacyResult Str)}
    {uuid : Str} (block : AddRun writer context input front result)
    (same : result = .ok (.ok uuid)) :
    ∃ fields value, uuid = fieldText fields "uuid" ∧ front =
      [⟨.post .client (writer.path writer.addName) (sentBody (writer.toPayload input)),
        .ok (.obj fields)⟩, ⟨.post .client writer.applyPath (.obj []), .ok value⟩] := by
  cases block with
  | @refused _ _ saved _ | @unnamed _ _ saved _ _ | @rolledBack _ _ _ _ saved _ _ =>
      cases saved <;> cases same
  | malformed => cases same
  | @applied fields value _ =>
      cases same
      exact ⟨fields, value, rfl, rfl⟩

omit [Runtime] in
/-- A block that did not return early has changed and applied the row. -/
theorem ChangeRun.of_ok {action uuid path : Str} {payload : Json} {front : Trace Party}
    {result : Except Exn (Except LegacyResult Unit)}
    (block : ChangeRun writer context action uuid path payload front result)
    (same : result = .ok (.ok ())) :
    ∃ value done, front =
      [⟨.post .client path (sentBody payload), .ok value⟩,
        ⟨.post .client writer.applyPath (.obj []), .ok done⟩] := by
  cases block with
  | @refused _ _ saved _ | @unapplied _ _ _ saved _ => cases saved <;> cases same
  | @applied value done => exact ⟨value, done, rfl⟩

/-! ## After the timed block -/

/-- `_maybe_sync`: it only verifies, and it returns if all that it hashes is digestible. -/
structure VerificationRun (searchPath : Str) (segment : Trace Party)
    (outcome : Except Exn (Option HaVerifier.SyncResult)) : Prop where
  requests : ∀ event ∈ segment, HaVerifier.IsVerification event.request
  returns : (∃ sync, outcome = .ok sync) ↔
    ∀ event ∈ segment, HaVerifier.Digestible searchPath event

theorem maybeSync_run (apart : writer.searchPath ≠ HaVerifier.sysinfoPath)
    {outcome : Except Exn (Option HaVerifier.SyncResult)}
    (run : (writer.maybeSync context : Py Party State _).Run before trace outcome after) :
    VerificationRun writer.searchPath trace outcome := by
  rw [maybeSync] at run
  split at run
  · rw [Action.run_pure] at run
    rcases run with ⟨rfl, rfl, _⟩
    exact ⟨by simp, by simp⟩
  · rw [Action.run_bind_pure] at run
    rcases run with ⟨result, run, rfl⟩
    refine ⟨(HaVerifier.verifyRobust_verifies before trace result after run).2, ?_⟩
    rw [← HaVerifier.verifyRobust_returns apart before trace result after run]
    cases result <;> simp [Except.map]

/-- What follows the timed block -/
inductive FinishRun (writer : LegacyWriter Input) (context : LegacyContext)
    (action target detail uuid : Str) (payload : Option Json) (durationMs : Int) :
    Trace Party → Except Exn LegacyResult → Prop
  | unverified {segment : Trace Party} {error : Exn}
      (verification : VerificationRun writer.searchPath segment (.error error)) :
      FinishRun writer context action target detail uuid payload durationMs segment
        (.error error)
  | unhashed {segment : Trace Party} {sync : Option HaVerifier.SyncResult} {error : Exn}
      (verification : VerificationRun writer.searchPath segment (.ok sync))
      (hashed : hashPayload (payload.getD .null) = .error error) :
      FinishRun writer context action target detail uuid payload durationMs segment
        (.error error)
  | recorded {segment back : Trace Party} {sync : Option HaVerifier.SyncResult} {hash : Str}
      {saved : Except Exn AuditEntry}
      (verification : VerificationRun writer.searchPath segment (.ok sync))
      (hashed : hashPayload (payload.getD .null) = .ok hash)
      (record : RecordRun (auditEntry context action target "ok" detail hash durationMs)
        back saved) :
      FinishRun writer context action target detail uuid payload durationMs (segment ++ back)
        (saved.map fun entry => { ok := true, uuid, sync, audit := some entry })

theorem finish_run (apart : writer.searchPath ≠ HaVerifier.sysinfoPath)
    {action target detail uuid : Str} {payload : Option Json} {durationMs : Int}
    {outcome : Except Exn LegacyResult}
    (run : (writer.finish context action target detail uuid payload durationMs :
      Py Party State _).Run before trace outcome after) :
    FinishRun writer context action target detail uuid payload durationMs trace outcome := by
  rw [finish, Action.run_bind] at run
  rcases run with ⟨segment, sync, middle, tail, rfl, verified, run⟩ | ⟨error, rfl, verified⟩
  · have verification := maybeSync_run apart verified
    rw [Action.run_bind_ofExcept] at run
    rcases run with ⟨hash, hashed, run⟩ | ⟨error, hashed, rfl, rfl, rfl⟩
    · rw [Action.run_bind_pure] at run
      rcases run with ⟨saved, recorded, rfl⟩
      exact .recorded verification hashed (record_run recorded)
    · simpa using FinishRun.unhashed verification hashed
  · exact .unverified (maybeSync_run apart verified)

/-! ## Whole operations -/

/-- The runs of `create` on a valid input -/
abbrev CreateRun (writer : LegacyWriter Input) (context : LegacyContext) (input : Input) :
    Trace Party → Except Exn LegacyResult → Prop :=
  TimedRun (AddRun writer context input) fun uuid durationMs =>
    FinishRun writer context (writer.kind ++ ".create") (writer.createdTarget uuid input)
      (writer.createdDetail uuid input) uuid (some (writer.toPayload input)) durationMs

theorem create_run (apart : writer.searchPath ≠ HaVerifier.sysinfoPath)
    {outcome : Except Exn LegacyResult}
    (run : (writer.create context input : Py Party State _).Run before trace outcome after) :
    (writer.validate input = .ok () ∧ CreateRun writer context input trace outcome) ∨
      ∃ error, writer.validate input = .error error ∧ trace = [] ∧ outcome = .error error := by
  rw [create, Action.run_bind_ofExcept] at run
  rcases run with ⟨_, valid, run⟩ | ⟨error, invalid, rfl, rfl, rfl⟩
  · exact .inl ⟨valid, timed_run add_run (finish_run apart) run⟩
  · exact .inr ⟨error, invalid, rfl, rfl⟩

/-- The runs of `update`, on a valid input, and of `delete` -/
abbrev ChangeAndFinishRun (writer : LegacyWriter Input) (context : LegacyContext)
    (action uuid path detail : Str) (payload : Option Json) :
    Trace Party → Except Exn LegacyResult → Prop :=
  TimedRun (ChangeRun writer context action uuid path (payload.getD (.obj []))) fun _ durationMs =>
    FinishRun writer context action uuid detail uuid payload durationMs

theorem changeAndFinish_run (apart : writer.searchPath ≠ HaVerifier.sysinfoPath)
    {action uuid path detail : Str} {payload : Option Json} {outcome : Except Exn LegacyResult}
    (run : (writer.changeAndFinish context action uuid path detail payload :
      Py Party State _).Run before trace outcome after) :
    ChangeAndFinishRun writer context action uuid path detail payload trace outcome :=
  timed_run change_run (finish_run apart) run

end

end LegacyWriter

end OpnsensePlugin

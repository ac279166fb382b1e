import OpnsensePlugin.Management.Errors

/-!
# Runs of a mutation

What a run of `mutate` has asked for by the time it returns or raises: the
preparation, the save, the apply steps up to the first that is not acknowledged,
and reads and records after that.
-/

namespace OpnsensePlugin

open Effects Python

namespace Management

variable [Runtime] {State : Type} {spec : Spec} {role : Role} {uuid target : Str}
  {trace : Trace Role}

/-! ## Reading -/

omit [Runtime] in
theorem callGet_observes {params : List (Str × Json)} :
    Action.Ensures (Action.Observes Request.IsGet)
      (callGet role target params : Py Role State Json) := by
  refine Action.ensures_bind ?_ fun _ => Action.ensures_ofExcept
  apply Action.ensures_ask
  intro state answer
  simp [Action.Observes, Request.IsGet]

omit [Runtime] in
theorem raw_observes :
    Action.Ensures (Action.Observes Request.IsGet) (raw spec uuid role : Py Role State Json) := by
  refine Action.ensures_bind Action.ensures_ofExcept fun _ => ?_
  exact Action.ensures_bind callGet_observes fun _ => Action.ensures_ofExcept

omit [Runtime] in
theorem raw_ok {before after : State} {object : Json}
    (run : (raw spec uuid role : Py Role State Json).Run before trace (.ok object) after) :
    ∃ target response, path spec spec.get uuid = .ok target ∧
      trace = [⟨.get role target [], .ok response⟩] ∧ rawOf spec response = .ok object := by
  rw [raw, Action.run_bind_ofExcept] at run
  rcases run with ⟨target, targetEq, run⟩ | ⟨_, _, _, impossible, _⟩
  rotate_left
  · cases impossible
  rw [callGet, Action.run_bind_decoded] at run
  rcases run with ⟨reply, tail, rfl, ⟨response, answered, run⟩ | ⟨_, _, _, impossible, _⟩⟩
  rotate_left
  · cases impossible
  rw [Action.run_ofExcept] at run
  rcases run with ⟨rfl, same, _⟩
  rcases reply with failure | value
  · cases answered
  · cases answered
    exact ⟨target, response, targetEq, rfl, same.symm⟩

theorem list_observes {page : Nat} :
    Action.Ensures (Action.Observes Request.IsGet)
      (list spec role page : Py Role State Listing) := by
  refine Action.ensures_bind Action.ensures_ofExcept fun _ => ?_
  exact Action.ensures_bind callGet_observes fun _ => Action.ensures_ofExcept

omit [Runtime] in
theorem raise_observes {α : Type} {allowed : Request Role → Prop} {error : Exn} :
    Action.Ensures (Action.Observes allowed) (Action.raise error : Py Role State α) := by
  intro before trace outcome after run
  rw [Action.run_raise] at run
  rcases run with ⟨rfl, _, rfl⟩
  simp [Action.Observes]

theorem scanPage_observes {present : Exn} {page observed : Nat} :
    Action.Ensures (Action.Observes Request.IsGet)
      (scanPage spec role uuid present page observed : Py Role State ScanProgress) := by
  refine Action.ensures_bind list_observes fun _ => ?_
  refine Action.ensures_bind Action.ensures_ofExcept fun _ => ?_
  exact Action.ensures_bind Action.ensures_raiseIf fun _ => Action.ensures_pure

theorem scan_observes {present incomplete : Exn} {page observed remaining : Nat} :
    Action.Ensures (Action.Observes Request.IsGet)
      (scan spec role uuid present incomplete page observed remaining : Py Role State Unit) := by
  induction remaining generalizing page observed with
  | zero =>
      refine Action.ensures_bind scanPage_observes fun progress => ?_
      cases progress with
      | complete => exact Action.ensures_pure
      | short => exact raise_observes
      | full => exact raise_observes
  | succ remaining ih =>
      refine Action.ensures_bind scanPage_observes fun progress => ?_
      cases progress with
      | complete => exact Action.ensures_pure
      | short => exact raise_observes
      | full => exact ih

/-! ## Acknowledged changes -/

def applied (spec : Spec) (reply : Reply) : Except Exn Unit := do
  let response ← called reply
  ack spec true response

end Management

namespace ManagementService

open Management

variable [Runtime] {service : ManagementService} {spec : Spec} {request : MutateRequest}
  {expected payload : Json} {started : Clock} {trace : Trace Role}

/-- The UUID that the answer to a save confirms -/
def saved (spec : Spec) (request : MutateRequest) (reply : Reply) : Except Exn Str := do
  let response ← called reply
  ack spec false response
  confirmedUuid request.action request.uuid response

def postEvent (target : Str) (body : Json) (reply : Reply) : Exchange Role :=
  ⟨.post .client target body, reply⟩

/-- The apply steps that a run has made, and how the last of them ended -/
inductive ApplyRun (spec : Spec) : List Str → Trace Role → Except Exn Unit → Prop
  | done : ApplyRun spec [] [] (.ok ())
  | acknowledged {target : Str} {rest : List Str} {reply : Reply} {trace : Trace Role}
      {outcome : Except Exn Unit} (answer : applied spec reply = .ok ())
      (later : ApplyRun spec rest trace outcome) :
      ApplyRun spec (target :: rest) (postEvent target (.obj []) reply :: trace) outcome
  | failed {target : Str} {rest : List Str} {reply : Reply} {error : Exn}
      (answer : applied spec reply = .error error) :
      ApplyRun spec (target :: rest) [postEvent target (.obj []) reply] (.error error)

theorem applyAll_run {paths : List Str} {before after : Mutation} {outcome : Except Exn Unit}
    (run : (applyAll spec paths).Run before trace outcome after) :
    after = before ∧ ApplyRun spec paths trace outcome := by
  induction paths generalizing before trace with
  | nil =>
      rw [applyAll, Action.run_pure] at run
      rcases run with ⟨rfl, rfl, rfl⟩
      exact ⟨rfl, .done⟩
  | cons target rest ih =>
      rw [applyAll, callPost, Action.run_bind_decoded] at run
      rcases run with ⟨reply, tail, rfl, ⟨response, received, run⟩ | ⟨error, failed, rfl, rfl, rfl⟩⟩
      rotate_left
      · have answer : applied spec reply = .error error := by
          simp [applied, failed, bind, Except.bind]
        exact ⟨rfl, .failed answer⟩
      rw [Action.run_bind_ofExcept] at run
      rcases run with ⟨_, accepted, run⟩ | ⟨error, refused, rfl, rfl, rfl⟩
      · have answer : applied spec reply = .ok () := by
          simp [applied, received, accepted, bind, Except.bind]
        rcases ih run with ⟨same, later⟩
        exact ⟨same, .acknowledged answer later⟩
      · have answer : applied spec reply = .error error := by
          simp [applied, received, refused, bind, Except.bind]
        exact ⟨rfl, .failed answer⟩

theorem save_run {before after : Mutation} {outcome : Except Exn Unit} {target : Str}
    (run : (save spec request payload).Run before trace outcome after)
    (targetEq : path spec (operation spec request.action) request.uuid = .ok target)
    (posted : (if payload.truthy then payload else .obj []) = payload) :
    ∃ reply : Reply, trace = [postEvent target payload reply] ∧
      ((∃ error, saved spec request reply = .error error ∧ outcome = .error error ∧
          after = before) ∨
        ∃ uuid, saved spec request reply = .ok uuid ∧ outcome = .ok () ∧
          after = ⟨.apply, uuid, some uuid⟩) := by
  rw [save, targetEq, Action.run_bind_ofExcept] at run
  rcases run with ⟨_, same, run⟩ | ⟨_, impossible, _⟩
  rotate_left
  · cases impossible
  cases same
  rw [callPost, Action.run_bind_decoded, posted] at run
  rcases run with ⟨reply, tail, rfl, ⟨response, received, run⟩ | ⟨error, failed, rfl, rfl, rfl⟩⟩
  rotate_left
  · have answer : saved spec request reply = .error error := by
      simp [saved, failed, bind, Except.bind]
    exact ⟨reply, rfl, .inl ⟨error, answer, rfl, rfl⟩⟩
  rw [Action.run_bind_ofExcept] at run
  rcases run with ⟨_, accepted, run⟩ | ⟨error, refused, rfl, rfl, rfl⟩
  rotate_left
  · have answer : saved spec request reply = .error error := by
      simp [saved, received, refused, bind, Except.bind]
    exact ⟨reply, rfl, .inl ⟨error, answer, rfl, rfl⟩⟩
  have confirmation : saved spec request reply =
      confirmedUuid request.action request.uuid response := by
    simp [saved, received, accepted, bind, Except.bind]
  rw [Action.run_bind_ofExcept] at run
  rcases run with ⟨uuid, confirmed, run⟩ | ⟨error, unconfirmed, rfl, rfl, rfl⟩
  · rw [Action.run_modifyState] at run
    rcases run with ⟨rfl, rfl, rfl⟩
    exact ⟨reply, rfl, .inr ⟨uuid, confirmation.trans confirmed, rfl, rfl⟩⟩
  · exact ⟨reply, rfl, .inl ⟨error, confirmation.trans unconfirmed, rfl, rfl⟩⟩

/-! ## Records -/

/-- A record of the mutation with the hash of its payload -/
def AuditRecorded (spec : Spec) (action : WriteAction) (uuid result : Str) (payload : Json) :
    Trace Role → Prop :=
  Recorded fun entry => entry.action = spec.id ++ "." ++ action.name ∧ entry.target = uuid ∧
    entry.result = result ∧ hashPayload payload = .ok entry.payloadSha256

theorem audit_observes {State : Type} {action : WriteAction} {uuid result : Str} :
    Action.Ensures (Action.Observes fun request => ¬ request.IsPost)
      (service.audit spec action uuid result payload started : Py Role State Unit) := by
  refine Action.ensures_bind Action.ensures_ofExcept fun hash => ?_
  refine Action.ensures_bind ?_ fun now => Action.ensures_bind ?_ fun stored => ?_
  · apply Action.ensures_ask
    intro state answer
    simp [Action.Observes, Request.IsPost]
  · apply Action.ensures_attempt
    refine Action.ensures_bind ?_ fun _ => Action.ensures_ofExcept
    apply Action.ensures_ask
    intro state answer
    simp [Action.Observes, Request.IsPost]
  · rcases stored with error | _
    · exact raise_observes
    · exact Action.ensures_pure

theorem audit_ok {State : Type} {before after : State} {action : WriteAction}
    {uuid result : Str}
    (run : (service.audit spec action uuid result payload started : Py Role State Unit).Run
      before trace (.ok ()) after) :
    InOrder [AuditRecorded spec action uuid result payload] trace := by
  rw [audit, Action.run_bind_ofExcept] at run
  rcases run with ⟨hash, hashed, run⟩ | ⟨_, _, _, impossible, _⟩
  rotate_left
  · cases impossible
  rw [readClock, Action.run_bind_ask] at run
  rcases run with ⟨now, rest, rfl, run⟩
  rw [Action.run_bind_attempt] at run
  rcases run with ⟨front, stored, middle, back, rfl, appending, _, run⟩ | ⟨_, _, _, impossible⟩
  rotate_left
  · cases impossible
  rcases stored with error | _
  · simp at run
  rw [run_auditAppend] at appending
  rcases appending with ⟨answer, rfl, same, rfl⟩
  have success := appended_eq_ok.mp same.symm
  subst success
  have recorded : AuditRecorded spec action uuid result payload [⟨.append
      (service.auditEntry spec action uuid result hash started now), .ok ()⟩] :=
    ⟨_, rfl, rfl, rfl, rfl, hashed⟩
  exact (InOrder.cons recorded .nil).skipEvent

/-! ## Preparation -/

/-- What a completed preparation has read and recorded -/
structure Prepared (spec : Spec) (request : MutateRequest) (object expected payload : Json)
    (front : Trace Role) : Prop where
  current : request.action ≠ .create → hashPayload (selectedForm object) = .ok request.revision
  intendedEq : intended spec request (selectedForm object) = .ok expected
  payloadEq : payloadOf spec expected = .ok payload
  recorded : InOrder [Action.Returned (fun _ => raw spec request.uuid .client)
      fun returned => returned = object,
    AuditRecorded spec request.action request.uuid "started" payload] front

omit [Runtime] in
theorem put_isObj {name : Str} {value result : Json} {fields : List (Str × Json)}
    (stored : put (.obj fields) name value = .ok result) : result.isObj = true := by
  simp only [put, occurs, bind_eq_ok, Except.ok.injEq, pure_eq_ok] at stored
  rcases stored with ⟨_, _, rfl⟩
  rfl

omit [Runtime] in
theorem payloadOf_posted (made : payloadOf spec expected = .ok payload) :
    (if payload.truthy then payload else .obj []) = payload := by
  have isObj : payload.isObj = true := by
    cases expected with
    | null =>
        cases made
        rfl
    | _ => exact put_isObj made
  cases payload with
  | obj fields => cases fields <;> rfl
  | _ => cases isObj

theorem checkCurrent_ok {current : Json} (checked : checkCurrent request current = .ok ())
    (changes : request.action ≠ .create) : hashPayload current = .ok request.revision := by
  rw [checkCurrent, if_neg changes] at checked
  simp only [bind_eq_ok, raiseIf_eq_ok, decide_eq_false_iff_not, not_not] at checked
  rcases checked with ⟨hash, hashed, rfl⟩
  exact hashed

theorem prepare_run {State : Type} {before after : State} {outcome : Except Exn (Json × Json)}
    (run : (service.prepare spec request started : Py Role State (Json × Json)).Run before trace
      outcome after) :
    (∀ event ∈ trace, ¬ event.request.IsPost) ∧ ∀ expected payload,
      outcome = .ok (expected, payload) →
        ∃ object, Prepared spec request object expected payload trace := by
  rw [prepare, Action.run_bind] at run
  rcases run with ⟨front, object, middle, back, rfl, reading, run⟩ | ⟨error, rfl, reading⟩
  rotate_left
  · have reads := (raw_observes _ _ _ _ reading).2
    exact ⟨fun event member => (reads event member).not_post, by simp⟩
  have reads := fun event member => ((raw_observes _ _ _ _ reading).2 event member).not_post
  have returned : Action.Returned (fun _ => raw spec request.uuid .client)
      (fun returned => returned = object) front := .intro reading rfl
  rw [Action.run_bind_ofExcept] at run
  rcases run with ⟨_, checked, run⟩ | ⟨error, _, rfl, rfl, rfl⟩
  rotate_left
  · exact ⟨by simpa using reads, by simp⟩
  rw [Action.run_bind_ofExcept] at run
  rcases run with ⟨expected, intendedEq, run⟩ | ⟨error, _, rfl, rfl, rfl⟩
  rotate_left
  · exact ⟨by simpa using reads, by simp⟩
  rw [Action.run_bind_ofExcept] at run
  rcases run with ⟨payload, payloadEq, run⟩ | ⟨error, _, rfl, rfl, rfl⟩
  rotate_left
  · exact ⟨by simpa using reads, by simp⟩
  rw [Action.run_bind] at run
  rcases run with ⟨record, _, middle, back, rfl, recording, run⟩ | ⟨error, rfl, recording⟩
  · have quiet := (audit_observes _ _ _ _ recording).2
    rw [Action.run_pure] at run
    rcases run with ⟨rfl, rfl, rfl⟩
    rw [List.append_nil]
    refine ⟨List.forall_mem_append.mpr ⟨reads, quiet⟩, fun _ _ same => ⟨object, ?_⟩⟩
    cases same
    exact ⟨checkCurrent_ok checked, intendedEq, payloadEq,
      InOrder.cons returned (audit_ok recording)⟩
  · have quiet := (audit_observes _ _ _ _ recording).2
    exact ⟨List.forall_mem_append.mpr ⟨reads, quiet⟩, by simp⟩

/-! ## Verification -/

/-- A complete scan: the pages from `page` on, after `observed` rows of earlier pages -/
inductive Scanned (spec : Spec) (role : Role) (uuid : Str) : Nat → Nat → Trace Role → Prop
  | complete {page observed : Nat} {listing : Listing} {trace : Trace Role}
      (listed : Action.Returned (fun _ => list spec role page)
        (fun returned => returned = listing) trace)
      (absent : hasUuid uuid listing.rows = .ok false)
      (all : listing.total ≤ (observed + listing.rows.length : Nat)) :
      Scanned spec role uuid page observed trace
  | next {page observed : Nat} {listing : Listing} {front back : Trace Role}
      (listed : Action.Returned (fun _ => list spec role page)
        (fun returned => returned = listing) front)
      (absent : hasUuid uuid listing.rows = .ok false)
      (rest : Scanned spec role uuid (page + 1) (observed + listing.rows.length) back) :
      Scanned spec role uuid page observed (front ++ back)

/-- The object was read, and every compared field agrees with the intended object. -/
def ReadBack (spec : Spec) (request : MutateRequest) (expected : Json) (uuid : Str) :
    Trace Role → Prop :=
  Action.Returned (fun _ => raw spec uuid .client) fun object =>
    ∀ item ∈ spec.fields, checkField (supplied request) (selectedForm object) expected item = .ok ()

/-- What a verification has found -/
structure Verified (spec : Spec) (request : MutateRequest) (expected : Json) (uuid : Str)
    (trace : Trace Role) : Prop where
  absent : request.action = .delete → InOrder [Scanned spec .client uuid 1 0] trace
  present : request.action ≠ .delete → InOrder [ReadBack spec request expected uuid] trace

theorem scanPage_ok {State : Type} {before after : State} {role : Role} {uuid : Str}
    {present : Exn} {page observed : Nat} {progress : ScanProgress}
    (run : (scanPage spec role uuid present page observed : Py Role State ScanProgress).Run
      before trace (.ok progress) after) :
    ∃ listing : Listing, Action.Returned (fun _ => list spec role page)
        (fun returned => returned = listing) trace ∧
      hasUuid uuid listing.rows = .ok false ∧
      (progress = .complete → listing.total ≤ (observed + listing.rows.length : Nat)) ∧
      ∀ count, progress = .full count → count = observed + listing.rows.length := by
  rw [scanPage, Action.run_bind_ok] at run
  rcases run with ⟨front, listing, middle, back, rfl, listed, run⟩
  rw [Action.run_bind_ofExcept] at run
  rcases run with ⟨found, searched, run⟩ | ⟨_, _, _, impossible, _⟩
  rotate_left
  · cases impossible
  rw [Action.run_bind_raiseIf] at run
  rcases run with ⟨rfl, run⟩ | ⟨_, _, impossible, _⟩
  rotate_left
  · cases impossible
  simp only [Action.run_pure, Except.ok.injEq] at run
  rcases run with ⟨rfl, rfl, _⟩
  have returned : Action.Returned (fun _ => list spec role page)
      (fun returned => returned = listing) front := .intro listed rfl
  rw [List.append_nil]
  refine ⟨listing, returned, searched, ?_, ?_⟩
  · intro complete
    split at complete
    · assumption
    · split at complete <;> cases complete
  · intro count full
    split at full
    · cases full
    · split at full <;> cases full
      rfl

theorem scan_ok {State : Type} {before after : State} {role : Role} {uuid : Str}
    {present incomplete : Exn} {page observed remaining : Nat}
    (run : (scan spec role uuid present incomplete page observed remaining :
      Py Role State Unit).Run before trace (.ok ()) after) :
    Scanned spec role uuid page observed trace := by
  induction remaining generalizing page observed before trace with
  | zero =>
      rw [scan, Action.run_bind_ok] at run
      rcases run with ⟨front, progress, middle, back, rfl, paging, run⟩
      rcases scanPage_ok paging with ⟨listing, listed, absent, all, _⟩
      cases progress with
      | complete =>
          rw [Action.run_pure] at run
          rcases run with ⟨rfl, _, _⟩
          rw [List.append_nil]
          exact .complete listed absent (all rfl)
      | short => simp at run
      | full => simp at run
  | succ remaining ih =>
      rw [scan, Action.run_bind_ok] at run
      rcases run with ⟨front, progress, middle, back, rfl, paging, run⟩
      rcases scanPage_ok paging with ⟨listing, listed, absent, all, counted⟩
      cases progress with
      | complete =>
          rw [Action.run_pure] at run
          rcases run with ⟨rfl, _, _⟩
          rw [List.append_nil]
          exact .complete listed absent (all rfl)
      | short => simp at run
      | full count =>
          have same := counted count rfl
          subst same
          exact .next listed absent (ih run)

omit [Runtime] in
theorem forM_eq_ok {α : Type} {items : List α} {check : α → Except Exn Unit}
    (passed : items.forM check = .ok ()) : ∀ item ∈ items, check item = .ok () := by
  induction items with
  | nil => simp
  | cons head rest ih =>
      change (check head >>= fun _ => rest.forM check) = .ok () at passed
      rcases bind_eq_ok.mp passed with ⟨_, first, later⟩
      exact List.forall_mem_cons.mpr ⟨first, ih later⟩

theorem readBack_observes {uuid : Str} :
    Action.Ensures (Action.Observes Request.IsGet) (readBack spec request expected uuid) := by
  refine Action.ensures_bind raw_observes fun _ => ?_
  refine Action.ensures_bind Action.ensures_ofExcept fun _ => ?_
  exact Action.ensures_bind Action.ensures_ofExcept fun _ => Action.ensures_pure

theorem readBack_ok {before after : Mutation} {uuid : Str} {actual : Json}
    (run : (readBack spec request expected uuid).Run before trace (.ok actual) after) :
    ReadBack spec request expected uuid trace := by
  rw [readBack, Action.run_bind_ok] at run
  rcases run with ⟨front, object, middle, back, rfl, reading, run⟩
  rw [Action.run_bind_ofExcept] at run
  rcases run with ⟨_, checked, run⟩ | ⟨_, _, _, impossible, _⟩
  rotate_left
  · cases impossible
  rw [Action.run_bind_ofExcept] at run
  rcases run with ⟨_, _, run⟩ | ⟨_, _, _, impossible, _⟩
  rotate_left
  · cases impossible
  rw [Action.run_pure] at run
  rcases run with ⟨rfl, _, _⟩
  rw [List.append_nil]
  exact .intro reading (forM_eq_ok checked)

theorem verifyChange_observes {uuid : Str} :
    Action.Ensures (Action.Observes Request.IsGet)
      (service.verifyChange spec request expected uuid) := by
  unfold verifyChange
  split
  · refine Action.ensures_bind scan_observes fun _ => ?_
    split
    · exact scan_observes
    · exact Action.ensures_pure
  · refine Action.ensures_bind readBack_observes fun actual => ?_
    split
    · refine Action.ensures_bind raw_observes fun _ => ?_
      refine Action.ensures_bind Action.ensures_ofExcept fun _ => ?_
      exact Action.ensures_bind Action.ensures_ofExcept fun _ => Action.ensures_raiseIf
    · exact Action.ensures_pure

theorem verifyChange_ok {before after : Mutation} {uuid : Str}
    (run : (service.verifyChange spec request expected uuid).Run before trace (.ok ()) after) :
    Verified spec request expected uuid trace := by
  unfold verifyChange at run
  split at run
  · rename_i deletes
    rw [Action.run_bind_ok] at run
    rcases run with ⟨front, _, middle, back, rfl, scanning, _⟩
    exact ⟨fun _ => .cons (scan_ok scanning) .nil, fun other => absurd deletes other⟩
  · rename_i keeps
    rw [Action.run_bind_ok] at run
    rcases run with ⟨front, actual, middle, back, rfl, reading, _⟩
    exact ⟨fun deletes => absurd deletes keeps, fun _ => .cons (readBack_ok reading) .nil⟩

/-! ## The change -/

/-- The body of the `try` statement: trace, outcome, and variables in the end -/
inductive AttemptRun (spec : Spec) (request : MutateRequest) (expected payload : Json)
    (target : Str) : Trace Role → Except Exn MutateResult → Mutation → Prop
  | unsaved {reply : Reply} {error : Exn} (answer : saved spec request reply = .error error) :
      AttemptRun spec request expected payload target [postEvent target payload reply]
        (.error error) ⟨.save, request.uuid, none⟩
  | unapplied {reply : Reply} {uuid : Str} {applies : Trace Role} {error : Exn}
      (answer : saved spec request reply = .ok uuid)
      (run : ApplyRun spec spec.apply.list applies (.error error)) :
      AttemptRun spec request expected payload target
        (postEvent target payload reply :: applies) (.error error) ⟨.apply, uuid, some uuid⟩
  | finished {reply : Reply} {uuid : Str} {applies late : Trace Role}
      {outcome : Except Exn MutateResult} (answer : saved spec request reply = .ok uuid)
      (run : ApplyRun spec spec.apply.list applies (.ok ()))
      (quiet : ∀ event ∈ late, ¬ event.request.IsPost)
      (verified : ∀ result, outcome = .ok result → result.uuid = uuid ∧ ∃ verifying record,
        late = verifying ++ record ∧ Verified spec request expected uuid verifying ∧
          InOrder [AuditRecorded spec request.action uuid "ok" payload] record) :
      AttemptRun spec request expected payload target
        (postEvent target payload reply :: (applies ++ late)) outcome ⟨.verify, uuid, some uuid⟩

theorem applyChange_run {before after : Mutation} {outcome : Except Exn Unit}
    (run : (applyChange spec).Run before trace outcome after)
    (applicable : spec.apply.list.isEmpty = true → spec.persistenceOnly = true) :
    (∃ error, outcome = .error error ∧ after = before ∧
        ApplyRun spec spec.apply.list trace (.error error)) ∨
      (outcome = .ok () ∧ after = { before with stage := .verify } ∧
        ApplyRun spec spec.apply.list trace (.ok ())) := by
  rw [applyChange, Action.run_bind_raiseIf] at run
  rcases run with ⟨_, run⟩ | ⟨unsupported, _⟩
  rotate_left
  · rw [Bool.and_eq_true] at unsupported
    have persistent := applicable unsupported.1
    simp [persistent] at unsupported
  rw [Action.run_bind] at run
  rcases run with ⟨front, _, middle, back, rfl, applying, run⟩ | ⟨error, rfl, applying⟩
  all_goals
    rcases applyAll_run applying with ⟨rfl, applies⟩
  · rw [Action.run_modifyState] at run
    rcases run with ⟨rfl, rfl, rfl⟩
    rw [List.append_nil]
    exact .inr ⟨rfl, rfl, applies⟩
  · exact .inl ⟨error, rfl, rfl, applies⟩

theorem attemptMutation_run {after : Mutation} {outcome : Except Exn MutateResult}
    {target : Str}
    (run : (service.attemptMutation spec request expected payload started).Run
      ⟨.save, request.uuid, none⟩ trace outcome after)
    (targetEq : path spec (operation spec request.action) request.uuid = .ok target)
    (posted : (if payload.truthy then payload else .obj []) = payload)
    (applicable : spec.apply.list.isEmpty = true → spec.persistenceOnly = true) :
    AttemptRun spec request expected payload target trace outcome after := by
  rw [attemptMutation, Action.run_bind] at run
  rcases run with ⟨_, _, _, rest, rfl, saving, run⟩ | ⟨error, rfl, saving⟩
  all_goals
    rcases save_run saving targetEq posted with
      ⟨reply, rfl, ⟨raised, answer, same, rfl⟩ | ⟨uuid, answer, same, rfl⟩⟩
    all_goals cases same
  rotate_left
  · exact .unsaved answer
  rw [Action.run_bind] at run
  rcases run with ⟨applies, _, _, late, rfl, applying, run⟩ | ⟨error, rfl, applying⟩
  all_goals
    rcases applyChange_run applying applicable with
      ⟨raised, same, rfl, applyRun⟩ | ⟨same, rfl, applyRun⟩
    all_goals cases same
  rotate_left
  · exact .unapplied answer applyRun
  rw [Action.run_bind_readState, Action.run_bind] at run
  rcases run with ⟨verifying, _, _, rest, rfl, verification, run⟩ | ⟨error, rfl, verification⟩
  all_goals
    rcases verifyChange_observes _ _ _ _ verification with ⟨rfl, reads⟩
    have quiet := fun event member => (reads event member).not_post
  rotate_left
  · rw [List.singleton_append]
    exact .finished answer applyRun quiet (by simp)
  have verified := verifyChange_ok verification
  rw [Action.run_bind] at run
  rcases run with ⟨record, _, _, rest, rfl, recording, run⟩ | ⟨error, rfl, recording⟩
  all_goals
    rcases audit_observes _ _ _ _ recording with ⟨rfl, silent⟩
  rotate_left
  · rw [List.singleton_append]
    exact .finished answer applyRun (List.forall_mem_append.mpr ⟨quiet, silent⟩) (by simp)
  have recorded := audit_ok recording
  have ended : rest = [] ∧ after = ⟨.verify, uuid, some uuid⟩ ∧
      ∀ result, outcome = .ok result → result.uuid = uuid := by
    rw [Action.run_bind_ofExcept] at run
    rcases run with ⟨secret, _, run⟩ | ⟨error, _, rfl, rfl, rfl⟩
    · rw [Action.run_pure] at run
      rcases run with ⟨rfl, rfl, rfl⟩
      refine ⟨rfl, rfl, fun result same => ?_⟩
      cases same
      rfl
    · exact ⟨rfl, rfl, by simp⟩
  rcases ended with ⟨rfl, rfl, named⟩
  rw [List.append_nil, List.singleton_append]
  exact .finished answer applyRun (List.forall_mem_append.mpr ⟨quiet, silent⟩)
    fun result same => ⟨named result same, verifying, record, rfl, verified, recorded⟩

/-- The handler adds records only, and reports where the attempt stopped. -/
theorem recover_run {before after : Mutation} {error : Exn}
    {outcome : Except Exn MutateResult}
    (run : (service.recover spec request payload started error).Run before trace outcome after) :
    (∀ event ∈ trace, ¬ event.request.IsPost) ∧ (∀ result, outcome ≠ .ok result) ∧
      ∀ final, outcome = .error (raised final) → ∃ cause : ManagementError,
        error = raised cause ∧ final.isPartial = (report before cause).isPartial ∧
          final.stage = (report before cause).stage ∧ final.uuid = (report before cause).uuid := by
  rcases error with ⟨kind, detail⟩ | cause | cause
  iterate 2
    · rcases Action.run_raise.mp run with ⟨rfl, rfl, rfl⟩
      exact ⟨by simp, by simp, by simp [raised]⟩
  rw [recover, Action.run_bind_readState, Action.run_bind_attempt] at run
  rcases run with ⟨front, stored, middle, back, rfl, recording, _, run⟩ |
    ⟨failure, other, recording, rfl⟩
  · have quiet := (audit_observes _ _ _ _ recording).2
    rcases stored with failure | _
    all_goals
      rw [Action.run_raise] at run
      rcases run with ⟨rfl, rfl, rfl⟩
      rw [List.append_nil]
      refine ⟨quiet, by simp, fun final same => ⟨cause, rfl, ?_⟩⟩
      cases same
      exact ⟨rfl, rfl, rfl⟩
  · refine ⟨(audit_observes _ _ _ _ recording).2, by simp, fun final same => ?_⟩
    cases same
    cases other

/-- The `try` statement: trace and outcome -/
inductive ChangeRun (spec : Spec) (request : MutateRequest) (expected payload : Json)
    (target : Str) : Trace Role → Except Exn MutateResult → Prop
  | returned {trace : Trace Role} {result : MutateResult} {after : Mutation}
      (attempt : AttemptRun spec request expected payload target trace (.ok result) after) :
      ChangeRun spec request expected payload target trace (.ok result)
  | raised {trace closing : Trace Role} {error outcome : Exn} {middle : Mutation}
      (attempt : AttemptRun spec request expected payload target trace (.error error) middle)
      (quiet : ∀ event ∈ closing, ¬ event.request.IsPost)
      (reported : ∀ final, outcome = raised final → ∃ cause : ManagementError,
        error = raised cause ∧ final.isPartial = (report middle cause).isPartial ∧
          final.stage = (report middle cause).stage ∧ final.uuid = (report middle cause).uuid) :
      ChangeRun spec request expected payload target (trace ++ closing) (.error outcome)

theorem change_run {after : Mutation} {outcome : Except Exn MutateResult} {target : Str}
    (run : (service.change spec request expected payload started).Run
      ⟨.save, request.uuid, none⟩ trace outcome after)
    (targetEq : path spec (operation spec request.action) request.uuid = .ok target)
    (posted : (if payload.truthy then payload else .obj []) = payload)
    (applicable : spec.apply.list.isEmpty = true → spec.persistenceOnly = true) :
    ChangeRun spec request expected payload target trace outcome := by
  rw [change, Action.run_handle] at run
  rcases run with ⟨result, rfl, attempt⟩ | ⟨front, error, middle, back, rfl, attempt, handling⟩
  · exact .returned (attemptMutation_run attempt targetEq posted applicable)
  have attempt := attemptMutation_run attempt targetEq posted applicable
  rcases recover_run handling with ⟨quiet, raises, reported⟩
  rcases outcome with final | result
  · exact .raised attempt quiet fun final same => reported final (congrArg _ same)
  · exact absurd rfl (raises result)

/-! ## Whole runs -/

/-- A call of `_mutate`: trace and outcome -/
inductive LockedRun (spec : Spec) (request : MutateRequest) (target : Str) :
    Trace Role → Except Exn MutateResult → Prop
  | unprepared {trace : Trace Role} {error : Exn}
      (quiet : ∀ event ∈ trace, ¬ event.request.IsPost) (fresh : Fresh error) :
      LockedRun spec request target trace (.error error)
  | changed {front trace : Trace Role} {object expected payload : Json}
      {outcome : Except Exn MutateResult} (quiet : ∀ event ∈ front, ¬ event.request.IsPost)
      (prepared : Prepared spec request object expected payload front)
      (change : ChangeRun spec request expected payload target trace outcome) :
      LockedRun spec request target (front ++ trace) outcome

theorem accept_ok {body : Json} (accepted : service.accept spec body = .ok request) :
    (∃ target, path spec (operation spec request.action) request.uuid = .ok target) ∧
      (spec.apply.list.isEmpty = true → spec.persistenceOnly = true) := by
  simp only [accept, bind_eq_ok, raiseIf_eq_ok] at accepted
  rcases accepted with ⟨_, _, accepted⟩
  cases body with
  | obj body =>
      dsimp only at accepted
      split at accepted
      · simp only [bind_eq_ok, raiseIf_eq_ok, pure_eq_ok] at accepted
        rcases accepted with ⟨_, _, identified, _, target, targetEq, _, applicable, rfl⟩
        refine ⟨⟨target, targetEq⟩, fun nothing => ?_⟩
        have absent : spec.apply.truthy = false := by
          cases applySpec : spec.apply with
          | absent => rfl
          | single path =>
              rw [applySpec, ApplySpec.list] at nothing
              by_cases empty : path.isEmpty
              · simp [ApplySpec.truthy, empty]
              · simp [empty] at nothing
          | several paths =>
              rw [applySpec, ApplySpec.list] at nothing
              simp [ApplySpec.truthy, nothing]
        simpa [absent] using applicable
      · cases accepted
  | _ => cases accepted

theorem mutateLocked_run {outcome : Except Exn MutateResult} {target : Str}
    (run : (service.mutateLocked spec request).Run () trace outcome ())
    (targetEq : path spec (operation spec request.action) request.uuid = .ok target)
    (applicable : spec.apply.list.isEmpty = true → spec.persistenceOnly = true) :
    LockedRun spec request target trace outcome := by
  rw [mutateLocked, readClock, Action.run_bind_ask] at run
  rcases run with ⟨started, rest, rfl, run⟩
  rw [Action.run_bind] at run
  rcases run with ⟨front, ⟨expected, payload⟩, _, back, rfl, preparing, run⟩ |
    ⟨error, rfl, preparing⟩
  rotate_left
  · refine .unprepared (List.forall_mem_cons.mpr ⟨by simp [Request.IsPost], ?_⟩) ?_
    · exact (prepare_run preparing).1
    · exact prepare_fresh _ _ _ _ preparing
  rcases prepare_run preparing with ⟨quiet, prepared⟩
  rcases prepared expected payload rfl with ⟨object, prepared⟩
  have posted := payloadOf_posted prepared.payloadEq
  have silent : ∀ event ∈ (⟨.clock, started⟩ :: front : Trace Role), ¬ event.request.IsPost :=
    List.forall_mem_cons.mpr ⟨by simp [Request.IsPost], quiet⟩
  have opened : Prepared spec request object expected payload (⟨.clock, started⟩ :: front) :=
    ⟨prepared.current, prepared.intendedEq, prepared.payloadEq, prepared.recorded.skipEvent⟩
  rw [← List.cons_append]
  refine .changed silent opened ?_
  rw [Action.run_bind] at run
  rcases run with ⟨changing, ⟨result, last⟩, _, rest, rfl, running, run⟩ | ⟨error, rfl, running⟩
  all_goals
    rw [Action.run_withState] at running
    rcases running with ⟨changed, final, running, _, same⟩
    rcases changed with raised | value
    all_goals cases same
  · rw [Action.run_pure] at run
    rcases run with ⟨rfl, rfl, _⟩
    rw [List.append_nil]
    exact change_run running targetEq posted applicable
  · exact change_run running targetEq posted applicable

/-- A call of `mutate`: trace and outcome -/
inductive MutateRun (service : ManagementService) (spec : Spec) (body : Json) :
    Trace Role → Except Exn MutateResult → Prop
  | refused {error : Exn} (refusal : service.accept spec body = .error error) :
      MutateRun service spec body [] (.error error)
  | locked {request : MutateRequest} {target : Str} {lock : Nat} {trace : Trace Role}
      {outcome : Except Exn MutateResult} (accepted : service.accept spec body = .ok request)
      (targetEq : path spec (operation spec request.action) request.uuid = .ok target)
      (run : LockedRun spec request target trace outcome) :
      MutateRun service spec body
        ([⟨.acquireGuard .managementLocks, ()⟩,
          ⟨.lockFor .managementLocks (service.lockKey spec), lock⟩,
          ⟨.releaseGuard .managementLocks, ()⟩, ⟨.acquire lock, ()⟩] ++
          (trace ++ [⟨.release lock, ()⟩])) outcome

theorem mutate_run {body : Json} {outcome : Except Exn MutateResult}
    (run : (service.mutate spec body).Run () trace outcome ()) :
    MutateRun service spec body trace outcome := by
  rw [mutate, Action.run_bind_ofExcept] at run
  rcases run with ⟨request, accepted, run⟩ | ⟨error, refusal, rfl, rfl, _⟩
  rotate_left
  · exact .refused refusal
  rcases accept_ok accepted with ⟨⟨target, targetEq⟩, applicable⟩
  simp only [Action.run_bind_ask] at run
  rcases run with ⟨_, _, rfl, lock, _, rfl, _, _, rfl, _, _, rfl, run⟩
  rw [Action.run_finallyDo] at run
  rcases run with ⟨front, result, _, back, closing, rfl, locked, releasing, rfl⟩
  rw [Action.run_bind_ask] at releasing
  rcases releasing with ⟨_, _, rfl, done⟩
  rw [Action.run_pure] at done
  rcases done with ⟨rfl, rfl, _⟩
  exact .locked accepted targetEq (mutateLocked_run locked targetEq applicable)

end ManagementService

end OpnsensePlugin

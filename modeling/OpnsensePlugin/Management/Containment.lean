import OpnsensePlugin.Management.Decoding
import OpnsensePlugin.Writers.Outcome

/-!
# Errors that escape a mutation

Once a change was sent, an error of the engine is reported with what was done.
The handler lets every other error through. Such an error is the fault of an
answer that the verification cannot decode, of a record that cannot be encoded,
or of the values of a delete.
-/

namespace OpnsensePlugin

open Effects Python

namespace ManagementService

open Management

/-! ## Answers after which an error escapes -/

section

variable [Runtime]

/-- The form of an object that was read from a node -/
def IsReadback (spec : Spec) (answers : Trace Role) (form : Json) : Prop :=
  ∃ target out object, ⟨.get .client target [], .ok out⟩ ∈ answers ∧
    rawOf spec out = .ok object ∧ form = selectedForm object

/-- An answer, among those after a save, after which an error that is not the engine's escapes -/
def Chokes (spec : Spec) (request : MutateRequest) (expected : Json) (answers : Trace Role) :
    Exchange Role → Prop
  | ⟨.get role _ _, .ok out⟩ =>
      if request.action = .delete then MalformedPage spec request.uuid out
      else ∃ object, rawOf spec out = .ok object ∧
        match role with
        | .client => Incomparable spec request expected object
        | .peer => Unhashable (selectedForm object) ∨
            ∃ form, IsReadback spec answers form ∧ Unhashable form
  | ⟨.append _, .error .encoding⟩ => True
  | ⟨.append entry, .ok ()⟩ => entry.result = "ok" ∧
      Action.Escapes isManagement (changesSecret request spec.fields)
  | _ => False

variable {service : ManagementService} {spec : Spec} {request : MutateRequest}
  {expected payload : Json} {answers trace : Trace Role} {started : Clock}

/-! ## Scans -/

theorem list_run {State : Type} {role : Role} {page : Nat} {before after : State}
    {outcome : Except Exn Listing}
    (run : (list spec role page : Py Role State Listing).Run before trace outcome after) :
    (trace = [] ∧ ∃ error, outcome = .error error ∧ isManagement error = true) ∨
      ∃ target params reply, trace = [⟨.get role target params, reply⟩] ∧
        outcome = called reply >>= listingOf spec := by
  rw [list, Action.run_bind_ofExcept] at run
  rcases run with ⟨target, _, run⟩ | ⟨error, unsupported, rfl, rfl, _⟩
  rotate_left
  · exact .inl ⟨rfl, error, rfl, path_contained error unsupported⟩
  rw [callGet, Action.run_bind_decoded] at run
  rcases run with ⟨reply, tail, rfl, ⟨response, answered, run⟩ | ⟨error, failed, rfl, rfl, _⟩⟩
  · rw [Action.run_ofExcept] at run
    rcases run with ⟨rfl, rfl, _⟩
    refine .inr ⟨target, _, reply, rfl, ?_⟩
    rw [answered]
    rfl
  · refine .inr ⟨target, _, reply, rfl, ?_⟩
    rw [failed]
    rfl

theorem scanPage_escapesIff {State : Type} {role : Role} {present : Exn} {page observed : Nat}
    (deletes : request.action = .delete) (known : isManagement present = true) :
    Action.EscapesIff isManagement (Chokes spec request expected answers)
      (scanPage spec role request.uuid present page observed : Py Role State ScanProgress) := by
  intro before trace outcome after run
  rw [scanPage, Action.run_bind] at run
  rcases run with ⟨front, listing, middle, back, rfl, listed, run⟩ | ⟨error, rfl, listed⟩
  all_goals
    rcases list_run listed with ⟨rfl, error, same, managed⟩ | ⟨target, params, reply, rfl, same⟩
  · cases same
  · rcases reply with failure | out
    · cases same
    have listedEq : listingOf spec out = .ok listing := same.symm
    have page : Chokes spec request expected answers ⟨.get role target params, .ok out⟩ ↔
        Action.Escapes isManagement (hasUuid request.uuid listing.rows) := by
      rw [Chokes, if_pos deletes, page_escapes_iff, listedEq]
      simp [Action.not_escapes_ok]
    have rest : back = [] ∧ (Action.Escapes isManagement outcome ↔
        Action.Escapes isManagement (hasUuid request.uuid listing.rows)) := by
      rw [Action.run_bind_ofExcept] at run
      rcases run with ⟨found, searched, run⟩ | ⟨error, failed, rfl, rfl, _⟩
      · rw [searched]
        rw [Action.run_bind_raiseIf] at run
        rcases run with ⟨_, run⟩ | ⟨_, rfl, rfl, _⟩
        · rw [Action.run_pure] at run
          rcases run with ⟨rfl, rfl, _⟩
          simp [Action.not_escapes_ok]
        · simp [Action.not_escapes_ok, Action.escapes_error, known]
      · rw [failed, Action.escapes_error, Action.escapes_error]
        simp
    rw [rest.1, rest.2, ← page]
    simp
  · cases same
    simp [Action.escapes_error, managed]
  · rcases reply with failure | out
    · have contained := @called_contained (.error failure)
      cases same
      simp [Action.escapes_error, Chokes, contained _ rfl]
    · have failed : listingOf spec out = .error error := same.symm
      simp only [List.mem_singleton, exists_eq_left, Chokes, if_pos deletes, page_escapes_iff,
        failed]
      simp [Action.escapes_error]

theorem scan_escapesIff {State : Type} {role : Role} {present incomplete : Exn}
    {page observed remaining : Nat} (deletes : request.action = .delete)
    (known : isManagement present = true) (reported : isManagement incomplete = true) :
    Action.EscapesIff isManagement (Chokes spec request expected answers)
      (scan spec role request.uuid present incomplete page observed remaining :
        Py Role State Unit) := by
  induction remaining generalizing page observed with
  | zero =>
      refine Action.escapesIff_bind (scanPage_escapesIff deletes known) ?_
      intro progress
      cases progress with
      | complete => exact Action.escapesIff_pure
      | short => exact Action.escapesIff_raise reported
      | full => exact Action.escapesIff_raise reported
  | succ remaining ih =>
      refine Action.escapesIff_bind (scanPage_escapesIff deletes known) ?_
      intro progress
      cases progress with
      | complete => exact Action.escapesIff_pure
      | short => exact Action.escapesIff_raise reported
      | full => exact ih

/-! ## Readbacks -/

omit [Runtime] in
theorem raw_run {State : Type} {role : Role} {uuid : Str} {before after : State}
    {outcome : Except Exn Json}
    (run : (raw spec uuid role : Py Role State Json).Run before trace outcome after) :
    (trace = [] ∧ ∃ error, outcome = .error error ∧ isManagement error = true) ∨
      ∃ target reply, trace = [⟨.get role target [], reply⟩] ∧
        outcome = called reply >>= rawOf spec := by
  rw [raw, Action.run_bind_ofExcept] at run
  rcases run with ⟨target, _, run⟩ | ⟨error, unsupported, rfl, rfl, _⟩
  rotate_left
  · exact .inl ⟨rfl, error, rfl, path_contained error unsupported⟩
  rw [callGet, Action.run_bind_decoded] at run
  rcases run with ⟨reply, tail, rfl, ⟨response, answered, run⟩ | ⟨error, failed, rfl, rfl, _⟩⟩
  · rw [Action.run_ofExcept] at run
    rcases run with ⟨rfl, rfl, _⟩
    refine .inr ⟨target, reply, rfl, ?_⟩
    rw [answered]
    rfl
  · refine .inr ⟨target, reply, rfl, ?_⟩
    rw [failed]
    rfl

/-- A read that fails does so with an error of the engine. -/
theorem raw_failed {State : Type} {role : Role} {uuid : Str} {before after : State} {error : Exn}
    (keeps : request.action ≠ .delete)
    (run : (raw spec uuid role : Py Role State Json).Run before trace (.error error) after) :
    isManagement error = true ∧
      ¬ ∃ event ∈ trace, Chokes spec request expected answers event := by
  rcases raw_run run with ⟨rfl, raised, same, managed⟩ | ⟨target, reply, rfl, same⟩
  · cases same
    exact ⟨managed, by simp⟩
  · rcases reply with failure | out
    · have contained := @called_contained (.error failure)
      cases same
      exact ⟨contained _ rfl, by simp [Chokes]⟩
    · have failed : rawOf spec out = .error error := same.symm
      refine ⟨rawOf_contained error failed, ?_⟩
      simp [Chokes, keeps, failed]

theorem readBack_run {uuid : Str} {before after : Mutation} {outcome : Except Exn Json}
    (keeps : request.action ≠ .delete)
    (run : (readBack spec request expected uuid).Run before trace outcome after) :
    (Action.Escapes isManagement outcome ↔
        ∃ event ∈ trace, Chokes spec request expected answers event) ∧
      ∀ actual, outcome = .ok actual → ∀ form, IsReadback spec trace form ↔ form = actual := by
  rw [readBack, Action.run_bind] at run
  rcases run with ⟨front, object, middle, back, rfl, reading, run⟩ | ⟨error, rfl, reading⟩
  rotate_left
  · rcases @raw_failed _ spec request expected answers trace _ _ _ _ _ _ keeps reading with
      ⟨managed, none⟩
    simp [Action.escapes_error, managed, none]
  rcases raw_ok reading with ⟨target, out, _, rfl, decoded⟩
  rcases rawOf_obj decoded with ⟨fields, rfl⟩
  have read : Chokes spec request expected answers ⟨.get .client target [], .ok out⟩ ↔
      Incomparable spec request expected (.obj fields) := by
    simp [Chokes, keeps, decoded]
  have rest : back = [] ∧ outcome = (do
      (do
        spec.fields.forM fun item => checkField (supplied request)
          (selectedForm (.obj fields)) expected item
        runVerify spec (selectedForm (.obj fields)) expected request.action : Except Exn Unit)
      return selectedForm (.obj fields)) := by
    simp only [Action.run_bind_ofExcept, Action.run_pure] at run
    rcases run with ⟨_, agree, ⟨_, passed, rfl, rfl, _⟩ | ⟨error, failed, rfl, rfl, _⟩⟩ |
      ⟨error, failed, rfl, rfl, _⟩
    · simp [agree, passed, bind, Except.bind, pure, Except.pure]
    · simp [agree, failed, bind, Except.bind]
    · simp [failed, bind, Except.bind]
  rcases rest with ⟨rfl, rfl⟩
  constructor
  · rw [Action.escapes_bind, comparison_escapes]
    simp [read, Action.not_escapes_ok, pure, Except.pure]
  · intro actual same form
    rcases bind_eq_ok.mp same with ⟨_, _, kept⟩
    cases kept
    constructor
    · rintro ⟨other, answer, object, member, found, rfl⟩
      simp only [List.append_nil, List.mem_singleton] at member
      cases member
      rw [decoded, Except.ok.injEq] at found
      rw [found]
    · rintro rfl
      exact ⟨target, out, _, by simp, decoded, rfl⟩

theorem comparePeer_escapesIff {uuid : Str} {actual : Json} (keeps : request.action ≠ .delete)
    (present : actual ≠ .null) (same : ∀ form, IsReadback spec answers form ↔ form = actual) :
    Action.EscapesIff isManagement (Chokes spec request expected answers)
      (comparePeer spec uuid actual) := by
  intro before trace outcome after run
  rw [comparePeer, Action.run_bind] at run
  rcases run with ⟨front, object, middle, back, rfl, reading, run⟩ | ⟨error, rfl, reading⟩
  rotate_left
  · rcases @raw_failed _ spec request expected answers trace _ _ _ _ _ _ keeps reading with
      ⟨managed, none⟩
    simp [Action.escapes_error, managed, none]
  rcases raw_ok reading with ⟨target, out, _, rfl, decoded⟩
  have read : Chokes spec request expected answers ⟨.get .peer target [], .ok out⟩ ↔
      Unhashable (selectedForm object) ∨ Unhashable actual := by
    simp [Chokes, keeps, decoded, same]
  have there := hashPayload_escapes (readback_ne_null decoded)
  have here := hashPayload_escapes present
  have rest : back = [] ∧ (Action.Escapes isManagement outcome ↔
      Unhashable (selectedForm object) ∨ Unhashable actual) := by
    rw [← there, ← here]
    simp only [Action.run_bind_ofExcept, Action.run_raiseIf] at run
    rcases run with ⟨theirs, hashed, ⟨ours, rehashed, rfl, rfl, _⟩ | ⟨error, failed, rfl, rfl, _⟩⟩ |
      ⟨error, failed, rfl, rfl, _⟩
    · rw [hashed, rehashed]
      refine ⟨rfl, ?_⟩
      split
      · simp [Action.escapes_error, Action.not_escapes_ok, isManagement, raised]
      · simp [Action.not_escapes_ok]
    · rw [hashed, failed]
      simp [Action.escapes_error, Action.not_escapes_ok]
    · rw [failed]
      have uncaught : isManagement error = false := by
        rw [hashPayload] at failed
        · split at failed
          · cases failed
          · cases failed
            rfl
        · exact readback_ne_null decoded
      simp [Action.escapes_error, uncaught]
  rw [rest.1, rest.2, ← read]
  simp

theorem isReadback_append {front back : Trace Role} {form : Json}
    (none : ¬ IsReadback spec back form) :
    IsReadback spec (front ++ back) form ↔ IsReadback spec front form := by
  constructor
  · rintro ⟨target, out, object, member, decoded, same⟩
    rcases List.mem_append.mp member with member | member
    · exact ⟨target, out, object, member, decoded, same⟩
    · exact absurd ⟨target, out, object, member, decoded, same⟩ none
  · rintro ⟨target, out, object, member, decoded, same⟩
    exact ⟨target, out, object, List.mem_append_left _ member, decoded, same⟩

/-- Not a read from the own node -/
def IsElsewhere (request : Request Role) : Prop :=
  ∀ target params, request ≠ .get .client target params

theorem not_isReadback (apart : ∀ event ∈ trace, IsElsewhere event.request) {form : Json} :
    ¬ IsReadback spec trace form := by
  rintro ⟨target, out, object, member, _⟩
  exact apart _ member target [] rfl

theorem comparePeer_reads {uuid : Str} {actual : Json} :
    Action.Ensures (Action.Observes IsElsewhere) (comparePeer spec uuid actual) := by
  apply Action.ensures_bind
  · refine Action.ensures_bind Action.ensures_ofExcept ?_
    intro target
    apply Action.ensures_bind
    · refine Action.ensures_bind ?_ fun _ => Action.ensures_ofExcept
      apply Action.ensures_ask
      intro state answer
      simp [Action.Observes, IsElsewhere]
    · exact fun _ => Action.ensures_ofExcept
  · intro object
    refine Action.ensures_bind Action.ensures_ofExcept ?_
    intro _
    exact Action.ensures_bind Action.ensures_ofExcept fun _ => Action.ensures_raiseIf

theorem readBack_ne_null {uuid : Str} {before after : Mutation} {actual : Json}
    (run : (readBack spec request expected uuid).Run before trace (.ok actual) after) :
    actual ≠ .null := by
  rw [readBack, Action.run_bind_ok] at run
  rcases run with ⟨front, object, middle, back, rfl, reading, run⟩
  rcases raw_ok reading with ⟨_, out, _, _, decoded⟩
  simp only [Action.run_bind_ofExcept, Action.run_pure, reduceCtorEq, false_and, and_false,
    exists_false, or_false, Except.ok.injEq] at run
  rcases run with ⟨_, _, _, _, _, rfl, _⟩
  exact readback_ne_null decoded

theorem verifyChange_escapes {uuid : Str} {before after : Mutation} {outcome : Except Exn Unit}
    (confirmed : request.action = .delete → uuid = request.uuid)
    (same : ∀ form, IsReadback spec answers form ↔ IsReadback spec trace form)
    (run : (service.verifyChange spec request expected uuid).Run before trace outcome after) :
    Action.Escapes isManagement outcome ↔
      ∃ event ∈ trace, Chokes spec request expected answers event := by
  unfold verifyChange at run
  split at run
  · rename_i deletes
    cases confirmed deletes
    have scans : ∀ role present incomplete, isManagement present = true →
        isManagement incomplete = true →
          Action.EscapesIff isManagement (Chokes spec request expected answers)
            (scanAll spec role request.uuid present incomplete : Py Role Mutation Unit) :=
      fun role present incomplete => scan_escapesIff deletes
    refine Action.escapesIff_bind (scans _ _ _ rfl rfl) ?_ before trace outcome after run
    intro _
    split
    · exact scans _ _ _ rfl rfl
    · exact Action.escapesIff_pure
  · rename_i keeps
    rw [Action.run_bind] at run
    rcases run with ⟨front, actual, middle, back, rfl, reading, run⟩ | ⟨error, rfl, reading⟩
    rotate_left
    · rw [← (readBack_run keeps reading).1, Action.escapes_error, Action.escapes_error]
    rcases @readBack_run _ spec request expected answers front _ _ _ _ keeps reading with
      ⟨fine, forms⟩
    have quiet := fine.not.mp Action.not_escapes_ok
    have rest : Action.Escapes isManagement outcome ↔
        ∃ event ∈ back, Chokes spec request expected answers event := by
      split at run
      · have apart := (comparePeer_reads _ _ _ _ run).2
        refine comparePeer_escapesIff keeps (readBack_ne_null reading) ?_ _ _ _ _ run
        intro form
        rw [same, isReadback_append (not_isReadback apart), forms actual rfl]
      · exact Action.escapesIff_pure _ _ _ _ run
    rw [rest]
    constructor
    · rintro ⟨event, member, choked⟩
      exact ⟨event, List.mem_append_right front member, choked⟩
    · rintro ⟨event, member, choked⟩
      rcases List.mem_append.mp member with member | member
      · exact absurd ⟨event, member, choked⟩ quiet
      · exact ⟨event, member, choked⟩

/-! ## Records -/

theorem audit_run {State : Type} {action : WriteAction} {uuid result hash : Str}
    {before after : State} {outcome : Except Exn Unit} (hashed : hashPayload payload = .ok hash)
    (run : (service.audit spec action uuid result payload started : Py Role State Unit).Run
      before trace outcome after) :
    ∃ now entry answer, trace = [⟨.clock, now⟩, ⟨.append entry, answer⟩] ∧ entry.result = result ∧
      after = before ∧
      outcome = match answer with
        | .ok () => .ok ()
        | .error (.os _) => .error auditError
        | .error .encoding => .error unicodeEncodeError := by
  rw [audit, hashed, Action.run_bind_ofExcept] at run
  rcases run with ⟨_, same, run⟩ | ⟨_, impossible, _⟩
  rotate_left
  · cases impossible
  cases same
  rw [readClock, Action.run_bind_ask] at run
  rcases run with ⟨now, rest, rfl, run⟩
  rw [Action.run_bind_attempt] at run
  rcases run with ⟨front, stored, middle, back, rfl, appending, caught, run⟩ |
    ⟨error, uncaught, appending, rfl⟩
  all_goals
    rw [run_auditAppend] at appending
    rcases appending with ⟨answer, rfl, same, rfl⟩
    refine ⟨now, service.auditEntry spec action uuid result hash started now, answer, ?_⟩
    rcases answer with (detail | _) | _
  · cases same
    rcases Action.run_raise.mp run with ⟨rfl, rfl, rfl⟩
    exact ⟨rfl, rfl, rfl, rfl⟩
  · cases same
    cases caught _ rfl
  · cases same
    rcases Action.run_pure.mp run with ⟨rfl, rfl, rfl⟩
    exact ⟨rfl, rfl, rfl, rfl⟩
  · cases same
    cases uncaught
  · cases same
    exact ⟨rfl, rfl, rfl, rfl⟩
  · cases same

/-! ## The change -/

theorem saved_contained {reply : Reply} :
    Action.Contained isManagement (saved spec request reply) := by
  refine Action.contained_bind called_contained ?_
  intro response
  cases response with
  | obj fields =>
      refine Action.contained_bind ack_contained ?_
      intro _
      unfold confirmedUuid
      split
      · have received : Action.Contained isManagement (.ok (fieldD fields "uuid" .null) : Except Exn Json) :=
          Action.contained_ok
        refine Action.contained_bind received ?_
        intro created
        cases validateUuid created with
        | ok uuid => exact Action.contained_ok
        | error error => exact Action.contained_error rfl
      · exact Action.contained_ok
  | _ => exact Action.contained_error rfl

theorem applied_contained {reply : Reply} : Action.Contained isManagement (applied spec reply) :=
  Action.contained_bind called_contained fun _ => ack_contained

theorem saved_delete {reply : Reply} {uuid : Str} (deletes : request.action = .delete)
    (answer : saved spec request reply = .ok uuid) : uuid = request.uuid := by
  simp only [saved, bind_eq_ok, confirmedUuid, deletes, reduceCtorEq, if_false, pure_eq_ok] at answer
  rcases answer with ⟨_, _, _, _, rfl⟩
  rfl

theorem ApplyRun.contained {paths : List Str} {outcome : Except Exn Unit}
    (run : ApplyRun spec paths trace outcome) :
    Action.Contained isManagement outcome ∧
      ∀ event ∈ trace, ∃ target reply, event = postEvent target (.obj []) reply := by
  induction run with
  | done => exact ⟨Action.contained_ok, by simp⟩
  | acknowledged _ _ ih => exact ⟨ih.1, List.forall_mem_cons.mpr ⟨⟨_, _, rfl⟩, ih.2⟩⟩
  | failed answer =>
      refine ⟨Action.contained_error (applied_contained _ answer), ?_⟩
      exact List.forall_mem_singleton.mpr ⟨_, _, rfl⟩

/-- What the body of the `try` statement does after the save -/
structure AttemptEnd (spec : Spec) (request : MutateRequest) (expected : Json)
    (back : Trace Role) (outcome : Except Exn MutateResult) : Prop where
  escapes : ∀ answers, (∀ form, IsReadback spec answers form ↔ IsReadback spec back form) →
    (Action.Escapes isManagement outcome ↔
      ∃ event ∈ back, Chokes spec request expected answers event)
  recorded : ∀ result, outcome = .ok result → ∃ record ∈ appends back, record.1.result = "ok"

theorem AttemptEnd.of_error {error : Exn} (managed : isManagement error = true)
    {back : Trace Role} (posted : ∀ event ∈ back, ∃ target reply,
      event = postEvent target (.obj []) reply) :
    AttemptEnd spec request expected back (.error error) := by
  refine ⟨?_, by simp⟩
  intro answers _
  rw [Action.escapes_error, managed]
  constructor
  · intro impossible
    cases impossible
  · rintro ⟨event, member, choked⟩
    rcases posted event member with ⟨target, reply, rfl⟩
    exact choked.elim

/-- The record of the success, and what follows it -/
theorem finish_end {uuid hash : Str} {applied : Bool} {before after : Mutation}
    {outcome : Except Exn MutateResult} (hashed : hashPayload payload = .ok hash)
    (run : (do
      service.audit spec request.action uuid "ok" payload started
      let secret ← Action.ofExcept (changesSecret request spec.fields)
      return { uuid, action := request.action, applied, secretChangeAcknowledged := secret } :
        Py Role Mutation MutateResult).Run before trace outcome after) :
    (∀ expected answers, Action.Escapes isManagement outcome ↔
        ∃ event ∈ trace, Chokes spec request expected answers event) ∧
      (∀ event ∈ trace, IsElsewhere event.request) ∧
      ∀ result, outcome = .ok result → ∃ record ∈ appends trace, record.1.result = "ok" := by
  rw [Action.run_bind] at run
  rcases run with ⟨front, _, middle, back, rfl, recording, run⟩ | ⟨error, rfl, recording⟩
  all_goals
    rcases audit_run hashed recording with ⟨now, entry, answer, rfl, result, rfl, same⟩
    rcases answer with (detail | _) | _
  · cases same
  · cases same
  · have rest : back = [] ∧ outcome = (do
        let secret ← changesSecret request spec.fields
        return { uuid, action := request.action, applied, secretChangeAcknowledged := secret }) := by
      simp only [Action.run_bind_ofExcept, Action.run_pure] at run
      rcases run with ⟨secret, decided, rfl, rfl, _⟩ | ⟨error, failed, rfl, rfl, _⟩
      · simp [decided, bind, Except.bind, pure, Except.pure]
      · simp [failed, bind, Except.bind]
    rcases rest with ⟨rfl, rfl⟩
    refine ⟨?_, by simp [IsElsewhere], fun _ _ => ⟨(entry, .ok ()), by simp [appends], result⟩⟩
    intro expected answers
    rw [Action.escapes_bind]
    simp [Chokes, result, Action.not_escapes_ok, pure, Except.pure]
  · cases same
    simp [Action.escapes_error, Chokes, IsElsewhere, isManagement, auditError, raised]
  · cases same
    simp [Action.escapes_error, Chokes, IsElsewhere, isManagement, unicodeEncodeError]
  · cases same

theorem attemptMutation_end {target hash : Str} {after : Mutation}
    {outcome : Except Exn MutateResult}
    (run : (service.attemptMutation spec request expected payload started).Run
      ⟨.save, request.uuid, none⟩ trace outcome after)
    (targetEq : path spec (operation spec request.action) request.uuid = .ok target)
    (posted : (if payload.truthy then payload else .obj []) = payload)
    (applicable : spec.apply.list.isEmpty = true → spec.persistenceOnly = true)
    (hashed : hashPayload payload = .ok hash) :
    ∃ reply back, trace = postEvent target payload reply :: back ∧
      AttemptEnd spec request expected back outcome := by
  rw [attemptMutation, Action.run_bind] at run
  rcases run with ⟨_, _, _, rest, rfl, saving, run⟩ | ⟨error, rfl, saving⟩
  all_goals
    rcases save_run saving targetEq posted with
      ⟨reply, rfl, ⟨raised, answer, same, rfl⟩ | ⟨uuid, answer, same, rfl⟩⟩
    all_goals cases same
  rotate_left
  · exact ⟨reply, [], rfl, .of_error (saved_contained _ answer) (by simp)⟩
  refine ⟨reply, rest, rfl, ?_⟩
  rw [Action.run_bind] at run
  rcases run with ⟨applies, _, _, late, rfl, applying, run⟩ | ⟨error, rfl, applying⟩
  all_goals
    rcases applyChange_run applying applicable with
      ⟨raised, same, rfl, applyRun⟩ | ⟨same, rfl, applyRun⟩
    all_goals cases same
  rotate_left
  · exact .of_error (applyRun.contained.1 _ rfl) applyRun.contained.2
  have sent := applyRun.contained.2
  have unread : ∀ (events : Trace Role) form,
      IsReadback spec (applies ++ events) form ↔ IsReadback spec events form := by
    intro events form
    constructor
    · rintro ⟨path, out, object, member, decoded⟩
      rcases List.mem_append.mp member with member | member
      · rcases sent _ member with ⟨_, _, impossible⟩
        cases impossible
      · exact ⟨path, out, object, member, decoded⟩
    · rintro ⟨path, out, object, member, decoded⟩
      exact ⟨path, out, object, List.mem_append_right _ member, decoded⟩
  have quiet : ∀ answers (events : Trace Role),
      (∃ event ∈ applies ++ events, Chokes spec request expected answers event) ↔
        ∃ event ∈ events, Chokes spec request expected answers event := by
    intro answers events
    constructor
    · rintro ⟨event, member, choked⟩
      rcases List.mem_append.mp member with member | member
      · rcases sent _ member with ⟨_, _, rfl⟩
        exact choked.elim
      · exact ⟨event, member, choked⟩
    · rintro ⟨event, member, choked⟩
      exact ⟨event, List.mem_append_right _ member, choked⟩
  rw [Action.run_bind_readState, Action.run_bind] at run
  rcases run with ⟨verifying, _, _, rest, rfl, verification, run⟩ | ⟨error, rfl, verification⟩
  rotate_left
  · refine ⟨?_, by simp⟩
    intro answers same
    rw [quiet, ← verifyChange_escapes (fun deletes => saved_delete deletes answer) ?_ verification,
      Action.escapes_error, Action.escapes_error]
    intro form
    rw [same, unread]
  rcases finish_end hashed run with ⟨finished, elsewhere, recorded⟩
  constructor
  · intro answers same
    have verified := (verifyChange_escapes (fun deletes => saved_delete deletes answer) (by
      intro form
      rw [same, unread, isReadback_append (not_isReadback elsewhere)]) verification).not.mp
        Action.not_escapes_ok
    rw [quiet, finished expected answers]
    constructor
    · rintro ⟨event, member, choked⟩
      exact ⟨event, List.mem_append_right _ member, choked⟩
    · rintro ⟨event, member, choked⟩
      rcases List.mem_append.mp member with member | member
      · exact absurd ⟨event, member, choked⟩ verified
      · exact ⟨event, member, choked⟩
  · intro result same
    rcases recorded result same with ⟨record, member, isOk⟩
    refine ⟨record, ?_, isOk⟩
    rw [appends_append, appends_append]
    exact List.mem_append_right _ (List.mem_append_right _ member)

theorem recover_end {hash : Str} {error : Exn} {before after : Mutation}
    {outcome : Except Exn MutateResult} (hashed : hashPayload payload = .ok hash)
    (run : (service.recover spec request payload started error).Run before trace outcome after) :
    (isManagement error = false ∧ trace = [] ∧ outcome = .error error) ∨
      (isManagement error = true ∧ (∀ event ∈ trace, IsElsewhere event.request) ∧
        (∀ expected answers, Action.Escapes isManagement outcome ↔
          ∃ event ∈ trace, Chokes spec request expected answers event) ∧
        ∃ record ∈ appends trace, record.1.result = "error") := by
  rcases error with ⟨kind, detail⟩ | cause | cause
  iterate 2
    · rcases Action.run_raise.mp run with ⟨rfl, rfl, rfl⟩
      exact .inl ⟨rfl, rfl, rfl⟩
  refine .inr ⟨rfl, ?_⟩
  rw [recover, Action.run_bind_readState, Action.run_bind_attempt] at run
  rcases run with ⟨front, stored, middle, back, rfl, recording, known, run⟩ |
    ⟨failure, uncaught, recording, rfl⟩
  all_goals
    rcases audit_run hashed recording with ⟨now, entry, answer, rfl, result, rfl, same⟩
    rcases answer with (detail | _) | _
    all_goals cases same
  · rcases Action.run_raise.mp run with ⟨rfl, rfl, rfl⟩
    refine ⟨by simp [IsElsewhere], ?_, (entry, .error (.os detail)), by simp [appends], result⟩
    simp [Action.escapes_error, Chokes, isManagement, raised]
  · cases known _ rfl
  · rcases Action.run_raise.mp run with ⟨rfl, rfl, rfl⟩
    refine ⟨by simp [IsElsewhere], ?_, (entry, .ok ()), by simp [appends], result⟩
    have other : entry.result ≠ "ok" := by
      rw [result]
      decide
    simp [Action.escapes_error, Chokes, isManagement, raised, other]
  · cases uncaught
  · refine ⟨by simp [IsElsewhere], ?_, (entry, .error .encoding), by simp [appends], result⟩
    simp [Action.escapes_error, Chokes, isManagement, unicodeEncodeError]

/-- The `try` statement: what follows the save, and the record that a call which is not left by an
error of another class has attempted -/
theorem change_end {target hash : Str} {after : Mutation} {outcome : Except Exn MutateResult}
    (run : (service.change spec request expected payload started).Run
      ⟨.save, request.uuid, none⟩ trace outcome after)
    (targetEq : path spec (operation spec request.action) request.uuid = .ok target)
    (posted : (if payload.truthy then payload else .obj []) = payload)
    (applicable : spec.apply.list.isEmpty = true → spec.persistenceOnly = true)
    (hashed : hashPayload payload = .ok hash) :
    ∃ reply back, trace = postEvent target payload reply :: back ∧
      (∀ answers, (∀ form, IsReadback spec answers form ↔ IsReadback spec back form) →
        (Action.Escapes isManagement outcome ↔
          ∃ event ∈ back, Chokes spec request expected answers event)) ∧
      (¬ Action.Escapes isManagement outcome →
        ∃ record ∈ appends back, record.1.result ∈ (["ok", "error"] : List Str)) := by
  rw [change, Action.run_handle] at run
  rcases run with ⟨result, rfl, attempt⟩ | ⟨front, error, middle, closing, rfl, attempt, handling⟩
  · rcases attemptMutation_end attempt targetEq posted applicable hashed with
      ⟨reply, back, rfl, ended⟩
    refine ⟨reply, back, rfl, ended.escapes, fun _ => ?_⟩
    rcases ended.recorded result rfl with ⟨record, member, isOk⟩
    exact ⟨record, member, by simp [isOk]⟩
  rcases attemptMutation_end attempt targetEq posted applicable hashed with
    ⟨reply, back, rfl, ended⟩
  refine ⟨reply, back ++ closing, rfl, ?_⟩
  rcases recover_end hashed handling with
    ⟨uncaught, rfl, rfl⟩ | ⟨managed, elsewhere, escapes, record, member, result⟩
  · rw [List.append_nil]
    have escaped : Action.Escapes isManagement (.error error : Except Exn MutateResult) :=
      ⟨error, rfl, uncaught⟩
    exact ⟨ended.escapes, fun contained => absurd escaped contained⟩
  · constructor
    · intro answers same
      have quiet : ¬ ∃ event ∈ back, Chokes spec request expected answers event := by
        rw [← ended.escapes answers, Action.escapes_error, managed]
        · simp
        · intro form
          rw [same, isReadback_append (not_isReadback elsewhere)]
      rw [escapes expected answers]
      constructor
      · rintro ⟨event, listed, choked⟩
        exact ⟨event, List.mem_append_right _ listed, choked⟩
      · rintro ⟨event, listed, choked⟩
        rcases List.mem_append.mp listed with listed | listed
        · exact absurd ⟨event, listed, choked⟩ quiet
        · exact ⟨event, listed, choked⟩
    · intro _
      refine ⟨record, ?_, by simp [result]⟩
      rw [appends_append]
      exact List.mem_append_right _ member

end

end ManagementService

end OpnsensePlugin

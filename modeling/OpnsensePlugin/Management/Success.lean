import OpnsensePlugin.Management.Failure
import OpnsensePlugin.Management.Preserved

/-!
# What a successful mutation has seen

`verified` in the answer of a mutation stands for reads that were made after the
last apply step: of the object itself, or of every page of the list that would
still have it.
-/

namespace OpnsensePlugin

open Effects Python

namespace Management

variable [Runtime]

/-- Equal texts, or for a field of several values equal multisets of texts -/
def AgreesOn (actual expected : Json) (item : FieldSpec) : Prop :=
  ∃ observed desired, get actual item.name (.str []) = .ok observed ∧
    get expected item.name (.str []) = .ok desired ∧
    if item.multiple then
      (splitOn (code ',') (observedText observed)).Perm (splitOn (code ',') (observedText desired))
    else observedText observed = observedText desired

def HasValue (expected : Json) (item : FieldSpec) : Prop :=
  ∃ value, get expected item.name = .ok value ∧ value ≠ .null

omit [Runtime] in
theorem get_default {data value default : Json} {name : Str} (found : get data name = .ok value)
    (present : value ≠ .null) : get data name default = .ok value := by
  cases data with
  | obj fields =>
      simp only [get, occurs, bind_eq_ok, Except.ok.injEq, pure_eq_ok] at found ⊢
      rcases found with ⟨_, rfl, rfl⟩
      refine ⟨_, rfl, ?_⟩
      cases direct : field fields name with
      | some stored => rfl
      | none =>
          rw [direct] at present
          cases nested : lookupPath (parts name) (.obj fields) with
          | some stored => rfl
          | none => simp [nested] at present
  | _ =>
      simp only [get, bind_eq_ok] at found
      rcases found with ⟨occurring, _, stopped⟩
      cases occurring with
      | true => cases stopped
      | false =>
          cases stopped
          exact absurd rfl present

theorem agrees_perm {observed desired : Json} (agree : agrees true observed desired = true) :
    (splitOn (code ',') (observedText observed)).Perm
      (splitOn (code ',') (observedText desired)) := by
  have same : sortedItems (observedText observed) = sortedItems (observedText desired) := by
    simpa [agrees] using agree
  have first := List.perm_insertionSort (fun a b => strLe a b = true)
    (splitOn (code ',') (observedText observed))
  have second := List.perm_insertionSort (fun a b => strLe a b = true)
    (splitOn (code ',') (observedText desired))
  unfold sortedItems at same
  rw [same] at first
  exact first.symm.trans second

theorem checkField_agrees {supplied : List (Str × Json)} {actual expected : Json}
    {item : FieldSpec} (checked : checkField supplied actual expected item = .ok ())
    (compared : isCompared supplied item = true) (value : HasValue expected item) :
    AgreesOn actual expected item := by
  rcases value with ⟨desired, found, present⟩
  simp only [checkField, compared, Bool.not_true, Bool.false_eq_true, if_false, bind_eq_ok, found,
    Except.ok.injEq] at checked
  rcases checked with ⟨_, rfl, checked⟩
  split at checked
  · exact absurd rfl present
  · simp only [bind_eq_ok, raiseIf_eq_ok, Bool.not_eq_false'] at checked
    rcases checked with ⟨observed, read, agree⟩
    refine ⟨observed, _, read, get_default found present, ?_⟩
    split
    · rename_i several
      rw [several] at agree
      exact agrees_perm agree
    · rename_i single
      rw [Bool.not_eq_true] at single
      simpa [single, agrees] using agree

end Management

namespace ManagementService

open Management

section

variable [Runtime] {service : ManagementService} {spec : Spec} {request : MutateRequest}
  {body expected payload : Json} {target : Str} {trace : Trace Role} {result : MutateResult}

/-- The object was read and agrees with the intended one on the compared fields `considered`. -/
def ReadsBack (spec : Spec) (request : MutateRequest) (expected : Json) (uuid : Str)
    (considered : FieldSpec → Prop) : Trace Role → Prop :=
  Action.Returned (fun _ => raw spec uuid .client) fun object =>
    ∀ item ∈ spec.fields, isCompared (supplied request) item = true → considered item →
      AgreesOn (selectedForm object) expected item

/-- A save and apply steps, all acknowledged, and the evidence after the last of them -/
structure Confirmed (spec : Spec) (request : MutateRequest) (expected payload : Json)
    (uuid : Str) (reply : Reply) (applies late : Trace Role) : Prop where
  saved : saved spec request reply = .ok uuid
  applied : (posts applies).map Post.path = spec.apply.list ∧
    ∀ post ∈ posts applies, applied spec post.reply = .ok ()
  quiet : posts late = []
  present : request.action ≠ .delete →
    InOrder [ReadsBack spec request expected uuid (HasValue expected),
      AuditRecorded spec request.action uuid "ok" payload] late
  absent : request.action = .delete →
    InOrder [Scanned spec .client uuid 1 0,
      AuditRecorded spec request.action uuid "ok" payload] late

theorem ApplyRun.paths_eq {paths : List Str} {outcome : Except Exn Unit}
    (run : ApplyRun spec paths trace outcome) (success : outcome = .ok ()) :
    (posts trace).map Post.path = paths := by
  induction run with
  | done => rfl
  | acknowledged _ _ ih => exact congrArg _ (ih success)
  | failed => cases success

theorem ReadBack.readsBack {uuid : Str} (read : ReadBack spec request expected uuid trace) :
    ReadsBack spec request expected uuid (HasValue expected) trace := by
  rcases read with ⟨State, before, object, after, run, checked⟩
  exact .intro run fun item member => checkField_agrees (checked item member)

theorem AttemptRun.confirmed {after : Mutation}
    (attempt : AttemptRun spec request expected payload target trace (.ok result) after) :
    ∃ reply applies late, trace = postEvent target payload reply :: (applies ++ late) ∧
      Confirmed spec request expected payload result.uuid reply applies late := by
  cases attempt with
  | @finished reply uuid applies late _ answer run quiet verified =>
      rcases verified result rfl with ⟨rfl, verifying, record, rfl, evidence, recorded⟩
      refine ⟨reply, applies, _, rfl, answer, ?_, posts_eq_nil quiet, ?_, ?_⟩
      · exact ⟨run.paths_eq rfl, (run.complete rfl).2⟩
      · intro keeps
        rcases evidence.present keeps with ⟨skipped, read, rest, rfl, readBack, _⟩
        have read : InOrder [ReadsBack spec request expected result.uuid (HasValue expected)]
            (skipped ++ (read ++ rest)) := (InOrder.cons readBack.readsBack .nil).skip
        exact read.append recorded
      · intro deletes
        exact (evidence.absent deletes).append recorded

theorem LockedRun.confirmed (run : LockedRun spec request target trace (.ok result)) :
    ∃ object expected payload front reply applies late,
      trace = front ++ postEvent target payload reply :: (applies ++ late) ∧ posts front = [] ∧
      Prepared spec request object expected payload front ∧
      Confirmed spec request expected payload result.uuid reply applies late := by
  cases run with
  | @changed front trace object expected payload _ quiet prepared change =>
      cases change with
      | returned attempt =>
          rcases attempt.confirmed with ⟨reply, applies, late, rfl, confirmed⟩
          exact ⟨object, expected, payload, front, reply, applies, late, rfl, posts_eq_nil quiet,
            prepared, confirmed⟩

/-- What a request intends without a hook -/
theorem intended_values {current : Json}
    (made : intended spec request current = .ok expected)
    (keeps : request.action ≠ .delete) (hook : spec.prepare = none) :
    values spec (.obj (supplied request)) current (request.action = .create) = .ok expected := by
  simp only [intended, keeps, hook, if_false, bind_eq_ok, pure_eq_ok] at made
  rcases made with ⟨merged, made, rfl⟩
  rcases values_supplied made with ⟨fields, given⟩
  have same : supplied request = fields := by
    unfold fieldD at given
    unfold supplied fieldD
    cases found : field request.body "values" with
    | none =>
        rw [found] at given
        cases given
    | some values =>
        rw [found, Option.getD_some] at given
        rw [given]
        rfl
  rw [same, ← given]
  exact made

/-- The intended object of an update without a hook has the current value of a blank secret. -/
theorem intended_keeps {object : Json} {item : FieldSpec}
    (made : intended spec request (selectedForm object) = .ok expected)
    (update : request.action = .update) (hook : spec.prepare = none)
    (kept : KeptSecret spec (supplied request) item) :
    get expected item.name = get (selectedForm object) item.name := by
  have values := intended_values made (by simp [update]) hook
  rw [update] at values
  exact values_keeps kept values

/-- A successful call was acknowledged at every step, and after its last apply step it read what
the answer vouches for and stored the record. -/
theorem mutate_confirms
    (run : (service.mutate spec body).Run () trace (.ok result) ()) :
    ∃ request target object expected payload front reply applies late,
      service.accept spec body = .ok request ∧
      path spec (operation spec request.action) request.uuid = .ok target ∧
      trace = front ++ postEvent target payload reply :: (applies ++ late) ∧ posts front = [] ∧
      Prepared spec request object expected payload front ∧
      Confirmed spec request expected payload result.uuid reply applies late ∧
      ∀ item, request.action = .update → spec.prepare = none →
        KeptSecret spec (supplied request) item →
          get expected item.name = get (selectedForm object) item.name := by
  cases mutate_run run with
  | @locked request target lock locked _ accepted targetEq inner =>
      rcases inner.confirmed with ⟨object, expected, payload, front, reply, applies, late, rfl,
        quiet, prepared, confirmed⟩
      refine ⟨request, target, object, expected, payload,
        [⟨.acquireGuard .managementLocks, ()⟩,
          ⟨.lockFor .managementLocks (service.lockKey spec), lock⟩,
          ⟨.releaseGuard .managementLocks, ()⟩, ⟨.acquire lock, ()⟩] ++ front, reply, applies,
        late ++ [⟨.release lock, ()⟩], accepted, targetEq, by simp, ?_, ?_, ?_, ?_⟩
      · rw [posts_append, quiet]
        rfl
      · exact ⟨prepared.current, prepared.intendedEq, prepared.payloadEq, prepared.recorded.skip⟩
      · refine ⟨confirmed.saved, confirmed.applied, ?_, ?_, ?_⟩
        · rw [posts_append, confirmed.quiet]
          rfl
        · exact fun keeps => (confirmed.present keeps).extend
        · exact fun deletes => (confirmed.absent deletes).extend
      · exact fun item => intended_keeps prepared.intendedEq

end

/-! ### A password of the node's own -/

/-- A node that stores a password where the saved object has none -/
def fillsPassword (history : Trace Role) : (request : Request Role) → Answer request
  | .get _ _ _ =>
      if (posts history).isEmpty then .ok (.obj [("item", .obj [("name", .str "old")])])
      else .ok (.obj [("item", .obj [("name", .str "new"), ("password", .str "secret")])])
  | .post _ _ _ => .ok (.obj [("status", .str "ok")])
  | .append _ => .ok ()
  | .clock => ⟨[], 0⟩
  | .lockFor _ _ => 0
  | .acquireGuard _ | .releaseGuard _ | .acquire _ | .release _ => ()

theorem fillsPassword_run :
    ∃ trace result,
      (@mutate Runtime.ascii demoService demoSpec demoUpdate).Run () trace (.ok result) () ∧
      (Program.replay fillsPassword (@mutate Runtime.ascii demoService demoSpec demoUpdate ())
        []).1 = trace := by
  rcases Program.replay_yields fillsPassword
    (@mutate Runtime.ascii demoService demoSpec demoUpdate ()) [] with ⟨trace, recorded, run⟩
  have success : ((@mutate Runtime.ascii demoService demoSpec demoUpdate ()).replay
      fillsPassword []).2.1.toOption.isSome = true := by
    decide +kernel
  generalize ((@mutate Runtime.ascii demoService demoSpec demoUpdate ()).replay
    fillsPassword []).2 = last at run success
  rcases last with ⟨error | result, _⟩
  · cases success
  · exact ⟨trace, result, run, recorded⟩

theorem mutate_confirms_update :
    ∃ trace result,
      (@mutate Runtime.ascii demoService demoSpec demoUpdate).Run () trace (.ok result) () ∧
      ∃ request expected payload reply applies late,
        @Confirmed Runtime.ascii demoSpec request expected payload result.uuid reply applies
          late := by
  rcases fillsPassword_run with ⟨trace, result, run, _⟩
  rcases @mutate_confirms Runtime.ascii demoService demoSpec demoUpdate trace result run with
    ⟨request, _, _, expected, payload, _, reply, applies, late, _, _, _, _, _, confirmed, _⟩
  exact ⟨trace, result, run, request, expected, payload, reply, applies, late, confirmed⟩

def demoRequest : MutateRequest where
  action := .update
  uuid := demoUuid
  revision := demoRevision
  body := [("action", .str "update"), ("uuid", .str demoUuid), ("revision", .str demoRevision),
    ("values", .obj [("name", .str "new"), ("password", .str [])])]

def demoIntended : Json := .obj [("name", .str "new")]

def filledObject : Json := .obj [("name", .str "new"), ("password", .str "secret")]

theorem filledObject_disagrees :
    ¬ @AgreesOn Runtime.ascii filledObject demoIntended { name := "password", secret := true } := by
  rintro ⟨observed, desired, read, meant, same⟩
  cases read
  cases meant
  exact absurd same (by decide)

/-- Every read of the object after the save shows the password. -/
theorem fillsPassword_read {trace front back : Trace Role} {event : Exchange Role}
    {property : Json → Prop}
    (recorded : (Program.replay fillsPassword
      (@mutate Runtime.ascii demoService demoSpec demoUpdate ()) []).1 = trace)
    (split : trace = front ++ event :: back) (saved : posts front ≠ [])
    (read : Action.Returned (fun _ => raw demoSpec demoUuid .client) property [event]) :
    property filledObject := by
  rcases read with ⟨State, before, object, after, run, holds⟩
  rcases raw_ok run with ⟨target, response, _, same, objectEq⟩
  cases same
  have answered := Program.replay_answers recorded split
  simp only [fillsPassword, List.nil_append, List.isEmpty_iff, saved, if_false,
    Except.ok.injEq] at answered
  subst answered
  cases objectEq
  exact holds

/-- The password was sent blank, the intended object has none, and every read of the object after
the last apply step shows one. -/
theorem mutate_unconfirmed_password :
    ∃ trace result front body reply late,
      (@mutate Runtime.ascii demoService demoSpec demoUpdate).Run () trace (.ok result) () ∧
      @accept Runtime.ascii demoService demoSpec demoUpdate = .ok demoRequest ∧
      @intended Runtime.ascii demoSpec demoRequest (.obj [("name", .str "old")]) =
        .ok demoIntended ∧
      trace = front ++ ⟨.post .client "/api/demo/service/reconfigure" body, reply⟩ :: late ∧
      posts late = [] ∧
      ¬ InOrder [@ReadsBack Runtime.ascii demoSpec demoRequest demoIntended demoUuid
        fun _ => True] late := by
  rcases fillsPassword_run with ⟨trace, result, run, recorded⟩
  have paths : (posts trace).map (fun post => (post.node, post.path)) =
      ([(.client, "/api/demo/settings/setItem/11111111-1111-4111-8111-111111111111"),
        (.client, "/api/demo/service/reconfigure")] : List (Role × Str)) := by
    rw [← recorded]
    decide +kernel
  rcases List.map_eq_cons_iff.mp paths with ⟨save, _, both, _, rest⟩
  rcases List.map_eq_singleton_iff.mp rest with ⟨apply, rfl, applyEq⟩
  have last : posts trace = [save] ++ [apply] := both
  rcases exists_of_posts_concat last with ⟨front, late, rfl, saved, quiet⟩
  rcases Prod.mk.inj applyEq with ⟨node, path⟩
  refine ⟨_, result, front, apply.body, apply.reply, late, run, rfl, rfl, ?_, quiet, ?_⟩
  · rw [node, path]
  · rintro ⟨skipped, found, rest, rfl, read, _⟩
    have seen : ∃ event, found = [event] := by
      rcases read with ⟨_, _, _, _, reading, _⟩
      rcases raw_ok reading with ⟨_, _, _, rfl, _⟩
      exact ⟨_, rfl⟩
    rcases seen with ⟨event, rfl⟩
    have agreed := fillsPassword_read recorded
      (List.append_assoc front (_ :: skipped) (event :: rest)).symm (by simp [saved]) read
    exact filledObject_disagrees (agreed _ (by simp [demoSpec]) (by decide) trivial)

end ManagementService

end OpnsensePlugin

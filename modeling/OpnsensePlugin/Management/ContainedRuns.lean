import OpnsensePlugin.Management.Containment
import OpnsensePlugin.Management.Failure
import OpnsensePlugin.Management.Preserved

/-!
# Contained mutations

A call that has sent its save returns, or raises an error that says so and has
attempted its last record, unless an answer after the save chokes it.
-/

namespace OpnsensePlugin

open Effects Python

namespace ManagementService

open Management

section

variable [Runtime] {service : ManagementService} {spec : Spec} {request : MutateRequest}
  {expected payload : Json} {trace : Trace Role}

/-! ## The intended object -/

omit [Runtime] in
theorem lookupPath_put_self {value : Json} {path : List Str} (some_ : path ≠ []) :
    ∀ fields, lookupPath path (.obj (putPath value path fields)) = some value := by
  induction path with
  | nil => exact absurd rfl some_
  | cons part rest ih =>
      intro fields
      cases rest with
      | nil => simp [putPath, lookupPath, field_setField_self]
      | cons next others =>
          simp only [putPath, lookupPath, field_setField_self, Option.bind_some]
          exact ih (by simp) _

/-- The object that a change sends under the key of its specification -/
def sentObject (spec : Spec) (body : Json) : Json :=
  match get body spec.key with
  | .ok object => object
  | .error _ => .null

omit [Runtime] in
theorem get_put_self {name : Str} {value result : Json}
    (stored : put (.obj []) name value = .ok result) : get result name = .ok value := by
  have made : result = .obj (putPath value (parts name) []) := by
    simpa [put, occurs, field, bind, Except.bind, pure, Except.pure] using stored.symm
  have got : get result name = .ok ((field (putPath value (parts name) []) name).getD
      ((lookupPath (parts name) result).getD .null)) := by
    rw [made]
    rfl
  have some_ : parts name ≠ [] := splitOn_ne_nil
  rw [got, made, lookupPath_put_self some_]
  by_cases dotted : code '.' ∈ name
  · have apart : field (putPath value (parts name) []) name = none := by
      cases split : parts name with
      | nil => exact absurd split splitOn_ne_nil
      | cons head rest =>
          have clean : code '.' ∉ head := not_mem_of_mem_splitOn (split ▸ List.mem_cons_self)
          have different : name ≠ head := by
            rintro rfl
            exact clean dotted
          rcases @putPath_eq value [] head rest with ⟨inner, same⟩
          rw [same, field_setField_ne different]
          rfl
    rw [apart]
    rfl
  · have flat : parts name = [name] := splitOn_of_not_mem dotted
    simp [flat, putPath, field_setField_self]

omit [Runtime] in
theorem sentObject_eq (made : payloadOf spec expected = .ok payload) :
    sentObject spec payload = expected := by
  cases expected with
  | null =>
      cases made
      have absent : lookupPath (parts spec.key) (.obj []) = none := by
        cases split : parts spec.key with
        | nil => exact absurd split splitOn_ne_nil
        | cons head rest => rfl
      have got : Management.get (.obj []) spec.key =
          .ok ((lookupPath (parts spec.key) (.obj [])).getD .null) := rfl
      rw [sentObject, got, absent]
      rfl
  | _ => rw [sentObject, get_put_self made]

/-! ## Whole calls -/

/-- Once a change was sent, the call returns or raises an error of the engine that says so, and
has attempted its last record. -/
def IsContained (trace : Trace Role) (outcome : Except Exn MutateResult) : Prop :=
  posts trace = [] ∨
    ((∃ result, outcome = .ok result) ∨ ∃ error, outcome = .error (raised error) ∧
        error.stage ≠ none ∧ (error.isPartial = true ∨
          ∃ save, posts trace = [save] ∧ HasValidations save.reply)) ∧
      ∃ front target payload reply back, trace = front ++ postEvent target payload reply :: back ∧
        ∃ record ∈ appends back, record.1.result ∈ (["ok", "error"] : List Str)

/-- One of the answers after the save cannot be digested. -/
def Choked (spec : Spec) (request : MutateRequest) (trace : Trace Role) : Prop :=
  ∃ front target payload reply back, trace = front ++ postEvent target payload reply :: back ∧
    posts front = [] ∧ ∃ event ∈ back, Chokes spec request (sentObject spec payload) back event

omit [Runtime] in
theorem firstPost_unique {front other back rest : Trace Role} {target path : Str}
    {payload body : Json} {reply answer : Reply} (quiet : posts front = [])
    (silent : posts other = []) (same : front ++ postEvent target payload reply :: back =
      other ++ postEvent path body answer :: rest) : payload = body ∧ back = rest := by
  induction front generalizing other with
  | nil =>
      cases other with
      | nil =>
          cases same
          exact ⟨rfl, rfl⟩
      | cons event events =>
          rcases List.cons.inj same with ⟨rfl, _⟩
          rw [postEvent, posts_post] at silent
          cases silent
  | cons first front ih =>
      cases other with
      | nil =>
          rcases List.cons.inj same with ⟨rfl, _⟩
          rw [postEvent, posts_post] at quiet
          cases quiet
      | cons event events =>
          rcases List.cons.inj same with ⟨rfl, later⟩
          rw [← List.singleton_append, posts_append, List.append_eq_nil_iff] at quiet silent
          exact ih quiet.2 silent.2 later

/-- The decomposition of a trace at its first POST decides whether the call chokes. -/
theorem choked_iff {front back : Trace Role} {target : Str} {reply : Reply}
    (quiet : posts front = []) : Choked spec request (front ++ postEvent target payload reply :: back) ↔
      ∃ event ∈ back, Chokes spec request (sentObject spec payload) back event := by
  constructor
  · rintro ⟨other, path, body, answer, rest, same, silent, choked⟩
    rcases firstPost_unique quiet silent same with ⟨rfl, rfl⟩
    exact choked
  · exact fun choked => ⟨front, target, payload, reply, back, rfl, quiet, choked⟩

/-- `_mutate`: nothing was sent, or the change was sent and the answers after it decide. -/
theorem mutateLocked_end {target : Str} {outcome : Except Exn MutateResult}
    (run : (service.mutateLocked spec request).Run () trace outcome ())
    (targetEq : path spec (operation spec request.action) request.uuid = .ok target)
    (applicable : spec.apply.list.isEmpty = true → spec.persistenceOnly = true) :
    posts trace = [] ∨ ∃ front expected payload reply back,
      trace = front ++ postEvent target payload reply :: back ∧ posts front = [] ∧
        sentObject spec payload = expected ∧
        (∀ answers, (∀ form, IsReadback spec answers form ↔ IsReadback spec back form) →
          (Action.Escapes isManagement outcome ↔
            ∃ event ∈ back, Chokes spec request expected answers event)) ∧
        (¬ Action.Escapes isManagement outcome →
          ∃ record ∈ appends back, record.1.result ∈ (["ok", "error"] : List Str)) := by
  rw [mutateLocked, readClock, Action.run_bind_ask] at run
  rcases run with ⟨started, rest, rfl, run⟩
  rw [Action.run_bind] at run
  rcases run with ⟨front, ⟨expected, payload⟩, _, back, rfl, preparing, run⟩ |
    ⟨error, rfl, preparing⟩
  rotate_left
  · refine .inl (posts_eq_nil (List.forall_mem_cons.mpr ⟨by simp [Request.IsPost], ?_⟩))
    exact (prepare_run preparing).1
  rcases prepare_run preparing with ⟨quiet, prepared⟩
  rcases prepared expected payload rfl with ⟨object, prepared⟩
  have posted := payloadOf_posted prepared.payloadEq
  have silent : posts (⟨.clock, started⟩ :: front : Trace Role) = [] := by
    rw [posts_clock, posts_eq_nil quiet]
  have hashed : ∃ hash, hashPayload payload = .ok hash := by
    rcases prepared.recorded with ⟨_, _, _, _, _, _, _, _, _, ⟨entry, _, _, _, _, hashed⟩, _⟩
    exact ⟨_, hashed⟩
  rcases hashed with ⟨hash, hashed⟩
  have changed : ∃ result after, (service.change spec request expected payload started).Run
      ⟨.save, request.uuid, none⟩ back result after ∧
        (Action.Escapes isManagement outcome ↔ Action.Escapes isManagement result) := by
    rw [Action.run_bind] at run
    rcases run with ⟨changing, ⟨result, last⟩, _, rest, rfl, running, run⟩ | ⟨error, rfl, running⟩
    all_goals
      rw [Action.run_withState] at running
      rcases running with ⟨changed, final, running, _, same⟩
      rcases changed with raised | value
      all_goals cases same
    · rw [Action.run_pure] at run
      rcases run with ⟨rfl, rfl, _⟩
      rw [List.append_nil]
      exact ⟨_, _, running, Iff.rfl⟩
    · exact ⟨_, _, running, Iff.rfl⟩
  rcases changed with ⟨result, after, running, same⟩
  rcases change_end running targetEq posted applicable hashed with
    ⟨reply, later, rfl, escapes, recorded⟩
  rw [← same] at recorded
  refine .inr ⟨⟨.clock, started⟩ :: front, expected, payload, reply, later, rfl, silent,
    sentObject_eq prepared.payloadEq, ?_, recorded⟩
  intro answers forms
  rw [same, escapes answers forms]

omit [Runtime] in
/-- Every outcome of an accepted call is a result, an error of the engine, or an error that
escapes. -/
theorem outcome_cases {outcome : Except Exn MutateResult} :
    (∃ result, outcome = .ok result) ∨ (∃ error, outcome = .error (raised error)) ∨
      Action.Escapes isManagement outcome := by
  rcases outcome with (⟨kind, detail⟩ | error | error) | result
  · exact .inr (.inr ⟨_, rfl, rfl⟩)
  · exact .inr (.inr ⟨_, rfl, rfl⟩)
  · exact .inr (.inl ⟨error, rfl⟩)
  · exact .inl ⟨result, rfl⟩

theorem enteredStage_ne_none {save : Post Role} {applies : List (Post Role)} :
    enteredStage spec request (save :: applies) ≠ none := by
  rw [enteredStage]
  split
  · simp
  · split
    · simp
    · simp

/-- What the report of a call says once its first POST was sent -/
theorem contained_of_report {outcome : Except Exn MutateResult} {front back : Trace Role}
    {target : Str} {reply : Reply}
    (reports : ∀ error, outcome = .error (raised error) →
      Report spec request (posts (front ++ postEvent target payload reply :: back)) error)
    (quiet : posts front = []) (contained : ¬ Action.Escapes isManagement outcome)
    (recorded : ∃ record ∈ appends back, record.1.result ∈ (["ok", "error"] : List Str)) :
    IsContained (front ++ postEvent target payload reply :: back) outcome := by
  refine .inr ⟨?_, front, target, payload, reply, back, rfl, recorded⟩
  rcases @outcome_cases outcome with returned | ⟨error, failed⟩ | escapes
  · exact .inl returned
  · have report := reports error failed
    rw [posts_append, quiet, postEvent, posts_post] at report
    refine .inr ⟨error, failed, ?_, ?_⟩
    · rw [report.stage]
      exact enteredStage_ne_none
    · cases whole : error.isPartial with
      | true => exact .inl rfl
      | false =>
          refine .inr ?_
          rw [posts_append, quiet, postEvent, posts_post]
          rcases report.harmless whole with nothing | rejected
          · cases nothing
          · exact rejected
  · exact absurd escapes contained

/-- A call is contained exactly if none of the answers after its save chokes it. -/
theorem mutate_contained_iff {body : Json} {outcome : Except Exn MutateResult}
    (run : (service.mutate spec body).Run () trace outcome ())
    (accepted : service.accept spec body = .ok request) :
    IsContained trace outcome ↔ ¬ Choked spec request trace := by
  rcases mutate_reports run with ⟨error, refused, _⟩ | ⟨other, same, _, reports⟩
  · rw [accepted] at refused
    cases refused
  rw [accepted, Except.ok.injEq] at same
  subst same
  rw [mutate, accepted, Action.run_bind_ofExcept] at run
  rcases run with ⟨_, same, run⟩ | ⟨_, impossible, _⟩
  rotate_left
  · cases impossible
  cases same
  rcases accept_ok accepted with ⟨⟨target, targetEq⟩, applicable⟩
  simp only [Action.run_bind_ask] at run
  rcases run with ⟨_, _, rfl, lock, _, rfl, _, _, rfl, _, _, rfl, run⟩
  rw [Action.run_finallyDo] at run
  rcases run with ⟨inner, result, _, closing, closed, rfl, locked, releasing, ended⟩
  rw [Action.run_bind_ask] at releasing
  rcases releasing with ⟨_, _, rfl, done⟩
  rw [Action.run_pure] at done
  rcases done with ⟨rfl, rfl, _⟩
  subst ended
  let opening : Trace Role := [⟨.acquireGuard .managementLocks, ()⟩,
    ⟨.lockFor .managementLocks (service.lockKey spec), lock⟩,
    ⟨.releaseGuard .managementLocks, ()⟩, ⟨.acquire lock, ()⟩]
  let release : Exchange Role := ⟨.release lock, ()⟩
  rcases mutateLocked_end locked targetEq applicable with
    silent | ⟨front, expected, payload, reply, back, rfl, quiet, sent, escapes, recorded⟩
  · have silent : posts (opening ++ (inner ++ [release])) = [] := by
      rw [posts_append, posts_append, silent]
      rfl
    refine ⟨fun _ => ?_, fun _ => .inl silent⟩
    rintro ⟨front, path, payload, reply, back, same, _⟩
    rw [show opening ++ (inner ++ [release]) = _ from same, posts_append, postEvent,
      posts_post] at silent
    exact absurd silent (by simp)
  · have shape : opening ++ ((front ++ postEvent target payload reply :: back) ++ [release]) =
        (opening ++ front) ++ postEvent target payload reply :: (back ++ [release]) := by simp
    have opened : posts (opening ++ front) = [] := by
      rw [posts_append, quiet]
      rfl
    change IsContained (opening ++ ((front ++ postEvent target payload reply :: back) ++
      [release])) outcome ↔ ¬ Choked spec request (opening ++ ((front ++ postEvent target payload
        reply :: back) ++ [release]))
    change ∀ error, outcome = .error (raised error) → Report spec request (posts (opening ++
      ((front ++ postEvent target payload reply :: back) ++ [release]))) error at reports
    rw [shape] at reports ⊢
    have unread : ∀ form, IsReadback spec (back ++ [release]) form ↔ IsReadback spec back form :=
      fun form => isReadback_append (not_isReadback (by simp [release, IsElsewhere]))
    have decides : Action.Escapes isManagement outcome ↔
        ∃ event ∈ back ++ [release], Chokes spec request expected (back ++ [release]) event := by
      rw [escapes _ unread]
      simp [release, Chokes, or_and_right, exists_or]
    rw [choked_iff opened, sent, ← decides]
    constructor
    · rintro (nothing | ⟨returned | ⟨error, failed, _⟩, _⟩)
      · rw [posts_append, postEvent, posts_post] at nothing
        exact absurd nothing (by simp)
      · rcases returned with ⟨value, rfl⟩
        exact Action.not_escapes_ok
      · rw [failed, Action.escapes_error]
        simp [isManagement, raised]
    · intro contained
      refine contained_of_report reports opened contained ?_
      rcases recorded contained with ⟨record, member, named⟩
      refine ⟨record, ?_, named⟩
      rw [appends_append]
      exact List.mem_append_left _ member

end

/-! ### A delete after which the list has an empty row -/

def demoDelete : Json := .obj [("action", .str "delete"), ("uuid", .str demoUuid),
  ("revision", .str demoRevision)]

/-- A node that deletes the object and lists an empty row -/
def listsEmptyRow : (request : Request Role) → Answer request
  | .get _ target _ =>
      if target = "/api/demo/settings/searchItem" then
        .ok (.obj [("rows", .arr [.obj []]), ("total", .int 1)])
      else .ok (.obj [("item", .obj [("name", .str "old")])])
  | .post _ target _ =>
      if target = "/api/demo/service/reconfigure" then .ok (.obj [("status", .str "ok")])
      else .ok (.obj [("result", .str "deleted")])
  | .append _ => .ok ()
  | .clock => ⟨[], 0⟩
  | .lockFor _ _ => 0
  | .acquireGuard _ | .releaseGuard _ | .acquire _ | .release _ => ()

theorem delete_raises_attributeError : ∃ trace detail,
    (@mutate Runtime.ascii demoService demoSpec demoDelete).Run () trace
      (.error (.builtin .attributeError detail)) () ∧
    (posts trace).length = 2 ∧
    ¬ IsContained trace (.error (.builtin .attributeError detail)) := by
  rcases Program.replay_yields (fun _ => listsEmptyRow)
    (@mutate Runtime.ascii demoService demoSpec demoDelete ()) [] with ⟨trace, recorded, run⟩
  have kind : builtinOf ((@mutate Runtime.ascii demoService demoSpec demoDelete ()).replay
      (fun _ => listsEmptyRow) []).2.1 = some .attributeError := by
    decide +kernel
  have posted : (posts ((@mutate Runtime.ascii demoService demoSpec demoDelete ()).replay
      (fun _ => listsEmptyRow) []).1).length = 2 := by
    decide +kernel
  rw [recorded, List.nil_append] at posted
  generalize ((@mutate Runtime.ascii demoService demoSpec demoDelete ()).replay
    (fun _ => listsEmptyRow) []).2 = last at run kind
  rcases last with ⟨(⟨_, detail⟩ | error | error) | result, _⟩
  · cases kind
    refine ⟨trace, detail, run, posted, ?_⟩
    rintro (nothing | ⟨returned | ⟨error, same, _⟩, _⟩)
    · rw [nothing] at posted
      cases posted
    · rcases returned with ⟨result, same⟩
      cases same
    · cases same
  · cases kind
  · cases kind
  · cases kind

theorem delete_contained_iff : ∃ trace outcome request,
    (@mutate Runtime.ascii demoService demoSpec demoDelete).Run () trace outcome () ∧
    (IsContained trace outcome ↔ ¬ @Choked Runtime.ascii demoSpec request trace) := by
  rcases Program.replay_yields (fun _ => listsEmptyRow)
    (@mutate Runtime.ascii demoService demoSpec demoDelete ()) [] with ⟨trace, _, run⟩
  exact ⟨trace, _, _, run, @mutate_contained_iff Runtime.ascii demoService demoSpec _ trace
    demoDelete _ run rfl⟩

end ManagementService

end OpnsensePlugin

import OpnsensePlugin.Writers.Verified

/-!
# Runs of the verified writer

What the functions of the verified writer do in any run, against any answers of
the two nodes: the functions that only read, the errors that `_sync` lets pass,
and the stages of `_execute` that a run goes through.
-/

namespace OpnsensePlugin

open Effects Python

/-! ## Acknowledgements -/

theorem received_not_rejected {reply : Reply} {error : Exn}
    (failed : received reply = .error error) : isRejected error = false := by
  rcases reply with (detail | detail | detail) | value
  all_goals
    cases failed
    try rfl

section Acknowledgements

variable [Runtime]

/-- What a caller gets from a reply that must acknowledge success. -/
def answered (operation : Str) (reply : Reply) : Except Exn (List (Str × Json)) :=
  received reply >>= requireSuccess operation

/-- Only an answer that was received can be rejected. -/
theorem answered_rejected {operation : Str} {reply : Reply} {error : Exn}
    (failed : answered operation reply = .error error) (rejected : isRejected error = true) :
    ∃ value, reply = .ok value := by
  rcases reply with failure | value
  · rcases failure with detail | detail | detail
    all_goals
      cases failed
      cases rejected
  · exact ⟨value, rfl⟩

end Acknowledgements

/-! ## Errors of reading -/

section ReadingErrors

variable [Runtime] {error : Exn}

omit [Runtime] in
theorem listedTotal_not_rejected {value : Json} (failed : listedTotal value = .error error) :
    isRejected error = false := by
  unfold listedTotal at failed
  repeat' split at failed
  all_goals
    cases failed
    try rfl

theorem searchRows_not_rejected {resource : Resource} {out : Json}
    (failed : searchRows resource out = .error error) : isRejected error = false := by
  unfold searchRows at failed
  repeat' split at failed
  rotate_right 3
  · simp only [bind_eq_error, raiseIf_eq_error, pure_ne_error] at failed
    rcases failed with failed | ⟨total, _, ⟨_, rfl⟩ | ⟨_, _, impossible⟩⟩
    · exact listedTotal_not_rejected failed
    · rfl
    · exact impossible.elim
  all_goals
    cases failed
    try rfl

theorem detailOf_not_rejected {resource : Resource} {out : Json}
    (failed : detailOf resource out = .error error) : isRejected error = false := by
  simp only [detailOf] at failed
  repeat' split at failed
  all_goals
    cases failed
    try rfl

theorem matchesPayload_not_rejected {actual expected : Json}
    (failed : matchesPayload actual expected = .error error) : isRejected error = false := by
  simp only [matchesPayload, bind_eq_error, pure_ne_error, and_false, exists_false,
    or_false] at failed
  rcases failed with failed | ⟨_, _, failed⟩
  all_goals
    unfold flatten at failed
    split at failed
    all_goals
      cases failed
      try rfl

end ReadingErrors

namespace VerifiedFirewallWriter

variable [Runtime] {State : Type} {writer : VerifiedFirewallWriter} {role : Role}
  {before after : State} {trace : Trace Role}

@[simp]
theorem run_acknowledged {path operation : Str} {payload : Json}
    {outcome : Except Exn (List (Str × Json))} :
    (acknowledged role path payload operation : Py Role State _).Run
        before trace outcome after ↔
      ∃ reply : Reply,
        trace = [⟨.post role path (if payload.truthy then payload else .obj []), reply⟩] ∧
        outcome = answered operation reply ∧ after = before := by
  simp only [acknowledged, Action.run_bind, run_clientPost, Action.run_ofExcept]
  constructor
  · intro run
    rcases run with ⟨front, value, middle, back, rfl, ⟨reply, rfl, same, rfl⟩, rfl, rfl, rfl⟩ |
      ⟨error, rfl, reply, rfl, same, rfl⟩
    · exact ⟨reply, rfl, by simp [answered, ← same, bind, Except.bind], rfl⟩
    · exact ⟨reply, rfl, by simp [answered, ← same, bind, Except.bind], rfl⟩
  · intro run
    rcases run with ⟨reply, rfl, rfl, rfl⟩
    cases same : received reply with
    | ok value =>
        exact .inl ⟨_, value, _, [], rfl, ⟨reply, rfl, same.symm, rfl⟩, rfl,
          by simp [answered, same, bind, Except.bind], rfl⟩
    | error error =>
        exact .inr ⟨error, by simp [answered, same, bind, Except.bind], reply, rfl, same.symm,
          rfl⟩

theorem run_bind_acknowledged {β : Type} {path operation : Str}
    {next : List (Str × Json) → Py Role State β} {outcome : Except Exn β} :
    (acknowledged role path (.obj []) operation >>= next).Run before trace outcome after ↔
      ∃ (reply : Reply) (tail : Trace Role),
        trace = ⟨.post role path (.obj []), reply⟩ :: tail ∧
        ((∃ response, answered operation reply = .ok response ∧
            (next response).Run before tail outcome after) ∨
          ∃ error, answered operation reply = .error error ∧ tail = [] ∧
            outcome = .error error ∧ after = before) := by
  simp only [Action.run_bind, run_acknowledged]
  constructor
  · intro run
    rcases run with ⟨_, response, _, tail, rfl, ⟨reply, rfl, same, rfl⟩, rest⟩ |
      ⟨error, rfl, reply, rfl, same, rfl⟩
    · exact ⟨reply, tail, rfl, .inl ⟨response, same.symm, rest⟩⟩
    · exact ⟨reply, [], rfl, .inr ⟨error, same.symm, rfl, rfl, rfl⟩⟩
  · intro run
    rcases run with ⟨reply, tail, rfl, ⟨response, same, rest⟩ | ⟨error, same, rfl, rfl, rfl⟩⟩
    · exact .inl ⟨_, response, _, tail, rfl, ⟨reply, rfl, same.symm, rfl⟩, rest⟩
    · exact .inr ⟨error, rfl, reply, rfl, same.symm, rfl⟩

/-! ## Reading -/

theorem search_observes :
    Action.Ensures (Action.Observes Request.IsGet) (writer.search role : Py Role State _) :=
  Action.ensures_bind clientGet_observes fun _ => Action.ensures_ofExcept

theorem get_observes {uuid : Str} :
    Action.Ensures (Action.Observes Request.IsGet) (writer.get uuid role : Py Role State _) :=
  Action.ensures_bind clientGet_observes fun _ => Action.ensures_ofExcept

theorem verify_observes {uuid : Str} {expected : Option Json} :
    Action.Ensures (Action.Observes Request.IsGet)
      (writer.verify uuid expected role : Py Role State _) := by
  cases expected with
  | none => exact Action.ensures_bind search_observes fun _ => Action.ensures_pure
  | some payload => exact Action.ensures_bind get_observes fun _ => Action.ensures_ofExcept

theorem dnatIds_observes :
    Action.Ensures (Action.Observes Request.IsGet) (writer.dnatIds role : Py Role State _) :=
  Action.ensures_bind search_observes fun _ => Action.ensures_ofExcept

omit [Runtime] in
theorem addresses_observes :
    Action.Ensures (Action.Observes Request.IsGet) (addresses role : Py Role State _) :=
  Action.ensures_bind clientGet_observes fun _ => Action.ensures_ofExcept

omit [Runtime] in
theorem isExclusive_observes {address : IpAddress} :
    Action.Ensures (Action.Observes Request.IsGet) (isExclusive address : Py Role State _) := by
  refine Action.ensures_bind addresses_observes fun peer => ?_
  by_cases member : address ∈ peer
  · simp only [member, if_true]
    exact Action.ensures_bind addresses_observes fun _ => Action.ensures_pure
  · simp only [member, if_false]
    exact Action.ensures_pure

theorem collectCarpStatus_observes :
    Action.Ensures (Action.Observes Request.IsGet)
      (collectCarpStatus role : Py Role State _) := by
  intro before trace outcome after run
  rw [run_collectCarpStatus] at run
  rcases run with ⟨reply, rfl, _, rfl⟩
  simp [Action.Observes, Request.IsGet]

theorem xmlrpcPreflight_observes :
    Action.Ensures (Action.Observes Request.IsGet)
      (writer.xmlrpcPreflight : Py Role State _) := by
  refine Action.ensures_bind clientGet_observes fun localData => ?_
  refine Action.ensures_bind clientGet_observes fun peerData => ?_
  refine Action.ensures_bind Action.ensures_ofExcept fun scope => ?_
  refine Action.ensures_bind isExclusive_observes fun exclusive => ?_
  refine Action.ensures_bind Action.ensures_raiseIf fun _ => ?_
  refine Action.ensures_bind collectCarpStatus_observes fun left => ?_
  exact Action.ensures_bind collectCarpStatus_observes fun right => Action.ensures_ofExcept

theorem syncPreflight_observes :
    Action.Ensures (Action.Observes Request.IsGet) (writer.syncPreflight : Py Role State _) := by
  unfold syncPreflight
  split
  · exact Action.ensures_pure
  · exact Action.ensures_bind xmlrpcPreflight_observes fun _ => Action.ensures_pure

theorem isLastOnPeer_observes {plan : Option SyncPlan} {uuid : Str} :
    Action.Ensures (Action.Observes Request.IsGet)
      (writer.isLastOnPeer plan uuid : Py Role State _) := by
  refine Action.ensures_bind syncPreflight_observes fun again => ?_
  split
  · exact Action.ensures_pure
  · refine Action.ensures_bind dnatIds_observes fun here => ?_
    split
    · exact Action.ensures_pure
    · exact Action.ensures_bind dnatIds_observes fun _ => Action.ensures_pure

theorem confirmCleanup_observes {plan : Option SyncPlan} {revision uuid : Str} :
    Action.Ensures (Action.Observes Request.IsGet)
      (writer.confirmCleanup plan revision uuid : Py Role State _) := by
  refine Action.ensures_bind isLastOnPeer_observes fun last => ?_
  refine Action.ensures_bind Action.ensures_raiseIf fun _ => ?_
  refine Action.ensures_bind get_observes fun detail => ?_
  exact Action.ensures_bind Action.ensures_ofExcept fun _ => Action.ensures_raiseIf

theorem absentOnBoth_observes {uuid : Str} :
    Action.Ensures (Action.Observes Request.IsGet)
      (writer.absentOnBoth uuid : Py Role State _) := by
  refine Action.ensures_bind verify_observes fun here => ?_
  split
  · exact verify_observes
  · exact Action.ensures_pure

omit [Runtime] in
theorem clientGet_raises {path : Str} {params : List (Str × Json)} :
    Action.Raises (fun error => isRejected error = false)
      (clientGet role path params : Py Role State Json) :=
  Action.raises_bind Action.raises_ask fun _ =>
    Action.raises_ofExcept fun _ failed => received_not_rejected failed

theorem verify_raises {uuid : Str} {expected : Option Json} :
    Action.Raises (fun error => isRejected error = false)
      (writer.verify uuid expected role : Py Role State Bool) := by
  cases expected with
  | none =>
      refine Action.raises_bind (Action.raises_bind clientGet_raises fun _ => ?_) fun _ => ?_
      · exact Action.raises_ofExcept fun _ failed => searchRows_not_rejected failed
      · exact Action.raises_pure
  | some payload =>
      refine Action.raises_bind (Action.raises_bind clientGet_raises fun _ => ?_) fun _ => ?_
      · exact Action.raises_ofExcept fun _ failed => detailOf_not_rejected failed
      · exact Action.raises_ofExcept fun _ failed => matchesPayload_not_rejected failed

end VerifiedFirewallWriter

end OpnsensePlugin

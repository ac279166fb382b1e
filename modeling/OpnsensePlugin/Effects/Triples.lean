import OpnsensePlugin.Effects.Action

/-!
# Triples

`Triple allowed pre action post failed`: every run of the action from a state with
`pre`, whose exchanges are all `allowed`, ends with a value and a state with `post`
or with an error and a state with `failed`. What may not happen is left to the
environment, so one triple speaks of all runs and of those without a fault.
-/

namespace Effects

namespace Action

variable {Request : Type} {Answer : Request → Type} {State Error α β : Type}

/-- What holds at the end -/
def Ended (post : α → State → Prop) (failed : Error → State → Prop) : Except Error α → State → Prop
  | .ok value, state => post value state
  | .error error, state => failed error state

def Triple (allowed : Event Request Answer → Prop) (pre : State → Prop)
    (action : Action Request Answer State Error α) (post : α → State → Prop)
    (failed : Error → State → Prop) : Prop :=
  ∀ ⦃before trace outcome after⦄, pre before → (∀ event ∈ trace, allowed event) →
    action.Run before trace outcome after → Ended post failed outcome after

variable {allowed : Event Request Answer → Prop} {pre : State → Prop} {post : α → State → Prop}
  {failed : Error → State → Prop} {action : Action Request Answer State Error α}

namespace Triple

theorem weaken {weaker : α → State → Prop} {worse : Error → State → Prop}
    (triple : Triple allowed pre action post failed)
    (returned : ∀ value state, post value state → weaker value state)
    (raised : ∀ error state, failed error state → worse error state) :
    Triple allowed pre action weaker worse := by
  intro before trace outcome after holds within run
  have ended := triple holds within run
  cases outcome with
  | ok value => exact returned value after ended
  | error error => exact raised error after ended

theorem require {stronger : State → Prop} (triple : Triple allowed pre action post failed)
    (given : ∀ state, stronger state → pre state) : Triple allowed stronger action post failed :=
  fun _ _ _ _ holds within run => triple (given _ holds) within run

/-- One start state at a time -/
theorem each (triple : ∀ state, pre state → Triple allowed (· = state) action post failed) :
    Triple allowed pre action post failed :=
  fun _ _ _ _ holds within run => triple _ holds rfl within run

/-- What holds whatever the state is -/
theorem assuming {fact : Prop} (triple : fact → Triple allowed pre action post failed) :
    Triple allowed (fun state => fact ∧ pre state) action post failed :=
  fun _ _ _ _ holds within run => triple holds.1 holds.2 within run

theorem pure {value : α} (holds : ∀ state, pre state → post value state) :
    Triple allowed pre (Pure.pure value : Action Request Answer State Error α) post failed := by
  intro before trace outcome after given _ run
  rcases run_pure.mp run with ⟨_, rfl, rfl⟩
  exact holds _ given

theorem raise {error : Error} (holds : ∀ state, pre state → failed error state) :
    Triple allowed pre (Action.raise error : Action Request Answer State Error α) post failed := by
  intro before trace outcome after given _ run
  rcases run_raise.mp run with ⟨_, rfl, rfl⟩
  exact holds _ given

theorem ofExcept {result : Except Error α}
    (holds : ∀ state, pre state → Ended post failed result state) :
    Triple allowed pre (Action.ofExcept result : Action Request Answer State Error α) post failed := by
  intro before trace outcome after given _ run
  rcases run_ofExcept.mp run with ⟨_, rfl, rfl⟩
  exact holds _ given

theorem ask {request : Request} {post : Answer request → State → Prop}
    (holds : ∀ state answer, pre state → allowed ⟨request, answer⟩ → post answer state) :
    Triple allowed pre (Action.ask request : Action Request Answer State Error (Answer request)) post
      failed := by
  intro before trace outcome after given within run
  rcases run_ask.mp run with ⟨answer, rfl, rfl, rfl⟩
  exact holds _ answer given (within _ List.mem_cons_self)

theorem readState {post : State → State → Prop} (holds : ∀ state, pre state → post state state) :
    Triple allowed pre (Action.readState : Action Request Answer State Error State) post failed := by
  intro before trace outcome after given _ run
  rcases run_readState.mp run with ⟨_, rfl, rfl⟩
  exact holds _ given

theorem modifyState {update : State → State} {post : Unit → State → Prop}
    (holds : ∀ state, pre state → post () (update state)) :
    Triple allowed pre (Action.modifyState update : Action Request Answer State Error Unit) post
      failed := by
  intro before trace outcome after given _ run
  rcases run_modifyState.mp run with ⟨_, rfl, rfl⟩
  exact holds _ given

theorem bind {middle : α → State → Prop} {next : α → Action Request Answer State Error β}
    {last : β → State → Prop} (first : Triple allowed pre action middle failed)
    (second : ∀ value, Triple allowed (middle value) (next value) last failed) :
    Triple allowed pre (action >>= next) last failed := by
  intro before trace outcome after given within run
  rcases run_bind.mp run with ⟨front, value, state, back, rfl, start, finish⟩ | ⟨error, rfl, start⟩
  · have reached := first given (fun event mem => within event (List.mem_append_left _ mem)) start
    exact second value reached (fun event mem => within event (List.mem_append_right _ mem)) finish
  · exact first given within start

theorem handle {middle : Error → State → Prop}
    {handler : Error → Action Request Answer State Error α}
    (first : Triple allowed pre action post middle)
    (second : ∀ error, Triple allowed (middle error) (handler error) post failed) :
    Triple allowed pre (action.handle handler) post failed := by
  intro before trace outcome after given within run
  rcases run_handle.mp run with ⟨value, rfl, whole⟩ | ⟨front, error, state, back, rfl, start, finish⟩
  · exact first given within whole
  · have reached := first given (fun event mem => within event (List.mem_append_left _ mem)) start
    exact second error reached (fun event mem => within event (List.mem_append_right _ mem)) finish

theorem finallyDo {cleanup : Action Request Answer State Error Unit} {kept : α → State → Prop}
    {lost : Error → State → Prop} (first : Triple allowed pre action kept lost)
    (returned : ∀ value, Triple allowed (kept value) cleanup (fun _ => post value) failed)
    (raised : ∀ error, Triple allowed (lost error) cleanup (fun _ => failed error) failed) :
    Triple allowed pre (action.finallyDo cleanup) post failed := by
  intro before trace outcome after given within run
  rcases run_finallyDo.mp run with ⟨front, result, state, back, closing, rfl, start, finish, rfl⟩
  have reached := first given (fun event mem => within event (List.mem_append_left _ mem)) start
  have later : ∀ event ∈ back, allowed event :=
    fun event mem => within event (List.mem_append_right _ mem)
  cases result with
  | ok value =>
      have ended := returned value reached later finish
      cases closing with
      | ok _ => exact ended
      | error _ => exact ended
  | error error =>
      have ended := raised error reached later finish
      cases closing with
      | ok _ => exact ended
      | error _ => exact ended

end Triple

end Action

end Effects

import OpnsensePlugin.Effects.Program

/-!
# Actions with state and errors

An `Action` is the meaning of imperative code: it reads and updates a state,
asks its environment for answers, and ends with a value or an error. Updates
made before an error survive it, as assignments made before a raised exception
do. `Action.Run` relates a start state to the trace, the outcome and the final
state of a complete run; the `run_` lemmas below invert it construct by
construct, so that a function's runs are found by rewriting.
-/

namespace Effects

/-- Imperative code over `State` that may ask for answers and may raise an `Error`. -/
def Action (Request : Type) (Answer : Request → Type) (State Error α : Type) :=
  State → Program Request Answer (Except Error α × State)

namespace Action

variable {Request : Type} {Answer : Request → Type} {State Inner Error α β : Type}

/-- Complete runs: start state, trace, outcome and final state. -/
def Run (action : Action Request Answer State Error α) (before : State)
    (trace : List (Event Request Answer)) (outcome : Except Error α) (after : State) : Prop :=
  (action before).Yields trace (outcome, after)

instance : Monad (Action Request Answer State Error) where
  pure value := fun state => .done (.ok value, state)
  bind action next := fun state => (action state).bind fun (outcome, later) =>
    match outcome with
    | .ok value => next value later
    | .error error => .done (.error error, later)

/-- Raise an error. -/
def raise (error : Error) : Action Request Answer State Error α :=
  fun state => .done (.error error, state)

/-- Raise `error` if the condition holds. -/
def raiseIf (condition : Bool) (error : Error) : Action Request Answer State Error Unit :=
  if condition then raise error else pure ()

/-- Return or raise the outcome of a pure computation. -/
def ofExcept (outcome : Except Error α) : Action Request Answer State Error α :=
  fun state => .done (outcome, state)

/-- Ask the environment. -/
def ask (request : Request) : Action Request Answer State Error (Answer request) :=
  fun state => .ask request fun answer => .done (.ok answer, state)

/-- The current state. -/
def readState : Action Request Answer State Error State :=
  fun state => .done (.ok state, state)

/-- Update the state. -/
def modifyState (update : State → State) : Action Request Answer State Error Unit :=
  fun state => .done (.ok (), update state)

/-- Run `handler` on the error of `action`, in the state in which it was raised. -/
def handle (action : Action Request Answer State Error α)
    (handler : Error → Action Request Answer State Error α) :
    Action Request Answer State Error α :=
  fun state => (action state).bind fun (outcome, later) =>
    match outcome with
    | .ok value => .done (.ok value, later)
    | .error error => handler error later

/-- Turn an error that `catches` selects into a value; other errors pass. -/
def attempt (catches : Error → Bool) (action : Action Request Answer State Error α) :
    Action Request Answer State Error (Except Error α) :=
  fun state => (action state).bind fun (outcome, later) =>
    match outcome with
    | .ok value => .done (.ok (.ok value), later)
    | .error error => if catches error then .done (.ok (.error error), later)
        else .done (.error error, later)

/-- Run `cleanup` after `action`, however it ends, and keep its outcome. -/
def finallyDo (action : Action Request Answer State Error α)
    (cleanup : Action Request Answer State Error Unit) : Action Request Answer State Error α :=
  fun state => (action state).bind fun (outcome, later) =>
    (cleanup later).bind fun (closing, last) =>
      match closing with
      | .ok () => .done (outcome, last)
      | .error error => .done (.error error, last)

/-- Run `action` on a state of its own that starts as `start`, and return its final value. -/
def withState (start : Inner) (action : Action Request Answer Inner Error α) :
    Action Request Answer State Error (α × Inner) :=
  fun state => (action start).bind fun (outcome, last) =>
    .done (outcome.map fun value => (value, last), state)

section Inversion

variable {before after : State} {trace : List (Event Request Answer)}
  {error raised : Error}

@[simp]
theorem run_pure {value : α} {outcome : Except Error α} :
    (pure value : Action Request Answer State Error α).Run before trace outcome after ↔
      trace = [] ∧ outcome = .ok value ∧ after = before := by
  simp [Run, pure]

@[simp]
theorem run_raise {outcome : Except Error α} :
    (raise error : Action Request Answer State Error α).Run before trace outcome after ↔
      trace = [] ∧ outcome = .error error ∧ after = before := by
  simp [Run, raise]

@[simp]
theorem run_ofExcept {result outcome : Except Error α} :
    (ofExcept result : Action Request Answer State Error α).Run before trace outcome after ↔
      trace = [] ∧ outcome = result ∧ after = before := by
  simp [Run, ofExcept]

@[simp]
theorem run_raiseIf {condition : Bool} {outcome : Except Error Unit} :
    (raiseIf condition error : Action Request Answer State Error Unit).Run
        before trace outcome after ↔
      trace = [] ∧ outcome = (if condition then .error error else .ok ()) ∧ after = before := by
  unfold raiseIf
  split <;> simp

@[simp]
theorem run_ask {request : Request} {outcome : Except Error (Answer request)} :
    (ask request : Action Request Answer State Error (Answer request)).Run
        before trace outcome after ↔
      ∃ answer, trace = [⟨request, answer⟩] ∧ outcome = .ok answer ∧ after = before := by
  simp [Run, ask]

@[simp]
theorem run_readState {outcome : Except Error State} :
    (readState : Action Request Answer State Error State).Run before trace outcome after ↔
      trace = [] ∧ outcome = .ok before ∧ after = before := by
  simp [Run, readState]

@[simp]
theorem run_modifyState {update : State → State} {outcome : Except Error Unit} :
    (modifyState update : Action Request Answer State Error Unit).Run
        before trace outcome after ↔
      trace = [] ∧ outcome = .ok () ∧ after = update before := by
  simp [Run, modifyState]

theorem run_bind {action : Action Request Answer State Error α}
    {next : α → Action Request Answer State Error β} {outcome : Except Error β} :
    (action >>= next).Run before trace outcome after ↔
      (∃ front value middle back, trace = front ++ back ∧
        action.Run before front (.ok value) middle ∧
        (next value).Run middle back outcome after) ∨
      ∃ error, outcome = .error error ∧ action.Run before trace (.error error) after := by
  simp only [Run, bind, Program.yields_bind_iff]
  constructor
  · rintro ⟨front, ⟨result, middle⟩, back, rfl, first, second⟩
    cases result with
    | ok value => exact .inl ⟨front, value, middle, back, rfl, first, second⟩
    | error error =>
        obtain ⟨rfl, same⟩ := Program.yields_done_iff.mp second
        obtain ⟨rfl, rfl⟩ := Prod.mk.inj same
        exact .inr ⟨error, rfl, by simpa using first⟩
  · rintro (⟨front, value, middle, back, rfl, first, second⟩ | ⟨error, rfl, first⟩)
    · exact ⟨front, (.ok value, middle), back, rfl, first, second⟩
    · exact ⟨trace, (.error error, after), [], by simp, first, by simp⟩

theorem run_bind_ok {action : Action Request Answer State Error α}
    {next : α → Action Request Answer State Error β} {result : β} :
    (action >>= next).Run before trace (.ok result) after ↔
      ∃ front value middle back, trace = front ++ back ∧
        action.Run before front (.ok value) middle ∧
        (next value).Run middle back (.ok result) after := by
  rw [run_bind]
  simp

theorem run_bind_assoc {γ : Type} {action : Action Request Answer State Error α}
    {next : α → Action Request Answer State Error β}
    {last : β → Action Request Answer State Error γ} {outcome : Except Error γ} :
    ((action >>= next) >>= last).Run before trace outcome after ↔
      (action >>= fun value => next value >>= last).Run before trace outcome after := by
  constructor
  · intro run
    rw [run_bind] at run
    rcases run with ⟨front, second, middle, back, rfl, run, ended⟩ | ⟨error, rfl, run⟩
    · rw [run_bind_ok] at run
      rcases run with ⟨early, first, start, late, rfl, run, next⟩
      rw [List.append_assoc, run_bind]
      exact .inl ⟨early, first, start, late ++ back, rfl, run,
        run_bind.mpr (.inl ⟨late, second, middle, back, rfl, next, ended⟩)⟩
    · rw [run_bind] at run ⊢
      rcases run with ⟨early, first, start, late, rfl, run, next⟩ | ⟨_, same, run⟩
      · exact .inl ⟨early, first, start, late, rfl, run, run_bind.mpr (.inr ⟨error, rfl, next⟩)⟩
      · cases same
        exact .inr ⟨error, rfl, run⟩
  · intro run
    rw [run_bind] at run
    rcases run with ⟨early, first, start, rest, rfl, run, next⟩ | ⟨error, rfl, run⟩
    · rw [run_bind] at next
      rcases next with ⟨late, second, middle, back, rfl, next, ended⟩ | ⟨error, rfl, next⟩
      · rw [← List.append_assoc, run_bind]
        exact .inl ⟨early ++ late, second, middle, back, rfl,
          run_bind.mpr (.inl ⟨early, first, start, late, rfl, run, next⟩), ended⟩
      · exact run_bind.mpr (.inr ⟨error, rfl,
          run_bind.mpr (.inl ⟨early, first, start, rest, rfl, run, next⟩)⟩)
    · exact run_bind.mpr (.inr ⟨error, rfl, run_bind.mpr (.inr ⟨error, rfl, run⟩)⟩)

/-- A last step that only maps the value -/
theorem run_bind_pure {action : Action Request Answer State Error α} {convert : α → β}
    {outcome : Except Error β} :
    (action >>= fun value => pure (convert value)).Run before trace outcome after ↔
      ∃ result, action.Run before trace result after ∧ outcome = result.map convert := by
  rw [run_bind]
  constructor
  · rintro (⟨front, value, middle, back, rfl, first, second⟩ | ⟨error, rfl, first⟩)
    · rw [run_pure] at second
      rcases second with ⟨rfl, rfl, rfl⟩
      exact ⟨.ok value, by simpa using first, rfl⟩
    · exact ⟨.error error, first, rfl⟩
  · rintro ⟨result, first, rfl⟩
    cases result with
    | ok value => exact .inl ⟨trace, value, after, [], by simp, first, run_pure.mpr ⟨rfl, rfl, rfl⟩⟩
    | error error => exact .inr ⟨error, rfl, first⟩

theorem run_handle {action : Action Request Answer State Error α}
    {handler : Error → Action Request Answer State Error α} {outcome : Except Error α} :
    (action.handle handler).Run before trace outcome after ↔
      (∃ value, outcome = .ok value ∧ action.Run before trace (.ok value) after) ∨
      ∃ front error middle back, trace = front ++ back ∧
        action.Run before front (.error error) middle ∧
        (handler error).Run middle back outcome after := by
  simp only [Run, handle, Program.yields_bind_iff]
  constructor
  · rintro ⟨front, ⟨result, middle⟩, back, rfl, first, second⟩
    cases result with
    | ok value =>
        obtain ⟨rfl, same⟩ := Program.yields_done_iff.mp second
        obtain ⟨rfl, rfl⟩ := Prod.mk.inj same
        exact .inl ⟨value, rfl, by simpa using first⟩
    | error error => exact .inr ⟨front, error, middle, back, rfl, first, second⟩
  · rintro (⟨value, rfl, first⟩ | ⟨front, error, middle, back, rfl, first, second⟩)
    · exact ⟨trace, (.ok value, after), [], by simp, first, by simp⟩
    · exact ⟨front, (.error error, middle), back, rfl, first, second⟩

theorem run_attempt {catches : Error → Bool} {action : Action Request Answer State Error α}
    {outcome : Except Error (Except Error α)} :
    (action.attempt catches).Run before trace outcome after ↔
      ∃ result, action.Run before trace result after ∧
        outcome = match result with
          | .ok value => .ok (.ok value)
          | .error error => if catches error then .ok (.error error) else .error error := by
  simp only [Run, attempt, Program.yields_bind_iff]
  constructor
  · rintro ⟨front, ⟨result, middle⟩, back, rfl, first, second⟩
    cases result with
    | ok value =>
        obtain ⟨rfl, same⟩ := Program.yields_done_iff.mp second
        obtain ⟨rfl, rfl⟩ := Prod.mk.inj same
        exact ⟨.ok value, by simpa using first, rfl⟩
    | error error =>
        by_cases caught : catches error
        all_goals
          simp only [caught, if_true, if_false, Bool.false_eq_true] at second
          obtain ⟨rfl, same⟩ := Program.yields_done_iff.mp second
          obtain ⟨rfl, rfl⟩ := Prod.mk.inj same
          exact ⟨.error error, by simpa using first, by simp [caught]⟩
  · rintro ⟨result, first, rfl⟩
    refine ⟨trace, (result, after), [], by simp, first, ?_⟩
    cases result with
    | ok value => simp
    | error error => by_cases caught : catches error <;> simp [caught]

theorem run_finallyDo {action : Action Request Answer State Error α}
    {cleanup : Action Request Answer State Error Unit} {outcome : Except Error α} :
    (action.finallyDo cleanup).Run before trace outcome after ↔
      ∃ front result middle back closing, trace = front ++ back ∧
        action.Run before front result middle ∧ cleanup.Run middle back closing after ∧
        outcome = match closing with
          | .ok () => result
          | .error error => .error error := by
  simp only [Run, finallyDo, Program.yields_bind_iff]
  constructor
  · rintro ⟨front, ⟨result, middle⟩, _, rfl, first, ⟨back, ⟨closing, last⟩, _, rfl, second, ended⟩⟩
    cases closing <;>
    · obtain ⟨rfl, same⟩ := Program.yields_done_iff.mp ended
      obtain ⟨rfl, rfl⟩ := Prod.mk.inj same
      exact ⟨front, _, middle, back, _, by simp, first, second, rfl⟩
  · rintro ⟨front, result, middle, back, closing, rfl, first, second, rfl⟩
    refine ⟨front, (result, middle), back, rfl, first, back, (closing, after), [], by simp, second, ?_⟩
    cases closing <;> simp

theorem run_withState {start : Inner} {action : Action Request Answer Inner Error α}
    {outcome : Except Error (α × Inner)} :
    (withState start action : Action Request Answer State Error (α × Inner)).Run
        before trace outcome after ↔
      ∃ result last, action.Run start trace result last ∧ after = before ∧
        outcome = result.map fun value => (value, last) := by
  simp only [Run, withState, Program.yields_bind_iff]
  constructor
  · rintro ⟨front, ⟨result, last⟩, back, rfl, first, second⟩
    obtain ⟨rfl, same⟩ := Program.yields_done_iff.mp second
    obtain ⟨rfl, rfl⟩ := Prod.mk.inj same
    exact ⟨result, last, by simpa using first, rfl, rfl⟩
  · rintro ⟨result, last, first, rfl, rfl⟩
    exact ⟨trace, (result, last), [], by simp, first, by simp⟩

/-! ### First steps

A bind whose first action neither branches nor leaves the trace open is inverted at once. -/

@[simp]
theorem run_bind_modifyState {update : State → State}
    {next : Unit → Action Request Answer State Error β} {outcome : Except Error β} :
    (modifyState update >>= next).Run before trace outcome after ↔
      (next ()).Run (update before) trace outcome after :=
  Iff.rfl

@[simp]
theorem run_bind_readState {next : State → Action Request Answer State Error β}
    {outcome : Except Error β} :
    (readState >>= next).Run before trace outcome after ↔
      (next before).Run before trace outcome after :=
  Iff.rfl

theorem run_bind_ask {request : Request}
    {next : Answer request → Action Request Answer State Error β} {outcome : Except Error β} :
    (ask request >>= next).Run before trace outcome after ↔
      ∃ answer tail, trace = ⟨request, answer⟩ :: tail ∧
        (next answer).Run before tail outcome after := by
  rw [Run]
  exact Program.yields_ask_iff

theorem run_bind_ofExcept {result : Except Error α}
    {next : α → Action Request Answer State Error β} {outcome : Except Error β} :
    (ofExcept result >>= next).Run before trace outcome after ↔
      (∃ value, result = .ok value ∧ (next value).Run before trace outcome after) ∨
      ∃ error, result = .error error ∧ trace = [] ∧ outcome = .error error ∧ after = before := by
  cases result <;> simp [run_bind, and_assoc, and_comm, and_left_comm]

theorem run_bind_raiseIf {condition : Bool}
    {next : Unit → Action Request Answer State Error β} {outcome : Except Error β} :
    (raiseIf condition error >>= next).Run before trace outcome after ↔
      (condition = false ∧ (next ()).Run before trace outcome after) ∨
      (condition = true ∧ trace = [] ∧ outcome = .error error ∧ after = before) := by
  cases condition with
  | false =>
      have same : (raiseIf false error >>= next).Run before trace outcome after ↔
          (next ()).Run before trace outcome after := Iff.rfl
      simp [same]
  | true => simp [run_bind, and_assoc, and_comm, and_left_comm]

theorem ofExcept_ok_bind {value : α} {next : α → Action Request Answer State Error β} :
    (ofExcept (.ok value) >>= next) = next value :=
  rfl

/-- Two decodings are one. -/
theorem ofExcept_bind {result : Except Error α} {decode : α → Except Error β} :
    (ofExcept result >>= fun value => ofExcept (decode value) :
      Action Request Answer State Error β) = ofExcept (result >>= decode) := by
  cases result with
  | ok value => rfl
  | error error => rfl

/-- A question whose answer is decoded before it is used -/
theorem run_bind_decoded {request : Request} {decode : Answer request → Except Error α}
    {next : α → Action Request Answer State Error β} {outcome : Except Error β} :
    ((ask request >>= fun answer => ofExcept (decode answer)) >>= next).Run
        before trace outcome after ↔
      ∃ answer tail, trace = ⟨request, answer⟩ :: tail ∧
        ((∃ value, decode answer = .ok value ∧ (next value).Run before tail outcome after) ∨
          ∃ error, decode answer = .error error ∧ tail = [] ∧ outcome = .error error ∧
            after = before) := by
  have asked : ((ask request >>= fun answer => ofExcept (decode answer)) >>= next).Run
      before trace outcome after ↔
        ∃ answer tail, trace = ⟨request, answer⟩ :: tail ∧
          (ofExcept (decode answer) >>= next).Run before tail outcome after := by
    rw [Run]
    exact Program.yields_ask_iff
  rw [asked]
  simp only [run_bind_ofExcept]

theorem run_bind_attempt {catches : Error → Bool} {action : Action Request Answer State Error α}
    {next : Except Error α → Action Request Answer State Error β} {outcome : Except Error β} :
    (action.attempt catches >>= next).Run before trace outcome after ↔
      (∃ front result middle back, trace = front ++ back ∧
        action.Run before front result middle ∧
        (∀ error, result = .error error → catches error = true) ∧
        (next result).Run middle back outcome after) ∨
      ∃ error, catches error = false ∧ action.Run before trace (.error error) after ∧
        outcome = .error error := by
  rw [run_bind]
  constructor
  · intro run
    rcases run with ⟨front, value, middle, back, rfl, attempted, rest⟩ | ⟨raised, rfl, attempted⟩
    all_goals
      rw [run_attempt] at attempted
      rcases attempted with ⟨result, run, same⟩
      rcases result with error | result
    · by_cases caught : catches error
      · simp only [caught, if_true, Except.ok.injEq] at same
        subst same
        exact .inl ⟨front, _, middle, back, rfl, run, by simp [caught], rest⟩
      · simp [caught] at same
    · simp only [Except.ok.injEq] at same
      subst same
      exact .inl ⟨front, _, middle, back, rfl, run, by simp, rest⟩
    · by_cases caught : catches error
      · simp [caught] at same
      · simp only [caught, Bool.false_eq_true, if_false, Except.error.injEq] at same
        subst same
        exact .inr ⟨raised, by simpa using caught, run, rfl⟩
    · cases same
  · intro run
    rcases run with ⟨front, result, middle, back, rfl, run, caught, rest⟩ |
      ⟨error, uncaught, run, rfl⟩
    · refine .inl ⟨front, result, middle, back, rfl, run_attempt.mpr ⟨result, run, ?_⟩, rest⟩
      cases result with
      | ok value => rfl
      | error error => simp [caught error rfl]
    · exact .inr ⟨error, rfl, run_attempt.mpr ⟨_, run, by simp [uncaught]⟩⟩

/-- An attempt whose first step is done is an attempt at the rest. -/
theorem split_attempt {γ : Type} {catches : Error → Bool}
    {action : Action Request Answer State Error α} {next : α → Action Request Answer State Error β}
    {rest : Except Error β → Action Request Answer State Error γ} {outcome : Except Error γ}
    (run : ((action >>= next).attempt catches >>= rest).Run before trace outcome after) :
    (∃ front value middle back, trace = front ++ back ∧
        action.Run before front (.ok value) middle ∧
        ((next value).attempt catches >>= rest).Run middle back outcome after) ∨
      ∃ front error middle back, trace = front ++ back ∧
        action.Run before front (.error error) middle ∧
        ((raise error : Action Request Answer State Error β).attempt catches >>= rest).Run
          middle back outcome after := by
  rw [run_bind_attempt] at run
  rcases run with ⟨trace, result, last, later, rfl, run, caught, finish⟩ |
    ⟨error, uncaught, run, rfl⟩
  · rw [run_bind] at run
    rcases run with ⟨front, value, middle, back, rfl, first, second⟩ | ⟨error, rfl, first⟩
    · rw [List.append_assoc]
      exact .inl ⟨front, value, middle, back ++ later, rfl, first,
        run_bind_attempt.mpr (.inl ⟨back, result, last, later, rfl, second, caught, finish⟩)⟩
    · exact .inr ⟨trace, error, last, later, rfl, first, run_bind_attempt.mpr
        (.inl ⟨[], .error error, last, later, rfl, run_raise.mpr ⟨rfl, rfl, rfl⟩, caught, finish⟩)⟩
  · rw [run_bind] at run
    rcases run with ⟨front, value, middle, back, rfl, first, second⟩ | ⟨raised, same, first⟩
    · exact .inl ⟨front, value, middle, back, rfl, first,
        run_bind_attempt.mpr (.inr ⟨error, uncaught, second, rfl⟩)⟩
    · cases same
      exact .inr ⟨trace, error, after, [], (List.append_nil trace).symm, first,
        run_bind_attempt.mpr (.inr ⟨error, uncaught, run_raise.mpr ⟨rfl, rfl, rfl⟩, rfl⟩)⟩

end Inversion

end Action

end Effects

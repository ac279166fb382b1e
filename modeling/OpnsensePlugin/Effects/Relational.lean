import OpnsensePlugin.Effects.Action

/-!
# Two runs of programs

Two programs are related if they ask the same and, given related answers, go on
to be related until they return related results. The rules below follow the
constructs of `Action`; from related actions, two runs with related answers have
related outcomes.
-/

namespace Effects

variable {Request : Type} {Answer : Request → Type} {α β γ δ : Type}

/-- Corresponding answers of two traces are related, as long as the requests are the same. -/
inductive Matched (related : (request : Request) → Answer request → Answer request → Prop) :
    List (Event Request Answer) → List (Event Request Answer) → Prop
  | nil {other : List (Event Request Answer)} : Matched related [] other
  | ended {trace : List (Event Request Answer)} : Matched related trace []
  | apart {first second : Event Request Answer} {trace other : List (Event Request Answer)}
      (different : first.request ≠ second.request) :
      Matched related (first :: trace) (second :: other)
  | same {request : Request} {answer reply : Answer request}
      {trace other : List (Event Request Answer)} (head : related request answer reply)
      (rest : Matched related trace other) :
      Matched related (⟨request, answer⟩ :: trace) (⟨request, reply⟩ :: other)

/-- Traces with answers from two related sources correspond. -/
theorem Matched.of_answers {related : (request : Request) → Answer request → Answer request → Prop}
    {first second : (request : Request) → Answer request}
    (alike : ∀ request, related request (first request) (second request))
    {trace other : List (Event Request Answer)}
    (answered : ∀ event ∈ trace, event.answer = first event.request)
    (replied : ∀ event ∈ other, event.answer = second event.request) :
    Matched related trace other := by
  induction trace generalizing other with
  | nil => exact .nil
  | cons head rest ih =>
      cases other with
      | nil => exact .ended
      | cons start more =>
          rcases head with ⟨request, answer⟩
          rcases start with ⟨question, reply⟩
          by_cases same : request = question
          · cases same
            rw [List.forall_mem_cons] at answered replied
            rcases answered with ⟨given, answered⟩
            rcases replied with ⟨returned, replied⟩
            dsimp only at given returned
            subst given returned
            exact .same (alike request) (ih answered replied)
          · exact .apart same

namespace Program

variable {related : (request : Request) → Answer request → Answer request → Prop}
  {returns : α → β → Prop} {results : γ → δ → Prop}

inductive Related (related : (request : Request) → Answer request → Answer request → Prop)
    (returns : α → β → Prop) : Program Request Answer α → Program Request Answer β → Prop
  | done {left : α} {right : β} (value : returns left right) :
      Related related returns (.done left) (.done right)
  | ask {request : Request} {next : Answer request → Program Request Answer α}
      {other : Answer request → Program Request Answer β}
      (rest : ∀ answer reply, related request answer reply →
        Related related returns (next answer) (other reply)) :
      Related related returns (.ask request next) (.ask request other)

theorem Related.bind {first : Program Request Answer α} {second : Program Request Answer β}
    {next : α → Program Request Answer γ} {other : β → Program Request Answer δ}
    (before : Related related returns first second)
    (after : ∀ left right, returns left right →
      Related related results (next left) (other right)) :
    Related related results (first.bind next) (second.bind other) := by
  induction before with
  | done value => exact after _ _ value
  | ask _ ih => exact .ask fun answer reply head => ih answer reply head

/-- Runs of related programs with related answers return related results. -/
theorem Related.run {first : Program Request Answer α} {second : Program Request Answer β}
    (programs : Related related returns first second)
    {trace other : List (Event Request Answer)} {left : α} {right : β}
    (run : first.Yields trace left) (twin : second.Yields other right)
    (answers : Matched related trace other) : returns left right := by
  induction programs generalizing trace other with
  | done value =>
      rw [yields_done_iff] at run twin
      rcases run with ⟨_, rfl⟩
      rcases twin with ⟨_, rfl⟩
      exact value
  | ask _ ih =>
      rw [yields_ask_iff] at run twin
      rcases run with ⟨answer, rest, rfl, run⟩
      rcases twin with ⟨reply, more, rfl, twin⟩
      cases answers with
      | apart different => exact absurd rfl different
      | same head tail => exact ih answer reply head run twin tail

end Program

/-- Both outcomes are errors, and the same, or both are values that are related. -/
def OutcomesRelated {Error : Type} (returns : α → β → Prop) : Except Error α → Except Error β → Prop
  | .ok left, .ok right => returns left right
  | .error first, .error second => first = second
  | _, _ => False

theorem outcomesRelated_eq {Error : Type} {first second : Except Error α}
    (same : OutcomesRelated (fun left right => left = right) first second) : first = second := by
  cases first with
  | error => cases second with
    | error => exact congrArg Except.error same
    | ok => exact same.elim
  | ok => cases second with
    | error => exact same.elim
    | ok => exact congrArg Except.ok same

namespace Action

variable {State Inner Error : Type}
  {related : (request : Request) → Answer request → Answer request → Prop}
  {returns : α → β → Prop} {results : γ → δ → Prop}

/-- Actions that do the same in the same state as long as the answers are related -/
def Related (related : (request : Request) → Answer request → Answer request → Prop)
    (returns : α → β → Prop) (first : Action Request Answer State Error α)
    (second : Action Request Answer State Error β) : Prop :=
  ∀ state, Program.Related related
    (fun left right => OutcomesRelated returns left.1 right.1 ∧ left.2 = right.2)
    (first state) (second state)

namespace Related

theorem pure {left : α} {right : β} (value : returns left right) :
    Related related returns (Pure.pure left : Action Request Answer State Error α)
      (Pure.pure right) :=
  fun _ => .done ⟨value, rfl⟩

theorem raise {error : Error} :
    Related related returns (Action.raise error : Action Request Answer State Error α)
      (Action.raise error) :=
  fun _ => .done ⟨rfl, rfl⟩

theorem ofExcept {first : Except Error α} {second : Except Error β}
    (outcomes : OutcomesRelated returns first second) :
    Related related returns (Action.ofExcept first : Action Request Answer State Error α)
      (Action.ofExcept second) :=
  fun _ => .done ⟨outcomes, rfl⟩

theorem ask {request : Request} {returns : Answer request → Answer request → Prop}
    (gives : ∀ answer reply, related request answer reply → returns answer reply) :
    Related related returns
      (Action.ask request : Action Request Answer State Error (Answer request))
      (Action.ask request) :=
  fun _ => .ask fun answer reply head => .done ⟨gives answer reply head, rfl⟩

theorem readState :
    Related related (fun left right => left = right)
      (Action.readState : Action Request Answer State Error State) Action.readState :=
  fun _ => .done ⟨rfl, rfl⟩

theorem modifyState {update : State → State} :
    Related related (fun left right => left = right)
      (Action.modifyState update : Action Request Answer State Error Unit)
      (Action.modifyState update) :=
  fun _ => .done ⟨rfl, rfl⟩

theorem bind {first : Action Request Answer State Error α}
    {second : Action Request Answer State Error β}
    {next : α → Action Request Answer State Error γ}
    {other : β → Action Request Answer State Error δ}
    (before : Related related returns first second)
    (after : ∀ left right, returns left right → Related related results (next left) (other right)) :
    Related related results (first >>= next) (second >>= other) := by
  intro state
  refine (before state).bind ?_
  rintro ⟨outcome, later⟩ ⟨result, last⟩ ⟨outcomes, rfl⟩
  cases outcome with
  | ok left => cases result with
    | ok right => exact after left right outcomes later
    | error => exact outcomes.elim
  | error error => cases result with
    | ok => exact outcomes.elim
    | error other =>
        cases outcomes
        exact .done ⟨rfl, rfl⟩

theorem handle {first : Action Request Answer State Error α}
    {second : Action Request Answer State Error β}
    {handler : Error → Action Request Answer State Error α}
    {other : Error → Action Request Answer State Error β}
    (body : Related related returns first second)
    (handlers : ∀ error, Related related returns (handler error) (other error)) :
    Related related returns (first.handle handler) (second.handle other) := by
  intro state
  refine (body state).bind ?_
  rintro ⟨outcome, later⟩ ⟨result, last⟩ ⟨outcomes, rfl⟩
  cases outcome with
  | ok left => cases result with
    | ok right => exact .done ⟨outcomes, rfl⟩
    | error => exact outcomes.elim
  | error error => cases result with
    | ok => exact outcomes.elim
    | error other =>
        cases outcomes
        exact handlers error later

theorem attempt {first : Action Request Answer State Error α}
    {second : Action Request Answer State Error β} {catches : Error → Bool}
    (body : Related related returns first second) :
    Related related (OutcomesRelated returns) (first.attempt catches) (second.attempt catches) := by
  intro state
  refine (body state).bind ?_
  rintro ⟨outcome, later⟩ ⟨result, last⟩ ⟨outcomes, rfl⟩
  cases outcome with
  | ok left => cases result with
    | ok right => exact .done ⟨outcomes, rfl⟩
    | error => exact outcomes.elim
  | error error => cases result with
    | ok => exact outcomes.elim
    | error other =>
        cases outcomes
        cases caught : catches error with
        | true => simpa [caught] using Program.Related.done ⟨rfl, rfl⟩
        | false => simpa [caught] using Program.Related.done ⟨rfl, rfl⟩

theorem withState {start : Inner} {first : Action Request Answer Inner Error α}
    {second : Action Request Answer Inner Error β} (body : Related related returns first second) :
    Related related (fun left right => returns left.1 right.1 ∧ left.2 = right.2)
      (withState start first : Action Request Answer State Error (α × Inner))
      (Action.withState start second) := by
  intro state
  refine (body start).bind ?_
  rintro ⟨outcome, later⟩ ⟨result, last⟩ ⟨outcomes, rfl⟩
  cases outcome with
  | ok left => cases result with
    | ok right => exact .done ⟨⟨outcomes, rfl⟩, rfl⟩
    | error => exact outcomes.elim
  | error error => cases result with
    | ok => exact outcomes.elim
    | error other =>
        cases outcomes
        exact .done ⟨rfl, rfl⟩

/-- Two runs from one state whose answers are related -/
theorem outcomes {first : Action Request Answer State Error α}
    {second : Action Request Answer State Error β} (actions : Related related returns first second)
    {before after last : State} {trace other : List (Event Request Answer)}
    {outcome : Except Error α} {result : Except Error β}
    (run : first.Run before trace outcome after) (twin : second.Run before other result last)
    (answers : Matched related trace other) : OutcomesRelated returns outcome result :=
  ((actions before).run run twin answers).1

end Related

end Action

end Effects

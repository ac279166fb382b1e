import OpnsensePlugin.Effects.Action
import OpnsensePlugin.Effects.Segments

/-!
# Rules for all runs of an action

`Action.Ensures` states an effect of every run, such as the requests the code
makes, and `Action.Raises` a property of the errors it ends with. Both are
proved construct by construct. `Action.Returned` is the segment of a call that
returned.
-/

namespace Effects

namespace Action

variable {Request : Type} {Answer : Request → Type} {State Inner Error α β : Type}
  {allowed : Request → Prop}

/-- The segment of a call, of code that uses no state, that returned a value with a property. -/
def Returned (call : ∀ State, Action Request Answer State Error α) (property : α → Prop)
    (segment : List (Event Request Answer)) : Prop :=
  ∃ State before value after, (call State).Run before segment (.ok value) after ∧ property value

theorem Returned.intro {call : ∀ State, Action Request Answer State Error α}
    {property : α → Prop} {before after : State} {segment : List (Event Request Answer)}
    {value : α} (run : (call State).Run before segment (.ok value) after)
    (holds : property value) : Returned call property segment :=
  ⟨State, before, value, after, run, holds⟩

/-- The segment of a call, of code that uses no state, that raised an error. -/
def Failed (call : ∀ State, Action Request Answer State Error α)
    (segment : List (Event Request Answer)) : Prop :=
  ∃ State before error after, (call State).Run before segment (.error error) after

/-! ## Code that uses no state -/

/-- The state stays as it is and makes no difference. -/
def Stateless (call : ∀ State, Action Request Answer State Error α) : Prop :=
  ∀ ⦃State before trace outcome after⦄, (call State).Run before trace outcome after →
    after = before ∧ ∀ (Other : Type) (other : Other), (call Other).Run other trace outcome other

theorem stateless_pure {value : α} :
    Stateless fun State => (pure value : Action Request Answer State Error α) := by
  intro State before trace outcome after run
  rw [run_pure] at run
  rcases run with ⟨rfl, rfl, rfl⟩
  exact ⟨rfl, fun _ other => run_pure.mpr ⟨rfl, rfl, rfl⟩⟩

theorem stateless_ask {request : Request} :
    Stateless fun State =>
      (ask request : Action Request Answer State Error (Answer request)) := by
  intro State before trace outcome after run
  rw [run_ask] at run
  rcases run with ⟨answer, rfl, rfl, rfl⟩
  exact ⟨rfl, fun _ other => run_ask.mpr ⟨answer, rfl, rfl, rfl⟩⟩

theorem stateless_ofExcept {result : Except Error α} :
    Stateless fun State => (ofExcept result : Action Request Answer State Error α) := by
  intro State before trace outcome after run
  rw [run_ofExcept] at run
  rcases run with ⟨rfl, rfl, rfl⟩
  exact ⟨rfl, fun _ other => run_ofExcept.mpr ⟨rfl, rfl, rfl⟩⟩

theorem stateless_raiseIf {condition : Bool} {error : Error} :
    Stateless fun State =>
      (raiseIf condition error : Action Request Answer State Error Unit) := by
  intro State before trace outcome after run
  rw [run_raiseIf] at run
  rcases run with ⟨rfl, rfl, rfl⟩
  exact ⟨rfl, fun _ other => run_raiseIf.mpr ⟨rfl, rfl, rfl⟩⟩

theorem stateless_bind {call : ∀ State, Action Request Answer State Error α}
    {next : ∀ State, α → Action Request Answer State Error β} (first : Stateless call)
    (second : ∀ value, Stateless fun State => next State value) :
    Stateless fun State => call State >>= next State := by
  intro State before trace outcome after run
  rw [run_bind] at run
  rcases run with ⟨front, value, middle, back, rfl, start, finish⟩ | ⟨error, rfl, start⟩
  · have begun := first start
    have ended := second value finish
    have same := begun.1
    subst same
    refine ⟨ended.1, fun Other other => run_bind.mpr (.inl ?_)⟩
    exact ⟨front, value, other, back, rfl, begun.2 Other other, ended.2 Other other⟩
  · have begun := first start
    exact ⟨begun.1, fun Other other => run_bind.mpr (.inr ⟨error, rfl, begun.2 Other other⟩)⟩

/-- On one list of exchanges a call does not both return and raise. -/
theorem Stateless.returned_not_failed {call : ∀ State, Action Request Answer State Error α}
    {property : α → Prop} {front back more rest : List (Event Request Answer)}
    (stateless : Stateless call) (returned : Returned call property front)
    (failed : Failed call back) (same : front ++ more = back ++ rest) : False := by
  rcases returned with ⟨State, before, value, after, run, _⟩
  rcases failed with ⟨Other, start, error, last, raised⟩
  have again := (stateless raised).2 State before
  have both := (Program.Yields.unique run again same).2
  cases both

/-! ## Effects of every run -/

/-- Every run relates its start state, its trace and its final state by `effect`. -/
def Ensures (effect : State → List (Event Request Answer) → State → Prop)
    (action : Action Request Answer State Error α) : Prop :=
  ∀ before trace outcome after, action.Run before trace outcome after →
    effect before trace after

/-- An effect that holds of doing nothing and of one thing after another. -/
class Composable (effect : State → List (Event Request Answer) → State → Prop) : Prop where
  refl : ∀ state, effect state [] state
  trans : ∀ {before middle after front back}, effect before front middle →
    effect middle back after → effect before (front ++ back) after

/-- All requests are allowed. -/
def Requests (allowed : Request → Prop) (_ : State) (trace : List (Event Request Answer))
    (_ : State) : Prop :=
  ∀ event ∈ trace, allowed event.request

/-- All requests are allowed, and the state stays as it is. -/
def Observes (allowed : Request → Prop) (before : State) (trace : List (Event Request Answer))
    (after : State) : Prop :=
  after = before ∧ ∀ event ∈ trace, allowed event.request

instance : Composable (Requests allowed : State → List (Event Request Answer) → State → Prop) where
  refl := by simp [Requests]
  trans := by
    intro before middle after front back first second event member
    rcases List.mem_append.mp member with member | member
    · exact first event member
    · exact second event member

instance : Composable (Observes allowed : State → List (Event Request Answer) → State → Prop) where
  refl := by simp [Observes]
  trans := by
    intro before middle after front back first second
    refine ⟨second.1.trans first.1, ?_⟩
    intro event member
    rcases List.mem_append.mp member with member | member
    · exact first.2 event member
    · exact second.2 event member

section Ensures

variable {effect : State → List (Event Request Answer) → State → Prop}

theorem Ensures.mono {weaker : State → List (Event Request Answer) → State → Prop}
    {action : Action Request Answer State Error α} (ensures : Ensures effect action)
    (weaken : ∀ before trace after, effect before trace after → weaker before trace after) :
    Ensures weaker action := by
  intro before trace outcome after run
  exact weaken before trace after (ensures before trace outcome after run)

theorem ensures_ask {request : Request}
    (holds : ∀ state answer, effect state [⟨request, answer⟩] state) :
    Ensures effect (ask request : Action Request Answer State Error (Answer request)) := by
  intro before trace outcome after run
  rw [run_ask] at run
  rcases run with ⟨answer, rfl, _, rfl⟩
  exact holds after answer

theorem ensures_modifyState {update : State → State}
    (holds : ∀ state, effect state [] (update state)) :
    Ensures effect (modifyState update : Action Request Answer State Error Unit) := by
  intro before trace outcome after run
  rw [run_modifyState] at run
  rcases run with ⟨rfl, _, rfl⟩
  exact holds before

theorem ensures_attempt {catches : Error → Bool} {action : Action Request Answer State Error α}
    (ensures : Ensures effect action) : Ensures effect (action.attempt catches) := by
  intro before trace outcome after run
  rw [run_attempt] at run
  rcases run with ⟨result, run, _⟩
  exact ensures before trace result after run

variable [Composable effect]

theorem ensures_pure {value : α} :
    Ensures effect (pure value : Action Request Answer State Error α) := by
  intro before trace outcome after run
  rw [run_pure] at run
  rcases run with ⟨rfl, _, rfl⟩
  exact Composable.refl after

theorem ensures_raise {error : Error} :
    Ensures effect (raise error : Action Request Answer State Error α) := by
  intro before trace outcome after run
  rw [run_raise] at run
  rcases run with ⟨rfl, _, rfl⟩
  exact Composable.refl after

theorem ensures_ofExcept {outcome : Except Error α} :
    Ensures effect (ofExcept outcome : Action Request Answer State Error α) := by
  intro before trace outcome after run
  rw [run_ofExcept] at run
  rcases run with ⟨rfl, _, rfl⟩
  exact Composable.refl after

theorem ensures_raiseIf {condition : Bool} {error : Error} :
    Ensures effect (raiseIf condition error : Action Request Answer State Error Unit) := by
  intro before trace outcome after run
  rw [run_raiseIf] at run
  rcases run with ⟨rfl, _, rfl⟩
  exact Composable.refl after

theorem ensures_readState :
    Ensures effect (readState : Action Request Answer State Error State) := by
  intro before trace outcome after run
  rw [run_readState] at run
  rcases run with ⟨rfl, _, rfl⟩
  exact Composable.refl after

theorem ensures_bind {action : Action Request Answer State Error α}
    {next : α → Action Request Answer State Error β} (first : Ensures effect action)
    (second : ∀ value, Ensures effect (next value)) : Ensures effect (action >>= next) := by
  intro before trace outcome after run
  rw [run_bind] at run
  rcases run with ⟨front, value, middle, back, rfl, start, finish⟩ | ⟨error, rfl, start⟩
  · exact Composable.trans (first before front _ middle start)
      (second value middle back outcome after finish)
  · exact first before trace _ after start

/-- Code after a conversion knows what was converted. -/
theorem ensures_bind_ofExcept {result : Except Error α}
    {next : α → Action Request Answer State Error β}
    (rest : ∀ value, result = .ok value → Ensures effect (next value)) :
    Ensures effect (ofExcept result >>= next) := by
  intro before trace outcome after run
  rw [run_bind_ofExcept] at run
  rcases run with ⟨value, same, run⟩ | ⟨error, _, rfl, rfl, rfl⟩
  · exact rest value same before trace outcome after run
  · exact Composable.refl _

omit [Composable effect] in
theorem ensures_bind_pure {value : α} {next : α → Action Request Answer State Error β}
    (rest : Ensures effect (next value)) : Ensures effect (pure value >>= next) := by
  intro before trace outcome after run
  rw [run_bind] at run
  simp only [run_pure] at run
  rcases run with ⟨_, _, _, back, rfl, ⟨rfl, same, rfl⟩, run⟩ | ⟨error, _, _, impossible, _⟩
  · cases same
    exact rest _ _ _ _ run
  · cases impossible

theorem ensures_handle {action : Action Request Answer State Error α}
    {handler : Error → Action Request Answer State Error α} (first : Ensures effect action)
    (second : ∀ error, Ensures effect (handler error)) :
    Ensures effect (action.handle handler) := by
  intro before trace outcome after run
  rw [run_handle] at run
  rcases run with ⟨value, _, start⟩ | ⟨front, error, middle, back, rfl, start, finish⟩
  · exact first before trace _ after start
  · exact Composable.trans (first before front _ middle start)
      (second error middle back outcome after finish)

theorem ensures_finallyDo {action : Action Request Answer State Error α}
    {cleanup : Action Request Answer State Error Unit} (first : Ensures effect action)
    (second : Ensures effect cleanup) : Ensures effect (action.finallyDo cleanup) := by
  intro before trace outcome after run
  rw [run_finallyDo] at run
  rcases run with ⟨front, result, middle, back, closing, rfl, start, finish, _⟩
  exact Composable.trans (first before front result middle start)
    (second middle back closing after finish)

end Ensures

theorem requests_modifyState {update : State → State} :
    Ensures (Requests allowed) (modifyState update : Action Request Answer State Error Unit) :=
  ensures_modifyState (by simp [Requests])

/-- The requests of code with a state of its own are requests of the code around it. -/
theorem observes_withState {start : Inner} {action : Action Request Answer Inner Error α}
    (requests : Ensures (Requests allowed) action) :
    Ensures (Observes allowed)
      (withState start action : Action Request Answer State Error (α × Inner)) := by
  intro before trace outcome after run
  rw [run_withState] at run
  rcases run with ⟨result, last, run, rfl, _⟩
  exact ⟨rfl, requests start trace result last run⟩

theorem Ensures.requests {action : Action Request Answer State Error α}
    (observes : Ensures (Observes allowed) action) : Ensures (Requests allowed) action :=
  observes.mono fun _ _ _ effect => effect.2

theorem Ensures.widen {wider : Request → Prop} {action : Action Request Answer State Error α}
    (observes : Ensures (Observes allowed) action)
    (widens : ∀ request, allowed request → wider request) :
    Ensures (Observes wider) action :=
  observes.mono fun _ _ _ effect =>
    ⟨effect.1, fun event member => widens _ (effect.2 event member)⟩

/-! ## Effects under an invariant -/

section Guards

variable {good : State → Prop} {action : Action Request Answer State Error α}

/-- From a good state all requests are allowed, and the state stays good. -/
def Guards (good : State → Prop) (allowed : Request → Prop) (before : State)
    (trace : List (Event Request Answer)) (after : State) : Prop :=
  good before → (∀ event ∈ trace, allowed event.request) ∧ good after

instance : Composable
    (Guards good allowed : State → List (Event Request Answer) → State → Prop) where
  refl state holds := ⟨by simp, holds⟩
  trans := by
    intro before middle after front back first second holds
    have begun := first holds
    have ended := second begun.2
    exact ⟨List.forall_mem_append.mpr ⟨begun.1, ended.1⟩, ended.2⟩

theorem Ensures.guards (observes : Ensures (Observes allowed) action) :
    Ensures (Guards good allowed) action := by
  intro before trace outcome after run holds
  have observed := observes before trace outcome after run
  exact ⟨observed.2, observed.1 ▸ holds⟩

/-- Code that reads the state finds a good one. -/
theorem guards_readState {next : State → Action Request Answer State Error β}
    (rest : ∀ state, good state → Ensures (Guards good allowed) (next state)) :
    Ensures (Guards good allowed) (readState >>= next) := by
  intro before trace outcome after run holds
  rw [run_bind_readState] at run
  exact rest before holds before trace outcome after run holds

theorem guards_modifyState {update : State → State} (keeps : ∀ state, good state → good (update state)) :
    Ensures (Guards good allowed)
      (modifyState update : Action Request Answer State Error Unit) :=
  ensures_modifyState fun state holds => ⟨by simp, keeps state holds⟩

end Guards

/-! ## When code returns -/

section Returns

variable {good : Event Request Answer → Prop}

/-- An action returns exactly if all its exchanges are good. -/
def ReturnsIff (good : Event Request Answer → Prop)
    (action : Action Request Answer State Error α) : Prop :=
  ∀ before trace outcome after, action.Run before trace outcome after →
    ((∃ value, outcome = .ok value) ↔ ∀ event ∈ trace, good event)

theorem returnsIff_pure {value : α} :
    ReturnsIff good (pure value : Action Request Answer State Error α) := by
  intro before trace outcome after run
  rw [run_pure] at run
  rcases run with ⟨rfl, rfl, _⟩
  simp

theorem returnsIff_bind {action : Action Request Answer State Error α}
    {next : α → Action Request Answer State Error β} (first : ReturnsIff good action)
    (second : ∀ value, ReturnsIff good (next value)) : ReturnsIff good (action >>= next) := by
  intro before trace outcome after run
  rw [run_bind] at run
  rcases run with ⟨front, value, middle, back, rfl, start, finish⟩ | ⟨error, rfl, start⟩
  · have begun := (first before front _ middle start).mp ⟨value, rfl⟩
    rw [second value middle back outcome after finish]
    constructor
    · intro ended event member
      rcases List.mem_append.mp member with member | member
      · exact begun event member
      · exact ended event member
    · intro all event member
      exact all event (List.mem_append_right front member)
  · have begun := first before trace _ after start
    constructor
    · rintro ⟨value, same⟩
      cases same
    · intro all
      rcases begun.mpr all with ⟨value, same⟩
      cases same

/-- Code that catches every error returns. -/
theorem returnsIff_attempt {action : Action Request Answer State Error α}
    (requests : Ensures (fun _ trace _ => ∀ event ∈ trace, good event) action) :
    ReturnsIff good (action.attempt fun _ => true) := by
  intro before trace outcome after run
  rw [run_attempt] at run
  rcases run with ⟨result, run, rfl⟩
  have all := requests before trace result after run
  cases result <;> simpa using all

end Returns

/-! ## Errors -/

section Raises

variable {property : Error → Prop}

/-- Every run that ends with an error ends with one that has the property. -/
def Raises (property : Error → Prop) (action : Action Request Answer State Error α) : Prop :=
  ∀ before trace error after, action.Run before trace (.error error) after → property error

theorem raises_pure {value : α} :
    Raises property (pure value : Action Request Answer State Error α) := by
  intro before trace error after run
  simp at run

theorem raises_readState :
    Raises property (readState : Action Request Answer State Error State) := by
  intro before trace error after run
  simp at run

theorem raises_ask {request : Request} :
    Raises property (ask request : Action Request Answer State Error (Answer request)) := by
  intro before trace error after run
  simp at run

theorem raises_ofExcept {outcome : Except Error α}
    (raises : ∀ error, outcome = .error error → property error) :
    Raises property (ofExcept outcome : Action Request Answer State Error α) := by
  intro before trace error after run
  rw [run_ofExcept] at run
  exact raises error run.2.1.symm

theorem raises_modifyState {update : State → State} :
    Raises property (modifyState update : Action Request Answer State Error Unit) := by
  intro before trace error after run
  simp at run

theorem raises_bind {action : Action Request Answer State Error α}
    {next : α → Action Request Answer State Error β} (first : Raises property action)
    (second : ∀ value, Raises property (next value)) : Raises property (action >>= next) := by
  intro before trace error after run
  rw [run_bind] at run
  rcases run with ⟨front, value, middle, back, rfl, _, finish⟩ | ⟨raised, same, start⟩
  · exact second value middle back error after finish
  · cases same
    exact first before trace error after start

theorem raises_attempt {catches : Error → Bool} {action : Action Request Answer State Error α}
    (uncaught : ∀ error, catches error = false → property error) :
    Raises property (action.attempt catches) := by
  intro before trace error after run
  rw [run_attempt] at run
  rcases run with ⟨result, _, same⟩
  cases result with
  | ok value => cases same
  | error raised =>
      by_cases caught : catches raised
      · simp [caught] at same
      · simp only [caught, Bool.false_eq_true, if_false, Except.error.injEq] at same
        subst same
        exact uncaught error (by simpa using caught)

end Raises

end Action

end Effects

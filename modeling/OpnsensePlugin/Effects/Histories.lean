import OpnsensePlugin.Effects.Rules
import OpnsensePlugin.Effects.Segments
import OpnsensePlugin.Effects.Triples

/-!
# What came before

What a program may do can depend on what has happened. `Heeds` is a triple whose
assertions speak of the history as well as of the state: every exchange of a run is
permitted after what came before it, and the run ends with a history and a state as
stated.
-/

namespace Effects

/-! ## Histories -/

section Histories

variable {ε : Type} {permitted weaker : List ε → ε → Prop} {front back events : List ε}

/-- Every event is permitted after what came before it. -/
def Justified (permitted : List ε → ε → Prop) (events : List ε) : Prop :=
  ∀ front event back, events = front ++ event :: back → permitted front event

theorem Justified.nil : Justified permitted [] := by
  intro front event back split
  simp at split

theorem Justified.append (first : Justified permitted front)
    (second : Justified (fun later => permitted (front ++ later)) back) :
    Justified permitted (front ++ back) := by
  intro before event after split
  have early : Guarded (fun other => other = event) (fun history => permitted history event) front := by
    rintro start _ rest same rfl
    exact first start _ rest same
  have late : Guarded (fun other => other = event)
      (fun history => permitted (front ++ history) event) back := by
    rintro start _ rest same rfl
    exact second start _ rest same
  exact guarded_append.mpr ⟨early, late⟩ before event after split rfl

theorem Justified.mono (justified : Justified permitted events)
    (weaken : ∀ history event, permitted history event → weaker history event) :
    Justified weaker events :=
  fun front event back split => weaken front event (justified front event back split)

theorem Justified.of_all (all : ∀ history, ∀ event ∈ events, permitted history event) :
    Justified permitted events := by
  intro front event back split
  exact all front event (by simp [split])

/-- What stays true whatever happens -/
def Lasting (known : List ε → Prop) : Prop := ∀ history more, known history → known (history ++ more)

end Histories

namespace Action

variable {Request : Type} {Answer : Request → Type} {State Inner Error α β : Type}

/-- A triple with histories -/
def Heeds (permitted : List (Event Request Answer) → Event Request Answer → Prop)
    (pre : List (Event Request Answer) → State → Prop) (action : Action Request Answer State Error α)
    (post : α → List (Event Request Answer) → State → Prop)
    (failed : Error → List (Event Request Answer) → State → Prop) : Prop :=
  ∀ ⦃history before trace outcome after⦄, pre history before → action.Run before trace outcome after →
    Justified (fun past => permitted (history ++ past)) trace ∧
      Ended (fun value => post value (history ++ trace)) (fun error => failed error (history ++ trace))
        outcome after

variable {permitted : List (Event Request Answer) → Event Request Answer → Prop}
  {pre : List (Event Request Answer) → State → Prop}
  {post : α → List (Event Request Answer) → State → Prop}
  {failed : Error → List (Event Request Answer) → State → Prop}
  {action : Action Request Answer State Error α} {known : List (Event Request Answer) → Prop}
  {allowed : Request → Prop} {trace : List (Event Request Answer)} {before after : State}
  {outcome : Except Error α}

namespace Heeds

/-- A run from the beginning -/
theorem justified (heeds : Heeds permitted pre action post failed) (start : pre [] before)
    (run : action.Run before trace outcome after) : Justified permitted trace :=
  (heeds start run).1

theorem weaken {weaker : α → List (Event Request Answer) → State → Prop}
    {worse : Error → List (Event Request Answer) → State → Prop}
    (heeds : Heeds permitted pre action post failed)
    (returned : ∀ value history state, post value history state → weaker value history state)
    (raised : ∀ error history state, failed error history state → worse error history state) :
    Heeds permitted pre action weaker worse := by
  intro history before trace outcome after holds run
  rcases heeds holds run with ⟨justified, ended⟩
  refine ⟨justified, ?_⟩
  cases outcome with
  | ok value => exact returned value _ after ended
  | error error => exact raised error _ after ended

theorem permit {wider : List (Event Request Answer) → Event Request Answer → Prop}
    (heeds : Heeds permitted pre action post failed)
    (widens : ∀ history event, permitted history event → wider history event) :
    Heeds wider pre action post failed := by
  intro history before trace outcome after given run
  rcases heeds given run with ⟨justified, ended⟩
  exact ⟨justified.mono fun past event => widens (history ++ past) event, ended⟩

theorem require {stronger : List (Event Request Answer) → State → Prop}
    (heeds : Heeds permitted pre action post failed)
    (given : ∀ history state, stronger history state → pre history state) :
    Heeds permitted stronger action post failed :=
  fun _ _ _ _ _ holds run => heeds (given _ _ holds) run

/-- What holds whatever happens -/
theorem assuming {fact : Prop} (heeds : fact → Heeds permitted pre action post failed) :
    Heeds permitted (fun history state => fact ∧ pre history state) action post failed :=
  fun _ _ _ _ _ holds run => heeds holds.1 holds.2 run

theorem pure {value : α} (holds : ∀ history state, pre history state → post value history state) :
    Heeds permitted pre (Pure.pure value : Action Request Answer State Error α) post failed := by
  intro history before trace outcome after given run
  rcases run_pure.mp run with ⟨rfl, rfl, rfl⟩
  refine ⟨.nil, ?_⟩
  rw [List.append_nil]
  exact holds history _ given

theorem modifyState {update : State → State}
    {post : Unit → List (Event Request Answer) → State → Prop}
    (holds : ∀ history state, pre history state → post () history (update state)) :
    Heeds permitted pre (Action.modifyState update : Action Request Answer State Error Unit) post
      failed := by
  intro history before trace outcome after given run
  rcases run_modifyState.mp run with ⟨rfl, rfl, rfl⟩
  refine ⟨.nil, ?_⟩
  rw [List.append_nil]
  exact holds history _ given

theorem bind {middle : α → List (Event Request Answer) → State → Prop}
    {next : α → Action Request Answer State Error β}
    {last : β → List (Event Request Answer) → State → Prop}
    (first : Heeds permitted pre action middle failed)
    (second : ∀ value, Heeds permitted (middle value) (next value) last failed) :
    Heeds permitted pre (action >>= next) last failed := by
  intro history before trace outcome after given run
  rcases run_bind.mp run with ⟨front, value, state, back, rfl, start, finish⟩ | ⟨error, rfl, start⟩
  · rcases first given start with ⟨early, reached⟩
    rcases second value reached finish with ⟨late, ended⟩
    refine ⟨early.append (late.mono ?_), ?_⟩
    · intro past event allows
      rwa [← List.append_assoc]
    · rwa [← List.append_assoc]
  · exact first given start

theorem bind_ofExcept {result : Except Error α} {next : α → Action Request Answer State Error β}
    {last : β → List (Event Request Answer) → State → Prop}
    (rest : ∀ value, result = .ok value → Heeds permitted pre (next value) last failed)
    (raised : ∀ error history state, pre history state → failed error history state) :
    Heeds permitted pre (Action.ofExcept result >>= next) last failed := by
  intro history before trace outcome after given run
  rcases run_bind_ofExcept.mp run with ⟨value, known, run⟩ | ⟨error, _, rfl, rfl, rfl⟩
  · exact rest value known given run
  · refine ⟨.nil, ?_⟩
    rw [List.append_nil]
    exact raised error history _ given

/-- The state is at hand for what follows. -/
theorem readState {next : State → Action Request Answer State Error β}
    {last : β → List (Event Request Answer) → State → Prop}
    (second : ∀ value, Heeds permitted (fun history state => pre history state ∧ state = value)
      (next value) last failed) :
    Heeds permitted pre (Action.readState >>= next) last failed := by
  intro history before trace outcome after given run
  rw [run_bind_readState] at run
  exact second before ⟨given, rfl⟩ run

/-- What is caught is a value. -/
theorem attempt {catches : Error → Bool}
    {last : Except Error α → List (Event Request Answer) → State → Prop}
    (first : Heeds permitted pre action (fun value => last (.ok value)) fun error => last (.error error))
    (uncaught : ∀ error history state, last (.error error) history state →
      failed error history state) :
    Heeds permitted pre (action.attempt catches) last failed := by
  intro history before trace outcome after given run
  rcases run_attempt.mp run with ⟨result, inner, rfl⟩
  rcases first given inner with ⟨justified, ended⟩
  refine ⟨justified, ?_⟩
  cases result with
  | ok value => exact ended
  | error error =>
      dsimp only
      split
      · exact ended
      · exact uncaught error _ after ended

theorem finallyDo {cleanup : Action Request Answer State Error Unit}
    (first : Heeds permitted pre action post failed)
    (returned : ∀ value, Heeds permitted (post value) cleanup (fun _ => post value) failed)
    (raised : ∀ error, Heeds permitted (failed error) cleanup (fun _ => failed error) failed) :
    Heeds permitted pre (action.finallyDo cleanup) post failed := by
  intro history before trace outcome after given run
  rcases run_finallyDo.mp run with ⟨front, result, state, back, closing, rfl, start, finish, rfl⟩
  rcases first given start with ⟨early, reached⟩
  cases result with
  | ok value =>
      rcases returned value reached finish with ⟨late, ended⟩
      refine ⟨early.append (late.mono fun past event => by rw [List.append_assoc]; exact id), ?_⟩
      rw [← List.append_assoc]
      cases closing <;> exact ended
  | error error =>
      rcases raised error reached finish with ⟨late, ended⟩
      refine ⟨early.append (late.mono fun past event => by rw [List.append_assoc]; exact id), ?_⟩
      rw [← List.append_assoc]
      cases closing <;> exact ended

/-- Code with a state of its own -/
theorem withState {start : Inner} {action : Action Request Answer Inner Error α}
    {last : α → List (Event Request Answer) → State → Prop}
    (inner : ∀ state, Heeds permitted (fun history _ => pre history state) action
      (fun value history _ => last value history state) fun error history _ => failed error history state) :
    Heeds permitted pre (Action.withState start action : Action Request Answer State Error (α × Inner))
      (fun value => last value.1) failed := by
  intro history before trace outcome after given run
  rcases run_withState.mp run with ⟨result, final, within, rfl, rfl⟩
  rcases inner after given within with ⟨justified, ended⟩
  refine ⟨justified, ?_⟩
  cases result <;> exact ended

/-- What lasts permits all that the code does. -/
theorem under (lasting : Lasting known) (requests : Ensures (Requests allowed) action)
    (permits : ∀ history event, known history → allowed event.request → permitted history event) :
    Heeds permitted (fun history _ => known history) action (fun _ history _ => known history)
      fun _ history _ => known history := by
  intro history before trace outcome after given run
  refine ⟨.of_all fun past event member => ?_, ?_⟩
  · exact permits _ event (lasting history past given) (requests _ _ _ _ run event member)
  · cases outcome <;> exact lasting history trace given

end Heeds

end Action

end Effects

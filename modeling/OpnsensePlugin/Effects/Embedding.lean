import Mathlib.Data.List.Forall2
import OpnsensePlugin.Effects.Segments
import OpnsensePlugin.Effects.Rules

/-!
# Code inside a larger environment

Code is put into an environment that offers more than it needs, or that names things in
another way: `wrap` is the request that stands for one of its own, and `unwrap` reads the
answer. Its state is a part of a larger state. The runs of the code inside are its own
runs, exchange for exchange, and how it ends is a value of the code around it.
-/

namespace Effects

/-- How the requests of one environment are made in another, and how their answers are read -/
structure Wrapping (Inner : Type) (Given : Inner → Type) (Outer : Type) (Answer : Outer → Type) where
  wrap : Inner → Outer
  unwrap : ∀ request, Answer (wrap request) → Given request

/-- Where a state is within a larger one -/
structure Part (Whole Inner : Type) where
  read : Whole → Inner
  write : Inner → Whole → Whole

/-- No state at all -/
def Part.none {Whole : Type} : Part Whole Unit where
  read _ := ()
  write _ whole := whole

section Programs

variable {Inner Outer α : Type} {Given : Inner → Type} {Answer : Outer → Type}

/-- The exchange of the larger environment stands for the other one. -/
inductive Wrapping.Stands (wrapping : Wrapping Inner Given Outer Answer) :
    Event Outer Answer → Event Inner Given → Prop
  | intro (request : Inner) (answer : Answer (wrapping.wrap request)) :
      Stands wrapping ⟨wrapping.wrap request, answer⟩ ⟨request, wrapping.unwrap request answer⟩

abbrev Wrapping.Stand (wrapping : Wrapping Inner Given Outer Answer) :
    List (Event Outer Answer) → List (Event Inner Given) → Prop :=
  List.Forall₂ wrapping.Stands

def Program.embed (wrapping : Wrapping Inner Given Outer Answer) :
    Program Inner Given α → Program Outer Answer α
  | .done result => .done result
  | .ask request next =>
      .ask (wrapping.wrap request) fun answer => (next (wrapping.unwrap request answer)).embed wrapping

variable {wrapping : Wrapping Inner Given Outer Answer} {trace front back : List (Event Outer Answer)}
  {own : List (Event Inner Given)} {event : Event Outer Answer}

theorem Program.yields_embed {program : Program Inner Given α} {value : α} :
    (program.embed wrapping).Yields trace value ↔
      ∃ own, wrapping.Stand trace own ∧ program.Yields own value := by
  induction program generalizing trace with
  | done result =>
      rw [embed, yields_done_iff]
      constructor
      · rintro ⟨rfl, rfl⟩
        exact ⟨[], .nil, by simp⟩
      · rintro ⟨own, stand, run⟩
        rcases yields_done_iff.mp run with ⟨rfl, rfl⟩
        exact ⟨List.forall₂_nil_right_iff.mp stand, rfl⟩
  | ask request next ih =>
      rw [embed, yields_ask_iff]
      constructor
      · rintro ⟨answer, tail, rfl, run⟩
        rcases (ih _).mp run with ⟨own, stand, run⟩
        exact ⟨_, .cons (.intro request answer) stand, yields_ask_iff.mpr ⟨_, own, rfl, run⟩⟩
      · rintro ⟨own, stand, run⟩
        rcases yields_ask_iff.mp run with ⟨answer, rest, rfl, continued⟩
        rcases List.forall₂_cons_right_iff.mp stand with ⟨event, tail, stands, later, rfl⟩
        cases stands with
        | intro _ given => exact ⟨given, tail, rfl, (ih _).mpr ⟨rest, later, continued⟩⟩

/-- An exchange of the larger environment stands for one of the code, after what came before it. -/
theorem Wrapping.Stand.split (stand : wrapping.Stand (front ++ event :: back) own) :
    ∃ before mine after, own = before ++ mine :: after ∧ wrapping.Stand front before ∧
      wrapping.Stands event mine ∧ wrapping.Stand back after := by
  induction front generalizing own with
  | nil =>
      rcases List.forall₂_cons_left_iff.mp stand with ⟨mine, after, stands, later, rfl⟩
      exact ⟨[], mine, after, rfl, .nil, stands, later⟩
  | cons first front ih =>
      rcases List.forall₂_cons_left_iff.mp stand with ⟨mine, rest, stands, later, rfl⟩
      rcases ih later with ⟨before, found, after, rfl, early, here, late⟩
      exact ⟨mine :: before, found, after, rfl, .cons stands early, here, late⟩

theorem Wrapping.Stand.mem (stand : wrapping.Stand trace own) (member : event ∈ trace) :
    ∃ mine ∈ own, wrapping.Stands event mine := by
  rcases List.append_of_mem member with ⟨front, back, rfl⟩
  rcases stand.split with ⟨before, mine, after, rfl, _, stands, _⟩
  exact ⟨mine, by simp, stands⟩

theorem Wrapping.Stand.mem_own (stand : wrapping.Stand trace own) {mine : Event Inner Given}
    (member : mine ∈ own) : ∃ event ∈ trace, wrapping.Stands event mine := by
  induction stand with
  | nil => cases member
  | @cons first _ rest _ stands _ ih =>
      rcases List.mem_cons.mp member with rfl | inside
      · exact ⟨first, List.mem_cons_self, stands⟩
      · rcases ih inside with ⟨event, found, stands⟩
        exact ⟨event, List.mem_cons_of_mem _ found, stands⟩

end Programs

namespace Action

variable {Inner Outer Part' State Error Fault α : Type} {Given : Inner → Type}
  {Answer : Outer → Type} {wrapping : Wrapping Inner Given Outer Answer} {part : Part State Part'}
  {action : Action Inner Given Part' Fault α} {before after : State}
  {trace : List (Event Outer Answer)} {outcome : Except Error (Except Fault α)}

/-- The code in a larger environment, on its part of the state -/
def inside (wrapping : Wrapping Inner Given Outer Answer) (part : Part State Part')
    (action : Action Inner Given Part' Fault α) : Action Outer Answer State Error (Except Fault α) :=
  fun state => ((action (part.read state)).embed wrapping).bind fun ended =>
    .done (.ok ended.1, part.write ended.2 state)

theorem run_inside :
    (inside wrapping part action : Action Outer Answer State Error _).Run before trace outcome after ↔
      ∃ own result last, wrapping.Stand trace own ∧ action.Run (part.read before) own result last ∧
        outcome = .ok result ∧ after = part.write last before := by
  rw [Run, inside, Program.yields_bind_iff]
  constructor
  · rintro ⟨front, ⟨result, last⟩, back, rfl, run, ended⟩
    rcases Program.yields_done_iff.mp ended with ⟨rfl, same⟩
    rcases Prod.mk.inj same with ⟨rfl, rfl⟩
    rcases Program.yields_embed.mp run with ⟨own, stand, run⟩
    rw [List.append_nil]
    exact ⟨own, result, last, stand, run, rfl, rfl⟩
  · rintro ⟨own, result, last, stand, run, rfl, rfl⟩
    exact ⟨trace, (result, last), [], by simp, Program.yields_embed.mpr ⟨own, stand, run⟩, by simp⟩

/-- The code inside makes the requests that stand for its own. -/
theorem requests_inside {allowed : Inner → Prop} {wider : Outer → Prop}
    (requests : Ensures (Requests allowed) action)
    (widens : ∀ request, allowed request → wider (wrapping.wrap request)) :
    Ensures (Requests wider) (inside wrapping part action : Action Outer Answer State Error _) := by
  intro before trace outcome after run event member
  rcases run_inside.mp run with ⟨own, result, last, stand, run, _, _⟩
  rcases stand.mem member with ⟨mine, inside, stands⟩
  cases stands with
  | intro request answer => exact widens request (requests _ _ _ _ run _ inside)

end Action

end Effects

import Mathlib.Data.DFinsupp.WellFounded
import OpnsensePlugin.Effects.Interleaving

/-!
# Systems that come to an end

A program makes finitely many exchanges, however it is answered. So finitely many
programs that take turns stop, whoever goes next; where some program can always go on,
they stop when all of them have returned. What a program has to give back by then, no
one holds in the end.
-/

namespace Effects

namespace Program

variable {Request α : Type} {Answer : Request → Type}

/-- What is left of a program after its next exchange -/
def Continues (rest program : Program Request Answer α) : Prop :=
  ∃ request next, program = .ask request next ∧ ∃ answer, rest = next answer

theorem continues_wellFounded : WellFounded (@Continues Request α Answer) := by
  refine ⟨fun program => ?_⟩
  induction program with
  | done result =>
      refine .intro _ ?_
      rintro rest ⟨request, next, same, _⟩
      cases same
  | ask request next ih =>
      refine .intro _ ?_
      rintro rest ⟨other, continued, same, answer, rfl⟩
      cases same
      exact ih answer

end Program

namespace System

variable {Thread Request Shared Lock α : Type} {Answer : Request → Type} [DecidableEq Thread]
  {serves : Thread → Shared → Event Request Answer → Shared → Prop} {shared : Shared}
  {programs : Thread → Program Request Answer α}
  {system next : System Thread Request Answer Shared α} {thread : Thread}
  {event : Event Request Answer}

theorem Turn.continues (turn : Turn serves system thread event next) :
    (next.programs thread).Continues (system.programs thread) := by
  cases turn with
  | @intro request rest answer _ waits _ =>
      exact ⟨request, rest, waits, answer, Function.update_self ..⟩

theorem Turn.programs_other (turn : Turn serves system thread event next) {other : Thread}
    (different : other ≠ thread) : next.programs other = system.programs other := by
  cases turn with
  | intro waits served => exact Function.update_of_ne different ..

/-- Finitely many programs do not take turns for ever. -/
theorem step_wellFounded [Finite Thread] :
    WellFounded fun next system : System Thread Request Answer Shared α => Step serves system next := by
  have order := Pi.Lex.wellFounded (WellOrderingRel : Thread → Thread → Prop)
    fun _ : Thread => @Program.continues_wellFounded Request α Answer
  refine Subrelation.wf ?_ (InvImage.wf System.programs order)
  rintro next system ⟨thread, event, turn⟩
  refine ⟨thread, fun other below => ?_, turn.continues⟩
  apply turn.programs_other
  rintro rfl
  exact irrefl other below

/-- Nothing can happen any more. -/
def Stopped (serves : Thread → Shared → Event Request Answer → Shared → Prop)
    (system : System Thread Request Answer Shared α) : Prop :=
  ∀ next, ¬ Step serves system next

/-- There is no endless sequence of turns. -/
theorem exists_last [Finite Thread] (turns : Nat → System Thread Request Answer Shared α) :
    ∃ n, ¬ Step serves (turns n) (turns (n + 1)) := by
  have ends : IsWellFounded (System Thread Request Answer Shared α)
      fun next system => Step serves system next := ⟨step_wellFounded⟩
  exact WellFounded.not_rel_apply_succ (r := fun next system => Step serves system next) turns

theorem exists_stopped [Finite Thread] (system : System Thread Request Answer Shared α) :
    ∃ last, Reaches serves system last ∧ Stopped serves last := by
  apply step_wellFounded.induction (r := fun next system => Step serves system next) system
  intro system ih
  by_cases stopped : Stopped serves system
  · exact ⟨system, .refl, stopped⟩
  · rw [Stopped, not_forall] at stopped
    rcases stopped with ⟨next, moves⟩
    have step : Step serves system next := not_not.mp moves
    rcases ih next step with ⟨last, reached, ended⟩
    exact ⟨last, .head step reached, ended⟩

/-! ## Locks that are given back -/

variable {holder : Shared → Lock → Option Thread}
  {acquires releases : Lock → Event Request Answer → Bool} {lock : Lock}

/-- Who has a lock holds it, if all locks were free and a lock that is released is free. -/
theorem Locking.holding_of_holder (locking : Locking serves holder acquires releases)
    (frees : ∀ {thread shared event later lock}, serves thread shared event later →
      releases lock event = true → holder later lock = none)
    (free : ∀ lock, holder shared lock = none)
    (reached : Reaches serves (start shared programs) system) {thread : Thread}
    (held : holder system.shared lock = some thread) :
    Holding acquires releases lock (system.past thread) := by
  induction reached generalizing thread with
  | refl =>
      have none : holder shared lock = none := free lock
      rw [show (start shared programs).shared = shared from rfl, none] at held
      cases held
  | @tail middle last _ step ih =>
      rcases step with ⟨actor, event, turn⟩
      have served := turn.served
      have kept : releases lock event = false := by
        cases given : releases lock event with
        | false => rfl
        | true =>
            rw [frees served given] at held
            cases held
      cases taken : acquires lock event with
      | true =>
          have same : actor = thread := by
            rw [(locking.acquire served taken).2] at held
            exact Option.some.inj held
          subst same
          rw [turn.past_self, holding_concat]
          exact ⟨kept, .inl taken⟩
      | false =>
          rw [locking.keep served taken kept] at held
          have before := ih held
          by_cases same : thread = actor
          · subst same
            rw [turn.past_self, holding_concat]
            exact ⟨kept, .inr before⟩
          · rwa [turn.past_other same]

end System

end Effects

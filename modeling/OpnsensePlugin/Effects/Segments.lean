import Mathlib.Data.List.Basic

/-!
# Segments of a list of events

Statements about the order of events speak of consecutive segments: `InOrder`
finds them one after the other, `Guarded` says what precedes every event of a
kind. Both compose along `++`, as the traces of runs do.
-/

namespace Effects

section Segments

variable {ε : Type}

/-- Segments with the given properties occur in the list, one after the other. -/
def InOrder : List (List ε → Prop) → List ε → Prop
  | [], _ => True
  | segment :: later, events =>
      ∃ skipped found rest, events = skipped ++ (found ++ rest) ∧ segment found ∧
        InOrder later rest

/-- Before every event of kind `kind` the events made so far satisfy `history`. -/
def Guarded (kind : ε → Prop) (history : List ε → Prop) (events : List ε) : Prop :=
  ∀ front event back, events = front ++ event :: back → kind event → history front

variable {segments earlier later : List (List ε → Prop)} {front back events : List ε}
  {kind : ε → Prop} {history weaker : List ε → Prop}

theorem InOrder.nil : InOrder ([] : List (List ε → Prop)) events := trivial

theorem InOrder.cons {segment : List ε → Prop} (found : segment front)
    (ordered : InOrder segments back) : InOrder (segment :: segments) (front ++ back) :=
  ⟨[], front, back, rfl, found, ordered⟩

theorem InOrder.single {segment : List ε → Prop} (found : segment events) :
    InOrder [segment] events := by
  have ordered : InOrder [segment] (events ++ []) := .cons found .nil
  rwa [List.append_nil] at ordered

theorem InOrder.skip (ordered : InOrder segments back) : InOrder segments (front ++ back) := by
  cases segments with
  | nil => exact .nil
  | cons segment later =>
      rcases ordered with ⟨skipped, found, rest, rfl, holds, tail⟩
      exact ⟨front ++ skipped, found, rest, by simp, holds, tail⟩

theorem InOrder.skipEvent {event : ε} (ordered : InOrder segments events) :
    InOrder segments (event :: events) := by
  rw [← List.singleton_append]
  exact ordered.skip

theorem InOrder.append (first : InOrder earlier front) (second : InOrder later back) :
    InOrder (earlier ++ later) (front ++ back) := by
  induction earlier generalizing front with
  | nil => exact second.skip
  | cons segment earlier ih =>
      rcases first with ⟨skipped, found, rest, rfl, holds, tail⟩
      exact ⟨skipped, found, rest ++ back, by simp, holds, ih tail⟩

theorem InOrder.extend (ordered : InOrder segments front) : InOrder segments (front ++ back) := by
  have nothing : InOrder [] back := .nil
  simpa using ordered.append nothing

theorem InOrder.imp (weaken : List.Forall₂ (fun first second => ∀ found, first found → second found)
    earlier later) (ordered : InOrder earlier events) : InOrder later events := by
  induction weaken generalizing events with
  | nil => exact .nil
  | cons implies _ ih =>
      rcases ordered with ⟨skipped, found, rest, rfl, holds, tail⟩
      exact ⟨skipped, found, rest, rfl, implies found holds, ih tail⟩

theorem InOrder.left (ordered : InOrder (earlier ++ later) events) : InOrder earlier events := by
  induction earlier generalizing events with
  | nil => exact .nil
  | cons segment earlier ih =>
      rcases ordered with ⟨skipped, found, rest, rfl, holds, tail⟩
      exact ⟨skipped, found, rest, rfl, holds, ih tail⟩

theorem InOrder.right (ordered : InOrder (earlier ++ later) events) : InOrder later events := by
  induction earlier generalizing events with
  | nil => exact ordered
  | cons segment earlier ih =>
      rcases ordered with ⟨skipped, found, rest, rfl, holds, tail⟩
      exact (ih tail).skip.skip

theorem guarded_append :
    Guarded kind history (front ++ back) ↔
      Guarded kind history front ∧ Guarded kind (fun events => history (front ++ events)) back := by
  constructor
  · intro guarded
    refine ⟨?_, ?_⟩
    · intro before event after split holds
      exact guarded before event (after ++ back) (by simp [split]) holds
    · intro before event after split holds
      exact guarded (front ++ before) event after (by simp [split]) holds
  · intro guarded before event after split holds
    rcases List.append_eq_append_iff.mp split with ⟨middle, rfl, rest⟩ | ⟨middle, rfl, rest⟩
    · exact guarded.2 middle event after rest holds
    · cases middle with
      | nil =>
          have empty := guarded.2 [] event after (by simpa using rest.symm) holds
          simpa using empty
      | cons first middle =>
          rcases List.cons.inj rest with ⟨rfl, same⟩
          exact guarded.1 before event middle rfl holds

theorem Guarded.of_none (none : ∀ event ∈ events, ¬ kind event) :
    Guarded kind history events := by
  intro front event back split holds
  exact absurd holds (none event (by simp [split]))

/-- What holds of a part without such events, however it goes on, precedes all of them. -/
theorem Guarded.of_front (none : ∀ event ∈ front, ¬ kind event)
    (holds : ∀ more, history (front ++ more)) : Guarded kind history (front ++ back) := by
  rw [guarded_append]
  exact ⟨.of_none none, fun before _ _ _ _ => holds before⟩

theorem Guarded.mono (guarded : Guarded kind history events)
    (weaken : ∀ front, history front → weaker front) : Guarded kind weaker events := by
  intro front event back split holds
  exact weaken front (guarded front event back split holds)

theorem guarded_singleton {event : ε} :
    Guarded kind history [event] ↔ (kind event → history []) := by
  constructor
  · intro guarded
    exact guarded [] event [] rfl
  · intro holds front other back split isKind
    cases front with
    | nil =>
        rcases List.cons.inj split with ⟨rfl, _⟩
        exact holds isKind
    | cons first front => simp at split

theorem guarded_cons {event : ε} :
    Guarded kind history (event :: events) ↔
      (kind event → history []) ∧ Guarded kind (fun front => history (event :: front)) events := by
  rw [← List.singleton_append, guarded_append, guarded_singleton]
  rfl

/-- What happened before a segment precedes the events in it as well. -/
theorem Guarded.inOrder_append (none : ∀ event ∈ front, ¬ kind event)
    (first : InOrder earlier front) (second : Guarded kind (InOrder later) back) :
    Guarded kind (InOrder (earlier ++ later)) (front ++ back) := by
  rw [guarded_append]
  exact ⟨.of_none none, second.mono fun _ ordered => first.append ordered⟩

end Segments

end Effects

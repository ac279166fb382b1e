import Mathlib.Data.List.Induction
import Mathlib.Logic.Function.Basic
import Mathlib.Logic.Relation
import OpnsensePlugin.Effects.Program

/-!
# Programs that take turns

A `System` is a family of programs over a shared state. In a turn one of them makes
its next exchange, as the shared state serves it; nothing is said about who goes next.
What a thread has exchanged so far is a part of a run of its program alone, so facts
about complete runs carry over. `Locking` is what locks have to do with the shared
state, and two threads never hold one lock.
-/

namespace Effects

/-! ## Since the last event of a kind -/

section Since

variable {ε : Type} {ends : ε → Bool} {past early late : List ε} {event : ε}

/-- The events since the last one that ends something, the latest first -/
def since (ends : ε → Bool) (past : List ε) : List ε :=
  past.reverse.takeWhile fun event => !ends event

theorem since_nil : since ends [] = [] := rfl

theorem since_concat :
    since ends (past ++ [event]) = if ends event then [] else event :: since ends past := by
  rw [since, List.reverse_append, List.reverse_singleton, List.singleton_append,
    List.takeWhile_cons]
  cases ends event <;> rfl

theorem mem_of_mem_since (member : event ∈ since ends past) : event ∈ past :=
  List.mem_reverse.mp (List.takeWhile_subset _ member)

theorem mem_since (none : ∀ event ∈ late, ends event = false) (lasts : ends event = false) :
    event ∈ since ends (early ++ event :: late) := by
  induction late using List.reverseRecOn with
  | nil =>
      rw [since_concat, lasts]
      exact List.mem_cons_self
  | append_singleton late last ih =>
      have kept : ends last = false := none last (by simp)
      rw [← List.cons_append, ← List.append_assoc, since_concat, kept]
      exact List.mem_cons_of_mem _ (ih fun event member => none event (by simp [member]))

/-- An event of a whole is in its first or in its second part. -/
theorem split_at_event {front back rest : List ε} (same : front ++ back = past ++ event :: rest) :
    (∃ more, front = past ++ event :: more) ∨
      ∃ done, past = front ++ done ∧ back = done ++ event :: rest := by
  rcases List.append_eq_append_iff.mp same with ⟨done, pastEq, backEq⟩ | ⟨more, frontEq, restEq⟩
  · exact .inr ⟨done, pastEq, backEq⟩
  · cases more with
    | nil => exact .inr ⟨[], by simpa using frontEq.symm, by simpa using restEq.symm⟩
    | cons first more =>
        rcases List.cons.inj restEq with ⟨rfl, _⟩
        exact .inl ⟨more, frontEq⟩

end Since

/-- The shared state, what is left of each program, and what it has exchanged so far -/
structure System (Thread Request : Type) (Answer : Request → Type) (Shared α : Type) where
  shared : Shared
  programs : Thread → Program Request Answer α
  past : Thread → List (Event Request Answer)

namespace System

variable {Thread Request Shared Lock α : Type} {Answer : Request → Type} [DecidableEq Thread]
  {serves : Thread → Shared → Event Request Answer → Shared → Prop} {shared : Shared}
  {programs : Thread → Program Request Answer α}
  {system next : System Thread Request Answer Shared α} {thread other : Thread}
  {event : Event Request Answer}

def start (shared : Shared) (programs : Thread → Program Request Answer α) :
    System Thread Request Answer Shared α :=
  ⟨shared, programs, fun _ => []⟩

/-- The system after an exchange of the thread -/
def after (system : System Thread Request Answer Shared α) (thread : Thread)
    (event : Event Request Answer) (shared : Shared) (rest : Program Request Answer α) :
    System Thread Request Answer Shared α where
  shared := shared
  programs := Function.update system.programs thread rest
  past := Function.update system.past thread (system.past thread ++ [event])

/-- The thread makes its next exchange. -/
inductive Turn (serves : Thread → Shared → Event Request Answer → Shared → Prop)
    (system : System Thread Request Answer Shared α) (thread : Thread) :
    Event Request Answer → System Thread Request Answer Shared α → Prop
  | intro {request : Request} {rest : Answer request → Program Request Answer α}
      {answer : Answer request} {shared : Shared}
      (waits : system.programs thread = .ask request rest)
      (served : serves thread system.shared ⟨request, answer⟩ shared) :
      Turn serves system thread ⟨request, answer⟩
        (system.after thread ⟨request, answer⟩ shared (rest answer))

def Step (serves : Thread → Shared → Event Request Answer → Shared → Prop)
    (system next : System Thread Request Answer Shared α) : Prop :=
  ∃ thread event, Turn serves system thread event next

/-- After any number of turns -/
abbrev Reaches (serves : Thread → Shared → Event Request Answer → Shared → Prop) :
    System Thread Request Answer Shared α → System Thread Request Answer Shared α → Prop :=
  Relation.ReflTransGen (Step serves)

theorem Turn.served (turn : Turn serves system thread event next) :
    serves thread system.shared event next.shared := by
  cases turn with
  | intro _ served => exact served

theorem Turn.past_self (turn : Turn serves system thread event next) :
    next.past thread = system.past thread ++ [event] := by
  cases turn with
  | intro => exact Function.update_self ..

theorem Turn.past_other (turn : Turn serves system thread event next) (different : other ≠ thread) :
    next.past other = system.past other := by
  cases turn with
  | intro => exact Function.update_of_ne different ..

theorem Turn.reaches (turn : Turn serves system thread event next) : Reaches serves system next :=
  .single ⟨thread, event, turn⟩

/-- A thread has gone through a part of its program, whatever the others did. -/
theorem Reaches.steps (reached : Reaches serves (start shared programs) system) (thread : Thread) :
    (programs thread).Steps (system.past thread) (system.programs thread) := by
  induction reached with
  | refl => exact .refl _
  | @tail middle last _ step ih =>
      rcases step with ⟨actor, event, turn⟩
      cases turn with
      | @intro request rest answer shared waits _ =>
          by_cases same : thread = actor
          · subst same
            rw [waits] at ih
            have further : (Program.ask request rest).Steps [⟨request, answer⟩] (rest answer) :=
              .ask answer (.refl _)
            simpa [after] using ih.trans further
          · simpa [after, same] using ih

/-- What a thread does next continues a complete run of its program. -/
theorem Turn.completes (answers : ∀ request : Request, Nonempty (Answer request))
    (reached : Reaches serves (start shared programs) system)
    (turn : Turn serves system thread event next) :
    ∃ more value, (programs thread).Yields (system.past thread ++ event :: more) value := by
  have steps := reached.steps thread
  cases turn with
  | @intro request rest answer _ waits _ =>
      rw [waits] at steps
      exact steps.exists_yields answers answer

/-- So does what it has done. -/
theorem Reaches.completes (answers : ∀ request : Request, Nonempty (Answer request))
    (reached : Reaches serves (start shared programs) system) (thread : Thread) :
    ∃ more value, (programs thread).Yields (system.past thread ++ more) value := by
  rcases Program.exists_yields answers (system.programs thread) with ⟨more, value, run⟩
  exact ⟨more, value, (reached.steps thread).trans run⟩

/-! ## Locks -/

/-- A lock that is acquired is free, and who releases one holds it. -/
structure Locking (serves : Thread → Shared → Event Request Answer → Shared → Prop)
    (holder : Shared → Lock → Option Thread)
    (acquires releases : Lock → Event Request Answer → Bool) : Prop where
  acquire : ∀ {thread shared event later lock}, serves thread shared event later →
    acquires lock event = true → holder shared lock = none ∧ holder later lock = some thread
  release : ∀ {thread shared event later lock}, serves thread shared event later →
    releases lock event = true → holder shared lock = some thread
  keep : ∀ {thread shared event later lock}, serves thread shared event later →
    acquires lock event = false → releases lock event = false →
      holder later lock = holder shared lock

/-- The lock was acquired and not released since. -/
def Holding (acquires releases : Lock → Event Request Answer → Bool) (lock : Lock)
    (past : List (Event Request Answer)) : Prop :=
  ∃ event ∈ since (releases lock) past, acquires lock event = true

variable {holder : Shared → Lock → Option Thread}
  {acquires releases : Lock → Event Request Answer → Bool} {lock : Lock}

theorem holding_concat {past : List (Event Request Answer)} :
    Holding acquires releases lock (past ++ [event]) ↔
      releases lock event = false ∧
        (acquires lock event = true ∨ Holding acquires releases lock past) := by
  rw [Holding, since_concat]
  cases ended : releases lock event with
  | true => simp
  | false => simp [Holding]

theorem Locking.holder_eq (locking : Locking serves holder acquires releases)
    (reached : Reaches serves (start shared programs) system) {thread : Thread}
    (holding : Holding acquires releases lock (system.past thread)) :
    holder system.shared lock = some thread := by
  induction reached generalizing thread with
  | refl =>
      rcases holding with ⟨_, member, _⟩
      cases member
  | @tail middle last _ step ih =>
      rcases step with ⟨actor, event, turn⟩
      have served := turn.served
      by_cases same : thread = actor
      · subst same
        rw [turn.past_self, holding_concat] at holding
        cases taken : acquires lock event with
        | true => exact (locking.acquire served taken).2
        | false =>
            rcases holding with ⟨kept, now | before⟩
            · rw [taken] at now
              cases now
            · rw [locking.keep served taken kept]
              exact ih before
      · rw [turn.past_other same] at holding
        have held := ih holding
        cases taken : acquires lock event with
        | true =>
            rw [(locking.acquire served taken).1] at held
            cases held
        | false =>
            cases given : releases lock event with
            | true =>
                rw [locking.release served given] at held
                exact absurd (Option.some.inj held).symm same
            | false =>
                rw [locking.keep served taken given]
                exact held

/-- Two threads never hold one lock. -/
theorem Locking.exclusive (locking : Locking serves holder acquires releases)
    (reached : Reaches serves (start shared programs) system)
    (mine : Holding acquires releases lock (system.past thread))
    (others : Holding acquires releases lock (system.past other)) : thread = other := by
  have held := locking.holder_eq reached mine
  rw [locking.holder_eq reached others] at held
  exact (Option.some.inj held).symm

/-! ## Playing -/

/-- One thread goes on for some exchanges, with the answers of a server. -/
def play (server : Shared → (request : Request) → Option (Answer request × Shared))
    (thread : Thread) : Nat → System Thread Request Answer Shared α →
      System Thread Request Answer Shared α
  | 0, system => system
  | count + 1, system => match system.programs thread with
      | .done _ => system
      | .ask request rest => match server system.shared request with
          | none => system
          | some (answer, shared) =>
              play server thread count
                (system.after thread ⟨request, answer⟩ shared (rest answer))

/-- What holds of the shared state before and after each exchange may be what makes the server
sound. -/
theorem play_reaches {server : Shared → (request : Request) → Option (Answer request × Shared)}
    {fits : Shared → Prop}
    (sound : ∀ {shared request answer later}, fits shared →
      server shared request = some (answer, later) →
        serves thread shared ⟨request, answer⟩ later ∧ fits later)
    {count : Nat} (fit : fits system.shared) :
    Reaches serves system (play server thread count system) ∧
      fits (play server thread count system).shared := by
  induction count generalizing system with
  | zero => exact ⟨.refl, fit⟩
  | succ count ih =>
      rw [play]
      split
      · exact ⟨.refl, fit⟩
      · rename_i request rest waits
        split
        · exact ⟨.refl, fit⟩
        · rename_i answer later served
          rcases sound fit served with ⟨serves, kept⟩
          have further := @ih (system.after thread ⟨request, answer⟩ later (rest answer)) kept
          exact ⟨.head ⟨thread, _, .intro waits serves⟩ further.1, further.2⟩

end System

/-- What a program has returned -/
def Program.returned {Request α : Type} {Answer : Request → Type} :
    Program Request Answer α → Option α
  | .done result => some result
  | .ask _ _ => none

/-- What a program asks next -/
def Program.asks {Request α : Type} {Answer : Request → Type} :
    Program Request Answer α → Option Request
  | .done _ => none
  | .ask request _ => some request

theorem Program.eq_done {Request α : Type} {Answer : Request → Type}
    {program : Program Request Answer α} {result : α} (returned : program.returned = some result) :
    program = .done result := by
  cases program with
  | done => rw [Option.some.inj returned]
  | ask => cases returned

theorem Program.eq_ask {Request α : Type} {Answer : Request → Type}
    {program : Program Request Answer α} {request : Request} (asks : program.asks = some request) :
    ∃ rest, program = .ask request rest := by
  cases program with
  | done => cases asks
  | ask other rest =>
      cases Option.some.inj asks
      exact ⟨rest, rfl⟩

end Effects

import Mathlib.Data.List.Basic

/-!
# Programs that question their environment

A `Program` is a finite-depth tree of requests. Its environment decides every
answer, so nothing is assumed about the system behind the requests: a property
proved of all `Steps` of a program holds against every environment. The trace
of a run records each request together with the answer it received.

`Program.Steps` also covers interrupted runs. A run that has stopped at a
request can be continued with an arbitrary answer, which is how facts about
complete runs are transported to the programs of an interleaved system.
-/

namespace Effects

/-- A request together with the answer the environment gave to it. -/
structure Event (Request : Type) (Answer : Request → Type) where
  request : Request
  answer : Answer request

/-- A program that may ask its environment before it returns. -/
inductive Program (Request : Type) (Answer : Request → Type) (α : Type)
  | done (result : α)
  | ask (request : Request) (next : Answer request → Program Request Answer α)

namespace Program

variable {Request : Type} {Answer : Request → Type} {α β : Type}

/-- Sequential composition. -/
def bind : Program Request Answer α → (α → Program Request Answer β) →
    Program Request Answer β
  | .done result, next => next result
  | .ask request rest, next => .ask request fun answer => (rest answer).bind next

/-- `Steps program trace rest`: after the exchanges of `trace`, `rest` is left to run. -/
inductive Steps : Program Request Answer α → List (Event Request Answer) →
    Program Request Answer α → Prop
  | refl (program : Program Request Answer α) : Steps program [] program
  | ask {request : Request} {next : Answer request → Program Request Answer α}
      {trace : List (Event Request Answer)} {rest : Program Request Answer α}
      (answer : Answer request) (tail : Steps (next answer) trace rest) :
      Steps (.ask request next) (⟨request, answer⟩ :: trace) rest

/-- A complete run: the program has returned `result` after the exchanges of `trace`. -/
def Yields (program : Program Request Answer α) (trace : List (Event Request Answer))
    (result : α) : Prop :=
  program.Steps trace (.done result)

@[simp]
theorem steps_nil_iff {program rest : Program Request Answer α} :
    program.Steps [] rest ↔ rest = program := by
  constructor
  · intro steps
    cases steps
    rfl
  · rintro rfl
    exact .refl _

theorem steps_done_iff {result : α} {trace : List (Event Request Answer)}
    {rest : Program Request Answer α} :
    (Program.done result).Steps trace rest ↔ trace = [] ∧ rest = .done result := by
  constructor
  · intro steps
    cases steps
    exact ⟨rfl, rfl⟩
  · rintro ⟨rfl, rfl⟩
    exact .refl _

@[simp]
theorem yields_done_iff {result value : α} {trace : List (Event Request Answer)} :
    (Program.done result).Yields trace value ↔ trace = [] ∧ value = result := by
  rw [Yields, steps_done_iff, done.injEq]

@[simp]
theorem yields_ask_iff {request : Request} {next : Answer request → Program Request Answer α}
    {trace : List (Event Request Answer)} {value : α} :
    (Program.ask request next).Yields trace value ↔
      ∃ answer tail, trace = ⟨request, answer⟩ :: tail ∧ (next answer).Yields tail value := by
  constructor
  · intro run
    cases run with
    | ask answer tail => exact ⟨answer, _, rfl, tail⟩
  · rintro ⟨answer, tail, rfl, run⟩
    exact .ask answer run

theorem yields_bind_iff {program : Program Request Answer α}
    {next : α → Program Request Answer β} {trace : List (Event Request Answer)} {value : β} :
    (program.bind next).Yields trace value ↔
      ∃ front result back, trace = front ++ back ∧ program.Yields front result ∧
        (next result).Yields back value := by
  induction program generalizing trace with
  | done result =>
      constructor
      · intro run
        exact ⟨[], result, trace, rfl, by simp, run⟩
      · rintro ⟨front, returned, back, rfl, first, second⟩
        obtain ⟨rfl, rfl⟩ := yields_done_iff.mp first
        exact second
  | ask request rest ih =>
      simp only [bind, yields_ask_iff]
      constructor
      · rintro ⟨answer, tail, rfl, run⟩
        obtain ⟨front, result, back, rfl, first, second⟩ := (ih answer).mp run
        exact ⟨⟨request, answer⟩ :: front, result, back, rfl, ⟨answer, front, rfl, first⟩, second⟩
      · rintro ⟨_, result, back, rfl, ⟨answer, front, rfl, first⟩, second⟩
        exact ⟨answer, front ++ back, rfl, (ih answer).mpr ⟨front, result, back, rfl, first, second⟩⟩

theorem Steps.trans {program middle last : Program Request Answer α}
    {front back : List (Event Request Answer)} (first : program.Steps front middle)
    (second : middle.Steps back last) : program.Steps (front ++ back) last := by
  induction first with
  | refl program => exact second
  | ask answer tail ih => exact .ask answer (ih second)

/-- The answers decide a run: two complete runs on one list of exchanges are the same. -/
theorem Yields.unique {program : Program Request Answer α} {left right : α}
    {front back more rest : List (Event Request Answer)} (first : program.Yields front left)
    (second : program.Yields back right) (same : front ++ more = back ++ rest) :
    front = back ∧ left = right := by
  induction program generalizing front back with
  | done result =>
      rcases yields_done_iff.mp first with ⟨rfl, rfl⟩
      rcases yields_done_iff.mp second with ⟨rfl, rfl⟩
      exact ⟨rfl, rfl⟩
  | ask request next ih =>
      rcases yields_ask_iff.mp first with ⟨answer, tail, rfl, continued⟩
      rcases yields_ask_iff.mp second with ⟨other, others, rfl, followed⟩
      rw [List.cons_append, List.cons_append] at same
      rcases List.cons.inj same with ⟨event, tails⟩
      cases event
      rcases ih answer continued followed tails with ⟨rfl, rfl⟩
      exact ⟨rfl, rfl⟩

/-- Every program can be run to its end, whatever answers are still to come. -/
theorem exists_yields (answers : ∀ request : Request, Nonempty (Answer request))
    (program : Program Request Answer α) : ∃ trace value, program.Yields trace value := by
  induction program with
  | done result => exact ⟨[], result, by simp⟩
  | ask request next ih =>
      obtain ⟨answer⟩ := answers request
      obtain ⟨trace, value, run⟩ := ih answer
      exact ⟨⟨request, answer⟩ :: trace, value, .ask answer run⟩

/-- An interrupted run that waits for `request` extends to a complete run receiving `answer`. -/
theorem Steps.exists_yields (answers : ∀ request : Request, Nonempty (Answer request))
    {program : Program Request Answer α} {trace : List (Event Request Answer)}
    {request : Request} {next : Answer request → Program Request Answer α}
    (steps : program.Steps trace (.ask request next)) (answer : Answer request) :
    ∃ rest value, program.Yields (trace ++ ⟨request, answer⟩ :: rest) value := by
  obtain ⟨rest, value, run⟩ := Program.exists_yields answers (next answer)
  exact ⟨rest, value, steps.trans (.ask answer run)⟩

/-- Run a program against an environment that may look at the exchanges made so far. -/
def replay (environment : List (Event Request Answer) → (request : Request) → Answer request) :
    Program Request Answer α → List (Event Request Answer) → List (Event Request Answer) × α
  | .done result, history => (history, result)
  | .ask request next, history =>
      (next (environment history request)).replay environment
        (history ++ [⟨request, environment history request⟩])

theorem replay_yields
    (environment : List (Event Request Answer) → (request : Request) → Answer request)
    (program : Program Request Answer α) (history : List (Event Request Answer)) :
    ∃ trace, (program.replay environment history).1 = history ++ trace ∧
      program.Yields trace (program.replay environment history).2 := by
  induction program generalizing history with
  | done result => exact ⟨[], by simp [replay]⟩
  | ask request next ih =>
      obtain ⟨trace, recorded, run⟩ := ih (environment history request)
        (history ++ [⟨request, environment history request⟩])
      refine ⟨⟨request, environment history request⟩ :: trace, ?_, .ask _ run⟩
      simpa [replay] using recorded

/-- The answers of a replay are those of the environment. -/
theorem replay_answers
    {environment : List (Event Request Answer) → (request : Request) → Answer request}
    {program : Program Request Answer α} {history trace : List (Event Request Answer)}
    (recorded : (program.replay environment history).1 = history ++ trace)
    {front back : List (Event Request Answer)} {event : Event Request Answer}
    (split : trace = front ++ event :: back) :
    event.answer = environment (history ++ front) event.request := by
  induction program generalizing history trace front with
  | done result => simp [replay, split] at recorded
  | ask request next ih =>
      rcases replay_yields environment (next (environment history request))
        (history ++ [⟨request, environment history request⟩]) with ⟨rest, continued, _⟩
      have shape : trace = ⟨request, environment history request⟩ :: rest := by
        rw [replay, continued] at recorded
        simpa using recorded.symm
      rw [shape] at split
      cases front with
      | nil =>
          rcases List.cons.inj split with ⟨rfl, _⟩
          rw [List.append_nil]
      | cons first front =>
          rcases List.cons.inj split with ⟨rfl, later⟩
          have answered := ih _ continued later
          simpa using answered

end Program

end Effects

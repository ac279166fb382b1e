import Mathlib.Data.Set.Finite.Basic
import OpnsensePlugin.Effects.Completion
import OpnsensePlugin.Sections.World

/-!
# No deadlock

A call holds a guard only while it looks up its lock, and waits for its lock only when
it holds nothing. So some call can always go on until all have come to their ends, and
nothing is locked then, however they have ended.
-/

namespace OpnsensePlugin

open Effects Python

namespace Sections

/-- The nodes answer whatever they are asked. -/
structure Nodes.Responds {Node Thread Objects View : Type}
    (nodes : Nodes Node Thread Objects View) : Prop where
  get : ∀ thread objects node path params,
    ∃ reply, nodes.tells thread (nodes.view thread objects) ⟨.get node path params, reply⟩
  post : ∀ thread objects node path body,
    ∃ reply later, nodes.changes thread objects ⟨.post node path body, reply⟩ later

/-! ## What a call holds -/

section Holding

variable {Node : Type} {name : LockName} {table : LockTable} {lock other : Nat}
  {past late done : Trace Node} {request : Request Node}

theorem releaseGuard_ends :
    releasesGuard name.1 (⟨.releaseGuard name.1, ()⟩ : Exchange Node) = true :=
  decide_eq_true rfl

/-- The guard is given back before the lock is acquired. -/
theorem not_guarding_opened (works : ∀ event ∈ late, event.request.IsWork ∨
      event.request = .acquire lock ∨ event.request = .release lock) :
    ¬ System.Holding acquiresGuard releasesGuard table
      ([⟨.acquireGuard name.1, ()⟩, ⟨.lockFor name.1 name.2, lock⟩, ⟨.releaseGuard name.1, ()⟩] ++
        late : Trace Node) := by
  have none : ∀ event ∈ late, acquiresGuard table event = false := by
    intro event member
    rcases event with ⟨request, answer⟩
    rcases works _ member with work | same | same
    · cases request <;> first | rfl | exact work.elim
    · cases same
      rfl
    · cases same
      rfl
  induction late using List.reverseRecOn with
  | nil =>
      rintro ⟨event, member, taken⟩
      change event ∈ since _ (([⟨.acquireGuard name.1, ()⟩,
        ⟨.lockFor name.1 name.2, lock⟩] : Trace Node) ++ [⟨.releaseGuard name.1, ()⟩]) at member
      rw [since_concat] at member
      by_cases same : name.1 = table
      · subst same
        rw [if_pos releaseGuard_ends] at member
        cases member
      · have inside : event ∈ ([⟨.acquireGuard name.1, ()⟩, ⟨.lockFor name.1 name.2, lock⟩,
            ⟨.releaseGuard name.1, ()⟩] : Trace Node) := by
          split at member
          · cases member
          · rcases List.mem_cons.mp member with rfl | before
            · simp
            · have earlier := mem_of_mem_since before
              simp only [List.mem_cons, List.not_mem_nil, or_false] at earlier ⊢
              tauto
        simp only [List.mem_cons, List.not_mem_nil, or_false] at inside
        rcases inside with rfl | rfl | rfl
        · exact same (of_decide_eq_true taken)
        · cases taken
        · cases taken
  | append_singleton late last ih =>
      rw [← List.append_assoc, System.holding_concat]
      rintro ⟨_, taken | before⟩
      · rw [none last (by simp)] at taken
        cases taken
      · exact ih (fun event member => works event (by simp [member]))
          (fun event member => none event (by simp [member])) before

theorem opened_late (works : ∀ event ∈ done, event.request.IsWork) :
    ∀ event ∈ (⟨.acquire lock, ()⟩ :: done : Trace Node), event.request.IsWork ∨
      event.request = .acquire lock ∨ event.request = .release lock := by
  intro event member
  rcases List.mem_cons.mp member with rfl | inside
  · exact .inr (.inl rfl)
  · exact .inl (works event inside)

/-- A call that has the guard is about to look up its lock or to give the guard back. -/
theorem Stage.of_guarding (stage : Stage name past request)
    (guarding : System.Holding acquiresGuard releasesGuard table past) :
    request = .lockFor name.1 name.2 ∨ (request = .releaseGuard name.1 ∧ ∃ lock,
      past = [⟨.acquireGuard name.1, ()⟩, ⟨.lockFor name.1 name.2, lock⟩]) := by
  cases stage with
  | guard =>
      rcases guarding with ⟨_, member, _⟩
      cases member
  | name => exact .inl rfl
  | unguard => exact .inr ⟨rfl, _, rfl⟩
  | @lock lock =>
      have nothing := @not_guarding_opened _ name table lock ([] : Trace Node) (by simp)
      exact absurd guarding nothing
  | work works => exact absurd guarding (not_guarding_opened (opened_late works))
  | unlock works => exact absurd guarding (not_guarding_opened (opened_late works))

theorem guarding_of_guarded :
    System.Holding acquiresGuard releasesGuard name.1
      ([⟨.acquireGuard name.1, ()⟩, ⟨.lockFor name.1 name.2, lock⟩] : Trace Node) := by
  refine ⟨⟨.acquireGuard name.1, ()⟩, ?_, decide_eq_true rfl⟩
  simp [since, releasesGuard]

/-- A call that has its lock is at work, or about to give it back. -/
theorem Stage.of_opened (stage : Stage name (opening name lock ++ late) request) :
    request.IsWork ∨ (request = .release lock ∧ ∀ event ∈ late, event.request.IsWork) := by
  generalize past : opening name lock ++ late = front at stage
  cases stage with
  | work _ work => exact .inl work
  | unlock works =>
      simp only [opening, List.cons_append, List.nil_append, List.cons.injEq, Event.mk.injEq,
        heq_eq_eq, true_and, Request.acquire.injEq, and_true] at past
      rcases past with ⟨rfl, _, rfl⟩
      exact .inr ⟨rfl, works⟩
  | _ => simp [opening] at past

/-- A section that was left holds nothing. -/
theorem IsSection.not_holding (whole : IsSection name past) :
    ¬ System.Holding acquires releases lock past := by
  cases whole with
  | refused =>
      rintro ⟨_, member, _⟩
      cases member
  | @worked mine work works =>
      rw [← List.append_assoc, System.holding_concat]
      rintro ⟨kept, taken | ⟨⟨request, answer⟩, member, taken⟩⟩
      · cases taken
      · cases request with
        | acquire acquired =>
            cases of_decide_eq_true taken
            have inside := mem_of_mem_since member
            simp only [opening, List.cons_append, List.nil_append, List.mem_cons] at inside
            rcases inside with same | same | same | same | worked
            · cases same
            · cases same
            · cases same
            · cases same
              exact of_decide_eq_false kept rfl
            · exact works _ worked
        | _ => cases taken

theorem IsSection.not_guarding (whole : IsSection name past) :
    ¬ System.Holding acquiresGuard releasesGuard table past := by
  cases whole with
  | refused =>
      rintro ⟨_, member, _⟩
      cases member
  | @worked lock work works =>
      have later : ∀ event ∈ (⟨.acquire lock, ()⟩ :: (work ++ [⟨.release lock, ()⟩]) : Trace Node),
          event.request.IsWork ∨ event.request = .acquire lock ∨ event.request = .release lock := ?_
      · exact not_guarding_opened later
      intro event member
      simp only [List.mem_cons, List.mem_append, List.not_mem_nil, or_false] at member
      rcases member with rfl | worked | rfl
      · exact .inr (.inl rfl)
      · exact .inl (works event worked)
      · exact .inr (.inr rfl)

end Holding

section Progress

variable {Node Thread Objects View α : Type} {nodes : Nodes Node Thread Objects View}
  {programs : Thread → Program (Request Node) Answer α} {name : Thread → LockName}
  {objects : Objects} [DecidableEq Thread] {system next : Threads Node Thread Objects α}
  {thread : Thread} {request : Request Node} {rest : Answer request → Program (Request Node) Answer α}
  {world later : World Thread Objects} {event : Exchange Node} {lock : Nat} {table : LockTable}
  {key : LockKey}

/-! ## New locks -/

/-- The locks that were made -/
def World.made (world : World Thread Objects) : Set Nat :=
  {lock | ∃ table key, world.locks table key = some lock}

omit [DecidableEq Thread] in
theorem Serves.made_finite (served : Serves nodes thread world event later)
    (finite : world.made.Finite) : later.made.Finite := by
  cases served with
  | @made table key lock missing fresh =>
      apply (finite.insert lock).subset
      rintro other ⟨otherTable, otherKey, known⟩
      by_cases same : otherTable = table ∧ otherKey = key
      · left
        simpa [same] using known.symm
      · right
        exact ⟨otherTable, otherKey, by simpa [same] using known⟩
  | _ => exact finite

theorem made_finite (reached : System.Reaches (Serves nodes) (begun programs objects) system) :
    system.shared.made.Finite := by
  induction reached with
  | refl =>
      apply Set.finite_empty.subset
      rintro lock ⟨table, key, known⟩
      cases known
  | tail _ step ih =>
      rcases step with ⟨actor, event, turn⟩
      exact turn.served.made_finite ih

/-! ## Turns -/

theorem stage_of_waiting (sectioned : Sectioned programs name)
    (reached : System.Reaches (Serves nodes) (begun programs objects) system)
    (waits : system.programs thread = .ask request rest) :
    Stage (name thread) (system.past thread) request := by
  have steps := reached.steps thread
  rw [waits] at steps
  rcases answer_nonempty request with ⟨answer⟩
  rcases steps.exists_yields answer_nonempty answer with ⟨more, value, run⟩
  exact (sectioned thread _ value run).stage

omit [DecidableEq Thread] in
theorem serves_work (responds : nodes.Responds) (work : request.IsWork) :
    ∃ answer later, Serves nodes thread world ⟨request, answer⟩ later := by
  cases request with
  | get node path params =>
      rcases responds.get thread world.objects node path params with ⟨reply, told⟩
      exact ⟨reply, _, .get told⟩
  | post node path body =>
      rcases responds.post thread world.objects node path body with ⟨reply, later, changed⟩
      exact ⟨reply, _, .post changed⟩
  | append => exact ⟨.ok (), _, .append⟩
  | clock => exact ⟨⟨[], 0⟩, _, .clock⟩
  | _ => exact work.elim

theorem serves_lookup (reached : System.Reaches (Serves nodes) (begun programs objects) system) :
    ∃ lock later, Serves nodes thread system.shared ⟨.lockFor table key, lock⟩ later := by
  cases known : system.shared.locks table key with
  | some lock => exact ⟨lock, _, .found known⟩
  | none =>
      rcases (made_finite reached).infinite_compl.nonempty with ⟨lock, fresh⟩
      exact ⟨lock, _, .made known fun other name taken => fresh ⟨other, name, taken⟩⟩

/-- Who is served takes a turn. -/
theorem step_of_served (waits : system.programs thread = .ask request rest)
    (served : ∃ answer later, Serves nodes thread system.shared ⟨request, answer⟩ later) :
    ∃ next, System.Step (Serves nodes) system next := by
  rcases served with ⟨answer, later, served⟩
  exact ⟨_, thread, _, .intro waits served⟩

omit [DecidableEq Thread] in
theorem Serves.guard_freed (served : Serves nodes thread world event later)
    (given : releasesGuard table event = true) : later.guards table = none := by
  cases served with
  | releaseGuard =>
      cases of_decide_eq_true given
      exact Function.update_self ..
  | _ => cases given

omit [DecidableEq Thread] in
theorem Serves.lock_freed (served : Serves nodes thread world event later)
    (given : releases lock event = true) : later.holders lock = none := by
  cases served with
  | release =>
      cases of_decide_eq_true given
      exact Function.update_self ..
  | _ => cases given

theorem guarding_of_held (reached : System.Reaches (Serves nodes) (begun programs objects) system)
    (held : system.shared.guards table = some thread) :
    System.Holding acquiresGuard releasesGuard table (system.past thread) :=
  guarding.holding_of_holder (fun served given => served.guard_freed given) (fun _ => rfl) reached held

theorem holding_of_held (reached : System.Reaches (Serves nodes) (begun programs objects) system)
    (held : system.shared.holders lock = some thread) :
    System.Holding acquires releases lock (system.past thread) :=
  locking.holding_of_holder (fun served given => served.lock_freed given) (fun _ => rfl) reached held

section

variable (sectioned : Sectioned programs name)
  (reached : System.Reaches (Serves nodes) (begun programs objects) system)

include sectioned reached

theorem section_of_done {value : α} (ended : system.programs thread = .done value) :
    IsSection (name thread) (system.past thread) := by
  have run := reached.steps thread
  rw [ended] at run
  exact sectioned thread _ value run

/-- Who has opened its section and not left it goes on. -/
theorem opened_moves (responds : nodes.Responds) {late : Trace Node}
    (waits : system.programs thread = .ask request rest)
    (opened : system.past thread = opening (name thread) lock ++ late) :
    ∃ next, System.Step (Serves nodes) system next := by
  apply step_of_served waits
  have stage := stage_of_waiting sectioned reached waits
  rw [opened] at stage
  rcases stage.of_opened with work | ⟨rfl, works⟩
  · exact serves_work responds work
  · have holding : System.Holding acquires releases lock (system.past thread) := by
      rw [opened]
      exact holding_of_works works
    exact ⟨(), _, .release (locking.holder_eq reached holding)⟩

omit sectioned in
theorem unguard_moves {rest : Unit → Program (Request Node) Answer α}
    (waits : system.programs thread = .ask (.releaseGuard (name thread).1) rest)
    (past : system.past thread = [⟨.acquireGuard (name thread).1, ()⟩,
      ⟨.lockFor (name thread).1 (name thread).2, lock⟩]) :
    ∃ next, System.Step (Serves nodes) system next := by
  have guarded : System.Holding acquiresGuard releasesGuard (name thread).1 (system.past thread) := by
    rw [past]
    exact guarding_of_guarded
  exact step_of_served waits ⟨(), _, .releaseGuard (guarding.holder_eq reached guarded)⟩

/-- Who has a guard goes on. -/
theorem guard_moves (held : system.shared.guards table = some thread) :
    ∃ next, System.Step (Serves nodes) system next := by
  have guarding := guarding_of_held reached held
  cases waits : system.programs thread with
  | done value => exact absurd guarding (section_of_done sectioned reached waits).not_guarding
  | ask request rest =>
      have stage := stage_of_waiting sectioned reached waits
      rcases stage.of_guarding guarding with rfl | ⟨rfl, lock, past⟩
      · exact step_of_served waits (serves_lookup reached)
      · exact unguard_moves reached waits past

/-- Who has a lock goes on. -/
theorem lock_moves (responds : nodes.Responds) (held : system.shared.holders lock = some thread) :
    ∃ next, System.Step (Serves nodes) system next := by
  have holding := holding_of_held reached held
  cases waits : system.programs thread with
  | done value => exact absurd holding (section_of_done sectioned reached waits).not_holding
  | ask request rest =>
      rcases opening_of_holding sectioned reached holding with ⟨late, opened⟩
      exact opened_moves sectioned reached responds waits opened

/-- As long as some call has not come to its end, some call can go on. -/
theorem waiting_moves (responds : nodes.Responds) (waits : system.programs thread = .ask request rest) :
    ∃ next, System.Step (Serves nodes) system next := by
  have stage := stage_of_waiting sectioned reached waits
  generalize same : system.past thread = past at stage
  cases stage with
  | guard =>
      cases held : system.shared.guards (name thread).1 with
      | none => exact step_of_served waits ⟨(), _, .acquireGuard held⟩
      | some other => exact guard_moves sectioned reached held
  | name => exact step_of_served waits (serves_lookup reached)
  | unguard => exact unguard_moves reached waits same
  | @lock lock =>
      cases held : system.shared.holders lock with
      | none => exact step_of_served waits ⟨(), _, .acquire held⟩
      | some other => exact lock_moves sectioned reached responds held
  | work works work => exact step_of_served waits (serves_work responds work)
  | unlock => exact opened_moves sectioned reached responds waits same

/-- Where nothing can happen any more, all calls have come to their ends, and nothing is locked. -/
theorem stopped_free (responds : nodes.Responds) (stopped : System.Stopped (Serves nodes) system) :
    (∀ thread, ∃ value, system.programs thread = .done value) ∧
      (∀ table, system.shared.guards table = none) ∧ ∀ lock, system.shared.holders lock = none := by
  have ended : ∀ thread, ∃ value, system.programs thread = .done value := by
    intro thread
    cases waits : system.programs thread with
    | done value => exact ⟨value, rfl⟩
    | ask request rest =>
        rcases waiting_moves sectioned reached responds waits with ⟨next, step⟩
        exact absurd step (stopped next)
  refine ⟨ended, fun table => ?_, fun lock => ?_⟩
  · cases held : system.shared.guards table with
    | none => rfl
    | some thread =>
        rcases guard_moves sectioned reached held with ⟨next, step⟩
        exact absurd step (stopped next)
  · cases held : system.shared.holders lock with
    | none => rfl
    | some thread =>
        rcases lock_moves sectioned reached responds held with ⟨next, step⟩
        exact absurd step (stopped next)

end

end Progress

end Sections

end OpnsensePlugin

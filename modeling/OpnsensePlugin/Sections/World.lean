import OpnsensePlugin.Sections

/-!
# Threads that share locks and nodes

Any number of calls take turns. They share the locks of the process and the objects of
the nodes, which only their POSTs change. While a call holds its lock, no call of the
same name sends anything.
-/

namespace OpnsensePlugin

open Effects Python

namespace Sections

/-- What the threads share: the guards and the dictionaries of locks, who holds which lock, and the
objects of the nodes -/
structure World (Thread Objects : Type) where
  guards : LockTable → Option Thread
  locks : LockTable → LockKey → Option Nat
  holders : Nat → Option Thread
  objects : Objects

/-- What the nodes are to the threads: the part of the objects that a thread is concerned with, which
answers of a reading tell it, and what a POST may change -/
structure Nodes (Node Thread Objects View : Type) where
  view : Thread → Objects → View
  tells : Thread → View → Exchange Node → Prop
  changes : Thread → Objects → Exchange Node → Objects → Prop

section Model

variable {Node Thread Objects View : Type}

/-- What the world may do for an exchange of a thread -/
inductive Serves (nodes : Nodes Node Thread Objects View) (thread : Thread)
    (world : World Thread Objects) : Exchange Node → World Thread Objects → Prop
  | get {node : Node} {path : Str} {params : List (Str × Json)} {reply : Reply}
      (told : nodes.tells thread (nodes.view thread world.objects) ⟨.get node path params, reply⟩) :
      Serves nodes thread world ⟨.get node path params, reply⟩ world
  | post {node : Node} {path : Str} {body : Json} {reply : Reply} {objects : Objects}
      (changed : nodes.changes thread world.objects ⟨.post node path body, reply⟩ objects) :
      Serves nodes thread world ⟨.post node path body, reply⟩ { world with objects }
  | append {entry : AuditEntry} {answer : Except AppendFailure Unit} :
      Serves nodes thread world ⟨.append entry, answer⟩ world
  | clock {now : Clock} : Serves nodes thread world ⟨.clock, now⟩ world
  | acquireGuard {table : LockTable} (free : world.guards table = none) :
      Serves nodes thread world ⟨.acquireGuard table, ()⟩
        { world with guards := Function.update world.guards table (some thread) }
  | releaseGuard {table : LockTable} (held : world.guards table = some thread) :
      Serves nodes thread world ⟨.releaseGuard table, ()⟩
        { world with guards := Function.update world.guards table none }
  | found {table : LockTable} {key : LockKey} {lock : Nat}
      (known : world.locks table key = some lock) :
      Serves nodes thread world ⟨.lockFor table key, lock⟩ world
  | made {table : LockTable} {key : LockKey} {lock : Nat} (missing : world.locks table key = none)
      (fresh : ∀ other name, world.locks other name ≠ some lock) :
      Serves nodes thread world ⟨.lockFor table key, lock⟩
        { world with locks := fun other name =>
          if other = table ∧ name = key then some lock else world.locks other name }
  | acquire {lock : Nat} (free : world.holders lock = none) :
      Serves nodes thread world ⟨.acquire lock, ()⟩
        { world with holders := Function.update world.holders lock (some thread) }
  | release {lock : Nat} (held : world.holders lock = some thread) :
      Serves nodes thread world ⟨.release lock, ()⟩
        { world with holders := Function.update world.holders lock none }

/-- No lock was made yet. -/
def World.fresh (objects : Objects) : World Thread Objects :=
  ⟨fun _ => none, fun _ _ => none, fun _ => none, objects⟩

abbrev Threads (Node Thread Objects α : Type) : Type :=
  System Thread (Request Node) (@Answer Node) (World Thread Objects) α

/-- No call has begun. -/
def begun {α : Type} (programs : Thread → Program (Request Node) Answer α) (objects : Objects) :
    Threads Node Thread Objects α :=
  System.start (World.fresh objects) programs

/-- Every call does its work under the lock of its name. -/
def Sectioned {α : Type} (programs : Thread → Program (Request Node) Answer α)
    (name : Thread → LockName) : Prop :=
  ∀ thread trace value, (programs thread).Yields trace value → IsSection (name thread) trace

end Model

section Locks

variable {Node Thread Objects View α : Type} {nodes : Nodes Node Thread Objects View}
  {programs : Thread → Program (Request Node) Answer α} {name : Thread → LockName}
  {objects : Objects} [DecidableEq Thread] {system next last : Threads Node Thread Objects α}
  {thread other actor : Thread} {event : Exchange Node} {world later : World Thread Objects}
  {lock : Nat} {table : LockTable} {key : LockKey}

/-! ## Who holds what -/

def acquires (lock : Nat) : Exchange Node → Bool
  | ⟨.acquire other, _⟩ => other = lock
  | _ => false

def releases (lock : Nat) : Exchange Node → Bool
  | ⟨.release other, _⟩ => other = lock
  | _ => false

def acquiresGuard (table : LockTable) : Exchange Node → Bool
  | ⟨.acquireGuard other, _⟩ => other = table
  | _ => false

def releasesGuard (table : LockTable) : Exchange Node → Bool
  | ⟨.releaseGuard other, _⟩ => other = table
  | _ => false

omit [DecidableEq Thread] in
theorem locking : System.Locking (Serves nodes) World.holders acquires releases where
  acquire served taken := by
    cases served with
    | acquire free =>
        cases of_decide_eq_true taken
        exact ⟨free, Function.update_self ..⟩
    | _ => cases taken
  release served given := by
    cases served with
    | release held =>
        cases of_decide_eq_true given
        exact held
    | _ => cases given
  keep served untaken ungiven := by
    cases served with
    | acquire => exact Function.update_of_ne (Ne.symm (of_decide_eq_false untaken)) ..
    | release => exact Function.update_of_ne (Ne.symm (of_decide_eq_false ungiven)) ..
    | _ => rfl

omit [DecidableEq Thread] in
theorem guarding : System.Locking (Serves nodes) World.guards acquiresGuard releasesGuard where
  acquire served taken := by
    cases served with
    | acquireGuard free =>
        cases of_decide_eq_true taken
        exact ⟨free, Function.update_self ..⟩
    | _ => cases taken
  release served given := by
    cases served with
    | releaseGuard held =>
        cases of_decide_eq_true given
        exact held
    | _ => cases given
  keep served untaken ungiven := by
    cases served with
    | acquireGuard => exact Function.update_of_ne (Ne.symm (of_decide_eq_false untaken)) ..
    | releaseGuard => exact Function.update_of_ne (Ne.symm (of_decide_eq_false ungiven)) ..
    | _ => rfl

/-- A lock stays the lock of its key. -/
theorem lock_known (reached : System.Reaches (Serves nodes) (begun programs objects) system)
    {thread : Thread} (asked : (⟨.lockFor table key, lock⟩ : Exchange Node) ∈ system.past thread) :
    system.shared.locks table key = some lock := by
  induction reached generalizing thread with
  | refl => cases asked
  | @tail middle last _ step ih =>
      rcases step with ⟨actor, event, turn⟩
      have served := turn.served
      have kept : ∀ {thread : Thread}, (⟨.lockFor table key, lock⟩ : Exchange Node) ∈ middle.past thread →
          last.shared.locks table key = some lock := by
        intro thread asked
        have known := ih asked
        generalize last.shared = after at served
        cases served with
        | made missing =>
            rename_i made name _ _
            have different : ¬ (table = made ∧ key = name) := by
              rintro ⟨rfl, rfl⟩
              rw [missing] at known
              cases known
            exact (if_neg different).trans known
        | _ => exact known
      by_cases same : thread = actor
      · subst same
        rw [turn.past_self, List.mem_append, List.mem_singleton] at asked
        rcases asked with before | now
        · exact kept before
        · subst now
          generalize last.shared = after at served
          cases served with
          | found known => exact known
          | made => exact if_pos ⟨rfl, rfl⟩
      · rw [turn.past_other same] at asked
        exact kept asked

/-! ## How far the calls have come -/

section Sectioned

variable (sectioned : Sectioned programs name)
  (reached : System.Reaches (Serves nodes) (begun programs objects) system)

include sectioned reached

theorem stage_of_turn (turn : System.Turn (Serves nodes) system thread event next) :
    Stage (name thread) (system.past thread) event.request := by
  rcases turn.completes answer_nonempty reached with ⟨more, value, run⟩
  exact (sectioned thread _ value run).stage

/-- The exchanges of a call are the beginning of a section. -/
theorem stage_of_past {early late : Trace Node}
    (split : system.past thread = early ++ event :: late) :
    Stage (name thread) early event.request := by
  rcases reached.completes answer_nonempty thread with ⟨more, value, run⟩
  rw [split, List.append_assoc, List.cons_append] at run
  exact (sectioned thread _ value run).stage

/-- Whoever works has opened its section. -/
theorem turn_working (turn : System.Turn (Serves nodes) system thread event next)
    (work : event.request.IsWork) : ∃ lock done, (∀ event ∈ done, event.request.IsWork) ∧
      system.past thread = opening (name thread) lock ++ done := by
  have stage := stage_of_turn sectioned reached turn
  generalize event.request = request at stage work
  generalize system.past thread = past at stage ⊢
  cases stage with
  | work works => exact ⟨_, _, works, rfl⟩
  | _ => exact work.elim

theorem not_acquire_later {late : Trace Node}
    (opened : system.past thread = opening (name thread) lock ++ late) {other : Nat} :
    (⟨.acquire other, ()⟩ : Exchange Node) ∉ late := by
  intro member
  rcases List.append_of_mem member with ⟨early, rest, rfl⟩
  rw [← List.append_assoc] at opened
  have stage := stage_of_past sectioned reached opened
  generalize past : opening (name thread) lock ++ early = front at stage
  cases stage with
  | lock => simp [opening] at past
  | work _ work => exact work

/-- Who holds a lock has opened its section with it. -/
theorem opening_of_holding (holding : System.Holding acquires releases lock (system.past thread)) :
    ∃ late, system.past thread = opening (name thread) lock ++ late := by
  rcases holding with ⟨⟨request, answer⟩, member, taken⟩
  cases request with
  | acquire other =>
      cases of_decide_eq_true taken
      rcases List.append_of_mem (mem_of_mem_since member) with ⟨early, late, split⟩
      have stage := stage_of_past sectioned reached split
      rw [split]
      cases stage with
      | lock => exact ⟨late, rfl⟩
      | work _ work => exact work.elim
  | _ => cases taken

end Sectioned

omit [DecidableEq Thread] in
/-- A call holds its lock as long as it has not released it. -/
theorem holding_of_opening {late : Trace Node} {name : LockName}
    (kept : (⟨.release lock, ()⟩ : Exchange Node) ∉ late) :
    System.Holding acquires releases lock (opening name lock ++ late) := by
  refine ⟨⟨.acquire lock, ()⟩, ?_, decide_eq_true rfl⟩
  change _ ∈ since _ (([⟨.acquireGuard name.1, ()⟩, ⟨.lockFor name.1 name.2, lock⟩,
    ⟨.releaseGuard name.1, ()⟩] : Trace Node) ++ ⟨.acquire lock, ()⟩ :: late)
  apply mem_since
  · intro event member
    rcases event with ⟨request, answer⟩
    cases request with
    | release other =>
        apply decide_eq_false
        rintro rfl
        exact kept member
    | _ => rfl
  · rfl

omit [DecidableEq Thread] in
theorem holding_of_works {done : Trace Node} {name : LockName}
    (works : ∀ event ∈ done, event.request.IsWork) :
    System.Holding acquires releases lock (opening name lock ++ done) :=
  holding_of_opening fun member => works _ member

/-- While a call holds its lock, no other call of the same name works. -/
theorem exclusive (sectioned : Sectioned programs name)
    (reached : System.Reaches (Serves nodes) (begun programs objects) system)
    (turn : System.Turn (Serves nodes) system actor event next) (work : event.request.IsWork)
    (same : name actor = name thread)
    (holding : System.Holding acquires releases lock (system.past thread)) : actor = thread := by
  rcases turn_working sectioned reached turn work with ⟨mine, done, works, past⟩
  rcases opening_of_holding sectioned reached holding with ⟨late, opened⟩
  have asked : ∀ {thread lock late}, system.past thread = opening (name thread) lock ++ late →
      (⟨.lockFor (name thread).1 (name thread).2, lock⟩ : Exchange Node) ∈ system.past thread := by
    intro thread lock late opened
    simp [opened, opening]
  have known := lock_known reached (asked past)
  rw [same, lock_known reached (asked opened)] at known
  cases known
  have held : System.Holding acquires releases lock (system.past actor) := by
    rw [past]
    exact holding_of_works works
  exact locking.exclusive reached held holding

/-! ## What a call has read -/

/-- What a call has read before does not count any more. -/
def clears (event : Exchange Node) : Bool :=
  match event.request with
  | .post _ _ _ | .acquire _ => true
  | _ => false

omit [DecidableEq Thread] in
theorem Serves.objects_eq (served : Serves nodes thread world event later)
    (silent : ¬ event.request.IsPost) : later.objects = world.objects := by
  cases served with
  | post => exact absurd trivial silent
  | _ => rfl

omit [DecidableEq Thread] in
theorem Serves.changed (served : Serves nodes thread world event later)
    (post : event.request.IsPost) : nodes.changes thread world.objects event later.objects := by
  cases served with
  | post changed => exact changed
  | _ => exact post.elim

omit [DecidableEq Thread] in
theorem Serves.told (served : Serves nodes thread world event later) (get : event.request.IsGet) :
    nodes.tells thread (nodes.view thread world.objects) event := by
  cases served with
  | get told => exact told
  | _ => exact get.elim

/-- Calls of other names change nothing that a call is concerned with. -/
def Nodes.Isolates (nodes : Nodes Node Thread Objects View) (name : Thread → LockName) : Prop :=
  ∀ thread actor objects event later, name actor ≠ name thread →
    nodes.changes actor objects event later → nodes.view thread later = nodes.view thread objects

/-- What others do while a call holds its lock does not concern it. -/
theorem view_of_other (sectioned : Sectioned programs name) (isolates : nodes.Isolates name)
    (reached : System.Reaches (Serves nodes) (begun programs objects) system)
    (turn : System.Turn (Serves nodes) system actor event next) (different : thread ≠ actor)
    (holding : System.Holding acquires releases lock (system.past thread)) :
    nodes.view thread next.shared.objects = nodes.view thread system.shared.objects := by
  by_cases post : event.request.IsPost
  · by_cases same : name actor = name thread
    · exact absurd (exclusive sectioned reached turn post.isWork same holding).symm different
    · exact isolates thread actor _ event _ same (turn.served.changed post)
  · rw [turn.served.objects_eq post]

/-- What a call has read since it acquired its lock or sent something is still there. -/
theorem told_since (sectioned : Sectioned programs name) (isolates : nodes.Isolates name)
    (reached : System.Reaches (Serves nodes) (begun programs objects) system) {thread : Thread}
    (holding : System.Holding acquires releases lock (system.past thread)) :
    ∀ event ∈ since clears (system.past thread), event.request.IsGet →
      nodes.tells thread (nodes.view thread system.shared.objects) event := by
  induction reached generalizing thread with
  | refl =>
      rcases holding with ⟨_, member, _⟩
      cases member
  | @tail middle last reached step ih =>
      rcases step with ⟨actor, event, turn⟩
      by_cases same : thread = actor
      · subst same
        rw [turn.past_self, since_concat]
        rw [turn.past_self, System.holding_concat] at holding
        cases cleared : clears event with
        | true => nofun
        | false =>
            have silent : ¬ event.request.IsPost := by
              intro post
              rcases event with ⟨request, answer⟩
              cases request with
              | post => cases cleared
              | _ => exact post
            have held : System.Holding acquires releases lock (middle.past thread) := by
              rcases holding.2 with taken | held
              · rcases event with ⟨request, answer⟩
                cases request with
                | acquire => cases cleared
                | _ => cases taken
              · exact held
            intro earlier member get
            rw [turn.served.objects_eq silent]
            rcases List.mem_cons.mp member with rfl | before
            · exact turn.served.told get
            · exact ih held earlier before get
      · rw [turn.past_other same] at holding ⊢
        intro earlier member get
        rw [view_of_other sectioned isolates reached turn same holding]
        exact ih holding earlier member get

end Locks

end Sections

end OpnsensePlugin

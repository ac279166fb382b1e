import OpnsensePlugin.Effects.Interleaving
import OpnsensePlugin.Writers.StaleRevision

/-!
# Writers on threads

Any number of calls of `execute` take turns. They share the locks of the process and
the configuration of the nodes, which only their POSTs change: a POST may change
any object on any node, and what a reading of an object returns is what the node has.
-/

namespace OpnsensePlugin

open Effects Python

namespace Concurrency

/-- What the threads share: the guards and the dictionaries of locks, who holds which lock, and the
objects of the nodes -/
structure World (Thread : Type) where
  guards : LockTable → Option Thread
  locks : LockTable → LockKey → Option Nat
  holders : Nat → Option Thread
  objects : Str → Resource → Str → Option Json

/-- A call of `execute`; `attributes` is what earlier calls have left in the writer. -/
structure Call where
  writer : VerifiedFirewallWriter
  action : WriteAction
  payload : Json
  uuid : Str
  revision : Str
  attributes : Execution

/-- The node that a client of the writer talks to -/
def Call.url (call : Call) : Role → Str
  | .client => call.writer.client.url
  | .peer => (call.writer.peer.map Host.url).getD []

section Runtime

variable [Runtime]

abbrev Outcome : Type := Except Exn ExecuteResult × Execution

def Call.program (call : Call) : Program (Request Role) Answer Outcome :=
  call.writer.execute call.action call.payload call.uuid call.revision call.attributes

/-- The object in an answer, as it enters a revision -/
def objectOf (resource : Resource) (answer : Json) : Option Json :=
  (detailOf resource answer).toOption

def objectPath (resource : Resource) (uuid : Str) : Str :=
  resource.spec.base ++ "/get" ++ resource.spec.suffix ++ "/" ++ uuid

variable {Thread : Type} [DecidableEq Thread]

/-- What the world may do for an exchange of a thread -/
inductive Serves (calls : Thread → Call) (thread : Thread) (world : World Thread) :
    Exchange Role → World Thread → Prop
  | get {role : Role} {path : Str} {params : List (Str × Json)} {reply : Reply}
      (shown : ∀ resource uuid value, path = objectPath resource uuid → reply = .ok value →
        world.objects ((calls thread).url role) resource uuid = objectOf resource value) :
      Serves calls thread world ⟨.get role path params, reply⟩ world
  | post {role : Role} {path : Str} {body : Json} {reply : Reply}
      {objects : Str → Resource → Str → Option Json} :
      Serves calls thread world ⟨.post role path body, reply⟩ { world with objects }
  | append {entry : AuditEntry} {answer : Except AppendFailure Unit} :
      Serves calls thread world ⟨.append entry, answer⟩ world
  | clock {now : Clock} : Serves calls thread world ⟨.clock, now⟩ world
  | acquireGuard {table : LockTable} (free : world.guards table = none) :
      Serves calls thread world ⟨.acquireGuard table, ()⟩
        { world with guards := Function.update world.guards table (some thread) }
  | releaseGuard {table : LockTable} (held : world.guards table = some thread) :
      Serves calls thread world ⟨.releaseGuard table, ()⟩
        { world with guards := Function.update world.guards table none }
  | found {table : LockTable} {key : LockKey} {lock : Nat}
      (known : world.locks table key = some lock) :
      Serves calls thread world ⟨.lockFor table key, lock⟩ world
  | made {table : LockTable} {key : LockKey} {lock : Nat} (missing : world.locks table key = none)
      (fresh : ∀ other name, world.locks other name ≠ some lock) :
      Serves calls thread world ⟨.lockFor table key, lock⟩
        { world with locks := fun other name =>
          if other = table ∧ name = key then some lock else world.locks other name }
  | acquire {lock : Nat} (free : world.holders lock = none) :
      Serves calls thread world ⟨.acquire lock, ()⟩
        { world with holders := Function.update world.holders lock (some thread) }
  | release {lock : Nat} (held : world.holders lock = some thread) :
      Serves calls thread world ⟨.release lock, ()⟩
        { world with holders := Function.update world.holders lock none }

abbrev Threads (Thread : Type) : Type := System Thread (Request Role) (@Answer Role) (World Thread) Outcome

/-- No lock was made yet, and no call has begun. -/
def begun (calls : Thread → Call) (objects : Str → Resource → Str → Option Json) : Threads Thread :=
  System.start ⟨fun _ => none, fun _ _ => none, fun _ => none, objects⟩ fun thread => (calls thread).program

/-- The writers use the same two nodes, in one order or the other. -/
def SamePair (calls : Thread → Call) : Prop :=
  ∃ first second, ∀ thread,
    (calls thread).url .client = first ∧ (calls thread).url .peer = second ∨
      (calls thread).url .client = second ∧ (calls thread).url .peer = first

/-- The object on the node has the revision of the call. -/
def Current (world : World Thread) (call : Call) (role : Role) (uuid : Str) : Prop :=
  ∃ detail, world.objects (call.url role) call.writer.resource uuid = some detail ∧
    hashPayload detail = .ok call.revision

/-! ## Locks -/

def acquires (lock : Nat) : Exchange Role → Bool
  | ⟨.acquire other, _⟩ => other = lock
  | _ => false

def releases (lock : Nat) : Exchange Role → Bool
  | ⟨.release other, _⟩ => other = lock
  | _ => false

variable {calls : Thread → Call} {objects : Str → Resource → Str → Option Json}
  {system next last : Threads Thread} {thread other : Thread} {event : Exchange Role}
  {world later : World Thread} {lock : Nat}

omit [DecidableEq Thread] in
theorem locking : System.Locking (Serves calls) World.holders acquires releases where
  acquire served taken := by
    cases served with
    | acquire free =>
        cases of_decide_eq_true taken
        exact ⟨free, Function.update_self ..⟩
    | _ => cases taken
  release served given := by
    cases served with
    | release held =>
        cases of_decide_eq_true given
        exact held
    | _ => cases given
  keep served untaken ungiven := by
    cases served with
    | acquire => exact Function.update_of_ne (Ne.symm (of_decide_eq_false untaken)) ..
    | release => exact Function.update_of_ne (Ne.symm (of_decide_eq_false ungiven)) ..
    | _ => rfl

/-- A lock stays the lock of its key. -/
theorem lock_known (reached : System.Reaches (Serves calls) (begun calls objects) system)
    {thread : Thread} {table : LockTable} {key : LockKey}
    (asked : (⟨.lockFor table key, lock⟩ : Exchange Role) ∈ system.past thread) :
    system.shared.locks table key = some lock := by
  induction reached generalizing thread with
  | refl => cases asked
  | @tail middle last _ step ih =>
      rcases step with ⟨actor, event, turn⟩
      have served := turn.served
      have kept : ∀ {thread : Thread}, (⟨.lockFor table key, lock⟩ : Exchange Role) ∈ middle.past thread →
          last.shared.locks table key = some lock := by
        intro thread asked
        have known := ih asked
        generalize last.shared = after at served
        cases served with
        | made missing =>
            rename_i made name _ _
            have different : ¬ (table = made ∧ key = name) := by
              rintro ⟨rfl, rfl⟩
              rw [missing] at known
              cases known
            exact (if_neg different).trans known
        | _ => exact known
      by_cases same : thread = actor
      · subst same
        rw [turn.past_self, List.mem_append, List.mem_singleton] at asked
        rcases asked with before | now
        · exact kept before
        · subst now
          generalize last.shared = after at served
          cases served with
          | found known => exact known
          | made => exact if_pos ⟨rfl, rfl⟩
      · rw [turn.past_other same] at asked
        exact kept asked

end Runtime

end Concurrency

end OpnsensePlugin

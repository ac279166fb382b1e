import OpnsensePlugin.Writers.LockedSection

/-!
# Sections under a lock

The calls that change a firewall take their lock out of a dictionary, under the guard of
the dictionary, and do all their work under the lock. What such a call does next follows
from how far it has come.
-/

namespace OpnsensePlugin

open Effects Python

namespace Sections

variable {Node : Type}

/-- A dictionary of locks, and a key in it -/
abbrev LockName := LockTable × LockKey

/-- How a call comes to hold its lock -/
def opening (name : LockName) (lock : Nat) : Trace Node :=
  [⟨.acquireGuard name.1, ()⟩, ⟨.lockFor name.1 name.2, lock⟩, ⟨.releaseGuard name.1, ()⟩,
    ⟨.acquire lock, ()⟩]

/-- The exchanges of a call that does its work under the lock of a name -/
inductive IsSection (name : LockName) : Trace Node → Prop
  | refused : IsSection name []
  | worked {lock : Nat} {work : Trace Node} (works : ∀ event ∈ work, event.request.IsWork) :
      IsSection name (opening name lock ++ (work ++ [⟨.release lock, ()⟩]))

/-- How far a call has come, and what it asks next -/
inductive Stage (name : LockName) : Trace Node → Request Node → Prop
  | guard : Stage name [] (.acquireGuard name.1)
  | name : Stage name [⟨.acquireGuard name.1, ()⟩] (.lockFor name.1 name.2)
  | unguard {lock : Nat} :
      Stage name [⟨.acquireGuard name.1, ()⟩, ⟨.lockFor name.1 name.2, lock⟩] (.releaseGuard name.1)
  | lock {lock : Nat} :
      Stage name [⟨.acquireGuard name.1, ()⟩, ⟨.lockFor name.1 name.2, lock⟩,
        ⟨.releaseGuard name.1, ()⟩] (.acquire lock)
  | work {lock : Nat} {done : Trace Node} {request : Request Node}
      (works : ∀ event ∈ done, event.request.IsWork) (work : request.IsWork) :
      Stage name (opening name lock ++ done) request
  | unlock {lock : Nat} {done : Trace Node} (works : ∀ event ∈ done, event.request.IsWork) :
      Stage name (opening name lock ++ done) (.release lock)

variable {name : LockName} {past more : Trace Node} {event : Exchange Node} {lock : Nat}

theorem IsSection.stage (whole : IsSection name (past ++ event :: more)) :
    Stage name past event.request := by
  generalize same : past ++ event :: more = trace at whole
  cases whole with
  | refused => simp at same
  | @worked lock work works =>
      rcases split_at_event same.symm with ⟨rest, early⟩ | ⟨done, rfl, late⟩
      · rcases past with _ | ⟨first, _ | ⟨second, _ | ⟨third, _ | ⟨fourth, past⟩⟩⟩⟩
        all_goals simp only [opening, List.nil_append, List.cons_append, List.cons.injEq] at early
        · rcases early with ⟨rfl, _⟩
          exact .guard
        · rcases early with ⟨rfl, rfl, _⟩
          exact .name
        · rcases early with ⟨rfl, rfl, rfl, _⟩
          exact .unguard
        · rcases early with ⟨rfl, rfl, rfl, rfl, _⟩
          exact .lock
        · simp at early
      · rcases split_at_event late with ⟨rest, rfl⟩ | ⟨rest, rfl, released⟩
        · refine .work (fun event member => works event (by simp [member])) ?_
          exact works event (by simp)
        · rcases rest with _ | ⟨first, rest⟩
          · rcases List.cons.inj released with ⟨rfl, _⟩
            rw [List.append_nil]
            exact .unlock works
          · simp at released

end Sections

end OpnsensePlugin

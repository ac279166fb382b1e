import OpnsensePlugin.Python.Order
import OpnsensePlugin.Writers.Concurrency

/-!
# Writers exclude each other

Writers on one pair of nodes use one lock, and all they do with the nodes they do while
they hold it. What one of them has read since its last change is therefore still on the
node, whatever the others do in between.
-/

namespace OpnsensePlugin

open Effects Python

namespace Concurrency

section Runtime

variable [Runtime] {Thread : Type} [DecidableEq Thread] {calls : Thread → Call}
  {objects : Str → Resource → Str → Option Json} {system next last : Threads Thread}
  {thread other : Thread} {event : Exchange Role} {world later : World Thread} {lock : Nat}
  {done : Trace Role}

/-! ## One lock -/

omit [Runtime] [DecidableEq Thread] in
theorem SamePair.lockKey_eq (pair : SamePair calls) :
    (calls thread).writer.lockKey = (calls other).writer.lockKey := by
  have keyed : ∀ call : Call, call.writer.lockKey =
      if strLe (call.url .client) (call.url .peer) then (call.url .client, call.url .peer)
      else (call.url .peer, call.url .client) := fun _ => rfl
  rcases pair with ⟨first, second, uses⟩
  have sorted : (if strLe first second then (first, second) else (second, first)) =
      if strLe second first then (second, first) else (first, second) := by
    split
    · rename_i below
      split
      · rename_i above
        rw [antisymm_of (fun first second : Str => strLe first second = true) below above]
      · rfl
    · rename_i above
      rcases total_of (fun first second : Str => strLe first second = true) first second with below | below
      · exact absurd below above
      · rw [if_pos below]
  rw [keyed, keyed]
  rcases uses thread with ⟨here, there⟩ | ⟨here, there⟩
  all_goals
    rcases uses other with ⟨mine, yours⟩ | ⟨mine, yours⟩
    all_goals rw [here, there, mine, yours]
  · exact sorted
  · exact sorted.symm

abbrev Working (call : Call) : Trace Role → Exchange Role → Nat → Trace Role → Prop :=
  call.writer.Working call.action call.payload call.uuid call.revision

/-- Whoever works is within `_execute`. -/
theorem turn_working (reached : System.Reaches (Serves calls) (begun calls objects) system)
    (turn : System.Turn (Serves calls) system thread event next) (work : event.request.IsWork) :
    ∃ lock done, Working (calls thread) (system.past thread) event lock done := by
  rcases turn.completes answer_nonempty reached with ⟨more, ⟨outcome, after⟩, run⟩
  exact (VerifiedFirewallWriter.execute_section run).working work

theorem working_holding {call : Call} {past : Trace Role} (working : Working call past event lock done) :
    System.Holding acquires releases lock past := by
  refine ⟨⟨.acquire lock, ()⟩, ?_, decide_eq_true rfl⟩
  rw [working.past]
  change _ ∈ since _ (([⟨.acquireGuard .writeLocks, ()⟩,
    ⟨.lockFor .writeLocks call.writer.lockKey, lock⟩, ⟨.releaseGuard .writeLocks, ()⟩] : Trace Role) ++
      ⟨.acquire lock, ()⟩ :: done)
  apply mem_since
  · intro event member
    have work := working.works event member
    rcases event with ⟨request, answer⟩
    cases request with
    | release => exact work.elim
    | _ => rfl
  · rfl

/-- Who holds a lock has opened its section with it. -/
theorem opening_of_holding (reached : System.Reaches (Serves calls) (begun calls objects) system)
    (holding : System.Holding acquires releases lock (system.past thread)) :
    ∃ late, system.past thread = (calls thread).writer.opening lock ++ late := by
  rcases holding with ⟨⟨request, answer⟩, member, taken⟩
  cases request with
  | acquire other =>
      cases of_decide_eq_true taken
      rcases List.append_of_mem (mem_of_mem_since member) with ⟨early, late, split⟩
      rcases reached.completes answer_nonempty thread with ⟨more, ⟨outcome, after⟩, run⟩
      rw [split, List.append_assoc, List.cons_append] at run
      have opened := (VerifiedFirewallWriter.execute_section run).acquired
      refine ⟨late, ?_⟩
      rw [split, ← opened, List.append_assoc]
      rfl
  | _ => cases taken

/-- Who holds a lock has asked for it. -/
theorem asked_of_holding (reached : System.Reaches (Serves calls) (begun calls objects) system)
    (holding : System.Holding acquires releases lock (system.past thread)) :
    (⟨.lockFor .writeLocks (calls thread).writer.lockKey, lock⟩ : Exchange Role) ∈
      system.past thread := by
  rcases opening_of_holding reached holding with ⟨late, opened⟩
  simp [opened, VerifiedFirewallWriter.opening]

/-- Nobody else works while a writer holds its lock. -/
theorem exclusive (pair : SamePair calls)
    (reached : System.Reaches (Serves calls) (begun calls objects) system)
    (turn : System.Turn (Serves calls) system thread event next) (work : event.request.IsWork)
    (holding : System.Holding acquires releases lock (system.past other)) : thread = other := by
  rcases turn_working reached turn work with ⟨mine, done, working⟩
  have asked : (⟨.lockFor .writeLocks (calls thread).writer.lockKey, mine⟩ : Exchange Role) ∈
      system.past thread := by simp [working.past, VerifiedFirewallWriter.opening]
  have known := lock_known reached asked
  have others := lock_known reached (asked_of_holding reached holding)
  rw [pair.lockKey_eq, others] at known
  cases known
  exact locking.exclusive reached (working_holding working) holding

/-! ## What was read is still there -/

/-- An answer that is an object is the one on the node. -/
def Shown (world : World Thread) (call : Call) (event : Exchange Role) : Prop :=
  ∀ role resource uuid params value,
    event = ⟨.get role (objectPath resource uuid) params, .ok value⟩ →
      world.objects (call.url role) resource uuid = objectOf resource value

/-- What a writer has read before does not count any more. -/
def clears (event : Exchange Role) : Bool :=
  match event.request with
  | .post _ _ _ | .acquire _ => true
  | _ => false

omit [DecidableEq Thread] in
theorem Serves.objects_eq (served : Serves calls thread world event later)
    (silent : ¬ event.request.IsPost) : later.objects = world.objects := by
  cases served with
  | post => exact absurd trivial silent
  | _ => rfl

omit [DecidableEq Thread] in
theorem Serves.shown (served : Serves calls thread world event later) :
    Shown later (calls thread) event := by
  intro role resource uuid params value same
  subst same
  cases served with
  | get shown => exact shown resource uuid value rfl rfl

theorem shown_since (pair : SamePair calls)
    (reached : System.Reaches (Serves calls) (begun calls objects) system) {thread : Thread}
    (holding : System.Holding acquires releases lock (system.past thread)) :
    ∀ event ∈ since clears (system.past thread), Shown system.shared (calls thread) event := by
  induction reached generalizing thread with
  | refl =>
      rcases holding with ⟨_, member, _⟩
      cases member
  | @tail middle last reached step ih =>
      rcases step with ⟨actor, event, turn⟩
      by_cases same : thread = actor
      · subst same
        rw [turn.past_self, since_concat]
        rw [turn.past_self, System.holding_concat] at holding
        cases cleared : clears event with
        | true => nofun
        | false =>
            have silent : ¬ event.request.IsPost := by
              intro post
              rcases event with ⟨request, answer⟩
              cases request with
              | post => cases cleared
              | _ => exact post
            have held : System.Holding acquires releases lock (middle.past thread) := by
              rcases holding.2 with taken | held
              · rcases event with ⟨request, answer⟩
                cases request with
                | acquire => cases cleared
                | _ => cases taken
              · exact held
            intro earlier member
            rcases List.mem_cons.mp member with rfl | before
            · exact turn.served.shown
            · have shown := ih held earlier before
              rw [Shown, turn.served.objects_eq silent]
              exact shown
      · have silent : ¬ event.request.IsPost := by
          intro post
          rw [turn.past_other same] at holding
          exact same (exclusive pair reached turn post.isWork holding).symm
        rw [turn.past_other same] at holding ⊢
        intro earlier member
        have shown := ih holding earlier member
        rw [Shown, turn.served.objects_eq silent]
        exact shown

/-! ## Changes -/

/-- A change of an object is sent while the object has the revision. -/
theorem change_current (pair : SamePair calls)
    (reached : System.Reaches (Serves calls) (begun calls objects) system)
    (turn : System.Turn (Serves calls) system thread event next)
    {role : Role} {uuid : Str}
    (valid : VerifiedFirewallWriter.checkedUuid (calls thread).action (calls thread).uuid (calls thread).revision = .ok uuid)
    (given : (calls thread).action ≠ .create)
    (changes : (calls thread).writer.Changes (calls thread).action uuid role event) :
    Current system.shared (calls thread) role uuid := by
  rcases turn_working reached turn changes.isPost.isWork with ⟨lock, done, working⟩
  rcases working.run with ⟨checked, rest, outcome, start, last, checkedEq, run⟩
  rw [valid] at checkedEq
  cases checkedEq
  have guarded : Guarded ((calls thread).writer.Changes (calls thread).action uuid role)
      ((calls thread).writer.ReadsRevision role uuid (calls thread).revision) (done ++ event :: rest) :=
    (VerifiedFirewallWriter.executeLocked_run run).guarded_change given
  rcases guarded done event rest rfl changes with ⟨early, late, value, split, revised, quiet⟩
  have recent : (⟨.get role ((calls thread).writer.detailPath uuid) [], .ok value⟩ : Exchange Role) ∈
      since clears (system.past thread) := by
    rw [working.past, split, ← List.append_assoc]
    apply mem_since
    · intro event member
      have work := working.works event (by simp [split, member])
      have silent := quiet event member
      rcases event with ⟨request, answer⟩
      cases request with
      | post => exact absurd trivial silent
      | acquire => exact work.elim
      | _ => rfl
    · rfl
  have shown := shown_since pair reached (working_holding working) _ recent role
    (calls thread).writer.resource uuid [] value rfl
  rw [revisionOf] at revised
  cases decoded : detailOf (calls thread).writer.resource value with
  | error error =>
      rw [decoded] at revised
      cases revised
  | ok detail =>
      rw [decoded] at revised
      refine ⟨detail, ?_, revised⟩
      rw [shown, objectOf, decoded]
      rfl

end Runtime

end Concurrency

end OpnsensePlugin

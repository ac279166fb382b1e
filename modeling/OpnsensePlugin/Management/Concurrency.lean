import OpnsensePlugin.Management.Success
import OpnsensePlugin.Paths.ManagementPaths
import OpnsensePlugin.Sections.Calls

/-!
# Mutations on threads

Mutations of one kind of object on one node use one lock, whatever else the process does.
What a mutation has read before it sends its change is still on the node when it does,
so an update or a deletion changes the object that its revision was computed from.
-/

namespace OpnsensePlugin

open Effects Python

namespace Sections

open Management

section Runtime

variable [Runtime] {Thread : Type}

/-- The objects of the nodes, by node and kind and by UUID, as `_raw` returns them -/
abbrev Stock : Type := LockKey → Str → Option Json

/-- The answer is the object of the stock. -/
def Tells (spec : Spec) (stock : Str → Option Json) (event : Exchange Role) : Prop :=
  ∀ uuid target value, path spec spec.get uuid = .ok target →
    event = ⟨.get .client target [], .ok value⟩ → stock uuid = (rawOf spec value).toOption

/-- The nodes, for any mix of calls. A POST of a mutation changes objects of its own kind on its own
node only; writes of the firewall pages change no objects of the catalogue. -/
def catalogNodes (calls : Thread → ProcessCall) : Nodes Role Thread Stock (Str → Option Json) where
  view thread stock := match calls thread with
    | .write _ => fun _ => none
    | .mutation service spec _ => stock (service.lockKey spec)
  tells thread stock event := match calls thread with
    | .write _ => True
    | .mutation _ spec _ => Tells spec stock event
  changes thread stock _ later := match calls thread with
    | .write _ => later = stock
    | .mutation service spec _ => ∀ key, key ≠ service.lockKey spec → later key = stock key

variable [DecidableEq Thread] {calls : Thread → ProcessCall} {stock : Stock}
  {system next : Threads Role Thread Stock Ended} {thread : Thread} {event : Exchange Role}
  {service : ManagementService} {spec : Spec} {body : Json} {request : MutateRequest}

omit [Runtime] [DecidableEq Thread] in
theorem catalogNodes_isolates :
    (catalogNodes calls).Isolates fun thread => (calls thread).lockName := by
  intro thread actor before event later apart changed
  cases mine : calls thread with
  | write call => simp [catalogNodes, mine]
  | mutation service spec body =>
      simp only [catalogNodes, mine] at changed ⊢
      cases theirs : calls actor with
      | write call =>
          simp only [theirs] at changed
          rw [changed]
      | mutation other kind sent =>
          simp only [theirs] at changed
          refine changed _ fun same => apart ?_
          simp [mine, theirs, ProcessCall.lockName, ManagementService.lockName, same]

/-- The object was read with the revision before anything is sent. -/
theorem saved_read {done more : Trace Role} {outcome : Except Exn MutateResult}
    (run : (service.mutateLocked spec request).Run () (done ++ event :: more) outcome ())
    (accepted : service.accept spec body = .ok request) (changes : request.action ≠ .create)
    (post : event.request.IsPost) :
    ∃ target value object, path spec spec.get request.uuid = .ok target ∧
      (⟨.get .client target [], .ok value⟩ : Exchange Role) ∈ done ∧
      rawOf spec value = .ok object ∧ hashPayload (selectedForm object) = .ok request.revision := by
  rcases ManagementService.accept_ok accepted with ⟨⟨target, targetEq⟩, applicable⟩
  have locked := ManagementService.mutateLocked_run run targetEq applicable
  generalize whole : done ++ event :: more = trace at locked
  cases locked with
  | unprepared quiet _ => exact absurd post (quiet event (by simp [← whole]))
  | @changed front rest object expected payload outcome quiet prepared change =>
      have inside : ∀ read ∈ front, read ∈ done := by
        intro read member
        rcases split_at_event whole.symm with ⟨later, same⟩ | ⟨more, same, _⟩
        · exact absurd post (quiet event (by simp [same]))
        · simp [same, member]
      rcases prepared.recorded with ⟨_, found, _, split, ⟨State, before, value, after, reading, same⟩, _⟩
      subst same
      rcases raw_ok reading with ⟨target, response, known, rfl, decoded⟩
      exact ⟨target, response, value, known, inside _ (by simp [split]), decoded,
        prepared.current changes⟩

omit [DecidableEq Thread] in
/-- A mutation that sends something is within `_mutate`. -/
theorem mutation_working {past more : Trace Role} {ended : Ended}
    (run : (ProcessCall.mutation service spec body).program.Yields (past ++ event :: more) ended)
    (accepted : service.accept spec body = .ok request) (post : event.request.IsPost) :
    ∃ lock done rest outcome, past = opening (service.lockName spec) lock ++ done ∧
      (∀ event ∈ done, event.request.IsWork) ∧
      (service.mutateLocked spec request).Run () (done ++ event :: rest) outcome () := by
  generalize whole : past ++ event :: more = trace at run
  rcases Program.yields_bind_iff.mp run with ⟨front, ⟨outcome, after⟩, back, same, inner, last⟩
  rcases Program.yields_done_iff.mp last with ⟨rfl, _⟩
  rw [List.append_nil] at same
  subst same
  change (service.mutate spec body).Run () trace outcome () at inner
  cases ManagementService.mutate_section inner with
  | refused => simp at whole
  | @locked found lock locked outcome known run =>
      rw [accepted] at known
      cases known
      have works := ManagementService.mutateLocked_works _ _ _ _ run
      rcases split_at_event whole.symm with ⟨rest, early⟩ | ⟨done, rfl, late⟩
      · have member : event ∈ opening (service.lockName spec) lock := by simp [early]
        simp only [opening, List.mem_cons, List.not_mem_nil, or_false] at member
        rcases member with rfl | rfl | rfl | rfl
        all_goals exact post.elim
      · rcases split_at_event late with ⟨rest, rfl⟩ | ⟨none, _, released⟩
        · exact ⟨lock, done, rest, _, rfl, fun event member => works event (by simp [member]), run⟩
        · have member : event ∈ ([⟨.release lock, ()⟩] : Trace Role) := by simp [released]
          rw [List.mem_singleton.mp member] at post
          exact post.elim

/-- The object of the request is the one that its revision was computed from. -/
def IsCurrent (stock : Stock) (service : ManagementService) (spec : Spec)
    (request : MutateRequest) : Prop :=
  ∃ object, stock (service.lockKey spec) request.uuid = some object ∧
    hashPayload (selectedForm object) = .ok request.revision

omit [Runtime] [DecidableEq Thread] in
theorem eq_of_view {before later : Stock} (called : calls thread = .mutation service spec body)
    (same : (catalogNodes calls).view thread later = (catalogNodes calls).view thread before) :
    later (service.lockKey spec) = before (service.lockKey spec) := by
  simpa [catalogNodes, called] using same

/-! ## Changes -/

section Called

variable (reached : System.Reaches (Serves (catalogNodes calls))
    (begun (fun thread => (calls thread).program) stock) system)
  (called : calls thread = .mutation service spec body)
  (accepted : service.accept spec body = .ok request) (changes : request.action ≠ .create)

include reached called accepted changes

/-- An update or a deletion is sent while the object has the revision of the call. -/
theorem mutation_current (turn : System.Turn (Serves (catalogNodes calls)) system thread event next)
    (post : event.request.IsPost) (first : ∀ event ∈ system.past thread, ¬ event.request.IsPost) :
    IsCurrent system.shared.objects service spec request := by
  rcases turn.completes answer_nonempty reached with ⟨more, ended, run⟩
  rw [called] at run
  rcases mutation_working run accepted post with ⟨lock, done, rest, outcome, past, works, locked⟩
  rcases saved_read locked accepted changes post with
    ⟨target, value, object, known, member, decoded, revised⟩
  refine ⟨object, ?_, revised⟩
  have quiet : ∀ event ∈ done, ¬ event.request.IsPost :=
    fun sent inside => first sent (by simp [past, inside])
  rcases List.append_of_mem member with ⟨early, late, rfl⟩
  have recent : (⟨.get .client target [], .ok value⟩ : Exchange Role) ∈
      since clears (system.past thread) := by
    rw [past, ← List.append_assoc]
    apply mem_since
    · intro event member
      have work := works event (by simp [member])
      have silent := quiet event (by simp [member])
      rcases event with ⟨request, answer⟩
      cases request with
      | post => exact absurd trivial silent
      | acquire => exact work.elim
      | _ => rfl
    · rfl
  have holding : System.Holding acquires releases lock (system.past thread) := by
    rw [past]
    exact holding_of_works works
  have told := told_since calls_sectioned catalogNodes_isolates reached holding _ recent trivial
  simp only [catalogNodes, called] at told
  rw [told request.uuid target value known rfl, decoded]
  rfl

end Called

/-- The call has its lock or has left it, and has sent nothing. While it has the lock the object is
not the one of its revision. -/
structure Outdated (service : ManagementService) (spec : Spec) (request : MutateRequest) (lock : Nat)
    (thread : Thread) (system : Threads Role Thread Stock Ended) : Prop where
  silent : ∀ event ∈ system.past thread, ¬ event.request.IsPost
  opened : ∃ late, system.past thread = opening (service.lockName spec) lock ++ late ∧
    ((⟨.release lock, ()⟩ : Exchange Role) ∉ late →
      ¬ IsCurrent system.shared.objects service spec request)

omit [Runtime] in
theorem opening_inj {name : LockName} {lock other : Nat} {late done : Trace Role}
    (same : opening name lock ++ late = opening name other ++ done) : lock = other ∧ late = done := by
  simp only [opening, List.cons_append, List.nil_append, List.cons.injEq, Event.mk.injEq,
    Request.acquire.injEq, heq_eq_eq, true_and, and_true] at same
  exact ⟨same.2.1, same.2.2⟩

theorem Outdated.turn {lock : Nat} {actor : Thread}
    (outdated : Outdated service spec request lock thread system)
    (reached : System.Reaches (Serves (catalogNodes calls))
      (begun (fun thread => (calls thread).program) stock) system)
    (called : calls thread = .mutation service spec body)
    (accepted : service.accept spec body = .ok request) (changes : request.action ≠ .create)
    (turn : System.Turn (Serves (catalogNodes calls)) system actor event next) :
    Outdated service spec request lock thread next := by
  rcases outdated.opened with ⟨late, past, stale⟩
  by_cases mine : thread = actor
  · subst mine
    have quiet : ¬ event.request.IsPost := by
      intro post
      have current := mutation_current reached called accepted changes turn post outdated.silent
      rcases turn_working calls_sectioned reached turn post.isWork with ⟨other, done, works, same⟩
      have named : (calls thread).lockName = service.lockName spec := by
        rw [called]
        rfl
      rw [past, named] at same
      rcases opening_inj same with ⟨rfl, rfl⟩
      exact stale (fun member => works _ member) current
    refine ⟨?_, late ++ [event], ?_, ?_⟩
    · rw [turn.past_self]
      intro earlier member
      rcases List.mem_append.mp member with before | now
      · exact outdated.silent earlier before
      · rwa [List.mem_singleton.mp now]
    · rw [turn.past_self, past, List.append_assoc]
    · intro kept
      rw [turn.served.objects_eq quiet]
      exact stale fun member => kept (List.mem_append_left _ member)
  · refine ⟨?_, late, ?_, ?_⟩
    · rw [turn.past_other mine]
      exact outdated.silent
    · rw [turn.past_other mine, past]
    · intro kept
      have holding : System.Holding acquires releases lock (system.past thread) := by
        rw [past]
        exact holding_of_opening kept
      have same := view_of_other calls_sectioned catalogNodes_isolates reached turn mine holding
      rw [IsCurrent, eq_of_view called same]
      exact stale kept

theorem Outdated.reaches {lock : Nat} {last : Threads Role Thread Stock Ended}
    (outdated : Outdated service spec request lock thread system)
    (reached : System.Reaches (Serves (catalogNodes calls))
      (begun (fun thread => (calls thread).program) stock) system)
    (called : calls thread = .mutation service spec body)
    (accepted : service.accept spec body = .ok request) (changes : request.action ≠ .create)
    (later : System.Reaches (Serves (catalogNodes calls)) system last) :
    Outdated service spec request lock thread last := by
  induction later with
  | refl => exact outdated
  | tail between step ih =>
      rcases step with ⟨actor, event, turn⟩
      exact ih.turn (reached.trans between) called accepted changes turn

/-- A call that has sent nothing has not succeeded. -/
theorem silent_fails {trace : Trace Role} {ended : Ended}
    (run : (ProcessCall.mutation service spec body).program.Yields trace ended)
    (silent : ∀ event ∈ trace, ¬ event.request.IsPost) : ∃ error, ended = .mutation (.error error) := by
  rcases Program.yields_bind_iff.mp run with ⟨front, ⟨outcome, after⟩, back, rfl, inner, last⟩
  rcases Program.yields_done_iff.mp last with ⟨rfl, rfl⟩
  cases outcome with
  | error error => exact ⟨error, rfl⟩
  | ok result =>
      change (service.mutate spec body).Run () front (.ok result) () at inner
      cases ManagementService.mutate_run inner with
      | @locked request target lock locked _ accepted targetEq inner =>
          cases inner with
          | @changed _ _ _ _ payload _ _ _ change =>
              cases change with
              | returned attempt =>
                  cases attempt with
                  | @finished reply =>
                      apply absurd trivial (silent (ManagementService.postEvent target payload reply) _)
                      simp

/-- Every update and every deletion changes the object that its revision was computed from. A call with
another revision, once it has its lock and has sent nothing, never sends anything and fails. -/
theorem mutations_serialized
    (reached : System.Reaches (Serves (catalogNodes calls))
      (begun (fun thread => (calls thread).program) stock) system)
    (called : calls thread = .mutation service spec body)
    (accepted : service.accept spec body = .ok request) (changes : request.action ≠ .create)
    (silent : ∀ event ∈ system.past thread, ¬ event.request.IsPost) :
    (∀ event next, System.Turn (Serves (catalogNodes calls)) system thread event next →
      event.request.IsPost → IsCurrent system.shared.objects service spec request) ∧
    (∀ lock, System.Holding acquires releases lock (system.past thread) →
      ¬ IsCurrent system.shared.objects service spec request →
      ∀ last, System.Reaches (Serves (catalogNodes calls)) system last →
        (∀ event ∈ last.past thread, ¬ event.request.IsPost) ∧
        ∀ ended, last.programs thread = .done ended → ∃ error, ended = .mutation (.error error)) := by
  constructor
  · intro event next turn post
    exact mutation_current reached called accepted changes turn post silent
  · intro lock holding stale last later
    have opened := opening_of_holding calls_sectioned reached holding
    rw [called] at opened
    rcases opened with ⟨late, past⟩
    have outdated : Outdated service spec request lock thread system := ⟨silent, late, past, fun _ => stale⟩
    have still := outdated.reaches reached called accepted changes later
    refine ⟨still.silent, fun ended returned => ?_⟩
    have reaches : System.Reaches (Serves (catalogNodes calls)) _ last := reached.trans later
    have run := reaches.steps thread
    rw [called, returned] at run
    exact silent_fails run still.silent

end Runtime

/-! ## Two updates of one object -/

section Lab

variable [Runtime]

open ManagementService (demoService demoSpec demoUpdate demoUuid demoRevision)

/-- Both threads make the same update. -/
def labCalls (_ : Bool) : ProcessCall := .mutation demoService demoSpec demoUpdate

def labKey : LockKey := demoService.lockKey demoSpec

def labStock : Stock := fun key uuid =>
  if key = labKey ∧ uuid = demoUuid then some (.obj [("name", .str "old")]) else none

def labDetail : Str := "/api/demo/settings/getItem/11111111-1111-4111-8111-111111111111"

def labSave : Str := "/api/demo/settings/setItem/11111111-1111-4111-8111-111111111111"

/-- A node that holds one object -/
def labServer (thread : Bool) (world : World Bool Stock) :
    (request : Request Role) → Option (Answer request × World Bool Stock)
  | .get _ path _ =>
      if path = labDetail then
        match world.objects labKey demoUuid with
        | some (.obj (head :: rest)) => some (.ok (.obj [("item", .obj (head :: rest))]), world)
        | _ => none
      else none
  | .post _ path _ =>
      if path = labSave then
        some (.ok (.obj [("result", .str "saved")]), { world with
          objects := fun key uuid =>
            if key = labKey ∧ uuid = demoUuid then some (.obj [("name", .str "new")])
            else world.objects key uuid })
      else some (.ok (.obj [("status", .str "ok")]), { world with objects := world.objects })
  | .append _ => some (.ok (), world)
  | .clock => some (⟨"2026-01-01T00:00:00+00:00", 0⟩, world)
  | .acquireGuard table =>
      if world.guards table = none then
        some ((), { world with guards := Function.update world.guards table (some thread) })
      else none
  | .lockFor table key =>
      match world.locks table key with
      | some lock => some (lock, world)
      | none =>
          if table = .managementLocks ∧ key = labKey then
            some (0, { world with locks := fun other name =>
              if other = table ∧ name = key then some 0 else world.locks other name })
          else none
  | .releaseGuard table =>
      if world.guards table = some thread then
        some ((), { world with guards := Function.update world.guards table none })
      else none
  | .acquire lock =>
      if world.holders lock = none then
        some ((), { world with holders := Function.update world.holders lock (some thread) })
      else none
  | .release lock =>
      if world.holders lock = some thread then
        some ((), { world with holders := Function.update world.holders lock none })
      else none

/-- The lock of the object is the only one that was made. -/
def LabWorld (world : World Bool Stock) : Prop :=
  ∀ table key lock, world.locks table key = some lock → table = .managementLocks ∧ key = labKey

omit [Runtime] in
theorem uuid_of_labDetail {uuid : Str} (known : path demoSpec demoSpec.get uuid = .ok labDetail) :
    uuid = demoUuid := by
  rcases path_eq_ok known with ⟨base, plain, same⟩
  cases plain
  cases uuid with
  | nil => exact absurd same (by decide)
  | cons head rest =>
      have whole : labDetail = "/api/demo/settings/getItem" ++ ("/" ++ demoUuid) := by decide
      rw [whole] at same
      exact (List.append_cancel_left (List.append_cancel_left same)).symm

omit [Runtime] in
theorem labServer_sound {thread : Bool} {world later : World Bool Stock} {request : Request Role}
    {answer : Answer request} (fits : LabWorld world)
    (served : labServer thread world request = some (answer, later)) :
    Serves (catalogNodes labCalls) thread world ⟨request, answer⟩ later ∧ LabWorld later := by
  cases request with
  | get role target params =>
      rw [labServer] at served
      split at served
      · rename_i detail
        subst detail
        split at served
        · rename_i head rest there
          cases served
          refine ⟨.get ?_, fits⟩
          intro uuid target value known same
          cases same
          cases uuid_of_labDetail known
          exact there
        · cases served
      · cases served
  | post role target body =>
      rw [labServer] at served
      split at served
      · cases served
        refine ⟨.post ?_, fits⟩
        intro key different
        funext uuid
        exact if_neg fun same => different same.1
      · cases served
        exact ⟨.post fun _ _ => rfl, fits⟩
  | append entry =>
      cases served
      exact ⟨.append, fits⟩
  | clock =>
      cases served
      exact ⟨.clock, fits⟩
  | acquireGuard table =>
      rw [labServer] at served
      split at served
      · rename_i free
        cases served
        exact ⟨.acquireGuard free, fits⟩
      · cases served
  | lockFor table key =>
      rw [labServer] at served
      split at served
      · rename_i lock known
        cases served
        exact ⟨.found known, fits⟩
      · rename_i missing
        split at served
        · rename_i asked
          rcases asked with ⟨rfl, rfl⟩
          cases served
          refine ⟨.made missing ?_, ?_⟩
          · intro other name taken
            rcases fits other name 0 taken with ⟨rfl, rfl⟩
            rw [missing] at taken
            cases taken
          · intro other name lock known
            by_cases same : other = .managementLocks ∧ name = labKey
            · exact same
            · exact fits other name lock ((if_neg same).symm.trans known)
        · cases served
  | releaseGuard table =>
      rw [labServer] at served
      split at served
      · rename_i held
        cases served
        exact ⟨.releaseGuard held, fits⟩
      · cases served
  | acquire lock =>
      rw [labServer] at served
      split at served
      · rename_i free
        cases served
        exact ⟨.acquire free, fits⟩
      · cases served
  | release lock =>
      rw [labServer] at served
      split at served
      · rename_i held
        cases served
        exact ⟨.release held, fits⟩
      · cases served

def labStart : Threads Role Bool Stock Ended := begun (fun thread => (labCalls thread).program) labStock

/-- The call of `true` has the guard behind it, and the call of `false` is about to save. -/
def labSaving : Threads Role Bool Stock Ended :=
  System.play (labServer false) false 8 (System.play (labServer true) true 3 labStart)

/-- The call of `false` has returned, and the call of `true` has the lock. -/
def labLate : Threads Role Bool Stock Ended :=
  System.play (labServer true) true 1 (System.play (labServer false) false 40 labSaving)

def labEnd : Threads Role Bool Stock Ended := System.play (labServer true) true 40 labLate

theorem lab_reaches (thread : Bool) (count : Nat) {system : Threads Role Bool Stock Ended}
    (reached : System.Reaches (Serves (catalogNodes labCalls)) labStart system)
    (fits : LabWorld system.shared) :
    System.Reaches (Serves (catalogNodes labCalls)) labStart
        (System.play (labServer thread) thread count system) ∧
      LabWorld (System.play (labServer thread) thread count system).shared := by
  have played : System.Reaches (Serves (catalogNodes labCalls)) system
      (System.play (labServer thread) thread count system) ∧
        LabWorld (System.play (labServer thread) thread count system).shared :=
    System.play_reaches labServer_sound fits
  exact ⟨reached.trans played.1, played.2⟩

theorem labSaving_reached : System.Reaches (Serves (catalogNodes labCalls)) labStart labSaving ∧
    LabWorld labSaving.shared := by
  rcases lab_reaches true 3 .refl nofun with ⟨reached, fits⟩
  exact lab_reaches _ _ reached fits

theorem labLate_reached : System.Reaches (Serves (catalogNodes labCalls)) labStart labLate ∧
    LabWorld labLate.shared := by
  rcases labSaving_reached with ⟨reached, fits⟩
  rcases lab_reaches false 40 reached fits with ⟨reached, fits⟩
  exact lab_reaches _ _ reached fits

theorem labEnd_reached : System.Reaches (Serves (catalogNodes labCalls)) labLate labEnd :=
  (System.play_reaches labServer_sound labLate_reached.2).1

end Lab

theorem silent_of_posts {trace : Trace Role} (nothing : posts trace = []) :
    ∀ event ∈ trace, ¬ event.request.IsPost := by
  intro event member post
  rcases event with ⟨request, answer⟩
  cases request with
  | post role target body =>
      have none := List.filterMap_eq_nil_iff.mp nothing _ member
      cases none
  | _ => exact post

/-- Whether a request is a POST -/
def labSends : Request Role → Bool
  | .post _ _ _ => true
  | _ => false

/-- When the first call saves, it has sent nothing; when the second has the lock, it has sent nothing,
and the object has another revision. Then the second returns. -/
theorem lab_states : (posts ((@labSaving Runtime.ascii).past false)).length = 0 ∧
    ((@labSaving Runtime.ascii).programs false).asks.any labSends = true ∧
    (posts ((@labLate Runtime.ascii).past true)).length = 0 ∧
    (since (releases 0) ((@labLate Runtime.ascii).past true)).any (acquires 0) = true ∧
    ((@labLate Runtime.ascii).shared.objects
      (ManagementService.demoService.lockKey ManagementService.demoSpec)
      ManagementService.demoRequest.uuid).bind
        (fun object => (@hashPayload Runtime.ascii (@selectedForm Runtime.ascii object)).toOption) ≠
          some ManagementService.demoRequest.revision ∧
    ((@labEnd Runtime.ascii).programs true).returned.isSome = true := by
  decide +kernel

theorem labSaving_silent : ∀ event ∈ (@labSaving Runtime.ascii).past false, ¬ event.request.IsPost :=
  silent_of_posts (List.length_eq_zero_iff.mp lab_states.1)

theorem labLate_silent : ∀ event ∈ (@labLate Runtime.ascii).past true, ¬ event.request.IsPost := by
  rcases lab_states with ⟨_, _, nothing, _⟩
  exact silent_of_posts (List.length_eq_zero_iff.mp nothing)

theorem labLate_holding : System.Holding acquires releases 0 ((@labLate Runtime.ascii).past true) := by
  rcases lab_states with ⟨_, _, _, taken, _⟩
  rcases List.any_eq_true.mp taken with ⟨event, member, acquired⟩
  exact ⟨event, member, acquired⟩

theorem labLate_stale : ¬ @IsCurrent Runtime.ascii (@labLate Runtime.ascii).shared.objects
    ManagementService.demoService ManagementService.demoSpec ManagementService.demoRequest := by
  rintro ⟨object, there, hashed⟩
  rcases lab_states with ⟨_, _, _, _, different, _⟩
  rw [there] at different
  exact different (congrArg Except.toOption hashed)

/-- The call of `false` saves the object as it has seen it. -/
theorem labSaving_turn : ∃ event next, System.Turn
    (@Serves Role Bool Stock _ (@catalogNodes Bool labCalls)) (@labSaving Runtime.ascii) false event next ∧
      event.request.IsPost := by
  rcases lab_states with ⟨_, sends, _⟩
  rcases (Option.any_eq_true ..).mp sends with ⟨request, asks, sent⟩
  cases request with
  | post role path body =>
      rcases Program.eq_ask asks with ⟨rest, waits⟩
      have served : Serves (catalogNodes labCalls) false (@labSaving Runtime.ascii).shared
          ⟨.post role path body, .ok (.arr [])⟩ (@labSaving Runtime.ascii).shared :=
        .post fun _ _ => rfl
      exact ⟨_, _, .intro waits served, trivial⟩
  | _ => cases sent

theorem labEnd_returned : ∃ ended, (@labEnd Runtime.ascii).programs true = .done ended := by
  rcases lab_states with ⟨_, _, _, _, _, returned⟩
  rcases Option.isSome_iff_exists.mp returned with ⟨ended, same⟩
  exact ⟨ended, Program.eq_done same⟩

/-- The second update was made for the object that the first one has replaced. -/
theorem mutations_serialized_lab :
    @IsCurrent Runtime.ascii (@labSaving Runtime.ascii).shared.objects ManagementService.demoService
        ManagementService.demoSpec ManagementService.demoRequest ∧
      (∀ event ∈ (@labEnd Runtime.ascii).past true, ¬ event.request.IsPost) ∧
      ∃ error, (@labEnd Runtime.ascii).programs true = .done (.mutation (.error error)) := by
  have saves := (@mutations_serialized Runtime.ascii Bool _ labCalls labStock (@labSaving Runtime.ascii)
    false _ _ _ ManagementService.demoRequest (@labSaving_reached Runtime.ascii).1 rfl rfl nofun
    labSaving_silent).1
  have waits := (@mutations_serialized Runtime.ascii Bool _ labCalls labStock (@labLate Runtime.ascii)
    true _ _ _ ManagementService.demoRequest (@labLate_reached Runtime.ascii).1 rfl rfl nofun
    labLate_silent).2
  rcases labSaving_turn with ⟨event, next, turn, post⟩
  rcases waits 0 labLate_holding labLate_stale (@labEnd Runtime.ascii) (@labEnd_reached Runtime.ascii) with
    ⟨silent, failed⟩
  rcases labEnd_returned with ⟨ended, returned⟩
  rcases failed ended returned with ⟨error, rfl⟩
  exact ⟨saves event next turn post, silent, error, returned⟩

end Sections

end OpnsensePlugin

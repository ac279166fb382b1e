import OpnsensePlugin.Writers.Exclusion

/-!
# Calls one after the other

A call that updates or deletes an object works alone on its pair of nodes, from its
first reading to its last. If its revision is not that of the object, it has nothing to
send, and what it reads before the change is the object it would have changed.
-/

namespace OpnsensePlugin

open Effects Python

namespace VerifiedFirewallWriter

variable [Runtime] {writer : VerifiedFirewallWriter} {action : WriteAction} {payload : Json}
  {uuid revision : Str} {late more done rest : Trace Role} {event : Exchange Role} {lock : Nat}
  {outcome : Except Exn ExecuteResult}

/-- The first thing that an update or a deletion sends is the change. -/
theorem LockedRun.first_post
    (run : LockedRun writer action payload uuid revision (done ++ event :: rest) outcome)
    (given : action ≠ .create) (nothing : posts done = []) (post : event.request.IsPost) :
    writer.Changes action uuid .client event := by
  have shape := run.posts_eq
  have first : ∀ {head tail}, ForwardPosts writer action payload uuid (head :: tail) →
      ∃ reply, head = writer.mutationPost action payload uuid reply := by
    intro head tail forward
    cases forward with
    | changed reply => exact ⟨reply, rfl⟩
    | applied => exact ⟨_, rfl⟩
    | synced => exact ⟨_, rfl⟩
  rcases event with ⟨request, answer⟩
  cases request with
  | post node path body =>
      rw [posts_append, nothing, List.nil_append, posts_post] at shape
      generalize posts rest = later at shape
      cases shape with
      | forward forward =>
          rcases first forward with ⟨reply, same⟩
          cases same
          exact ⟨_, rfl⟩
      | rolledBack create => exact absurd create given
  | _ => exact post.elim

/-- What comes after the opening is the work, and the release of the lock. -/
theorem SectionRun.inside
    (run : SectionRun writer action payload uuid revision (writer.opening lock ++ late) outcome) :
    ∃ valid locked start last, checkedUuid action uuid revision = .ok valid ∧
      (writer.executeLocked action payload valid revision).Run start locked outcome last ∧
      late = locked ++ [⟨.release lock, ()⟩] := by
  generalize whole : writer.opening lock ++ late = trace at run
  cases run with
  | invalid => simp [opening] at whole
  | @locked valid other locked _ start last validEq run =>
      have same : lock = other ∧ late = locked ++ [⟨.release other, ()⟩] := by
        simpa [opening] using whole
      rcases same with ⟨rfl, split⟩
      exact ⟨valid, locked, start, last, validEq, run, split⟩

theorem SectionRun.not_acquire
    (run : SectionRun writer action payload uuid revision (writer.opening lock ++ late) outcome)
    {other : Nat} : (⟨.acquire other, ()⟩ : Exchange Role) ∉ late := by
  intro member
  rcases run.inside with ⟨valid, locked, start, last, _, within, rfl⟩
  rcases List.mem_append.mp member with work | released
  · exact executeLocked_works _ _ _ _ within _ work
  · cases List.mem_singleton.mp released

end VerifiedFirewallWriter

namespace Concurrency

variable [Runtime] {Thread : Type} [DecidableEq Thread] {calls : Thread → Call}
  {objects : Str → Resource → Str → Option Json} {system first next last : Threads Thread}
  {thread actor : Thread} {event : Exchange Role} {lock : Nat} {uuid : Str} {object : Option Json}

theorem not_acquire_later (reached : System.Reaches (Serves calls) (begun calls objects) system)
    {late : Trace Role} (opened : system.past thread = (calls thread).writer.opening lock ++ late)
    {other : Nat} : (⟨.acquire other, ()⟩ : Exchange Role) ∉ late := by
  rcases reached.completes answer_nonempty thread with ⟨more, ⟨outcome, after⟩, run⟩
  rw [opened, List.append_assoc] at run
  intro member
  exact (VerifiedFirewallWriter.execute_section run).not_acquire
    (List.mem_append_left more member)

/-- A call that has sent nothing in its section, with the object that is on the node -/
structure Waiting (calls : Thread → Call) (thread : Thread) (lock : Nat) (uuid : Str)
    (object : Option Json) (system : Threads Thread) : Prop where
  opened : ∃ late, system.past thread = (calls thread).writer.opening lock ++ late
  nothing : posts (system.past thread) = []
  read : ∀ value, (calls thread).writer.checkEvent uuid value ∈ system.past thread →
    objectOf (calls thread).writer.resource value = object
  kept : System.Holding acquires releases lock (system.past thread) →
    system.shared.objects ((calls thread).url .client) (calls thread).writer.resource uuid = object

/-- A call in its section that has sent nothing yet -/
theorem waiting_of_holding (pair : SamePair calls)
    (reached : System.Reaches (Serves calls) (begun calls objects) system)
    (holding : System.Holding acquires releases lock (system.past thread))
    (nothing : posts (system.past thread) = []) :
    Waiting calls thread lock uuid (system.shared.objects ((calls thread).url .client)
      (calls thread).writer.resource uuid) system := by
  rcases opening_of_holding reached holding with ⟨late, opened⟩
  refine ⟨⟨late, opened⟩, nothing, ?_, fun _ => rfl⟩
  intro value member
  have inside : (calls thread).writer.checkEvent uuid value ∈ late := by
    rw [opened, List.mem_append] at member
    rcases member with early | inside
    · simp [VerifiedFirewallWriter.opening, VerifiedFirewallWriter.checkEvent] at early
    · exact inside
  rcases List.append_of_mem inside with ⟨before, after, split⟩
  have recent : (calls thread).writer.checkEvent uuid value ∈ since clears (system.past thread) := by
    rw [opened, split, ← List.append_assoc]
    apply mem_since
    · intro event member
      have within : event ∈ late := by simp [split, member]
      rcases event with ⟨request, answer⟩
      cases request with
      | post node path body =>
          have sent : (⟨node, path, body, answer⟩ : Post Role) ∈ posts (system.past thread) := by
            rw [opened, posts_append, List.mem_append]
            exact .inr (List.mem_filterMap.mpr ⟨_, within, rfl⟩)
          rw [nothing] at sent
          cases sent
      | acquire => exact absurd within (not_acquire_later reached opened)
      | _ => rfl
    · rfl
  exact (shown_since pair reached holding _ recent .client
    (calls thread).writer.resource uuid [] value rfl).symm

omit [DecidableEq Thread] in
theorem Waiting.lock_eq (waiting : Waiting calls thread lock uuid object system) {other : Nat}
    {done : Trace Role} (working : Working (calls thread) (system.past thread) event other done) :
    lock = other := by
  rcases waiting.opened with ⟨late, opened⟩
  have both := opened.symm.trans working.past
  simp only [VerifiedFirewallWriter.opening, List.cons_append, List.cons.injEq, Event.mk.injEq] at both
  exact eq_of_heq both.2.1.2

/-- What another call does -/
theorem Waiting.other_step (pair : SamePair calls)
    (reached : System.Reaches (Serves calls) (begun calls objects) system)
    (waiting : Waiting calls thread lock uuid object system)
    (turn : System.Turn (Serves calls) system actor event next) (different : thread ≠ actor) :
    Waiting calls thread lock uuid object next := by
  have past := turn.past_other different
  rcases waiting.opened with ⟨late, opened⟩
  refine ⟨⟨late, past.trans opened⟩, past ▸ waiting.nothing, past ▸ waiting.read, ?_⟩
  rw [past]
  intro held
  have quiet : ¬ event.request.IsPost := fun post =>
    different (exclusive pair reached turn post.isWork held).symm
  rw [turn.served.objects_eq quiet]
  exact waiting.kept held

section Stale

variable (valid : VerifiedFirewallWriter.checkedUuid (calls thread).action (calls thread).uuid
    (calls thread).revision = .ok uuid)
  (given : (calls thread).action ≠ .create)
  (stale : ∀ detail, object = some detail → hashPayload detail ≠ .ok (calls thread).revision)

include valid given stale

/-- A stale call has nothing to send. -/
theorem Waiting.silent (pair : SamePair calls)
    (reached : System.Reaches (Serves calls) (begun calls objects) system)
    (waiting : Waiting calls thread lock uuid object system)
    (turn : System.Turn (Serves calls) system thread event next) : ¬ event.request.IsPost := by
  intro post
  rcases turn_working reached turn post.isWork with ⟨other, done, working⟩
  cases waiting.lock_eq working
  rcases working.run with ⟨checked, rest, outcome, start, _, checkedEq, run⟩
  rw [valid] at checkedEq
  cases checkedEq
  have unsent : posts done = [] := by
    have nothing := waiting.nothing
    rw [working.past, posts_append, List.append_eq_nil_iff] at nothing
    exact nothing.2
  have changes := (VerifiedFirewallWriter.executeLocked_run run).first_post given unsent post
  rcases change_current pair reached turn valid given changes with ⟨detail, there, hashed⟩
  rw [waiting.kept (working_holding working)] at there
  exact stale detail there hashed

theorem Waiting.own_step (pair : SamePair calls)
    (reached : System.Reaches (Serves calls) (begun calls objects) system)
    (waiting : Waiting calls thread lock uuid object system)
    (turn : System.Turn (Serves calls) system thread event next) :
    Waiting calls thread lock uuid object next := by
  have quiet := waiting.silent valid given stale pair reached turn
  rcases waiting.opened with ⟨late, opened⟩
  have after : next.past thread = (calls thread).writer.opening lock ++ (late ++ [event]) := by
    rw [turn.past_self, opened, List.append_assoc]
  have same := turn.served.objects_eq quiet
  refine ⟨⟨_, after⟩, ?_, ?_, ?_⟩
  · rw [turn.past_self, posts_append, waiting.nothing, List.nil_append]
    exact posts_eq_nil (by simpa using quiet)
  · intro value member
    rw [turn.past_self, List.mem_append, List.mem_singleton] at member
    rcases member with before | now
    · exact waiting.read value before
    · subst now
      rcases turn_working reached turn trivial with ⟨other, done, working⟩
      cases waiting.lock_eq working
      have shown := turn.served.shown .client (calls thread).writer.resource uuid [] value rfl
      rw [same, waiting.kept (working_holding working)] at shown
      exact shown.symm
  · rw [turn.past_self, System.holding_concat, same]
    rintro ⟨_, taken | held⟩
    · rcases event with ⟨request, answer⟩
      cases request with
      | acquire =>
          exact absurd (List.mem_append_right late (List.mem_singleton_self _))
            (not_acquire_later (reached.trans turn.reaches) after)
      | _ => cases taken
    · exact waiting.kept held

/-- Whoever moves, a stale call stays one. -/
theorem Waiting.step (pair : SamePair calls)
    (reached : System.Reaches (Serves calls) (begun calls objects) system)
    (waiting : Waiting calls thread lock uuid object system)
    (turn : System.Turn (Serves calls) system actor event next) :
    Waiting calls thread lock uuid object next := by
  by_cases same : thread = actor
  · subst same
    exact waiting.own_step valid given stale pair reached turn
  · exact waiting.other_step pair reached turn same

theorem Waiting.steps (pair : SamePair calls)
    (reached : System.Reaches (Serves calls) (begun calls objects) system)
    (waiting : Waiting calls thread lock uuid object system)
    (later : System.Reaches (Serves calls) system last) :
    Waiting calls thread lock uuid object last := by
  induction later with
  | refl => exact waiting
  | tail before step ih =>
      rcases step with ⟨actor, event, turn⟩
      exact ih.step valid given stale pair (reached.trans before) turn

/-- What a stale call returns -/
theorem Waiting.returned (reached : System.Reaches (Serves calls) (begun calls objects) system)
    (waiting : Waiting calls thread lock uuid object system) {result : ExecuteResult}
    {attributes : Execution} (ended : system.programs thread = .done (.ok result, attributes)) :
    result.ok = false ∧ ((calls thread).writer.ReadsObject uuid (system.past thread) →
      result.error = some .conflict ∨ result.error = some .audit) := by
  have run := reached.steps thread
  rw [ended] at run
  rcases waiting.opened with ⟨late, opened⟩
  have nothing := waiting.nothing
  have read := waiting.read
  rw [opened] at run nothing read ⊢
  rcases (VerifiedFirewallWriter.execute_section run).inside with
    ⟨checked, locked, start, _, checkedEq, within, rfl⟩
  rw [valid] at checkedEq
  cases checkedEq
  simp only [posts_append, List.append_eq_nil_iff] at nothing
  have never : (calls thread).writer.NeverCurrent uuid (calls thread).revision locked := by
    intro value member revised
    have same := read value (by simp [member])
    rw [revisionOf] at revised
    cases decoded : detailOf (calls thread).writer.resource value with
    | error error =>
        rw [decoded] at revised
        cases revised
    | ok detail =>
        rw [objectOf, decoded] at same
        rw [decoded] at revised
        exact stale detail same.symm revised
  rcases VerifiedFirewallWriter.executeLocked_conflict within given nothing.2.1 never with
    ⟨failed, conflict⟩
  refine ⟨failed, ?_⟩
  rintro ⟨value, detail, member, found⟩
  apply conflict
  refine ⟨value, detail, ?_, found⟩
  simpa [VerifiedFirewallWriter.opening, VerifiedFirewallWriter.checkEvent] using member

end Stale

/-! ## Any number of calls -/

/-- Every change is a change of the object that the revision is of. A call with another
revision, once it has its lock and has sent nothing, never sends anything and never succeeds; if it
reads an object, that is a conflict. -/
theorem changes_serialized (pair : SamePair calls)
    (reached : System.Reaches (Serves calls) (begun calls objects) system) :
    (∀ thread event next uuid role, System.Turn (Serves calls) system thread event next →
      VerifiedFirewallWriter.checkedUuid (calls thread).action (calls thread).uuid
        (calls thread).revision = .ok uuid →
      (calls thread).action ≠ .create →
      (calls thread).writer.Changes (calls thread).action uuid role event →
        Current system.shared (calls thread) role uuid) ∧
    (∀ thread lock uuid, System.Holding acquires releases lock (system.past thread) →
      posts (system.past thread) = [] →
      VerifiedFirewallWriter.checkedUuid (calls thread).action (calls thread).uuid
        (calls thread).revision = .ok uuid →
      (calls thread).action ≠ .create →
      ¬ Current system.shared (calls thread) .client uuid →
      ∀ last, System.Reaches (Serves calls) system last →
        posts (last.past thread) = [] ∧
        ∀ result attributes, last.programs thread = .done (.ok result, attributes) →
          result.ok = false ∧ ((calls thread).writer.ReadsObject uuid (last.past thread) →
            result.error = some .conflict ∨ result.error = some .audit)) := by
  constructor
  · intro thread event next uuid role turn valid given changes
    exact change_current pair reached turn valid given changes
  · intro thread lock uuid holding nothing valid given stale last later
    have waiting : Waiting calls thread lock uuid _ system :=
      waiting_of_holding pair reached holding nothing
    have different : ∀ detail, system.shared.objects ((calls thread).url .client)
        (calls thread).writer.resource uuid = some detail →
          hashPayload detail ≠ .ok (calls thread).revision :=
      fun detail there hashed => stale ⟨detail, there, hashed⟩
    have still := waiting.steps valid given different pair reached later
    refine ⟨still.nothing, fun result attributes ended => ?_⟩
    exact still.returned valid given different (reached.trans later) ended

end Concurrency

/-! ## Two deletions of one alias -/

namespace Concurrency

section Lab

variable [Runtime]

def labUuid : Str := "11111111-2222-4333-8444-555555555555"

def labAlias : Json := .obj [("alias", .obj [("enabled", .str "1"), ("name", .str "Blocked")])]

def labRevision : Str := "cfa8c752bffcba469cc2353cde3641dce80c45d53707a392edcaa0d7974945c7"

def labWriter : VerifiedFirewallWriter where
  client := ⟨"edge-a", "https://a.test"⟩
  peer := some ⟨"edge-b", "https://b.test"⟩
  resource := .aliases
  actor := "admin"
  haVerifyAttempts := 1
  haSyncMode := .automatic
  attempts_pos := one_le_one_attempt
  attempts_le_ten := one_attempt_le_ten

def labIdle : Execution where
  syncPlan := none
  peerDeleteRevision := none
  result := .initial .delete []
  accepted := false
  uuid := []

/-- Both delete the alias with the revision they have seen. -/
def labCalls (_ : Bool) : Call where
  writer := labWriter
  action := .delete
  payload := .null
  uuid := labUuid
  revision := labRevision
  attributes := labIdle

def labObjects (url : Str) (resource : Resource) (uuid : Str) : Option Json :=
  if url = "https://a.test" ∧ resource = .aliases ∧ uuid = labUuid then
    objectOf .aliases labAlias
  else none

def labListing : Json := .obj [("rows", .arr []), ("total", .int 0)]

def labAcknowledged : Json := .obj [("result", .str "deleted")]

def labLock : LockKey := labWriter.lockKey

/-- A firewall whose alias is there until it is deleted -/
def labServer (thread : Bool) (world : World Bool) :
    (request : Request Role) → Option (Answer request × World Bool)
  | .get role path _ =>
      if path = labWriter.searchPath then some (.ok labListing, world)
      else if path = labWriter.detailPath labUuid then
        match world.objects ((labCalls thread).url role) .aliases labUuid with
        | some _ => some (.ok labAlias, world)
        | none => some (.ok (.arr []), world)
      else none
  | .post role path _ =>
      if path = labWriter.deletePath labUuid then
        some (.ok labAcknowledged, { world with
          objects := fun url resource uuid =>
            if url = (labCalls thread).url role ∧ resource = .aliases ∧ uuid = labUuid then none
            else world.objects url resource uuid })
      else some (.ok labAcknowledged, { world with objects := world.objects })
  | .append _ => some (.ok (), world)
  | .clock => some (⟨"2026-01-01T00:00:00+00:00", 0⟩, world)
  | .acquireGuard table =>
      if world.guards table = none then
        some ((), { world with guards := Function.update world.guards table (some thread) })
      else none
  | .lockFor table key =>
      match world.locks table key with
      | some lock => some (lock, world)
      | none =>
          if table = .writeLocks ∧ key = labLock then
            some (0, { world with locks := fun other name =>
              if other = table ∧ name = key then some 0 else world.locks other name })
          else none
  | .releaseGuard table =>
      if world.guards table = some thread then
        some ((), { world with guards := Function.update world.guards table none })
      else none
  | .acquire lock =>
      if world.holders lock = none then
        some ((), { world with holders := Function.update world.holders lock (some thread) })
      else none
  | .release lock =>
      if world.holders lock = some thread then
        some ((), { world with holders := Function.update world.holders lock none })
      else none

/-- The lock of the pair is the only one that was made, and no node has another alias. -/
structure LabWorld (world : World Bool) : Prop where
  locks : ∀ table key lock, world.locks table key = some lock → table = .writeLocks ∧ key = labLock
  objects : ∀ url, world.objects url .aliases labUuid = none ∨
    world.objects url .aliases labUuid = objectOf .aliases labAlias

omit [Runtime] in
theorem objectPath_lab {resource : Resource} {uuid : Str}
    (same : labWriter.detailPath labUuid = objectPath resource uuid) :
    resource = .aliases ∧ uuid = labUuid := by
  simp only [VerifiedFirewallWriter.detailPath, VerifiedFirewallWriter.spec, objectPath,
    List.append_assoc] at same
  cases resource with
  | aliases => exact ⟨rfl, (by simpa [labWriter] using same.symm)⟩
  | _ => simp [labWriter, Resource.spec, Str.ofString, code] at same

omit [Runtime] in
theorem searchPath_ne_objectPath {resource : Resource} {uuid : Str} :
    labWriter.searchPath ≠ objectPath resource uuid := by
  intro same
  simp only [VerifiedFirewallWriter.searchPath, VerifiedFirewallWriter.spec, objectPath,
    List.append_assoc] at same
  cases resource <;> simp [labWriter, Resource.spec, Str.ofString, code] at same

theorem labServer_sound {thread : Bool} {world later : World Bool} {request : Request Role}
    {answer : Answer request} (fits : LabWorld world)
    (served : labServer thread world request = some (answer, later)) :
    Serves labCalls thread world ⟨request, answer⟩ later ∧ LabWorld later := by
  cases request with
  | get role path params =>
      rw [labServer] at served
      split at served
      · rename_i searches
        cases served
        refine ⟨.get ?_, fits⟩
        rintro resource uuid value rfl _
        exact absurd searches.symm searchPath_ne_objectPath
      · split at served
        · rename_i reads
          subst reads
          split at served
          · rename_i detail there
            cases served
            refine ⟨.get ?_, fits⟩
            intro resource uuid value same answered
            rcases objectPath_lab same with ⟨rfl, rfl⟩
            cases answered
            rcases fits.objects ((labCalls thread).url role) with gone | kept
            · rw [gone] at there
              cases there
            · exact kept
          · rename_i gone
            cases served
            refine ⟨.get ?_, fits⟩
            intro resource uuid value same answered
            rcases objectPath_lab same with ⟨rfl, rfl⟩
            cases answered
            exact gone
        · cases served
  | post role path body =>
      rw [labServer] at served
      split at served
      · cases served
        refine ⟨.post, fits.locks, fun url => ?_⟩
        change (if _ then _ else _) = _ ∨ (if _ then _ else _) = _
        split
        · exact .inl rfl
        · exact fits.objects url
      · cases served
        exact ⟨.post, fits⟩
  | append entry =>
      cases served
      exact ⟨.append, fits⟩
  | clock =>
      cases served
      exact ⟨.clock, fits⟩
  | acquireGuard table =>
      rw [labServer] at served
      split at served
      · rename_i free
        cases served
        exact ⟨.acquireGuard free, fits.locks, fits.objects⟩
      · cases served
  | lockFor table key =>
      rw [labServer] at served
      split at served
      · rename_i lock known
        cases served
        exact ⟨.found known, fits⟩
      · rename_i missing
        split at served
        · rename_i asked
          rcases asked with ⟨rfl, rfl⟩
          cases served
          refine ⟨.made missing ?_, ?_, fits.objects⟩
          · intro other name taken
            rcases fits.locks other name 0 taken with ⟨rfl, rfl⟩
            rw [missing] at taken
            cases taken
          · intro other name lock known
            change (if _ then _ else _) = _ at known
            split at known
            · rename_i same
              exact same
            · exact fits.locks other name lock known
        · cases served
  | releaseGuard table =>
      rw [labServer] at served
      split at served
      · rename_i held
        cases served
        exact ⟨.releaseGuard held, fits.locks, fits.objects⟩
      · cases served
  | acquire lock =>
      rw [labServer] at served
      split at served
      · rename_i free
        cases served
        exact ⟨.acquire free, fits.locks, fits.objects⟩
      · cases served
  | release lock =>
      rw [labServer] at served
      split at served
      · rename_i held
        cases served
        exact ⟨.release held, fits.locks, fits.objects⟩
      · cases served

def labStart : Threads Bool := begun labCalls labObjects

/-- The call of `true` has the guard behind it, and the call of `false` is about to delete. -/
def labDeleting : Threads Bool :=
  System.play (labServer false) false 8 (System.play (labServer true) true 3 labStart)

/-- The call of `false` has returned, and the call of `true` has the lock. -/
def labLate : Threads Bool :=
  System.play (labServer true) true 1 (System.play (labServer false) false 40 labDeleting)

def labEnd : Threads Bool := System.play (labServer true) true 40 labLate

theorem labStart_fits : LabWorld (labStart.shared) where
  locks := nofun
  objects url := by
    change (if _ then _ else _) = _ ∨ (if _ then _ else _) = _
    split
    · exact .inr rfl
    · exact .inl rfl

theorem lab_reaches (thread : Bool) (count : Nat) {system : Threads Bool}
    (reached : System.Reaches (Serves labCalls) labStart system) (fits : LabWorld system.shared) :
    System.Reaches (Serves labCalls) labStart (System.play (labServer thread) thread count system) ∧
      LabWorld (System.play (labServer thread) thread count system).shared := by
  have played : System.Reaches (Serves labCalls) system
      (System.play (labServer thread) thread count system) ∧
        LabWorld (System.play (labServer thread) thread count system).shared :=
    System.play_reaches labServer_sound fits
  exact ⟨reached.trans played.1, played.2⟩

theorem labDeleting_reached : System.Reaches (Serves labCalls) labStart labDeleting ∧
    LabWorld labDeleting.shared := by
  rcases lab_reaches true 3 .refl labStart_fits with ⟨reached, fits⟩
  exact lab_reaches _ _ reached fits

theorem labLate_reached : System.Reaches (Serves labCalls) labStart labLate ∧
    LabWorld labLate.shared := by
  rcases labDeleting_reached with ⟨reached, fits⟩
  rcases lab_reaches false 40 reached fits with ⟨reached, fits⟩
  exact lab_reaches _ _ reached fits

theorem labEnd_reached : System.Reaches (Serves labCalls) labLate labEnd :=
  (System.play_reaches labServer_sound labLate_reached.2).1

omit [Runtime] in
theorem labPair : SamePair labCalls :=
  ⟨"https://a.test", "https://b.test", fun _ => .inl ⟨rfl, rfl⟩⟩

end Lab

/-- Where a request posts to -/
def labPosted : Request Role → Option (Role × Str)
  | .post role path _ => some (role, path)
  | _ => none

/-- The first call is about to delete. The second has the lock and has sent nothing, and the alias is gone;
at the end it has failed. -/
theorem lab_states :
    ((@labDeleting Runtime.ascii).programs false).asks.bind labPosted =
      some (.client, labWriter.mutationPath .delete labUuid) ∧
    (@VerifiedFirewallWriter.checkedUuid Runtime.ascii .delete labUuid labRevision).toOption =
      some labUuid ∧
    (since (releases 0) ((@labLate Runtime.ascii).past true)).any (acquires 0) = true ∧
    (posts ((@labLate Runtime.ascii).past true)).length = 0 ∧
    ((@labLate Runtime.ascii).shared.objects ((labCalls true).url .client)
      (labCalls true).writer.resource labUuid).isNone = true ∧
    (((@labEnd Runtime.ascii).programs true).returned.bind fun outcome =>
      outcome.1.toOption.map ExecuteResult.error) = some (some .upstream) := by
  decide +kernel

theorem labLate_holding : System.Holding acquires releases 0 ((@labLate Runtime.ascii).past true) := by
  rcases lab_states with ⟨_, _, taken, _⟩
  rcases List.any_eq_true.mp taken with ⟨event, member, acquired⟩
  exact ⟨event, member, acquired⟩

theorem labLate_silent : posts ((@labLate Runtime.ascii).past true) = [] := by
  rcases lab_states with ⟨_, _, _, nothing, _⟩
  exact List.length_eq_zero_iff.mp nothing

theorem labLate_stale :
    ¬ @Current Runtime.ascii Bool (@labLate Runtime.ascii).shared (labCalls true) .client labUuid := by
  rintro ⟨detail, there, _⟩
  rcases lab_states with ⟨_, _, _, _, gone, _⟩
  rw [there] at gone
  cases gone

theorem labEnd_returned : ∃ result attributes,
    (@labEnd Runtime.ascii).programs true = .done (.ok result, attributes) ∧
      result.error = some .upstream := by
  rcases lab_states with ⟨_, _, _, _, _, returned⟩
  rcases Option.bind_eq_some_iff.mp returned with ⟨⟨outcome, attributes⟩, ended, failed⟩
  cases outcome with
  | error error => cases failed
  | ok result => exact ⟨result, attributes, Program.eq_done ended, Option.some.inj failed⟩

theorem lab_valid : @VerifiedFirewallWriter.checkedUuid Runtime.ascii .delete labUuid labRevision =
    .ok labUuid := by
  rcases lab_states with ⟨_, checked, _⟩
  cases result : @VerifiedFirewallWriter.checkedUuid Runtime.ascii .delete labUuid labRevision with
  | ok uuid =>
      rw [result] at checked
      exact congrArg _ (Option.some.inj checked)
  | error error =>
      rw [result] at checked
      cases checked

/-- The call of `false` deletes the alias as it has seen it. -/
theorem labDeleting_turn : ∃ event next,
    System.Turn (@Serves Runtime.ascii Bool labCalls) (@labDeleting Runtime.ascii) false event next ∧
      labWriter.Changes .delete labUuid .client event := by
  rcases lab_states with ⟨sends, _⟩
  rcases Option.bind_eq_some_iff.mp sends with ⟨request, asks, sent⟩
  cases request with
  | post role path body =>
      cases sent
      rcases Program.eq_ask asks with ⟨rest, waits⟩
      have served : @Serves Runtime.ascii Bool labCalls false (@labDeleting Runtime.ascii).shared
          ⟨.post .client (labWriter.mutationPath .delete labUuid) body, .ok labAcknowledged⟩
          (@labDeleting Runtime.ascii).shared := @Serves.post Runtime.ascii _ _ _ _ _ _ _ _ _
      exact ⟨_, _, .intro waits served, ⟨body, rfl⟩⟩
  | _ => cases sent

/-- The alias that the second call was to delete is gone, and this is not a conflict. -/
theorem changes_serialized_lab :
    @Current Runtime.ascii Bool (@labDeleting Runtime.ascii).shared (labCalls false) .client labUuid ∧
      posts ((@labEnd Runtime.ascii).past true) = [] ∧ ∃ result attributes,
        (@labEnd Runtime.ascii).programs true = .done (.ok result, attributes) ∧ result.ok = false := by
  have first := (@changes_serialized Runtime.ascii Bool _ labCalls (@labObjects Runtime.ascii)
    (@labDeleting Runtime.ascii) labPair (@labDeleting_reached Runtime.ascii).1).1
  have second := (@changes_serialized Runtime.ascii Bool _ labCalls (@labObjects Runtime.ascii)
    (@labLate Runtime.ascii) labPair (@labLate_reached Runtime.ascii).1).2
  rcases labDeleting_turn with ⟨event, next, turn, changes⟩
  have ended := second true 0 labUuid labLate_holding labLate_silent lab_valid nofun labLate_stale
    (@labEnd Runtime.ascii) (@labEnd_reached Runtime.ascii)
  rcases labEnd_returned with ⟨result, attributes, returned, _⟩
  exact ⟨first false event next labUuid .client turn lab_valid nofun changes, ended.1, result,
    attributes, returned, (ended.2 result attributes returned).1⟩

/-- Not every stale call that returns a result returns a conflict. -/
theorem stale_without_conflict :
    ¬ ∀ (calls : Bool → Call) (objects : Str → Resource → Str → Option Json)
      (system last : Threads Bool) (thread : Bool) (lock : Nat) (uuid : Str)
      (result : ExecuteResult) (attributes : Execution),
      SamePair calls →
      System.Reaches (@Serves Runtime.ascii Bool calls) (@begun Runtime.ascii Bool calls objects) system →
      System.Holding acquires releases lock (system.past thread) →
      posts (system.past thread) = [] →
      @VerifiedFirewallWriter.checkedUuid Runtime.ascii (calls thread).action (calls thread).uuid
        (calls thread).revision = .ok uuid →
      (calls thread).action ≠ .create →
      ¬ @Current Runtime.ascii Bool system.shared (calls thread) .client uuid →
      System.Reaches (@Serves Runtime.ascii Bool calls) system last →
      last.programs thread = .done (.ok result, attributes) → result.error = some .conflict := by
  intro claimed
  rcases labEnd_returned with ⟨result, attributes, returned, failed⟩
  have conflict := claimed labCalls (@labObjects Runtime.ascii) (@labLate Runtime.ascii)
    (@labEnd Runtime.ascii) true 0 labUuid result attributes labPair
    (@labLate_reached Runtime.ascii).1 labLate_holding labLate_silent lab_valid nofun labLate_stale
    (@labEnd_reached Runtime.ascii) returned
  rw [failed] at conflict
  cases conflict

end Concurrency

end OpnsensePlugin

import OpnsensePlugin.Effects.Interleaving
import OpnsensePlugin.Writers.PeerCleanup
import OpnsensePlugin.Writers.Revisions

/-!
# What runs under the lock

`_execute` reads, posts, records and looks at the clock; all that has to do with locks
is done by `execute`, before and after. Each change follows a reading of the object
that has the requested revision, with no other change of its own in between.
-/

namespace OpnsensePlugin

open Effects Python

/-- A request that has nothing to do with locks -/
def Request.IsWork {Node : Type} : Request Node → Prop
  | .get _ _ _ | .post _ _ _ | .append _ | .clock => True
  | .acquireGuard _ | .lockFor _ _ | .releaseGuard _ | .acquire _ | .release _ => False

theorem Request.IsPost.isWork {Node : Type} {request : Request Node} (post : request.IsPost) :
    request.IsWork := by
  cases request with
  | post => trivial
  | _ => exact post.elim

namespace VerifiedFirewallWriter

section Work

variable [Runtime] {writer : VerifiedFirewallWriter} {action : WriteAction} {payload : Json}
  {uuid revision : Str} {expected : Option Json} {plan : Option SyncPlan} {State α : Type}

/-! ## No locks -/

omit [Runtime] in
theorem reads_work {code : Py Role State α}
    (reads : Action.Ensures (Action.Observes Request.IsGet) code) :
    Action.Ensures (Action.Requests Request.IsWork) code := by
  intro before trace outcome after run event member
  have get := (reads before trace outcome after run).2 event member
  rcases event with ⟨request, answer⟩
  cases request with
  | get => trivial
  | _ => exact get.elim

omit [Runtime] in
theorem ask_works {request : Request Role} (work : request.IsWork) :
    Action.Ensures (Action.Requests Request.IsWork)
      (Action.ask request : Py Role State (Answer request)) :=
  Action.ensures_ask fun _ _ => by simpa [Action.Requests] using work

omit [Runtime] in
theorem auditAppend_works {entry : AuditEntry} :
    Action.Ensures (Action.Requests Request.IsWork) (auditAppend entry : Py Role State Unit) :=
  Action.ensures_bind (ask_works trivial) fun _ => Action.ensures_ofExcept

omit [Runtime] in
theorem auditRecord_works {entry : Clock → AuditEntry} :
    Action.Ensures (Action.Requests Request.IsWork) (auditRecord entry : Py Role State Unit) :=
  Action.ensures_bind (ask_works trivial) fun _ => auditAppend_works

theorem acknowledged_works {role : Role} {path operation : Str} {body : Json} :
    Action.Ensures (Action.Requests Request.IsWork)
      (acknowledged role path body operation : Py Role State (List (Str × Json))) := by
  refine Action.ensures_bind ?_ fun _ => Action.ensures_ofExcept
  exact Action.ensures_bind (ask_works trivial) fun _ => Action.ensures_ofExcept

theorem apply_works : Action.Ensures (Action.Requests Request.IsWork)
    (writer.apply : Py Role State Unit) :=
  Action.ensures_bind acknowledged_works fun _ => Action.ensures_pure

theorem deleteOnPeer_works :
    Action.Ensures (Action.Requests Request.IsWork) (writer.deleteOnPeer revision uuid) := by
  refine Action.ensures_bind auditRecord_works fun _ => ?_
  refine Action.ensures_bind Action.requests_modifyState fun _ => ?_
  refine Action.ensures_bind acknowledged_works fun _ => ?_
  refine Action.ensures_bind Action.requests_modifyState fun _ => ?_
  refine Action.ensures_bind acknowledged_works fun _ => ?_
  refine Action.ensures_bind Action.requests_modifyState fun _ => ?_
  refine Action.ensures_bind (reads_work absentOnBoth_observes) fun absent => ?_
  exact Action.ensures_bind Action.requests_modifyState fun _ => Action.requests_modifyState

theorem finishLastDnatDelete_works : Action.Ensures (Action.Requests Request.IsWork)
    (writer.finishLastDnatDelete plan revision uuid) := by
  refine Action.ensures_bind Action.requests_modifyState fun _ => ?_
  refine Action.ensures_bind (Action.ensures_attempt ?_) fun outcome => ?_
  · exact Action.ensures_bind (reads_work confirmCleanup_observes) fun _ => deleteOnPeer_works
  · cases outcome with
    | ok value => exact Action.ensures_pure
    | error error => exact Action.requests_modifyState

theorem observe_works {qualified : Option Str} : Action.Ensures (Action.Requests Request.IsWork)
    (writer.observe plan qualified uuid expected) := by
  refine Action.ensures_bind ?_ fun converged => ?_
  · intro before trace outcome after run event member
    have get := poll_requests before trace outcome after run event member
    rcases event with ⟨request, answer⟩
    cases request with
    | get => trivial
    | _ => exact get.elim
  · split
    · exact finishLastDnatDelete_works
    · exact Action.ensures_pure

theorem triggerSync_works :
    Action.Ensures (Action.Requests Request.IsWork) (writer.triggerSync plan) := by
  refine Action.ensures_bind (reads_work syncPreflight_observes) fun again => ?_
  refine Action.ensures_bind Action.ensures_raiseIf fun _ => ?_
  refine Action.ensures_bind Action.requests_modifyState fun _ => ?_
  exact Action.ensures_bind acknowledged_works fun _ => Action.ensures_pure

theorem syncPeer_works {qualified : Option Str} : Action.Ensures (Action.Requests Request.IsWork)
    (writer.syncPeer plan qualified uuid expected) := by
  unfold syncPeer
  split
  · exact observe_works
  · refine Action.ensures_bind (Action.ensures_attempt triggerSync_works) fun triggered => ?_
    cases triggered with
    | ok value => exact observe_works
    | error error => exact Action.requests_modifyState

theorem sync_works :
    Action.Ensures (Action.Requests Request.IsWork) (writer.sync uuid expected) := by
  unfold sync
  split
  · exact Action.ensures_pure
  · refine Action.ensures_bind Action.ensures_readState fun execution => ?_
    exact Action.ensures_bind (Action.observes_withState syncPeer_works).requests fun _ =>
      Action.ensures_pure

theorem checkRevision_works :
    Action.Ensures (Action.Requests Request.IsWork) (writer.checkRevision action uuid revision) := by
  refine Action.ensures_bind (reads_work get_observes) fun current => ?_
  refine Action.ensures_bind Action.ensures_ofExcept fun hash => ?_
  refine Action.ensures_bind Action.ensures_raiseIf fun _ => ?_
  refine Action.ensures_bind (reads_work deletesLast_observes) fun last => ?_
  split
  · refine Action.ensures_bind (reads_work get_observes) fun detail => ?_
    refine Action.ensures_bind Action.ensures_ofExcept fun hash => ?_
    refine Action.ensures_bind (reads_work sameOnPeer_observes) fun same => ?_
    exact Action.ensures_bind Action.ensures_raiseIf fun _ => Action.requests_modifyState
  · exact Action.ensures_pure

theorem prepare_works :
    Action.Ensures (Action.Requests Request.IsWork) (writer.prepare action payload uuid revision) := by
  refine Action.ensures_bind ?_ fun _ => ?_
  · exact Action.ensures_bind Action.ensures_ofExcept fun _ => auditRecord_works
  refine Action.ensures_bind (reads_work syncPreflight_observes) fun plan => ?_
  refine Action.ensures_bind Action.requests_modifyState fun _ => ?_
  split
  · exact Action.ensures_pure
  · exact checkRevision_works

theorem mutate_works :
    Action.Ensures (Action.Requests Request.IsWork) (writer.mutate action payload uuid) := by
  refine Action.ensures_bind acknowledged_works fun response => ?_
  refine Action.ensures_bind ?_ fun _ => Action.requests_modifyState
  unfold adoptUuid
  split
  · exact Action.ensures_bind Action.ensures_ofExcept fun _ => Action.requests_modifyState
  · exact Action.ensures_pure

theorem applyVerified_works :
    Action.Ensures (Action.Requests Request.IsWork) (writer.applyVerified expected) := by
  refine Action.ensures_bind apply_works fun _ => ?_
  refine Action.ensures_bind Action.requests_modifyState fun _ => ?_
  refine Action.ensures_bind Action.ensures_readState fun execution => ?_
  refine Action.ensures_bind (reads_work verify_observes) fun same => ?_
  exact Action.ensures_bind Action.ensures_raiseIf fun _ => Action.requests_modifyState

theorem attemptWrite_works : Action.Ensures (Action.Requests Request.IsWork)
    (writer.attemptWrite action payload uuid revision expected) := by
  refine Action.ensures_bind prepare_works fun _ => ?_
  refine Action.ensures_bind mutate_works fun _ => ?_
  refine Action.ensures_bind applyVerified_works fun _ => ?_
  refine Action.ensures_bind Action.ensures_readState fun execution => ?_
  exact Action.ensures_bind sync_works fun _ => Action.requests_modifyState

theorem rollback_works : Action.Ensures (Action.Requests Request.IsWork) writer.rollback := by
  refine Action.ensures_bind Action.ensures_readState fun execution => ?_
  refine Action.ensures_bind acknowledged_works fun _ => ?_
  refine Action.ensures_bind apply_works fun _ => ?_
  refine Action.ensures_bind (reads_work verify_observes) fun absent => ?_
  refine Action.ensures_bind Action.requests_modifyState fun _ => ?_
  exact Action.ensures_bind sync_works fun _ => Action.requests_modifyState

theorem settle_works {outcome : Except Exn Unit} :
    Action.Ensures (Action.Requests Request.IsWork) (writer.settle action outcome) := by
  cases outcome with
  | ok value => exact Action.ensures_pure
  | error error =>
      refine Action.ensures_bind Action.requests_modifyState fun _ => ?_
      refine Action.ensures_bind Action.ensures_readState fun execution => ?_
      split
      · refine Action.ensures_bind Action.requests_modifyState fun _ => ?_
        refine Action.ensures_bind (Action.ensures_attempt rollback_works) fun outcome => ?_
        cases outcome with
        | ok value => exact Action.ensures_pure
        | error error => exact Action.requests_modifyState
      · exact Action.ensures_pure

theorem auditFinal_works {started : Clock} :
    Action.Ensures (Action.Requests Request.IsWork) (writer.auditFinal action payload started) := by
  refine Action.ensures_bind Action.ensures_readState fun execution => ?_
  refine Action.ensures_bind Action.ensures_ofExcept fun hash => ?_
  refine Action.ensures_bind (ask_works trivial) fun now => ?_
  refine Action.ensures_bind (Action.ensures_attempt auditAppend_works) fun stored => ?_
  cases stored with
  | ok value => exact Action.requests_modifyState
  | error error => exact Action.requests_modifyState

/-- `_execute` leaves the locks alone. -/
theorem executeLocked_works : Action.Ensures (Action.Requests Request.IsWork)
    (writer.executeLocked action payload uuid revision) := by
  refine Action.ensures_bind (ask_works trivial) fun started => ?_
  refine Action.ensures_bind Action.requests_modifyState fun _ => ?_
  refine Action.ensures_bind Action.ensures_ofExcept fun expected => ?_
  refine Action.ensures_bind (Action.ensures_attempt attemptWrite_works) fun outcome => ?_
  refine Action.ensures_bind settle_works fun _ => ?_
  refine Action.ensures_bind auditFinal_works fun _ => ?_
  exact Action.ensures_bind Action.ensures_readState fun _ => Action.ensures_pure

end Work

/-! ## Changes follow readings -/

section Readings

variable [Runtime] {writer : VerifiedFirewallWriter} {action : WriteAction} {payload : Json}
  {uuid revision : Str} {expected : Option Json} {before after : Execution} {role : Role}
  {front back trace : Trace Role}

/-- A POST that sets or deletes the object on the node -/
def Changes (writer : VerifiedFirewallWriter) (action : WriteAction) (uuid : Str) (role : Role)
    (event : Exchange Role) : Prop :=
  ∃ body, event.request = .post role (writer.mutationPath action uuid) body

/-- The object was read with the revision, and nothing was sent since. -/
def ReadsRevision (writer : VerifiedFirewallWriter) (role : Role) (uuid revision : Str)
    (front : Trace Role) : Prop :=
  ∃ early late value, front = early ++ ⟨.get role (writer.detailPath uuid) [], .ok value⟩ :: late ∧
    revisionOf writer.resource value = .ok revision ∧ ∀ event ∈ late, ¬ event.request.IsPost

theorem ReadsRevision.skip (reads : writer.ReadsRevision role uuid revision back) :
    writer.ReadsRevision role uuid revision (front ++ back) := by
  rcases reads with ⟨early, late, value, rfl, same, quiet⟩
  exact ⟨front ++ early, late, value, by simp, same, quiet⟩

theorem ReadsRevision.extend (reads : writer.ReadsRevision role uuid revision front)
    (silent : ∀ event ∈ back, ¬ event.request.IsPost) :
    writer.ReadsRevision role uuid revision (front ++ back) := by
  rcases reads with ⟨early, late, value, rfl, same, quiet⟩
  exact ⟨early, late ++ back, value, by simp, same, List.forall_mem_append.mpr ⟨quiet, silent⟩⟩

theorem HasRevision.reads (revised : writer.HasRevision role uuid revision front) :
    writer.ReadsRevision role uuid revision front := by
  rcases revised with ⟨State, state, detail, last, run, hashed⟩
  change (writer.get uuid role : Py Role State Json).Run state front (.ok detail) last at run
  rw [get, Action.run_bind_ok] at run
  rcases run with ⟨reading, answer, middle, rest, rfl, asked, run⟩
  rw [run_clientGet] at asked
  rcases asked with ⟨reply, rfl, received, rfl⟩
  rw [eq_comm, received_eq_ok] at received
  rw [Action.run_ofExcept] at run
  rcases run with ⟨rfl, found, _⟩
  subst received
  refine ⟨[], [], answer, rfl, ?_, nofun⟩
  rw [revisionOf, ← found]
  exact hashed

/-- A reading among other readings -/
theorem reads_of_inOrder {earlier : List (Trace Role → Prop)}
    (ordered : InOrder (earlier ++ [writer.HasRevision role uuid revision]) front)
    (quiet : ∀ event ∈ front, ¬ event.request.IsPost) :
    writer.ReadsRevision role uuid revision front := by
  rcases ordered.right with ⟨skipped, found, rest, rfl, revised, _⟩
  simp only [List.forall_mem_append] at quiet
  exact (HasRevision.reads revised).extend quiet.2.2 |>.skip

omit [Runtime] in
theorem applyPath_ne_mutationPath : writer.applyPath ≠ writer.mutationPath action uuid := by
  intro same
  simp only [applyPath, mutationPath, List.append_assoc] at same
  have rest := List.append_cancel_left (List.append_cancel_left same)
  cases kind : writer.resource <;> cases action <;>
    simp [spec, kind, Resource.spec, WriteAction.verb, Str.ofString, code] at rest

omit [Runtime] in
theorem changes_post (changes : writer.Changes action uuid role ⟨.post other path body, reply⟩) :
    other = role ∧ path = writer.mutationPath action uuid := by
  rcases changes with ⟨_, same⟩
  cases same
  exact ⟨rfl, rfl⟩

omit [Runtime] in
theorem Changes.isPost {event : Exchange Role} (changes : writer.Changes action uuid role event) :
    event.request.IsPost := by
  rcases changes with ⟨body, same⟩
  rw [same]
  trivial

omit [Runtime] in
theorem not_changes_of_quiet (quiet : ∀ event ∈ front, ¬ event.request.IsPost) :
    ∀ event ∈ front, ¬ writer.Changes action uuid role event :=
  fun event member changes => quiet event member changes.isPost

omit [Runtime] in
theorem not_changes_of_reads (reads : ∀ event ∈ front, event.request.IsGet) :
    ∀ event ∈ front, ¬ writer.Changes action uuid role event :=
  not_changes_of_quiet fun event member => (reads event member).not_post

omit [Runtime] in
theorem apply_not_changes {other : Role} {body : Json} {reply : Reply} :
    ¬ writer.Changes action uuid role ⟨.post other writer.applyPath body, reply⟩ :=
  fun changes => applyPath_ne_mutationPath (changes_post changes).2

omit [Runtime] in
theorem restart_not_changes {reply : Reply} :
    ¬ writer.Changes action uuid role (restartEvent reply) := by
  rintro ⟨body, same⟩
  apply @mutationPath_not_restart writer uuid role action body
  rw [← same]
  rfl

/-- The deletion on the peer, with nothing sent before it -/
theorem PeerDeletion.guarded_change {outcome : Except Exn Unit} {absent : Bool}
    (deletion : PeerDeletion writer revision uuid trace outcome absent) :
    Guarded (writer.Changes action uuid role)
      (fun front => role = .peer ∧ ∀ event ∈ front, ¬ event.request.IsPost) trace := by
  cases deletion with
  | unrecorded quiet => exact .of_none (not_changes_of_quiet quiet)
  | refused quiet recorded =>
      rw [guarded_append, guarded_singleton, List.append_nil]
      exact ⟨.of_none (not_changes_of_quiet quiet),
        fun changes => ⟨(changes_post changes).1.symm, quiet⟩⟩
  | changed quiet recorded acknowledged reads confirmed =>
      rw [guarded_append, guarded_cons, guarded_cons, List.append_nil]
      exact ⟨.of_none (not_changes_of_quiet quiet),
        fun changes => ⟨(changes_post changes).1.symm, quiet⟩,
        fun changes => absurd changes apply_not_changes, .of_none (not_changes_of_reads reads)⟩

theorem CleanupRun.guarded_change {plan : Option SyncPlan} {verified : Bool}
    (cleanup : CleanupRun writer plan revision uuid trace verified) :
    Guarded (writer.Changes action uuid role)
      (fun front => role = .peer ∧ writer.ReadsRevision .peer uuid revision front) trace := by
  cases cleanup with
  | unconfirmed reads => exact .of_none (not_changes_of_reads reads)
  | confirmed reads found deletion =>
      rw [guarded_append]
      refine ⟨.of_none (not_changes_of_reads reads), ?_⟩
      refine deletion.guarded_change.mono fun more silent => ⟨silent.1, ?_⟩
      have earlier : writer.ReadsRevision .peer uuid revision _ :=
        @reads_of_inOrder _ _ _ _ _ _ [writer.Planned plan, writer.ListsNothing .client,
          writer.ListsOnly .peer uuid] found fun event member => (reads event member).not_post
      exact earlier.extend silent.2

theorem ObservationRun.guarded_change {plan : Option SyncPlan} {qualified : Option Str}
    {outcome : Except Exn Unit} {verified : Bool}
    (observation : ObservationRun writer plan qualified uuid expected trace outcome verified) :
    Guarded (writer.Changes action uuid role) (fun front => role = .peer ∧
      ∃ hash, qualified = some hash ∧ writer.ReadsRevision .peer uuid hash front) trace := by
  cases observation with
  | interrupted reads => exact .of_none (not_changes_of_reads reads)
  | polled reads _ => exact .of_none (not_changes_of_reads reads)
  | cleaned reads polled absent revisionEq cleanup =>
      rw [guarded_append]
      refine ⟨.of_none (not_changes_of_reads reads), ?_⟩
      exact cleanup.guarded_change.mono fun more read => ⟨read.1, _, revisionEq, read.2.skip⟩

theorem SyncRun.guarded_change {plan : Option SyncPlan} {qualified : Option Str}
    {outcome : Except Exn Unit} {verified : Bool}
    (sync : SyncRun writer plan qualified uuid expected trace outcome verified) :
    Guarded (writer.Changes action uuid role) (fun front => role = .peer ∧
      ∃ hash, qualified = some hash ∧ writer.ReadsRevision .peer uuid hash front) trace := by
  cases sync with
  | observed _ observation => exact observation.guarded_change
  | refused reads => exact .of_none (not_changes_of_reads reads)
  | unacknowledged reads planned =>
      rw [guarded_append, guarded_singleton]
      exact ⟨.of_none (not_changes_of_reads reads),
        fun changes => absurd changes restart_not_changes⟩
  | triggered reads planned acknowledged observation =>
      rw [guarded_append, guarded_cons]
      refine ⟨.of_none (not_changes_of_reads reads),
        fun changes => absurd changes restart_not_changes, ?_⟩
      refine observation.guarded_change.mono fun more found => ?_
      rcases found with ⟨isPeer, hash, same, read⟩
      rw [← List.singleton_append]
      exact ⟨isPeer, hash, same, read.skip.skip⟩

theorem Synced.guarded_change {plan : Option SyncPlan} {qualified : Option Str}
    {outcome : Except Exn (Option SyncResult)}
    (synced : Synced writer plan qualified uuid expected trace outcome) :
    Guarded (writer.Changes action uuid role) (fun front => role = .peer ∧
      ∃ hash, qualified = some hash ∧ writer.ReadsRevision .peer uuid hash front) trace := by
  cases synced with
  | alone => exact .of_none (by simp)
  | raised run => exact run.guarded_change
  | returned run => exact run.guarded_change

theorem Prepared.reads (prepared : Prepared writer action payload uuid revision front after)
    (given : action ≠ .create) (quiet : ∀ event ∈ front, ¬ event.request.IsPost) :
    writer.ReadsRevision .client uuid revision front :=
  @reads_of_inOrder _ _ _ _ _ _ [writer.Started action payload uuid, writer.Planned after.syncPlan]
    (prepared.current given) quiet

omit [Runtime] in
theorem mutation_changes {reply : Reply}
    (changes : writer.Changes action uuid role (writer.mutationEvent action payload uuid reply)) :
    role = .client :=
  (changes_post changes).1.symm

/-- The change of the local node -/
theorem Changed.guarded_change {reply applied : Reply} {tail : Trace Role}
    (changed : Changed writer action payload uuid revision front reply after)
    (given : action ≠ .create)
    (later : Guarded (writer.Changes action uuid role)
      (fun _ => False) tail ∨ Guarded (writer.Changes action uuid role) (fun front => role = .peer ∧
        ∃ hash, after.peerDeleteRevision = some hash ∧ writer.ReadsRevision .peer uuid hash front)
        tail) :
    Guarded (writer.Changes action uuid role) (writer.ReadsRevision role uuid revision)
      (front ++ (writer.mutationEvent action payload uuid reply :: writer.applyEvent applied ::
        tail)) := by
  rw [guarded_append, guarded_cons, guarded_cons, List.append_nil]
  refine ⟨.of_none (not_changes_of_quiet changed.quiet), ?_,
    fun changes => absurd changes apply_not_changes, ?_⟩
  · intro changes
    rw [mutation_changes changes]
    exact changed.prepared.reads given changed.quiet
  · rcases later with nothing | cleaned
    · exact nothing.mono fun _ impossible => impossible.elim
    · refine cleaned.mono fun more found => ?_
      rcases found with ⟨rfl, hash, qualified, read⟩
      rw [← (changed.prepared.qualified hash qualified).1]
      have whole : writer.ReadsRevision .peer uuid hash ([writer.mutationEvent action payload uuid
          reply, writer.applyEvent applied] ++ more) := read.skip
      exact whole.skip

theorem AttemptRun.guarded_change {attempted : Except Exn Unit}
    (attempt : AttemptRun writer action payload uuid revision expected trace attempted after)
    (given : action ≠ .create) :
    Guarded (writer.Changes action uuid role) (writer.ReadsRevision role uuid revision) trace := by
  cases attempt with
  | unprepared quiet => exact .of_none (not_changes_of_quiet quiet)
  | refused quiet prepared =>
      rw [guarded_append, guarded_singleton, List.append_nil]
      refine ⟨.of_none (not_changes_of_quiet quiet), fun changes => ?_⟩
      rw [mutation_changes changes]
      exact prepared.reads given quiet
  | unapplied changed => exact changed.guarded_change given (.inl (.of_none (by simp)))
  | unverified changed _ reads =>
      exact changed.guarded_change given (.inl (.of_none (not_changes_of_reads reads)))
  | unsynced changed _ reads _ sync | synced changed _ reads _ sync =>
      refine changed.guarded_change given (.inr ?_)
      rw [guarded_append]
      refine ⟨.of_none (not_changes_of_reads reads), ?_⟩
      rw [changed.uuid given] at sync
      refine sync.guarded_change.mono fun more found => ?_
      rcases found with ⟨isPeer, hash, qualified, read⟩
      exact ⟨isPeer, hash, qualified, read.skip⟩

/-- Without a create there is nothing to roll back. -/
theorem RecoveryRun.silent {attempted : Except Exn Unit} {settled : Execution}
    (recovery : RecoveryRun writer action attempted before trace settled)
    (given : action ≠ .create) : trace = [] := by
  cases recovery with
  | passed => rfl
  | kept => rfl
  | rolledBack _ _ create => exact absurd create given

theorem LockedRun.guarded_change {outcome : Except Exn ExecuteResult}
    (run : LockedRun writer action payload uuid revision trace outcome) (given : action ≠ .create) :
    Guarded (writer.Changes action uuid role) (writer.ReadsRevision role uuid revision) trace := by
  rcases run.parts with ⟨started, rfl⟩ | ⟨started, expected, attempting, recovering, closing,
    attempted, middle, settled, rfl, _, attempt, recovery, quiet⟩
  · exact .of_none (not_changes_of_quiet (by simp [Request.IsPost]))
  rw [recovery.silent given, List.nil_append, guarded_cons, guarded_append]
  refine ⟨fun changes => absurd changes.isPost id, ?_, .of_none (not_changes_of_quiet quiet)⟩
  refine (attempt.guarded_change given).mono fun more read => ?_
  rw [← List.singleton_append]
  exact read.skip

end Readings

/-! ## Whole calls -/

section Calls

variable [Runtime] {writer : VerifiedFirewallWriter} {action : WriteAction} {payload : Json}
  {uuid revision : Str} {before after : Execution} {trace : Trace Role}
  {outcome : Except Exn ExecuteResult}

/-- How `execute` comes to hold its lock -/
def opening (writer : VerifiedFirewallWriter) (lock : Nat) : Trace Role :=
  [⟨.acquireGuard .writeLocks, ()⟩, ⟨.lockFor .writeLocks writer.lockKey, lock⟩,
    ⟨.releaseGuard .writeLocks, ()⟩, ⟨.acquire lock, ()⟩]

/-- A call of `execute` with the call of `_execute` in it -/
inductive SectionRun (writer : VerifiedFirewallWriter) (action : WriteAction) (payload : Json)
    (uuid revision : Str) : Trace Role → Except Exn ExecuteResult → Prop
  | invalid {error : Exn} (invalid : checkedUuid action uuid revision = .error error) :
      SectionRun writer action payload uuid revision [] (.error error)
  | locked {valid : Str} {lock : Nat} {locked : Trace Role} {outcome : Except Exn ExecuteResult}
      {start last : Execution} (validEq : checkedUuid action uuid revision = .ok valid)
      (run : (writer.executeLocked action payload valid revision).Run start locked outcome last) :
      SectionRun writer action payload uuid revision
        (writer.opening lock ++ (locked ++ [⟨.release lock, ()⟩])) outcome

theorem execute_section
    (run : (writer.execute action payload uuid revision).Run before trace outcome after) :
    SectionRun writer action payload uuid revision trace outcome := by
  rw [execute, Action.run_bind_ofExcept] at run
  rcases run with ⟨valid, validEq, run⟩ | ⟨error, invalid, rfl, rfl, rfl⟩
  rotate_left
  · exact .invalid invalid
  simp only [Action.run_bind_ask] at run
  rcases run with ⟨_, _, rfl, lock, _, rfl, _, _, rfl, _, _, rfl, run⟩
  rw [Action.run_finallyDo] at run
  rcases run with ⟨front, result, middle, back, closing, rfl, locked, releasing, rfl⟩
  rw [Action.run_bind_ask] at releasing
  rcases releasing with ⟨_, _, rfl, done⟩
  rw [Action.run_pure] at done
  rcases done with ⟨rfl, rfl, rfl⟩
  exact .locked validEq locked

/-- A writer that works holds its lock and is within `_execute`. -/
structure Working (writer : VerifiedFirewallWriter) (action : WriteAction) (payload : Json)
    (uuid revision : Str) (past : Trace Role) (event : Exchange Role) (lock : Nat)
    (done : Trace Role) : Prop where
  past : past = writer.opening lock ++ done
  works : ∀ event ∈ done, event.request.IsWork
  run : ∃ valid rest outcome start last, checkedUuid action uuid revision = .ok valid ∧
    (writer.executeLocked action payload valid revision).Run start (done ++ event :: rest) outcome last

variable {past more : Trace Role} {event : Exchange Role} {lock : Nat}

theorem SectionRun.working
    (run : SectionRun writer action payload uuid revision (past ++ event :: more) outcome)
    (work : event.request.IsWork) :
    ∃ lock done, Working writer action payload uuid revision past event lock done := by
  generalize whole : past ++ event :: more = trace at run
  cases run with
  | invalid => simp at whole
  | @locked valid lock locked _ start last validEq run =>
      have works := executeLocked_works _ _ _ _ run
      rcases split_at_event whole.symm with ⟨rest, inOpening⟩ | ⟨done, rfl, inside⟩
      · have member : event ∈ writer.opening lock := by simp [inOpening]
        simp only [opening, List.mem_cons, List.not_mem_nil, or_false] at member
        rcases member with rfl | rfl | rfl | rfl
        all_goals exact work.elim
      · rcases split_at_event inside with ⟨rest, rfl⟩ | ⟨none, _, released⟩
        · exact ⟨lock, done, rfl, fun event member => works event (by simp [member]), valid, rest,
            _, start, last, validEq, run⟩
        · have member : event ∈ ([⟨.release lock, ()⟩] : Trace Role) := by simp [released]
          rw [List.mem_singleton.mp member] at work
          exact work.elim

/-- A lock is acquired once, right after it was asked for. -/
theorem SectionRun.acquired (run : SectionRun writer action payload uuid revision
    (past ++ ⟨.acquire lock, ()⟩ :: more) outcome) :
    past ++ [⟨.acquire lock, ()⟩] = writer.opening lock := by
  generalize whole : past ++ (⟨.acquire lock, ()⟩ : Exchange Role) :: more = trace at run
  cases run with
  | invalid => simp at whole
  | @locked valid other locked _ start last validEq run =>
      rcases split_at_event whole.symm with ⟨rest, inOpening⟩ | ⟨done, rfl, inside⟩
      · rcases past with _ | ⟨first, _ | ⟨second, _ | ⟨third, _ | ⟨fourth, past⟩⟩⟩⟩
        all_goals simp [opening] at inOpening
        rcases inOpening with ⟨rfl, rfl, rfl, rfl, _⟩
        rfl
      · have member : (⟨.acquire lock, ()⟩ : Exchange Role) ∈ locked ++ [⟨.release other, ()⟩] := by
          simp [inside]
        rcases List.mem_append.mp member with work | released
        · exact (executeLocked_works _ _ _ _ run _ work).elim
        · cases List.mem_singleton.mp released

end Calls

end VerifiedFirewallWriter

end OpnsensePlugin

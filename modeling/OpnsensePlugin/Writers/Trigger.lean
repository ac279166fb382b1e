import OpnsensePlugin.Writers.PeerCleanup
import OpnsensePlugin.Writers.Plan

/-!
# The trigger of synchronization

A synchronization is triggered only between two preflights with the same plan
that both found the pair safe, the first before any change and the second after
the last apply. A first preflight that fails leaves both nodes as they are.
-/

namespace OpnsensePlugin

open Effects Python

namespace VerifiedFirewallWriter

variable [Runtime] {writer : VerifiedFirewallWriter} {action : WriteAction} {payload : Json}
  {uuid revision : Str} {expected : Option Json} {before after : Execution} {trace : Trace Role}

/-! ## Preflights without state -/

omit [Runtime] in
theorem clientGet_stateless {role : Role} {path : Str} {params : List (Str × Json)} :
    Action.Stateless fun State => (clientGet role path params : Py Role State Json) :=
  Action.stateless_bind Action.stateless_ask fun _ => Action.stateless_ofExcept

omit [Runtime] in
theorem addresses_stateless {role : Role} :
    Action.Stateless fun State => (addresses role : Py Role State (List IpAddress)) :=
  Action.stateless_bind clientGet_stateless fun _ => Action.stateless_ofExcept

omit [Runtime] in
theorem isExclusive_stateless {address : IpAddress} :
    Action.Stateless fun State => (isExclusive address : Py Role State Bool) := by
  refine Action.stateless_bind addresses_stateless fun peer => ?_
  by_cases there : address ∈ peer
  · simp only [there, if_true]
    exact Action.stateless_bind addresses_stateless fun _ => Action.stateless_pure
  · simp only [there, if_false]
    exact Action.stateless_pure

theorem collectCarpStatus_stateless {role : Role} :
    Action.Stateless fun State => (collectCarpStatus role : Py Role State CarpStatus) :=
  Action.stateless_bind Action.stateless_ask fun _ => Action.stateless_ofExcept

theorem xmlrpcPreflight_stateless :
    Action.Stateless fun State => (writer.xmlrpcPreflight : Py Role State SyncPlan) := by
  refine Action.stateless_bind clientGet_stateless fun _ => ?_
  refine Action.stateless_bind clientGet_stateless fun _ => ?_
  refine Action.stateless_bind Action.stateless_ofExcept fun _ => ?_
  refine Action.stateless_bind isExclusive_stateless fun _ => ?_
  refine Action.stateless_bind Action.stateless_raiseIf fun _ => ?_
  refine Action.stateless_bind collectCarpStatus_stateless fun _ => ?_
  refine Action.stateless_bind collectCarpStatus_stateless fun _ => ?_
  exact Action.stateless_ofExcept

theorem syncPreflight_stateless :
    Action.Stateless fun State => (writer.syncPreflight : Py Role State (Option SyncPlan)) := by
  unfold syncPreflight
  split
  · exact Action.stateless_pure
  · exact Action.stateless_bind xmlrpcPreflight_stateless fun _ => Action.stateless_pure

/-! ## Before the trigger -/

/-- The last apply, acknowledged, and after it a preflight that returned the plan -/
def AppliedThenPlanned (writer : VerifiedFirewallWriter) (plan : Option SyncPlan)
    (segment : Trace Role) : Prop :=
  ∃ (front late : Trace Role) (applied : Reply) (response : List (Str × Json)),
    segment = front ++ writer.applyEvent applied :: late ∧
      answered "apply" applied = .ok response ∧ (∀ event ∈ late, event.request.IsGet) ∧
      InOrder [writer.Planned plan] late

/-- A preflight that returned the plan before any POST, and again after the last apply -/
def TwicePlanned (writer : VerifiedFirewallWriter) (plan : Option SyncPlan)
    (segment : Trace Role) : Prop :=
  ∃ early rest, segment = early ++ rest ∧ (∀ event ∈ early, ¬ event.request.IsPost) ∧
    InOrder [writer.Planned plan] early ∧ writer.AppliedThenPlanned plan rest

theorem AppliedThenPlanned.skip {plan : Option SyncPlan} {front back : Trace Role}
    (ready : writer.AppliedThenPlanned plan back) :
    writer.AppliedThenPlanned plan (front ++ back) := by
  rcases ready with ⟨between, late, applied, response, rfl, ready⟩
  exact ⟨front ++ between, late, applied, response, by simp, ready⟩

theorem TwicePlanned.skip {plan : Option SyncPlan} {front back : Trace Role}
    (quiet : ∀ event ∈ front, ¬ event.request.IsPost) (ready : writer.TwicePlanned plan back) :
    writer.TwicePlanned plan (front ++ back) := by
  rcases ready with ⟨early, rest, rfl, silent, planned, ready⟩
  exact ⟨front ++ early, rest, by simp, List.forall_mem_append.mpr ⟨quiet, silent⟩, planned.skip,
    ready⟩

omit [Runtime] in
theorem mutation_not_restart {reply : Reply} :
    ¬ IsRestart (writer.mutationEvent action payload uuid reply).request :=
  mutationPath_not_restart

omit [Runtime] in
theorem apply_not_restart {reply : Reply} : ¬ IsRestart (writer.applyEvent reply).request :=
  applyPath_not_restart

omit [Runtime] in
theorem delete_not_restart {reply : Reply} :
    ¬ IsRestart (writer.deleteEvent uuid reply).request :=
  deletePath_not_restart

theorem AppliedThenPlanned.skipEvent {plan : Option SyncPlan} {event : Exchange Role}
    (ready : writer.AppliedThenPlanned plan trace) :
    writer.AppliedThenPlanned plan (event :: trace) := by
  rw [← List.singleton_append]
  exact ready.skip

theorem Prepared.planned_only
    (prepared : Prepared writer action payload uuid revision trace after) :
    InOrder [writer.Planned after.syncPlan] trace := by
  rcases prepared.opening with ⟨now, record, planning, rest, rfl, _, planned⟩
  exact (InOrder.cons planned .nil).skip.skipEvent

/-- A synchronization after an acknowledged apply triggers only with the plan. -/
theorem guarded_applied {plan : Option SyncPlan} {qualified : Option Str} {applied : Reply}
    {response : List (Str × Json)} {back tail : Trace Role}
    {outcome : Except Exn (Option SyncResult)}
    (answer : answered "apply" applied = .ok response)
    (reads : ∀ event ∈ back, event.request.IsGet)
    (sync : Synced writer plan qualified uuid expected tail outcome) :
    Guarded (fun event => IsRestart event.request) (writer.AppliedThenPlanned plan)
      (writer.applyEvent applied :: (back ++ tail)) := by
  rw [guarded_cons, guarded_append]
  refine ⟨fun restart => absurd restart apply_not_restart, .of_none (not_restart_of_reads reads),
    ?_⟩
  refine sync.guarded_restart.mono fun front ready => ?_
  rcases ready with ⟨planned, more⟩
  exact ⟨[], back ++ front, applied, response, rfl, answer, List.forall_mem_append.mpr ⟨reads, more⟩,
    (InOrder.single planned).skip⟩

theorem Changed.guarded_restart {front back tail : Trace Role} {reply applied : Reply}
    {response : List (Str × Json)} {outcome : Except Exn (Option SyncResult)}
    (changed : Changed writer action payload uuid revision front reply after)
    (answer : answered "apply" applied = .ok response)
    (reads : ∀ event ∈ back, event.request.IsGet)
    (sync : Synced writer after.syncPlan after.peerDeleteRevision after.uuid expected tail
      outcome) :
    Guarded (fun event => IsRestart event.request) (writer.TwicePlanned after.syncPlan)
      (front ++ (writer.mutationEvent action payload uuid reply ::
        writer.applyEvent applied :: (back ++ tail))) := by
  rw [guarded_append, guarded_cons]
  refine ⟨.of_none (not_restart_of_quiet changed.quiet),
    fun restart => absurd restart mutation_not_restart, ?_⟩
  refine (guarded_applied answer reads sync).mono fun middle ready => ?_
  have planned := changed.prepared.planned_only
  exact ⟨front, _, rfl, changed.quiet, planned, ready.skipEvent⟩

theorem AttemptRun.guarded_restart {attempted : Except Exn Unit}
    (attempt : AttemptRun writer action payload uuid revision expected trace attempted after) :
    Guarded (fun event => IsRestart event.request) (writer.TwicePlanned after.syncPlan) trace := by
  cases attempt with
  | unprepared quiet => exact .of_none (not_restart_of_quiet quiet)
  | refused quiet =>
      rw [guarded_append, guarded_singleton]
      exact ⟨.of_none (not_restart_of_quiet quiet),
        fun restart => absurd restart mutation_not_restart⟩
  | unapplied changed =>
      rw [guarded_append, guarded_cons, guarded_singleton]
      exact ⟨.of_none (not_restart_of_quiet changed.quiet),
        fun restart => absurd restart mutation_not_restart,
        fun restart => absurd restart apply_not_restart⟩
  | unverified changed _ reads =>
      rw [guarded_append, guarded_cons, guarded_cons]
      exact ⟨.of_none (not_restart_of_quiet changed.quiet),
        fun restart => absurd restart mutation_not_restart,
        fun restart => absurd restart apply_not_restart, .of_none (not_restart_of_reads reads)⟩
  | unsynced changed answer reads _ sync => exact changed.guarded_restart answer reads sync
  | synced changed answer reads _ sync => exact changed.guarded_restart answer reads sync

theorem RollbackRun.guarded_restart {plan : Option SyncPlan} {qualified : Option Str}
    {verified : Bool} (rollback : RollbackRun writer plan qualified uuid trace verified) :
    Guarded (fun event => IsRestart event.request) (writer.AppliedThenPlanned plan) trace := by
  cases rollback with
  | refused =>
      rw [guarded_singleton]
      exact fun restart => absurd restart delete_not_restart
  | unapplied =>
      rw [guarded_cons, guarded_singleton]
      exact ⟨fun restart => absurd restart delete_not_restart,
        fun restart => absurd restart apply_not_restart⟩
  | unread _ _ reads =>
      rw [guarded_cons, guarded_cons]
      exact ⟨fun restart => absurd restart delete_not_restart,
        fun restart => absurd restart apply_not_restart, .of_none (not_restart_of_reads reads)⟩
  | synced _ answer reads sync =>
      rw [guarded_cons]
      refine ⟨fun restart => absurd restart delete_not_restart, ?_⟩
      exact (guarded_applied answer reads sync).mono fun _ ready => ready.skipEvent

theorem RecoveryRun.guarded_restart {attempted : Except Exn Unit} {settled : Execution}
    (recovery : RecoveryRun writer action attempted before trace settled) :
    Guarded (fun event => IsRestart event.request) (writer.AppliedThenPlanned before.syncPlan)
      trace := by
  cases recovery with
  | passed => exact .of_none (by simp)
  | kept => exact .of_none (by simp)
  | rolledBack _ _ _ _ run => exact run.guarded_restart

/-- What follows an attempt triggers only after the attempt has planned. -/
theorem AttemptRun.recovery_guarded {attempting recovering : Trace Role}
    {attempted : Except Exn Unit} {middle settled : Execution}
    (attempt : AttemptRun writer action payload uuid revision expected attempting attempted middle)
    (recovery : RecoveryRun writer action attempted middle recovering settled) :
    Guarded (fun event => IsRestart event.request)
      (fun front => writer.TwicePlanned middle.syncPlan (attempting ++ front)) recovering := by
  rcases attempt.prepared with ⟨_, _, unaccepted, _⟩ | ⟨front, rest, rfl, quiet, prepared⟩
  · rw [recovery.unaccepted unaccepted]
    exact .of_none (by simp)
  · refine recovery.guarded_restart.mono fun later ready => ?_
    rw [List.append_assoc]
    exact ⟨front, rest ++ later, rfl, quiet, prepared.planned_only, ready.skip⟩

theorem LockedRun.guarded_restart {outcome : Except Exn ExecuteResult}
    (run : LockedRun writer action payload uuid revision trace outcome) :
    Guarded (fun event => IsRestart event.request)
      (fun front => ∃ plan, writer.TwicePlanned plan front) trace := by
  rcases run.parts with ⟨started, rfl⟩ | ⟨started, expected, attempting, recovering, closing,
    attempted, middle, settled, rfl, _, attempt, recovery, quiet⟩
  · exact .of_none (by simp [IsRestart])
  have clock : ∀ event ∈ ([⟨.clock, started⟩] : Trace Role), ¬ event.request.IsPost := by
    simp [Request.IsPost]
  rw [guarded_cons, guarded_append, guarded_append]
  refine ⟨by simp [IsRestart], ?_, ?_, .of_none (not_restart_of_quiet quiet)⟩
  · exact attempt.guarded_restart.mono fun front ready => ⟨_, ready.skip clock⟩
  · exact (attempt.recovery_guarded recovery).mono fun front ready => ⟨_, ready.skip clock⟩

/-! ## A first preflight that fails -/

/-- What a call has done when it makes its first preflight -/
def Opening (writer : VerifiedFirewallWriter) (action : WriteAction) (payload : Json)
    (uuid : Str) (opening : Trace Role) : Prop :=
  ∃ (lock : Nat) (started now : Clock) (record : Trace Role),
    opening = [⟨.acquireGuard .writeLocks, ()⟩, ⟨.lockFor .writeLocks writer.lockKey, lock⟩,
      ⟨.releaseGuard .writeLocks, ()⟩, ⟨.acquire lock, ()⟩, ⟨.clock, started⟩, ⟨.clock, now⟩] ++
      record ∧ writer.Started action payload uuid record

theorem Opening.length_eq {opening : Trace Role}
    (opened : writer.Opening action payload uuid opening) : opening.length = 7 := by
  rcases opened with ⟨lock, started, now, record, rfl, entry, rfl, _⟩
  rfl

theorem execute_unplanned {outcome : Except Exn ExecuteResult}
    (run : (writer.execute action payload uuid revision).Run before trace outcome after)
    {valid : Str} {opening segment rest : Trace Role}
    (opened : writer.Opening action payload valid opening)
    (failed : Action.Failed (fun _ => writer.syncPreflight) segment)
    (traceEq : trace = opening ++ (segment ++ rest)) : posts trace = [] := by
  cases execute_run run with
  | invalid => rfl
  | @locked valid lock locked _ _ inner =>
      rcases inner.prepared with quiet | ⟨started, front, later, state, rfl, _, prepared⟩
      · rw [posts_append, posts_append, posts_eq_nil quiet]
        rfl
      rcases prepared.opening with ⟨now, record, planning, more, rfl, recorded, planned⟩
      have mine : writer.Opening action payload valid ([⟨.acquireGuard .writeLocks, ()⟩,
          ⟨.lockFor .writeLocks writer.lockKey, lock⟩, ⟨.releaseGuard .writeLocks, ()⟩,
          ⟨.acquire lock, ()⟩, ⟨.clock, started⟩, ⟨.clock, now⟩] ++ record) :=
        ⟨lock, started, now, record, rfl, recorded⟩
      have lengths := mine.length_eq.trans opened.length_eq.symm
      have same := List.append_inj_right (by simpa using traceEq) lengths
      exact (syncPreflight_stateless.returned_not_failed planned failed same).elim

/-! ## The guarantee -/

theorem TwicePlanned.plan_some {plan : Option SyncPlan} (paired : writer.peer.isSome)
    (mode : writer.haSyncMode = .xmlrpcPf) (ready : writer.TwicePlanned plan trace) :
    ∃ agreed : SyncPlan, plan = some agreed := by
  rcases ready with ⟨early, rest, rfl, _, planned, _⟩
  rcases planned with ⟨_, found, _, _, returned, _⟩
  rcases returned with ⟨State, start, value, last, run, rfl⟩
  cases value with
  | none => exact (syncPreflight_ne_none paired mode run).elim
  | some agreed => exact ⟨agreed, rfl⟩

/-- Synchronization is triggered only after two preflights that returned one plan, before any
POST and after the last apply. A plan is returned only for a safe pair, and a call whose first
preflight fails makes no POST. -/
theorem execute_triggers {outcome : Except Exn ExecuteResult} (paired : writer.peer.isSome)
    (mode : writer.haSyncMode = .xmlrpcPf)
    (run : (writer.execute action payload uuid revision).Run before trace outcome after) :
    Guarded (fun event => IsRestart event.request)
        (fun front => ∃ plan : SyncPlan, writer.TwicePlanned (some plan) front) trace ∧
      (∀ plan segment, writer.Planned (some plan) segment →
        ∃ answers : PreflightAnswers, segment = answers.trace ∧
          Safe writer.resource answers plan) ∧
      ∀ valid opening segment rest, writer.Opening action payload valid opening →
        Action.Failed (fun _ => writer.syncPreflight) segment →
        trace = opening ++ (segment ++ rest) → posts trace = [] := by
  refine ⟨?_, ?_, fun valid opening segment rest => execute_unplanned run⟩
  · cases execute_run run with
    | invalid => exact .of_none (by simp)
    | @locked valid lock locked _ _ inner =>
        rw [guarded_append, guarded_append, guarded_singleton]
        refine ⟨.of_none (by simp [IsRestart]), ?_, by simp [IsRestart]⟩
        refine inner.guarded_restart.mono fun front ready => ?_
        rcases ready with ⟨plan, ready⟩
        rcases ready.plan_some paired mode with ⟨agreed, rfl⟩
        exact ⟨agreed, ready.skip (by simp [Request.IsPost])⟩
  · intro plan segment planned
    rcases planned with ⟨State, start, value, last, returned, rfl⟩
    exact (syncPreflight_some returned).2.2

omit [Runtime] in
theorem execute_triggers_last :
    ∃ trace outcome after,
      (@execute Runtime.ascii pairWriter .delete .null exampleUuid exampleRevision).Run idle trace
        outcome after ∧
      ∃ front event back plan, trace = front ++ event :: back ∧ IsRestart event.request ∧
        @TwicePlanned Runtime.ascii pairWriter (some plan) front := by
  rcases keepsLast_run with ⟨trace, outcome, after, run, paths⟩
  have member : (Role.client, restartPath) ∈
      (posts trace).map fun post => (post.node, post.path) := by
    simp [paths]
  rcases exists_of_paths member with ⟨front, body, reply, back, rfl⟩
  rcases (@execute_triggers Runtime.ascii pairWriter .delete .null _ _ _ _ _ _ rfl rfl run).1
    front _ back rfl rfl with ⟨plan, ready⟩
  exact ⟨_, _, _, run, front, _, back, plan, rfl, rfl, ready⟩

end VerifiedFirewallWriter

end OpnsensePlugin

import OpnsensePlugin.Management.Failure
import OpnsensePlugin.Sections.Progress
import OpnsensePlugin.Writers.Concurrency
import OpnsensePlugin.Writers.PeerCleanup

/-!
# The calls of the process

Writes of the firewall pages and mutations of the administration pages run on the threads
of one process. Each does its work under its lock, of one dictionary or the other, so any
mix of them comes to an end.
-/

namespace OpnsensePlugin

open Effects Python

/-! ## Mutations -/

namespace ManagementService

open Management VerifiedFirewallWriter

variable [Runtime] {service : ManagementService} {spec : Spec} {request : MutateRequest}
  {expected payload : Json} {started : Clock} {State : Type} {trace : Trace Role}
  {outcome : Except Exn MutateResult}

omit [Runtime] in
theorem callPost_works {role : Role} {target : Str} {body : Json} :
    Action.Ensures (Action.Requests Request.IsWork) (callPost role target body : Py Role State Json) :=
  Action.ensures_bind (ask_works trivial) fun _ => Action.ensures_ofExcept

theorem audit_works {action : WriteAction} {uuid result : Str} :
    Action.Ensures (Action.Requests Request.IsWork)
      (service.audit spec action uuid result payload started : Py Role State Unit) := by
  refine Action.ensures_bind Action.ensures_ofExcept fun hash => ?_
  refine Action.ensures_bind (ask_works trivial) fun now => ?_
  refine Action.ensures_bind (Action.ensures_attempt auditAppend_works) fun stored => ?_
  cases stored with
  | ok value => exact Action.ensures_pure
  | error error => exact Action.ensures_raise

theorem save_works : Action.Ensures (Action.Requests Request.IsWork) (save spec request payload) := by
  refine Action.ensures_bind Action.ensures_ofExcept fun target => ?_
  refine Action.ensures_bind callPost_works fun response => ?_
  refine Action.ensures_bind Action.ensures_ofExcept fun _ => ?_
  exact Action.ensures_bind Action.ensures_ofExcept fun _ => Action.requests_modifyState

theorem applyAll_works {targets : List Str} :
    Action.Ensures (Action.Requests Request.IsWork) (applyAll spec targets) := by
  induction targets with
  | nil => exact Action.ensures_pure
  | cons target rest ih =>
      refine Action.ensures_bind callPost_works fun response => ?_
      exact Action.ensures_bind Action.ensures_ofExcept fun _ => ih

theorem attemptMutation_works : Action.Ensures (Action.Requests Request.IsWork)
    (service.attemptMutation spec request expected payload started) := by
  refine Action.ensures_bind save_works fun _ => ?_
  refine Action.ensures_bind ?_ fun _ => ?_
  · refine Action.ensures_bind Action.ensures_raiseIf fun _ => ?_
    exact Action.ensures_bind applyAll_works fun _ => Action.requests_modifyState
  refine Action.ensures_bind Action.ensures_readState fun mutation => ?_
  refine Action.ensures_bind (reads_work verifyChange_observes) fun _ => ?_
  refine Action.ensures_bind audit_works fun _ => ?_
  exact Action.ensures_bind Action.ensures_ofExcept fun _ => Action.ensures_pure

theorem recover_works {error : Exn} : Action.Ensures (Action.Requests Request.IsWork)
    (service.recover spec request payload started error) := by
  unfold recover
  split
  · refine Action.ensures_bind Action.ensures_readState fun mutation => ?_
    refine Action.ensures_bind (Action.ensures_attempt audit_works) fun stored => ?_
    cases stored with
    | ok value => exact Action.ensures_raise
    | error error => exact Action.ensures_raise
  · exact Action.ensures_raise

/-- `_mutate` leaves the locks alone. -/
theorem mutateLocked_works : Action.Ensures (Action.Requests Request.IsWork)
    (service.mutateLocked spec request) := by
  refine Action.ensures_bind (ask_works trivial) fun started => ?_
  refine Action.ensures_bind ?_ ?_
  · refine Action.ensures_bind (reads_work raw_observes) fun object => ?_
    refine Action.ensures_bind Action.ensures_ofExcept fun _ => ?_
    refine Action.ensures_bind Action.ensures_ofExcept fun expected => ?_
    refine Action.ensures_bind Action.ensures_ofExcept fun payload => ?_
    exact Action.ensures_bind audit_works fun _ => Action.ensures_pure
  rintro ⟨expected, payload⟩
  refine Action.ensures_bind (Action.observes_withState ?_).requests fun _ => Action.ensures_pure
  exact Action.ensures_handle attemptMutation_works fun _ => recover_works

/-- The name of the lock of a mutation -/
def lockName (service : ManagementService) (spec : Spec) : Sections.LockName :=
  (.managementLocks, service.lockKey spec)

/-- A call of `mutate` with the call of `_mutate` in it -/
inductive SectionRun (service : ManagementService) (spec : Spec) (body : Json) :
    Trace Role → Except Exn MutateResult → Prop
  | refused {error : Exn} : SectionRun service spec body [] (.error error)
  | locked {request : MutateRequest} {lock : Nat} {locked : Trace Role}
      {outcome : Except Exn MutateResult} (accepted : service.accept spec body = .ok request)
      (run : (service.mutateLocked spec request).Run () locked outcome ()) :
      SectionRun service spec body
        (Sections.opening (service.lockName spec) lock ++ (locked ++ [⟨.release lock, ()⟩])) outcome

theorem mutate_section {body : Json} (run : (service.mutate spec body).Run () trace outcome ()) :
    SectionRun service spec body trace outcome := by
  rw [mutate, Action.run_bind_ofExcept] at run
  rcases run with ⟨request, accepted, run⟩ | ⟨error, _, rfl, rfl, _⟩
  rotate_left
  · exact .refused
  simp only [Action.run_bind_ask] at run
  rcases run with ⟨_, _, rfl, lock, _, rfl, _, _, rfl, _, _, rfl, run⟩
  rw [Action.run_finallyDo] at run
  rcases run with ⟨front, result, _, back, closing, rfl, locked, releasing, rfl⟩
  rw [Action.run_bind_ask] at releasing
  rcases releasing with ⟨_, _, rfl, done⟩
  rw [Action.run_pure] at done
  rcases done with ⟨rfl, rfl, _⟩
  exact .locked accepted locked

end ManagementService

namespace Sections

/-! ## Any mix of calls -/

/-- A call that changes a firewall -/
inductive ProcessCall
  | write (call : Concurrency.Call)
  | mutation (service : ManagementService) (spec : Spec) (body : Json)

/-- What a call has returned or raised -/
inductive Ended
  | write (outcome : Except Exn ExecuteResult)
  | mutation (outcome : Except Exn MutateResult)

namespace ProcessCall

variable [Runtime]

def program : ProcessCall → Program (Request Role) Answer Ended
  | .write call => call.program.bind fun ended => .done (.write ended.1)
  | .mutation service spec body =>
      (service.mutate spec body ()).bind fun ended => .done (.mutation ended.1)

/-- The dictionary and the key of the lock of a call -/
def lockName : ProcessCall → LockName
  | .write call => (.writeLocks, call.writer.lockKey)
  | .mutation service spec _ => service.lockName spec

/-- Every call does its work under its lock. -/
theorem program_section {call : ProcessCall} {trace : Trace Role} {ended : Ended}
    (run : call.program.Yields trace ended) : IsSection call.lockName trace := by
  cases call with
  | write call =>
      rcases Program.yields_bind_iff.mp run with ⟨front, ⟨outcome, after⟩, back, rfl, inner, last⟩
      rcases Program.yields_done_iff.mp last with ⟨rfl, _⟩
      rw [List.append_nil]
      cases VerifiedFirewallWriter.execute_section inner with
      | invalid => exact .refused
      | locked _ run => exact .worked (VerifiedFirewallWriter.executeLocked_works _ _ _ _ run)
  | mutation service spec body =>
      rcases Program.yields_bind_iff.mp run with ⟨front, ⟨outcome, after⟩, back, rfl, inner, last⟩
      rcases Program.yields_done_iff.mp last with ⟨rfl, _⟩
      rw [List.append_nil]
      change (service.mutate spec body).Run () front outcome () at inner
      cases ManagementService.mutate_section inner with
      | refused => exact .refused
      | locked _ run => exact .worked (ManagementService.mutateLocked_works _ _ _ _ run)

end ProcessCall

section Runs

variable [Runtime] {Thread Objects View : Type} [DecidableEq Thread]
  {nodes : Nodes Role Thread Objects View} {objects : Objects} {calls : Thread → ProcessCall}
  {system : Threads Role Thread Objects Ended}

omit [DecidableEq Thread] in
theorem calls_sectioned : Sectioned (fun thread => (calls thread).program)
    fun thread => (calls thread).lockName :=
  fun _ _ _ run => ProcessCall.program_section run

/-- However the calls take turns, they do not go on for ever. Wherever they come to a stop all of them
have returned or raised, and no guard and no lock is held. -/
theorem calls_complete [Finite Thread] (responds : nodes.Responds) :
    (∀ turns : Nat → Threads Role Thread Objects Ended,
        ∃ n, ¬ System.Step (Serves nodes) (turns n) (turns (n + 1))) ∧
      ∀ system, System.Reaches (Serves nodes)
          (begun (fun thread => (calls thread).program) objects) system →
        System.Stopped (Serves nodes) system →
          (∀ thread, ∃ ended, system.programs thread = .done ended) ∧
            (∀ table, system.shared.guards table = none) ∧
            ∀ lock, system.shared.holders lock = none := by
  refine ⟨System.exists_last, ?_⟩
  intro system reached
  exact stopped_free calls_sectioned reached responds

end Runs

/-! ## A deletion and an update -/

/-- A deletion of a port forward on one thread, an update of another object on the other -/
def pairCalls : Bool → ProcessCall
  | false => .write ⟨VerifiedFirewallWriter.pairWriter, .delete, .null,
      VerifiedFirewallWriter.exampleUuid, VerifiedFirewallWriter.exampleRevision,
      VerifiedFirewallWriter.idle⟩
  | true => .mutation ManagementService.demoService ManagementService.demoSpec
      ManagementService.demoUpdate

/-- Nodes that may answer anything -/
def anyNodes : Nodes Role Bool Unit Unit where
  view _ _ := ()
  tells _ _ _ := True
  changes _ _ _ _ := True

theorem anyNodes_responds : anyNodes.Responds where
  get _ _ _ _ _ := ⟨.ok .null, trivial⟩
  post _ _ _ _ _ := ⟨.ok .null, (), trivial⟩

theorem calls_complete_pair :
    ∃ last : Threads Role Bool Unit Ended,
      System.Reaches (Serves anyNodes)
        (begun (fun thread => (@ProcessCall.program Runtime.ascii (pairCalls thread))) ()) last ∧
      (∀ thread, ∃ ended, last.programs thread = .done ended) ∧
      (∀ table, last.shared.guards table = none) ∧ ∀ lock, last.shared.holders lock = none := by
  have complete := (@calls_complete Runtime.ascii Bool Unit Unit _ anyNodes () pairCalls _
    anyNodes_responds).2
  have ends : ∃ last, System.Reaches (Serves anyNodes) (begun
      (fun thread => (@ProcessCall.program Runtime.ascii (pairCalls thread))) ()) last ∧
      System.Stopped (Serves anyNodes) last := System.exists_stopped _
  rcases ends with ⟨last, reached, stopped⟩
  exact ⟨last, reached, complete last reached stopped⟩

end Sections

end OpnsensePlugin

import OpnsensePlugin.Writers.Outcome

/-!
# POSTs to the peer

The peer is changed by the cleanup of a last port forward and by nothing else.
Everything the cleanup relies on has been read in the same call, in the order
given by `peerEvidence`, however the nodes change between two requests.
-/

namespace OpnsensePlugin

open Effects Python

namespace VerifiedFirewallWriter

section

variable [Runtime] {writer : VerifiedFirewallWriter} {action : WriteAction} {payload : Json}
  {uuid revision : Str} {expected : Option Json} {before after : Execution} {trace : Trace Role}

def peerPosts (trace : Trace Role) : List (Post Role) :=
  (posts trace).filter fun post => post.node = .peer

/-- What a call has observed before it makes a POST to the peer -/
def peerEvidence (writer : VerifiedFirewallWriter) (payload : Json) (plan : Option SyncPlan)
    (uuid revision : Str) : List (Trace Role → Prop) :=
  [writer.Started .delete payload uuid, writer.Planned plan] ++
    writer.qualificationEvidence uuid revision ++
    [Acknowledged .client (writer.mutationPath .delete uuid) (bodyOf payload) "delete",
      Acknowledged .client writer.applyPath (.obj []) "apply",
      writer.Confirmed .client uuid none] ++
    writer.syncEvidence plan revision uuid

/-- The circumstances of a POST to the peer after the exchanges of `front` -/
def PeerReady (writer : VerifiedFirewallWriter) (action : WriteAction) (payload : Json)
    (uuid revision : Str) (front : Trace Role) : Prop :=
  writer.Qualifies action ∧
    ∃ plan, InOrder (writer.peerEvidence payload plan uuid revision) front

/-- The evidence before the synchronization together with what the synchronization found -/
theorem peerEvidence_of_sync {front back tail : Trace Role} {reply applied : Reply}
    {answer : List (Str × Json)} {hash : Str}
    (changed : Changed writer action payload uuid revision front reply after)
    (acknowledged : answered "apply" applied = .ok answer)
    (confirmed : InOrder [writer.Confirmed .client after.uuid none] back)
    (qualified : after.peerDeleteRevision = some hash)
    (found : InOrder (writer.syncEvidence after.syncPlan hash after.uuid) tail) :
    PeerReady writer action payload uuid revision
      (front ++ (writer.mutationEvent action payload uuid reply :: writer.applyEvent applied ::
        (back ++ tail))) := by
  rcases changed.prepared.qualified hash qualified with ⟨rfl, qualifies, evidence⟩
  have delete := qualifies.1
  subst delete
  have same := changed.uuid (by decide)
  rw [same] at confirmed found
  rcases changed.answer with ⟨response, deleted, _⟩
  have first : Acknowledged .client (writer.mutationPath .delete uuid) (bodyOf payload)
      "delete" [writer.mutationEvent .delete payload uuid reply] := ⟨_, _, rfl, deleted⟩
  have second : Acknowledged .client writer.applyPath (.obj []) "apply"
      [writer.applyEvent applied] := ⟨_, _, rfl, acknowledged⟩
  refine ⟨qualifies, after.syncPlan, ?_⟩
  rw [peerEvidence, List.append_assoc]
  exact evidence.append (InOrder.cons first (InOrder.cons second (confirmed.append found)))

/-- The synchronization is the only part of an attempt that makes POSTs to the peer. -/
theorem guarded_of_sync {front back tail : Trace Role} {reply applied : Reply}
    {answer : List (Str × Json)} {outcome : Except Exn (Option SyncResult)}
    (changed : Changed writer action payload uuid revision front reply after)
    (acknowledged : answered "apply" applied = .ok answer)
    (reads : ∀ event ∈ back, event.request.IsGet)
    (confirmed : InOrder [writer.Confirmed .client after.uuid expected] back)
    (sync : Synced writer after.syncPlan after.peerDeleteRevision after.uuid expected tail
      outcome) :
    Guarded (fun event => event.request.IsPostTo .peer)
      (PeerReady writer action payload uuid revision)
      (front ++ (writer.mutationEvent action payload uuid reply :: writer.applyEvent applied ::
        (back ++ tail))) := by
  have guarded := sync.guarded fun qualified => (changed.qualified qualified).2.2.2
  rw [guarded_append, guarded_cons, guarded_cons, guarded_append]
  refine ⟨.of_none fun event member post => changed.quiet event member post.isPost,
    by simp [mutationEvent, Request.IsPostTo], by simp [applyEvent, Request.IsPostTo],
    .of_none (not_postTo_of_reads reads), guarded.mono fun more evidence => ?_⟩
  rcases evidence with ⟨rfl, hash, qualified, found⟩
  exact peerEvidence_of_sync changed acknowledged confirmed qualified found

theorem AttemptRun.guarded_peer {attempted : Except Exn Unit}
    (attempt : AttemptRun writer action payload uuid revision expected trace attempted after) :
    Guarded (fun event => event.request.IsPostTo .peer)
      (PeerReady writer action payload uuid revision) trace := by
  cases attempt with
  | unprepared quiet => exact .of_none fun event member post => quiet event member post.isPost
  | refused quiet =>
      rw [guarded_append, guarded_singleton]
      exact ⟨.of_none fun event member post => quiet event member post.isPost,
        by simp [mutationEvent, Request.IsPostTo]⟩
  | unapplied changed =>
      rw [guarded_append, guarded_cons, guarded_singleton]
      exact ⟨.of_none fun event member post => changed.quiet event member post.isPost,
        by simp [mutationEvent, Request.IsPostTo], by simp [applyEvent, Request.IsPostTo]⟩
  | unverified changed _ reads =>
      rw [guarded_append, guarded_cons, guarded_cons]
      exact ⟨.of_none fun event member post => changed.quiet event member post.isPost,
        by simp [mutationEvent, Request.IsPostTo], by simp [applyEvent, Request.IsPostTo],
        .of_none (not_postTo_of_reads reads)⟩
  | unsynced changed answer reads confirmed sync =>
      exact guarded_of_sync changed answer reads confirmed sync
  | synced changed answer reads confirmed sync =>
      exact guarded_of_sync changed answer reads confirmed sync

theorem RollbackPosts.local_only {list : List (Post Role)}
    (rollback : RollbackPosts writer uuid list) : ∀ post ∈ list, post.node ≠ .peer := by
  cases rollback <;> simp [deletePost, applyPost, restartPost]

theorem PeerPosts.filter_peer {list : List (Post Role)} (peer : PeerPosts writer uuid list) :
    list.filter (fun post => post.node = .peer) = list := by
  cases peer <;> simp [deletePost, applyPost]

theorem SyncPosts.peer_eq {list : List (Post Role)} (sync : SyncPosts writer uuid list) :
    PeerPosts writer uuid (list.filter fun post => post.node = .peer) := by
  cases sync with
  | none => exact .none
  | triggered reply => exact .none
  | @cleaned reply response rest acknowledged cleanup =>
      have kept : (restartPost reply :: rest).filter (fun post => post.node = .peer) = rest := by
        simpa [restartPost] using cleanup.filter_peer
      rw [kept]
      exact cleanup

/-- The POSTs of a synchronization to the peer concern the requested object. -/
theorem Synced.peer_eq {front tail : Trace Role} {reply : Reply}
    {outcome : Except Exn (Option SyncResult)}
    (changed : Changed writer action payload uuid revision front reply after)
    (sync : Synced writer after.syncPlan after.peerDeleteRevision after.uuid expected tail
      outcome) : PeerPosts writer uuid (peerPosts tail) := by
  by_cases qualified : after.peerDeleteRevision = none
  · rw [qualified] at sync
    rcases sync.posts_unqualified with quiet | ⟨trigger, only⟩
    · rw [peerPosts, quiet]
      exact .none
    · rw [peerPosts, only]
      exact .none
  · have qualifies := changed.qualified qualified
    have same : after.uuid = uuid := changed.uuid (by simp [qualifies.1])
    rw [same] at sync
    exact (sync.posts_eq fun _ => qualifies.2.2.2).peer_eq

theorem AttemptRun.peer_eq {attempted : Except Exn Unit}
    (attempt : AttemptRun writer action payload uuid revision expected trace attempted after) :
    PeerPosts writer uuid (peerPosts trace) := by
  cases attempt with
  | unprepared quiet =>
      rw [peerPosts, posts_eq_nil quiet]
      exact .none
  | refused quiet =>
      rw [peerPosts, posts_append, posts_eq_nil quiet]
      exact .none
  | unapplied changed =>
      rw [peerPosts, posts_append, posts_eq_nil changed.quiet]
      exact .none
  | unverified changed _ reads =>
      rw [peerPosts, posts_append, posts_eq_nil changed.quiet, mutationEvent, applyEvent,
        posts_post, posts_post, posts_of_reads reads]
      exact .none
  | unsynced changed _ reads _ sync =>
      rw [peerPosts, posts_append, posts_eq_nil changed.quiet, mutationEvent, applyEvent,
        posts_post, posts_post, posts_append, posts_of_reads reads]
      exact sync.peer_eq changed
  | synced changed _ reads _ sync =>
      rw [peerPosts, posts_append, posts_eq_nil changed.quiet, mutationEvent, applyEvent,
        posts_post, posts_post, posts_append, posts_of_reads reads]
      exact sync.peer_eq changed

theorem RecoveryRun.local_only {attempting recovering : Trace Role}
    {attempted : Except Exn Unit} {middle settled : Execution}
    (recovery : RecoveryRun writer action attempted middle recovering settled)
    (attempt : AttemptRun writer action payload uuid revision expected attempting attempted
      middle) : ∀ post ∈ posts recovering, post.node ≠ .peer := by
  rcases recovery.posts_eq attempt with nothing | ⟨_, _, _, _, _, _, _, _, _, _, rollback⟩
  · simp [nothing]
  · exact rollback.local_only

theorem LockedRun.guarded_peer {outcome : Except Exn ExecuteResult}
    (run : LockedRun writer action payload uuid revision trace outcome) :
    Guarded (fun event => event.request.IsPostTo .peer)
      (fun front => ∃ more inner, front = more :: inner ∧
        PeerReady writer action payload uuid revision inner) trace := by
  rcases run.parts with ⟨started, rfl⟩ | ⟨started, expected, attempting, recovering, closing,
    attempted, middle, settled, rfl, _, attempt, recovery, quiet⟩
  · exact .of_none (by simp [Request.IsPostTo])
  rw [guarded_cons, guarded_append]
  refine ⟨by simp [Request.IsPostTo], ?_, .of_none ?_⟩
  · exact attempt.guarded_peer.mono fun front ready => ⟨_, front, rfl, ready⟩
  · rw [List.forall_mem_append]
    exact ⟨not_postTo_of_posts (recovery.local_only attempt),
      fun event member post => quiet event member post.isPost⟩

theorem LockedRun.peer_eq {outcome : Except Exn ExecuteResult}
    (run : LockedRun writer action payload uuid revision trace outcome) :
    PeerPosts writer uuid (peerPosts trace) := by
  rcases run.parts with ⟨started, rfl⟩ | ⟨started, expected, attempting, recovering, closing,
    attempted, middle, settled, rfl, _, attempt, recovery, quiet⟩
  · exact .none
  have attemptOnly : peerPosts (⟨.clock, started⟩ :: (attempting ++ (recovering ++ closing))) =
      peerPosts attempting := by
    change peerPosts (attempting ++ (recovering ++ closing)) = _
    have rolled : (posts recovering).filter (fun post => post.node = .peer) = [] := by
      simpa [List.filter_eq_nil_iff] using recovery.local_only attempt
    simp [peerPosts, posts_eq_nil quiet, rolled]
  rw [attemptOnly]
  exact attempt.peer_eq

/-- A POST is sent to the peer only after everything in `peerEvidence` has been observed, in that
order. The POSTs to the peer are one deletion of the requested object and, after its
acknowledgement, one application. -/
theorem execute_peer_posts {outcome : Except Exn ExecuteResult}
    (run : (writer.execute action payload uuid revision).Run before trace outcome after) :
    Guarded (fun event => event.request.IsPostTo .peer)
        (fun front => ∃ valid plan, checkedUuid action uuid revision = .ok valid ∧
          action = .delete ∧ writer.resource = .portForward ∧ writer.peer.isSome ∧
          writer.haSyncMode = .xmlrpcPf ∧
          InOrder (writer.peerEvidence payload plan valid revision) front) trace ∧
      (peerPosts trace = [] ∨ ∃ valid, checkedUuid action uuid revision = .ok valid ∧
        PeerPosts writer valid (peerPosts trace)) := by
  cases execute_run run with
  | invalid => exact ⟨.of_none (by simp), .inl rfl⟩
  | @locked valid lock locked _ validEq inner =>
      refine ⟨?_, .inr ⟨valid, validEq, ?_⟩⟩
      · rw [guarded_append, guarded_append, guarded_singleton]
        refine ⟨.of_none (by simp [Request.IsPostTo]), ?_, by simp [Request.IsPostTo]⟩
        refine inner.guarded_peer.mono fun front ready => ?_
        rcases ready with ⟨event, rest, rfl, qualifies, plan, evidence⟩
        exact ⟨valid, plan, validEq, qualifies.1, qualifies.2.1, qualifies.2.2.1, qualifies.2.2.2,
          evidence.skipEvent.skip⟩
      · have lockedOnly : peerPosts ([⟨.acquireGuard .writeLocks, ()⟩,
            ⟨.lockFor .writeLocks writer.lockKey, lock⟩, ⟨.releaseGuard .writeLocks, ()⟩,
            ⟨.acquire lock, ()⟩] ++ (locked ++ [⟨.release lock, ()⟩])) = peerPosts locked := by
          rw [peerPosts, posts_append, posts_append]
          exact congrArg _ (List.append_nil _)
        rw [lockedOnly]
        exact inner.peer_eq

end

/-! ### The deletion of a last port forward -/

/-- A writer of port forwards on a pair that synchronizes its firewall sections -/
def pairWriter : VerifiedFirewallWriter where
  client := ⟨"fw-a", "https://10.0.0.1"⟩
  peer := some ⟨"fw-b", "https://10.0.0.2"⟩
  resource := .portForward
  actor := "admin"
  haVerifyAttempts := 1
  haSyncMode := .xmlrpcPf
  attempts_pos := one_le_one_attempt
  attempts_le_ten := one_attempt_le_ten

/-- The answers to a qualified preflight -/
def preflightAnswer (role : Role) (path : Str) : Json :=
  let (address, status, target) : Str × Str × Str := match role with
    | .client => ("10.0.0.1", "MASTER", "10.0.0.2")
    | .peer => ("10.0.0.2", "BACKUP", "")
  if path = hasyncPath then
    .obj [("hasync", .obj [("synchronizetoip", .str target), ("syncitems", .str "nat")])]
  else if path = interfacesPath then
    .obj [("lan", .obj [("ipv4", .arr [.obj [("ipaddr", .str address)]])])]
  else .obj [("rows", .arr [.obj [("vhid", .str "1"), ("ipaddr", .str "10.0.0.9"),
    ("status", .str status)]])]

/-- Two nodes with one port forward each: a synchronization leaves the last one of the peer. -/
def keepsLast (history : Trace Role) : (request : Request Role) → Answer request
  | .get role path _ =>
      let deleted := (posts history).any fun post =>
        post.node = role && post.path = pairWriter.deletePath exampleUuid
      if path = pairWriter.searchPath then
        .ok (.obj [("rows", .arr (if deleted then [] else [.obj [("uuid", .str exampleUuid)]]))])
      else if path = pairWriter.detailPath exampleUuid then
        .ok (.obj [("rule", .obj [("interface", .str "wan")])])
      else .ok (preflightAnswer role path)
  | .post _ _ _ => .ok (.obj [("status", .str "ok")])
  | .append _ => .ok ()
  | .clock => ⟨[], 0⟩
  | .lockFor _ _ => 0
  | .acquireGuard _ | .releaseGuard _ | .acquire _ | .release _ => ()

def exampleRevision : Str :=
  "695afe0ab54a8ea92b1c6cba92e9bf36f1f87891904724ce6dbe61a77ba6d3cc"

/-- The deletion is repeated on the peer after a synchronization that did not repeat it. -/
theorem keepsLast_run :
    ∃ trace outcome after,
      (@execute Runtime.ascii pairWriter .delete .null exampleUuid exampleRevision).Run idle trace
        outcome after ∧
      (posts trace).map (fun post => (post.node, post.path)) =
        [(.client, pairWriter.deletePath exampleUuid), (.client, pairWriter.applyPath),
          (.client, restartPath), (.peer, pairWriter.deletePath exampleUuid),
          (.peer, pairWriter.applyPath)] := by
  rcases Program.replay_yields keepsLast
    (@execute Runtime.ascii pairWriter .delete .null exampleUuid exampleRevision idle) []
    with ⟨trace, recorded, run⟩
  refine ⟨trace, _, _, run, ?_⟩
  rw [List.nil_append] at recorded
  rw [← recorded]
  decide +kernel

/-- A POST of the run above, by its place in the list -/
theorem exists_of_paths {trace : Trace Role} {node : Role} {path : Str}
    (member : (node, path) ∈ (posts trace).map fun post => (post.node, post.path)) :
    ∃ front body reply back, trace = front ++ ⟨.post node path body, reply⟩ :: back := by
  rcases List.mem_map.mp member with ⟨post, posted, same⟩
  cases same
  rcases exists_of_mem_posts posted with ⟨front, back, rfl⟩
  exact ⟨front, post.body, post.reply, back, rfl⟩

theorem execute_peer_posts_last :
    ∃ trace outcome after,
      (@execute Runtime.ascii pairWriter .delete .null exampleUuid exampleRevision).Run idle trace
        outcome after ∧
      ∃ front event back valid plan, trace = front ++ event :: back ∧
        event.request.IsPostTo .peer ∧
        InOrder (@peerEvidence Runtime.ascii pairWriter .null plan valid exampleRevision)
          front := by
  rcases keepsLast_run with ⟨trace, outcome, after, run, paths⟩
  have member : (Role.peer, pairWriter.deletePath exampleUuid) ∈
      (posts trace).map fun post => (post.node, post.path) := by
    simp [paths]
  rcases exists_of_paths member with ⟨front, body, reply, back, rfl⟩
  rcases (@execute_peer_posts Runtime.ascii _ _ _ _ _ _ _ _ _ run).1 front _ back rfl rfl with
    ⟨valid, plan, _, _, _, _, _, evidence⟩
  exact ⟨_, _, _, run, front, _, back, valid, plan, rfl, rfl, evidence⟩

end VerifiedFirewallWriter

end OpnsensePlugin

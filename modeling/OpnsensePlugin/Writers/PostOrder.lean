import OpnsensePlugin.Writers.WholeRuns

/-!
# The POSTs of a write

Which POSTs `execute` makes, in which order, and that no POST is repeated. The
shapes below describe all POSTs of a call; those to the local node follow by
leaving out the cleanup of the peer.
-/

namespace OpnsensePlugin

open Effects Python

namespace VerifiedFirewallWriter

section

variable [Runtime] {writer : VerifiedFirewallWriter} {action : WriteAction} {payload : Json}
  {uuid revision : Str} {expected : Option Json} {before after : Execution} {trace : Trace Role}

def mutationPost (writer : VerifiedFirewallWriter) (action : WriteAction) (payload : Json)
    (uuid : Str) (reply : Reply) : Post Role :=
  ⟨.client, writer.mutationPath action uuid, bodyOf payload, reply⟩

/-! ## All POSTs -/

/-- The POSTs of a write that is not rolled back -/
inductive ForwardPosts (writer : VerifiedFirewallWriter) (action : WriteAction)
    (payload : Json) (uuid : Str) : List (Post Role) → Prop
  | none : ForwardPosts writer action payload uuid []
  | changed (reply : Reply) :
      ForwardPosts writer action payload uuid [writer.mutationPost action payload uuid reply]
  | applied {changed : Reply} {response : List (Str × Json)}
      (acknowledged : answered action.name changed = .ok response) (reply : Reply) :
      ForwardPosts writer action payload uuid
        [writer.mutationPost action payload uuid changed, writer.applyPost .client reply]
  | synced {changed applied : Reply} {response answer : List (Str × Json)} {target : Str}
      {rest : List (Post Role)} (acknowledged : answered action.name changed = .ok response)
      (answer : answered "apply" applied = .ok answer) (sync : SyncPosts writer target rest) :
      ForwardPosts writer action payload uuid
        (writer.mutationPost action payload uuid changed ::
          writer.applyPost .client applied :: rest)

/-- The POSTs of a rollback of a created object -/
inductive RollbackPosts (writer : VerifiedFirewallWriter) (created : Str) :
    List (Post Role) → Prop
  | refused (reply : Reply) :
      RollbackPosts writer created [writer.deletePost .client created reply]
  | applied {deleted : Reply} {response : List (Str × Json)}
      (acknowledged : answered "rollback delete" deleted = .ok response) (reply : Reply) :
      RollbackPosts writer created
        [writer.deletePost .client created deleted, writer.applyPost .client reply]
  | triggered {deleted applied : Reply} {response answer : List (Str × Json)}
      (acknowledged : answered "rollback delete" deleted = .ok response)
      (answer : answered "apply" applied = .ok answer) (reply : Reply) :
      RollbackPosts writer created
        [writer.deletePost .client created deleted, writer.applyPost .client applied,
          restartPost reply]

/-- The POSTs of a call -/
inductive WritePosts (writer : VerifiedFirewallWriter) (action : WriteAction)
    (payload : Json) (uuid : Str) : List (Post Role) → Prop
  | forward {list : List (Post Role)} (forward : ForwardPosts writer action payload uuid list) :
      WritePosts writer action payload uuid list
  | rolledBack {changed : Reply} {response : List (Str × Json)} {created : Str} {value : Json}
      {error : Exn} {rest : List (Post Role)} (create : action = .create)
      (acknowledged : answered action.name changed = .ok response)
      (createdEq : createdUuid response = .ok created)
      (unacknowledged : answered "apply" (.ok value) = .error error)
      (rollback : RollbackPosts writer created rest) :
      WritePosts writer action payload uuid
        (writer.mutationPost action payload uuid changed ::
          writer.applyPost .client (.ok value) :: rest)

theorem Changed.qualified {front : Trace Role} {reply : Reply}
    (changed : Changed writer action payload uuid revision front reply after)
    (qualified : after.peerDeleteRevision ≠ none) : writer.Qualifies action := by
  cases hash : after.peerDeleteRevision with
  | none => exact absurd hash qualified
  | some found => exact (changed.prepared.qualified found hash).2.1

theorem AttemptRun.posts_eq {attempted : Except Exn Unit}
    (attempt : AttemptRun writer action payload uuid revision expected trace attempted after) :
    ForwardPosts writer action payload uuid (posts trace) := by
  cases attempt with
  | unprepared quiet =>
      rw [posts_eq_nil quiet]
      exact .none
  | refused quiet =>
      rw [posts_append, posts_eq_nil quiet]
      exact .changed _
  | unapplied changed =>
      rcases changed.answer with ⟨response, acknowledged, _⟩
      rw [posts_append, posts_eq_nil changed.quiet]
      exact .applied acknowledged _
  | unverified changed answer reads =>
      rcases changed.answer with ⟨response, acknowledged, _⟩
      rw [posts_append, posts_eq_nil changed.quiet, mutationEvent, applyEvent, posts_post,
        posts_post, posts_of_reads reads]
      exact .applied acknowledged _
  | unsynced changed answer reads _ sync =>
      rcases changed.answer with ⟨response, acknowledged, _⟩
      rw [posts_append, posts_eq_nil changed.quiet, mutationEvent, applyEvent, posts_post,
        posts_post, posts_append, posts_of_reads reads]
      exact .synced acknowledged answer
        (sync.posts_eq fun qualified => (changed.qualified qualified).2.2.2)
  | synced changed answer reads _ sync =>
      rcases changed.answer with ⟨response, acknowledged, _⟩
      rw [posts_append, posts_eq_nil changed.quiet, mutationEvent, applyEvent, posts_post,
        posts_post, posts_append, posts_of_reads reads]
      exact .synced acknowledged answer
        (sync.posts_eq fun qualified => (changed.qualified qualified).2.2.2)

theorem RollbackRun.posts_eq {plan : Option SyncPlan} {verified : Bool}
    (run : RollbackRun writer plan none uuid trace verified) :
    RollbackPosts writer uuid (posts trace) := by
  cases run with
  | refused reply => exact .refused reply
  | unapplied acknowledged reply => exact .applied acknowledged reply
  | unread acknowledged answer reads =>
      rw [deleteEvent, applyEvent, posts_post, posts_post, posts_of_reads reads]
      exact .applied acknowledged _
  | synced acknowledged answer reads sync =>
      rw [deleteEvent, applyEvent, posts_post, posts_post, posts_append, posts_of_reads reads,
        List.nil_append]
      rcases sync.posts_unqualified with quiet | ⟨reply, trigger⟩
      · rw [quiet]
        exact .applied acknowledged _
      · rw [trigger]
        exact .triggered acknowledged answer reply

/-- A rejection after the acceptance of a create can only be the answer to the application. -/
theorem AttemptRun.rejected {error : Exn}
    (attempt : AttemptRun writer action payload uuid revision expected trace (.error error) after)
    (accepted : after.accepted = true) (rejected : isRejected error = true) :
    ∃ front reply applied,
      trace = front ++ [writer.mutationEvent action payload uuid reply, writer.applyEvent applied] ∧
        Changed writer action payload uuid revision front reply after ∧
        answered "apply" applied = .error error := by
  cases attempt with
  | unprepared _ unaccepted _ => simp [unaccepted] at accepted
  | refused _ _ unaccepted _ => simp [unaccepted] at accepted
  | unapplied changed failed _ => exact ⟨_, _, _, rfl, changed, failed⟩
  | unverified _ _ _ lenient _ => simp [lenient] at rejected
  | unsynced _ _ _ _ _ lenient _ => simp [lenient] at rejected

/-- A recovery makes POSTs only to delete what an unapplied create has created. -/
theorem RecoveryRun.posts_eq {attempting recovering : Trace Role} {attempted : Except Exn Unit}
    {middle settled : Execution}
    (recovery : RecoveryRun writer action attempted middle recovering settled)
    (attempt : AttemptRun writer action payload uuid revision expected attempting attempted
      middle) :
    posts recovering = [] ∨ ∃ changed response created value error,
      action = .create ∧ posts attempting = [writer.mutationPost action payload uuid changed,
        writer.applyPost .client (.ok value)] ∧
      answered action.name changed = .ok response ∧ createdUuid response = .ok created ∧
      answered "apply" (.ok value) = .error error ∧
      RollbackPosts writer created (posts recovering) := by
  cases recovery with
  | passed => exact .inl rfl
  | kept => exact .inl rfl
  | @rolledBack error _ _ failed accepted create rejected rollback =>
      subst failed
      rcases attempt.rejected accepted rejected with ⟨front, reply, applied, rfl, changed, failed⟩
      rcases answered_rejected failed rejected with ⟨value, rfl⟩
      rcases changed.answer with ⟨response, acknowledged, created⟩
      have unqualified : middle.peerDeleteRevision = none := by
        by_contra qualified
        have delete := (changed.qualified qualified).1
        rw [create] at delete
        cases delete
      rw [unqualified] at rollback
      refine .inr ⟨reply, response, middle.uuid, value, error, create, ?_, acknowledged,
        created create, failed, rollback.posts_eq⟩
      rw [posts_append, posts_eq_nil changed.quiet]
      rfl

theorem LockedRun.posts_eq {outcome : Except Exn ExecuteResult}
    (run : LockedRun writer action payload uuid revision trace outcome) :
    WritePosts writer action payload uuid (posts trace) := by
  rcases run.parts with ⟨started, rfl⟩ | ⟨started, expected, attempting, recovering, closing,
    attempted, middle, settled, rfl, _, attempt, recovery, quiet⟩
  · exact .forward .none
  have clock : posts (⟨.clock, started⟩ :: (attempting ++ (recovering ++ closing))) =
      posts attempting ++ posts recovering := by
    change posts (attempting ++ (recovering ++ closing)) = _
    rw [posts_append, posts_append, posts_eq_nil quiet, List.append_nil]
  rw [clock]
  rcases recovery.posts_eq attempt with nothing | ⟨changed, response, created, value, error,
    create, both, acknowledged, createdEq, unacknowledged, rollback⟩
  · rw [nothing, List.append_nil]
    exact .forward attempt.posts_eq
  · rw [both]
    exact .rolledBack create acknowledged createdEq unacknowledged rollback

/-! ## POSTs to the local node -/

/-- The POSTs of a call to the local node: each is made only after the acknowledgement of the one
before, and a create whose application was answered without acknowledgement is deleted. -/
inductive LocalPosts (writer : VerifiedFirewallWriter) (action : WriteAction)
    (payload : Json) (uuid : Str) : List (Post Role) → Prop
  | none : LocalPosts writer action payload uuid []
  | changed (reply : Reply) :
      LocalPosts writer action payload uuid [writer.mutationPost action payload uuid reply]
  | applied {changed : Reply} {response : List (Str × Json)}
      (acknowledged : answered action.name changed = .ok response) (reply : Reply) :
      LocalPosts writer action payload uuid
        [writer.mutationPost action payload uuid changed, writer.applyPost .client reply]
  | triggered {changed applied : Reply} {response answer : List (Str × Json)}
      (acknowledged : answered action.name changed = .ok response)
      (answer : answered "apply" applied = .ok answer) (reply : Reply) :
      LocalPosts writer action payload uuid
        [writer.mutationPost action payload uuid changed, writer.applyPost .client applied,
          restartPost reply]
  | rolledBack {changed : Reply} {response : List (Str × Json)} {created : Str} {value : Json}
      {error : Exn} {rest : List (Post Role)} (create : action = .create)
      (acknowledged : answered action.name changed = .ok response)
      (createdEq : createdUuid response = .ok created)
      (unacknowledged : answered "apply" (.ok value) = .error error)
      (rollback : RollbackPosts writer created rest) :
      LocalPosts writer action payload uuid
        (writer.mutationPost action payload uuid changed ::
          writer.applyPost .client (.ok value) :: rest)

def localPosts (trace : Trace Role) : List (Post Role) :=
  (posts trace).filter fun post => post.node = .client

theorem PeerPosts.filter_client {list : List (Post Role)} (peer : PeerPosts writer uuid list) :
    list.filter (fun post => post.node = .client) = [] := by
  cases peer <;> simp [deletePost, applyPost]

theorem WritePosts.local_eq {list : List (Post Role)}
    (posts : WritePosts writer action payload uuid list) :
    LocalPosts writer action payload uuid
      (list.filter fun post => post.node = .client) := by
  cases posts with
  | forward forward =>
      cases forward with
      | none => exact .none
      | changed reply => exact .changed reply
      | applied acknowledged reply => exact .applied acknowledged reply
      | synced acknowledged answer sync =>
          cases sync with
          | none => exact .applied acknowledged _
          | triggered reply => exact .triggered acknowledged answer reply
          | @cleaned reply response rest trigger cleanup =>
              have local_ : LocalPosts writer action payload uuid
                  [_, _, restartPost reply] := .triggered acknowledged answer reply
              simpa [List.filter_cons, mutationPost, applyPost, restartPost,
                cleanup.filter_client] using local_
  | rolledBack create acknowledged createdEq unacknowledged rollback =>
      have all : ∀ {rest : List (Post Role)} {created : Str}, RollbackPosts writer created rest →
          rest.filter (fun post => post.node = .client) = rest := by
        intro rest created rollback
        cases rollback <;> simp [deletePost, applyPost, restartPost]
      simp only [List.filter_cons, mutationPost, applyPost, all rollback]
      exact .rolledBack create acknowledged createdEq unacknowledged rollback

theorem answered_received {operation : Str} {reply : Reply} {response : List (Str × Json)}
    (success : answered operation reply = .ok response) : ∃ value, reply = .ok value := by
  simp only [answered, bind_eq_ok, received_eq_ok] at success
  rcases success with ⟨value, received, _⟩
  exact ⟨value, received⟩

theorem PeerPosts.received {list : List (Post Role)} (peer : PeerPosts writer uuid list) :
    ∀ post ∈ list.dropLast, ∃ value, post.reply = .ok value := by
  cases peer with
  | none => simp
  | deletion reply => simp
  | applied acknowledged reply => simpa [deletePost] using answered_received acknowledged

theorem SyncPosts.received {list : List (Post Role)} (sync : SyncPosts writer uuid list) :
    ∀ post ∈ list.dropLast, ∃ value, post.reply = .ok value := by
  cases sync with
  | none => simp
  | triggered reply => simp
  | cleaned acknowledged cleanup =>
      have trigger := answered_received acknowledged
      cases cleanup with
      | none => simp
      | deletion reply => simpa [restartPost] using trigger
      | applied deleted reply =>
          simpa [restartPost, deletePost] using ⟨trigger, answered_received deleted⟩

theorem RollbackPosts.received {list : List (Post Role)}
    (rollback : RollbackPosts writer uuid list) :
    list ≠ [] ∧ ∀ post ∈ list.dropLast, ∃ value, post.reply = .ok value := by
  cases rollback with
  | refused reply => simp
  | applied acknowledged reply => simpa [deletePost] using answered_received acknowledged
  | triggered acknowledged answer reply =>
      simpa [deletePost, applyPost] using
        ⟨answered_received acknowledged, answered_received answer⟩

/-- Every POST but the last was answered: a POST that raised is followed by none. -/
theorem WritePosts.received {list : List (Post Role)}
    (posts : WritePosts writer action payload uuid list) :
    ∀ post ∈ list.dropLast, ∃ value, post.reply = .ok value := by
  cases posts with
  | forward forward =>
      cases forward with
      | none => simp
      | changed reply => simp
      | applied acknowledged reply => simpa [mutationPost] using answered_received acknowledged
      | synced acknowledged answer sync =>
          have changed := answered_received acknowledged
          have applied := answered_received answer
          cases sync with
          | none => simpa [mutationPost] using changed
          | triggered reply => simpa [mutationPost, applyPost] using ⟨changed, applied⟩
          | cleaned trigger cleanup =>
              have rest := (SyncPosts.cleaned trigger cleanup).received
              simpa [mutationPost, applyPost] using ⟨changed, applied, rest⟩
  | rolledBack create acknowledged createdEq unacknowledged rollback =>
      have changed := answered_received acknowledged
      rcases rollback.received with ⟨nonempty, rest⟩
      simpa [mutationPost, applyPost, List.dropLast_cons_of_ne_nil nonempty] using ⟨changed, rest⟩

/-! ## Deletions of created objects -/

omit [Runtime] in
theorem addPath_ne_deletePath {target : Str} :
    writer.mutationPath .create uuid ≠ writer.deletePath target := by
  intro same
  simp only [mutationPath, deletePath, List.append_assoc, WriteAction.verb] at same
  have second := congrArg (fun path => path[1]?) (List.append_cancel_left same)
  simp [Str.ofString, code] at second

omit [Runtime] in
theorem applyPath_ne_deletePath {target : Str} : writer.applyPath ≠ writer.deletePath target := by
  intro same
  simp only [applyPath, deletePath, List.append_assoc] at same
  have second := congrArg (fun path => path[1]?) (List.append_cancel_left same)
  cases kind : writer.resource <;>
    simp [spec, kind, Resource.spec, Str.ofString, code] at second

omit [Runtime] in
theorem restartPath_ne_deletePath {target : Str} : restartPath ≠ writer.deletePath target := by
  intro same
  simp only [deletePath, List.append_assoc] at same
  exact restartPath_ne same.symm

/-- A POST that deletes an object of the writer's resource -/
def IsDeletion (writer : VerifiedFirewallWriter) (post : Post Role) : Prop :=
  ∃ target, post.path = writer.deletePath target

/-- A create is followed by a deletion only where the application was answered without an
acknowledgement. -/
theorem LocalPosts.deleted {list : List (Post Role)}
    (posts : LocalPosts writer .create payload uuid list)
    (deletion : ∃ post ∈ list, writer.IsDeletion post) :
    ∃ changed value error created deleted rest,
      list = changed :: writer.applyPost .client (.ok value) ::
        writer.deletePost .client created deleted :: rest ∧
      answered "apply" (.ok value) = .error error := by
  have add : ∀ reply, ¬ writer.IsDeletion (writer.mutationPost .create payload uuid reply) :=
    fun _ ⟨_, same⟩ => addPath_ne_deletePath same
  have apply : ∀ reply, ¬ writer.IsDeletion (writer.applyPost .client reply) :=
    fun _ ⟨_, same⟩ => applyPath_ne_deletePath same
  have restart : ∀ reply, ¬ writer.IsDeletion (restartPost reply) :=
    fun _ ⟨_, same⟩ => restartPath_ne_deletePath same
  cases posts with
  | none => simp at deletion
  | changed => simp [add] at deletion
  | applied => simp [add, apply] at deletion
  | triggered => simp [add, apply, restart] at deletion
  | rolledBack _ _ _ unacknowledged rollback =>
      cases rollback with
      | refused => exact ⟨_, _, _, _, _, _, rfl, unacknowledged⟩
      | applied => exact ⟨_, _, _, _, _, _, rfl, unacknowledged⟩
      | triggered => exact ⟨_, _, _, _, _, _, rfl, unacknowledged⟩

/-! ## The guarantee -/

theorem LockedRun.guarded_posts {outcome : Except Exn ExecuteResult}
    (run : LockedRun writer action payload uuid revision trace outcome) :
    Guarded (fun event => event.request.IsPost)
      (InOrder [writer.Started action payload uuid]) trace := by
  rcases run.prepared with quiet | ⟨started, front, rest, state, rfl, quiet, prepared⟩
  · exact .of_none quiet
  rw [guarded_cons]
  refine ⟨fun post => post.elim, .of_front quiet fun more => ?_⟩
  have recorded : InOrder [writer.Started action payload uuid] front :=
    InOrder.left prepared.planned
  exact recorded.extend.skipEvent

/-- A POST is made only after the `started` record. The POSTs to the local node are one change,
one application and one trigger, except that a create whose application was answered without
acknowledgement is deleted again. A POST that raised is the last one to either node. -/
theorem execute_posts {outcome : Except Exn ExecuteResult}
    (run : (writer.execute action payload uuid revision).Run before trace outcome after) :
    Guarded (fun event => event.request.IsPost)
        (fun front => ∃ valid, checkedUuid action uuid revision = .ok valid ∧
          InOrder [writer.Started action payload valid] front) trace ∧
      (localPosts trace = [] ∨ ∃ valid, checkedUuid action uuid revision = .ok valid ∧
        LocalPosts writer action payload valid (localPosts trace)) ∧
      (∀ post ∈ (posts trace).dropLast, ∃ value, post.reply = .ok value) ∧
      (action = .create → (∃ post ∈ localPosts trace, writer.IsDeletion post) →
        ∃ changed value error created deleted rest,
          localPosts trace = changed :: writer.applyPost .client (.ok value) ::
            writer.deletePost .client created deleted :: rest ∧
          answered "apply" (.ok value) = .error error) := by
  cases execute_run run with
  | invalid => exact ⟨.of_none (by simp), .inl rfl, by simp, by simp [localPosts]⟩
  | @locked valid lock locked _ validEq inner =>
      have postsEq : posts ([⟨.acquireGuard .writeLocks, ()⟩,
          ⟨.lockFor .writeLocks writer.lockKey, lock⟩, ⟨.releaseGuard .writeLocks, ()⟩,
          ⟨.acquire lock, ()⟩] ++ (locked ++ [⟨.release lock, ()⟩])) = posts locked := by
        rw [posts_append, posts_append]
        exact List.append_nil _
      have sequence := inner.posts_eq.local_eq
      refine ⟨?_, .inr ⟨valid, validEq, ?_⟩, ?_, ?_⟩
      · rw [guarded_append, guarded_append, guarded_singleton]
        refine ⟨.of_none (by simp [Request.IsPost]), ?_, by simp [Request.IsPost]⟩
        exact inner.guarded_posts.mono fun front recorded => ⟨valid, validEq, recorded.skip⟩
      · rw [localPosts, postsEq]
        exact sequence
      · rw [postsEq]
        exact inner.posts_eq.received
      · rintro rfl
        rw [localPosts, postsEq]
        exact sequence.deleted

end

/-! ### A rolled back create -/

/-- A writer of aliases on a single node -/
def aliasWriter : VerifiedFirewallWriter where
  client := ⟨"fw-a", "https://10.0.0.1"⟩
  peer := none
  resource := .aliases
  actor := "admin"
  haVerifyAttempts := 6
  haSyncMode := .automatic
  attempts_pos := one_le_six_attempts
  attempts_le_ten := six_attempts_le_ten

def exampleUuid : Str := "01234567-89ab-cdef-0123-456789abcdef"

/-- A node that saves every change and refuses to apply it -/
def refusesApply : (request : Request Role) → Answer request
  | .get _ _ _ => .ok (.obj [("rows", .arr [])])
  | .post _ path _ =>
      if path = aliasWriter.applyPath then .ok (.obj [("status", .str "failed")])
      else .ok (.obj [("result", .str "saved"), ("uuid", .str exampleUuid)])
  | .append _ => .ok ()
  | .clock => ⟨[], 0⟩
  | .lockFor _ _ => 0
  | .acquireGuard _ | .releaseGuard _ | .acquire _ | .release _ => ()

def aliasPayload : Json := .obj [("alias", .obj [("name", .str "blocked")])]

/-- Nothing has been executed by the writer yet. -/
def idle : Execution where
  syncPlan := none
  peerDeleteRevision := none
  result := .initial .create []
  accepted := false
  uuid := []

/-- The created alias is deleted again, and the deletion applied. -/
theorem execute_posts_refused :
    ∃ trace outcome after,
      (@execute Runtime.ascii aliasWriter .create aliasPayload [] []).Run idle trace outcome after ∧
      (localPosts trace).map Post.path = [aliasWriter.mutationPath .create [],
        aliasWriter.applyPath, aliasWriter.deletePath exampleUuid, aliasWriter.applyPath] ∧
      ∃ changed value error created deleted rest,
        localPosts trace = changed :: aliasWriter.applyPost .client (.ok value) ::
          aliasWriter.deletePost .client created deleted :: rest ∧
        @answered Runtime.ascii "apply" (.ok value) = .error error := by
  rcases Program.replay_yields (fun _ => refusesApply)
    (@execute Runtime.ascii aliasWriter .create aliasPayload [] [] idle) []
    with ⟨trace, recorded, run⟩
  have paths : (localPosts trace).map Post.path = [aliasWriter.mutationPath .create [],
      aliasWriter.applyPath, aliasWriter.deletePath exampleUuid, aliasWriter.applyPath] := by
    rw [List.nil_append] at recorded
    rw [← recorded]
    decide +kernel
  have deletion : ∃ post ∈ localPosts trace, aliasWriter.IsDeletion post := by
    have member : aliasWriter.deletePath exampleUuid ∈ (localPosts trace).map Post.path := by
      simp [paths]
    rcases List.mem_map.mp member with ⟨post, found, path⟩
    exact ⟨post, found, exampleUuid, path⟩
  have guarantee := @execute_posts Runtime.ascii aliasWriter .create aliasPayload [] [] idle _ trace
    _ run
  exact ⟨trace, _, _, run, paths, guarantee.2.2.2 rfl deletion⟩

end VerifiedFirewallWriter

end OpnsensePlugin

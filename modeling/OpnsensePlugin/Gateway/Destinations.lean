import OpnsensePlugin.Gateway
import OpnsensePlugin.Paths.ApiCalls
import OpnsensePlugin.Writers.PeerCleanup

/-!
# Where the POSTs go

The builders and services of the handlers, by the node and the path of their POSTs.
What reads makes none, apart from two searches that OPNsense offers as a POST. What
writes sends its POSTs to the client, and to the peer only when a port forward is
deleted.
-/

namespace OpnsensePlugin

open Effects Python

/-- Every POST goes to an allowed path of an allowed node. -/
def Request.PostsWithin {Node : Type} (allowed : Node → Str → Prop) : Request Node → Prop
  | .post node path _ => allowed node path
  | _ => True

section Requests

variable {Node State α : Type} {allowed wider : Node → Str → Prop} {action : Py Node State α}
  {request : Request Node}

theorem Request.IsGet.postsWithin (get : request.IsGet) : request.PostsWithin allowed := by
  cases request <;> simp_all [Request.IsGet, Request.PostsWithin]

theorem IsInternal.postsWithin (internal : IsInternal request) : request.PostsWithin allowed := by
  cases request <;> simp_all [IsInternal, Request.PostsWithin]

theorem Request.PostsWithin.of_not_post (quiet : ¬ request.IsPost) :
    request.PostsWithin allowed := by
  cases request <;> simp_all [Request.IsPost, Request.PostsWithin]

theorem Request.PostsWithin.mono (within : request.PostsWithin allowed)
    (widens : ∀ node path, allowed node path → wider node path) : request.PostsWithin wider := by
  cases request with
  | post node path body => exact widens node path within
  | _ => exact trivial

/-- The POSTs of the code go to allowed paths of allowed nodes. -/
abbrev Posts (allowed : Node → Str → Prop) (action : Py Node State α) : Prop :=
  Action.Ensures (Action.Requests (Request.PostsWithin allowed)) action

theorem posts_of_gets (reads : Action.Ensures (Action.Observes Request.IsGet) action) :
    Posts allowed action :=
  (reads.widen fun _ get => get.postsWithin).requests

theorem posts_of_internal (internal : Action.Ensures (Action.Observes IsInternal) action) :
    Posts allowed action :=
  (internal.widen fun _ silent => silent.postsWithin).requests

theorem Posts.mono (posts : Posts allowed action)
    (widens : ∀ node path, allowed node path → wider node path) : Posts wider action := by
  intro before trace outcome after run event member
  exact (posts before trace outcome after run event member).mono widens

theorem callPost_posts {reached : Role → Str → Prop} {node : Role} {path : Str} {payload : Json}
    (goes : reached node path) :
    Posts reached (Management.callPost node path payload : Py Role State Json) := by
  apply Action.ensures_bind
  · apply Action.ensures_ask
    intro state answer
    simpa [Action.Requests, Request.PostsWithin] using goes
  · intro reply
    exact Action.ensures_ofExcept

theorem clientPost_posts {node : Node} {path : Str} {payload : Json} (goes : allowed node path) :
    Posts allowed (clientPost node path payload : Py Node State Json) := by
  apply Action.ensures_bind
  · apply Action.ensures_ask
    intro state answer
    simpa [Action.Requests, Request.PostsWithin] using goes
  · intro reply
    exact Action.ensures_ofExcept

end Requests

variable [Runtime] {State : Type}

/-! ## The resolution of the target -/

section Target

variable {allowed : Side → Str → Prop} {cfg : Config} {write : Bool} {a b : Host}

theorem collectCarpStatus_posts {side : Side} :
    Posts allowed (collectCarpStatus side : Py Side State CarpStatus) := by
  intro before trace outcome after run
  rw [run_collectCarpStatus] at run
  rcases run with ⟨reply, rfl, _, _⟩
  simp [Action.Requests, Request.PostsWithin]

theorem probeSide_posts : Posts allowed (probeSide : Py Side State Side) := by
  apply Action.ensures_handle
  · refine Action.ensures_bind collectCarpStatus_posts ?_
    intro left
    refine Action.ensures_bind collectCarpStatus_posts ?_
    intro right
    exact Action.ensures_pure
  · intro error
    exact Action.ensures_pure

theorem probeAndKeep_posts {now : Clock} :
    Posts allowed (resolvedMasterSide.probeAndKeep a b now) := by
  refine Action.ensures_bind Action.ensures_ofExcept ?_
  intro _
  refine Action.ensures_bind Action.ensures_ofExcept ?_
  intro _
  refine Action.ensures_bind probeSide_posts ?_
  intro side
  refine Action.ensures_bind Action.requests_modifyState ?_
  intro _
  exact Action.ensures_pure

theorem resolvedMasterSide_posts : Posts allowed (resolvedMasterSide a b) := by
  refine Action.ensures_bind (posts_of_internal readClock_internal) ?_
  intro now
  refine Action.ensures_bind Action.ensures_readState ?_
  intro cache
  split
  · split
    · exact Action.ensures_pure
    · exact probeAndKeep_posts
  · exact probeAndKeep_posts

theorem probePair_posts : Posts allowed (probePair a b : Py Side State _) := by
  refine Action.ensures_bind Action.ensures_ofExcept ?_
  intro _
  refine Action.ensures_bind collectCarpStatus_posts ?_
  intro left
  refine Action.ensures_bind Action.ensures_ofExcept ?_
  intro _
  refine Action.ensures_bind collectCarpStatus_posts ?_
  intro right
  refine Action.ensures_bind Action.ensures_ofExcept ?_
  intro side
  exact Action.ensures_pure

theorem firewallTarget_posts : Posts allowed (firewallTarget resolvedMasterSide cfg write) := by
  unfold firewallTarget
  dsimp only
  split
  · exact Action.ensures_pure
  refine Action.ensures_bind Action.ensures_ofExcept ?_
  intro cluster
  split
  · refine Action.ensures_bind Action.ensures_ofExcept ?_
    intro count
    refine Action.ensures_bind Action.ensures_raiseIf ?_
    intro _
    refine Action.ensures_bind Action.ensures_ofExcept ?_
    intro a
    refine Action.ensures_bind Action.ensures_ofExcept ?_
    intro b
    split
    · exact probePair_posts
    · refine Action.ensures_bind resolvedMasterSide_posts ?_
      intro side
      exact Action.ensures_pure
  · refine Action.ensures_bind Action.ensures_ofExcept ?_
    intro host
    exact Action.ensures_pure

end Target

/-! ## The firewall pages -/

namespace FirewallRoute

variable {allowed : Role → Str → Prop} {host : Host} {resource : Resource}
  {settings : FirewallSettings}

theorem listedItem_posts {summary : Bool} {row : Row} :
    Posts allowed (listedItem host resource summary row : Py Role State _) := by
  unfold listedItem
  split
  · refine Action.ensures_bind Action.ensures_ofExcept ?_
    intro shown
    exact Action.ensures_pure
  · split
    · refine Action.ensures_bind Action.ensures_ofExcept ?_
      intro shown
      exact Action.ensures_pure
    · refine Action.ensures_bind (posts_of_gets VerifiedFirewallWriter.get_observes) ?_
      intro detail
      exact Action.ensures_ofExcept

theorem listedItems_posts {summary : Bool} {rows : List Row} :
    Posts allowed (listedItems host resource summary rows : Py Role State _) := by
  induction rows with
  | nil => exact Action.ensures_pure
  | cons row rest ih =>
      refine Action.ensures_bind listedItem_posts ?_
      intro item
      refine Action.ensures_bind ih ?_
      intro items
      exact Action.ensures_pure

theorem listPayload_posts {summary : Bool} :
    Posts allowed (listPayload host resource summary : Py Role State Response) := by
  apply Action.ensures_bind
  · apply Action.ensures_attempt
    refine Action.ensures_bind Action.ensures_ofExcept ?_
    intro _
    refine Action.ensures_bind (posts_of_gets VerifiedFirewallWriter.search_observes) ?_
    intro rows
    exact listedItems_posts
  · intro outcome
    cases outcome <;> exact Action.ensures_pure

theorem detailPayload_posts {uuid : Json} :
    Posts allowed (detailPayload host resource uuid : Py Role State Response) := by
  unfold detailPayload
  split
  · exact Action.ensures_pure
  · apply Action.ensures_bind
    · apply Action.ensures_attempt
      refine Action.ensures_bind Action.ensures_ofExcept ?_
      intro _
      refine Action.ensures_bind (posts_of_gets VerifiedFirewallWriter.get_observes) ?_
      intro detail
      exact Action.ensures_ofExcept
    · intro outcome
      cases outcome <;> exact Action.ensures_pure

/-- The body asks for the deletion of an object. -/
def Deletes (body : Json) : Prop := ∃ fields, body = .obj fields ∧ actionOf fields = some .delete

/-- A POST of an action goes to the client, or to the peer of a port forward that is deleted. -/
def Reached (settings : FirewallSettings) (resource : Resource) (body : Json) (role : Role)
    (_ : Str) : Prop :=
  role = .client ∨
    (role = .peer ∧ settings.peerHost.isSome ∧ resource = .portForward ∧ Deletes body)

theorem execute_guarded {writer : VerifiedFirewallWriter} {action : WriteAction} {payload : Json}
    {uuid revision : Str} {before after : Execution} {trace : Trace Role}
    {outcome : Except Exn ExecuteResult}
    (run : (writer.execute action payload uuid revision).Run before trace outcome after) :
    Guarded (fun event => event.request.IsPostTo .peer) (fun _ => writer.Qualifies action) trace := by
  cases VerifiedFirewallWriter.execute_run run with
  | invalid => exact .of_none (by simp)
  | locked validEq inner =>
      rw [guarded_append, guarded_append, guarded_singleton]
      refine ⟨.of_none (by simp [Request.IsPostTo]), ?_, by simp [Request.IsPostTo]⟩
      refine inner.guarded_peer.mono ?_
      rintro _ ⟨_, _, _, qualifies, _⟩
      exact qualifies

theorem execute_posts_reach {body : Json} {request : ActionRequest}
    (accepted : actionRequest resource body = .ok request) :
    Posts (Reached settings resource body) ((writerOf settings resource).execute request.action
      request.payload request.uuid request.revision) := by
  rintro before trace outcome after run ⟨asked, answer⟩ member
  rcases List.append_of_mem member with ⟨front, back, split⟩
  rcases actionRequest_eq_ok accepted with ⟨fields, rfl, named, _⟩
  cases asked with
  | post node path sent =>
      cases node with
      | client => exact .inl rfl
      | peer =>
          have qualifies := execute_guarded run front _ back split rfl
          exact .inr ⟨rfl, qualifies.2.2.1, qualifies.2.1, fields, rfl, by rw [named, qualifies.1]⟩
  | _ => exact trivial

theorem actionPayload_posts {body : Json} :
    Posts (Reached settings resource body) (actionPayload settings resource body : Py Role State Response) := by
  unfold actionPayload
  split
  · exact Action.ensures_pure
  apply Action.ensures_bind
  · apply Action.ensures_attempt
    apply Action.ensures_bind_ofExcept
    intro request accepted
    refine Action.ensures_bind Action.ensures_ofExcept ?_
    intro _
    apply Action.ensures_bind
    · exact (Action.observes_withState (execute_posts_reach accepted)).requests
    · intro ended
      exact Action.ensures_pure
  · intro outcome
    cases outcome <;> exact Action.ensures_pure

end FirewallRoute

/-! ## The legacy pages -/

namespace LegacyPage

variable {page : LegacyPage} {host : Host}

/-- The search of the peers, which is repeated as a POST -/
def Searched (_ : Party) (path : Str) : Prop := path = LegacyPage.wg.searchPath

omit [Runtime] in
theorem clientGet_posts {allowed : Party → Str → Prop} {path : Str} :
    Posts allowed (clientGet .client path : Py Party State Json) :=
  posts_of_gets clientGet_observes

omit [Runtime] in
theorem search_posts : Posts Searched (page.search : Py Party State Json) := by
  cases page with
  | wg =>
      refine Action.ensures_bind (Action.ensures_attempt clientGet_posts) ?_
      intro answered
      cases answered with
      | ok out => exact Action.ensures_pure
      | error error => exact clientPost_posts rfl
  | _ => exact clientGet_posts

omit [Runtime] in
theorem subnets_posts : Posts Searched (page.subnets : Py Party State _) := by
  cases page with
  | dhcp =>
      refine Action.ensures_bind clientGet_posts ?_
      intro out
      exact Action.ensures_pure
  | _ => exact Action.ensures_pure

theorem listPayload_posts : Posts Searched (page.listPayload host : Py Party State Response) := by
  refine Action.ensures_bind Action.ensures_ofExcept ?_
  intro _
  refine Action.ensures_bind ?_ ?_
  · apply Action.ensures_attempt
    refine Action.ensures_bind search_posts ?_
    intro out
    refine Action.ensures_bind subnets_posts ?_
    intro others
    exact Action.ensures_ofExcept
  · intro outcome
    cases outcome <;> exact Action.ensures_pure

end LegacyPage

/-! ## The administration services -/

/-- A POST to the client -/
def ToClient (role : Role) (_ : Str) : Prop := role = .client

namespace ManagementService

open Management

variable {allowed : Role → Str → Prop} {service : ManagementService} {spec : Spec}
  {request : MutateRequest}

theorem detail_posts {uuid : Option Json} :
    Posts allowed (detail spec uuid : Py Role State DetailView) := by
  refine Action.ensures_bind Action.ensures_ofExcept ?_
  intro found
  refine Action.ensures_bind (posts_of_gets raw_observes) ?_
  intro object
  exact Action.ensures_ofExcept

theorem listPage_posts {page rowCount search : Json} :
    Posts allowed (listPage spec page rowCount search : Py Role State PageView) := by
  refine Action.ensures_bind Action.ensures_ofExcept ?_
  rintro ⟨page, rowCount, search⟩
  dsimp only
  split
  · refine Action.ensures_bind detail_posts ?_
    intro view
    exact Action.ensures_pure
  · refine Action.ensures_bind Action.ensures_ofExcept ?_
    intro target
    refine Action.ensures_bind (posts_of_gets callGet_observes) ?_
    intro out
    refine Action.ensures_bind Action.ensures_ofExcept ?_
    intro listing
    exact Action.ensures_pure

theorem save_posts {payload : Json} : Posts ToClient (save spec request payload) := by
  refine Action.ensures_bind Action.ensures_ofExcept ?_
  intro target
  refine Action.ensures_bind (callPost_posts rfl) ?_
  intro response
  refine Action.ensures_bind Action.ensures_ofExcept ?_
  intro _
  refine Action.ensures_bind Action.ensures_ofExcept ?_
  intro uuid
  exact Action.requests_modifyState

theorem applyAll_posts {targets : List Str} : Posts ToClient (applyAll spec targets) := by
  induction targets with
  | nil => exact Action.ensures_pure
  | cons target rest ih =>
      refine Action.ensures_bind (callPost_posts rfl) ?_
      intro response
      refine Action.ensures_bind Action.ensures_ofExcept ?_
      intro _
      exact ih

theorem attemptMutation_posts {expected payload : Json} {started : Clock} :
    Posts ToClient (service.attemptMutation spec request expected payload started) := by
  refine Action.ensures_bind save_posts ?_
  intro _
  refine Action.ensures_bind ?_ ?_
  · refine Action.ensures_bind Action.ensures_raiseIf ?_
    intro _
    refine Action.ensures_bind applyAll_posts ?_
    intro _
    exact Action.requests_modifyState
  intro _
  refine Action.ensures_bind Action.ensures_readState ?_
  intro mutation
  refine Action.ensures_bind (posts_of_gets verifyChange_observes) ?_
  intro _
  refine Action.ensures_bind (posts_of_internal audit_internal) ?_
  intro _
  refine Action.ensures_bind Action.ensures_ofExcept ?_
  intro secret
  exact Action.ensures_pure

theorem mutateLocked_posts : Posts ToClient (service.mutateLocked spec request) := by
  refine Action.ensures_bind (posts_of_internal readClock_internal) ?_
  intro started
  refine Action.ensures_bind ?_ ?_
  · refine Action.ensures_bind (posts_of_gets raw_observes) ?_
    intro object
    refine Action.ensures_bind Action.ensures_ofExcept ?_
    intro _
    refine Action.ensures_bind Action.ensures_ofExcept ?_
    intro expected
    refine Action.ensures_bind Action.ensures_ofExcept ?_
    intro payload
    refine Action.ensures_bind (posts_of_internal audit_internal) ?_
    intro _
    exact Action.ensures_pure
  rintro ⟨expected, payload⟩
  refine Action.ensures_bind ?_ ?_
  · apply Action.Ensures.requests
    apply Action.observes_withState
    exact Action.ensures_handle attemptMutation_posts fun _ => posts_of_internal recover_internal
  intro ended
  exact Action.ensures_pure

theorem mutate_posts {body : Json} : Posts ToClient (service.mutate spec body) := by
  refine Action.ensures_bind Action.ensures_ofExcept ?_
  intro request
  refine Action.ensures_bind (posts_of_internal (ask_internal trivial)) ?_
  intro _
  refine Action.ensures_bind (posts_of_internal (ask_internal trivial)) ?_
  intro lock
  refine Action.ensures_bind (posts_of_internal (ask_internal trivial)) ?_
  intro _
  refine Action.ensures_bind (posts_of_internal (ask_internal trivial)) ?_
  intro _
  apply Action.ensures_finallyDo mutateLocked_posts
  refine Action.ensures_bind (posts_of_internal (ask_internal trivial)) ?_
  intro _
  exact Action.ensures_pure

end ManagementService

namespace CrlService

open Management

variable {allowed : Role → Str → Prop} {service : CrlService} {change : CrlChange}

omit [Runtime] in
theorem raw_posts {caref : Str} : Posts allowed (raw caref : Py Role State CrlState) := by
  refine Action.ensures_bind (posts_of_gets callGet_observes) ?_
  intro out
  exact Action.ensures_ofExcept

theorem detail_posts {given : Json} : Posts allowed (detail given : Py Role State CrlView) := by
  refine Action.ensures_bind Action.ensures_ofExcept ?_
  intro caref
  refine Action.ensures_bind raw_posts ?_
  intro current
  refine Action.ensures_bind Action.ensures_ofExcept ?_
  intro revision
  exact Action.ensures_pure

theorem listPage_posts {page rowCount search : Json} :
    Posts allowed (listPage page rowCount search : Py Role State PageView) := by
  refine Action.ensures_bind Action.ensures_ofExcept ?_
  rintro ⟨page, rowCount, search⟩
  refine Action.ensures_bind (posts_of_gets callGet_observes) ?_
  intro out
  exact Action.ensures_ofExcept

theorem attemptChange_posts : Posts ToClient (attemptChange change) := by
  refine Action.ensures_bind Action.requests_modifyState ?_
  intro _
  refine Action.ensures_bind (callPost_posts rfl) ?_
  intro response
  refine Action.ensures_bind Action.ensures_ofExcept ?_
  intro _
  refine Action.ensures_bind ?_ ?_
  · refine Action.ensures_bind raw_posts ?_
    intro after
    refine Action.ensures_bind Action.ensures_ofExcept ?_
    intro same
    refine Action.ensures_bind Action.ensures_raiseIf ?_
    intro _
    exact posts_of_internal recordSent_internal
  intro _
  exact Action.ensures_pure

theorem runChange_posts {request : CrlRequest} : Posts ToClient (service.runChange request) := by
  refine Action.ensures_bind (posts_of_internal readClock_internal) ?_
  intro started
  refine Action.ensures_bind ?_ ?_
  · refine Action.ensures_bind raw_posts ?_
    intro current
    refine Action.ensures_bind Action.ensures_ofExcept ?_
    intro _
    refine Action.ensures_bind Action.ensures_ofExcept ?_
    intro payload
    refine Action.ensures_bind Action.ensures_ofExcept ?_
    intro digest
    exact Action.ensures_pure
  intro change
  refine Action.ensures_bind (posts_of_internal recordSent_internal) ?_
  intro _
  exact Action.ensures_handle attemptChange_posts fun _ => posts_of_internal recoverChange_internal

theorem mutate_posts {body : Json} : Posts ToClient (service.mutate body) := by
  refine Action.ensures_bind Action.ensures_ofExcept ?_
  intro request
  refine Action.ensures_bind (Action.observes_withState runChange_posts).requests ?_
  intro ended
  exact Action.ensures_pure

end CrlService

/-! ## Operations -/

namespace Management

variable {allowed : Role → Str → Prop} {call : OperationCall} {spec : OperationSpec} {target : Str}
  {payload : List (Str × Json)}

/-- The search of the states, which is a POST -/
def statesPath : Str := "/api/diagnostics/firewall/queryStates"

omit [Runtime] in
theorem operations_observing : ∀ spec ∈ operations, spec.mutation = false → spec.method = .post →
    spec.path = statesPath ∧ spec.segment = none := by
  decide +kernel

omit [Runtime] in
theorem sendOperation_posts (goes : spec.method = .post → allowed .client target) :
    Posts allowed (sendOperation spec target payload) := by
  unfold sendOperation
  split
  · rename_i post
    refine Action.ensures_bind Action.requests_modifyState ?_
    intro _
    exact callPost_posts (goes post)
  · exact posts_of_gets callGet_observes

theorem attemptOperation_posts (goes : call.spec.method = .post → allowed .client target) :
    Posts allowed (attemptOperation call target payload) := by
  refine Action.ensures_bind (sendOperation_posts goes) ?_
  intro response
  refine Action.ensures_bind Action.ensures_ofExcept ?_
  intro _
  refine Action.ensures_bind ?_ ?_
  · unfold readStatus
    split
    · exact Action.ensures_pure
    · refine Action.ensures_bind (posts_of_gets callGet_observes) ?_
      intro status
      refine Action.ensures_bind Action.ensures_ofExcept ?_
      intro confirmed
      exact Action.ensures_pure
  intro status
  refine Action.ensures_bind Action.ensures_ofExcept ?_
  intro result
  refine Action.ensures_bind (posts_of_internal record_internal) ?_
  intro _
  exact Action.ensures_pure

/-- What an operation does after its first record -/
theorem recordedOperation_posts (goes : call.spec.method = .post → allowed .client target) :
    Posts allowed ((attemptOperation call target payload).handle (recoverOperation call)) :=
  Action.ensures_handle (attemptOperation_posts goes) fun _ => posts_of_internal recoverOperation_internal

theorem runOperation_posts (goes : call.spec.method = .post → allowed .client target) :
    Posts allowed (runOperation call target payload) :=
  Action.ensures_bind (posts_of_internal record_internal) fun _ => recordedOperation_posts goes

theorem executeOperation_posts {client : Host} {actor : Str} {operation values : Json}
    (goes : ∀ spec target payload, planOperation operation values = .ok (spec, target, payload) →
      spec.method = .post → allowed .client target) :
    Posts allowed (executeOperation client actor operation values) := by
  refine Action.ensures_bind_ofExcept ?_
  rintro ⟨spec, target, payload⟩ planned
  refine Action.ensures_bind (posts_of_internal readClock_internal) ?_
  intro started
  refine Action.ensures_bind Action.ensures_ofExcept ?_
  intro digest
  refine Action.ensures_bind (Action.observes_withState ?_).requests ?_
  · exact runOperation_posts (goes spec target payload planned)
  intro ended
  exact Action.ensures_pure

/-- An operation that changes nothing makes a POST to the search of the states only. -/
theorem executeOperation_observes {client : Host} {actor id : Str} {values : Json}
    (found : (operations.find? fun spec => id = spec.id) = some spec)
    (observing : spec.mutation = false) :
    Posts (fun _ path => path = statesPath)
      (executeOperation client actor (.str id) values) := by
  apply executeOperation_posts
  intro planned target payload plan post
  simp only [planOperation] at plan
  split at plan
  · cases plan
  rename_i known again
  have same : known = spec := by
    have agree : (operations.find? fun spec => (Json.str id).isText spec.id) = some spec := by
      simpa [Json.isText] using found
    exact Option.some.inj (again.symm.trans agree)
  subst same
  have facts := operations_observing known (List.mem_of_find?_eq_some found) observing
  simp only [bind_eq_ok, pure_eq_ok] at plan
  rcases plan with ⟨checked, _, ⟨path, rest⟩, located, same⟩
  cases same
  rcases facts post with ⟨path, none⟩
  simp only [operationTarget, none] at located
  cases located
  exact path

end Management

end OpnsensePlugin

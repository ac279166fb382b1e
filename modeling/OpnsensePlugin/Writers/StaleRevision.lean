import OpnsensePlugin.Writers.Containment
import OpnsensePlugin.Writers.LockedSection

/-!
# Calls with a stale revision

A call that changes an object and sends nothing has failed, and where it has read the
object, which did not have the revision, it has failed with a conflict.
-/

namespace OpnsensePlugin

open Effects Python

/-- A request that does not read the path -/
def Request.Misses {Node : Type} (path : Str) : Request Node → Prop
  | .get _ asked _ => asked ≠ path
  | _ => True

namespace VerifiedFirewallWriter

variable [Runtime] {writer : VerifiedFirewallWriter} {action : WriteAction} {payload : Json}
  {uuid revision : Str} {before after : Execution} {trace : Trace Role} {State : Type}

/-! ## What is read before the object -/

omit [Runtime] in
theorem clientGet_misses {role : Role} {path target : Str} {params : List (Str × Json)}
    (different : path ≠ target) : Action.Ensures (Action.Requests (Request.Misses target))
      (clientGet role path params : Py Role State Json) := by
  refine Action.ensures_bind (Action.ensures_ask fun _ answer => ?_) fun _ => Action.ensures_ofExcept
  simpa [Action.Requests, Request.Misses] using different

omit [Runtime] in
theorem addresses_misses {role : Role} : Action.Ensures
    (Action.Requests (Request.Misses (writer.detailPath uuid)))
    (addresses role : Py Role State (List IpAddress)) := by
  have different : interfacesPath ≠ writer.detailPath uuid := by
    intro same
    have apart := (@interfacesPath_unread writer).2.2
    rw [same, detailPath_read.2.2] at apart
    cases apart
  exact Action.ensures_bind (clientGet_misses different) fun _ => Action.ensures_ofExcept

omit [Runtime] in
theorem isExclusive_misses {address : IpAddress} : Action.Ensures
    (Action.Requests (Request.Misses (writer.detailPath uuid)))
    (isExclusive address : Py Role State Bool) := by
  refine Action.ensures_bind addresses_misses fun peer => ?_
  split
  · exact Action.ensures_bind addresses_misses fun _ => Action.ensures_pure
  · exact Action.ensures_pure

theorem collectCarpStatus_misses {role : Role} : Action.Ensures
    (Action.Requests (Request.Misses (writer.detailPath uuid)))
    (collectCarpStatus role : Py Role State CarpStatus) := by
  intro before trace outcome after run
  rw [run_collectCarpStatus] at run
  rcases run with ⟨reply, rfl, _, rfl⟩
  intro event member
  rw [List.mem_singleton.mp member]
  exact (detailPath_read.2.1).symm

theorem syncPreflight_misses : Action.Ensures
    (Action.Requests (Request.Misses (writer.detailPath uuid)))
    (writer.syncPreflight : Py Role State (Option SyncPlan)) := by
  have different : hasyncPath ≠ writer.detailPath uuid := detailPath_read.1.symm
  unfold syncPreflight
  split
  · exact Action.ensures_pure
  refine Action.ensures_bind ?_ fun _ => Action.ensures_pure
  refine Action.ensures_bind (clientGet_misses different) fun localData => ?_
  refine Action.ensures_bind (clientGet_misses different) fun peerData => ?_
  refine Action.ensures_bind Action.ensures_ofExcept fun scope => ?_
  refine Action.ensures_bind isExclusive_misses fun exclusive => ?_
  refine Action.ensures_bind Action.ensures_raiseIf fun _ => ?_
  refine Action.ensures_bind collectCarpStatus_misses fun left => ?_
  exact Action.ensures_bind collectCarpStatus_misses fun right => Action.ensures_ofExcept

theorem auditStarted_misses {path : Str} : Action.Ensures (Action.Requests (Request.Misses path))
    (writer.auditStarted action payload uuid) := by
  refine Action.ensures_bind Action.ensures_ofExcept fun hash => ?_
  refine Action.ensures_bind (Action.ensures_ask fun _ _ => ?_) fun now => ?_
  · simp [Action.Requests, Request.Misses]
  · refine Action.ensures_bind (Action.ensures_ask fun _ _ => ?_) fun _ => Action.ensures_ofExcept
    simp [Action.Requests, Request.Misses]

/-! ## The comparison -/

/-- The exchange that reads the object before it is changed -/
def checkEvent (writer : VerifiedFirewallWriter) (uuid : Str) (value : Json) : Exchange Role :=
  ⟨.get .client (writer.detailPath uuid) [], .ok value⟩

/-- An object was read. -/
def ReadsObject (writer : VerifiedFirewallWriter) (uuid : Str) (trace : Trace Role) : Prop :=
  ∃ value detail, writer.checkEvent uuid value ∈ trace ∧ detailOf writer.resource value = .ok detail

/-- No object that was read has the revision. -/
def NeverCurrent (writer : VerifiedFirewallWriter) (uuid revision : Str) (trace : Trace Role) : Prop :=
  ∀ value, writer.checkEvent uuid value ∈ trace → revisionOf writer.resource value ≠ .ok revision

theorem hashPayload_error {object : Json} {error : Exn} (failed : hashPayload object = .error error) :
    error = unicodeEncodeError := by
  unfold hashPayload at failed
  split at failed
  · cases failed
  · split at failed
    · cases failed
    · exact (Except.error.inj failed).symm

theorem checkRevision_conflict {error : Exn}
    (run : (writer.checkRevision action uuid revision).Run before trace (.error error) after)
    (handled : isHandled error = true) (read : writer.ReadsObject uuid trace)
    (stale : writer.NeverCurrent uuid revision trace) : writeErrorOf error = .conflict := by
  rcases read with ⟨value, detail, member, found⟩
  have once : ∀ {reply : Reply}, writer.checkEvent uuid value ∈
      ([⟨.get .client (writer.detailPath uuid) [], reply⟩] : Trace Role) → reply = .ok value := by
    intro reply member
    cases List.mem_singleton.mp member
    rfl
  rw [checkRevision, get, Action.run_bind] at run
  rcases run with ⟨front, current, middle, back, rfl, getting, run⟩ | ⟨_, same, getting⟩
  · rw [Action.run_bind_ok] at getting
    rcases getting with ⟨asked, answer, _, rest, rfl, asking, decoding⟩
    rw [run_clientGet] at asking
    rcases asking with ⟨reply, rfl, received, rfl⟩
    rw [eq_comm, received_eq_ok] at received
    subst received
    rw [Action.run_ofExcept] at decoding
    rcases decoding with ⟨rfl, decoded, rfl⟩
    have revised : ∀ {hash}, hashPayload current = .ok hash → revisionOf writer.resource answer = .ok hash := by
      intro hash hashed
      rw [revisionOf, ← decoded]
      exact hashed
    rw [Action.run_bind_ofExcept] at run
    rcases run with ⟨hash, hashed, run⟩ | ⟨failure, failed, _, same, _⟩
    · rw [Action.run_bind_raiseIf] at run
      rcases run with ⟨isSame, run⟩ | ⟨_, _, same, _⟩
      · have current : hash = revision := by simpa using isSame
        subst current
        exact absurd (revised hashed) (stale answer (by simp [checkEvent]))
      · cases same
        rfl
    · cases same
      rw [hashPayload_error failed] at handled
      cases handled
  · cases same
    rw [Action.run_bind] at getting
    rcases getting with ⟨asked, answer, _, rest, rfl, asking, decoding⟩ | ⟨_, same, asking⟩
    · rw [run_clientGet] at asking
      rcases asking with ⟨reply, rfl, received, rfl⟩
      rw [eq_comm, received_eq_ok] at received
      rw [Action.run_ofExcept] at decoding
      rcases decoding with ⟨rfl, failed, _⟩
      rw [List.append_nil] at member
      have only := once member
      rw [received] at only
      cases only
      rw [found] at failed
      cases failed
    · cases same
      rw [run_clientGet] at asking
      rcases asking with ⟨reply, rfl, failed, _⟩
      rw [once member] at failed
      cases failed

theorem prepare_conflict {error : Exn}
    (run : (writer.prepare action payload uuid revision).Run before trace (.error error) after)
    (given : action ≠ .create) (handled : isHandled error = true)
    (read : writer.ReadsObject uuid trace) (stale : writer.NeverCurrent uuid revision trace) :
    writeErrorOf error = .conflict := by
  rcases read with ⟨value, detail, member, found⟩
  have missed : ∀ {segment : Trace Role}, writer.checkEvent uuid value ∈ segment →
      ¬ ∀ event ∈ segment, event.request.Misses (writer.detailPath uuid) :=
    fun inside misses => misses _ inside rfl
  rw [prepare, Action.run_bind] at run
  rcases run with ⟨front, _, middle, back, rfl, starting, run⟩ | ⟨_, _, starting⟩
  rotate_left
  · exact absurd (auditStarted_misses _ _ _ _ starting) (missed member)
  have later : writer.checkEvent uuid value ∈ back := by
    rcases List.mem_append.mp member with early | later
    · exact absurd (auditStarted_misses _ _ _ _ starting) (missed early)
    · exact later
  rw [Action.run_bind] at run
  rcases run with ⟨planning, plan, _, rest, rfl, planned, run⟩ | ⟨_, _, planning⟩
  rotate_left
  · exact absurd (syncPreflight_misses _ _ _ _ planning) (missed later)
  have checked : writer.checkEvent uuid value ∈ rest := by
    rcases List.mem_append.mp later with early | later
    · exact absurd (syncPreflight_misses _ _ _ _ planned) (missed early)
    · exact later
  rw [Action.run_bind_modifyState, if_neg given] at run
  refine checkRevision_conflict run handled ⟨value, detail, checked, found⟩ ?_
  exact fun other inside => stale other (by simp [inside])

/-- An attempt that sends nothing failed before the change. -/
theorem attemptWrite_silent {expected : Option Json} {attempted : Except Exn Unit}
    (run : (writer.attemptWrite action payload uuid revision expected).Run before trace attempted
      after) (nothing : posts trace = []) :
    ∃ error, attempted = .error error ∧
      (writer.prepare action payload uuid revision).Run before trace (.error error) after := by
  rw [attemptWrite, Action.run_bind] at run
  rcases run with ⟨front, _, middle, back, rfl, _, run⟩ | ⟨error, rfl, preparing⟩
  · rw [posts_append, List.append_eq_nil_iff] at nothing
    rw [Action.run_bind] at run
    rcases run with ⟨changing, _, _, rest, rfl, mutating, _⟩ | ⟨_, _, mutating⟩
    · rcases mutate_run mutating with ⟨reply, rfl, _⟩
      rw [posts_append, mutationEvent, posts_post] at nothing
      cases nothing.2
    · rcases mutate_run mutating with ⟨reply, rfl, _⟩
      rw [mutationEvent, posts_post] at nothing
      cases nothing.2
  · exact ⟨error, rfl, preparing⟩

/-- `_execute` that changes an object and sends nothing -/
theorem executeLocked_conflict {result : ExecuteResult}
    (run : (writer.executeLocked action payload uuid revision).Run before trace (.ok result) after)
    (given : action ≠ .create) (nothing : posts trace = [])
    (stale : writer.NeverCurrent uuid revision trace) :
    result.ok = false ∧ (writer.ReadsObject uuid trace →
      result.error = some .conflict ∨ result.error = some .audit) := by
  rw [executeLocked, readClock, Action.run_bind_ask] at run
  rcases run with ⟨started, rest, rfl, run⟩
  rw [Action.run_bind_modifyState, Action.run_bind_ofExcept] at run
  rcases run with ⟨expected, expectedEq, run⟩ | ⟨_, _, _, impossible, _⟩
  rotate_left
  · cases impossible
  rw [Action.run_bind_attempt] at run
  rcases run with ⟨front, attempted, middle, back, rfl, attempting, caught, run⟩ | ⟨_, _, _, impossible⟩
  rotate_left
  · cases impossible
  change posts (front ++ back) = [] at nothing
  rw [posts_append, List.append_eq_nil_iff] at nothing
  rcases attemptWrite_silent attempting nothing.1 with ⟨error, rfl, preparing⟩
  have handled := caught error rfl
  rcases prepare_run preparing rfl with ⟨_, same, _⟩
  have unaccepted : middle.accepted = false := by
    rw [same]
    rfl
  have unresolved : middle.result.ok = false := by
    rw [same]
    rfl
  rw [Action.run_bind] at run
  rcases run with ⟨recovering, _, settled, rest, rfl, settling, run⟩ | ⟨_, impossible, _⟩
  rotate_left
  · cases impossible
  rw [settle, recover, updateResult, Action.run_bind_modifyState, Action.run_bind_readState,
    if_neg (by simp [unaccepted]), Action.run_pure] at settling
  rcases settling with ⟨rfl, _, rfl⟩
  rw [Action.run_bind_ok] at run
  rcases run with ⟨closing, _, last, rest, rfl, recording, run⟩
  rw [Action.run_bind_readState, Action.run_pure] at run
  rcases run with ⟨rfl, returned, _⟩
  cases returned
  have final := (auditFinal_run recording).2 rfl
  have reported : writer.ReadsObject uuid front → writeErrorOf error = .conflict := by
    intro read
    exact prepare_conflict preparing given handled read fun value member => stale value (by simp [member])
  have inFront : (∀ event ∈ closing, ¬ event.request.IsGet) →
      writer.ReadsObject uuid (⟨.clock, started⟩ :: (front ++ ([] ++ (closing ++ [])))) →
        writer.ReadsObject uuid front := by
    rintro unread ⟨value, detail, member, found⟩
    simp only [List.nil_append, List.append_nil, List.mem_cons, List.mem_append] at member
    rcases member with impossible | early | late
    · cases impossible
    · exact ⟨value, detail, early, found⟩
    · exact absurd trivial (unread _ late)
  cases final with
  | stored ok error _ _ =>
      refine ⟨ok.trans unresolved, fun read => .inl ?_⟩
      rw [error, ← reported (inFront (by simp [Request.IsGet]) read)]
      rfl
  | lost ok error _ => exact ⟨ok, fun _ => .inr error⟩

end VerifiedFirewallWriter

end OpnsensePlugin

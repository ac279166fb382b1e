import OpnsensePlugin.Writers.Polls

/-!
# What a verification confirms

A verification may report success only on an answer of the peer that shows it.
The polls of a list are described once, for whatever a verification looks for:
every answer before the last one was refused, and a report of success follows
an accepted one. `verify_item` accepts more than it should when it expects that
a row is gone, because an answer that is no list has no rows either.
-/

namespace OpnsensePlugin

open Effects Python

namespace HaVerifier

section Runs

variable [Runtime] {State σ : Type} {before after : State} {trace : Trace Party}
  {searchPath : Str}

/-! ## Requests that may fail -/

omit [Runtime] in
theorem run_bind_attemptGet {α : Type} {node : Party} {path : Str}
    {next : Except Exn Json → Py Party State α} {outcome : Except Exn α} :
    (Action.attempt (fun _ => true) (clientGet node path) >>= next).Run before trace outcome after ↔
      ∃ (reply : Reply) (tail : Trace Party), trace = ⟨.get node path [], reply⟩ :: tail ∧
        (next (received reply)).Run before tail outcome after := by
  rw [Action.run_bind_attempt]
  constructor
  · rintro (⟨front, result, middle, back, rfl, read, _, rest⟩ | ⟨error, uncaught, _⟩)
    · rw [run_clientGet] at read
      rcases read with ⟨reply, rfl, rfl, rfl⟩
      exact ⟨reply, back, rfl, rest⟩
    · cases uncaught
  · rintro ⟨reply, tail, rfl, rest⟩
    refine .inl ⟨[_], received reply, before, tail, rfl, ?_, fun _ _ => rfl, rest⟩
    exact run_clientGet.mpr ⟨reply, rfl, rfl, rfl⟩

/-- What `_get_revision` makes of a reply -/
def revisionRead : Reply → Str
  | .ok data => revisionOf data
  | .error _ => []

theorem run_bind_getRevision {α : Type} {node : Party} {next : Str → Py Party State α}
    {outcome : Except Exn α} (run : (getRevision node >>= next).Run before trace outcome after) :
    ∃ (reply : Reply) (tail : Trace Party), trace = ⟨.get node sysinfoPath [], reply⟩ :: tail ∧
      (next (revisionRead reply)).Run before tail outcome after := by
  rw [getRevision, Action.run_bind_assoc, run_bind_attemptGet] at run
  rcases run with ⟨reply, tail, rfl, run⟩
  refine ⟨reply, tail, rfl, ?_⟩
  rcases reply with (detail | detail | detail) | data
  all_goals exact run

def synced (reply : Reply) : Exchange Party :=
  ⟨.post .haLocal "/api/core/hasync/syncTo" (.obj []), reply⟩

omit [Runtime] in
theorem run_bind_sync {α : Type} {next : Bool → Py Party State α} {outcome : Except Exn α}
    (run : (sync >>= next).Run before trace outcome after) :
    ∃ (reply : Reply) (tail : Trace Party), trace = synced reply :: tail ∧
      (next (received reply).toBool).Run before tail outcome after := by
  rw [sync, Action.run_bind_assoc, Action.run_bind_attempt] at run
  rcases run with ⟨front, result, middle, back, rfl, sent, _, rest⟩ | ⟨error, uncaught, _⟩
  · rw [run_clientPost] at sent
    rcases sent with ⟨reply, rfl, rfl, rfl⟩
    exact ⟨reply, back, rfl, rest⟩
  · cases uncaught

/-! ## Polls of a list -/

def polled (searchPath : Str) (reply : Reply) : Exchange Party :=
  ⟨.get .haPeer searchPath [], reply⟩

/-- A verification that reports success on the answers that `accepts` selects, and on no others -/
structure Polling.Judges (polling : Polling σ) (accepts : Json → Prop) : Prop where
  accepted : ∀ attempt kept payload, accepts payload ↔
    ∃ result, polling.examine attempt kept payload = .ok (.inl result)
  verified : ∀ attempt kept payload result,
    polling.examine attempt kept payload = .ok (.inl result) → result.verified = true
  unreachable : ∀ attempt error, (polling.unreachable attempt error).verified = false

/-- The end of a verification whose polls were all refused -/
def Closes (closing : Trace Party → Prop) (finish : Py Party State SyncResult) : Prop :=
  ∀ before trace outcome after, finish.Run before trace outcome after →
    closing trace ∧ ∀ result, outcome = .ok result → result.verified = false

/-- Every answer but the last one was refused, and success is reported on an accepted one. -/
def Decided (accepts : Json → Prop) (replies : List Reply) (last : Trace Party)
    (outcome : Except Exn SyncResult) : Prop :=
  (∃ earlier payload result, replies = earlier ++ [.ok payload] ∧ last = [] ∧ accepts payload ∧
    (∀ other, .ok other ∈ earlier → ¬ accepts other) ∧ outcome = .ok result ∧
    result.verified = true) ∨
  (∀ payload, .ok payload ∈ replies → ¬ accepts payload) ∧
    ∀ result, outcome = .ok result → result.verified = false

omit [Runtime] in
theorem Decided.cons {accepts : Json → Prop} {reply : Reply} {replies : List Reply}
    {last : Trace Party} {outcome : Except Exn SyncResult}
    (refused : ∀ payload, reply = .ok payload → ¬ accepts payload)
    (decided : Decided accepts replies last outcome) :
    Decided accepts (reply :: replies) last outcome := by
  rcases decided with ⟨earlier, payload, result, rfl, none, accepted, others, returned⟩ |
    ⟨others, unverified⟩
  · refine .inl ⟨reply :: earlier, payload, result, rfl, none, accepted, ?_, returned⟩
    intro other member
    rcases List.mem_cons.mp member with same | member
    · exact refused other same.symm
    · exact others other member
  · refine .inr ⟨?_, unverified⟩
    intro other member
    rcases List.mem_cons.mp member with same | member
    · exact refused other same.symm
    · exact others other member

omit [Runtime] in
/-- The replies to the polls decide the report. -/
theorem run_pollPeer {polling : Polling σ} {accepts : Json → Prop} {limit remaining : Nat}
    {finish : σ → Py Party State SyncResult} {kept : σ} {closing : Trace Party → Prop}
    {outcome : Except Exn SyncResult} (judges : polling.Judges accepts) (silent : closing [])
    (closes : ∀ kept, Closes closing (finish kept))
    (run : (pollPeer polling searchPath limit finish remaining kept).Run
      before trace outcome after) :
    ∃ (replies : List Reply) (last : Trace Party),
      trace = replies.map (polled searchPath) ++ last ∧ replies.length ≤ remaining ∧
        closing last ∧ Decided accepts replies last outcome := by
  induction remaining generalizing kept trace with
  | zero =>
      rcases closes kept _ _ _ _ run with ⟨closed, unverified⟩
      exact ⟨[], trace, rfl, Nat.le_refl 0, closed, .inr ⟨by simp, unverified⟩⟩
  | succ remaining ih =>
      rw [pollPeer, run_bind_attemptGet] at run
      rcases run with ⟨reply, tail, rfl, run⟩
      -- A refused reply leaves the rest of the loop to the induction hypothesis.
      have continued : ∀ kept, (∀ payload, reply = .ok payload → ¬ accepts payload) →
          (pollPeer polling searchPath limit finish remaining kept).Run before tail outcome after →
          ∃ (replies : List Reply) (last : Trace Party),
            polled searchPath reply :: tail = replies.map (polled searchPath) ++ last ∧
              replies.length ≤ remaining + 1 ∧ closing last ∧
              Decided accepts replies last outcome := by
        intro kept refused rest
        rcases ih rest with ⟨replies, last, rfl, few, closed, decided⟩
        exact ⟨reply :: replies, last, rfl, Nat.succ_le_succ few, closed, decided.cons refused⟩
      cases answered : received reply with
      | error error =>
          have refused : ∀ payload, reply = .ok payload → ¬ accepts payload := by
            intro payload same
            rw [same] at answered
            cases answered
          rw [answered] at run
          dsimp only at run
          split at run
          · rw [Action.run_pure] at run
            rcases run with ⟨rfl, rfl, _⟩
            refine ⟨[reply], [], rfl, by simp, silent, .inr ⟨?_, ?_⟩⟩
            · intro payload member
              exact refused payload (List.mem_singleton.mp member).symm
            · intro result same
              cases same
              exact judges.unreachable _ _
          · exact continued _ refused run
      | ok payload =>
          rw [received_eq_ok] at answered
          subst answered
          simp only [received, Action.run_bind_ofExcept] at run
          rcases run with ⟨result | next, examined, run⟩ | ⟨error, examined, rfl, rfl, rfl⟩
          · rw [Action.run_pure] at run
            rcases run with ⟨rfl, rfl, _⟩
            exact ⟨[.ok payload], [], rfl, by simp, silent, .inl ⟨[], payload, result, rfl, rfl,
              (judges.accepted _ _ _).mpr ⟨result, examined⟩, by simp, rfl,
              judges.verified _ _ _ _ examined⟩⟩
          · refine continued _ ?_ run
            rintro _ ⟨⟩ accepted
            rcases (judges.accepted (limit - remaining) kept payload).mp accepted with ⟨_, reported⟩
            rw [examined] at reported
            cases reported
          · refine ⟨[.ok payload], [], rfl, by simp, silent, .inr ⟨?_, by simp⟩⟩
            intro other member accepted
            cases List.mem_singleton.mp member
            rcases (judges.accepted (limit - remaining) kept payload).mp accepted with ⟨_, reported⟩
            rw [examined] at reported
            cases reported

/-! ## What is looked for -/

theorem isListed_true {uuidField uuidValue : Str} {rows : List Json}
    (found : isListed uuidField uuidValue rows = .ok true) :
    ∃ row, .obj row ∈ rows ∧ fieldText row uuidField = uuidValue := by
  induction rows with
  | nil => cases found
  | cons entry rest ih =>
      cases entry with
      | obj row =>
          rw [isListed] at found
          split at found
          · exact ⟨row, List.mem_cons_self, by assumption⟩
          · rcases ih found with ⟨row, member, same⟩
            exact ⟨row, List.mem_cons_of_mem _ member, same⟩
      | _ => cases found

theorem isListed_false {uuidField uuidValue : Str} {rows : List Json} :
    isListed uuidField uuidValue rows = .ok false ↔
      ∀ entry ∈ rows, ∃ row, entry = .obj row ∧ fieldText row uuidField ≠ uuidValue := by
  induction rows with
  | nil => simp [isListed]
  | cons entry rest ih =>
      cases entry with
      | obj row =>
          rw [isListed, List.forall_mem_cons, ← ih]
          split
          · simp_all
          · simp_all
      | _ => simp [isListed]

theorem item_judges {uuidField uuidValue : Str} {expectPresent : Bool} :
    (itemPolling uuidField uuidValue expectPresent).Judges fun payload =>
      isListed uuidField uuidValue (iterRows payload) = .ok expectPresent where
  accepted attempt kept payload := by
    simp only [itemPolling]
    cases isListed uuidField uuidValue (iterRows payload) with
    | error error => simp [Except.map]
    | ok present =>
        simp only [Except.map, Except.ok.injEq]
        split <;> simp_all
  verified attempt kept payload result reported := by
    simp only [itemPolling] at reported
    cases found : isListed uuidField uuidValue (iterRows payload) with
    | error error => simp [found, Except.map] at reported
    | ok present =>
        simp only [found, Except.map, Except.ok.injEq] at reported
        split at reported
        · cases reported
          rfl
        · cases reported
  unreachable attempt error := rfl

theorem list_judges {localFingerprint : Str} :
    (listPolling localFingerprint).Judges fun payload =>
      fingerprint payload = .ok localFingerprint where
  accepted attempt kept payload := by
    simp only [listPolling]
    cases fingerprint payload with
    | error error => simp [Except.map]
    | ok found =>
        simp only [Except.map, Except.ok.injEq]
        split <;> simp_all
  verified attempt kept payload result reported := by
    simp only [listPolling] at reported
    cases hashed : fingerprint payload with
    | error error => simp [hashed, Except.map] at reported
    | ok found =>
        simp only [hashed, Except.map, Except.ok.injEq] at reported
        split at reported
        · cases reported
          rfl
        · cases reported
  unreachable attempt error := rfl

/-! ## Polls of the revisions -/

def bothRevisions (replies : Reply × Reply) : Trace Party :=
  [⟨.get .haLocal sysinfoPath [], replies.1⟩, ⟨.get .haPeer sysinfoPath [], replies.2⟩]

theorem run_divergedAfter {limit : Nat} {localFingerprint : Str} {kept : Str × Str} :
    Closes (fun trace => trace = [] ∨ ∃ replies, trace = bothRevisions replies)
      (divergedAfter limit localFingerprint kept : Py Party State SyncResult) := by
  intro before trace outcome after run
  rcases run_bind_getRevision run with ⟨here, rest, rfl, later⟩
  rcases run_bind_getRevision later with ⟨there, tail, rfl, ended⟩
  rw [Action.run_pure] at ended
  rcases ended with ⟨rfl, rfl, _⟩
  refine ⟨.inr ⟨(here, there), rfl⟩, ?_⟩
  rintro _ ⟨⟩
  rfl

/-- One attempt that read equal revisions ends the loop with success. -/
theorem run_pollRevision {limit remaining : Nat} {triggered : Bool} {left right : Str}
    {outcome : Except Exn SyncResult}
    (run : (pollRevision limit triggered remaining left right : Py Party State SyncResult).Run
      before trace outcome after) :
    ∃ rounds : List (Reply × Reply), trace = rounds.flatMap bothRevisions ∧
      rounds.length ≤ remaining ∧ ∀ result, outcome = .ok result → result.verified = true →
        ∃ earlier here there, rounds = earlier ++ [(here, there)] ∧
          revisionRead here ≠ [] ∧ revisionRead here = revisionRead there := by
  induction remaining generalizing left right trace with
  | zero =>
      rw [pollRevision, Action.run_pure] at run
      rcases run with ⟨rfl, rfl, _⟩
      refine ⟨[], rfl, Nat.le_refl 0, ?_⟩
      rintro _ ⟨⟩ verified
      cases verified
  | succ remaining ih =>
      rcases run_bind_getRevision run with ⟨here, rest, rfl, later⟩
      rcases run_bind_getRevision later with ⟨there, tail, rfl, ended⟩
      split at ended
      · rename_i matching
        rw [Action.run_pure] at ended
        rcases ended with ⟨rfl, rfl, _⟩
        refine ⟨[(here, there)], rfl, by simp, ?_⟩
        intro result _ _
        exact ⟨[], here, there, rfl, by simpa using matching⟩
      · rcases ih ended with ⟨rounds, rfl, few, confirmed⟩
        refine ⟨(here, there) :: rounds, rfl, Nat.succ_le_succ few, ?_⟩
        intro result same verified
        rcases confirmed result same verified with ⟨earlier, left, right, rfl, found⟩
        exact ⟨(here, there) :: earlier, left, right, rfl, found⟩

end Runs

/-! ## Verifications -/

inductive Verification
  | item (searchPath uuidField uuidValue : Str) (expectPresent : Bool)
  | robust (searchPath : Str)
  | revision (triggerSync : Bool)

/-- The peer answered a read of `path` with `payload`. -/
def Answered (trace : Trace Party) (path : Str) (payload : Json) : Prop :=
  ⟨.get .haPeer path [], .ok payload⟩ ∈ trace

def isPeerRead : Exchange Party → Bool
  | ⟨.get .haPeer _ _, _⟩ => true
  | _ => false

namespace Verification

/-- The path that it polls -/
def polledPath : Verification → Str
  | .item searchPath _ _ _ => searchPath
  | .robust searchPath => searchPath
  | .revision _ => sysinfoPath

/-- Whether it triggers the synchronization -/
def triggers : Verification → Bool
  | .revision triggerSync => triggerSync
  | _ => true

/-- The reads of the peer beyond the polls: `verify_robust` reports its revision. -/
def diagnoses : Verification → Nat
  | .robust _ => 1
  | _ => 0

section

variable [Runtime] {State : Type}

def program (ha : HaVerifier) (limit : Nat) : Verification → Py Party State SyncResult
  | .item searchPath uuidField uuidValue expectPresent =>
      ha.verifyItem limit searchPath uuidField uuidValue expectPresent
  | .robust searchPath => ha.verifyList limit searchPath
  | .revision triggerSync => ha.verifyRevision limit triggerSync

/-- The row of an object whose identifier is the UUID -/
def IsRow (uuidField uuidValue : Str) (entry : Json) : Prop :=
  ∃ row, entry = .obj row ∧ fieldText row uuidField = uuidValue

/-- No two answers of the run have one fingerprint, unless they are equal up to the order of keys. -/
def Collisionless (trace : Trace Party) : Prop :=
  ∀ node path first, (⟨.get node path [], .ok first⟩ : Exchange Party) ∈ trace →
    ∀ other there second, (⟨.get other there [], .ok second⟩ : Exchange Party) ∈ trace →
      ∀ digest, fingerprint first = .ok digest → fingerprint second = .ok digest →
        first.ordered = second.ordered

/-- What must have been read before success is reported -/
def Evidence (trace : Trace Party) : Verification → Prop
  | .item searchPath uuidField uuidValue true =>
      ∃ payload rows, Answered trace searchPath payload ∧ listing payload = some rows ∧
        ∃ entry ∈ rows, IsRow uuidField uuidValue entry
  | .item searchPath uuidField uuidValue false =>
      ∃ payload rows, Answered trace searchPath payload ∧ listing payload = some rows ∧
        ∀ entry ∈ rows, entry.isObj = true ∧ ¬ IsRow uuidField uuidValue entry
  | .robust searchPath => Collisionless trace →
      ∃ localPayload reply polls peerPayload,
        trace = ⟨.get .haLocal searchPath [], .ok localPayload⟩ :: synced reply :: polls ∧
          Answered polls searchPath peerPayload ∧ peerPayload.ordered = localPayload.ordered
  | .revision _ => ∃ earlier here there later, trace = earlier ++ bothRevisions (here, there) ++ later ∧
      revisionRead here ≠ [] ∧ revisionRead here = revisionRead there

/-- Success is only reported on evidence, after one synchronization and boundedly many polls. -/
structure Sound (check : Verification) (ha : HaVerifier) (limit : Nat) (trace : Trace Party)
    (outcome : Except Exn SyncResult) : Prop where
  confirmed : ∀ result, outcome = .ok result → result.verified = true → ha.hasPeer = true →
    check.Evidence trace
  synced_once : posts trace = [] ∨ ∃ reply, posts trace = posts [synced reply]
  synced_if : ∀ result, outcome = .ok result → ha.hasPeer = true → check.triggers = true →
    ∃ reply, posts trace = posts [synced reply]
  polls : ∃ polls diagnosis, trace.filter isPeerRead = polls ++ diagnosis ∧
    (∀ event ∈ polls, event.request = .get .haPeer check.polledPath []) ∧
    (∀ event ∈ diagnosis, event.request = .get .haPeer sysinfoPath []) ∧
    polls.length ≤ limit ∧ diagnosis.length ≤ check.diagnoses

/-! ## Counting requests -/

omit [Runtime] in
theorem posts_polled {searchPath : Str} {replies : List Reply} :
    posts (replies.map (polled searchPath)) = [] :=
  posts_of_reads fun event member => by
    rcases List.mem_map.mp member with ⟨reply, _, rfl⟩
    trivial

omit [Runtime] in
theorem peerReads_polled {searchPath : Str} {replies : List Reply} :
    (replies.map (polled searchPath)).filter isPeerRead = replies.map (polled searchPath) :=
  List.filter_eq_self.mpr fun event member => by
    rcases List.mem_map.mp member with ⟨reply, _, rfl⟩
    rfl

omit [Runtime] in
theorem asked_polled {searchPath : Str} {replies : List Reply} :
    ∀ event ∈ replies.map (polled searchPath), event.request = .get .haPeer searchPath [] := by
  intro event member
  rcases List.mem_map.mp member with ⟨reply, _, rfl⟩
  rfl

omit [Runtime] in
theorem asked_bothRevisions {replies : Reply × Reply} :
    ∀ event ∈ (bothRevisions replies).filter isPeerRead,
      event.request = .get .haPeer sysinfoPath [] := by
  intro event member
  cases List.mem_singleton.mp member
  rfl

omit [Runtime] in
theorem answered_polled {searchPath : Str} {replies : List Reply} {payload : Json} :
    Answered (replies.map (polled searchPath)) searchPath payload ↔ .ok payload ∈ replies := by
  simp [Answered, polled]

omit [Runtime] in
theorem posts_rounds {rounds : List (Reply × Reply)} : posts (rounds.flatMap bothRevisions) = [] :=
  posts_of_reads fun event member => by
    rcases List.mem_flatMap.mp member with ⟨replies, _, found⟩
    rcases List.mem_pair.mp found with rfl | rfl <;> trivial

omit [Runtime] in
theorem length_peerReads_rounds {rounds : List (Reply × Reply)} :
    ((rounds.flatMap bothRevisions).filter isPeerRead).length = rounds.length := by
  induction rounds with
  | nil => rfl
  | cons replies rest ih =>
      rw [List.flatMap_cons, List.filter_append, List.length_append, ih, List.length_cons,
        Nat.add_comm]
      rfl

/-! ## Soundness -/

theorem run_verifyItem {ha : HaVerifier} {limit : Nat} {searchPath uuidField uuidValue : Str}
    {expectPresent : Bool} {before after : State} {trace : Trace Party}
    {outcome : Except Exn SyncResult} (peer : ha.hasPeer = true)
    (run : (ha.verifyItem limit searchPath uuidField uuidValue expectPresent :
      Py Party State SyncResult).Run before trace outcome after) :
    ∃ reply replies, trace = synced reply :: replies.map (polled searchPath) ∧
      replies.length ≤ limit ∧
      Decided (fun payload => isListed uuidField uuidValue (iterRows payload) = .ok expectPresent)
        replies [] outcome := by
  simp only [verifyItem, peer, Bool.not_true, Bool.false_eq_true, if_false] at run
  rcases run_bind_sync run with ⟨reply, tail, rfl, polling⟩
  rw [pollItem] at polling
  split at polling
  · have closes : ∀ lastError, Closes (fun trace => trace = [])
        (pure (itemMissed limit uuidValue expectPresent lastError) :
          Py Party State SyncResult) := by
      intro lastError before trace outcome after run
      rw [Action.run_pure] at run
      rcases run with ⟨rfl, rfl, _⟩
      refine ⟨rfl, ?_⟩
      rintro _ ⟨⟩
      rfl
    rcases run_pollPeer item_judges (by rfl) closes polling with
      ⟨replies, _, rfl, few, rfl, decided⟩
    exact ⟨reply, replies, by simp, few, decided⟩
  · rw [Action.run_pure] at polling
    rcases polling with ⟨rfl, rfl, _⟩
    refine ⟨reply, [], rfl, Nat.zero_le limit, .inr ⟨by simp, ?_⟩⟩
    rintro _ ⟨⟩
    rfl

theorem sound_item_iff {ha : HaVerifier} {limit : Nat} {searchPath uuidField uuidValue : Str}
    {expectPresent : Bool} {before after : State} {trace : Trace Party}
    {outcome : Except Exn SyncResult}
    (run : (ha.verifyItem limit searchPath uuidField uuidValue expectPresent :
      Py Party State SyncResult).Run before trace outcome after) :
    Sound (.item searchPath uuidField uuidValue expectPresent) ha limit trace outcome ↔
      (expectPresent = false → ∀ payload, Answered trace searchPath payload →
        listing payload ≠ none) := by
  cases peer : ha.hasPeer with
  | false =>
      simp only [verifyItem, peer, Bool.not_false, if_true, Action.run_pure] at run
      rcases run with ⟨rfl, rfl, _⟩
      constructor
      · intro _ _ payload answered
        cases answered
      · intro _
        exact {
          confirmed _ _ _ configured := by simp [peer] at configured
          synced_once := .inl rfl
          synced_if _ _ configured := by simp [peer] at configured
          polls := ⟨[], [], rfl, by simp, by simp, Nat.zero_le limit, Nat.zero_le _⟩ }
  | true =>
      rcases run_verifyItem peer run with ⟨reply, replies, rfl, few, decided⟩
      have sent : posts (synced reply :: replies.map (polled searchPath)) =
          posts [synced reply] := by
        change posts ([synced reply] ++ _) = _
        rw [posts_append, posts_polled, List.append_nil]
      have answered : ∀ payload, Answered (synced reply :: replies.map (polled searchPath))
          searchPath payload ↔ .ok payload ∈ replies := by
        intro payload
        rw [← @answered_polled searchPath replies payload]
        simp [Answered, synced]
      constructor
      · intro sound expected payload found absent
        subst expected
        have member := (answered payload).mp found
        have accepted : isListed uuidField uuidValue (iterRows payload) = .ok false := by
          simp [iterRows, absent, isListed]
        rcases decided with ⟨earlier, last, result, rfl, _, _, others, returned, verified⟩ |
          ⟨others, _⟩
        · rcases sound.confirmed result returned verified peer with
            ⟨other, rows, shown, listed, gone⟩
          have removed : isListed uuidField uuidValue (iterRows other) = .ok false := by
            rw [iterRows, listed, Option.getD_some, isListed_false]
            intro entry member
            rcases gone entry member with ⟨isObj, apart⟩
            cases entry with
            | obj row => exact ⟨row, rfl, fun same => apart ⟨row, rfl, same⟩⟩
            | _ => cases isObj
          have onlyLast : ∀ payload, .ok payload ∈ earlier ++ [.ok last] →
              isListed uuidField uuidValue (iterRows payload) = .ok false → payload = last := by
            intro payload member accepted
            rcases List.mem_append.mp member with earlier | here
            · exact absurd accepted (others payload earlier)
            · simpa using here
          rw [onlyLast other ((answered other).mp shown) removed] at listed
          rw [onlyLast payload member accepted, listed] at absent
          cases absent
        · exact others payload member accepted
      · intro wellFormed
        refine ⟨?_, .inr ⟨reply, sent⟩, fun _ _ _ _ => ⟨reply, sent⟩, ?_⟩
        · intro result returned verified _
          rcases decided with ⟨earlier, last, _, rfl, _, accepted, _⟩ | ⟨_, unverified⟩
          · have shown := (answered last).mpr (List.mem_append_right _ List.mem_cons_self)
            cases expectPresent with
            | true =>
                rcases isListed_true accepted with ⟨row, member, same⟩
                cases listed : listing last with
                | none => simp [iterRows, listed] at member
                | some rows =>
                    rw [iterRows, listed] at member
                    exact ⟨last, rows, shown, listed, .obj row, member, row, rfl, same⟩
            | false =>
                cases listed : listing last with
                | none => exact absurd listed (wellFormed rfl last shown)
                | some rows =>
                    rw [iterRows, listed, Option.getD_some, isListed_false] at accepted
                    refine ⟨last, rows, shown, listed, ?_⟩
                    intro entry member
                    rcases accepted entry member with ⟨row, rfl, apart⟩
                    refine ⟨rfl, ?_⟩
                    rintro ⟨_, ⟨⟩, same⟩
                    exact apart same
          · rw [unverified result returned] at verified
            cases verified
        · refine ⟨replies.map (polled searchPath), [], ?_, asked_polled, by simp, by simpa using few,
            Nat.zero_le _⟩
          rw [List.append_nil]
          exact peerReads_polled

/-- A read of the local node, and nothing else -/
theorem sound_unread {ha : HaVerifier} {limit : Nat} {searchPath : Str} {reply : Reply}
    {outcome : Except Exn SyncResult} (unsent : ∀ result, outcome = .ok result → ha.hasPeer = false) :
    Sound (.robust searchPath) ha limit [⟨.get .haLocal searchPath [], reply⟩] outcome where
  confirmed result returned _ configured := by simp [unsent result returned] at configured
  synced_once := .inl rfl
  synced_if result returned configured := by simp [unsent result returned] at configured
  polls := ⟨[], [], rfl, by simp, by simp, Nat.zero_le limit, Nat.zero_le _⟩

theorem sound_polledList {ha : HaVerifier} {limit : Nat} {searchPath localFingerprint : Str}
    {localPayload : Json} {reply : Reply} {replies : List Reply} {last : Trace Party}
    {outcome : Except Exn SyncResult} (hashed : fingerprint localPayload = .ok localFingerprint)
    (few : replies.length ≤ limit) (closed : last = [] ∨ ∃ replies, last = bothRevisions replies)
    (decided : Decided (fun payload => fingerprint payload = .ok localFingerprint)
      replies last outcome) :
    Sound (.robust searchPath) ha limit
      (⟨.get .haLocal searchPath [], .ok localPayload⟩ :: synced reply ::
        (replies.map (polled searchPath) ++ last)) outcome := by
  have unsent : posts last = [] := by
    rcases closed with rfl | ⟨replies, rfl⟩ <;> rfl
  have sent : posts (⟨.get .haLocal searchPath [], .ok localPayload⟩ :: synced reply ::
      (replies.map (polled searchPath) ++ last)) = posts [synced reply] := by
    change posts ([synced reply] ++ (replies.map (polled searchPath) ++ last)) = _
    rw [posts_append, posts_append, posts_polled, unsent, List.append_nil, List.append_nil]
  refine ⟨?_, .inr ⟨reply, sent⟩, fun _ _ _ _ => ⟨reply, sent⟩, ?_⟩
  · intro result returned verified _ collisionless
    rcases decided with ⟨earlier, payload, _, rfl, rfl, accepted, _⟩ | ⟨_, unverified⟩
    · have shown : Answered ((earlier ++ [Except.ok payload]).map (polled searchPath)) searchPath
          payload :=
        answered_polled.mpr (List.mem_append_right _ List.mem_cons_self)
      refine ⟨localPayload, reply, _, payload, rfl, ?_, ?_⟩
      · rwa [List.append_nil]
      · refine collisionless .haPeer searchPath payload ?_ .haLocal searchPath localPayload
          List.mem_cons_self localFingerprint accepted hashed
        rw [List.append_nil]
        exact List.mem_cons_of_mem _ (List.mem_cons_of_mem _ shown)
    · rw [unverified result returned] at verified
      cases verified
  · refine ⟨replies.map (polled searchPath), last.filter isPeerRead, ?_, asked_polled, ?_,
      by simpa using few, ?_⟩
    · change List.filter isPeerRead (replies.map (polled searchPath) ++ last) = _
      rw [List.filter_append, peerReads_polled]
    · rcases closed with rfl | ⟨replies, rfl⟩
      · simp
      · exact asked_bothRevisions
    · rcases closed with rfl | ⟨replies, rfl⟩
      · exact Nat.zero_le _
      · exact Nat.le_refl 1

theorem sound_list {ha : HaVerifier} {limit : Nat} {searchPath : Str} {before after : State}
    {trace : Trace Party} {outcome : Except Exn SyncResult}
    (run : (ha.verifyList limit searchPath : Py Party State SyncResult).Run
      before trace outcome after) :
    Sound (.robust searchPath) ha limit trace outcome := by
  rw [verifyList, clientGet, Action.run_bind_decoded] at run
  rcases run with ⟨reply, tail, rfl, ⟨payload, answered, run⟩ | ⟨error, _, rfl, rfl, _⟩⟩
  · rw [received_eq_ok] at answered
    subst answered
    rw [Action.run_bind_ofExcept] at run
    rcases run with ⟨localFingerprint, hashed, run⟩ | ⟨error, _, rfl, rfl, _⟩
    · cases peer : ha.hasPeer with
      | false =>
          simp only [peer, Bool.not_false, if_true, Action.run_pure] at run
          rcases run with ⟨rfl, rfl, _⟩
          exact sound_unread fun _ _ => peer
      | true =>
          simp only [peer, Bool.not_true, Bool.false_eq_true, if_false] at run
          rcases run_bind_sync run with ⟨reply, rest, rfl, polling⟩
          rw [pollList] at polling
          split at polling
          · rcases run_pollPeer list_judges (.inl rfl) (fun _ => run_divergedAfter) polling with
              ⟨replies, last, rfl, few, closed, decided⟩
            exact sound_polledList hashed few closed decided
          · rw [Action.run_pure] at polling
            rcases polling with ⟨rfl, rfl, _⟩
            refine @sound_polledList _ ha limit searchPath _ payload reply [] [] _ hashed
              (Nat.zero_le limit) (.inl rfl) (.inr ⟨by simp, ?_⟩)
            rintro _ ⟨⟩
            rfl
    · exact sound_unread fun _ returned => by cases returned
  · exact sound_unread fun _ returned => by cases returned

theorem sound_rounds {ha : HaVerifier} {limit : Nat} {triggerSync : Bool} {sent : Trace Party}
    {rounds : List (Reply × Reply)} {outcome : Except Exn SyncResult}
    (synchronized : sent = [] ∧ triggerSync = false ∨ ∃ reply, sent = [synced reply])
    (few : rounds.length ≤ limit)
    (confirmed : ∀ result, outcome = .ok result → result.verified = true →
      ∃ earlier here there, rounds = earlier ++ [(here, there)] ∧
        revisionRead here ≠ [] ∧ revisionRead here = revisionRead there) :
    Sound (.revision triggerSync) ha limit (sent ++ rounds.flatMap bothRevisions) outcome where
  confirmed result returned verified _ := by
    rcases confirmed result returned verified with ⟨earlier, here, there, rfl, found⟩
    refine ⟨sent ++ earlier.flatMap bothRevisions, here, there, [], ?_, found⟩
    rw [List.flatMap_append, List.append_assoc, List.append_assoc, List.append_nil]
    rfl
  synced_once := by
    rw [posts_append, posts_rounds, List.append_nil]
    rcases synchronized with ⟨rfl, _⟩ | ⟨reply, rfl⟩
    · exact .inl rfl
    · exact .inr ⟨reply, rfl⟩
  synced_if _ _ _ triggers := by
    rw [posts_append, posts_rounds, List.append_nil]
    rcases synchronized with ⟨_, rfl⟩ | ⟨reply, rfl⟩
    · cases triggers
    · exact ⟨reply, rfl⟩
  polls := by
    refine ⟨(rounds.flatMap bothRevisions).filter isPeerRead, [], ?_, ?_, by simp, ?_, Nat.zero_le _⟩
    · rw [List.filter_append, List.append_nil]
      rcases synchronized with ⟨rfl, _⟩ | ⟨reply, rfl⟩ <;> rfl
    · intro event member
      rcases List.mem_filter.mp member with ⟨member, ofPeer⟩
      rcases List.mem_flatMap.mp member with ⟨replies, _, found⟩
      exact asked_bothRevisions event (List.mem_filter.mpr ⟨found, ofPeer⟩)
    · rwa [length_peerReads_rounds]

theorem sound_revision {ha : HaVerifier} {limit : Nat} {triggerSync : Bool} {before after : State}
    {trace : Trace Party} {outcome : Except Exn SyncResult}
    (run : (ha.verifyRevision limit triggerSync : Py Party State SyncResult).Run
      before trace outcome after) :
    Sound (.revision triggerSync) ha limit trace outcome := by
  rw [verifyRevision] at run
  split at run
  · rename_i peer
    rw [Action.run_pure] at run
    rcases run with ⟨rfl, rfl, _⟩
    exact {
      confirmed _ _ _ configured := by simp [configured] at peer
      synced_once := .inl rfl
      synced_if _ _ configured := by simp [configured] at peer
      polls := ⟨[], [], rfl, by simp, by simp, Nat.zero_le limit, Nat.zero_le _⟩ }
  · split at run
    · rcases run_bind_sync run with ⟨reply, tail, rfl, polling⟩
      rw [pollSynced] at polling
      split at polling
      · rcases run_pollRevision polling with ⟨rounds, rfl, few, confirmed⟩
        exact sound_rounds (.inr ⟨reply, rfl⟩) few confirmed
      · rw [Action.run_pure] at polling
        rcases polling with ⟨rfl, rfl, _⟩
        refine @sound_rounds _ ha limit triggerSync [synced reply] [] _ (.inr ⟨reply, rfl⟩)
          (Nat.zero_le limit) ?_
        rintro _ ⟨⟩ verified
        cases verified
    · rename_i untriggered
      rcases run_pollRevision run with ⟨rounds, rfl, few, confirmed⟩
      exact sound_rounds (.inl ⟨rfl, by simpa using untriggered⟩) few confirmed

/-- A verification is sound, unless it takes an answer that is no list for one without the row. -/
theorem program_sound_iff {check : Verification} {ha : HaVerifier} {limit : Nat}
    {before after : State} {trace : Trace Party} {outcome : Except Exn SyncResult}
    (run : (check.program ha limit : Py Party State SyncResult).Run before trace outcome after) :
    check.Sound ha limit trace outcome ↔
      ∀ searchPath uuidField uuidValue, check = .item searchPath uuidField uuidValue false →
        ∀ payload, Answered trace searchPath payload → listing payload ≠ none := by
  cases check with
  | item searchPath uuidField uuidValue expectPresent =>
      refine (sound_item_iff run).trans ⟨?_, ?_⟩
      · rintro wellFormed _ _ _ ⟨⟩
        exact wellFormed rfl
      · rintro wellFormed rfl
        exact wellFormed _ _ _ rfl
  | robust searchPath =>
      exact ⟨fun _ _ _ _ same => (nomatch same), fun _ => sound_list run⟩
  | revision triggerSync =>
      exact ⟨fun _ _ _ _ same => (nomatch same), fun _ => sound_revision run⟩

end

/-! ## A row that is expected to be gone -/

def removal : Verification := .item "/api/firewall/alias/searchItem" "uuid" "a" false

/-- The synchronization succeeds and the first poll is answered so. -/
def firstPoll (payload : Json) : Trace Party :=
  [synced (.ok (.obj [])), polled "/api/firewall/alias/searchItem" (.ok payload)]

theorem answered_firstPoll {searchPath : Str} {payload answer : Json}
    (answered : Answered (firstPoll payload) searchPath answer) : answer = payload := by
  rcases List.mem_cons.mp answered with same | member
  · cases same
  · cases List.mem_singleton.mp member
    rfl

/-- A listing that has another row only -/
def otherRow : Json := .obj [("rows", .arr [.obj [("uuid", .str "b")]])]

def removed : SyncResult where
  triggered := true
  verified := true
  attempts := 1
  detail := "a removed on peer in 1 attempt(s)"

theorem program_sound_removal :
    (@program Runtime.ascii Unit ⟨true⟩ 5 removal).Run () (firstPoll otherRow) (.ok removed) () ∧
      removed.verified = true ∧
      @Sound Runtime.ascii removal ⟨true⟩ 5 (firstPoll otherRow) (.ok removed) := by
  have run : (@program Runtime.ascii Unit ⟨true⟩ 5 removal).Run () (firstPoll otherRow)
      (.ok removed) () := .ask _ (.ask _ (.refl _))
  refine ⟨run, rfl, (@program_sound_iff Runtime.ascii _ _ _ _ _ _ _ _ run).mpr ?_⟩
  rintro searchPath _ _ _ payload answered
  rw [answered_firstPoll answered]
  exact Option.some_ne_none _

/-- An answer that reports an error is taken for the absence of the row. -/
theorem removal_unread : ∃ result, result.verified = true ∧
    (@program Runtime.ascii Unit ⟨true⟩ 5 removal).Run ()
      (firstPoll (.obj [("status", .str "error")])) (.ok result) () ∧
    ¬ @Sound Runtime.ascii removal ⟨true⟩ 5 (firstPoll (.obj [("status", .str "error")]))
      (.ok result) := by
  refine ⟨removed, rfl, .ask _ (.ask _ (.refl _)), ?_⟩
  intro sound
  rcases @Sound.confirmed Runtime.ascii _ _ _ _ _ sound _ rfl rfl rfl with ⟨payload, rows, shown, listed, _⟩
  rw [answered_firstPoll shown] at listed
  cases listed

end Verification

end HaVerifier

end OpnsensePlugin

import OpnsensePlugin.Environment

/-!
# HA sync trigger and verification of the legacy writers

`HAVerifier.verify_robust` reads the list of the local node, triggers the XMLRPC
synchronization and polls the peer until the fingerprints of both lists agree.
The read of the local node and the fingerprints are outside of its `try`
statements: they are what can make it raise.
-/

namespace OpnsensePlugin

open Effects Python

/-- The clients of a legacy writer: its own one and the two of its `HAVerifier`. -/
inductive Party
  | client
  | haLocal
  | haPeer
deriving DecidableEq

/-- `HAVerifier(local, peer)` -/
structure HaVerifier where
  hasPeer : Bool

namespace HaVerifier

structure SyncResult where
  triggered : Bool
  verified : Bool
  localFingerprint : Str := []
  peerFingerprint : Str := []
  detail : Str := []
  attempts : Nat := 0
  revisionLocal : Str := []
  revisionPeer : Str := []
deriving DecidableEq

def sysinfoPath : Str := "/api/diagnostics/system/system_information"

section

variable [Runtime]

mutual

/-- `json.dumps(value, sort_keys=True, ensure_ascii=False)` -/
def spaced : Json → Str
  | .arr items => "[" ++ join ", " (spacedItems items) ++ "]"
  | .obj fields =>
      let sorted := (spacedFields fields).insertionSort fun a b => strLe a.1 b.1 = true
      "\x7b" ++ join ", " (sorted.map fun (key, value) => quoted key ++ ": " ++ value) ++ "\x7d"
  | value => value.dumps

def spacedItems : List Json → List Str
  | [] => []
  | item :: rest => spaced item :: spacedItems rest

def spacedFields : List (Str × Json) → List (Str × Str)
  | [] => []
  | (key, value) :: rest => (key, spaced value) :: spacedFields rest

end

/-- Whether the text of an answer can be hashed. -/
def isReadable (payload : Json) : Bool := (spaced payload).all isEncodable

/-- `_fingerprint` -/
def fingerprint (payload : Json) : Except Exn Str :=
  if isReadable payload then .ok ((Runtime.sha256 (spaced payload)).take 16)
  else .error unicodeEncodeError

/-- `data.get("config_revision") or data.get("configRevision") or ""` -/
def revisionOf : Json → Str
  | .obj fields =>
      let first := fieldD fields "config_revision" .null
      let second := fieldD fields "configRevision" .null
      if first.truthy then first.text else if second.truthy then second.text else []
  | _ => []

variable {State : Type}

/-- `_get_revision` -/
def getRevision (node : Party) : Py Party State Str := do
  let reply ← Action.attempt (fun _ => true) (clientGet node sysinfoPath)
  match reply with
  | .ok data => return revisionOf data
  | .error _ => return []

/-- `sync` -/
def sync : Py Party State Bool := do
  let reply ← Action.attempt (fun _ => true)
    (clientPost .haLocal "/api/core/hasync/syncTo" (.obj []))
  return reply.toBool

def maxAttempts : Nat := 5

def lastErrorNote (lastError : Str) : Str :=
  if lastError.isEmpty then [] else " (" ++ lastError ++ ")"

/-- The report after the last attempt -/
def diverged (localFingerprint peerFingerprint lastError : Str) : Py Party State SyncResult := do
  let revisionLocal ← getRevision .haLocal
  let revisionPeer ← getRevision .haPeer
  let hint : Str := if !revisionLocal.isEmpty && revisionLocal = revisionPeer then
      "revision matches but content differs (suspect concurrent write)"
    else "revision mismatch (local=" ++ Runtime.reprStr revisionLocal ++ ", peer=" ++
      Runtime.reprStr revisionPeer ++ ")"
  return { triggered := true, verified := false, localFingerprint, peerFingerprint
           attempts := maxAttempts, revisionLocal, revisionPeer
           detail := "fingerprints diverged after " ++ natText maxAttempts ++ " attempt(s); " ++
            hint ++ lastErrorNote lastError }

/-- The attempts that remain: the next one has the number `maxAttempts - remaining`. -/
def poll (searchPath localFingerprint : Str) :
    Nat → Str → Str → Py Party State SyncResult
  | 0, peerFingerprint, lastError => diverged localFingerprint peerFingerprint lastError
  | remaining + 1, peerFingerprint, lastError => do
      let reply ← Action.attempt (fun _ => true) (clientGet .haPeer searchPath)
      match reply with
      | .error error =>
          if remaining = 0 then
            return { triggered := true, verified := false, localFingerprint
                     attempts := maxAttempts, detail := "peer fetch failed: " ++ excText error }
          else poll searchPath localFingerprint remaining peerFingerprint (excText error)
      | .ok payload => do
          let found ← Action.ofExcept (fingerprint payload)
          if found = localFingerprint then
            return { triggered := true, verified := true, localFingerprint
                     peerFingerprint := found, attempts := maxAttempts - remaining
                     detail := "fingerprints matched in " ++
                      natText (maxAttempts - remaining) ++ " attempt(s)" }
          else poll searchPath localFingerprint remaining found lastError

/-- `verify_robust` after the synchronization was triggered -/
def verifyTriggered (searchPath localFingerprint : Str) (triggered : Bool) :
    Py Party State SyncResult :=
  if triggered then poll searchPath localFingerprint maxAttempts [] []
  else return { triggered := false, verified := false, localFingerprint, attempts := 1
                detail := "syncTo failed" }

/-- `verify_robust` -/
def verifyRobust (ha : HaVerifier) (searchPath : Str) : Py Party State SyncResult := do
  let localPayload ← clientGet .haLocal searchPath
  let localFingerprint ← Action.ofExcept (fingerprint localPayload)
  if !ha.hasPeer then
    return { triggered := false, verified := true, localFingerprint
             peerFingerprint := localFingerprint, attempts := 1
             detail := "no peer configured — single-node mode" }
  else do
    let triggered ← sync
    verifyTriggered searchPath localFingerprint triggered

/-! ## Requests -/

/-- The requests of a verification. -/
def IsVerification : Request Party → Prop
  | .get _ _ _ => True
  | .post node _ _ => node = .haLocal
  | _ => False

variable {searchPath localFingerprint : Str}

omit [Runtime] in
theorem clientGet_verifies {node : Party} {path : Str} :
    Action.Ensures (Action.Observes IsVerification)
      (clientGet node path : Py Party State Json) :=
  clientGet_observes.widen fun request get => by
    cases request <;> simp_all [Request.IsGet, IsVerification]

theorem getRevision_verifies {node : Party} :
    Action.Ensures (Action.Observes IsVerification) (getRevision node : Py Party State Str) := by
  apply Action.ensures_bind (Action.ensures_attempt clientGet_verifies)
  intro reply
  cases reply <;> exact Action.ensures_pure

omit [Runtime] in
theorem sync_verifies :
    Action.Ensures (Action.Observes IsVerification) (sync : Py Party State Bool) := by
  apply Action.ensures_bind
  · apply Action.ensures_attempt
    intro before trace outcome after run
    rw [run_clientPost] at run
    rcases run with ⟨reply, rfl, _, rfl⟩
    simp [Action.Observes, IsVerification]
  · intro reply
    exact Action.ensures_pure

theorem poll_verifies {remaining : Nat} {peerFingerprint lastError : Str} :
    Action.Ensures (Action.Observes IsVerification)
      (poll searchPath localFingerprint remaining peerFingerprint lastError :
        Py Party State SyncResult) := by
  induction remaining generalizing peerFingerprint lastError with
  | zero =>
      apply Action.ensures_bind getRevision_verifies
      intro revisionLocal
      apply Action.ensures_bind getRevision_verifies
      intro revisionPeer
      exact Action.ensures_pure
  | succ remaining ih =>
      apply Action.ensures_bind (Action.ensures_attempt clientGet_verifies)
      intro reply
      cases reply with
      | error error =>
          dsimp only
          split
          · exact Action.ensures_pure
          · exact ih
      | ok payload =>
          refine Action.ensures_bind Action.ensures_ofExcept ?_
          intro found
          split
          · exact Action.ensures_pure
          · exact ih

theorem verifyTriggered_verifies {triggered : Bool} :
    Action.Ensures (Action.Observes IsVerification)
      (verifyTriggered searchPath localFingerprint triggered : Py Party State SyncResult) := by
  cases triggered with
  | false => exact Action.ensures_pure
  | true => exact poll_verifies

theorem verifyRobust_verifies {ha : HaVerifier} :
    Action.Ensures (Action.Observes IsVerification)
      (ha.verifyRobust searchPath : Py Party State SyncResult) := by
  apply Action.ensures_bind clientGet_verifies
  intro localPayload
  refine Action.ensures_bind Action.ensures_ofExcept ?_
  intro localFingerprint
  split
  · exact Action.ensures_pure
  · exact Action.ensures_bind sync_verifies fun _ => verifyTriggered_verifies

/-! ## When it returns -/

/-- An exchange that does not make a verification of the list at `searchPath` raise -/
def Digestible (searchPath : Str) : Exchange Party → Prop
  | ⟨.get .haLocal path _, reply⟩ =>
      path = searchPath → ∃ value, reply = .ok value ∧ isReadable value = true
  | ⟨.get .haPeer path _, reply⟩ =>
      path = searchPath → ∀ value, reply = .ok value → isReadable value = true
  | _ => True

theorem fingerprint_eq_ok {payload : Json} :
    (∃ text, fingerprint payload = .ok text) ↔ isReadable payload = true := by
  unfold fingerprint
  split <;> simp_all

theorem getRevision_returns {node : Party} (apart : searchPath ≠ sysinfoPath) :
    Action.ReturnsIff (Digestible searchPath) (getRevision node : Py Party State Str) := by
  apply Action.returnsIff_bind
  · apply Action.returnsIff_attempt
    intro before trace outcome after run
    rw [run_clientGet] at run
    rcases run with ⟨reply, rfl, _⟩
    cases node <;> simp [Digestible, Ne.symm apart]
  · intro reply
    cases reply <;> exact Action.returnsIff_pure

theorem sync_returns :
    Action.ReturnsIff (Digestible searchPath) (sync : Py Party State Bool) := by
  apply Action.returnsIff_bind
  · apply Action.returnsIff_attempt
    intro before trace outcome after run
    rw [run_clientPost] at run
    rcases run with ⟨reply, rfl, _⟩
    simp [Digestible]
  · intro reply
    exact Action.returnsIff_pure

/-- A read whose answer is hashed: an answer that cannot be hashed ends the run. -/
theorem returnsIff_hashed {α : Type} {payload : Json} {next : Str → Py Party State α}
    {read : Exchange Party}
    (digestible : Digestible searchPath read ↔ isReadable payload = true)
    (rest : ∀ found, Action.ReturnsIff (Digestible searchPath) (next found)) {before after : State}
    {trace : Trace Party} {outcome : Except Exn α}
    (run : (Action.ofExcept (fingerprint payload) >>= next).Run before trace outcome after) :
    (∃ value, outcome = .ok value) ↔ ∀ event ∈ read :: trace, Digestible searchPath event := by
  rw [Action.run_bind_ofExcept] at run
  rcases run with ⟨found, hashed, run⟩ | ⟨error, refused, rfl, rfl, rfl⟩
  · have readable := fingerprint_eq_ok.mp ⟨found, hashed⟩
    rw [rest found before trace outcome after run]
    simp [digestible, readable]
  · have unreadable : ¬ isReadable payload = true := by
      rw [← fingerprint_eq_ok, refused]
      simp
    simp [digestible, unreadable]

theorem poll_returns (apart : searchPath ≠ sysinfoPath) {remaining : Nat}
    {peerFingerprint lastError : Str} :
    Action.ReturnsIff (Digestible searchPath)
      (poll searchPath localFingerprint remaining peerFingerprint lastError :
        Py Party State SyncResult) := by
  induction remaining generalizing peerFingerprint lastError with
  | zero =>
      apply Action.returnsIff_bind (getRevision_returns apart)
      intro revisionLocal
      apply Action.returnsIff_bind (getRevision_returns apart)
      intro revisionPeer
      exact Action.returnsIff_pure
  | succ remaining ih =>
      intro before trace outcome after run
      rw [poll, Action.run_bind_attempt] at run
      rcases run with ⟨front, result, middle, back, rfl, read, _, run⟩ | ⟨error, uncaught, _⟩
      · rw [run_clientGet] at read
        rcases read with ⟨reply, rfl, rfl, rfl⟩
        cases answered : received reply with
        | error error =>
            have unanswered : Digestible searchPath ⟨.get .haPeer searchPath [], reply⟩ := by
              intro _ value same
              rw [same] at answered
              cases answered
            rw [answered] at run
            dsimp only at run
            have rest : (∃ value, outcome = .ok value) ↔
                ∀ event ∈ back, Digestible searchPath event := by
              split at run
              · exact Action.returnsIff_pure _ _ _ _ run
              · exact ih _ _ _ _ run
            rw [rest]
            simp [unanswered]
        | ok payload =>
            rw [received_eq_ok] at answered
            subst answered
            apply returnsIff_hashed (by simp [Digestible]) _ run
            intro found
            split
            · exact Action.returnsIff_pure
            · exact ih
      · cases uncaught

/-- A verification returns exactly if what it hashes can be read and encoded. -/
theorem verifyRobust_returns (apart : searchPath ≠ sysinfoPath) {ha : HaVerifier} :
    Action.ReturnsIff (Digestible searchPath)
      (ha.verifyRobust searchPath : Py Party State SyncResult) := by
  intro before trace outcome after run
  rw [verifyRobust, clientGet, Action.run_bind_decoded] at run
  rcases run with ⟨reply, tail, rfl, ⟨payload, answered, run⟩ | ⟨error, answered, rfl, rfl, rfl⟩⟩
  · rw [received_eq_ok] at answered
    subst answered
    apply returnsIff_hashed (by simp [Digestible]) _ run
    intro localFingerprint
    split
    · exact Action.returnsIff_pure
    · apply Action.returnsIff_bind sync_returns
      intro triggered
      cases triggered with
      | false => exact Action.returnsIff_pure
      | true => exact poll_returns apart
  · have refused : ¬ Digestible searchPath ⟨.get .haLocal searchPath [], reply⟩ := by
      intro digestible
      rcases digestible rfl with ⟨value, rfl, _⟩
      cases answered
    simp [refused]

end

end HaVerifier

end OpnsensePlugin

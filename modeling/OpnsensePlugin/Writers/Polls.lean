import OpnsensePlugin.Carp
import OpnsensePlugin.Python.Equality
import OpnsensePlugin.Writers.HaVerifier

/-!
# Verifications of the peer

`verify_item` and `verify_robust` poll a list of the peer in the same loop and
differ in what they look for; `verify_revision` polls the revisions of both
nodes. An answer that is no list counts as a list without rows.
-/

namespace OpnsensePlugin

open Effects Python

namespace HaVerifier

/-! ## Rows of a list -/

/-- The rows of an answer that is a list -/
def listing : Json → Option (List Json)
  | .obj fields =>
      match field fields "rows" with
      | some (.arr rows) => some rows
      | _ => none
  | .arr rows => some rows
  | _ => none

/-- `_iter_rows` -/
def iterRows (payload : Json) : List Json := (listing payload).getD []

section Model

variable [Runtime]

/-- `any(str(r.get(uuid_field, "")) == uuid_value for r in rows)` -/
def isListed (uuidField uuidValue : Str) : List Json → Except Exn Bool
  | [] => .ok false
  | .obj row :: rest =>
      if fieldText row uuidField = uuidValue then .ok true else isListed uuidField uuidValue rest
  | other :: _ => .error (noAttribute other "get")

/-! ## The loop -/

variable {State σ : Type}

/-- What a verification makes of the answers of the peer -/
structure Polling (σ : Type) where
  /-- The report that an answer leads to at this attempt, or what is kept for the next one -/
  examine : Nat → σ → Json → Except Exn (SyncResult ⊕ σ)
  /-- What is kept of an exception -/
  noted : σ → Exn → σ
  /-- The report about an exception at the last attempt -/
  unreachable : Nat → Exn → SyncResult

/-- The attempts that remain: the next one has the number `limit - remaining`. -/
def pollPeer (polling : Polling σ) (searchPath : Str) (limit : Nat)
    (finish : σ → Py Party State SyncResult) : Nat → σ → Py Party State SyncResult
  | 0, kept => finish kept
  | remaining + 1, kept => do
      let reply ← Action.attempt (fun _ => true) (clientGet .haPeer searchPath)
      match reply with
      | .error error =>
          if remaining = 0 then return polling.unreachable limit error
          else pollPeer polling searchPath limit finish remaining (polling.noted kept error)
      | .ok payload => do
          match ← Action.ofExcept (polling.examine (limit - remaining) kept payload) with
          | .inl result => return result
          | .inr kept => pollPeer polling searchPath limit finish remaining kept

def singleNode : SyncResult where
  triggered := false
  verified := true
  attempts := 1
  detail := "no peer configured — single-node mode"

def syncFailed : SyncResult where
  triggered := false
  verified := false
  attempts := 1
  detail := "syncTo failed"

/-! ## `verify_item` -/

def itemPolling (uuidField uuidValue : Str) (expectPresent : Bool) : Polling Str where
  examine attempt lastError payload :=
    (isListed uuidField uuidValue (iterRows payload)).map fun present =>
      if present = expectPresent then
        .inl { triggered := true, verified := true, attempts := attempt
               detail := uuidValue ++ (if expectPresent then " found" else " removed" : Str) ++
                (" on peer in " : Str) ++ natText attempt ++ (" attempt(s)" : Str) }
      else .inr lastError
  noted _ error := excText error
  unreachable attempt error :=
    { triggered := true, verified := false, attempts := attempt
      detail := "peer fetch failed: " ++ excText error }

def itemMissed (limit : Nat) (uuidValue : Str) (expectPresent : Bool) (lastError : Str) :
    SyncResult where
  triggered := true
  verified := false
  attempts := limit
  detail := uuidValue ++ (if expectPresent then " not present" else " still present" : Str) ++
    (" on peer after " : Str) ++ natText limit ++ (" attempt(s)" : Str) ++ lastErrorNote lastError

/-- `verify_item` after the synchronization was triggered -/
def pollItem (limit : Nat) (searchPath uuidField uuidValue : Str) (expectPresent triggered : Bool) :
    Py Party State SyncResult :=
  if triggered then
    pollPeer (itemPolling uuidField uuidValue expectPresent) searchPath limit
      (fun lastError => pure (itemMissed limit uuidValue expectPresent lastError)) limit []
  else pure syncFailed

/-- `verify_item` -/
def verifyItem (ha : HaVerifier) (limit : Nat) (searchPath uuidField uuidValue : Str)
    (expectPresent : Bool) : Py Party State SyncResult :=
  if !ha.hasPeer then pure singleNode
  else sync >>= pollItem limit searchPath uuidField uuidValue expectPresent

/-! ## `verify_robust` -/

def listPolling (localFingerprint : Str) : Polling (Str × Str) where
  examine attempt kept payload :=
    (fingerprint payload).map fun found =>
      if found = localFingerprint then
        .inl { triggered := true, verified := true, localFingerprint, peerFingerprint := found
               attempts := attempt
               detail := "fingerprints matched in " ++ natText attempt ++ (" attempt(s)" : Str) }
      else .inr (found, kept.2)
  noted kept error := (kept.1, excText error)
  unreachable attempt error :=
    { triggered := true, verified := false, localFingerprint, attempts := attempt
      detail := "peer fetch failed: " ++ excText error }

/-- The report after the last attempt -/
def divergedAfter (limit : Nat) (localFingerprint : Str) (kept : Str × Str) :
    Py Party State SyncResult := do
  let revisionLocal ← getRevision .haLocal
  let revisionPeer ← getRevision .haPeer
  let hint : Str := if !revisionLocal.isEmpty && revisionLocal = revisionPeer then
      "revision matches but content differs (suspect concurrent write)"
    else "revision mismatch (local=" ++ Runtime.reprStr revisionLocal ++ ", peer=" ++
      Runtime.reprStr revisionPeer ++ ")"
  return { triggered := true, verified := false, localFingerprint, peerFingerprint := kept.1
           attempts := limit, revisionLocal, revisionPeer
           detail := "fingerprints diverged after " ++ natText limit ++ " attempt(s); " ++
            hint ++ lastErrorNote kept.2 }

/-- `verify_robust` after the synchronization was triggered -/
def pollList (limit : Nat) (searchPath localFingerprint : Str) (triggered : Bool) :
    Py Party State SyncResult :=
  if triggered then
    pollPeer (listPolling localFingerprint) searchPath limit
      (divergedAfter limit localFingerprint) limit ([], [])
  else pure { syncFailed with localFingerprint }

/-- `verify_robust` with this many attempts -/
def verifyList (ha : HaVerifier) (limit : Nat) (searchPath : Str) :
    Py Party State SyncResult := do
  let localPayload ← clientGet .haLocal searchPath
  let localFingerprint ← Action.ofExcept (fingerprint localPayload)
  if !ha.hasPeer then
    return { singleNode with localFingerprint, peerFingerprint := localFingerprint }
  else sync >>= pollList limit searchPath localFingerprint

/-! ## `verify_revision` -/

def revisionMismatch (limit : Nat) (triggered : Bool) (revisionLocal revisionPeer : Str) :
    SyncResult where
  triggered := triggered
  verified := false
  attempts := limit
  revisionLocal := revisionLocal
  revisionPeer := revisionPeer
  detail := "config_revision mismatch after " ++ natText limit ++ " attempt(s) (local=" ++
    Runtime.reprStr revisionLocal ++ ", peer=" ++ Runtime.reprStr revisionPeer ++ ")"

def pollRevision (limit : Nat) (triggered : Bool) : Nat → Str → Str → Py Party State SyncResult
  | 0, revisionLocal, revisionPeer =>
      return revisionMismatch limit triggered revisionLocal revisionPeer
  | remaining + 1, _, _ => do
      let revisionLocal ← getRevision .haLocal
      let revisionPeer ← getRevision .haPeer
      if !revisionLocal.isEmpty && revisionLocal = revisionPeer then
        return { triggered, verified := true, attempts := limit - remaining, revisionLocal
                 revisionPeer
                 detail := "config_revision " ++ revisionLocal ++ " matched in " ++
                  natText (limit - remaining) ++ " attempt(s)" }
      else pollRevision limit triggered remaining revisionLocal revisionPeer

/-- `verify_revision` after the synchronization was triggered -/
def pollSynced (limit : Nat) (triggered : Bool) : Py Party State SyncResult :=
  if triggered then pollRevision limit true limit [] [] else pure syncFailed

/-- `verify_revision` -/
def verifyRevision (ha : HaVerifier) (limit : Nat) (triggerSync : Bool) :
    Py Party State SyncResult :=
  if !ha.hasPeer then pure singleNode
  else if triggerSync then sync >>= pollSynced limit
  else pollRevision limit false limit [] []

/-! ## The verification of the legacy writers -/

theorem poll_eq {searchPath localFingerprint : Str} {remaining : Nat} {kept : Str × Str} :
    (poll searchPath localFingerprint remaining kept.1 kept.2 : Py Party State SyncResult) =
      pollPeer (listPolling localFingerprint) searchPath maxAttempts
        (divergedAfter maxAttempts localFingerprint) remaining kept := by
  induction remaining generalizing kept with
  | zero => rfl
  | succ remaining ih =>
      rw [poll, pollPeer]
      congr 1
      funext reply
      cases reply with
      | error error =>
          dsimp only
          split
          · rename_i last
            subst last
            rfl
          · exact @ih (kept.1, excText error)
      | ok payload =>
          dsimp only [listPolling]
          cases fingerprint payload with
          | error error => rfl
          | ok found =>
              simp only [Except.map]
              rw [Action.ofExcept_ok_bind, Action.ofExcept_ok_bind]
              by_cases matching : found = localFingerprint
              · simp only [matching, if_true]
              · simp only [matching, if_false]
                exact @ih (found, kept.2)

/-- The verification of the legacy writers is the one with five attempts. -/
theorem verifyRobust_eq {ha : HaVerifier} {searchPath : Str} :
    (ha.verifyRobust searchPath : Py Party State SyncResult) =
      ha.verifyList maxAttempts searchPath := by
  rw [verifyRobust, verifyList]
  refine congrArg _ (funext fun localPayload => congrArg _ (funext fun localFingerprint => ?_))
  have polled := @poll_eq _ State searchPath localFingerprint maxAttempts ([], [])
  have same : (verifyTriggered searchPath localFingerprint : Bool → Py Party State SyncResult) =
      pollList maxAttempts searchPath localFingerprint := by
    funext triggered
    rw [verifyTriggered, pollList, ← polled]
    rfl
  rw [← same]
  rfl

end Model

end HaVerifier

end OpnsensePlugin

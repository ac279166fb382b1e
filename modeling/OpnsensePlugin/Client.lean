import OpnsensePlugin.Environment
import OpnsensePlugin.Python.Url

/-!
# The HTTP client

`OPNsenseClient._request` sends a request until an outcome is not one to be
retried or all attempts are made. A `POST` has one attempt. The replies that the
rest of the plugin sees are the ways in which this loop ends.
-/

namespace OpnsensePlugin

open Effects Python

/-- What `resp` tells; `json` is `none` where `resp.json()` raises `ValueError`. -/
structure HttpResponse where
  status : Int
  ok : Bool
  text : Str
  json : Option Json

/-- The outcome of `session.request` -/
inductive Transport
  | exception (detail : Str)
  | response (response : HttpResponse)

/-- `_RetryPolicy` -/
structure RetryPolicy where
  attempts : Nat
  baseDelay : PyFloat
  maxDelay : PyFloat
  retryStatus : List Int

/-! ## Pauses -/

namespace Delay

/-- A finite number in units of a power of two that is not above its own one -/
def units (negative : Bool) (mantissa : Nat) (exponent unit : Int) : Int :=
  (if negative then -(mantissa : Int) else mantissa) * 2 ^ (exponent - unit).toNat

/-- `left < right` -/
def less : PyFloat → PyFloat → Bool
  | .nan, _ | _, .nan => false
  | .infinity negative, .infinity other => negative && !other
  | .infinity negative, .finite _ _ _ => negative
  | .finite _ _ _, .infinity negative => !negative
  | .finite negative mantissa exponent, .finite other digits scale =>
      units negative mantissa exponent (min exponent scale) <
        units other digits scale (min exponent scale)

/-- `min(first, second)` -/
def least (first second : PyFloat) : PyFloat := if less second first then second else first

/-- The product with a power of two. One beyond the range of `float` keeps its value here. -/
def doubled (delay : PyFloat) (times : Nat) : PyFloat :=
  match delay with
  | .finite negative mantissa exponent => .finite negative mantissa (exponent + times)
  | other => other

end Delay

/-- `_sleep_backoff`, where `sleep` is `time.sleep` -/
def sleepBackoff (sleep : PyFloat → Except Exn Unit) (policy : RetryPolicy) (attempt : Nat) :
    Except Exn Unit :=
  if 1024 ≤ attempt then .error (.builtin .overflowError "int too large to convert to float")
  else sleep (Delay.least (Delay.doubled policy.baseDelay attempt) policy.maxDelay)

/-! ## Requests -/

/-- A way in which `_request` ends, by the statement that it ends with -/
inductive Ending
  | decoded (value : Json)
  | unanswered (detail : Str)
  | refused (detail : Str)
  | rejected (detail : Str)
  | undecodable (detail : Str)
  | exhausted (detail : Str)
  | interrupted (error : Exn)

/-- What the caller sees -/
def Ending.outcome : Ending → Except Exn Json
  | .decoded value => .ok value
  | .unanswered detail => .error (opnsenseError (.timeout detail))
  | .refused detail => .error (opnsenseError (.auth detail))
  | .rejected detail | .undecodable detail | .exhausted detail =>
      .error (opnsenseError (.plain detail))
  | .interrupted error => .error error

structure Requested where
  requests : Nat
  ending : Ending

namespace OPNsenseClient

variable [Runtime] (sleep : PyFloat → Except Exn Unit) (policy : RetryPolicy)
  (transport : Nat → Transport) (hostName method path : Str)

/-- The attempts of a call -/
def attempts (retry : Bool) : Nat := if retry then policy.attempts else 1

def describe : Str := method ++ (" " : Str) ++ path

/-- What follows a pause: nothing, unless it cannot be made -/
def continued (attempt : Nat) : Option Ending :=
  match sleepBackoff sleep policy attempt with
  | .ok _ => none
  | .error error => some (.interrupted error)

/-- The end of the attempt with this index, or nothing where another one follows -/
def attempt (retry : Bool) (index : Nat) : Option Ending :=
  match transport index with
  | .exception detail =>
      if index + 1 = attempts policy retry then
        some (.unanswered (describe method path ++ (" failed after " : Str) ++
          natText (attempts policy retry) ++ (" attempt(s): " : Str) ++ detail))
      else continued sleep policy index
  | .response resp =>
      if resp.status = 401 || resp.status = 403 then
        some (.refused (describe method path ++ (" → " : Str) ++ intText resp.status ++
          (" (check api_key/api_secret + user privileges on host " : Str) ++ hostName ++
          (")" : Str)))
      else if resp.status ∈ policy.retryStatus && retry && index + 1 < attempts policy retry then
        continued sleep policy index
      else if !resp.ok then
        some (.rejected (describe method path ++ (" → HTTP " : Str) ++ intText resp.status ++
          (": " : Str) ++ resp.text.take 200))
      else
        match resp.json with
        | some value => some (.decoded value)
        | none => some (.undecodable (describe method path ++ (" → non-JSON response: " : Str) ++
            resp.text.take 200))

/-- `str(last_exc)` after this many attempts -/
def lastException : Nat → Str
  | 0 => "None"
  | index + 1 =>
      match transport index with
      | .exception detail => detail
      | .response _ => lastException index

/-- The loop of `_request` from an attempt on, with the attempts that remain -/
def requestFrom (retry : Bool) (index : Nat) : Nat → Requested
  | 0 => ⟨index, .exhausted (describe method path ++ (" exhausted retries: " : Str) ++
      lastException transport index)⟩
  | remaining + 1 =>
      match attempt sleep policy transport hostName method path retry index with
      | some ending => ⟨index + 1, ending⟩
      | none => requestFrom retry (index + 1) remaining

/-- `_url` -/
def url (base path : Str) : Option Str :=
  urljoin base (if path.head? = some (code '/') then path else code '/' :: path)

/-- `_request`; a path that cannot be joined to the address of the host is never sent. -/
def request (base : Str) (retry : Bool) : Requested :=
  match url base path with
  | none => ⟨0, .interrupted (.builtin .valueError "Invalid IPv6 URL")⟩
  | some _ =>
      requestFrom sleep policy transport hostName method path retry 0 (attempts policy retry)

/-- `get` -/
def get (base : Str) : Requested :=
  request sleep policy transport hostName "GET" path base true

/-- `post` -/
def post (base : Str) : Requested :=
  request sleep policy transport hostName "POST" path base false

/-! ## Where the loop stops -/

section Loop

variable {sleep : PyFloat → Except Exn Unit} {policy : RetryPolicy} {transport : Nat → Transport}
  {hostName method path base : Str} {retry : Bool} {start last remaining : Nat} {ending : Ending}

omit [Runtime] in
theorem requestFrom_stops (goes : ∀ index, start ≤ index → index < last →
      attempt sleep policy transport hostName method path retry index = none)
    (stops : attempt sleep policy transport hostName method path retry last = some ending)
    (reached : start ≤ last) (bound : last < start + remaining) :
    requestFrom sleep policy transport hostName method path retry start remaining =
      ⟨last + 1, ending⟩ := by
  induction remaining generalizing start with
  | zero => omega
  | succ remaining ih =>
      rw [requestFrom]
      rcases Nat.eq_or_lt_of_le reached with rfl | before
      · rw [stops]
      · rw [goes start le_rfl before]
        apply ih
        · intro index least
          exact goes index (by omega)
        · omega
        · omega

/-- A status that asks for another attempt, unless it is about the credentials -/
def isRetried (policy : RetryPolicy) : Transport → Bool
  | .exception _ => true
  | .response resp =>
      resp.status ∈ policy.retryStatus && resp.status ≠ 401 && resp.status ≠ 403

/-- What an outcome stands for once no other attempt follows -/
inductive Verdict
  | value (json : Json)
  | auth
  | timeout
  | error

def verdictOf : Transport → Verdict
  | .exception _ => .timeout
  | .response resp =>
      if resp.status = 401 ∨ resp.status = 403 then .auth
      else if resp.ok then
        match resp.json with
        | some value => .value value
        | none => .error
      else .error

/-- The result of a call is a JSON value or an exception of the class of the verdict. -/
def Verdict.Matches : Verdict → Except Exn Json → Prop
  | .value json, outcome => outcome = .ok json
  | .auth, outcome => ∃ detail, outcome = .error (opnsenseError (.auth detail))
  | .timeout, outcome => ∃ detail, outcome = .error (opnsenseError (.timeout detail))
  | .error, outcome => ∃ detail, outcome = .error (opnsenseError (.plain detail))

/-- An end that tells what this outcome stands for -/
def Settles (outcome : Transport) (ending : Ending) : Prop :=
  (verdictOf outcome).Matches ending.outcome ∧ ∀ detail, ending ≠ .exhausted detail

variable {index : Nat}

omit [Runtime]

/-- A response that is not retried settles the call. -/
theorem attempt_response {resp : HttpResponse} (received : transport index = .response resp)
    (settled : ¬ (resp.status ∈ policy.retryStatus && retry && index + 1 < attempts policy retry) ∨
      resp.status = 401 ∨ resp.status = 403) :
    ∃ ending, attempt sleep policy transport hostName method path retry index = some ending ∧
      Settles (transport index) ending := by
  rw [attempt, received]
  dsimp only
  by_cases auth : resp.status = 401 ∨ resp.status = 403
  · rw [if_pos (by simpa using auth)]
    refine ⟨_, rfl, ?_, by simp⟩
    rw [verdictOf, if_pos auth]
    exact ⟨_, rfl⟩
  · rw [if_neg (by simpa using auth), if_neg (settled.resolve_right auth)]
    cases good : resp.ok with
    | false =>
        refine ⟨_, rfl, ?_, by simp⟩
        rw [verdictOf, if_neg auth, good]
        exact ⟨_, rfl⟩
    | true =>
        cases body : resp.json with
        | some value =>
            refine ⟨_, rfl, ?_, by simp⟩
            rw [verdictOf, if_neg auth, good, body]
            rfl
        | none =>
            refine ⟨_, rfl, ?_, by simp⟩
            rw [verdictOf, if_neg auth, good, body]
            exact ⟨_, rfl⟩

/-- The last attempt settles the call. -/
theorem attempt_last (final : index + 1 = attempts policy retry) :
    ∃ ending, attempt sleep policy transport hostName method path retry index = some ending ∧
      Settles (transport index) ending := by
  cases received : transport index with
  | exception detail =>
      rw [attempt, received]
      dsimp only
      rw [if_pos final]
      exact ⟨_, rfl, ⟨_, rfl⟩, by simp⟩
  | response resp =>
      rw [← received]
      exact attempt_response received (Or.inl (by simp [final]))

/-- An outcome that is not to be retried settles the call. -/
theorem attempt_settled (settled : isRetried policy (transport index) = false) :
    ∃ ending, attempt sleep policy transport hostName method path retry index = some ending ∧
      Settles (transport index) ending := by
  cases received : transport index with
  | exception detail => simp [received, isRetried] at settled
  | response resp =>
      rw [← received]
      apply attempt_response received
      by_cases auth : resp.status = 401 ∨ resp.status = 403
      · exact Or.inr auth
      · left
        rw [received, isRetried] at settled
        rw [not_or] at auth
        simp only [auth, ne_eq, not_false_eq_true, decide_true, Bool.and_true] at settled
        simp [settled]

/-- Any other outcome is followed by another attempt, once the pause is over. -/
theorem attempt_retried (again : isRetried policy (transport index) = true)
    (more : index + 1 < attempts policy retry)
    (pause : sleepBackoff sleep policy index = .ok ()) :
    attempt sleep policy transport hostName method path retry index = none := by
  have repeats : retry = true := by
    by_contra single
    simp [attempts, single] at more
  subst repeats
  rw [attempt]
  cases received : transport index with
  | exception detail =>
      dsimp only
      rw [if_neg (by omega), continued, pause]
  | response resp =>
      rw [received, isRetried] at again
      simp only [Bool.and_eq_true, decide_eq_true_eq] at again
      rcases again with ⟨⟨listed, first⟩, second⟩
      dsimp only
      rw [if_neg (by simp [first, second]), if_pos (by simp [listed, more]), continued, pause]

/-- The attempt that counts: the first one that is not retried, or the last one -/
theorem exists_last (again : Nat → Bool) {count : Nat} (some : 1 ≤ count) :
    ∃ last < count, (∀ index < last, again index = true) ∧
      (again last = false ∨ last + 1 = count) := by
  have stops : ∃ last, again last = false ∨ last + 1 = count := ⟨count - 1, by omega⟩
  refine ⟨Nat.find stops, ?_, ?_, Nat.find_spec stops⟩
  · have least := @Nat.find_min' _ _ stops (count - 1) (Or.inr (by omega))
    omega
  · intro index before
    have goes := Nat.find_min stops before
    rw [not_or] at goes
    exact Bool.eq_true_of_not_eq_false goes.1

theorem requestFrom_law (some : 1 ≤ attempts policy retry)
    (pauses : ∀ index, index + 1 < attempts policy retry → sleepBackoff sleep policy index = .ok ()) :
    ∃ last < attempts policy retry, (∀ index < last, isRetried policy (transport index) = true) ∧
      (isRetried policy (transport last) = false ∨ last + 1 = attempts policy retry) ∧
      ∃ ending, requestFrom sleep policy transport hostName method path retry 0
          (attempts policy retry) = ⟨last + 1, ending⟩ ∧ Settles (transport last) ending := by
  rcases exists_last (fun index => isRetried policy (transport index)) some
    with ⟨last, bound, before, stops⟩
  have settled : ∃ ending, attempt sleep policy transport hostName method path retry last =
      .some ending ∧ Settles (transport last) ending := by
    rcases stops with settled | final
    · exact attempt_settled settled
    · exact attempt_last final
  rcases settled with ⟨ending, found, settles⟩
  refine ⟨last, bound, before, stops, ending, ?_, settles⟩
  apply requestFrom_stops
  · intro index _ less
    exact attempt_retried (before index less) (by omega) (pauses index (by omega))
  · exact found
  · omega
  · omega

end Loop

/--
A `POST` is sent once. A `GET` is sent until an outcome is not retried, and at
most as often as the policy says. The last outcome alone decides on the result.
-/
theorem retry_law {sleep : PyFloat → Except Exn Unit} {policy : RetryPolicy}
    {transport : Nat → Transport} {hostName path base address : Str}
    (joined : url base path = some address) (some : 1 ≤ policy.attempts)
    (pauses : ∀ index, index + 1 < policy.attempts → sleepBackoff sleep policy index = .ok ()) :
    ((post sleep policy transport hostName path base).requests = 1 ∧
      Settles (transport 0) (post sleep policy transport hostName path base).ending) ∧
    ∃ k, 1 ≤ k ∧ k ≤ policy.attempts ∧
      (∀ index, index + 1 < k → isRetried policy (transport index) = true) ∧
      (isRetried policy (transport (k - 1)) = false ∨ k = policy.attempts) ∧
      (get sleep policy transport hostName path base).requests = k ∧
      Settles (transport (k - 1)) (get sleep policy transport hostName path base).ending := by
  constructor
  · rcases @requestFrom_law sleep policy transport hostName "POST" path false le_rfl
      (fun index more => absurd more (by simp [attempts]))
      with ⟨last, bound, _, _, ending, found, settles⟩
    have first : last = 0 := by
      simp only [attempts] at bound
      simpa using bound
    subst first
    rw [post, request, joined]
    dsimp only
    rw [found]
    exact ⟨rfl, settles⟩
  · rcases @requestFrom_law sleep policy transport hostName "GET" path true some pauses
      with ⟨last, bound, before, stops, ending, found, settles⟩
    rw [get, request, joined]
    dsimp only
    rw [found]
    refine ⟨last + 1, by omega, bound, fun index less => before index (by omega), stops, rfl, ?_⟩
    exact settles

end OPNsenseClient

/-! ## Runs of a policy -/

/-- `time.sleep`, apart from delays beyond the range of the clock -/
def slept : PyFloat → Except Exn Unit
  | .nan => .error (.builtin .valueError "Invalid value NaN (not a number)")
  | .infinity _ => .error (.builtin .overflowError "timestamp too large to convert to C _PyTime_t")
  | .finite true (_ + 1) _ => .error (.builtin .valueError "sleep length must be non-negative")
  | .finite _ _ _ => .ok ()

/-- The default policy -/
def defaultPolicy : RetryPolicy where
  attempts := 3
  baseDelay := .finite false 1 (-1)
  maxDelay := .finite false 4 0
  retryStatus := [502, 503, 504]

def Transport.answered (status : Int) (ok : Bool) : Transport :=
  .response ⟨status, ok, "\x7b\x7d", some (.obj [])⟩

/-- One failure, then these responses -/
def Transport.thenAnswered (first : Transport) : Nat → Transport
  | 0 => first
  | _ => .answered 200 true

theorem retry_law_default :
    (@OPNsenseClient.post Runtime.ascii slept defaultPolicy (.thenAnswered (.answered 503 false)) "fw"
      "/api/core/service/search" "https://fw").requests = 1 := by
  have joined : @OPNsenseClient.url Runtime.ascii "https://fw" "/api/core/service/search" =
      some ("https://fw/api/core/service/search" : Str) := by rfl
  refine (@OPNsenseClient.retry_law Runtime.ascii slept defaultPolicy _ "fw" _ _ _ joined
    (by decide) ?_).1.1
  intro index more
  have small : index < 2 := by
    simp only [defaultPolicy] at more
    omega
  rcases index with _ | _ | index
  · rfl
  · rfl
  · omega

/--
A response about the credentials ends the call even if the policy would retry it,
a pause may fail, and a path that cannot be joined to the address is not sent.
-/
theorem retry_law_limits :
    (401 ∈ ({ defaultPolicy with retryStatus := [401] } : RetryPolicy).retryStatus ∧
      (@OPNsenseClient.get Runtime.ascii slept { defaultPolicy with retryStatus := [401] }
        (.thenAnswered (.answered 401 false)) "fw" "/api/core/service/search"
        "https://fw").requests = 1) ∧
    ((@OPNsenseClient.get Runtime.ascii slept
        { defaultPolicy with baseDelay := .finite true 1 0 } (.thenAnswered (.exception "reset"))
        "fw" "/api/core/service/search" "https://fw").requests = 1) ∧
    ((@OPNsenseClient.post Runtime.ascii slept defaultPolicy (.thenAnswered (.answered 200 true)) "fw"
        "//[" "https://fw").requests = 0) := by
  refine ⟨⟨by decide, by rfl⟩, by rfl, by rfl⟩

end OpnsensePlugin

import OpnsensePlugin.Management.Failure
import OpnsensePlugin.Management.Operations

/-!
# Accepted and refused requests

A handler that sees only the class of an error takes validations and a denied
access for a refusal of the request. `truthful_iff` says when that is right: when
no read after an acknowledged request is denied.
-/

namespace OpnsensePlugin

open Effects Python

namespace Management

/-- The errors that the handlers take for a refusal -/
def refusals : List Str := ["validation", "auth"]

/-- The answer to a POST shows that it was not accepted. -/
def Unaccepted (reply : Reply) : Prop :=
  ManagementService.HasValidations reply ∨ ∃ detail, reply = .error (.auth detail)

/-- A read that was answered with 401 or 403 -/
def Denied (event : Exchange Role) : Prop :=
  ∃ path params detail, event = ⟨.get .client path params, .error (.auth detail)⟩

/-- A read after a POST was denied. -/
def ReadbackDenied (trace : Trace Role) : Prop :=
  ∃ front event back, trace = front ++ event :: back ∧ posts front ≠ [] ∧ Denied event

/-- How the answer to a POST is judged: no accepted request is taken for a refused one. -/
structure Discerning (check : Reply → Except Exn Unit) : Prop where
  managed : ∀ reply error, check reply = .error error → ∃ cause, error = raised cause ∧
    cause.isPartial = false ∧ (cause.error ∈ refusals → Unaccepted reply)
  accepted : ∀ reply, check reply = .ok () → ¬ Unaccepted reply

/-- At most one POST, after a record of the attempt; an error is not partial only if the POST was
not accepted, and every failure of an accepted one is reported as partial. -/
structure Truthful {α : Type} (check : Reply → Except Exn Unit) (attempt : AuditEntry → Prop)
    (trace : Trace Role) (outcome : Except Exn α) : Prop where
  once : (posts trace).length ≤ 1
  attempted : Guarded (fun event => event.request.IsPost) (InOrder [Recorded attempt]) trace
  refused : ∀ error, outcome = .error (raised error) → error.isPartial = false →
    ∀ post ∈ posts trace, Unaccepted post.reply
  accepted : ∀ error, outcome = .error error → ∀ post ∈ posts trace,
    check post.reply = .ok () → ∃ final, error = raised final ∧ final.isPartial = true

section

variable {α : Type} {check : Reply → Except Exn Unit} {attempt : AuditEntry → Prop}
  {trace front back : Trace Role} {outcome : Except Exn α}

/-- An error of the engine's own that is no refusal -/
def Plain (error : Exn) : Prop :=
  ∃ cause, error = raised cause ∧ cause.isPartial = false ∧ cause.error ∉ refusals

theorem plain_new {error detail : Str} {status : Nat} (kind : error ∉ refusals) :
    Plain (raised (.new error detail status)) := ⟨_, rfl, rfl, kind⟩

theorem called_error {reply : Reply} {error : Exn} (failed : called reply = .error error) :
    Plain error ∨ ∃ detail, reply = .error (.auth detail) ∧
      error = raised (callError (.auth detail)) := by
  rcases reply with (detail | detail | detail) | value
  · cases failed
    refine .inl ?_
    rw [callError]
    split
    · exact plain_new (by decide)
    · exact plain_new (by decide)
  · cases failed
    exact .inr ⟨detail, rfl, rfl⟩
  · cases failed
    exact .inl (plain_new (by decide))
  · cases failed

theorem called_ok {reply : Reply} {response : Json} (answered : called reply = .ok response) :
    reply = .ok response := by
  rcases reply with failure | value
  · cases answered
  · cases answered
    rfl

/-- A request that is neither a POST nor a read -/
def Local (event : Exchange Role) : Prop := ¬ event.request.IsPost ∧ ¬ event.request.IsGet

theorem Local.not_denied {event : Exchange Role} (local' : Local event) : ¬ Denied event := by
  rintro ⟨path, params, detail, rfl⟩
  exact local'.2 trivial

theorem auditRecord_local {State : Type} {entry : Clock → AuditEntry} {before after : State}
    {outcome : Except Exn Unit}
    (run : (auditRecord entry : Py Role State Unit).Run before trace outcome after) :
    after = before ∧ ∀ event ∈ trace, Local event := by
  rw [auditRecord, readClock, Action.run_bind_ask] at run
  rcases run with ⟨now, rest, rfl, run⟩
  rw [run_auditAppend] at run
  rcases run with ⟨answer, rfl, _, rfl⟩
  simp [Local, Request.IsPost, Request.IsGet]

theorem recordSent_run {entry : Clock → AuditEntry} {failure : Str} {before after : Bool}
    {property : AuditEntry → Prop} {outcome : Except Exn Unit}
    (holds : ∀ now, property (entry now))
    (run : (recordSent entry failure).Run before trace outcome after) :
    after = before ∧ (∀ event ∈ trace, Local event) ∧
      (outcome = .ok () → InOrder [Recorded property] trace) ∧
      ∀ error, outcome = .error error → ∃ cause, error = raised cause ∧
        cause.error = "audit" ∧ cause.isPartial = before := by
  rw [recordSent, Action.run_bind_attempt] at run
  rcases run with ⟨front, stored, middle, back, rfl, recording, _, run⟩ | ⟨_, impossible, _⟩
  rotate_left
  · cases impossible
  rcases auditRecord_local recording with ⟨rfl, silent⟩
  rcases stored with error | _
  · rw [Action.run_bind_readState, Action.run_raise] at run
    rcases run with ⟨rfl, rfl, rfl⟩
    rw [List.append_nil]
    refine ⟨rfl, silent, by simp, ?_⟩
    intro error same
    cases same
    exact ⟨_, rfl, rfl, rfl⟩
  · rw [Action.run_pure] at run
    rcases run with ⟨rfl, rfl, rfl⟩
    rw [List.append_nil]
    refine ⟨rfl, silent, fun _ => ?_, by simp⟩
    rcases auditRecord_ok recording with ⟨now, rfl⟩
    have recorded : Recorded property [(⟨.append (entry now), .ok ()⟩ : Exchange Role)] :=
      ⟨_, rfl, holds now⟩
    exact (InOrder.single recorded).skipEvent

/-- A computation whose errors are the engine's own and no refusals -/
def Unrefusing (outcome : Except Exn α) : Prop :=
  ∀ error, outcome = .error error → ∃ cause, error = raised cause ∧ cause.error ∉ refusals

theorem unrefusing_ok {value : α} : Unrefusing (.ok value : Except Exn α) := by
  intro error same
  cases same

theorem unrefusing_error {error : Exn} (plain : Plain error) :
    Unrefusing (.error error : Except Exn α) := by
  rcases plain with ⟨cause, rfl, _, kind⟩
  intro raised same
  cases same
  exact ⟨cause, rfl, kind⟩

theorem unrefusing_bind {β : Type} {value : Except Exn α} {next : α → Except Exn β}
    (first : Unrefusing value) (second : ∀ value, Unrefusing (next value)) :
    Unrefusing (value >>= next) := by
  intro error failed
  rcases bind_eq_error.mp failed with failed | ⟨value, _, failed⟩
  · exact first error failed
  · exact second value error failed

theorem unrefusing_raiseIf {condition : Bool} {error : Exn} (plain : Plain error) :
    Unrefusing (raiseIf condition error) := by
  intro raised failed
  rw [raiseIf_eq_error] at failed
  rw [failed.2]
  exact unrefusing_error plain error (rfl : (.error error : Except Exn Unit) = _)

theorem unrefusing_mapM {β : Type} {items : List β} {step : β → Except Exn α}
    (each : ∀ item, Unrefusing (step item)) : Unrefusing (items.mapM step) := by
  induction items with
  | nil => exact unrefusing_ok
  | cons head rest ih =>
      rw [List.mapM_cons]
      exact unrefusing_bind (each head) fun _ => unrefusing_bind ih fun _ => unrefusing_ok

/-- How the code after an acknowledged POST ended: with a denied read, or with no refusal -/
def Ended (trace : Trace Role) (outcome : Except Exn α) : Prop :=
  posts trace = [] ∧
    ((∃ path params detail, trace = [⟨.get .client path params, .error (.auth detail)⟩] ∧
        outcome = .error (raised (callError (.auth detail)))) ∨
      (∀ event ∈ trace, ¬ Denied event) ∧ Unrefusing outcome)

theorem Ended.ok_clear {value : α} (ended : Ended trace (.ok value)) :
    ∀ event ∈ trace, ¬ Denied event := by
  rcases ended.2 with ⟨_, _, _, _, impossible⟩ | ⟨clear, _⟩
  · cases impossible
  · exact clear

/-- Code that ends after a read that returned -/
theorem Ended.append {β : Type} {value : β} (first : Ended front (.ok value))
    (quiet : posts back = []) (clear : ∀ event ∈ back, ¬ Denied event)
    (kinds : Unrefusing outcome) : Ended (front ++ back) outcome := by
  refine ⟨?_, .inr ⟨List.forall_mem_append.mpr ⟨first.ok_clear, clear⟩, kinds⟩⟩
  rw [posts_append, first.1, quiet]
  rfl

theorem Ended.error {β : Type} {error : Exn} (ended : Ended trace (.error error : Except Exn α)) :
    Ended trace (.error error : Except Exn β) := by
  refine ⟨ended.1, ?_⟩
  rcases ended.2 with ⟨path, params, detail, same, failed⟩ | ⟨clear, kinds⟩
  · cases failed
    exact .inl ⟨path, params, detail, same, rfl⟩
  · refine .inr ⟨clear, fun raised same => ?_⟩
    cases same
    exact kinds error rfl

theorem callGet_run {State : Type} {path : Str} {params : List (Str × Json)} {before after : State}
    {outcome : Except Exn Json}
    (run : (callGet .client path params : Py Role State Json).Run before trace outcome after) :
    after = before ∧ Ended trace outcome := by
  rw [callGet, Action.run_bind_ask] at run
  rcases run with ⟨reply, rest, rfl, run⟩
  rw [Action.run_ofExcept] at run
  rcases run with ⟨rfl, rfl, rfl⟩
  by_cases denied : ∃ detail, reply = .error (.auth detail)
  · rcases denied with ⟨detail, rfl⟩
    exact ⟨rfl, rfl, .inl ⟨path, params, detail, rfl, rfl⟩⟩
  · refine ⟨rfl, rfl, .inr ⟨?_, fun error failed => ?_⟩⟩
    · intro event member
      rw [List.mem_singleton] at member
      rintro ⟨other, more, detail, same⟩
      rw [member] at same
      cases same
      exact denied ⟨detail, rfl⟩
    · rcases called_error failed with ⟨cause, same, _, kind⟩ | ⟨detail, same, _⟩
      · exact ⟨cause, same, kind⟩
      · exact absurd ⟨detail, same⟩ denied

/-- A sent request: its POST, the judgement of the answer, and what the code did after it -/
inductive SentRun (check : Reply → Except Exn Unit) : Trace Role → Except Exn α → Prop
  | refused {target : Str} {body : Json} {reply : Reply} {cause : ManagementError}
      (answer : check reply = .error (raised cause)) :
      SentRun check [⟨.post .client target body, reply⟩] (.error (raised cause))
  | denied {target path : Str} {body : Json} {reply : Reply} {params : List (Str × Json)}
      {detail : Str} (answer : check reply = .ok ()) :
      SentRun check [⟨.post .client target body, reply⟩,
        ⟨.get .client path params, .error (.auth detail)⟩]
        (.error (raised (callError (.auth detail))))
  | stopped {target : Str} {body : Json} {reply : Reply} {rest : Trace Role}
      {cause : ManagementError} (answer : check reply = .ok ()) (quiet : posts rest = [])
      (answered : ∀ event ∈ rest, ¬ Denied event) (kind : cause.error ∉ refusals) :
      SentRun check (⟨.post .client target body, reply⟩ :: rest) (.error (raised cause))
  | returned {target : Str} {body : Json} {reply : Reply} {rest : Trace Role} {value : α}
      (answer : check reply = .ok ()) (quiet : posts rest = [])
      (answered : ∀ event ∈ rest, ¬ Denied event) :
      SentRun check (⟨.post .client target body, reply⟩ :: rest) (.ok value)

theorem Ended.sent {target : Str} {body : Json} {reply : Reply} (ended : Ended trace outcome)
    (answer : check reply = .ok ()) :
    SentRun check (⟨.post .client target body, reply⟩ :: trace) outcome := by
  rcases ended with ⟨quiet, ⟨path, params, detail, rfl, rfl⟩ | ⟨clear, kinds⟩⟩
  · exact .denied answer
  · cases outcome with
    | ok value => exact .returned answer quiet clear
    | error error =>
        rcases kinds error rfl with ⟨cause, rfl, kind⟩
        exact .stopped answer quiet clear kind

theorem SentRun.managed {error : Exn} (sent : SentRun check trace (.error error : Except Exn α)) :
    ∃ cause, error = raised cause := by
  cases sent with
  | refused | denied | stopped => exact ⟨_, rfl⟩

/-- A sent request whose errors pass the handler -/
inductive HandledRun (check : Reply → Except Exn Unit) : Trace Role → Except Exn α → Prop
  | returned {trace : Trace Role} {value : α} (sent : SentRun check trace (.ok value)) :
      HandledRun check trace (.ok value)
  | raised {trace closing : Trace Role} {cause final : ManagementError}
      (sent : SentRun check trace (.error (Management.raised cause) : Except Exn α))
      (records : ∀ event ∈ closing, ¬ event.request.IsPost ∧ ¬ Denied event)
      (harmless : final.isPartial = !decide (cause.error ∈ refusals)) :
      HandledRun check (trace ++ closing) (.error (Management.raised final))

/-- A call: it sends nothing, or records the attempt and sends the request. -/
inductive CallRun (check : Reply → Except Exn Unit) (attempt : AuditEntry → Prop) :
    Trace Role → Except Exn α → Prop
  | unsent {trace : Trace Role} {outcome : Except Exn α} (quiet : posts trace = []) :
      CallRun check attempt trace outcome
  | sent {front trace : Trace Role} {outcome : Except Exn α} (quiet : posts front = [])
      (attempted : InOrder [Recorded attempt] front) (handled : HandledRun check trace outcome) :
      CallRun check attempt (front ++ trace) outcome

theorem CallRun.cons {event : Exchange Role} (call : CallRun check attempt trace outcome)
    (other : posts [event] = []) : CallRun check attempt (event :: trace) outcome := by
  cases call with
  | unsent quiet =>
      refine .unsent ?_
      rw [← List.singleton_append, posts_append, other, quiet]
      rfl
  | sent quiet attempted handled =>
      rw [← List.cons_append]
      refine .sent ?_ attempted.skipEvent handled
      rw [← List.singleton_append, posts_append, other, quiet]
      rfl

theorem ReadbackDenied.posts_ne_nil (denied : ReadbackDenied trace) : posts trace ≠ [] := by
  rcases denied with ⟨front, event, back, rfl, sent, _⟩
  simp [sent]

theorem posts_ne_nil_of_front {post : Exchange Role} {early late : Trace Role}
    (isPost : post.request.IsPost) (split : front = early ++ post :: late) :
    posts front ≠ [] := by
  rcases post with ⟨request, answer⟩
  cases request with
  | post node path body => simp [split]
  | _ => exact isPost.elim

theorem readbackDenied_iff {target : Str} {body : Json} {reply : Reply}
    (quiet : posts front = []) :
    ReadbackDenied (front ++ ⟨.post .client target body, reply⟩ :: back) ↔
      ∃ event ∈ back, Denied event := by
  constructor
  · rintro ⟨early, event, late, split, sent, denied⟩
    refine ⟨event, ?_, denied⟩
    rcases List.append_eq_append_iff.mp split with ⟨middle, rfl, rest⟩ | ⟨middle, rfl, rest⟩
    · cases middle with
      | nil =>
          rcases List.cons.inj rest with ⟨rfl, _⟩
          rcases denied with ⟨_, _, _, same⟩
          cases same
      | cons head middle =>
          rcases List.cons.inj rest with ⟨_, rfl⟩
          simp
    · simp only [posts_append, List.append_eq_nil_iff] at quiet
      exact absurd quiet.1 sent
  · rintro ⟨event, member, denied⟩
    rcases List.append_of_mem member with ⟨early, late, rfl⟩
    refine ⟨front ++ ⟨.post .client target body, reply⟩ :: early, event, late, by simp, ?_, denied⟩
    simp

/-- What holds of the one POST of a call makes its report truthful. -/
theorem Truthful.of_post {target : Str} {body : Json} {reply : Reply} (quiet : posts front = [])
    (silent : posts back = []) (attempted : InOrder [Recorded attempt] front)
    (refused : ∀ error, outcome = .error (raised error) → error.isPartial = false →
      Unaccepted reply)
    (accepted : ∀ error, outcome = .error error → check reply = .ok () →
      ∃ final, error = raised final ∧ final.isPartial = true) :
    Truthful check attempt (front ++ ⟨.post .client target body, reply⟩ :: back) outcome := by
  have only : posts (front ++ ⟨.post .client target body, reply⟩ :: back) =
      [⟨.client, target, body, reply⟩] := by
    simp [quiet, silent]
  refine ⟨by simp [only], ?_, ?_, ?_⟩
  · intro early event late split isPost
    rcases List.append_eq_append_iff.mp split with ⟨middle, rfl, _⟩ | ⟨middle, rfl, rest⟩
    · exact attempted.extend
    · cases middle with
      | nil => simpa using attempted
      | cons head middle =>
          rcases List.cons.inj rest with ⟨rfl, _⟩
          exact absurd quiet (posts_ne_nil_of_front isPost rfl)
  · intro error same whole post member
    rw [only, List.mem_singleton] at member
    rw [member]
    exact refused error same whole
  · intro error same post member passed
    rw [only, List.mem_singleton] at member
    rw [member] at passed
    exact accepted error same passed

theorem Truthful.of_quiet (quiet : posts trace = []) : Truthful check attempt trace outcome := by
  refine ⟨by simp [quiet], ?_, by simp [quiet], by simp [quiet]⟩
  intro front event back split isPost
  exact absurd quiet (posts_ne_nil_of_front isPost split)

/-- The report of a call is truthful exactly if no read after its POST was denied. -/
theorem CallRun.truthful_iff (discerning : Discerning check)
    (run : CallRun check attempt trace outcome) :
    Truthful check attempt trace outcome ↔ ¬ ReadbackDenied trace := by
  cases run with
  | unsent quiet =>
      exact ⟨fun _ denied => denied.posts_ne_nil quiet, fun _ => .of_quiet quiet⟩
  | @sent front _ _ quiet attempted handled =>
      cases handled with
      | returned sent =>
          cases sent with
          | @returned target body reply rest value answer silent answered =>
              rw [readbackDenied_iff quiet]
              constructor
              · rintro _ ⟨event, member, denied⟩
                exact answered event member denied
              · intro _
                exact .of_post quiet silent attempted (by simp) (by simp)
      | @raised _ closing cause final sent records harmless =>
          have silent : posts closing = [] :=
            posts_eq_nil fun event member => (records event member).1
          cases sent with
          | @refused target body reply _ answer =>
              rcases discerning.managed _ _ answer with ⟨_, same, _, unaccepted⟩
              cases same
              rw [List.singleton_append, readbackDenied_iff quiet]
              constructor
              · rintro _ ⟨event, member, denied⟩
                exact (records event member).2 denied
              · intro _
                refine .of_post quiet silent attempted ?_ ?_
                · intro error same whole
                  cases same
                  apply unaccepted
                  simpa [harmless] using whole
                · intro _ _ passed
                  rw [answer] at passed
                  cases passed
          | @denied target path body reply params detail answer =>
              have whole : final.isPartial = false := by
                simp [harmless, callError, ManagementError.new, refusals]
              constructor
              · intro truthful
                have unaccepted := truthful.refused final rfl whole
                  ⟨.client, target, body, reply⟩ (by simp)
                exact absurd unaccepted (discerning.accepted _ answer)
              · intro answered
                refine absurd ?_ answered
                rw [List.cons_append, readbackDenied_iff quiet]
                exact ⟨_, List.mem_cons_self, _, _, _, rfl⟩
          | @stopped target body reply rest _ answer quietRest answered kind =>
              rw [List.cons_append, readbackDenied_iff quiet]
              constructor
              · rintro _ ⟨event, member, denied⟩
                rcases List.mem_append.mp member with member | member
                · exact answered event member denied
                · exact (records event member).2 denied
              · intro _
                have whole : final.isPartial = true := by simp [harmless, kind]
                refine .of_post quiet ?_ attempted ?_ ?_
                · rw [posts_append, quietRest, silent]
                  rfl
                · intro error same impossible
                  cases same
                  rw [whole] at impossible
                  cases impossible
                · intro error same _
                  cases same
                  exact ⟨final, rfl, whole⟩

end

end Management

end OpnsensePlugin

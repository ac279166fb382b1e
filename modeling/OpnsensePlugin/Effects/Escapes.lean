import OpnsensePlugin.Effects.Rules

/-!
# Errors that escape a handler

A handler catches some errors and lets the others through. `Action.EscapesIff`
names the exchanges after which an error escapes. It is proved construct by
construct, from the answers that each question cannot digest.
-/

namespace Effects

namespace Action

variable {Request : Type} {Answer : Request → Type} {State Inner Error α β : Type}
  {caught : Error → Bool} {bad : Event Request Answer → Prop}

/-- The outcome is an error that is not caught. -/
def Escapes (caught : Error → Bool) (outcome : Except Error α) : Prop :=
  ∃ error, outcome = .error error ∧ caught error = false

instance {outcome : Except Error α} : Decidable (Escapes caught outcome) :=
  match outcome with
  | .ok _ => .isFalse fun ⟨_, same, _⟩ => nomatch same
  | .error error =>
      decidable_of_iff (caught error = false)
        ⟨fun uncaught => ⟨error, rfl, uncaught⟩, fun ⟨_, same, uncaught⟩ => by
          cases same
          exact uncaught⟩

/-- All errors of the outcome are caught. -/
def Contained (caught : Error → Bool) (outcome : Except Error α) : Prop :=
  ∀ error, outcome = .error error → caught error = true

section Outcomes

variable {error : Error} {value : α}

theorem not_escapes_ok : ¬ Escapes caught (.ok value : Except Error α) := by
  rintro ⟨error, same, _⟩
  cases same

theorem escapes_error : Escapes caught (.error error : Except Error α) ↔ caught error = false := by
  constructor
  · rintro ⟨raised, same, uncaught⟩
    cases same
    exact uncaught
  · exact fun uncaught => ⟨error, rfl, uncaught⟩

theorem not_escapes_iff {outcome : Except Error α} :
    ¬ Escapes caught outcome ↔ Contained caught outcome := by
  constructor
  · intro none raised same
    by_contra uncaught
    exact none ⟨raised, same, by simpa using uncaught⟩
  · rintro contained ⟨raised, same, uncaught⟩
    rw [contained raised same] at uncaught
    cases uncaught

theorem contained_ok : Contained caught (.ok value : Except Error α) := by
  intro error same
  cases same

theorem contained_error (known : caught error = true) :
    Contained caught (.error error : Except Error α) := by
  intro raised same
  cases same
  exact known

theorem contained_bind {outcome : Except Error α} {next : α → Except Error β}
    (first : Contained caught outcome) (second : ∀ value, Contained caught (next value)) :
    Contained caught (outcome >>= next) := by
  cases outcome with
  | ok value => exact second value
  | error error => exact contained_error (first error rfl)

theorem escapes_bind {outcome : Except Error α} {next : α → Except Error β} :
    Escapes caught (outcome >>= next) ↔
      Escapes caught outcome ∨ ∃ value, outcome = .ok value ∧ Escapes caught (next value) := by
  cases outcome with
  | ok value =>
      have none := @not_escapes_ok _ _ caught value
      simp [none, bind, Except.bind]
  | error error => simp [escapes_error, bind, Except.bind]

theorem Contained.mono {wider : Error → Bool} {outcome : Except Error α}
    (contained : Contained caught outcome)
    (widen : ∀ error, caught error = true → wider error = true) : Contained wider outcome :=
  fun error same => widen error (contained error same)

/-- An error escapes if the input is bad; otherwise all errors are of a known class. -/
def Splits (caught known : Error → Bool) (bad : Bool) (outcome : Except Error α) : Prop :=
  (bad = true → Escapes caught outcome) ∧ (bad = false → Contained known outcome)

theorem splits_of_contained {known : Error → Bool} {outcome : Except Error α}
    (contained : Contained known outcome) : Splits caught known false outcome :=
  ⟨fun impossible => absurd impossible Bool.false_ne_true, fun _ => contained⟩

theorem splits_of_escapes {known : Error → Bool} {outcome : Except Error α}
    (escapes : Escapes caught outcome) : Splits caught known true outcome :=
  ⟨fun _ => escapes, fun impossible => absurd impossible.symm Bool.false_ne_true⟩

theorem splits_bind {known : Error → Bool} {bad : Bool} {outcome : Except Error α}
    {next : α → Except Error β} (splits : Splits caught known bad outcome)
    (rest : ∀ value, Contained known (next value)) :
    Splits caught known bad (outcome >>= next) := by
  refine ⟨fun isBad => ?_, fun isGood => ?_⟩
  · exact escapes_bind.mpr (.inl (splits.1 isBad))
  · exact contained_bind (splits.2 isGood) rest

/-- The checks before the one that escapes have passed. -/
theorem escapes_forM {items : List α} {check : α → Except Error Unit} :
    Escapes caught (items.forM check) ↔ ∃ front item back, items = front ++ item :: back ∧
      (∀ earlier ∈ front, check earlier = .ok ()) ∧ Escapes caught (check item) := by
  induction items with
  | nil =>
      refine ⟨fun escapes => absurd escapes not_escapes_ok, ?_⟩
      rintro ⟨front, item, back, same, _⟩
      cases front <;> cases same
  | cons head rest ih =>
      change Escapes caught (check head >>= fun _ => rest.forM check) ↔ _
      rw [escapes_bind, ih]
      constructor
      · rintro (escapes | ⟨_, passed, front, item, back, rfl, agree, escapes⟩)
        · exact ⟨[], head, rest, rfl, by simp, escapes⟩
        · exact ⟨head :: front, item, back, rfl, List.forall_mem_cons.mpr ⟨passed, agree⟩, escapes⟩
      · rintro ⟨front, item, back, same, agree, escapes⟩
        cases front with
        | nil =>
            cases same
            exact .inl escapes
        | cons first front =>
            rcases List.cons.inj same with ⟨rfl, rfl⟩
            rw [List.forall_mem_cons] at agree
            exact .inr ⟨(), agree.1, front, item, back, rfl, agree.2, escapes⟩

end Outcomes

/-- An error escapes exactly if one of the exchanges is bad. -/
def EscapesIff (caught : Error → Bool) (bad : Event Request Answer → Prop)
    (action : Action Request Answer State Error α) : Prop :=
  ∀ before trace outcome after, action.Run before trace outcome after →
    (Escapes caught outcome ↔ ∃ event ∈ trace, bad event)

theorem escapesIff_of_outcome {action : Action Request Answer State Error α}
    (silent : ∀ before trace outcome after, action.Run before trace outcome after →
      trace = [] ∧ Contained caught outcome) : EscapesIff caught bad action := by
  intro before trace outcome after run
  rcases silent before trace outcome after run with ⟨rfl, contained⟩
  have none := not_escapes_iff.mpr contained
  simpa using none

theorem escapesIff_pure {value : α} :
    EscapesIff caught bad (pure value : Action Request Answer State Error α) := by
  apply escapesIff_of_outcome
  intro before trace outcome after run
  rw [run_pure] at run
  exact ⟨run.1, run.2.1 ▸ contained_ok⟩

theorem escapesIff_raise {error : Error} (known : caught error = true) :
    EscapesIff caught bad (raise error : Action Request Answer State Error α) := by
  apply escapesIff_of_outcome
  intro before trace outcome after run
  rw [run_raise] at run
  exact ⟨run.1, run.2.1 ▸ contained_error known⟩

theorem escapesIff_bind {action : Action Request Answer State Error α}
    {next : α → Action Request Answer State Error β} (first : EscapesIff caught bad action)
    (second : ∀ value, EscapesIff caught bad (next value)) :
    EscapesIff caught bad (action >>= next) := by
  intro before trace outcome after run
  rw [run_bind] at run
  rcases run with ⟨front, value, middle, back, rfl, start, finish⟩ | ⟨error, rfl, start⟩
  · have begun := (first before front _ middle start).not.mp not_escapes_ok
    rw [second value middle back outcome after finish]
    constructor
    · rintro ⟨event, member, choked⟩
      exact ⟨event, List.mem_append_right front member, choked⟩
    · rintro ⟨event, member, choked⟩
      rcases List.mem_append.mp member with member | member
      · exact absurd ⟨event, member, choked⟩ begun
      · exact ⟨event, member, choked⟩
  · rw [← first before trace _ after start, escapes_error, escapes_error]

/-! ## Monitors

A monitor reads the exchanges one by one and stops at one that cannot be digested. Between two
steps of the code it is idle. Where it stops, an error escapes; where it does not, the errors are
of a known class, which may be smaller than the one that is caught. -/

section Monitors

variable {Watch : Type} {step : Watch → Event Request Answer → Option Watch} {idle : Watch}
  {good : State → Prop} {known : Error → Bool}

/-- The monitor stops at what was exchanged and an error escapes, or neither is the case. -/
def Agrees (caught known : Error → Bool) (step : Watch → Event Request Answer → Option Watch)
    (idle : Watch) (trace : List (Event Request Answer)) (outcome : Except Error α) : Prop :=
  (trace.foldlM step idle = none ∧ Escapes caught outcome) ∨
    (trace.foldlM step idle = some idle ∧ Contained known outcome)

/-- From a good state, which is kept, an error escapes exactly if the monitor stops. -/
def Monitored (caught known : Error → Bool) (step : Watch → Event Request Answer → Option Watch)
    (idle : Watch) (good : State → Prop) (action : Action Request Answer State Error α) : Prop :=
  ∀ before trace outcome after, action.Run before trace outcome after → good before →
    good after ∧ Agrees caught known step idle trace outcome

theorem agrees_nil {outcome : Except Error α} (contained : Contained known outcome) :
    Agrees caught known step idle [] outcome := .inr ⟨rfl, contained⟩

theorem agrees_singleton {event : Event Request Answer} {outcome : Except Error α}
    (digested : (step idle event = none ∧ Escapes caught outcome) ∨
      (step idle event = some idle ∧ Contained known outcome)) :
    Agrees caught known step idle [event] outcome := by
  rcases digested with ⟨stopped, escaped⟩ | ⟨watched, contained⟩
  · refine .inl ⟨?_, escaped⟩
    rw [List.foldlM_cons, stopped]
    rfl
  · refine .inr ⟨?_, contained⟩
    rw [List.foldlM_cons, watched]
    rfl

theorem agrees_append {front back : List (Event Request Answer)} {value : α}
    {outcome : Except Error β} (first : Agrees caught known step idle front (.ok value : Except Error α))
    (second : Agrees caught known step idle back outcome) :
    Agrees caught known step idle (front ++ back) outcome := by
  rcases first with ⟨_, escaped⟩ | ⟨watched, _⟩
  · exact absurd escaped not_escapes_ok
  · rw [Agrees, List.foldlM_append, watched]
    exact second

theorem Agrees.of_error {trace : List (Event Request Answer)} {error : Error}
    (agrees : Agrees caught known step idle trace (.error error : Except Error α)) :
    Agrees caught known step idle trace (.error error : Except Error β) := by
  rcases agrees with ⟨stopped, escaped⟩ | ⟨watched, contained⟩
  · exact .inl ⟨stopped, escapes_error.mpr (escapes_error.mp escaped)⟩
  · exact .inr ⟨watched, contained_error (contained error rfl)⟩

/-- The outcome of code that keeps the state and exchanges nothing -/
theorem monitored_of_outcome {action : Action Request Answer State Error α}
    (silent : ∀ before trace outcome after, action.Run before trace outcome after →
      trace = [] ∧ after = before ∧ Contained known outcome) :
    Monitored caught known step idle good action := by
  intro before trace outcome after run holds
  rcases silent before trace outcome after run with ⟨rfl, rfl, contained⟩
  exact ⟨holds, agrees_nil contained⟩

theorem monitored_pure {value : α} :
    Monitored caught known step idle good (pure value : Action Request Answer State Error α) := by
  apply monitored_of_outcome
  intro before trace outcome after run
  rw [run_pure] at run
  exact ⟨run.1, run.2.2, run.2.1 ▸ contained_ok⟩

theorem monitored_ofExcept {result : Except Error α} (contained : Contained known result) :
    Monitored caught known step idle good (ofExcept result : Action Request Answer State Error α) := by
  apply monitored_of_outcome
  intro before trace outcome after run
  rw [run_ofExcept] at run
  exact ⟨run.1, run.2.2, run.2.1 ▸ contained⟩

theorem monitored_raiseIf {condition : Bool} {error : Error} (isKnown : known error = true) :
    Monitored caught known step idle good
      (raiseIf condition error : Action Request Answer State Error Unit) := by
  apply monitored_of_outcome
  intro before trace outcome after run
  rw [run_raiseIf] at run
  refine ⟨run.1, run.2.2, run.2.1 ▸ ?_⟩
  split
  · exact contained_error isKnown
  · exact contained_ok

theorem monitored_modifyState {update : State → State}
    (keeps : ∀ state, good state → good (update state)) :
    Monitored caught known step idle good
      (modifyState update : Action Request Answer State Error Unit) := by
  intro before trace outcome after run holds
  rw [run_modifyState] at run
  rcases run with ⟨rfl, rfl, rfl⟩
  exact ⟨keeps before holds, agrees_nil contained_ok⟩

/-- Code that reads the state finds a good one. -/
theorem monitored_readState {next : State → Action Request Answer State Error β}
    (rest : ∀ state, good state → Monitored caught known step idle good (next state)) :
    Monitored caught known step idle good (readState >>= next) := by
  intro before trace outcome after run holds
  rw [run_bind_readState] at run
  exact rest before holds before trace outcome after run holds

theorem monitored_bind {action : Action Request Answer State Error α}
    {next : α → Action Request Answer State Error β}
    (first : Monitored caught known step idle good action)
    (second : ∀ value, Monitored caught known step idle good (next value)) :
    Monitored caught known step idle good (action >>= next) := by
  intro before trace outcome after run holds
  rw [run_bind] at run
  rcases run with ⟨front, value, middle, back, rfl, start, finish⟩ | ⟨error, rfl, start⟩
  · rcases first before front _ middle start holds with ⟨kept, begun⟩
    rcases second value middle back outcome after finish kept with ⟨still, ended⟩
    exact ⟨still, agrees_append begun ended⟩
  · rcases first before trace _ after start holds with ⟨kept, begun⟩
    exact ⟨kept, begun.of_error⟩

/-- A first step may be monitored together with the next one. -/
theorem monitored_assoc {γ : Type} {action : Action Request Answer State Error α}
    {next : α → Action Request Answer State Error β}
    {last : β → Action Request Answer State Error γ} :
    Monitored caught known step idle good ((action >>= next) >>= last) ↔
      Monitored caught known step idle good (action >>= fun value => next value >>= last) := by
  constructor
  · intro monitored before trace outcome after run
    rw [← run_bind_assoc] at run
    exact monitored before trace outcome after run
  · intro monitored before trace outcome after run
    rw [run_bind_assoc] at run
    exact monitored before trace outcome after run

/-- A question whose answer is decoded at once -/
theorem monitored_decoded {request : Request} {decode : Answer request → Except Error α}
    (digested : ∀ answer,
      (step idle ⟨request, answer⟩ = none ∧ Escapes caught (decode answer)) ∨
        (step idle ⟨request, answer⟩ = some idle ∧ Contained known (decode answer))) :
    Monitored caught known step idle good (ask request >>= fun answer => ofExcept (decode answer) :
      Action Request Answer State Error α) := by
  intro before trace outcome after run holds
  rw [run_bind_ask] at run
  rcases run with ⟨answer, tail, rfl, run⟩
  rw [run_ofExcept] at run
  rcases run with ⟨rfl, rfl, rfl⟩
  exact ⟨holds, agrees_singleton (digested answer)⟩

/-- The monitor stops exactly at the bad answers. -/
theorem monitored_splits {request : Request} {decode : Answer request → Except Error α}
    {bad : Answer request → Bool}
    (steps : ∀ answer, step idle ⟨request, answer⟩ = if bad answer then none else some idle)
    (splits : ∀ answer, Splits caught known (bad answer) (decode answer)) :
    Monitored caught known step idle good (ask request >>= fun answer => ofExcept (decode answer) :
      Action Request Answer State Error α) := by
  apply monitored_decoded
  intro answer
  cases isBad : bad answer with
  | true => exact .inl ⟨by simp [steps, isBad], (splits answer).1 isBad⟩
  | false => exact .inr ⟨by simp [steps, isBad], (splits answer).2 isBad⟩

/-- A question whose answers the monitor ignores -/
theorem monitored_ask {request : Request}
    (ignored : ∀ answer, step idle ⟨request, answer⟩ = some idle) :
    Monitored caught known step idle good
      (ask request : Action Request Answer State Error (Answer request)) := by
  intro before trace outcome after run holds
  rw [run_ask] at run
  rcases run with ⟨answer, rfl, rfl, rfl⟩
  exact ⟨holds, agrees_singleton (.inr ⟨ignored answer, contained_ok⟩)⟩

/-- A handler of the known errors leaves none, and lets those pass that are not caught. -/
theorem monitored_attempt {catches rest : Error → Bool}
    {action : Action Request Answer State Error α}
    (narrow : ∀ error, catches error = true → caught error = true)
    (wide : ∀ error, known error = true → catches error = true)
    (monitored : Monitored caught known step idle good action) :
    Monitored caught rest step idle good (action.attempt catches) := by
  intro before trace outcome after run holds
  rw [run_attempt] at run
  rcases run with ⟨result, run, rfl⟩
  rcases monitored before trace result after run holds with
    ⟨kept, ⟨stopped, error, rfl, uncaught⟩ | ⟨watched, contained⟩⟩
  · refine ⟨kept, .inl ⟨stopped, error, ?_, uncaught⟩⟩
    have passes : ¬ catches error = true := by
      intro catching
      rw [narrow error catching] at uncaught
      cases uncaught
    simp [passes]
  · refine ⟨kept, .inr ⟨watched, ?_⟩⟩
    cases result with
    | ok value => exact contained_ok
    | error error =>
        simp only [wide error (contained error rfl), if_true]
        exact contained_ok

theorem Monitored.mono {wider : Error → Bool} {action : Action Request Answer State Error α}
    (monitored : Monitored caught known step idle good action)
    (widen : ∀ error, known error = true → wider error = true) :
    Monitored caught wider step idle good action := by
  intro before trace outcome after run holds
  rcases monitored before trace outcome after run holds with ⟨kept, stopped | ⟨watched, contained⟩⟩
  · exact ⟨kept, .inl stopped⟩
  · exact ⟨kept, .inr ⟨watched, contained.mono widen⟩⟩

/-- Code with a state of its own -/
theorem monitored_withState {start : Inner} {action : Action Request Answer Inner Error α}
    (monitored : Monitored caught known step idle (fun _ => True) action) :
    Monitored caught known step idle good
      (withState start action : Action Request Answer State Error (α × Inner)) := by
  intro before trace outcome after run holds
  rw [run_withState] at run
  rcases run with ⟨result, last, run, rfl, rfl⟩
  refine ⟨holds, ?_⟩
  rcases (monitored start trace result last run trivial).2 with
    ⟨stopped, error, rfl, uncaught⟩ | ⟨watched, contained⟩
  · exact .inl ⟨stopped, error, rfl, uncaught⟩
  · refine .inr ⟨watched, ?_⟩
    cases result with
    | ok value => exact contained_ok
    | error error => exact contained_error (contained error rfl)

end Monitors

end Action

end Effects

import OpnsensePlugin.Management.Engine

/-!
# Errors raised before a change

Every error that the engine raises outside the `try` statement of `_mutate` says
that nothing was changed: it is not partial, has no stage and names no object.
-/

namespace OpnsensePlugin

open Effects Python

namespace Management

/-- An error that reports no change; errors of other classes report nothing. -/
def Fresh (error : Exn) : Prop :=
  ∀ final, error = raised final →
    final.isPartial = false ∧ final.stage = none ∧ final.uuid = none

theorem fresh_new {error detail : Str} {status : Nat} :
    Fresh (raised (.new error detail status)) := by
  intro final same
  cases same
  exact ⟨rfl, rfl, rfl⟩

theorem fresh_builtin {kind : Builtin} {detail : Str} : Fresh (.builtin kind detail) := by
  intro final same
  cases same

/-- A computation whose errors are all fresh -/
def Careful {α : Type} (outcome : Except Exn α) : Prop :=
  ∀ error, outcome = .error error → Fresh error

section

variable {α β : Type}

theorem careful_ok {value : α} : Careful (.ok value : Except Exn α) := by
  intro error same
  cases same

theorem careful_pure {value : α} : Careful (pure value : Except Exn α) := careful_ok

theorem careful_error {error : Exn} (fresh : Fresh error) :
    Careful (.error error : Except Exn α) := by
  intro raised same
  cases same
  exact fresh

theorem careful_bind {outcome : Except Exn α} {next : α → Except Exn β}
    (first : Careful outcome) (second : ∀ value, Careful (next value)) :
    Careful (outcome >>= next) := by
  intro error failed
  rcases bind_eq_error.mp failed with failed | ⟨value, _, failed⟩
  · exact first error failed
  · exact second value error failed

theorem careful_raiseIf {condition : Bool} {error : Exn} (fresh : Fresh error) :
    Careful (raiseIf condition error) := by
  intro raised failed
  rw [raiseIf_eq_error] at failed
  rw [failed.2]
  exact fresh

theorem careful_mapError {outcome : Except Exn α} {error : Exn} (fresh : Fresh error) :
    Careful (outcome.mapError fun _ => error) := by
  cases outcome with
  | ok value => exact careful_ok
  | error cause => exact careful_error fresh

theorem careful_foldlM {items : List β} {step : α → β → Except Exn α} {initial : α}
    (careful : ∀ state item, Careful (step state item)) : Careful (items.foldlM step initial) := by
  induction items generalizing initial with
  | nil => exact careful_ok
  | cons head rest ih =>
      rw [List.foldlM_cons]
      exact careful_bind (careful initial head) fun _ => ih

theorem careful_forM {items : List β} {check : β → Except Exn Unit}
    (careful : ∀ item, Careful (check item)) : Careful (items.forM check) := by
  induction items with
  | nil => exact careful_ok
  | cons head rest ih => exact careful_bind (careful head) fun _ => ih

end

/-! ## Forms -/

variable {name : Str} {data value : Json} {item : FieldSpec}

theorem occurs_careful : Careful (occurs name data) := by
  cases data with
  | obj | str | arr => exact careful_ok
  | _ => exact careful_error fresh_builtin

theorem get_careful {default : Json} : Careful (get data name default) := by
  refine careful_bind occurs_careful fun present => ?_
  cases data with
  | obj fields => exact careful_pure
  | _ =>
      cases present with
      | true => exact careful_error fresh_builtin
      | false => exact careful_pure

theorem put_careful : Careful (put data name value) := by
  refine careful_bind occurs_careful fun present => ?_
  cases data with
  | obj fields => exact careful_pure
  | _ =>
      dsimp only
      split
      · exact careful_error fresh_builtin
      · exact careful_error fresh_builtin

theorem drop_careful : Careful (drop data name) := by
  refine careful_bind occurs_careful fun present => ?_
  cases data with
  | obj fields => exact careful_pure
  | _ => exact careful_error fresh_builtin

variable [Runtime]

omit [Runtime] in
theorem limitedText_careful {detail : Str} : Careful (limitedText detail value) := by
  cases value with
  | str text => exact careful_bind (careful_raiseIf fresh_new) fun _ => careful_pure
  | _ => exact careful_error fresh_new

omit [Runtime] in
theorem booleanText_careful : Careful (booleanText value) := by
  cases value with
  | bool value => exact careful_pure
  | _ => exact careful_error fresh_new

omit [Runtime] in
theorem toInt_careful : Careful (value.toInt : Except Exn Int) := by
  cases value with
  | bool | int => exact careful_ok
  | float value =>
      cases value with
      | finite => exact careful_ok
      | _ => exact careful_error fresh_builtin
  | str text =>
      unfold Json.toInt
      dsimp only
      split
      · exact careful_ok
      · exact careful_error fresh_builtin
  | _ => exact careful_error fresh_builtin

omit [Runtime] in
theorem violates_careful {bound : Option Int} {bad : Int → Int → Bool} {text : Str} :
    Careful (violates bound bad text) := by
  cases bound with
  | none => exact careful_pure
  | some bound => exact careful_bind toInt_careful fun _ => careful_pure

theorem numberText_careful : Careful (numberText item value) := by
  refine careful_bind (careful_raiseIf fresh_new) fun _ => ?_
  refine careful_bind violates_careful fun _ => ?_
  refine careful_bind (careful_raiseIf fresh_new) fun _ => ?_
  refine careful_bind violates_careful fun _ => ?_
  exact careful_bind (careful_raiseIf fresh_new) fun _ => careful_pure

theorem valueText_careful : Careful (valueText item value) := by
  unfold valueText
  split
  · exact limitedText_careful
  · split
    · exact booleanText_careful
    · split
      · exact numberText_careful
      · exact limitedText_careful

theorem checkOptions_careful {text : Str} : Careful (checkOptions item text) := by
  unfold checkOptions
  split
  · exact careful_pure
  · exact careful_raiseIf fresh_new

theorem storeValue_careful {fields : List (Str × FieldSpec)} {creating : Bool} {merged : Json} :
    Careful (storeValue fields creating merged name value) := by
  unfold storeValue
  split
  · exact careful_error fresh_builtin
  · split
    · exact careful_pure
    · split
      · exact careful_error fresh_new
      · split
        · exact careful_pure
        · split
          · exact put_careful
          · refine careful_bind valueText_careful fun _ => ?_
            exact careful_bind checkOptions_careful fun _ => put_careful

omit [Runtime] in
theorem checkRequired_careful {merged : Json} {creating : Bool} :
    Careful (checkRequired merged creating name item) := by
  unfold checkRequired
  split
  · exact careful_bind get_careful fun _ => careful_raiseIf fresh_new
  · exact careful_pure

omit [Runtime] in
theorem creationValues_careful {current : Json} {fields : List (Str × FieldSpec)} :
    Careful (creationValues current fields) := by
  refine careful_foldlM fun merged entry => ?_
  rcases entry with ⟨name, item⟩
  dsimp only
  split
  · exact careful_pure
  · refine careful_bind get_careful fun value => ?_
    cases value with
    | null => exact careful_pure
    | _ => exact put_careful

theorem values_careful {spec : Spec} {supplied current : Json} {creating : Bool} :
    Careful (values spec supplied current creating) := by
  cases supplied with
  | obj supplied =>
      refine careful_bind (careful_raiseIf fresh_new) fun _ => ?_
      refine careful_bind ?_ fun initial => careful_bind ?_ fun editable =>
        careful_bind ?_ fun merged => careful_bind ?_ fun _ => careful_pure
      · unfold initialValues
        split
        · exact creationValues_careful
        · exact careful_pure
      · refine careful_foldlM fun merged entry => ?_
        dsimp only
        split
        · exact drop_careful
        · exact careful_pure
      · exact careful_foldlM fun _ _ => storeValue_careful
      · exact careful_forM fun _ => checkRequired_careful
  | _ => exact careful_error fresh_new

omit [Runtime] in
theorem hookOutcome_careful {α : Type} {outcome : Except (Raised NewError) α} :
    Careful (hookOutcome outcome) := by
  rcases outcome with (⟨kind, detail⟩ | new) | value
  · exact careful_error fresh_builtin
  · exact careful_error fresh_new
  · exact careful_ok

/-! ## Preparation -/

omit [Runtime] in
theorem called_careful {reply : Reply} : Careful (called reply) := by
  rcases reply with (detail | detail | detail) | value
  · unfold called callError
    dsimp only
    split
    · exact careful_error fresh_new
    · exact careful_error fresh_new
  · exact careful_error fresh_new
  · exact careful_error fresh_new
  · exact careful_ok

omit [Runtime] in
theorem path_careful {spec : Spec} {operation : Option Str} {uuid : Str} :
    Careful (path spec operation uuid) := by
  unfold path
  split
  · exact careful_error fresh_new
  · exact careful_error fresh_new
  · exact careful_ok

omit [Runtime] in
theorem rawOf_careful {spec : Spec} : Careful (rawOf spec value) := by
  cases value with
  | obj fields =>
      refine careful_bind get_careful fun object => ?_
      split
      · exact careful_pure
      · exact careful_error fresh_new
  | _ => exact careful_error fresh_new

theorem hashPayload_careful : Careful (hashPayload value) := by
  unfold hashPayload
  split
  · exact careful_ok
  · split
    · exact careful_ok
    · exact careful_error fresh_builtin

end Management

namespace ManagementService

open Management

variable [Runtime] {service : ManagementService} {spec : Spec} {request : MutateRequest}

theorem intended_careful {current : Json} : Careful (intended spec request current) := by
  unfold intended
  split
  · exact careful_pure
  · refine careful_bind values_careful fun merged => ?_
    split
    · exact hookOutcome_careful
    · exact careful_pure

omit [Runtime] in
theorem payloadOf_careful {expected : Json} : Careful (payloadOf spec expected) := by
  cases expected with
  | null => exact careful_pure
  | _ => exact put_careful

theorem checkCurrent_careful {current : Json} : Careful (checkCurrent request current) := by
  unfold checkCurrent
  split
  · exact careful_pure
  · exact careful_bind hashPayload_careful fun _ => careful_raiseIf fresh_new

theorem identity_careful {action : WriteAction} {body : List (Str × Json)} :
    Careful (identity spec action body) := by
  unfold identity
  split
  · exact careful_pure
  · refine careful_bind (careful_mapError fresh_new) fun _ => ?_
    refine careful_bind (careful_mapError fresh_new) fun _ => ?_
    exact careful_bind (careful_raiseIf fresh_new) fun _ => careful_pure

theorem accept_careful {body : Json} : Careful (service.accept spec body) := by
  refine careful_bind (careful_raiseIf fresh_new) fun _ => ?_
  cases body with
  | obj body =>
      dsimp only
      split
      · refine careful_bind (careful_raiseIf fresh_new) fun _ => ?_
        refine careful_bind identity_careful fun _ => ?_
        refine careful_bind path_careful fun _ => ?_
        exact careful_bind (careful_raiseIf fresh_new) fun _ => careful_pure
      · exact careful_error fresh_new
  | _ => exact careful_error fresh_new

section

variable {State : Type}

omit [Runtime] in
theorem raw_fresh {uuid : Str} {role : Role} :
    Action.Raises Fresh (raw spec uuid role : Py Role State Json) := by
  refine Action.raises_bind (Action.raises_ofExcept path_careful) fun _ => ?_
  refine Action.raises_bind ?_ fun _ => Action.raises_ofExcept rawOf_careful
  exact Action.raises_bind Action.raises_ask fun _ => Action.raises_ofExcept called_careful

theorem audit_fresh {action : WriteAction} {uuid result : Str} {payload : Json}
    {started : Clock} :
    Action.Raises Fresh
      (service.audit spec action uuid result payload started : Py Role State Unit) := by
  refine Action.raises_bind (Action.raises_ofExcept hashPayload_careful) fun hash => ?_
  refine Action.raises_bind Action.raises_ask fun now => ?_
  refine Action.raises_bind ?_ fun stored => ?_
  · intro before trace error after run
    rw [Action.run_attempt] at run
    rcases run with ⟨result, appending, same⟩
    rw [run_auditAppend] at appending
    rcases appending with ⟨answer, _, rfl, _⟩
    rcases answer with (detail | _) | _
    · simp [appended, Raised.isOsError] at same
    · simp only [appended, unicodeEncodeError, Raised.isOsError, Bool.false_eq_true, if_false,
        Except.error.injEq] at same
      rw [same]
      exact fresh_builtin
    · simp [appended] at same
  · rcases stored with error | _
    · intro before trace raised after run
      rw [Action.run_raise] at run
      rcases run with ⟨_, same, _⟩
      cases same
      exact fresh_new
    · exact Action.raises_pure

theorem prepare_fresh {started : Clock} :
    Action.Raises Fresh
      (service.prepare spec request started : Py Role State (Json × Json)) := by
  refine Action.raises_bind raw_fresh fun _ => ?_
  refine Action.raises_bind (Action.raises_ofExcept checkCurrent_careful) fun _ => ?_
  refine Action.raises_bind (Action.raises_ofExcept intended_careful) fun _ => ?_
  refine Action.raises_bind (Action.raises_ofExcept payloadOf_careful) fun _ => ?_
  exact Action.raises_bind audit_fresh fun _ => Action.raises_pure

end

end ManagementService

end OpnsensePlugin

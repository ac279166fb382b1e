import OpnsensePlugin.Paths.ManagementPaths
import OpnsensePlugin.Python.Checks
import OpnsensePlugin.Python.Decimal
import OpnsensePlugin.Python.IpLiteral

/-!
# Values that an operation accepts

Each field of an operation is checked by itself, in the order of the fields. An
address may be any literal that the standard library accepts, whose zone is not
limited to the characters of a host name; a number may have more digits than
`int` reads. Everything else that is accepted follows the grammar of its field.
-/

namespace OpnsensePlugin

open Effects Python

namespace Management

/-! ## Grammars -/

/-- ASCII letters, digits, `.`, `:`, `-`, `_` and `%` -/
def isParameterChar (c : CodePoint) : Bool := isAsciiAlnum c || c ∈ (".:-_%" : Str)

def IsAddressKind : ValueKind → Prop
  | .ip | .hostname => True
  | _ => False

section

variable [Runtime]

/-- What the value of a field may be -/
def Grammar : ValueKind → Json → Prop
  | .ip, value | .hostname, value =>
      ∃ text, value = .str text ∧ ∀ c ∈ text, isParameterChar c = true
  | .identifier, value => ∃ first rest, value = .str (first :: rest) ∧
      isAsciiAlnum first = true ∧ rest.length ≤ 127 ∧
        ∀ c ∈ rest, isAsciiAlnum c = true ∨ c ∈ ("_.:-" : Str)
  | .uuid, value => ∃ text, value = .str text ∧ IsJobId text
  | .integer min max, value => ∃ number, value = .int number ∧ min ≤ number ∧ number ≤ max
  | .select options, value => ∃ text ∈ options, value = .str text

end

/-- What follows the first percent sign, if there is one -/
def ZoneIsPlain (value : Json) : Prop :=
  ∀ text zone, value = .str text → (partition (code '%') text).2 = some zone →
    ∀ c ∈ zone, isParameterChar c = true

/-- A text of decimal digits that `int` refuses to read -/
def IsOversized (kind : ValueKind) (value : Json) : Prop :=
  (∃ min max, kind = .integer min max) ∧
    ∃ text, value = .str text ∧ isDecimal text = true ∧ maxStrDigits < text.length

/-! ## The check of one field -/

variable [Runtime] {values : List (Str × Json)} {item : OperationField} {kind : ValueKind}
  {value checked : Json} {spec : OperationSpec}

def givenValue (values : List (Str × Json)) (item : OperationField) : Json :=
  fieldD values item.name item.default

/-- What one step of `_values` keeps -/
def checkGiven (values : List (Str × Json)) (item : OperationField) :
    Except Exn (Option Json) :=
  if isBlank (givenValue values item) then do
    raiseIf item.required (badRequest "Falta un campo obligatorio.")
    return none
  else do
    let checked ← operationValue item.kind (givenValue values item)
    return some checked

def keepValue (result : List (Str × Json)) (item : OperationField) :
    Option Json → List (Str × Json)
  | none => result
  | some checked => setField item.name checked result

theorem operationValues_eq : operationValues spec (.obj values) =
    (raiseIf (values.any fun entry => entry.1 ∉ spec.fields.map OperationField.name)
      (badRequest "Campo de operación no permitido.") >>= fun _ =>
        spec.fields.foldlM (checkedStep (checkGiven values) keepValue) []) := by
  have step : (fun (result : List (Str × Json)) (item : OperationField) => do
      let value := fieldD values item.name item.default
      if isBlank value then
        raiseIf item.required (badRequest "Falta un campo obligatorio.")
        return result
      else
        let checked ← operationValue item.kind value
        return setField item.name checked result) =
      checkedStep (checkGiven values) keepValue := by
    funext result item
    rw [checkedStep, checkGiven, givenValue]
    dsimp only
    split
    · cases item.required <;> rfl
    · cases operationValue item.kind (fieldD values item.name item.default) <;> rfl
  rw [operationValues, step]

/-! ## Addresses -/

omit [Runtime] in
theorem isParameterChar_of_isAddressDigit {c : Nat} (digit : isAddressDigit c = true) :
    isParameterChar c = true := by
  simp only [isAddressDigit, isHexDigit, Bool.or_eq_true, Bool.and_eq_true,
    decide_eq_true_eq] at digit
  simp only [isParameterChar, isAsciiAlnum, isAsciiAlpha, Bool.or_eq_true, Bool.and_eq_true,
    decide_eq_true_eq]
  have lower : code 'f' ≤ code 'z' := by decide
  have upper : code 'F' ≤ code 'Z' := by decide
  rcases digit with (((digit | ⟨low, high⟩) | ⟨low, high⟩) | rfl) | rfl
  · exact .inl (.inr digit)
  · exact .inl (.inl (.inl ⟨low, Nat.le_trans high lower⟩))
  · exact .inl (.inl (.inr ⟨low, Nat.le_trans high upper⟩))
  · exact .inr (by decide)
  · exact .inr (by decide)

omit [Runtime] in
/-- An address has no other characters, unless its zone has. -/
theorem chars_of_address {text : Str} {address : IpAddress}
    (literal : ipAddress text = some address) :
    (∀ c ∈ text, isParameterChar c = true) ↔ ZoneIsPlain (.str text) := by
  constructor
  · rintro plain _ zone ⟨⟩ found c member
    exact plain c (mem_of_partition_rest found member)
  · intro plain c member
    rcases @mem_partition _ (code '%') _ member with front | rfl | ⟨zone, found, inside⟩
    · exact isParameterChar_of_isAddressDigit (ipAddress_digits literal c front)
    · decide
    · exact plain text zone rfl found c inside

omit [Runtime] in
theorem chars_of_hostname {text : Str} (host : isHostname text = true) :
    ∀ c ∈ text, isParameterChar c = true := by
  simp only [isHostname, Bool.and_eq_true, List.all_eq_true, Bool.or_eq_true,
    decide_eq_true_eq] at host
  intro c member
  rw [isParameterChar, Bool.or_eq_true, decide_eq_true_eq]
  rcases host.1.1 c member with (alnum | rfl) | rfl
  · exact .inl alnum
  · exact .inr (by decide)
  · exact .inr (by decide)

omit [Runtime] in
theorem grammar_of_identifier {text : Str} (identifier : isIdentifier text = true) :
    ∃ first rest, text = first :: rest ∧ isAsciiAlnum first = true ∧ rest.length ≤ 127 ∧
      ∀ c ∈ rest, isAsciiAlnum c = true ∨ c ∈ ("_.:-" : Str) := by
  simp only [isIdentifier, Bool.and_eq_true, decide_eq_true_eq, List.all_eq_true,
    Bool.or_eq_true] at identifier
  rcases identifier with ⟨⟨head, short⟩, all⟩
  cases text with
  | nil => cases head
  | cons first rest =>
      refine ⟨first, rest, rfl, by simpa using head, ?_, ?_⟩
      · rw [List.length_cons] at short
        omega
      · exact fun c member => all c (List.mem_cons_of_mem _ member)

/-! ## Outcomes of a check -/

/-- A number is read by `int`, unless it is a text with too many digits. -/
theorem toInt_decimal {error : Exn} (decimal : isDecimal value.text = true)
    (refused : value.toInt = .error error) :
    isManagement error = false ∧ ∃ text, value = .str text ∧ maxStrDigits < text.length := by
  have opens : ∀ c : CodePoint, ∀ rest : Str, value.text = c :: rest →
      (decimalValue c).isSome = true := by
    intro c rest same
    rw [same] at decimal
    simp only [isDecimal, Bool.and_eq_true, List.all_cons] at decimal
    exact decimal.2.1
  cases value with
  | str text =>
      have read : (parseInt 10 text).isSome = true ↔ text.length ≤ maxStrDigits :=
        parseInt_of_decimal decimal
      simp only [Json.toInt] at refused
      cases parsed : parseInt 10 text with
      | none =>
          rw [parsed] at refused read
          cases refused
          refine ⟨rfl, text, rfl, ?_⟩
          simpa using read
      | some number =>
          rw [parsed] at refused
          cases refused
  | null => exact absurd (opens (code 'N') ("one" : Str) rfl) (by decide)
  | bool value => cases refused
  | int value => cases refused
  | float value =>
      cases value with
      | nan => exact absurd (opens (code 'n') ("an" : Str) rfl) (by decide)
      | infinity negative =>
          cases negative with
          | true => exact absurd (opens (code '-') ("inf" : Str) rfl) (by decide)
          | false => exact absurd (opens (code 'i') ("nf" : Str) rfl) (by decide)
      | finite negative mantissa exponent => cases refused
  | arr items =>
      exact absurd (opens (code '[') (join ", " (reprItems items) ++ ("]" : Str)) rfl) (by decide)
  | obj fields =>
      exact absurd (opens 123 (join ", " (reprFields fields) ++ ("\x7d" : Str)) rfl) (by decide)

omit [Runtime] in
theorem toInt_fits {text : Str} {number : Int} (decimal : isDecimal text = true)
    (read : (Json.str text).toInt = (.ok number : Except Exn Int)) :
    text.length ≤ maxStrDigits := by
  apply (parseInt_of_decimal decimal).mp
  simp only [Json.toInt] at read
  cases parsed : parseInt 10 text with
  | none =>
      rw [parsed] at read
      cases read
  | some value => rfl

theorem operationValue_grammar (valid : operationValue kind value = .ok checked) :
    Grammar kind checked ↔ (IsAddressKind kind → ZoneIsPlain value) := by
  cases kind with
  | integer min max =>
      simp only [operationValue, bind_eq_ok, raiseIf_eq_ok, pure_eq_ok] at valid
      rcases valid with ⟨_, _, number, _, _, range, rfl⟩
      simp only [Bool.not_eq_false', Bool.and_eq_true, decide_eq_true_eq] at range
      exact ⟨fun _ impossible => impossible.elim, fun _ => ⟨number, rfl, range⟩⟩
  | uuid =>
      have known : IsIdentifierKind .uuid := trivial
      rcases operationValue_identifier known valid with ⟨rfl, job⟩
      cases checked with
      | str text => exact ⟨fun _ impossible => impossible.elim, fun _ => ⟨text, rfl, job⟩⟩
      | _ => exact job.elim
  | identifier =>
      have known : IsIdentifierKind .identifier := trivial
      rcases operationValue_identifier known valid with ⟨rfl, identifier⟩
      cases checked with
      | str text =>
          rcases grammar_of_identifier identifier with ⟨first, rest, rfl, grammar⟩
          exact ⟨fun _ impossible => impossible.elim, fun _ => ⟨first, rest, rfl, grammar⟩⟩
      | _ => exact identifier.elim
  | select options =>
      cases value with
      | str text =>
          simp only [operationValue, checkText, bind_eq_ok, raiseIf_eq_ok, pure_eq_ok] at valid
          rcases valid with ⟨_, _, _, listed, rfl⟩
          exact ⟨fun _ impossible => impossible.elim,
            fun _ => ⟨text, by simpa using listed, rfl⟩⟩
      | _ => cases valid
  | ip =>
      cases value with
      | str text =>
          simp only [operationValue, checkText, bind_eq_ok, raiseIf_eq_ok, pure_eq_ok] at valid
          rcases valid with ⟨_, _, _, literal, rfl⟩
          rcases Option.isSome_iff_exists.mp (by simpa using literal) with ⟨address, literal⟩
          have chars := chars_of_address literal
          constructor
          · rintro ⟨_, ⟨⟩, plain⟩ _
            exact chars.mp plain
          · intro plain
            exact ⟨text, rfl, chars.mpr (plain trivial)⟩
      | _ => cases valid
  | hostname =>
      cases value with
      | str text =>
          simp only [operationValue, checkText, bind_eq_ok, raiseIf_eq_ok, pure_eq_ok] at valid
          rcases valid with ⟨_, _, _, known, rfl⟩
          have chars : (∀ c ∈ text, isParameterChar c = true) ↔ ZoneIsPlain (.str text) := by
            cases literal : ipAddress text with
            | some address => exact chars_of_address literal
            | none =>
                have plain := chars_of_hostname (by simpa [literal] using known)
                refine ⟨fun _ => ?_, fun _ => plain⟩
                rintro _ zone ⟨⟩ found c member
                exact plain c (mem_of_partition_rest found member)
          constructor
          · rintro ⟨_, ⟨⟩, plain⟩ _
            exact chars.mp plain
          · intro plain
            exact ⟨text, rfl, chars.mpr (plain trivial)⟩
      | _ => cases valid

theorem checkText_error {text : Str} {error : Exn} (refused : checkText kind text = .error error) :
    isManagement error = true := by
  cases kind with
  | integer min max => cases refused
  | uuid =>
      simp only [checkText] at refused
      split at refused
      · cases refused
      · rename_i raised invalid
        have known : raised.isValueOrType = true := by
          simp only [validateUuid] at invalid
          split at invalid
          · cases invalid
            rfl
          · split at invalid <;> cases invalid
            rfl
        rw [known, if_pos rfl] at refused
        cases refused
        rfl
  | _ =>
      simp only [checkText, raiseIf_eq_error] at refused
      rcases refused with ⟨_, rfl⟩
      rfl

theorem operationValue_error {error : Exn} (refused : operationValue kind value = .error error) :
    isManagement error = true ↔ ¬ IsOversized kind value := by
  have managed : ∀ detail : Str, isManagement (badRequest detail) = true := fun _ => rfl
  by_cases number : ∃ min max, kind = .integer min max
  · rcases number with ⟨min, max, rfl⟩
    simp only [operationValue, bind_eq_error, raiseIf_eq_error, raiseIf_eq_ok, pure_ne_error,
      and_false, exists_false, or_false] at refused
    rcases refused with ⟨plain, rfl⟩ | ⟨_, plain, refused⟩
    · refine ⟨fun _ => ?_, fun _ => managed _⟩
      rintro ⟨_, text, rfl, decimal, _⟩
      have decimal : isDecimal (Json.str text).text = true := decimal
      rw [decimal] at plain
      cases plain
    · simp only [Bool.or_eq_false_iff, Bool.not_eq_false'] at plain
      rcases refused with refused | ⟨number, read, _, rfl⟩
      · rcases toInt_decimal plain.2 refused with ⟨unmanaged, text, rfl, long⟩
        constructor
        · intro same
          rw [unmanaged] at same
          cases same
        · intro small
          exact absurd ⟨⟨min, max, rfl⟩, text, rfl, plain.2, long⟩ small
      · refine ⟨fun _ => ?_, fun _ => managed _⟩
        rintro ⟨_, text, rfl, decimal, long⟩
        exact absurd (toInt_fits decimal read) (by omega)
  · have small : ¬ IsOversized kind value := fun oversized => number oversized.1
    refine ⟨fun _ => small, fun _ => ?_⟩
    have textual : ∀ text, (raiseIf (253 < text.length || 0 ∈ text) (badRequest "Texto inválido.") >>=
        fun _ => checkText kind text >>= fun _ => pure (Json.str text)) = .error error →
        isManagement error = true := by
      intro text refused
      rcases bind_eq_error.mp refused with refused | ⟨_, _, refused⟩
      · rw [raiseIf_eq_error] at refused
        rw [refused.2]
        exact managed _
      · rcases bind_eq_error.mp refused with refused | ⟨_, _, refused⟩
        · exact checkText_error refused
        · exact absurd refused pure_ne_error
    cases kind with
    | integer min max => exact absurd ⟨min, max, rfl⟩ number
    | _ =>
        cases value with
        | str text => exact textual text refused
        | _ =>
            cases refused
            exact managed _

omit [Runtime] in
theorem blank_cases (blank : isBlank value = true) : value = .null ∨ value = .str [] := by
  cases value with
  | null => exact .inl rfl
  | str text => exact .inr (by rw [List.isEmpty_iff.mp blank])
  | _ => cases blank

theorem checkGiven_error {error : Exn} (refused : checkGiven values item = .error error) :
    isManagement error = true ↔ ¬ IsOversized item.kind (givenValue values item) := by
  rw [checkGiven] at refused
  split at refused
  · rename_i blank
    rcases bind_eq_error.mp refused with refused | ⟨_, _, refused⟩
    · rw [raiseIf_eq_error] at refused
      rw [refused.2]
      refine ⟨fun _ => ?_, fun _ => rfl⟩
      rintro ⟨_, text, same, decimal, _⟩
      rcases blank_cases blank with other | other
      · rw [other] at same
        cases same
      · rw [other] at same
        cases same
        cases decimal
    · exact absurd refused pure_ne_error
  · rcases bind_eq_error.mp refused with refused | ⟨_, _, refused⟩
    · exact operationValue_error refused
    · exact absurd refused pure_ne_error

theorem checkGiven_some (kept : checkGiven values item = .ok (some checked)) :
    operationValue item.kind (givenValue values item) = .ok checked := by
  rw [checkGiven] at kept
  split at kept
  · simp only [bind_eq_ok, pure_eq_ok] at kept
    rcases kept with ⟨_, _, same⟩
    cases same
  · simp only [bind_eq_ok, pure_eq_ok] at kept
    rcases kept with ⟨_, valid, same⟩
    cases same
    exact valid

theorem checkGiven_none (skipped : checkGiven values item = .ok none) :
    isBlank (givenValue values item) = true := by
  rw [checkGiven] at skipped
  split at skipped
  · assumption
  · simp only [bind_eq_ok, pure_eq_ok] at skipped
    rcases skipped with ⟨_, _, same⟩
    cases same

theorem checkGiven_fits {kept : Option Json} (passed : checkGiven values item = .ok kept) :
    ¬ IsOversized item.kind (givenValue values item) := by
  rintro ⟨⟨min, max, number⟩, text, given, decimal, long⟩
  cases kept with
  | none =>
      have blank := checkGiven_none passed
      rw [given] at blank
      rw [List.isEmpty_iff.mp blank] at decimal
      cases decimal
  | some checked =>
      have valid := checkGiven_some passed
      rw [number, given] at valid
      simp only [operationValue, bind_eq_ok] at valid
      rcases valid with ⟨_, _, _, read, _⟩
      exact absurd (toInt_fits decimal read) (by omega)

/-! ## All fields -/

theorem keepValue_other {fields : List OperationField} {start result : List (Str × Json)}
    {name : Str} (absent : name ∉ fields.map OperationField.name)
    (folded : fields.foldlM (checkedStep (checkGiven values) keepValue) start = .ok result) :
    field result name = field start name := by
  induction fields generalizing start with
  | nil =>
      cases folded
      rfl
  | cons first rest ih =>
      rw [List.foldlM_cons, bind_eq_ok] at folded
      rcases folded with ⟨middle, step, folded⟩
      rw [List.map_cons, List.mem_cons, not_or] at absent
      rw [ih absent.2 folded]
      rcases bind_eq_ok.mp step with ⟨kept, _, stored⟩
      cases stored
      cases kept with
      | none => rfl
      | some checked => exact field_setField_ne absent.1

/-- A value that passed its check is kept under the name of its field. -/
theorem keepValue_found {fields : List OperationField} {start result : List (Str × Json)}
    (distinct : (fields.map OperationField.name).Nodup)
    (folded : fields.foldlM (checkedStep (checkGiven values) keepValue) start = .ok result)
    (member : item ∈ fields) (kept : checkGiven values item = .ok (some checked)) :
    field result item.name = some checked := by
  induction fields generalizing start with
  | nil => cases member
  | cons first rest ih =>
      rw [List.foldlM_cons, bind_eq_ok] at folded
      rcases folded with ⟨middle, step, folded⟩
      rw [List.map_cons, List.nodup_cons] at distinct
      rcases List.mem_cons.mp member with rfl | member
      · rw [keepValue_other distinct.1 folded]
        rcases bind_eq_ok.mp step with ⟨found, same, stored⟩
        rw [kept] at same
        cases same
        cases stored
        exact field_setField_self
      · exact ih distinct.2 folded member

/-- The values of an operation that exists -/
def IsKnown (spec : OperationSpec) (values : List (Str × Json)) : Prop :=
  ∀ name ∈ values.map (·.1), name ∈ spec.fields.map OperationField.name

/-- No check that is made raises another error than its own, and no zone of an accepted address has
other characters than those of an address. -/
structure Proper (spec : OperationSpec) (values : List (Str × Json)) : Prop where
  readable : ∀ item, Reached (checkGiven values) spec.fields item →
    ¬ IsOversized item.kind (givenValue values item)
  plain : (∀ item ∈ spec.fields, ∃ kept, checkGiven values item = .ok kept) →
    ∀ item ∈ spec.fields, IsAddressKind item.kind → ZoneIsPlain (givenValue values item)

/-- What is accepted follows the grammars, and all else is refused before any request. -/
structure Safe (operation : Json) (spec : OperationSpec) (values : Json) : Prop where
  accepted : ∀ result, operationValues spec values = .ok result →
    ∀ name value, field result name = some value →
      ∃ item ∈ spec.fields, item.name = name ∧ Grammar item.kind value
  refused : ∀ error, operationValues spec values = .error error → isManagement error = true
  unsent : ∀ error, operationValues spec values = .error error →
    ∀ client actor trace outcome,
      (executeOperation client actor operation values).Run () trace outcome () →
        trace = [] ∧ outcome = .error error

omit [Runtime] in
theorem fields_nodup : ∀ spec ∈ operations, (spec.fields.map OperationField.name).Nodup := by
  decide +kernel

theorem executeOperation_unsent {operation values : Json} {error : Exn} {client : Host}
    {actor : Str} {trace : Trace Role} {outcome : Except Exn OperationResult}
    (found : operations.find? (fun spec => operation.isText spec.id) = some spec)
    (refused : operationValues spec values = .error error)
    (run : (executeOperation client actor operation values).Run () trace outcome ()) :
    trace = [] ∧ outcome = .error error := by
  have planned : planOperation operation values = .error error := by
    rw [planOperation, found]
    dsimp only
    rw [refused]
    rfl
  rw [executeOperation, planned, Action.run_bind_ofExcept] at run
  rcases run with ⟨_, same, _⟩ | ⟨_, same, rfl, rfl, _⟩
  · cases same
  · cases same
    exact ⟨rfl, rfl⟩

/-- The checks of the values of an operation do what they are for exactly if the values are proper. -/
theorem operationValues_safe_iff {operation values : Json}
    (found : operations.find? (fun spec => operation.isText spec.id) = some spec) :
    Safe operation spec values ↔
      ∀ fields, values = .obj fields → IsKnown spec fields → Proper spec fields := by
  have distinct := fields_nodup spec (List.mem_of_find?_eq_some found)
  constructor
  · rintro safe fields rfl known
    have unknown : (fields.any fun entry =>
        entry.1 ∉ spec.fields.map OperationField.name) = false := by
      rw [List.any_eq_false]
      intro entry member
      simpa using known entry.1 (List.mem_map_of_mem member)
    have folded : operationValues spec (.obj fields) =
        spec.fields.foldlM (checkedStep (checkGiven fields) keepValue) [] := by
      rw [operationValues_eq, unknown]
      rfl
    constructor
    · intro item reached
      cases checked : checkGiven fields item with
      | error error =>
          have refused : spec.fields.foldlM (checkedStep (checkGiven fields) keepValue) [] =
              .error error := foldlM_error_iff.mpr ⟨item, reached, checked⟩
          rw [← folded] at refused
          exact (checkGiven_error checked).mp (safe.refused error refused)
      | ok kept => exact checkGiven_fits checked
    · intro passed item member address
      rcases foldlM_ok_iff.mpr passed with ⟨result, made⟩
      have accepted := folded.trans made
      rcases passed item member with ⟨kept, checked⟩
      cases kept with
      | none =>
          rcases blank_cases (checkGiven_none checked) with same | same
          · rw [same]
            rintro _ _ ⟨⟩
          · rw [same]
            rintro _ _ ⟨⟩ impossible
            cases impossible
      | some value =>
          rcases safe.accepted result accepted item.name value
            (keepValue_found distinct made member checked) with ⟨other, listed, named, grammar⟩
          rw [List.inj_on_of_nodup_map distinct listed member named] at grammar
          exact (operationValue_grammar (checkGiven_some checked)).mp grammar address
  · intro proper
    refine ⟨?_, ?_, fun _ refused _ _ _ _ => executeOperation_unsent found refused⟩
    · intro result accepted name value stored
      rcases operationValues_known accepted with ⟨fields, rfl, known⟩
      have folds := accepted
      rw [operationValues_eq, bind_eq_ok] at folds
      rcases folds with ⟨_, _, made⟩
      have plain := (proper fields rfl known).plain (foldlM_ok_iff.mp ⟨result, made⟩)
      simp only [operationValues, bind_eq_ok] at accepted
      rcases accepted with ⟨_, _, folded⟩
      rcases operationValues_checked folded stored with impossible | ⟨item, listed, named, valid⟩
      · cases impossible
      · exact ⟨item, listed, named, (operationValue_grammar valid).mpr (plain item listed)⟩
    · intro error refused
      cases values with
      | obj fields =>
          rw [operationValues_eq, bind_eq_error] at refused
          rcases refused with refused | ⟨_, known, refused⟩
          · rw [raiseIf_eq_error] at refused
            rw [refused.2]
            rfl
          · rw [raiseIf_eq_ok, List.any_eq_false] at known
            have names : IsKnown spec fields := by
              intro name listed
              rcases List.mem_map.mp listed with ⟨entry, member, rfl⟩
              simpa using known entry member
            rcases foldlM_error_iff.mp refused with ⟨item, reached, failed⟩
            exact (checkGiven_error failed).mpr ((proper fields rfl names).readable item reached)
      | _ =>
          cases refused
          rfl

/-! ### Addresses with a zone -/

def lookupField : OperationField := { name := "address", kind := .ip, required := true }

def lookupSpec : OperationSpec :=
  { id := "reverse_dns", method := .get, path := "/api/diagnostics/dns/reverseLookup"
    fields := [lookupField] }

def lookupValues (address : Str) : List (Str × Json) := [("address", .str address)]

omit [Runtime] in
theorem lookupSpec_found :
    operations.find? (fun spec => (Json.str "reverse_dns").isText spec.id) = some lookupSpec := by
  rfl

omit [Runtime] in
theorem operationValues_safe_lookup :
    @Safe Runtime.ascii (.str "reverse_dns") lookupSpec
      (.obj (lookupValues "fe80::1%em0")) := by
  refine (@operationValues_safe_iff Runtime.ascii _ _ _ lookupSpec_found).mpr ?_
  rintro _ ⟨⟩ _
  refine @Proper.mk Runtime.ascii _ _ ?_ ?_
  · intro item reached
    cases List.mem_singleton.mp reached.mem
    rintro ⟨⟨_, _, impossible⟩, _⟩
    cases impossible
  · intro _ item member _
    cases List.mem_singleton.mp member
    rintro _ zone ⟨⟩ found
    have zoned : (partition (code '%') ("fe80::1%em0" : Str)).2 = some ("em0" : Str) := by decide
    rw [zoned] at found
    cases found
    decide

omit [Runtime] in
/-- The zone of an address is sent as it is. -/
theorem operationValues_zone :
    operations.find? (fun spec => (Json.str "reverse_dns").isText spec.id) = some lookupSpec ∧
      ¬ @Safe Runtime.ascii (.str "reverse_dns") lookupSpec
        (.obj (lookupValues "fe80::1%em0; reboot")) := by
  refine ⟨lookupSpec_found, fun safe => ?_⟩
  have accepted : @operationValues Runtime.ascii lookupSpec
      (.obj (lookupValues "fe80::1%em0; reboot")) =
        .ok (lookupValues "fe80::1%em0; reboot") := by
    rfl
  rcases @Safe.accepted Runtime.ascii _ _ _ safe _ accepted "address" _ rfl with
    ⟨item, member, _, grammar⟩
  cases List.mem_singleton.mp member
  rcases grammar with ⟨_, ⟨⟩, plain⟩
  exact absurd (plain (code ';') (by decide)) (by decide)

end Management

end OpnsensePlugin

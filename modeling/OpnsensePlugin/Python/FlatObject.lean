import OpnsensePlugin.Python.Decode
import OpnsensePlugin.Python.Split

/-!
# Flat objects

`json.dumps` of a `dict` of texts and integers, with `separators=(",", ":")` and
without escapes for characters that are not ASCII. `json.loads` reads it back.
-/

namespace Python

inductive Scalar
  | text (value : Str)
  | number (value : Int)

namespace Scalar

def json : Scalar → Json
  | text value => .str value
  | number value => .int value

def dumps : Scalar → Str
  | text value => quoted value
  | number value => intText value

/-- Longer numbers can be neither written nor read. -/
def Fits : Scalar → Prop
  | text _ => True
  | number value => (natText value.natAbs).length ≤ maxStrDigits

end Scalar

def memberText (member : Str × Scalar) : Str := quoted member.1 ++ code ':' :: member.2.dumps

/-- `json.dumps` -/
def objectText (members : List (Str × Scalar)) : Str :=
  code '\x7b' :: (join "," (members.map memberText) ++ [code '\x7d'])

/-! ## Reading strings -/

section Strings

variable {c : CodePoint} {text rest cut : Str} {unit : Nat}

theorem scanString_plain (quote : c ≠ code '"') (slash : c ≠ code '\\') (printable : ¬ c < 32) :
    scanString (c :: rest) = (scanString rest).map (prepend c) := by
  rw [scanString.eq_def]
  simp only [if_neg quote, if_neg slash, if_neg printable]

theorem scanString_short {e : CodePoint} (other : e ≠ code 'u') :
    scanString (code '\\' :: e :: rest) =
      (unescaped e).bind fun plain => (scanString rest).map (prepend plain) := by
  have quote : code '\\' ≠ code '"' := by decide
  rw [scanString.eq_def]
  simp only [if_neg quote, if_pos, if_neg other]
  cases unescaped e <;> rfl

theorem scanString_unit {p q r s : CodePoint} (read : hexUnit p q r s = some unit)
    (single : isHighSurrogate unit = false) :
    scanString (code '\\' :: code 'u' :: p :: q :: r :: s :: rest) =
      (scanString rest).map (prepend unit) := by
  have quote : code '\\' ≠ code '"' := by decide
  rw [scanString.eq_def]
  simp only [if_neg quote, if_pos, read, single]
  split
  · split <;> simp
  · rfl

/-- What stands between the quotes -/
def escaped (text : Str) : Str := text.flatMap escapeChar

theorem quoted_eq : quoted text = code '"' :: (escaped text ++ [code '"']) := rfl

theorem escaped_cons : escaped (c :: text) = escapeChar c ++ escaped text := rfl

theorem escaped_append {front back : Str} : escaped (front ++ back) = escaped front ++ escaped back :=
  List.flatMap_append

/-- The four digits of a control character -/
def IsUnit (unit : Nat) : Str → Prop
  | [p, q, r, s] => hexUnit p q r s = some unit
  | _ => False

instance : Decidable (IsUnit unit text) := by
  unfold IsUnit
  split <;> infer_instance

theorem hexDigits_control : ∀ c < 32, IsUnit c (hexDigits 4 c) := by decide

theorem exists_hexDigits (control : c < 32) :
    ∃ p q r s, hexDigits 4 c = [p, q, r, s] ∧ hexUnit p q r s = some c := by
  have known := hexDigits_control c control
  generalize hexDigits 4 c = digits at known
  unfold IsUnit at known
  split at known
  · exact ⟨_, _, _, _, rfl, known⟩
  · exact known.elim

/-- How a character is written: as itself, with a letter after a backslash, or with four digits. -/
theorem escapeChar_cases (c : CodePoint) :
    (escapeChar c = [c] ∧ c ≠ code '"' ∧ c ≠ code '\\' ∧ ¬ c < 32) ∨
      (∃ e, escapeChar c = [code '\\', e] ∧ e ≠ code 'u' ∧ unescaped e = some c) ∨
      ∃ p q r s, escapeChar c = [code '\\', code 'u', p, q, r, s] ∧ hexUnit p q r s = some c ∧
        isHighSurrogate c = false := by
  by_cases quote : c = code '"'
  · subst quote
    exact .inr (.inl ⟨code '"', by decide⟩)
  by_cases slash : c = code '\\'
  · subst slash
    exact .inr (.inl ⟨code '\\', by decide⟩)
  by_cases control : c < 32
  · have short : ∀ c < 32, escapeChar c = [code '\\', code 'u'] ++ hexDigits 4 c ∨
        (c = 8 ∨ c = 9 ∨ c = 10 ∨ c = 12 ∨ c = 13) := by decide
    rcases short c control with written | rfl | rfl | rfl | rfl | rfl
    · rcases exists_hexDigits control with ⟨p, q, r, s, digits, value⟩
      have low : isHighSurrogate c = false := by
        have all : ∀ c < 32, isHighSurrogate c = false := by decide
        exact all c control
      rw [digits] at written
      exact .inr (.inr ⟨p, q, r, s, written, value, low⟩)
    · exact .inr (.inl ⟨code 'b', by decide⟩)
    · exact .inr (.inl ⟨code 't', by decide⟩)
    · exact .inr (.inl ⟨code 'n', by decide⟩)
    · exact .inr (.inl ⟨code 'f', by decide⟩)
    · exact .inr (.inl ⟨code 'r', by decide⟩)
  · have plain : escapeChar c = [c] := by
      have others : c ≠ 8 ∧ c ≠ 9 ∧ c ≠ 10 ∧ c ≠ 12 ∧ c ≠ 13 := by
        refine ⟨?_, ?_, ?_, ?_, ?_⟩ <;>
        · rintro rfl
          exact control (by decide)
      simp [escapeChar, quote, slash, others, control]
    exact .inl ⟨plain, quote, slash, control⟩

theorem scanString_escapeChar :
    scanString (escapeChar c ++ rest) = (scanString rest).map (prepend c) := by
  rcases escapeChar_cases c with ⟨written, quote, slash, printable⟩ | ⟨e, written, other, value⟩ |
    ⟨p, q, r, s, written, value, low⟩
  · rw [written]
    exact scanString_plain quote slash printable
  · have scanned := @scanString_short rest e other
    rw [value] at scanned
    rw [written]
    exact scanned
  · rw [written]
    exact scanString_unit value low

theorem scanString_escaped : scanString (escaped text ++ code '"' :: rest) = some (text, rest) := by
  induction text with
  | nil =>
      rw [escaped, List.flatMap_nil, List.nil_append, scanString.eq_def]
      rfl
  | cons c more ih =>
      rw [escaped_cons, List.append_assoc, scanString_escapeChar, ih]
      rfl

theorem scanString_cutChar (front : cut <+: escapeChar c) : scanString cut = none := by
  have slash : code '\\' ≠ code '"' := by decide
  by_cases whole : cut = escapeChar c
  · have scanned := @scanString_escapeChar c []
    rw [List.append_nil] at scanned
    rw [whole, scanned]
    rfl
  rcases escapeChar_cases c with ⟨written, _⟩ | ⟨e, written, _⟩ | ⟨p, q, r, s, written, _⟩
  all_goals
    rw [written] at front whole
    simp only [List.prefix_cons_iff, List.prefix_nil] at front
  · rcases front with rfl | ⟨_, rfl, rfl⟩
    · rfl
    · exact absurd rfl whole
  · rcases front with rfl | ⟨_, rfl, rfl | ⟨_, rfl, rfl⟩⟩
    · rfl
    · rfl
    · exact absurd rfl whole
  · rcases front with rfl | ⟨_, rfl, rfl | ⟨_, rfl, rfl | ⟨_, rfl, rfl | ⟨_, rfl, rfl | ⟨_, rfl,
      rfl | ⟨_, rfl, rfl⟩⟩⟩⟩⟩⟩
    · rfl
    · rfl
    · rfl
    · rfl
    · rfl
    · rfl
    · exact absurd rfl whole

/-- A string that is cut before its closing quote is not a string. -/
theorem scanString_cut (front : cut <+: escaped text) : scanString cut = none := by
  induction text generalizing cut with
  | nil =>
      have none : cut = [] := List.prefix_nil.mp front
      rw [none]
      rfl
  | cons c more ih =>
      rw [escaped_cons] at front
      rcases List.prefix_or_prefix_of_prefix front (List.prefix_append _ _) with inside | ⟨later, rfl⟩
      · exact scanString_cutChar inside
      · rw [scanString_escapeChar, ih ((List.prefix_append_right_inj _).mp front)]
        rfl

end Strings

/-! ## Reading numbers -/

section Numbers

variable {n : Nat} {c : CodePoint} {rest : Str} {readFloat : Str → PyFloat}

theorem isAsciiDigit_of_mem_natText (member : c ∈ natText n) : isAsciiDigit c = true := by
  rcases List.mem_map.mp member with ⟨char, inside, rfl⟩
  have digit := Nat.isDigit_of_mem_toDigits (by decide) (by decide) inside
  simp only [Char.isDigit, Bool.and_eq_true, decide_eq_true_eq] at digit
  simp only [isAsciiDigit, Bool.and_eq_true, decide_eq_true_eq]
  exact digit

theorem natText_ne_nil : natText n ≠ [] := by
  simp [natText, Nat.toDigits_ne_nil]

theorem digitsValue_natText : digitsValue (natText n) = n := by
  have value : Nat.ofDigitChars 10 (Nat.toDigits 10 n) 0 = n := Nat.ofDigitChars_ten_toDigits
  rw [digitsValue, natText, List.foldl_map]
  exact value

theorem natText_zero : natText 0 = [code '0'] := by decide

/-- A positive number does not start with a zero. -/
theorem natText_head (positive : 0 < n) : ∃ first more, natText n = first :: more ∧ first ≠ code '0' := by
  induction n using Nat.strong_induction_on with
  | _ n ih =>
      by_cases small : n < 10
      · have digits : ∀ n < 10, 0 < n → ∃ first ∈ natText n, natText n = [first] ∧ first ≠ code '0' := by
          decide
        rcases digits n small positive with ⟨first, _, same, other⟩
        exact ⟨first, [], same, other⟩
      · have large : 10 ≤ n := Nat.le_of_not_lt small
        rcases ih (n / 10) (by omega) (by omega) with ⟨first, more, same, other⟩
        refine ⟨first, more ++ [code (n % 10).digitChar], ?_, other⟩
        rw [natText] at same ⊢
        rw [Nat.toDigits_of_base_le (by decide) large, List.map_append, same]
        rfl

/-- A character that ends a number -/
def EndsNumber (c : CodePoint) : Prop :=
  isAsciiDigit c = false ∧ c ≠ code '.' ∧ c ≠ code 'e' ∧ c ≠ code 'E'

theorem digitsOf_natText (ends : EndsNumber c) :
    digitsOf (natText n ++ c :: rest) = (natText n, c :: rest) := by
  have inside : ∀ d ∈ natText n, isAsciiDigit d = true := fun d => isAsciiDigit_of_mem_natText
  simp [digitsOf, List.takeWhile_append_of_pos inside, List.dropWhile_append_of_pos inside, ends.1]

theorem scanFraction_none (ends : EndsNumber c) : scanFraction (c :: rest) = ([], c :: rest) := by
  cases rest with
  | nil => rfl
  | cons d more => simp [scanFraction, ends.2.1]

theorem scanExponent_none (ends : EndsNumber c) : scanExponent (c :: rest) = ([], c :: rest) := by
  cases rest with
  | nil => rfl
  | cons d more => simp [scanExponent, ends.2.2]

theorem scanWhole_natText (ends : EndsNumber c) :
    scanWhole (natText n ++ c :: rest) = (natText n, c :: rest) := by
  rcases Nat.eq_zero_or_pos n with rfl | positive
  · simp [natText_zero, scanWhole]
  · rcases natText_head positive with ⟨first, more, same, other⟩
    have digits := @digitsOf_natText n c rest ends
    rw [same] at digits ⊢
    simpa [scanWhole, other] using digits

theorem scanMagnitude_natText {negative : Bool} (ends : EndsNumber c)
    (fits : (natText n).length ≤ maxStrDigits) :
    scanMagnitude readFloat negative (natText n ++ c :: rest) =
      .ok (.int (signed negative n), c :: rest) := by
  have some : (natText n).isEmpty = false := by
    simpa using natText_ne_nil
  have short : ¬ maxStrDigits < (natText n).length := Nat.not_lt.mpr fits
  simp only [scanMagnitude, scanWhole_natText ends, some, scanFraction_none ends,
    scanExponent_none ends, digitsValue_natText, if_neg short]
  rfl

theorem scanNumber_intText {value : Int} (ends : EndsNumber c)
    (fits : (Scalar.number value).Fits) :
    scanNumber readFloat (intText value ++ c :: rest) = .ok (.int value, c :: rest) := by
  cases value with
  | ofNat n =>
      have magnitude := @scanMagnitude_natText n c rest readFloat false ends fits
      rcases List.exists_cons_of_ne_nil (@natText_ne_nil n) with ⟨first, more, same⟩
      have digit : first ≠ code '-' := by
        rintro rfl
        have known : isAsciiDigit (code '-') = true := by
          apply @isAsciiDigit_of_mem_natText n
          rw [same]
          exact List.mem_cons_self
        exact absurd known (by decide)
      rw [same] at magnitude
      rw [intText, same]
      simp only [List.cons_append, scanNumber, if_neg digit]
      exact magnitude
  | negSucc n =>
      have magnitude := @scanMagnitude_natText (n + 1) c rest readFloat true ends fits
      simp only [intText, List.cons_append, scanNumber, if_true, magnitude, signed]
      rfl

end Numbers

/-! ## Reading members -/

/-- What follows the first member of an object -/
def restText : List (Str × Scalar) → Str
  | [] => [code '\x7d']
  | member :: rest => code ',' :: (memberText member ++ restText rest)

/-- The `dict` of the members -/
def objectFields (fields : List (Str × Json)) (members : List (Str × Scalar)) :
    List (Str × Json) :=
  members.foldl (fun fields member => setField member.1 member.2.json fields) fields

section Members

variable {c : CodePoint} {rest : Str} {readFloat : Str → PyFloat} {value : Scalar}
  {member : Str × Scalar} {members : List (Str × Scalar)} {fields : List (Str × Json)}
  {fuel depth : Nat}

theorem objectText_cons :
    objectText (member :: members) = code '\x7b' :: (memberText member ++ restText members) := by
  have glue : ("," : Str) = [code ','] := rfl
  have joined : ∀ member, join "," ((member :: members).map memberText) ++ [code '\x7d'] =
      memberText member ++ restText members := by
    induction members with
    | nil => exact fun member => rfl
    | cons next more ih =>
        intro member
        have later := ih next
        simp only [List.map_cons, join, List.append_assoc, restText, glue] at later ⊢
        rw [later]
        rfl
  rw [objectText, joined]

theorem memberText_append {tail : Str} : memberText member ++ tail =
    code '"' :: (escaped member.1 ++ code '"' :: code ':' :: (member.2.dumps ++ tail)) := by
  rw [memberText, quoted_eq]
  simp

theorem length_restText : members.length + 1 ≤ (restText members).length := by
  induction members with
  | nil => exact Nat.le_refl 1
  | cons next more ih =>
      simp only [restText, List.length_cons, List.length_append]
      omega

theorem skipSpace_cons (visible : isJsonSpace c = false) : skipSpace (c :: rest) = c :: rest := by
  simp [skipSpace, visible]

theorem expect_cons : expect c (c :: rest) = .ok rest := by
  simp [expect]

theorem endsNumber_comma : EndsNumber (code ',') := by
  refine ⟨?_, ?_, ?_, ?_⟩ <;> decide

theorem endsNumber_brace : EndsNumber (code '\x7d') := by
  refine ⟨?_, ?_, ?_, ?_⟩ <;> decide

/-- No word for a value starts with a digit, with or without a sign. -/
theorem keywords_letter : ∀ keyword ∈ keywords,
    (keyword.1.head?.any isAsciiDigit = false ∧ keyword.1.tail.head?.any isAsciiDigit = false) ∧
      keyword.1 ≠ [] ∧ keyword.1.tail ≠ [] := by
  decide

theorem head_of_isPrefixOf {word : Str} (front : word.isPrefixOf (c :: rest) = true)
    (some : word ≠ []) : ∃ more, word = c :: more ∧ more.isPrefixOf rest = true := by
  cases word with
  | nil => exact absurd rfl some
  | cons d more =>
      simp only [List.isPrefixOf, Bool.and_eq_true, beq_iff_eq] at front
      rcases front with ⟨rfl, behind⟩
      exact ⟨more, rfl, behind⟩

theorem scanKeyword_digit (digit : isAsciiDigit c = true) : scanKeyword (c :: rest) = none := by
  rw [scanKeyword, Option.map_eq_none_iff, List.find?_eq_none]
  rintro ⟨word, found⟩ member front
  have letter := keywords_letter _ member
  rcases head_of_isPrefixOf front letter.2.1 with ⟨more, rfl, _⟩
  simp [digit] at letter

theorem scanKeyword_minus (digit : isAsciiDigit c = true) :
    scanKeyword (code '-' :: c :: rest) = none := by
  rw [scanKeyword, Option.map_eq_none_iff, List.find?_eq_none]
  rintro ⟨word, found⟩ member front
  have letter := keywords_letter _ member
  rcases head_of_isPrefixOf front letter.2.1 with ⟨more, rfl, behind⟩
  rcases head_of_isPrefixOf behind letter.2.2 with ⟨last, rfl, _⟩
  simp [digit] at letter

theorem intText_cases (value : Int) : ∃ d more, isAsciiDigit d = true ∧
    (intText value = d :: more ∨ intText value = code '-' :: d :: more) := by
  have digits : ∀ n, ∃ d more, isAsciiDigit d = true ∧ natText n = d :: more := by
    intro n
    rcases List.exists_cons_of_ne_nil (@natText_ne_nil n) with ⟨first, more, same⟩
    refine ⟨first, more, ?_, same⟩
    apply @isAsciiDigit_of_mem_natText n
    rw [same]
    exact List.mem_cons_self
  cases value with
  | ofNat n =>
      rcases digits n with ⟨d, more, digit, same⟩
      exact ⟨d, more, digit, .inl same⟩
  | negSucc n =>
      rcases digits (n + 1) with ⟨d, more, digit, same⟩
      exact ⟨d, more, digit, .inr (by rw [intText, same])⟩

theorem ne_of_isAsciiDigit {d : CodePoint} (digit : isAsciiDigit c = true)
    (other : isAsciiDigit d = false) : c ≠ d := by
  rintro rfl
  rw [digit] at other
  cases other

/-- A value that starts with a digit or a minus sign, and is no word, is a number. -/
theorem scanValue_number {text : Str} {value : Int} (number : text = intText value ++ rest) :
    scanValue readFloat (fuel + 1) depth text = scanNumber readFloat text := by
  rcases intText_cases value with ⟨d, more, digit, same | same⟩
  · rw [number, same, List.cons_append, scanValue.eq_def]
    simp only [if_neg (ne_of_isAsciiDigit digit (by decide : isAsciiDigit (code '"') = false)),
      if_neg (ne_of_isAsciiDigit digit (by decide : isAsciiDigit (code '\x7b') = false)),
      if_neg (ne_of_isAsciiDigit digit (by decide : isAsciiDigit (code '[') = false)),
      scanKeyword_digit digit]
  · have quote : code '-' ≠ code '"' := by decide
    have brace : code '-' ≠ code '\x7b' := by decide
    have bracket : code '-' ≠ code '[' := by decide
    rw [number, same, List.cons_append, List.cons_append, scanValue.eq_def]
    simp only [if_neg quote, if_neg brace, if_neg bracket, scanKeyword_minus digit]

theorem scanValue_scalar (fits : value.Fits) (ends : EndsNumber c) :
    scanValue readFloat (fuel + 1) depth (value.dumps ++ c :: rest) =
      .ok (value.json, c :: rest) := by
  cases value with
  | text value =>
      have whole : (Scalar.text value).dumps ++ c :: rest =
          code '"' :: (escaped value ++ code '"' :: (c :: rest)) := by
        rw [Scalar.dumps, quoted_eq]
        simp
      rw [whole]
      simp only [scanValue, if_true, scanString_escaped]
      rfl
  | number value =>
      rw [Scalar.dumps, scanValue_number rfl]
      exact scanNumber_intText ends fits

theorem skipSpace_comma : skipSpace (code ',' :: rest) = code ',' :: rest :=
  skipSpace_cons (by decide)

theorem skipSpace_brace : skipSpace (code '\x7d' :: rest) = code '\x7d' :: rest :=
  skipSpace_cons (by decide)

theorem skipSpace_quote : skipSpace (code '"' :: rest) = code '"' :: rest :=
  skipSpace_cons (by decide)

theorem skipSpace_colon : skipSpace (code ':' :: rest) = code ':' :: rest :=
  skipSpace_cons (by decide)

/-- A value does not start with a blank. -/
theorem skipSpace_dumps : skipSpace (value.dumps ++ rest) = value.dumps ++ rest := by
  cases value with
  | text value =>
      rw [Scalar.dumps, quoted_eq]
      exact skipSpace_quote
  | number value =>
      rcases intText_cases value with ⟨d, more, digit, same | same⟩
      · have visible : isJsonSpace d = false := by
          rw [Bool.eq_false_iff]
          intro blank
          have found : d = 32 ∨ d = 9 ∨ d = 10 ∨ d = 13 := by
            simpa [isJsonSpace, or_assoc] using blank
          rcases found with rfl | rfl | rfl | rfl <;> exact absurd digit (by decide)
        rw [Scalar.dumps, same]
        exact skipSpace_cons visible
      · rw [Scalar.dumps, same]
        exact skipSpace_cons (by decide)

theorem scanMembers_last (fits : member.2.Fits) :
    scanMembers readFloat (fuel + 2) depth fields
        (escaped member.1 ++ code '"' :: code ':' :: (member.2.dumps ++ code '\x7d' :: rest)) =
      .ok (.obj (setField member.1 member.2.json fields), rest) := by
  rw [scanMembers, scanString_escaped]
  simp only [skipSpace_colon, expect_cons, skipSpace_dumps, bind, Except.bind,
    scanValue_scalar fits endsNumber_brace, skipSpace_brace, if_true]

theorem scanMembers_next (fits : member.2.Fits) :
    scanMembers readFloat (fuel + 2) depth fields (escaped member.1 ++ code '"' :: code ':' ::
        (member.2.dumps ++ code ',' :: code '"' :: rest)) =
      scanMembers readFloat (fuel + 1) depth (setField member.1 member.2.json fields) rest := by
  have brace : code ',' ≠ code '\x7d' := by decide
  rw [scanMembers, scanString_escaped]
  simp only [skipSpace_colon, expect_cons, skipSpace_dumps, bind, Except.bind,
    scanValue_scalar fits endsNumber_comma, skipSpace_comma, if_neg brace, if_true,
    skipSpace_quote]

theorem scanMembers_members (fits : ∀ entry ∈ member :: members, entry.2.Fits)
    (enough : members.length + 2 ≤ fuel) :
    scanMembers readFloat fuel depth fields
        (escaped member.1 ++ code '"' :: code ':' :: (member.2.dumps ++ restText members)) =
      .ok (.obj (objectFields fields (member :: members)), []) := by
  have first : member.2.Fits := fits member (by simp)
  induction members generalizing member fields fuel with
  | nil =>
      rcases Nat.exists_eq_add_of_le' enough with ⟨less, rfl⟩
      exact scanMembers_last first
  | cons next more ih =>
      rcases Nat.exists_eq_add_of_le' enough with ⟨less, rfl⟩
      have behind := @ih next (setField member.1 member.2.json fields) (less + more.length + 2)
        (fun entry inside => fits entry (List.mem_cons_of_mem _ inside)) (by omega)
        (fits next (by simp))
      rw [restText, memberText_append]
      have step := @scanMembers_next (escaped next.1 ++ code '"' :: code ':' ::
        (next.2.dumps ++ restText more)) readFloat member fields (less + more.length + 1) depth first
      exact step.trans behind

theorem scanValue_object :
    scanValue readFloat (fuel + 1) (depth + 1) (code '\x7b' :: code '"' :: rest) =
      scanMembers readFloat fuel depth [] rest := by
  have quote : code '\x7b' ≠ code '"' := by decide
  have brace : code '"' ≠ code '\x7d' := by decide
  rw [scanValue.eq_def]
  simp only [if_neg quote, if_true, skipSpace_quote, if_neg brace]

/-- What was written is read back. -/
theorem loads_objectText (fits : ∀ entry ∈ member :: members, entry.2.Fits) :
    loads readFloat (depth + 1) (objectText (member :: members)) =
      .ok (.obj (objectFields [] (member :: members))) := by
  have enough : members.length + 2 ≤ (objectText (member :: members)).length := by
    have some := @length_restText members
    rw [objectText_cons]
    simp only [List.length_cons, List.length_append]
    omega
  have brace : skipSpace (objectText (member :: members)) = objectText (member :: members) := by
    rw [objectText_cons]
    exact skipSpace_cons (by decide)
  have read : scanValue readFloat ((objectText (member :: members)).length + 1) (depth + 1)
      (objectText (member :: members)) =
        .ok (.obj (objectFields [] (member :: members)), []) := by
    have inside := @scanMembers_members readFloat member members [] _ depth fits enough
    generalize (objectText (member :: members)).length = fuel at inside ⊢
    rw [objectText_cons, memberText_append, scanValue_object]
    exact inside
  rw [loads, brace, read, objectText_cons]
  rfl

end Members

end Python

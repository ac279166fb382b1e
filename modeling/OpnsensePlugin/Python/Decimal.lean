import OpnsensePlugin.Python.FlatObject
import OpnsensePlugin.Python.Lines

/-!
# Decimal texts

`int` reads the text that `str` writes for a natural number.
-/

namespace Python

variable {text : Str} {n : Nat}

theorem bounds_of_isAsciiDigit {c : Nat} (digit : isAsciiDigit c = true) : 48 ≤ c ∧ c ≤ 57 := by
  simp only [isAsciiDigit, Bool.and_eq_true, decide_eq_true_eq] at digit
  exact digit

theorem decimalValue_of_isAsciiDigit {c : Nat} (digit : isAsciiDigit c = true) :
    decimalValue c = some (c - code '0') := by
  rcases bounds_of_isAsciiDigit digit with ⟨low, high⟩
  have last : c < 58 := by omega
  simp [decimalValue, decimalZeros, low, last, code]

theorem digitValue_of_isAsciiDigit {c : Nat} (digit : isAsciiDigit c = true) :
    digitValue 10 c = some (c - code '0') := by
  rcases bounds_of_isAsciiDigit digit with ⟨low, high⟩
  have lower : ¬ 97 ≤ c := by omega
  have upper : ¬ 65 ≤ c := by omega
  have small : c - 48 < 10 := by omega
  have value := decimalValue_of_isAsciiDigit digit
  simp only [code] at value
  simp [digitValue, code, lower, upper, value, small]

theorem isSpace_of_isAsciiDigit {c : Nat} (digit : isAsciiDigit c = true) : isSpace c = false := by
  rcases bounds_of_isAsciiDigit digit with ⟨low, high⟩
  simp only [isSpace]
  grind

theorem readDigits_of_all (digits : ∀ c ∈ text, isAsciiDigit c = true) (some : text ≠ []) :
    readDigits 10 text = Option.some (text.map fun c => c - code '0') := by
  induction text with
  | nil => exact absurd rfl some
  | cons c rest ih =>
      have value := digitValue_of_isAsciiDigit (digits c (by simp))
      have behind : ∀ d ∈ rest, isAsciiDigit d = true :=
        fun d member => digits d (List.mem_cons_of_mem c member)
      cases rest with
      | nil => simp [readDigits, value]
      | cons next rest =>
          have plain : next ≠ code '_' := by
            intro same
            have digit := behind next (by simp)
            rw [same] at digit
            exact absurd digit (by decide)
          simp [readDigits, value, plain, ih behind (by simp)]

theorem foldl_digits : ∀ start : Nat,
    (text.map fun c => c - code '0').foldl (fun acc d => acc * 10 + d) start =
      text.foldl (fun value c => 10 * value + (c - code '0')) start := by
  induction text with
  | nil => exact fun _ => rfl
  | cons c rest ih =>
      intro start
      rw [List.map_cons, List.foldl_cons, List.foldl_cons, ih, Nat.mul_comm]

/-- `int` reads ASCII digits, leading zeros included. -/
theorem parseInt_of_digits (digits : ∀ c ∈ text, isAsciiDigit c = true) (some : text ≠ [])
    (fits : text.length ≤ maxStrDigits) :
    parseInt 10 text = Option.some (digitsValue text : Int) := by
  have stripped : trimmed text = text :=
    trimmed_of_visible fun c inside => isSpace_of_isAsciiDigit (digits c inside)
  have read := readDigits_of_all digits some
  rcases List.exists_cons_of_ne_nil some with ⟨first, rest, rfl⟩
  have digit := digits first (by simp)
  have minus : first ≠ code '-' := by
    rintro rfl
    exact absurd digit (by decide)
  have plus : first ≠ code '+' := by
    rintro rfl
    exact absurd digit (by decide)
  have literal : readLiteral 10 (first :: rest) =
      Option.some ((first :: rest).map fun c => c - code '0') := by
    simp [readLiteral, read]
  unfold parseInt
  rw [stripped]
  simp only [minus, plus, if_false, literal]
  rw [foldl_digits]
  simpa [digitsValue] using fits

/-! ## Integer literals -/

/-- ASCII digits behind at most one sign -/
def IsIntegerLiteral (text : Str) : Prop :=
  ∃ digits, (text = digits ∨ text = code '-' :: digits) ∧ digits ≠ [] ∧
    ∀ c ∈ digits, isAsciiDigit c = true

/-- The integer that a literal is written for -/
def literalValue : Str → Int
  | [] => 0
  | first :: rest =>
      if first = code '-' then -(digitsValue rest : Int) else digitsValue (first :: rest)

/-- `int` reads a literal as what it is written for, if it reads it at all. -/
theorem parseInt_literal {number : Int} (literal : IsIntegerLiteral text)
    (read : parseInt 10 text = Option.some number) : number = literalValue text := by
  rcases literal with ⟨digits, shape, some, proper⟩
  have visible : ∀ c ∈ text, isSpace c = false := by
    intro c member
    rcases shape with rfl | rfl
    · exact isSpace_of_isAsciiDigit (proper c member)
    · rcases List.mem_cons.mp member with rfl | member
      · rfl
      · exact isSpace_of_isAsciiDigit (proper c member)
  have known := readDigits_of_all proper some
  rcases List.exists_cons_of_ne_nil some with ⟨first, rest, rfl⟩
  have digit := proper first (by simp)
  have minus : first ≠ code '-' := by
    rintro rfl
    exact absurd digit (by decide)
  have plus : first ≠ code '+' := by
    rintro rfl
    exact absurd digit (by decide)
  have found : readLiteral 10 (first :: rest) =
      Option.some ((first :: rest).map fun c => c - code '0') := by
    simp [readLiteral, known]
  have value := @foldl_digits (first :: rest) 0
  unfold parseInt at read
  rw [trimmed_of_visible visible] at read
  rcases shape with rfl | rfl
  · simp only [minus, plus, if_false, found, value] at read
    split at read
    · cases read
    · cases read
      simp [literalValue, minus, digitsValue]
  · simp only [if_true, found, value] at read
    split at read
    · cases read
    · cases read
      simp [literalValue, digitsValue]

theorem parseInt_natText (fits : (natText n).length ≤ maxStrDigits) :
    parseInt 10 (natText n) = some (n : Int) := by
  have digits : ∀ c ∈ natText n, isAsciiDigit c = true := fun c => isAsciiDigit_of_mem_natText
  rw [parseInt_of_digits digits natText_ne_nil fits, digitsValue_natText]

theorem isDigit_natText : isDigit (natText n) = true := by
  have all : ∀ c ∈ natText n, isDigitChar c = true := by
    intro c inside
    simp [isDigitChar, decimalValue_of_isAsciiDigit (isAsciiDigit_of_mem_natText inside)]
  simpa [isDigit, natText_ne_nil] using all

/-! ## Digits of any script -/

theorem decimalValue_eq_some {c d : Nat} (value : decimalValue c = some d) :
    ∃ first ∈ decimalZeros, c = first + d ∧ d < 10 := by
  rcases Option.map_eq_some_iff.mp value with ⟨first, found, rfl⟩
  have range := List.find?_some found
  simp only [Bool.and_eq_true, decide_eq_true_eq] at range
  exact ⟨first, List.mem_of_find?_eq_some found, (Nat.add_sub_of_le range.1).symm,
    Nat.sub_lt_left_of_lt_add range.1 range.2⟩

/-- No decimal digit is a space, a sign, an underscore or a letter. -/
theorem decimal_digits : ∀ first ∈ decimalZeros, ∀ d < 10,
    isSpace (first + d) = false ∧ first + d ≠ code '-' ∧ first + d ≠ code '+' ∧
      first + d ≠ code '_' ∧ isAsciiAlpha (first + d) = false := by
  decide +kernel

theorem digitValue_of_decimal {c d : Nat} (value : decimalValue c = some d) :
    digitValue 10 c = some d := by
  rcases decimalValue_eq_some value with ⟨first, listed, same, small⟩
  have letter := (decimal_digits first listed d small).2.2.2.2
  rw [← same] at letter
  simp only [isAsciiAlpha, Bool.or_eq_false_iff, Bool.and_eq_false_iff, decide_eq_false_iff_not]
    at letter
  have lower : ¬ (code 'a' ≤ c ∧ c ≤ code 'f') := by
    have limit : code 'f' ≤ code 'z' := by decide
    rintro ⟨low, high⟩
    rcases letter.1 with apart | apart
    · exact apart low
    · exact apart (Nat.le_trans high limit)
  have upper : ¬ (code 'A' ≤ c ∧ c ≤ code 'F') := by
    have limit : code 'F' ≤ code 'Z' := by decide
    rintro ⟨low, high⟩
    rcases letter.2 with apart | apart
    · exact apart low
    · exact apart (Nat.le_trans high limit)
  simp only [digitValue, Bool.and_eq_true, decide_eq_true_eq, lower, upper, if_false, value]
  simp [small]

theorem readDigits_of_decimal (decimal : ∀ c ∈ text, (decimalValue c).isSome = true)
    (some : text ≠ []) : ∃ digits, readDigits 10 text = Option.some digits ∧
      digits.length = text.length := by
  induction text with
  | nil => exact absurd rfl some
  | cons c rest ih =>
      rcases Option.isSome_iff_exists.mp (decimal c (by simp)) with ⟨d, value⟩
      have read := digitValue_of_decimal value
      have behind : ∀ c ∈ rest, (decimalValue c).isSome = true :=
        fun c member => decimal c (List.mem_cons_of_mem _ member)
      cases rest with
      | nil => exact ⟨[d], by simp [readDigits, read], rfl⟩
      | cons next rest =>
          rcases Option.isSome_iff_exists.mp (behind next (by simp)) with ⟨e, other⟩
          rcases decimalValue_eq_some other with ⟨first, listed, same, small⟩
          have plain := (decimal_digits first listed e small).2.2.2.1
          rw [← same] at plain
          rcases ih behind (by simp) with ⟨digits, found, long⟩
          exact ⟨d :: digits, by simp [readDigits, read, plain, found], by simp [long]⟩

/-- `int` reads every text of decimal digits that is not too long. -/
theorem parseInt_of_decimal (decimal : isDecimal text = true) :
    (parseInt 10 text).isSome = true ↔ text.length ≤ maxStrDigits := by
  simp only [isDecimal, Bool.and_eq_true, Bool.not_eq_true', List.isEmpty_eq_false_iff,
    List.all_eq_true] at decimal
  rcases decimal with ⟨some, decimal⟩
  have plain : ∀ c ∈ text, isSpace c = false ∧ c ≠ code '-' ∧ c ≠ code '+' := by
    intro c member
    rcases Option.isSome_iff_exists.mp (decimal c member) with ⟨d, value⟩
    rcases decimalValue_eq_some value with ⟨first, listed, rfl, small⟩
    rcases decimal_digits first listed d small with ⟨visible, minus, plus, _⟩
    exact ⟨visible, minus, plus⟩
  have stripped : trimmed text = text := trimmed_of_visible fun c member => (plain c member).1
  rcases readDigits_of_decimal decimal some with ⟨digits, read, long⟩
  rcases List.exists_cons_of_ne_nil some with ⟨first, rest, rfl⟩
  rcases plain first (by simp) with ⟨_, minus, plus⟩
  have literal : readLiteral 10 (first :: rest) = Option.some digits := by
    simp [readLiteral, read]
  unfold parseInt
  rw [stripped]
  simp only [minus, plus, if_false, literal, long]
  split
  · rename_i beyond
    simp only [Bool.and_eq_true, decide_eq_true_eq] at beyond
    simpa using beyond.2
  · rename_i within
    simpa using within

end Python

import OpnsensePlugin.Python.Decimal

/-!
# The text exposition format

A scraper reads a text line by line: a line is a comment or a sample
`name{label="value",…} number`. Inside a label value the backslash, the quote
and the line feed are escaped. The format has one text for each list of lines,
so a text is read as given lines if and only if it is what writing them gives.
-/

namespace Exposition

open Python

structure Sample where
  name : Str
  labels : List (Str × Str)
  value : Str
deriving DecidableEq

/-- A line of the format; a comment is what follows the `#`. -/
inductive Line
  | comment (text : Str)
  | sample (content : Sample)
deriving DecidableEq

/-! ## Writing -/

def escapeLabel (c : CodePoint) : Str :=
  if c = code '\\' then "\\\\"
  else if c = code '\n' then "\\n"
  else if c = code '"' then "\\\""
  else [c]

/-- What stands between the quotes of a label -/
def escaped (value : Str) : Str := value.flatMap escapeLabel

def labelText (label : Str × Str) : Str :=
  label.1 ++ ("=\"" : Str) ++ escaped label.2 ++ [code '"']

def labelsText (labels : List (Str × Str)) : Str := join [code ','] (labels.map labelText)

/-- The labels of a sample in braces, if it has any -/
def labelSetText (labels : List (Str × Str)) : Str :=
  if labels.isEmpty then [] else code '{' :: (labelsText labels ++ [code '}'])

def Sample.text (sample : Sample) : Str :=
  sample.name ++ labelSetText sample.labels ++ [code ' '] ++ sample.value

def Line.text : Line → Str
  | .comment text => code '#' :: text
  | .sample content => content.text

def exposition (lines : List Line) : Str := linesText (lines.map Line.text)

/-! ## Reading -/

def isLabelLetter (c : CodePoint) : Bool := isAsciiAlpha c || c = code '_'

def isMetricLetter (c : CodePoint) : Bool := isLabelLetter c || c = code ':'

/-- What may stand behind the first character of a name -/
def isNameChar (isLetter : CodePoint → Bool) (c : CodePoint) : Bool := isLetter c || isAsciiDigit c

def isName (isLetter : CodePoint → Bool) : Str → Bool
  | [] => false
  | first :: rest => isLetter first && rest.all (isNameChar isLetter)

/-- A name and what follows it -/
def readName (isLetter : CodePoint → Bool) : Str → Option (Str × Str)
  | [] => none
  | first :: rest =>
      if isLetter first then
        some (first :: rest.takeWhile (isNameChar isLetter), rest.dropWhile (isNameChar isLetter))
      else none

/-- The character that an escape stands for -/
def unescapedLabel (c : CodePoint) : Option CodePoint :=
  if c = code '\\' || c = code '"' then some c else if c = code 'n' then some (code '\n') else none

/-- The value of a label, up to the closing quote, and what follows it -/
def readValue : Str → Option (Str × Str)
  | [] => none
  | c :: rest =>
      if c = code '"' then some ([], rest)
      else if c = code '\n' then none
      else if c = code '\\' then
        match rest with
        | [] => none
        | e :: more => do
            let plain ← unescapedLabel e
            (readValue more).map (prepend plain)
      else (readValue rest).map (prepend c)

/-- A label and what follows it -/
def readLabel (text : Str) : Option ((Str × Str) × Str) := do
  let (name, text) ← readName isLabelLetter text
  let text ← ("=\"" : Str).isPrefixOf? text
  let (value, rest) ← readValue text
  return ((name, value), rest)

/-- The labels behind an opening brace, one for each unit of fuel at most, and what follows them -/
def readLabels : Nat → Str → Option (List (Str × Str) × Str)
  | 0, _ => none
  | fuel + 1, text => do
      match ← readLabel text with
      | (_, []) => none
      | (label, c :: rest) =>
          if c = code '}' then return ([label], rest)
          else if c = code ',' then do
            let (labels, rest) ← readLabels fuel rest
            return (label :: labels, rest)
          else none

/-- The labels of a sample, if it has any -/
def readLabelSet : Str → Option (List (Str × Str) × Str)
  | [] => some ([], [])
  | c :: rest => if c = code '{' then readLabels rest.length rest else some ([], c :: rest)

/-- Digits, with a fraction and an exponent if they are there -/
def isDecimalNumber (text : Str) : Bool :=
  let (whole, rest) := digitsOf text
  !whole.isEmpty && (scanExponent (scanFraction rest).2).2.isEmpty

/-- A number, as `strconv.ParseFloat` reads it -/
def isNumber (text : Str) : Bool :=
  let magnitude := if text.head? = some (code '-') then text.tail else text
  magnitude = "nan" || magnitude = "inf" || isDecimalNumber magnitude

def readSample (text : Str) : Option Sample := do
  let (name, text) ← readName isMetricLetter text
  let (labels, text) ← readLabelSet text
  let value ← [code ' '].isPrefixOf? text
  if isNumber value then return ⟨name, labels, value⟩ else none

def readLine : Str → Option Line
  | [] => none
  | c :: rest => if c = code '#' then some (.comment rest) else (readSample (c :: rest)).map .sample

/-- The lines of a text that ends with a line feed -/
def read (text : Str) : Option (List Line) :=
  let parts := splitOn (code '\n') text
  if parts.getLastD [] = [] then parts.dropLast.mapM readLine else none

example : read "# TYPE up gauge\nup\x7bhost=\"a\\\\b\\\"\",if=\"\"\x7d 1\n" = some
    [.comment " TYPE up gauge", .sample ⟨"up", [("host", "a\\b\""), ("if", "")], "1"⟩] := by
  decide +kernel

/-! ## Names -/

section Names

variable {isLetter : CodePoint → Bool} {text name rest : Str}

theorem readName_eq_some_iff :
    readName isLetter text = some (name, rest) ↔
      text = name ++ rest ∧ isName isLetter name = true ∧
        ∀ c, rest.head? = some c → isNameChar isLetter c = false := by
  cases text with
  | nil =>
      constructor
      · intro none
        cases none
      · rintro ⟨same, named, _⟩
        rw [eq_comm, List.append_eq_nil_iff] at same
        rw [same.1] at named
        cases named
  | cons first more =>
      constructor
      · intro read
        rw [readName] at read
        split at read
        · rename_i letter
          simp only [Option.some.injEq, Prod.mk.injEq] at read
          rcases read with ⟨rfl, rfl⟩
          refine ⟨by simp, ?_, ?_⟩
          · simp only [isName, letter, Bool.true_and, List.all_eq_true]
            intro c inside
            exact List.mem_takeWhile_imp inside
          · intro c found
            have stops := @List.head?_dropWhile_not _ (isNameChar isLetter) more
            rw [found] at stops
            simpa using stops
        · cases read
      · rintro ⟨same, named, stops⟩
        cases name with
        | nil => cases named
        | cons letter others =>
            rw [List.cons_append] at same
            rcases List.cons.inj same with ⟨rfl, rfl⟩
            simp only [isName, Bool.and_eq_true, List.all_eq_true] at named
            have kept : rest.takeWhile (isNameChar isLetter) = [] ∧
                rest.dropWhile (isNameChar isLetter) = rest := by
              cases rest with
              | nil => exact ⟨rfl, rfl⟩
              | cons c behind => simp [stops c rfl]
            rw [readName, if_pos named.1, List.takeWhile_append_of_pos named.2,
              List.dropWhile_append_of_pos named.2, kept.1, kept.2, List.append_nil]

end Names

/-! ## Label values -/

section Values

variable {c e : CodePoint} {text value rest : Str}

/-- How a character of a value is written: as itself, or with a letter after a backslash. -/
theorem escapeLabel_cases (c : CodePoint) :
    (escapeLabel c = [c] ∧ c ≠ code '"' ∧ c ≠ code '\n' ∧ c ≠ code '\\') ∨
      ∃ e, escapeLabel c = [code '\\', e] ∧ unescapedLabel e = some c := by
  by_cases slash : c = code '\\'
  · subst slash
    exact .inr ⟨code '\\', by decide⟩
  by_cases feed : c = code '\n'
  · subst feed
    exact .inr ⟨code 'n', by decide⟩
  by_cases quote : c = code '"'
  · subst quote
    exact .inr ⟨code '"', by decide⟩
  · exact .inl ⟨by simp [escapeLabel, slash, feed, quote], quote, feed, slash⟩

theorem escapeLabel_of_unescaped (read : unescapedLabel e = some c) :
    escapeLabel c = [code '\\', e] := by
  unfold unescapedLabel at read
  split at read
  · rename_i kept
    cases read
    rw [Bool.or_eq_true, decide_eq_true_eq, decide_eq_true_eq] at kept
    rcases kept with rfl | rfl <;> rfl
  · split at read
    · rename_i letter
      cases read
      rw [letter]
      rfl
    · cases read

theorem readValue_escaped : readValue (escaped value ++ code '"' :: rest) = some (value, rest) := by
  have slash : code '\\' ≠ code '"' ∧ code '\\' ≠ code '\n' := by decide
  induction value with
  | nil =>
      rw [readValue.eq_def]
      rfl
  | cons c value ih =>
      have later : escaped (c :: value) = escapeLabel c ++ escaped value := rfl
      rw [later, List.append_assoc]
      rcases escapeLabel_cases c with ⟨written, quote, feed, other⟩ | ⟨e, written, read⟩
      · rw [written, List.singleton_append, readValue.eq_def]
        simp [quote, feed, other, ih, prepend]
      · rw [written, List.cons_append, List.singleton_append, readValue.eq_def]
        simp [slash.1, slash.2, read, ih, prepend]

theorem readValue_eq_some_iff :
    readValue text = some (value, rest) ↔ text = escaped value ++ code '"' :: rest := by
  constructor
  · intro read
    fun_induction readValue text generalizing value with
    | case1 => cases read
    | case2 => cases read; rfl
    | case3 => cases read
    | case4 => cases read
    | case5 quote feed e more ih =>
        simp only [Option.bind_eq_bind, Option.bind_eq_some_iff, Option.map_eq_some_iff] at read
        rcases read with ⟨plain, unescaped, ⟨later, behind⟩, found, same⟩
        cases same
        rw [ih found]
        simp [escaped, escapeLabel_of_unescaped unescaped]
    | case6 c tail quote feed other ih =>
        rw [Option.map_eq_some_iff] at read
        rcases read with ⟨⟨later, behind⟩, found, same⟩
        cases same
        rw [ih found]
        simp [escaped, escapeLabel, quote, feed, other]
  · rintro rfl
    exact readValue_escaped

end Values

/-! ## Labels -/

section Labels

variable {label : Str × Str} {labels : List (Str × Str)} {text rest : Str} {fuel : Nat}

theorem readLabel_eq_some_iff :
    readLabel text = some (label, rest) ↔
      text = labelText label ++ rest ∧ isName isLabelLetter label.1 = true := by
  have stops : isNameChar isLabelLetter (code '=') = false := by decide
  simp only [readLabel, Option.bind_eq_bind, Option.bind_eq_some_iff, readName_eq_some_iff,
    List.isPrefixOf?_eq_some_iff_append_eq, readValue_eq_some_iff, Option.pure_def,
    Option.some.injEq, Prod.mk.injEq, Prod.exists]
  constructor
  · rintro ⟨name, behind, ⟨rfl, named, _⟩, opened, rfl, value, last, rfl, rfl, rfl⟩
    exact ⟨by simp [labelText], named⟩
  · rintro ⟨rfl, named⟩
    refine ⟨label.1, ("=\"" : Str) ++ (escaped label.2 ++ code '"' :: rest),
      ⟨by simp [labelText], named, ?_⟩, escaped label.2 ++ code '"' :: rest, rfl, label.2, rest,
      rfl, rfl, rfl⟩
    intro c found
    cases found
    exact stops

theorem labelsText_cons (more : labels ≠ []) :
    labelsText (label :: labels) = labelText label ++ code ',' :: labelsText labels := by
  cases labels with
  | nil => exact absurd rfl more
  | cons next others => simp [labelsText, join]

theorem readLabels_eq_some_iff :
    readLabels fuel text = some (labels, rest) ↔
      text = labelsText labels ++ code '}' :: rest ∧ labels ≠ [] ∧
        (∀ label ∈ labels, isName isLabelLetter label.1 = true) ∧ labels.length ≤ fuel := by
  have other : code ',' ≠ code '}' := by decide
  induction fuel generalizing text labels rest with
  | zero =>
      constructor
      · intro none
        cases none
      · rintro ⟨_, some, _, short⟩
        exact absurd (List.length_eq_zero_iff.mp (Nat.le_zero.mp short)) some
  | succ fuel ih =>
      rw [readLabels]
      constructor
      · intro read
        rw [Option.bind_eq_bind, Option.bind_eq_some_iff] at read
        rcases read with ⟨⟨label, behind⟩, found, read⟩
        rw [readLabel_eq_some_iff] at found
        rcases found with ⟨rfl, named⟩
        cases behind with
        | nil => cases read
        | cons c behind =>
            dsimp only at read
            split at read
            · rename_i closed
              cases read
              simp [labelsText, join, closed, named]
            · split at read
              · rename_i comma
                simp only [Option.bind_eq_bind, Option.bind_eq_some_iff, Prod.exists] at read
                rcases read with ⟨others, last, found, same⟩
                cases same
                rcases ih.mp found with ⟨rfl, some, valid, short⟩
                refine ⟨?_, by simp, ?_, Nat.succ_le_succ short⟩
                · simp [labelsText_cons some, comma]
                · intro entry member
                  rcases List.mem_cons.mp member with rfl | member
                  · exact named
                  · exact valid entry member
              · cases read
      · rintro ⟨rfl, some, valid, short⟩
        cases labels with
        | nil => exact absurd rfl some
        | cons label others =>
            have named := valid label (by simp)
            cases others with
            | nil =>
                have first : readLabel (labelsText [label] ++ code '}' :: rest) =
                    Option.some (label, code '}' :: rest) :=
                  readLabel_eq_some_iff.mpr ⟨rfl, named⟩
                simp [first]
            | cons next more =>
                have shorter : (next :: more).length ≤ fuel := Nat.le_of_succ_le_succ short
                have later : readLabels fuel (labelsText (next :: more) ++ code '}' :: rest) =
                    Option.some (next :: more, rest) :=
                  ih.mpr ⟨rfl, by simp,
                    fun label member => valid label (List.mem_cons_of_mem _ member), shorter⟩
                have first : readLabel (labelsText (label :: next :: more) ++ code '}' :: rest) =
                    Option.some (label, code ',' :: (labelsText (next :: more) ++ code '}' :: rest)) := by
                  rw [readLabel_eq_some_iff, labelsText_cons (by simp)]
                  exact ⟨by simp, named⟩
                simp [first, other, later]

theorem length_le_labelsText : labels.length ≤ (labelsText labels).length := by
  induction labels with
  | nil => exact Nat.zero_le _
  | cons label others ih =>
      cases others with
      | nil =>
          simp only [labelsText, join, labelText, List.map_cons, List.map_nil, List.length_cons,
            List.length_append, List.length_nil]
          omega
      | cons next more =>
          rw [labelsText_cons (by simp)]
          simp only [List.length_cons, List.length_append] at ih ⊢
          omega

/-- What stands behind a name: no label set, or the labels in braces. -/
theorem readLabelSet_eq_some_iff (plain : rest.head? ≠ some (code '{')) :
    readLabelSet text = some (labels, rest) ↔
      text = labelSetText labels ++ rest ∧
        ∀ label ∈ labels, isName isLabelLetter label.1 = true := by
  constructor
  · intro read
    cases text with
    | nil =>
        cases read
        simp [labelSetText]
    | cons c behind =>
        rw [readLabelSet] at read
        split at read
        · rename_i brace
          rcases readLabels_eq_some_iff.mp read with ⟨rfl, some, valid, _⟩
          exact ⟨by simp [labelSetText, some, brace], valid⟩
        · cases read
          simp [labelSetText]
  · rintro ⟨rfl, valid⟩
    cases labels with
    | nil =>
        cases rest with
        | nil => rfl
        | cons c behind =>
            have other : c ≠ code '{' := by simpa using plain
            simp [labelSetText, readLabelSet, other]
    | cons label others =>
        have fits := @length_le_labelsText (label :: others)
        simp only [labelSetText, List.isEmpty_cons, Bool.false_eq_true, if_false,
          List.cons_append, readLabelSet, if_true]
        rw [readLabels_eq_some_iff]
        refine ⟨by simp, by simp, valid, fits.trans ?_⟩
        simp

end Labels

/-! ## Numbers -/

section Numbers

variable {c : CodePoint} {text : Str} {n : Nat}

/-- What a number is made of -/
def isNumberChar (c : CodePoint) : Bool := isAsciiAlnum c || c = code '.' || c = code '+' || c = code '-'

theorem isNumberChar_of_isAsciiDigit (digit : isAsciiDigit c = true) : isNumberChar c = true := by
  simp [isNumberChar, isAsciiAlnum, digit]

theorem mem_digitsOf (inside : c ∈ text) : isNumberChar c = true ∨ c ∈ (digitsOf text).2 := by
  rw [← @List.takeWhile_append_dropWhile _ isAsciiDigit text] at inside
  rcases List.mem_append.mp inside with digit | behind
  · exact .inl (isNumberChar_of_isAsciiDigit (List.mem_takeWhile_imp digit))
  · exact .inr behind

theorem mem_scanFraction (inside : c ∈ text) :
    isNumberChar c = true ∨ c ∈ (scanFraction text).2 := by
  unfold scanFraction
  split
  · rename_i dot d rest
    split
    · rename_i found
      rw [Bool.and_eq_true, decide_eq_true_eq] at found
      rcases List.mem_cons.mp inside with rfl | inside
      · rw [found.1]
        exact .inl (by decide)
      · exact mem_digitsOf inside
    · exact .inr inside
  · exact .inr inside

theorem mem_scanExponent (inside : c ∈ text) :
    isNumberChar c = true ∨ c ∈ (scanExponent text).2 := by
  have letters : isNumberChar (code 'e') = true ∧ isNumberChar (code 'E') = true ∧
      isNumberChar (code '+') = true ∧ isNumberChar (code '-') = true := by decide
  unfold scanExponent
  split
  · rename_i e next rest
    split
    · rename_i marked
      rw [Bool.or_eq_true, decide_eq_true_eq, decide_eq_true_eq] at marked
      have first : isNumberChar e = true := by
        rcases marked with rfl | rfl
        · exact letters.1
        · exact letters.2.1
      split
      · rcases List.mem_cons.mp inside with rfl | inside
        · exact .inl first
        · exact mem_digitsOf inside
      · split
        · rename_i signed
          simp only [Bool.and_eq_true, Bool.or_eq_true, decide_eq_true_eq] at signed
          rcases List.mem_cons.mp inside with rfl | inside
          · exact .inl first
          · rcases List.mem_cons.mp inside with rfl | inside
            · rcases signed.1 with rfl | rfl
              · exact .inl letters.2.2.1
              · exact .inl letters.2.2.2
            · exact mem_digitsOf inside
        · exact .inr inside
    · exact .inr inside
  · exact .inr inside

theorem isNumberChar_of_isDecimalNumber (number : isDecimalNumber text = true) (inside : c ∈ text) :
    isNumberChar c = true := by
  simp only [isDecimalNumber, Bool.and_eq_true, List.isEmpty_iff] at number
  rcases mem_digitsOf inside with found | inside
  · exact found
  · rcases mem_scanFraction inside with found | inside
    · exact found
    · rcases mem_scanExponent inside with found | inside
      · exact found
      · rw [number.2] at inside
        cases inside

theorem isNumberChar_of_isNumber (number : isNumber text = true) (inside : c ∈ text) :
    isNumberChar c = true := by
  have magnitude : ∀ text : Str,
      (decide (text = "nan") || decide (text = "inf") || isDecimalNumber text) = true →
        ∀ c ∈ text, isNumberChar c = true := by
    intro text number c inside
    simp only [Bool.or_eq_true, decide_eq_true_eq] at number
    rcases number with (rfl | rfl) | number
    · have all : ∀ c ∈ ("nan" : Str), isNumberChar c = true := by decide
      exact all c inside
    · have all : ∀ c ∈ ("inf" : Str), isNumberChar c = true := by decide
      exact all c inside
    · exact isNumberChar_of_isDecimalNumber number inside
  rw [isNumber] at number
  split at number
  · rename_i minus
    cases text with
    | nil => cases minus
    | cons sign rest =>
        cases minus
        rcases List.mem_cons.mp inside with rfl | inside
        · decide
        · exact magnitude rest number c inside
  · exact magnitude text number c inside

theorem isDecimalNumber_natText : isDecimalNumber (natText n) = true := by
  have digits : ∀ c ∈ natText n, isAsciiDigit c = true := fun c => isAsciiDigit_of_mem_natText
  have whole : digitsOf (natText n) = (natText n, []) := by
    rw [digitsOf, List.takeWhile_eq_self_iff.mpr digits, List.dropWhile_eq_nil_iff.mpr digits]
  have some : (natText n).isEmpty = false := by simpa using natText_ne_nil
  simp [isDecimalNumber, whole, some, scanFraction, scanExponent]

theorem natText_head_ne : (natText n).head? ≠ some (code '-') := by
  intro minus
  have digit := @isAsciiDigit_of_mem_natText n (code '-') (List.mem_of_head? minus)
  exact absurd digit (by decide)

theorem isNumber_natText : isNumber (natText n) = true := by
  rw [isNumber, if_neg natText_head_ne]
  simp [isDecimalNumber_natText]

theorem isNumber_intText {value : Int} : isNumber (intText value) = true := by
  cases value with
  | ofNat n => exact isNumber_natText
  | negSucc n => simp [intText, isNumber, isDecimalNumber_natText]

end Numbers

/-! ## Lines -/

structure Sample.IsValid (sample : Sample) : Prop where
  name : isName isMetricLetter sample.name = true
  labels : ∀ label ∈ sample.labels, isName isLabelLetter label.1 = true
  value : isNumber sample.value = true

/-- What a line of the format can hold: a comment is anything but a line feed. -/
def Line.IsValid : Line → Prop
  | .comment text => code '\n' ∉ text
  | .sample content => content.IsValid

section Lines

variable {sample : Sample} {line : Line} {lines : List Line} {parts : List Str} {text name : Str}
  {isLetter : CodePoint → Bool} {c : CodePoint}

theorem readSample_eq_some_iff :
    readSample text = some sample ↔ text = sample.text ∧ sample.IsValid := by
  have plain : ∀ rest : Str, (code ' ' :: rest).head? ≠ some (code '{') := by
    intro rest same
    exact absurd (Option.some.inj same) (by decide)
  constructor
  · intro read
    simp only [readSample, Option.bind_eq_bind, Option.bind_eq_some_iff,
      List.isPrefixOf?_eq_some_iff_append_eq, Prod.exists] at read
    rcases read with ⟨name, behind, found, labels, last, set, value, rfl, read⟩
    split at read
    · rename_i number
      cases read
      rcases readName_eq_some_iff.mp found with ⟨rfl, named, _⟩
      rcases (readLabelSet_eq_some_iff (plain value)).mp set with ⟨rfl, valid⟩
      exact ⟨by simp [Sample.text], named, valid, number⟩
    · cases read
  · rintro ⟨rfl, valid⟩
    rcases sample with ⟨name, labels, value⟩
    have stops : ∀ c, (labelSetText labels ++ code ' ' :: value).head? = some c →
        isNameChar isMetricLetter c = false := by
      intro c found
      have ends : isNameChar isMetricLetter (code ' ') = false ∧
          isNameChar isMetricLetter (code '{') = false := by decide
      cases labels with
      | nil =>
          cases found
          exact ends.1
      | cons label others =>
          cases found
          exact ends.2
    have head : readName isMetricLetter (name ++ (labelSetText labels ++ code ' ' :: value)) =
        some (name, labelSetText labels ++ code ' ' :: value) :=
      readName_eq_some_iff.mpr ⟨rfl, valid.name, stops⟩
    have set : readLabelSet (labelSetText labels ++ code ' ' :: value) =
        some (labels, code ' ' :: value) :=
      (readLabelSet_eq_some_iff (plain value)).mpr ⟨rfl, valid.labels⟩
    have whole : Sample.text ⟨name, labels, value⟩ =
        name ++ (labelSetText labels ++ code ' ' :: value) := by
      simp [Sample.text]
    rw [whole, readSample]
    simp [head, set, List.isPrefixOf?, valid.value]

theorem head_of_isName (named : isName isLetter name = true) :
    ∃ first rest, name = first :: rest ∧ isLetter first = true := by
  cases name with
  | nil => cases named
  | cons first rest =>
      rw [isName, Bool.and_eq_true] at named
      exact ⟨first, rest, rfl, named.1⟩

theorem isNameChar_of_isName (named : isName isLetter name = true) (inside : c ∈ name) :
    isNameChar isLetter c = true := by
  cases name with
  | nil => cases inside
  | cons first rest =>
      simp only [isName, Bool.and_eq_true, List.all_eq_true] at named
      rcases List.mem_cons.mp inside with rfl | inside
      · simp [isNameChar, named.1]
      · exact named.2 c inside

/-- A line that holds no line feed -/
theorem readLine_eq_some_iff (single : code '\n' ∉ text) :
    readLine text = some line ↔ text = line.text ∧ line.IsValid := by
  cases text with
  | nil =>
      constructor
      · intro none
        cases none
      · rintro ⟨same, valid⟩
        cases line with
        | comment text => cases same
        | sample content =>
            rcases head_of_isName valid.name with ⟨first, rest, named, _⟩
            simp [Line.text, Sample.text, named] at same
  | cons c rest =>
      rw [readLine]
      split
      · rename_i mark
        subst mark
        constructor
        · rintro ⟨⟩
          exact ⟨rfl, fun inside => single (List.mem_cons_of_mem _ inside)⟩
        · rintro ⟨same, valid⟩
          cases line with
          | comment text =>
              cases same
              rfl
          | sample content =>
              have letter : isMetricLetter (code '#') = false := by decide
              rcases head_of_isName valid.name with ⟨first, more, named, starts⟩
              have head : code '#' = first := by
                simp only [Line.text, Sample.text, named, List.cons_append] at same
                exact (List.cons.inj same).1
              rw [← head, letter] at starts
              cases starts
      · rename_i other
        rw [Option.map_eq_some_iff]
        constructor
        · rintro ⟨sample, found, rfl⟩
          exact readSample_eq_some_iff.mp found
        · rintro ⟨same, valid⟩
          cases line with
          | comment text =>
              cases same
              exact absurd rfl other
          | sample content =>
              exact ⟨content, readSample_eq_some_iff.mpr ⟨same, valid⟩, rfl⟩

theorem not_mem_escaped : code '\n' ∉ escaped text := by
  intro inside
  rcases List.mem_flatMap.mp inside with ⟨c, _, inside⟩
  rcases escapeLabel_cases c with ⟨written, _, feed, _⟩ | ⟨e, written, read⟩
  · rw [written, List.mem_singleton] at inside
    exact feed inside.symm
  · rw [written] at inside
    simp only [List.mem_cons, List.not_mem_nil, or_false] at inside
    rcases inside with same | same
    · exact absurd same (by decide)
    · have none : unescapedLabel (code '\n') = none := by decide
      rw [← same, none] at read
      cases read

theorem not_mem_of_isName (named : isName isLetter name = true)
    (other : isNameChar isLetter c = false) : c ∉ name := by
  intro inside
  rw [isNameChar_of_isName named inside] at other
  cases other

/-- A valid line is one line. -/
theorem not_mem_text (valid : line.IsValid) : code '\n' ∉ line.text := by
  have feed : isNameChar isMetricLetter (code '\n') = false ∧
      isNameChar isLabelLetter (code '\n') = false ∧ isNumberChar (code '\n') = false := by decide
  cases line with
  | comment text =>
      intro inside
      rcases List.mem_cons.mp inside with same | inside
      · exact absurd same (by decide)
      · exact valid inside
  | sample content =>
      have number : code '\n' ∉ content.value := by
        intro inside
        have char := isNumberChar_of_isNumber valid.value inside
        rw [feed.2.2] at char
        cases char
      have labels : code '\n' ∉ labelSetText content.labels := by
        intro inside
        rw [labelSetText] at inside
        split at inside
        · cases inside
        · have braces : code '\n' ≠ code '{' ∧ code '\n' ≠ code '}' := by decide
          simp only [List.mem_cons, List.mem_append, List.not_mem_nil, braces.1, braces.2, false_or,
            or_false, labelsText] at inside
          rcases mem_join inside with same | ⟨part, member, inside⟩
          · exact absurd same (by decide)
          · rcases List.mem_map.mp member with ⟨label, listed, rfl⟩
            have marks : code '\n' ∉ ("=\"" : Str) ∧ code '\n' ≠ code '"' := by decide
            simp only [labelText, List.mem_append, List.mem_singleton, marks.1, marks.2, or_false,
              not_mem_escaped] at inside
            exact not_mem_of_isName (valid.labels label listed) feed.2.1 inside
      have space : code '\n' ≠ code ' ' := by decide
      simp only [Line.text, Sample.text, List.mem_append, List.mem_singleton, number, labels,
        space, or_false]
      exact not_mem_of_isName valid.name feed.1

theorem mapM_readLine_eq_some_iff (single : ∀ part ∈ parts, code '\n' ∉ part) :
    parts.mapM readLine = some lines ↔
      parts = lines.map Line.text ∧ ∀ line ∈ lines, line.IsValid := by
  induction parts generalizing lines with
  | nil =>
      simp only [List.mapM_nil, Option.pure_def, Option.some.injEq]
      constructor
      · rintro rfl
        simp
      · rintro ⟨same, _⟩
        exact (List.map_eq_nil_iff.mp same.symm).symm
  | cons part parts ih =>
      simp only [List.mapM_cons, Option.bind_eq_bind, Option.bind_eq_some_iff, Option.pure_def,
        Option.some.injEq]
      constructor
      · rintro ⟨line, found, others, rest, rfl⟩
        rcases (readLine_eq_some_iff (single part (by simp))).mp found with ⟨rfl, valid⟩
        rcases (ih fun part member => single part (List.mem_cons_of_mem _ member)).mp rest with
          ⟨rfl, others⟩
        refine ⟨rfl, ?_⟩
        intro line member
        rcases List.mem_cons.mp member with rfl | member
        · exact valid
        · exact others line member
      · rintro ⟨same, valid⟩
        cases lines with
        | nil => cases same
        | cons line others =>
            rw [List.map_cons, List.cons.injEq] at same
            refine ⟨line, ?_, others, ?_, rfl⟩
            · exact (readLine_eq_some_iff (single part (by simp))).mpr ⟨same.1, valid line (by simp)⟩
            · exact (ih fun part member => single part (List.mem_cons_of_mem _ member)).mpr
                ⟨same.2, fun line member => valid line (List.mem_cons_of_mem _ member)⟩

/-- A text reads as given lines if and only if writing these lines gives the text. -/
theorem read_eq_some_iff :
    read text = some lines ↔ text = exposition lines ∧ ∀ line ∈ lines, line.IsValid := by
  constructor
  · intro found
    rw [read] at found
    split at found
    · rename_i ends
      have parts : splitOn (code '\n') text = (splitOn (code '\n') text).dropLast ++ [[]] := by
        have last := List.dropLast_append_getLast (@splitOn_ne_nil (code '\n') text)
        rw [List.getLastD_eq_getLast?, List.getLast?_eq_some_getLast splitOn_ne_nil,
          Option.getD_some] at ends
        rw [ends] at last
        exact last.symm
      have single : ∀ part ∈ (splitOn (code '\n') text).dropLast, code '\n' ∉ part :=
        fun part member => not_mem_of_mem_splitOn (List.dropLast_subset _ member)
      rcases (mapM_readLine_eq_some_iff single).mp found with ⟨same, valid⟩
      refine ⟨?_, valid⟩
      calc
        text = join [code '\n'] (splitOn (code '\n') text) := join_splitOn.symm
        _ = join [code '\n'] ((splitOn (code '\n') text).dropLast ++ [[]]) := congrArg _ parts
        _ = linesText (splitOn (code '\n') text).dropLast := linesText_eq_join.symm
        _ = exposition lines := congrArg _ same
    · cases found
  · rintro ⟨rfl, valid⟩
    have single : ∀ part ∈ lines.map Line.text, code '\n' ∉ part := by
      intro part member
      rcases List.mem_map.mp member with ⟨line, listed, rfl⟩
      exact not_mem_text (valid line listed)
    have parts : splitOn (code '\n') (exposition lines) = lines.map Line.text ++ [[]] :=
      splitOn_linesText single
    rw [read, parts, getLastD_nil, if_pos rfl, List.dropLast_concat]
    exact (mapM_readLine_eq_some_iff single).mpr ⟨rfl, valid⟩

end Lines

end Exposition

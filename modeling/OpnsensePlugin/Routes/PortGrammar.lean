import OpnsensePlugin.Python.Split
import OpnsensePlugin.Routes.FormValues

/-!
# The grammar of ports

What a port may look like, and which texts `_port` accepts: the texts of the
grammar that fit into a field, and numbers whose digits are of another script.
-/

namespace OpnsensePlugin

open Python

namespace FirewallForm

/-! ## The grammar -/

/-- ASCII digits that write a port number -/
structure IsPortNumber (text : Str) : Prop where
  written : text ≠ []
  digits : ∀ c ∈ text, isAsciiDigit c = true
  low : 1 ≤ digitsValue text
  high : digitsValue text ≤ 65535

/-- `[A-Za-z_][A-Za-z0-9_-]*` -/
inductive IsAliasText : Str → Prop
  | named {first : CodePoint} {rest : Str}
      (start : isAsciiAlpha first = true ∨ first = code '_')
      (others : ∀ c ∈ rest, isAsciiAlnum c = true ∨ c = code '_' ∨ c = code '-') :
      IsAliasText (first :: rest)

/-- The texts that stand for a port; `any` is not the name of an alias. -/
inductive PortGrammar (required allowRange : Bool) : Str → Prop
  | blank (optional : required = false) : PortGrammar required allowRange []
  | number {text : Str} (port : IsPortNumber text) : PortGrammar required allowRange text
  | range {low high : Str} {separator : CodePoint} (allowed : allowRange = true)
      (first : IsPortNumber low) (last : IsPortNumber high)
      (ascending : digitsValue low ≤ digitsValue high)
      (between : separator = code ':' ∨ separator = code '-') :
      PortGrammar required allowRange (low ++ separator :: high)
  | alias {text : Str} (identifier : IsAliasText text) (other : text.map asciiLower ≠ "any") :
      PortGrammar required allowRange text

/-- What a text stands for: `any` in any case is no port. -/
def portMeant (text : Str) : Str := if text.map asciiLower = "any" then [] else text

/-! ## Parts -/

section Parts

variable {text low high : Str} {separator c : CodePoint}

/-- `:` read as `-` -/
def dashed (c : CodePoint) : CodePoint := if c = code ':' then code '-' else c

theorem portParts_eq : portParts text = splitOn (code '-') (text.map dashed) := rfl

theorem map_dashed_of_plain (plain : code ':' ∉ text) : text.map dashed = text := by
  have same : ∀ c ∈ text, dashed c = c := by
    intro c inside
    have other : c ≠ code ':' := by
      rintro rfl
      exact plain inside
    rw [dashed, if_neg other]
  rw [List.map_congr_left same, List.map_id']

theorem map_dashed (clean : code '-' ∉ text.map dashed) : text.map dashed = text := by
  apply map_dashed_of_plain
  intro colon
  exact clean (List.mem_map.mpr ⟨code ':', colon, rfl⟩)

theorem map_dashed_of_digits (digits : ∀ c ∈ text, isAsciiDigit c = true) :
    code '-' ∉ text.map dashed ∧ text.map dashed = text := by
  have whole : text.map dashed = text := by
    apply map_dashed_of_plain
    intro colon
    exact absurd (digits _ colon) (by decide)
  refine ⟨?_, whole⟩
  rw [whole]
  intro dash
  exact absurd (digits _ dash) (by decide)

theorem portParts_number (digits : ∀ c ∈ text, isAsciiDigit c = true) :
    portParts text = [text] := by
  rcases map_dashed_of_digits digits with ⟨clean, whole⟩
  rw [portParts_eq, splitOn_of_not_mem clean, whole]

theorem portParts_range (first : ∀ c ∈ low, isAsciiDigit c = true)
    (last : ∀ c ∈ high, isAsciiDigit c = true)
    (between : separator = code ':' ∨ separator = code '-') :
    portParts (low ++ separator :: high) = [low, high] := by
  have dash : dashed separator = code '-' := by
    rcases between with rfl | rfl <;> rfl
  rcases map_dashed_of_digits first with ⟨cleanLow, wholeLow⟩
  rcases map_dashed_of_digits last with ⟨cleanHigh, wholeHigh⟩
  rw [portParts_eq, List.map_append, List.map_cons, dash, splitOn_append_cons,
    splitOn_of_not_mem cleanLow, splitOn_of_not_mem cleanHigh, wholeLow, wholeHigh]
  rfl

/-- One part is the whole text, two parts stand around a separator. -/
theorem portParts_cases (few : (portParts text).length ≤ 2) :
    portParts text = [text] ∨
      ∃ low separator high, text = low ++ separator :: high ∧
        (separator = code ':' ∨ separator = code '-') ∧ portParts text = [low, high] := by
  have clean : ∀ part ∈ portParts text, code '-' ∉ part :=
    fun part member => not_mem_of_mem_splitOn member
  have joined : join [code '-'] (portParts text) = text.map dashed := join_splitOn
  match parts : portParts text with
  | [] => exact absurd parts splitOn_ne_nil
  | [part] =>
      rw [parts] at joined clean
      have whole : part = text.map dashed := joined
      subst whole
      left
      rw [map_dashed (clean _ (by simp))]
  | [low, high] =>
      rw [parts] at joined clean
      have whole : text.map dashed = low ++ ([code '-'] ++ high) := by
        rw [← joined]
        simp [join]
      right
      rcases List.map_eq_append_iff.mp whole with ⟨front, behind, rfl, isLow, rest⟩
      rcases List.map_eq_cons_iff.mp rest with ⟨separator, back, rfl, dash, isHigh⟩
      subst isLow isHigh
      refine ⟨front, separator, back, rfl, ?_, ?_⟩
      · by_cases colon : separator = code ':'
        · exact .inl colon
        · rw [dashed, if_neg colon] at dash
          exact .inr dash
      · rw [map_dashed (clean _ (by simp)), map_dashed (clean _ (by simp))]
  | _ :: _ :: _ :: rest => simp [parts] at few

end Parts

/-! ## Numbers -/

section Numbers

variable {text low high key : Str} {separator c : CodePoint} {allowRange : Bool}

theorem isDecimal_of_digits (digits : ∀ c ∈ text, isAsciiDigit c = true) (some : text ≠ []) :
    isDecimal text = true := by
  have decimal : ∀ c ∈ text, (decimalValue c).isSome = true := by
    intro c inside
    rw [decimalValue_of_isAsciiDigit (digits c inside)]
    rfl
  simpa [isDecimal, some] using decimal

theorem toInt_digits (digits : ∀ c ∈ text, isAsciiDigit c = true) (some : text ≠ [])
    {number : Int} : ((Json.str text).toInt : Except Exn Int) = .ok number ↔
      text.length ≤ maxStrDigits ∧ number = digitsValue text := by
  by_cases fits : text.length ≤ maxStrDigits
  · simp [Json.toInt, parseInt_of_digits digits some fits, fits, eq_comm]
  · have refused : parseInt 10 text = none := by
      have read := parseInt_of_decimal (isDecimal_of_digits digits some)
      simpa using fun value => fits (read.mp value)
    simp [Json.toInt, refused, fits]

theorem isPortNumber_iff (digits : ∀ c ∈ text, isAsciiDigit c = true) (some : text ≠ []) :
    IsPortNumber text ↔ 1 ≤ digitsValue text ∧ digitsValue text ≤ 65535 :=
  ⟨fun port => ⟨port.low, port.high⟩, fun bounds => ⟨some, digits, bounds.1, bounds.2⟩⟩

theorem checkPort_number (digits : ∀ c ∈ text, isAsciiDigit c = true) (some : text ≠ []) :
    checkPort key text allowRange = .ok () ↔ text.length ≤ maxStrDigits ∧ IsPortNumber text := by
  have range : isPortRange text = true := by
    simp [isPortRange, portParts_number digits, isDecimal_of_digits digits some]
  have bounds : badPorts [(digitsValue text : Int)] allowRange = false ↔ IsPortNumber text := by
    rw [isPortNumber_iff digits some]
    simp [badPorts]
    omega
  simp only [checkPort, range, if_true, portParts_number digits, List.mapM_cons, List.mapM_nil,
    bind_eq_ok, raiseIf_eq_ok, pure_eq_ok, toInt_digits digits some]
  constructor
  · rintro ⟨_, ⟨_, ⟨fits, rfl⟩, _, rfl, rfl⟩, good⟩
    exact ⟨fits, bounds.mp good⟩
  · rintro ⟨fits, port⟩
    exact ⟨_, ⟨_, ⟨fits, rfl⟩, _, rfl, rfl⟩, bounds.mpr port⟩

theorem checkPort_range (first : ∀ c ∈ low, isAsciiDigit c = true) (low_some : low ≠ [])
    (last : ∀ c ∈ high, isAsciiDigit c = true) (high_some : high ≠ [])
    (between : separator = code ':' ∨ separator = code '-') :
    checkPort key (low ++ separator :: high) allowRange = .ok () ↔
      (low.length ≤ maxStrDigits ∧ high.length ≤ maxStrDigits) ∧ allowRange = true ∧
        IsPortNumber low ∧ IsPortNumber high ∧ digitsValue low ≤ digitsValue high := by
  have parts := portParts_range first last between
  have range : isPortRange (low ++ separator :: high) = true := by
    simp [isPortRange, parts, isDecimal_of_digits first low_some,
      isDecimal_of_digits last high_some]
  have bounds : badPorts [(digitsValue low : Int), (digitsValue high : Int)] allowRange = false ↔
      allowRange = true ∧ IsPortNumber low ∧ IsPortNumber high ∧
        digitsValue low ≤ digitsValue high := by
    rw [isPortNumber_iff first low_some, isPortNumber_iff last high_some]
    cases allowRange with
    | false => simp [badPorts]
    | true =>
        simp [badPorts]
        omega
  simp only [checkPort, range, if_true, parts, List.mapM_cons, List.mapM_nil,
    bind_eq_ok, raiseIf_eq_ok, pure_eq_ok, toInt_digits first low_some,
    toInt_digits last high_some]
  constructor
  · rintro ⟨_, ⟨_, ⟨lowFits, rfl⟩, _, ⟨_, ⟨highFits, rfl⟩, _, rfl, rfl⟩, rfl⟩, good⟩
    exact ⟨⟨lowFits, highFits⟩, bounds.mp good⟩
  · rintro ⟨⟨lowFits, highFits⟩, port⟩
    exact ⟨_, ⟨_, ⟨lowFits, rfl⟩, _, ⟨_, ⟨highFits, rfl⟩, _, rfl, rfl⟩, rfl⟩, bounds.mpr port⟩

end Numbers

/-! ## Aliases -/

section Aliases

variable {text key : Str} {first c : CodePoint} {rest : Str} {required allowRange : Bool}

theorem isPortAlias_iff : isPortAlias text = true ↔ IsAliasText text := by
  cases text with
  | nil =>
      refine ⟨fun absent => ?_, fun absent => ?_⟩
      · cases absent
      · cases absent
  | cons first rest =>
      constructor
      · intro isAlias
        simp only [isPortAlias, List.head?_cons, Option.any_some, List.all_cons, Bool.and_eq_true,
          Bool.or_eq_true, decide_eq_true_eq, List.all_eq_true, or_assoc] at isAlias
        exact .named isAlias.1 isAlias.2.2
      · intro identifier
        cases identifier with
        | named start others =>
            have inside : isAsciiAlnum first = true ∨ first = code '_' ∨ first = code '-' := by
              rcases start with letter | underscore
              · exact .inl (by simp [isAsciiAlnum, letter])
              · exact .inr (.inl underscore)
            simp only [isPortAlias, List.head?_cons, Option.any_some, List.all_cons,
              Bool.and_eq_true, Bool.or_eq_true, decide_eq_true_eq, List.all_eq_true, or_assoc]
            exact ⟨start, inside, others⟩

/-- A port or a range starts with a decimal digit. -/
theorem decimal_of_isPortRange (range : isPortRange (first :: rest) = true) :
    (decimalValue first).isSome = true := by
  simp only [isPortRange, Bool.and_eq_true, decide_eq_true_eq, List.all_eq_true] at range
  rcases range with ⟨few, decimal⟩
  have head : ∀ part ∈ portParts (first :: rest), part ≠ [] ∧
      ∀ c ∈ part, (decimalValue c).isSome = true := by
    intro part member
    simpa [isDecimal] using decimal part member
  rcases portParts_cases few with same | ⟨low, separator, high, same, _, parts⟩
  · have whole : first :: rest ∈ portParts (first :: rest) := by simp [same]
    exact (head _ whole).2 first (by simp)
  · have front := head low (by simp [parts])
    cases low with
    | nil => exact absurd rfl front.1
    | cons c low =>
        cases same
        exact front.2 first (by simp)

theorem decimalValue_of_start (start : isAsciiAlpha first = true ∨ first = code '_') :
    decimalValue first = none := by
  cases value : decimalValue first with
  | none => rfl
  | some d =>
      rcases decimalValue_eq_some value with ⟨lowest, listed, rfl, small⟩
      have digit := decimal_digits lowest listed d small
      rcases start with letter | underscore
      · exact absurd letter (by simp [digit.2.2.2.2])
      · exact absurd underscore digit.2.2.2.1

theorem checkPort_alias (identifier : IsAliasText text) :
    checkPort key text allowRange = .ok () := by
  have isAlias := isPortAlias_iff.mpr identifier
  cases identifier with
  | named start others =>
      rename_i first rest
      have other : isPortRange (first :: rest) = false := by
        rw [Bool.eq_false_iff]
        intro range
        have decimal := decimal_of_isPortRange range
        rw [decimalValue_of_start start] at decimal
        cases decimal
      simp [checkPort, other, isAlias, raiseIf]

end Aliases

/-! ## Accepted ports -/

section Accepted

variable {text key value written : Str} {c : CodePoint} {data : List (Str × Json)}
  {required allowRange : Bool}

/-- The characters of a port -/
def isPortChar (c : CodePoint) : Bool :=
  isAsciiAlnum c || c = code '_' || c = code '-' || c = code ':'

theorem isPortChar_of_alias (identifier : IsAliasText text) : ∀ c ∈ text, isPortChar c = true := by
  cases identifier with
  | named start others =>
      intro c inside
      rcases List.mem_cons.mp inside with rfl | inside
      · rcases start with letter | underscore
        · simp [isPortChar, isAsciiAlnum, letter]
        · simp [isPortChar, underscore]
      · rcases others c inside with alnum | underscore | dash
        · simp [isPortChar, alnum]
        · simp [isPortChar, underscore]
        · simp [isPortChar, dash]

theorem isPortChar_of_grammar (port : PortGrammar required allowRange text) :
    ∀ c ∈ text, isPortChar c = true := by
  have digit : ∀ {text : Str}, IsPortNumber text → ∀ c ∈ text, isPortChar c = true := by
    intro text number c inside
    simp [isPortChar, isAsciiAlnum, number.digits c inside]
  cases port with
  | blank => simp
  | number port => exact digit port
  | range _ first last _ between =>
      intro c inside
      rcases List.mem_append.mp inside with inside | inside
      · exact digit first c inside
      · rcases List.mem_cons.mp inside with rfl | inside
        · rcases between with rfl | rfl <;> decide
        · exact digit last c inside
  | «alias» identifier _ => exact isPortChar_of_alias identifier

theorem bounds_of_isPortChar {c : Nat} (char : isPortChar c = true) : 0 < c ∧ c < 128 := by
  have codes : code 'a' = 97 ∧ code 'z' = 122 ∧ code 'A' = 65 ∧ code 'Z' = 90 ∧ code '0' = 48 ∧
      code '9' = 57 ∧ code '_' = 95 ∧ code '-' = 45 ∧ code ':' = 58 := by
    decide
  simp only [isPortChar, isAsciiAlnum, isAsciiAlpha, isAsciiDigit, Bool.or_eq_true,
    Bool.and_eq_true, decide_eq_true_eq] at char
  grind

theorem isAscii_of_portChars (chars : ∀ c ∈ text, isPortChar c = true) : isAscii text = true := by
  have all : ∀ c ∈ text, c < 128 := fun c inside => (bounds_of_isPortChar (chars c inside)).2
  simpa [isAscii] using all

/-- No port is `any`. -/
theorem other_of_grammar (port : PortGrammar required allowRange text) :
    text.map asciiLower ≠ "any" := by
  have digit : ∀ {c : Nat} {rest : Str}, isAsciiDigit c = true →
      (c :: rest).map asciiLower ≠ "any" := by
    intro c rest digit same
    have first : asciiLower c = code 'a' := (List.cons.inj same).1
    have same : asciiLower c = c := by
      have high := (bounds_of_isAsciiDigit digit).2
      have small : ¬ code 'A' ≤ c := Nat.not_le.mpr (Nat.lt_of_le_of_lt high (by decide))
      simp [asciiLower, small]
    rw [same] at first
    subst first
    exact absurd digit (by decide)
  have number : ∀ {text rest : Str}, IsPortNumber text → (text ++ rest).map asciiLower ≠ "any" := by
    intro text rest port
    rcases List.exists_cons_of_ne_nil port.written with ⟨first, more, rfl⟩
    exact digit (port.digits first (by simp))
  cases port with
  | blank =>
      intro same
      cases same
  | number port => simpa using @number text [] port
  | range _ first _ _ _ => exact number first
  | «alias» _ other => exact other

variable [Runtime]

theorem lower_of_grammar (ascii : LowersAscii) (port : PortGrammar required allowRange text) :
    Runtime.lower text ≠ "any" := by
  rw [ascii text (isAscii_of_portChars (isPortChar_of_grammar port))]
  exact other_of_grammar port

/-- Every decimal digit of the text is an ASCII digit. -/
def IsNative (text : Str) : Prop :=
  ∀ c ∈ text, (decimalValue c).isSome = true → isAsciiDigit c = true

omit [Runtime] in
theorem digits_of_isDecimal (decimal : isDecimal text = true) (native : IsNative text) :
    text ≠ [] ∧ ∀ c ∈ text, isAsciiDigit c = true := by
  simp only [isDecimal, Bool.and_eq_true, Bool.not_eq_true', List.isEmpty_eq_false_iff,
    List.all_eq_true] at decimal
  exact ⟨decimal.1, fun c inside => native c inside (decimal.2 c inside)⟩

theorem grammar_of_checkPort (ascii : LowersAscii) (native : IsNative value)
    (other : Runtime.lower value ≠ "any") (checked : checkPort key value allowRange = .ok ()) :
    PortGrammar required allowRange value := by
  by_cases range : isPortRange value = true
  · have decimal : (portParts value).length ≤ 2 ∧ ∀ part ∈ portParts value, isDecimal part = true := by
      simpa [isPortRange] using range
    rcases portParts_cases decimal.1 with same | ⟨low, separator, high, rfl, between, parts⟩
    · rcases digits_of_isDecimal (decimal.2 value (by simp [same])) native with ⟨some, digits⟩
      exact .number ((checkPort_number digits some).mp checked).2
    · have nativeLow : IsNative low := fun c inside => native c (by simp [inside])
      have nativeHigh : IsNative high := fun c inside => native c (by simp [inside])
      rcases digits_of_isDecimal (decimal.2 low (by simp [parts])) nativeLow with ⟨lowSome, first⟩
      rcases digits_of_isDecimal (decimal.2 high (by simp [parts])) nativeHigh with
        ⟨highSome, last⟩
      rcases (checkPort_range first lowSome last highSome between).mp checked with
        ⟨_, allowed, lowPort, highPort, ascending⟩
      exact .range allowed lowPort highPort ascending between
  · simp only [checkPort, range, Bool.false_eq_true, if_false, raiseIf_eq_ok, Bool.not_eq_false']
      at checked
    have identifier := isPortAlias_iff.mp checked
    refine .alias identifier ?_
    rw [← ascii value (isAscii_of_portChars (isPortChar_of_alias identifier))]
    exact other

omit [Runtime] in
theorem checkPort_of_grammar (short : text.length ≤ maxStrDigits) (some : text ≠ [])
    (port : PortGrammar required allowRange text) : checkPort key text allowRange = .ok () := by
  cases port with
  | blank => exact absurd rfl some
  | number port => exact (checkPort_number port.digits port.written).mpr ⟨short, port⟩
  | range allowed first last ascending between =>
      rw [List.length_append, List.length_cons] at short
      refine (checkPort_range first.digits first.written last.digits last.written between).mpr ?_
      exact ⟨⟨by omega, by omega⟩, allowed, first, last, ascending⟩
  | «alias» identifier _ => exact checkPort_alias identifier

/-- A text that does not fit into a field is refused. -/
theorem formPort_of_long (found : fieldD data key (.str []) = .str written)
    (long : lengthLimit key < written.length) :
    formPort data key required allowRange =
      .error (valueError (key ++ " must be a string within the supported length")) := by
  simp [formPort, formText, found, raiseIf, long, bind, Except.bind]

omit [Runtime] in
/-- What stands for a port holds no NUL, with or without blanks around it. -/
theorem clean_of_portMeant (port : PortGrammar required allowRange (portMeant (strip written))) :
    0 ∉ written := by
  intro inside
  have kept : 0 ∈ strip written := mem_strip_of_visible inside (by decide)
  by_cases any : (strip written).map asciiLower = "any"
  · have lowered : asciiLower 0 ∈ ("any" : Str) := by
      rw [← any]
      exact List.mem_map_of_mem kept
    exact absurd lowered (by decide)
  · rw [portMeant, if_neg any] at port
    exact absurd (bounds_of_isPortChar (isPortChar_of_grammar port 0 kept)).1 (by decide)

omit [Runtime] in
theorem ne_nil_of_grammar (port : PortGrammar true allowRange text) : text ≠ [] := by
  cases port with
  | blank optional => cases optional
  | number port => exact port.written
  | range => simp
  | «alias» identifier _ =>
      cases identifier with
      | named => simp

omit [Runtime] in
theorem le_asciiLower (c : Nat) : c ≤ asciiLower c := by
  unfold asciiLower
  split
  · exact Nat.le_add_right c 32
  · exact Nat.le_refl c

/-- The case of a text that stands for a port is the case of ASCII letters. -/
theorem lower_of_portMeant (ascii : LowersAscii)
    (port : PortGrammar required allowRange (portMeant text)) :
    (if Runtime.lower text = "any" then [] else text) = portMeant text := by
  by_cases any : text.map asciiLower = "any"
  · have plain : isAscii text = true := by
      have small : ∀ c ∈ text, c < 128 := by
        intro c inside
        have lowered : asciiLower c ∈ ("any" : Str) := by
          rw [← any]
          exact List.mem_map_of_mem inside
        have letters : ∀ d ∈ ("any" : Str), d < 128 := by decide
        exact Nat.lt_of_le_of_lt (le_asciiLower c) (letters _ lowered)
      simpa [isAscii] using small
    rw [ascii text plain, portMeant]
  · rw [portMeant, if_neg any] at port ⊢
    rw [if_neg (lower_of_grammar ascii port)]

/-- `_port` returns ports of the grammar, numbers in digits of other scripts apart, and accepts
every port of the grammar that fits into a field. -/
theorem formPort_grammar (ascii : LowersAscii) :
    (∀ value, formPort data key required allowRange = .ok value → IsNative value →
      PortGrammar required allowRange value) ∧
    ∀ written, fieldD data key (.str []) = .str written → written.length ≤ 2048 →
      PortGrammar required allowRange (portMeant (strip written)) →
        formPort data key required allowRange = .ok (portMeant (strip written)) := by
  constructor
  · intro value parsed native
    rcases isFormPort_of_formPort parsed with ⟨port, some⟩
    rcases port.usable with rfl | ⟨other, checked⟩
    · cases required with
      | false => exact .blank rfl
      | true => exact absurd rfl (some rfl)
    · exact grammar_of_checkPort ascii native other checked
  · intro written found short port
    have fits : written.length ≤ lengthLimit key := by
      unfold lengthLimit
      split <;> omega
    have some : required = true → portMeant (strip written) ≠ [] := by
      rintro rfl
      exact ne_nil_of_grammar port
    have visible : required = true → strip written ≠ [] := by
      intro needed blank
      apply some needed
      rw [blank]
      rfl
    have read : formText data key [] required = .ok (strip written) :=
      formText_eq_ok.mpr ⟨written, found, fits, clean_of_portMeant port, visible, rfl⟩
    have meant := lower_of_portMeant ascii port
    simp only [formPort, bind_eq_ok, raiseIf_eq_ok]
    refine ⟨strip written, read, ?_⟩
    rw [meant]
    have length : (portMeant (strip written)).length ≤ maxStrDigits := by
      have stripped := (@strip_within written).length_le
      unfold portMeant
      split
      · exact Nat.zero_le _
      · exact (stripped.trans short).trans (by decide)
    by_cases blank : portMeant (strip written) = []
    · have optional : required = false := by
        rw [Bool.eq_false_iff]
        exact fun needed => some needed blank
      simp [blank, optional]
    · have checked := @checkPort_of_grammar _ key required allowRange length blank port
      simp [blank, checked]

end Accepted

theorem formPort_grammar_range :
    PortGrammar true true "80:443" ∧
      @formPort Runtime.ascii [("destination_port", .str " 80:443 ")] "destination_port" true true =
        .ok "80:443" := by
  have low : IsPortNumber "80" := ⟨by decide, by decide, by decide, by decide⟩
  have high : IsPortNumber "443" := ⟨by decide, by decide, by decide, by decide⟩
  have port : PortGrammar true true "80:443" := .range rfl low high (by decide) (.inl rfl)
  have accepted := (@formPort_grammar "destination_port"
    [("destination_port", .str " 80:443 ")] true true Runtime.ascii lowersAscii).2 " 80:443 " rfl
    (by decide)
  have meant : portMeant (strip " 80:443 ") = "80:443" := by decide
  rw [meant] at accepted
  exact ⟨port, accepted port⟩

/-- A name of 2049 letters -/
def longAlias : Str := List.replicate 2049 (code 'a')

/-- A name that is longer than a field is refused. -/
theorem formPort_long :
    PortGrammar false true (portMeant (strip longAlias)) ∧
      @formPort Runtime.ascii [("source_port", .str longAlias)] "source_port" false true =
        .error (valueError "source_port must be a string within the supported length") := by
  have letters : ∀ c ∈ longAlias, c = code 'a' := fun c inside => List.eq_of_mem_replicate inside
  have other : longAlias.map asciiLower ≠ "any" := by
    intro same
    have length := congrArg List.length same
    rw [List.length_map, longAlias, List.length_replicate] at length
    exact absurd length (by decide)
  have whole : portMeant (strip longAlias) = longAlias := by
    have visible : strip longAlias = longAlias := by
      apply strip_of_visible
      intro c inside
      rw [letters c inside]
      decide
    rw [visible, portMeant, if_neg other]
  refine ⟨?_, ?_⟩
  · rw [whole]
    refine .alias ?_ other
    have named : longAlias = code 'a' :: List.replicate 2048 (code 'a') := rfl
    rw [named]
    refine .named (.inl (by decide)) ?_
    intro c inside
    rw [List.eq_of_mem_replicate inside]
    exact .inl (by decide)
  · have long : lengthLimit "source_port" < longAlias.length := by
      rw [longAlias, List.length_replicate]
      decide
    have found : ∀ text : Str,
        fieldD [("source_port", .str text)] "source_port" (.str []) = .str text := fun _ => rfl
    exact @formPort_of_long "source_port" longAlias _ false true Runtime.ascii (found longAlias)
      long

/-- Digits of other scripts are accepted and returned as they stand. -/
example : @formPort Runtime.ascii [("target_port", .str "٤٤٣")] "target_port" true false =
      .ok "٤٤٣" ∧ ¬ PortGrammar true false "٤٤٣" :=
  ⟨rfl, fun port => absurd (isPortChar_of_grammar port 0x664 (by decide)) (by decide)⟩

end FirewallForm

end OpnsensePlugin

import Mathlib.Data.List.DropRight
import OpnsensePlugin.Python.Split

/-!
# Lines

The two ways of Python to cut a text into lines. A text file translates `\r\n`
and `\r` to `\n` when it is read and has no other line ends. `str.splitlines`
also cuts at the separators of ASCII, at `U+0085`, `U+2028` and `U+2029`.
-/

namespace Python

/-- What a text file with universal newlines returns of what it holds -/
def universalNewlines : Str → Str
  | [] => []
  | c :: rest =>
      if c = 13 then
        if rest.head? = some 10 then universalNewlines rest else 10 :: universalNewlines rest
      else c :: universalNewlines rest

/-- `readlines`, after the translation of line ends -/
def readlines (text : Str) : List Str :=
  let parts := splitOn 10 text
  parts.dropLast.map (· ++ [10]) ++
    (if parts.getLastD [] = [] then [] else [parts.getLastD []])

/-- The line boundaries of `str.splitlines` -/
def isLineBreak (c : CodePoint) : Bool :=
  c = 10 || c = 11 || c = 12 || c = 13 || c = 28 || c = 29 || c = 30 || c = 0x85 || c = 0x2028 ||
    c = 0x2029

/-- What stands between the line boundaries; `\r\n` is one boundary. -/
def lineParts : Str → List Str
  | [] => [[]]
  | c :: rest =>
      if c = 13 && rest.head? = some 10 then lineParts rest
      else if isLineBreak c then [] :: lineParts rest
      else match lineParts rest with
        | [] => [[c]]
        | head :: tail => (c :: head) :: tail

/-- `str.splitlines` -/
def splitlines (text : Str) : List Str :=
  let parts := lineParts text
  if parts.getLastD [] = [] then parts.dropLast else parts

section Lines

variable {text front rest piece : Str} {c : CodePoint} {lines : List Str}

theorem universalNewlines_eq (plain : 13 ∉ text) : universalNewlines text = text := by
  induction text with
  | nil => rfl
  | cons c more ih =>
      rw [List.mem_cons, not_or] at plain
      rw [universalNewlines, if_neg (Ne.symm plain.1), ih plain.2]

theorem lineParts_eq (plain : 13 ∉ text) : lineParts text = text.splitOnP isLineBreak := by
  induction text with
  | nil => rfl
  | cons c more ih =>
      rw [List.mem_cons, not_or] at plain
      have other : ¬ c = 13 := Ne.symm plain.1
      rw [lineParts, List.splitOnP_cons_eq_if_modifyHead, ih plain.2]
      by_cases ends : isLineBreak c = true
      · simp [other, ends]
      · cases split : more.splitOnP isLineBreak with
        | nil => exact absurd split (List.splitOnP_ne_nil isLineBreak more)
        | cons head tail => simp [other, ends]

theorem lineParts_single (plain : ∀ c ∈ text, isLineBreak c = false) : lineParts text = [text] := by
  have noReturn : 13 ∉ text := by
    intro inside
    exact absurd (plain 13 inside) (by decide)
  rw [lineParts_eq noReturn]
  exact List.splitOnP_eq_singleton plain

theorem lineParts_append (plain : 13 ∉ front) (ends : isLineBreak c = true) (other : c ≠ 13)
    (noReturn : 13 ∉ rest) :
    lineParts (front ++ c :: rest) = lineParts front ++ lineParts rest := by
  have whole : 13 ∉ front ++ c :: rest := by
    simp [plain, Ne.symm other, noReturn]
  rw [lineParts_eq whole, lineParts_eq plain, lineParts_eq noReturn]
  exact List.splitOnP_append_cons front rest ends

/-- The first line boundary of a text -/
theorem exists_first_break (some : ∃ c ∈ text, isLineBreak c = true) :
    ∃ front c rest, text = front ++ c :: rest ∧ isLineBreak c = true ∧
      ∀ d ∈ front, isLineBreak d = false := by
  induction text with
  | nil =>
      rcases some with ⟨c, inside, _⟩
      cases inside
  | cons d more ih =>
      by_cases ends : isLineBreak d = true
      · exact ⟨[], d, more, rfl, ends, by simp⟩
      · rcases some with ⟨c, inside, found⟩
        rcases List.mem_cons.mp inside with rfl | inside
        · exact absurd found ends
        · rcases ih ⟨c, inside, found⟩ with ⟨front, c, rest, rfl, found, plain⟩
          refine ⟨d :: front, c, rest, rfl, found, ?_⟩
          intro x member
          rcases List.mem_cons.mp member with rfl | member
          · exact Bool.eq_false_iff.mpr ends
          · exact plain x member

/-- The first part ends at the first line boundary. -/
theorem lineParts_first (noReturn : 13 ∉ front ++ c :: rest) (ends : isLineBreak c = true)
    (plain : ∀ d ∈ front, isLineBreak d = false) :
    lineParts (front ++ c :: rest) = front :: lineParts rest := by
  simp only [List.mem_append, List.mem_cons, not_or] at noReturn
  rw [lineParts_append noReturn.1 ends (Ne.symm noReturn.2.1) noReturn.2.2, lineParts_single plain]
  rfl

/-- A part starts with the text or behind a line boundary. -/
theorem mem_lineParts (noReturn : 13 ∉ text) (member : piece ∈ lineParts text) :
    piece <+: text ∨ ∃ front c rest, text = front ++ c :: rest ∧ isLineBreak c = true ∧
      piece <+: rest := by
  induction size : text.length using Nat.strong_induction_on generalizing text
  rename_i bound ih
  by_cases some : ∃ c ∈ text, isLineBreak c = true
  · rcases exists_first_break some with ⟨front, c, rest, rfl, ends, plain⟩
    rw [lineParts_first noReturn ends plain] at member
    rcases List.mem_cons.mp member with rfl | member
    · exact .inl (List.prefix_append _ _)
    · have shorter : rest.length < bound := by
        rw [← size, List.length_append, List.length_cons]
        omega
      have behind : 13 ∉ rest := fun inside => noReturn (by simp [inside])
      rcases ih _ shorter behind member rfl with found | ⟨inner, d, last, rfl, boundary, found⟩
      · exact .inr ⟨front, c, rest, rfl, ends, found⟩
      · exact .inr ⟨front ++ c :: inner, d, last, by simp, boundary, found⟩
  · have plain : ∀ c ∈ text, isLineBreak c = false := by
      intro c inside
      rw [Bool.eq_false_iff]
      exact fun ends => some ⟨c, inside, ends⟩
    rw [lineParts_single plain, List.mem_singleton] at member
    rw [member]
    exact .inl (List.prefix_refl _)

/-! ## Files of lines -/

/-- Lines with a line feed behind each of them -/
def linesText (lines : List Str) : Str := lines.flatMap (· ++ [10])

theorem not_mem_linesText (plain : ∀ line ∈ lines, c ∉ line) (other : c ≠ 10) :
    c ∉ linesText lines := by
  intro inside
  rcases List.mem_flatMap.mp inside with ⟨line, member, inside⟩
  rcases List.mem_append.mp inside with inside | inside
  · exact plain line member inside
  · exact other (List.mem_singleton.mp inside)

theorem linesText_cons {line : Str} : linesText (line :: lines) = line ++ 10 :: linesText lines := by
  simp [linesText]

theorem getLastD_nil {parts : List Str} : (parts ++ [[]]).getLastD ([] : Str) = [] := by
  rw [List.getLastD_eq_getLast?, List.getLast?_concat]
  rfl

theorem splitOn_linesText (plain : ∀ line ∈ lines, 10 ∉ line) :
    splitOn 10 (linesText lines) = lines ++ [[]] := by
  induction lines with
  | nil => rfl
  | cons line more ih =>
      rw [linesText_cons, splitOn_append_cons, splitOn_of_not_mem (plain line (by simp)),
        ih fun other member => plain other (List.mem_cons_of_mem line member)]
      rfl

theorem linesText_eq_join : linesText lines = join [10] (lines ++ [[]]) := by
  induction lines with
  | nil => rfl
  | cons line more ih =>
      rw [linesText_cons, ih]
      cases more with
      | nil => simp [join]
      | cons next others => simp [join]

theorem readlines_linesText (plain : ∀ line ∈ lines, 10 ∉ line) :
    readlines (linesText lines) = lines.map (· ++ [10]) := by
  rw [readlines, splitOn_linesText plain, getLastD_nil]
  simp

theorem splitlines_linesText (plain : ∀ line ∈ lines, 13 ∉ line) :
    splitlines (linesText lines) = lines.flatMap lineParts := by
  have parts : lineParts (linesText lines) = lines.flatMap lineParts ++ [[]] := by
    induction lines with
    | nil => rfl
    | cons line more ih =>
        have behind : ∀ other ∈ more, 13 ∉ other :=
          fun other member => plain other (List.mem_cons_of_mem line member)
        rw [linesText_cons, lineParts_append (plain line (by simp)) (by decide) (by decide)
          (not_mem_linesText behind (by decide)), ih behind]
        simp
  rw [splitlines, parts, getLastD_nil]
  simp

end Lines

/-! ## Stripping -/

section Stripping

variable {first last : CodePoint} {middle text : Str}

/-- `str.rstrip` -/
def rstrip (text : Str) : Str := text.rdropWhile isSpace

theorem rstrip_before : rstrip text <+: text := List.rdropWhile_prefix isSpace text

theorem rstrip_blank (blank : ∀ c ∈ text, isSpace c = true) : rstrip text = [] :=
  List.rdropWhile_eq_nil_iff.mpr blank

/-- Stripping a text up to a character that is no blank leaves what precedes it alone. -/
theorem strip_bracketed (front : isSpace first = false) (back : isSpace last = false) :
    strip (first :: (middle ++ last :: text)) = first :: (middle ++ last :: rstrip text) := by
  have kept : (first :: (middle ++ last :: text)).dropWhile isSpace =
      first :: (middle ++ last :: text) := by
    simp [front]
  have reversed : (first :: (middle ++ last :: text)).reverse =
      text.reverse ++ (last :: (middle.reverse ++ [first])) := by
    simp
  have ended : (text.reverse ++ (last :: (middle.reverse ++ [first]))).dropWhile isSpace =
      text.reverse.dropWhile isSpace ++ (last :: (middle.reverse ++ [first])) := by
    by_cases blank : ∀ c ∈ text.reverse, isSpace c = true
    · rw [List.dropWhile_append_of_pos blank, List.dropWhile_eq_nil_iff.mpr blank]
      simp [back]
    · rw [List.dropWhile_append]
      have some : (text.reverse.dropWhile isSpace).isEmpty = false := by
        rw [Bool.eq_false_iff]
        intro none
        exact blank (List.dropWhile_eq_nil_iff.mp (List.isEmpty_iff.mp none))
      simp [some]
  rw [strip, stripWith, kept, reversed, ended, rstrip, List.rdropWhile]
  simp

/-- What stripping takes away -/
theorem exists_strip : ∃ lead trail, text = lead ++ strip text ++ trail ∧
    ∀ c ∈ lead, isSpace c = true := by
  have whole : text = text.takeWhile isSpace ++ text.dropWhile isSpace :=
    List.takeWhile_append_dropWhile.symm
  have behind : strip text <+: text.dropWhile isSpace := rstrip_before
  rcases behind with ⟨trail, same⟩
  refine ⟨text.takeWhile isSpace, trail, ?_, ?_⟩
  · rw [List.append_assoc, same]
    exact whole
  · exact fun c inside => List.all_eq_true.mp List.all_takeWhile c inside

/-- What stripping leaves is a part of the text. -/
theorem strip_within : strip text <:+: text := by
  have behind : strip text <+: text.dropWhile isSpace := rstrip_before
  exact behind.isInfix.trans (List.dropWhile_suffix isSpace).isInfix

theorem strip_strip : strip (strip text) = strip text := by
  have front : (strip text).dropWhile isSpace = strip text := by
    rcases eq_or_ne (strip text) [] with blank | visible
    · rw [blank, List.dropWhile_nil]
    · have behind : strip text <+: text.dropWhile isSpace := rstrip_before
      rcases behind with ⟨trail, whole⟩
      rcases List.exists_cons_of_ne_nil visible with ⟨first, rest, same⟩
      have head := List.head?_dropWhile_not isSpace text
      rw [← whole, same] at head
      rw [same]
      exact List.dropWhile_cons_of_neg (by simpa using head)
  change rstrip ((strip text).dropWhile isSpace) = strip text
  rw [front]
  exact List.rdropWhile_idempotent isSpace _

/-- Stripping takes spaces away only. -/
theorem mem_strip_of_visible {c : CodePoint} (inside : c ∈ text) (visible : isSpace c = false) :
    c ∈ strip text := by
  have kept : ∀ other : Str, c ∈ other → c ∈ other.dropWhile isSpace := by
    intro other member
    rw [← List.takeWhile_append_dropWhile (p := isSpace) (l := other), List.mem_append] at member
    rcases member with member | member
    · exact absurd (List.mem_takeWhile_imp member) (by simp [visible])
    · exact member
  have front : c ∈ (text.dropWhile isSpace).reverse := List.mem_reverse.mpr (kept text inside)
  exact List.mem_reverse.mpr (kept _ front)

theorem stripWith_of_visible {drop : CodePoint → Bool} (visible : ∀ c ∈ text, drop c = false) :
    stripWith drop text = text := by
  have keeps : ∀ other : Str, (∀ c ∈ other, drop c = false) → other.dropWhile drop = other := by
    intro other all
    cases other with
    | nil => rfl
    | cons first rest => exact List.dropWhile_cons_of_neg (by simp [all first (by simp)])
  have reversed : ∀ c ∈ text.reverse, drop c = false := by
    intro c inside
    exact visible c (List.mem_reverse.mp inside)
  rw [stripWith, keeps text visible, keeps _ reversed, List.reverse_reverse]

theorem strip_of_visible (visible : ∀ c ∈ text, isSpace c = false) : strip text = text :=
  stripWith_of_visible visible

theorem trimmed_of_visible (visible : ∀ c ∈ text, isSpace c = false) : trimmed text = text := by
  unfold trimmed
  split
  · apply stripWith_of_visible
    intro c member
    have unspaced := visible c member
    rw [Bool.eq_false_iff]
    intro dropped
    simp only [Bool.or_eq_true, Bool.and_eq_true, decide_eq_true_eq] at dropped
    have spaced : isSpace c = true := by
      rcases dropped with rfl | ⟨low, high⟩
      · rfl
      · simp [isSpace, low, high]
    rw [spaced] at unspaced
    cases unspaced
  · exact strip_of_visible visible

end Stripping

end Python

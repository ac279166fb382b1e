import Mathlib.Tactic.IntervalCases
import OpnsensePlugin.Python.Decimal

/-!
# Dates

`datetime.strptime` turns its format into a regular expression. A `Matcher` is
such an expression: it lists the ways to match at the head of a text in the
order in which backtracking tries them, and `strptime` takes the first one,
which has to leave nothing. The directives are those of an OpenSSL date.
-/

namespace Python

/-- A `datetime` of whole seconds -/
structure DateTime where
  year : Nat
  month : Nat
  day : Nat
  hour : Nat
  minute : Nat
  second : Nat
deriving DecidableEq

/-- `_is_leap` -/
def isLeap (year : Nat) : Bool := year % 4 = 0 && (year % 100 ≠ 0 || year % 400 = 0)

/-- `_days_in_month` -/
def daysInMonth (year month : Nat) : Nat :=
  if month = 2 && isLeap year then 29
  else [31, 28, 31, 30, 31, 30, 31, 31, 30, 31, 30, 31].getD (month - 1) 0

/-- `_days_before_month` -/
def daysBeforeMonth (year month : Nat) : Nat :=
  ((List.range (month - 1)).map fun earlier => daysInMonth year (earlier + 1)).sum

/-- `_days_before_year` -/
def daysBeforeYear (year : Nat) : Nat :=
  let before := year - 1
  before * 365 + before / 4 - before / 100 + before / 400

namespace DateTime

/-- The values that the constructor accepts -/
def isValid (date : DateTime) : Bool :=
  1 ≤ date.year && date.year ≤ 9999 && 1 ≤ date.month && date.month ≤ 12 && 1 ≤ date.day &&
    date.day ≤ daysInMonth date.year date.month && date.hour < 24 && date.minute < 60 &&
    date.second < 60

/-- `toordinal` -/
def ordinal (date : DateTime) : Nat :=
  daysBeforeYear date.year + daysBeforeMonth date.year date.month + date.day

/-- The seconds since the beginning of 1970 of a date in UTC -/
def timestamp (date : DateTime) : Int :=
  ((date.ordinal : Int) - 719163) * 86400 + date.hour * 3600 + date.minute * 60 + date.second

end DateTime

/-! ## Matchers -/

def Matcher (α : Type) : Type := Str → List (α × Str)

namespace Matcher

variable {α β : Type}

instance : Monad Matcher where
  pure value := fun text => [(value, text)]
  bind first next := fun text => (first text).flatMap fun (value, rest) => next value rest

/-- `first|second` -/
def or (first second : Matcher α) : Matcher α := fun text => first text ++ second text

/-- A digit of ASCII from a range -/
def digitIn (low high : Nat) : Matcher Nat
  | [] => []
  | c :: rest => if code '0' + low ≤ c && c ≤ code '0' + high then [(c - code '0', rest)] else []

/-- `\d` -/
def digit : Matcher Nat
  | [] => []
  | c :: rest =>
      match decimalValue c with
      | some value => [(value, rest)]
      | none => []

def mark (c : CodePoint) : Matcher Unit
  | [] => []
  | first :: rest => if first = c then [((), rest)] else []

/-- `\s+`, as much of it as possible -/
def spaces : Matcher Unit
  | [] => []
  | c :: rest => if isSpace c then spaces rest ++ [((), rest)] else []

def twoDigits (tens ones : Matcher Nat) : Matcher Nat := do
  let first ← tens
  let second ← ones
  return 10 * first + second

def asciiLowered (c : CodePoint) : CodePoint := if code 'A' ≤ c && c ≤ code 'Z' then c + 32 else c

/-- The names that stand at the head of a text, in letters of either case -/
def oneOf (names : List Str) : Matcher Str := fun text =>
  (names.filter fun name => name.isPrefixOf (text.map asciiLowered)).map
    fun name => (name, text.drop name.length)

def monthNames : List Str :=
  ["jan", "feb", "mar", "apr", "may", "jun", "jul", "aug", "sep", "oct", "nov", "dec"]

/-- `%b` -/
def monthName : Matcher Nat := do
  let name ← oneOf monthNames
  return monthNames.idxOf name + 1

/-- `%d` -/
def dayOfMonth : Matcher Nat :=
  (twoDigits (digitIn 3 3) (digitIn 0 1)).or
    ((twoDigits (digitIn 1 2) digit).or
      ((twoDigits (digitIn 0 0) (digitIn 1 9)).or
        ((digitIn 1 9).or (do
          mark (code ' ')
          digitIn 1 9))))

/-- `%H` -/
def hour : Matcher Nat :=
  (twoDigits (digitIn 2 2) (digitIn 0 3)).or ((twoDigits (digitIn 0 1) digit).or digit)

/-- `%M` -/
def minute : Matcher Nat := (twoDigits (digitIn 0 5) digit).or digit

/-- `%S` -/
def second : Matcher Nat :=
  (twoDigits (digitIn 6 6) (digitIn 0 1)).or ((twoDigits (digitIn 0 5) digit).or digit)

/-- `%Y` -/
def year : Matcher Nat := do
  let thousands ← digit
  let hundreds ← digit
  let tens ← digit
  let ones ← digit
  return 1000 * thousands + 100 * hundreds + 10 * tens + ones

/-- `%b %d %H:%M:%S %Y` -/
def date : Matcher DateTime := do
  let month ← monthName
  spaces
  let day ← dayOfMonth
  spaces
  let hour ← hour
  mark (code ':')
  let minute ← minute
  mark (code ':')
  let second ← second
  spaces
  let year ← year
  return { year, month, day, hour, minute, second }

/-- `%Z`, given the local names of the time zone in lower case; longer names come first. -/
def zone (names : List Str) : Matcher Unit := do
  let known : List Str := "utc" :: "gmt" :: names
  let _ ← oneOf (known.insertionSort fun first second =>
    second.length ≤ first.length)
  return ()

/-- `%b %d %H:%M:%S %Y %Z` -/
def zonedDate (names : List Str) : Matcher DateTime := do
  let found ← date
  spaces
  zone names
  return found

/-- `datetime.strptime`; `none` stands for `ValueError`. -/
def strptime (format : Matcher DateTime) (text : Str) : Option DateTime :=
  match format text with
  | (found, []) :: _ => if found.isValid then some found else none
  | _ => none

example : strptime (zonedDate []) "May  9 12:34:56 2027 GMT" = some ⟨2027, 5, 9, 12, 34, 56⟩ := by
  decide +kernel

example : (DateTime.mk 2027 5 9 12 34 56).timestamp = 1809866096 := by decide +kernel

/-! ## First matches -/

/-- The first way to match, which is the one that a regular expression takes. -/
def FirstMatch (matcher : Matcher α) (text : Str) (value : α) (rest : Str) : Prop :=
  ∃ others, matcher text = (value, rest) :: others

section FirstMatches

variable {first second : Matcher α} {next : α → Matcher β} {text middle rest : Str} {value : α}
  {result : β} {c : CodePoint} {d n low high : Nat}

theorem FirstMatch.pure : FirstMatch (Pure.pure value) text value text := ⟨[], rfl⟩

theorem FirstMatch.bind (head : FirstMatch first text value middle)
    (tail : FirstMatch (next value) middle result rest) :
    FirstMatch (first >>= next) text result rest := by
  rcases head with ⟨others, head⟩
  rcases tail with ⟨more, tail⟩
  refine ⟨more ++ others.flatMap fun (value, rest) => next value rest, ?_⟩
  change (first text).flatMap (fun (value, rest) => next value rest) = _
  rw [head, List.flatMap_cons]
  change next value middle ++ _ = _
  rw [tail]
  rfl

theorem FirstMatch.or_left (head : FirstMatch first text value rest) :
    FirstMatch (first.or second) text value rest := by
  rcases head with ⟨others, head⟩
  exact ⟨others ++ second text, by rw [Matcher.or, head, List.cons_append]⟩

theorem FirstMatch.or_right (none : first text = []) (head : FirstMatch second text value rest) :
    FirstMatch (first.or second) text value rest := by
  rcases head with ⟨others, head⟩
  exact ⟨others, by rw [Matcher.or, none, List.nil_append, head]⟩

theorem bind_eq_nil (none : first text = []) : (first >>= next) text = [] := by
  change (first text).flatMap (fun (value, rest) => next value rest) = []
  rw [none]
  rfl

theorem digitIn_first (least : low ≤ d) (most : d ≤ high) :
    FirstMatch (digitIn low high) ((code '0' + d) :: rest) d rest := by
  refine ⟨[], ?_⟩
  simp [digitIn, least, most]

theorem digitIn_none (outside : d < low ∨ high < d) :
    digitIn low high ((code '0' + d) :: rest) = [] := by
  simp only [digitIn, Nat.add_le_add_iff_left, Bool.and_eq_true, decide_eq_true_eq]
  rw [if_neg]
  omega

theorem digit_first (small : d < 10) : FirstMatch digit ((code '0' + d) :: rest) d rest := by
  have ascii : isAsciiDigit (code '0' + d) = true := by
    rw [isAsciiDigit, Bool.and_eq_true, decide_eq_true_eq, decide_eq_true_eq]
    change 48 ≤ 48 + d ∧ 48 + d ≤ 57
    omega
  refine ⟨[], ?_⟩
  simp [digit, decimalValue_of_isAsciiDigit ascii]

theorem mark_first : FirstMatch (mark c) (c :: rest) () rest := ⟨[], by simp [mark]⟩

/-- One space before something else -/
theorem spaces_first (other : rest.head?.all (fun c => !isSpace c) = true) :
    FirstMatch spaces (code ' ' :: rest) () rest := by
  have space : isSpace (code ' ') = true := by decide
  have none : spaces rest = [] := by
    cases rest with
    | nil => rfl
    | cons c more => simp_all [spaces]
  exact ⟨[], by simp [spaces, space, none]⟩

/-! ## Dates as OpenSSL prints them -/

/-- Two digits -/
def paddedText (n : Nat) : Str := [code '0' + n / 10, code '0' + n % 10]

def yearText (year : Nat) : Str :=
  [code '0' + year / 1000, code '0' + year / 100 % 10, code '0' + year / 10 % 10,
    code '0' + year % 10]

def monthTitles : List Str :=
  ["Jan", "Feb", "Mar", "Apr", "May", "Jun", "Jul", "Aug", "Sep", "Oct", "Nov", "Dec"]

/-- A day of one digit stands behind a space. -/
def dayText (day : Nat) : Str :=
  if day < 10 then [code ' ', code '0' + day] else paddedText day

theorem twoDigits_first {tens ones : Matcher Nat}
    (tensFirst : FirstMatch tens (paddedText n ++ rest) (n / 10) ((code '0' + n % 10) :: rest))
    (onesFirst : FirstMatch ones ((code '0' + n % 10) :: rest) (n % 10) rest) :
    FirstMatch (twoDigits tens ones) (paddedText n ++ rest) n rest := by
  have whole : 10 * (n / 10) + n % 10 = n := Nat.div_add_mod n 10
  have matched : FirstMatch (twoDigits tens ones) (paddedText n ++ rest)
      (10 * (n / 10) + n % 10) rest := by
    rw [twoDigits]
    apply tensFirst.bind
    apply onesFirst.bind
    exact FirstMatch.pure
  rwa [whole] at matched

theorem twoDigits_none {ones : Matcher Nat} (outside : n / 10 < low ∨ high < n / 10) :
    twoDigits (digitIn low high) ones (paddedText n ++ rest) = [] :=
  bind_eq_nil (digitIn_none outside)

theorem hour_first (bound : n < 24) : FirstMatch hour (paddedText n ++ rest) n rest := by
  by_cases late : 20 ≤ n
  · apply FirstMatch.or_left
    apply twoDigits_first
    · exact digitIn_first (by omega) (by omega)
    · exact digitIn_first (by omega) (by omega)
  · apply FirstMatch.or_right (twoDigits_none (by omega))
    apply FirstMatch.or_left
    apply twoDigits_first
    · exact digitIn_first (by omega) (by omega)
    · exact digit_first (by omega)

theorem minute_first (bound : n < 60) : FirstMatch minute (paddedText n ++ rest) n rest := by
  apply FirstMatch.or_left
  apply twoDigits_first
  · exact digitIn_first (by omega) (by omega)
  · exact digit_first (by omega)

theorem second_first (bound : n < 60) : FirstMatch Matcher.second (paddedText n ++ rest) n rest := by
  apply FirstMatch.or_right (twoDigits_none (by omega))
  exact minute_first bound

theorem dayOfMonth_first (least : 10 ≤ n) (most : n ≤ 31) :
    FirstMatch dayOfMonth (paddedText n ++ rest) n rest := by
  by_cases last : 30 ≤ n
  · apply FirstMatch.or_left
    apply twoDigits_first
    · exact digitIn_first (by omega) (by omega)
    · exact digitIn_first (by omega) (by omega)
  · apply FirstMatch.or_right (twoDigits_none (by omega))
    apply FirstMatch.or_left
    apply twoDigits_first
    · exact digitIn_first (by omega) (by omega)
    · exact digit_first (by omega)

theorem digitIn_space : digitIn low high (code ' ' :: rest) = [] := by
  have below : ¬ code '0' + low ≤ code ' ' := by
    change ¬ 48 + low ≤ 32
    omega
  simp [digitIn, below]

theorem digit_space : digit (code ' ' :: rest) = [] := by
  have none : decimalValue (code ' ') = none := by decide
  simp [digit, none]

/-- A single digit before a space is not the first of two. -/
theorem twoDigits_space {ones : Matcher Nat} (none : ones (code ' ' :: rest) = []) :
    twoDigits (digitIn low high) ones ((code '0' + d) :: code ' ' :: rest) = [] := by
  by_cases inside : low ≤ d ∧ d ≤ high
  · rcases @digitIn_first (code ' ' :: rest) d low high inside.1 inside.2 with ⟨others, found⟩
    change (digitIn low high _).flatMap _ = []
    rw [digitIn] at found ⊢
    split at found
    · rename_i ranged
      rw [if_pos ranged, List.flatMap_cons, List.flatMap_nil, List.append_nil]
      exact bind_eq_nil none
    · cases found
  · exact bind_eq_nil (digitIn_none (by omega))

/-- The spaces before a day and the day -/
theorem spaces_dayOfMonth_first {next : Nat → Matcher β} (least : 1 ≤ n) (most : n ≤ 31)
    (later : FirstMatch (next n) (code ' ' :: rest) result middle) :
    FirstMatch (do
      spaces
      let day ← dayOfMonth
      next day) (code ' ' :: (dayText n ++ code ' ' :: rest)) result middle := by
  have space : isSpace (code ' ') = true := by decide
  have visible : ∀ d : Nat, d < 10 → isSpace (code '0' + d) = false := by decide
  by_cases short : n < 10
  · have both : FirstMatch spaces (code ' ' :: code ' ' :: (code '0' + n) :: code ' ' :: rest) ()
        ((code '0' + n) :: code ' ' :: rest) :=
      ⟨[((), code ' ' :: (code '0' + n) :: code ' ' :: rest)], by
        simp [spaces, space, visible n short]⟩
    have day : FirstMatch dayOfMonth ((code '0' + n) :: code ' ' :: rest) n (code ' ' :: rest) := by
      apply FirstMatch.or_right (twoDigits_space digitIn_space)
      apply FirstMatch.or_right (twoDigits_space digit_space)
      apply FirstMatch.or_right (twoDigits_space digitIn_space)
      apply FirstMatch.or_left
      exact digitIn_first least (by omega)
    rw [dayText, if_pos short]
    apply both.bind
    apply day.bind
    exact later
  · have one : FirstMatch spaces (code ' ' :: (paddedText n ++ code ' ' :: rest)) ()
        (paddedText n ++ code ' ' :: rest) := by
      apply spaces_first
      simp [paddedText, visible (n / 10) (by omega)]
    rw [dayText, if_neg short]
    apply one.bind
    apply (dayOfMonth_first (by omega) most).bind
    exact later

theorem year_first (bound : n < 10000) : FirstMatch year (yearText n ++ rest) n rest := by
  have whole : 1000 * (n / 1000) + 100 * (n / 100 % 10) + 10 * (n / 10 % 10) + n % 10 = n := by
    omega
  have matched : FirstMatch year (yearText n ++ rest)
      (1000 * (n / 1000) + 100 * (n / 100 % 10) + 10 * (n / 10 % 10) + n % 10) rest := by
    rw [year]
    apply (digit_first (by omega)).bind
    apply (digit_first (by omega)).bind
    apply (digit_first (by omega)).bind
    apply (digit_first (by omega)).bind
    exact FirstMatch.pure
  rwa [whole] at matched

theorem monthName_first (least : 1 ≤ n) (most : n ≤ 12) :
    FirstMatch monthName (monthTitles.getD (n - 1) [] ++ rest) n rest := by
  interval_cases n <;> exact ⟨[], rfl⟩

/-- The longest of the names that match comes first. -/
theorem oneOf_first {names : List Str} {name : Str}
    (sorted : names.Pairwise fun first second => second.length ≤ first.length)
    (member : name ∈ names) (whole : text.map asciiLowered = name) :
    ∃ found, FirstMatch (oneOf names) text found [] := by
  have kept : name ∈ names.filter fun name => name.isPrefixOf (text.map asciiLowered) := by
    rw [List.mem_filter]
    exact ⟨member, by simp [whole]⟩
  have ordered := sorted.filter fun name : Str => name.isPrefixOf (text.map asciiLowered)
  have fits : ∀ other ∈ names.filter fun name => name.isPrefixOf (text.map asciiLowered),
      other.length ≤ text.length := by
    intro other listed
    have front : other <+: text.map asciiLowered := by simpa using (List.mem_filter.mp listed).2
    simpa using front.length_le
  have length : name.length = text.length := by rw [← whole, List.length_map]
  simp only [FirstMatch, oneOf]
  cases found : names.filter fun name => name.isPrefixOf (text.map asciiLowered) with
  | nil =>
      rw [found] at kept
      cases kept
  | cons best others =>
      rw [found] at kept ordered
      have longest : text.length ≤ best.length := by
        rcases List.mem_cons.mp kept with rfl | behind
        · exact length.ge
        · rw [← length]
          exact List.rel_of_pairwise_cons ordered behind
      refine ⟨best, others.map fun name => (name, text.drop name.length), ?_⟩
      rw [List.map_cons, List.drop_eq_nil_iff.mpr longest]

/-- `GMT` at the end of a text, whatever the local names of the time zone are -/
theorem zone_first {names : List Str} : FirstMatch (zone names) ("GMT" : Str) () [] := by
  rw [zone]
  generalize same : ("utc" : Str) :: "gmt" :: names = known
  have member : ("gmt" : Str) ∈ known.insertionSort fun first second =>
      second.length ≤ first.length := by
    rw [List.mem_insertionSort, ← same]
    simp
  have sorted : (known.insertionSort fun first second => second.length ≤ first.length).Pairwise
      fun first second => second.length ≤ first.length :=
    List.pairwise_insertionSort _ _
  have lowered : ("GMT" : Str).map asciiLowered = "gmt" := by decide
  rcases oneOf_first sorted member lowered with ⟨found, matched⟩
  apply matched.bind
  exact FirstMatch.pure

theorem spaces_paddedText (bound : n < 100) :
    FirstMatch spaces (code ' ' :: (paddedText n ++ rest)) () (paddedText n ++ rest) := by
  have visible : ∀ d : Nat, d < 10 → isSpace (code '0' + d) = false := by decide
  apply spaces_first
  simp only [paddedText, List.cons_append, List.head?_cons, Option.all_some]
  rw [visible (n / 10) (by omega)]
  rfl

theorem spaces_yearText (bound : n < 10000) :
    FirstMatch spaces (code ' ' :: (yearText n ++ rest)) () (yearText n ++ rest) := by
  have visible : ∀ d : Nat, d < 10 → isSpace (code '0' + d) = false := by decide
  apply spaces_first
  simp only [yearText, List.cons_append, List.head?_cons, Option.all_some]
  rw [visible (n / 1000) (by omega)]
  rfl

end FirstMatches

/-- A date in UTC, as OpenSSL prints it; its year has four digits. -/
def opensslText (date : DateTime) : Str :=
  monthTitles.getD (date.month - 1) [] ++ code ' ' :: (dayText date.day ++ code ' ' ::
    (paddedText date.hour ++ code ':' :: (paddedText date.minute ++ code ':' ::
      (paddedText date.second ++ code ' ' :: (yearText date.year ++ code ' ' :: ("GMT" : Str))))))

theorem daysInMonth_le {year month : Nat} (least : 1 ≤ month) (most : month ≤ 12) :
    daysInMonth year month ≤ 31 := by
  have all : ∀ month : Nat, month ≤ 12 → 1 ≤ month →
      [31, 28, 31, 30, 31, 30, 31, 31, 30, 31, 30, 31].getD (month - 1) 0 ≤ 31 := by decide
  rw [daysInMonth]
  split
  · omega
  · exact all month most least

theorem strptime_opensslText {date : DateTime} {names : List Str} (valid : date.isValid = true) :
    strptime (zonedDate names) (opensslText date) = some date := by
  have bounds := valid
  simp only [DateTime.isValid, Bool.and_eq_true, decide_eq_true_eq] at bounds
  rcases bounds with ⟨⟨⟨⟨⟨⟨⟨⟨leastYear, mostYear⟩, leastMonth⟩, mostMonth⟩, leastDay⟩, mostDay⟩,
    hours⟩, minutes⟩, seconds⟩
  have days := @daysInMonth_le date.year date.month leastMonth mostMonth
  have visible : isSpace (code 'G') = false := by decide
  have matched : FirstMatch (zonedDate names) (opensslText date) date [] := by
    rw [zonedDate, opensslText]
    have whole : FirstMatch Matcher.date (opensslText date) date (code ' ' :: ("GMT" : Str)) := by
      rw [Matcher.date, opensslText]
      apply (monthName_first leastMonth mostMonth).bind
      apply spaces_dayOfMonth_first leastDay (by omega)
      apply (spaces_paddedText (by omega)).bind
      apply (hour_first hours).bind
      apply mark_first.bind
      apply (minute_first minutes).bind
      apply mark_first.bind
      apply (second_first seconds).bind
      apply (spaces_yearText (by omega)).bind
      apply (year_first (by omega)).bind
      exact FirstMatch.pure
    apply whole.bind
    apply (spaces_first (by decide)).bind
    apply zone_first.bind
    exact FirstMatch.pure
  rcases matched with ⟨others, matched⟩
  rw [strptime, matched]
  simp [valid]

/-- A text that begins with a digit is no date. -/
theorem date_none {c : Nat} {text : Str} (digit : isAsciiDigit c = true) :
    Matcher.date (c :: text) = [] := by
  have bounds := bounds_of_isAsciiDigit digit
  have upper : ¬ code 'A' ≤ c := by
    change ¬ (65 : Nat) ≤ c
    omega
  have other : ∀ letter : Nat, 97 ≤ letter → letter ≠ c := by
    intro letter low
    omega
  have letters : ∀ name ∈ monthNames, ∃ first rest, name = first :: rest ∧ 97 ≤ first := by
    intro name member
    have all : ∀ name ∈ monthNames, name.headD 0 ≥ 97 := by decide
    have starts := all name member
    cases name with
    | nil => exact absurd starts (by decide)
    | cons first rest => exact ⟨first, rest, rfl, starts⟩
  have unmatched : oneOf monthNames (c :: text) = [] := by
    rw [oneOf, List.map_eq_nil_iff, List.filter_eq_nil_iff]
    intro name member
    rcases letters name member with ⟨first, rest, rfl, low⟩
    simp [asciiLowered, upper, other first low]
  exact bind_eq_nil (bind_eq_nil unmatched)

theorem zonedDate_none {names : List Str} {text : Str} (unmatched : Matcher.date text = []) :
    zonedDate names text = [] :=
  bind_eq_nil unmatched

theorem strptime_none {format : Matcher DateTime} {text : Str} (unmatched : format text = []) :
    strptime format text = none := by
  rw [strptime, unmatched]

end Matcher

end Python

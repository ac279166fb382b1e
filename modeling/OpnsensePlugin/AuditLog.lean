import OpnsensePlugin.Environment
import OpnsensePlugin.Python.CutObject
import OpnsensePlugin.Python.Lines

/-!
# The audit log

`AuditLog.append` writes one JSON object to a line and leaves characters that
are not ASCII as they are. `tail` reads the lines of the file, `iter_all` what
`str.splitlines` makes of it, which cuts at more characters.
-/

namespace OpnsensePlugin

open Python

/-- An entry as it is read: `AuditEntry` does not check the types of its fields. -/
structure ReadEntry where
  ts : Json
  user : Json
  action : Json
  target : Json
  host : Json
  result : Json
  durationMs : Json
  detail : Json
  payloadSha256 : Json

namespace AuditEntry

/-- `asdict(entry)` -/
def members (entry : AuditEntry) : List (Str × Scalar) :=
  [("ts", .text entry.ts), ("user", .text entry.user), ("action", .text entry.action),
    ("target", .text entry.target), ("host", .text entry.host), ("result", .text entry.result),
    ("duration_ms", .number entry.durationMs), ("detail", .text entry.detail),
    ("payload_sha256", .text entry.payloadSha256)]

/-- `json.dumps(asdict(entry), ensure_ascii=False, separators=(",", ":"))` -/
def line (entry : AuditEntry) : Str := objectText entry.members

/-- The entry as it comes back from the log -/
def toRead (entry : AuditEntry) : ReadEntry where
  ts := .str entry.ts
  user := .str entry.user
  action := .str entry.action
  target := .str entry.target
  host := .str entry.host
  result := .str entry.result
  durationMs := .int entry.durationMs
  detail := .str entry.detail
  payloadSha256 := .str entry.payloadSha256

def loggedTexts (entry : AuditEntry) : List Str :=
  [entry.ts, entry.user, entry.action, entry.target, entry.host, entry.result, entry.detail,
    entry.payloadSha256]

end AuditEntry

namespace AuditLog

/-- The text of the log file, if there is one -/
abbrev File := Option Str

/-- How `append` fails apart from the operating system -/
inductive AppendError
  | digits
  | encoding
deriving DecidableEq

/-- How a reader fails -/
inductive ReadError
  | attribute
  | digits
  | recursion
deriving DecidableEq

/-- `append`: the file has been opened when UTF-8 refuses the line. -/
def append (entry : AuditEntry) (file : File) : Except AppendError Unit × File :=
  if maxStrDigits < (natText entry.durationMs.natAbs).length then (.error .digits, file)
  else if entry.line.all isEncodable then (.ok (), some (file.getD [] ++ entry.line ++ [10]))
  else (.error .encoding, some (file.getD []))

/-- `AuditEntry(**known)`; `none` stands for the `TypeError` of a missing field. -/
def entryOf (fields : List (Str × Json)) : Option ReadEntry := do
  let ts ← field fields "ts"
  let user ← field fields "user"
  let action ← field fields "action"
  let target ← field fields "target"
  let host ← field fields "host"
  let result ← field fields "result"
  let durationMs ← field fields "duration_ms"
  return { ts, user, action, target, host, result, durationMs
           detail := fieldD fields "detail" (.str [])
           payloadSha256 := fieldD fields "payload_sha256" (.str []) }

/-- What the decoder is given by the interpreter: `float` of a literal, and the nesting that is left -/
structure Interpreter where
  readFloat : Str → PyFloat
  depth : Nat

/-- The body of both loops: a piece that is no entry is skipped. -/
def readLine (interpreter : Interpreter) (ln : Str) : Except ReadError (Option ReadEntry) :=
  if (strip ln).isEmpty then .ok none
  else match loads interpreter.readFloat interpreter.depth (strip ln) with
    | .error .malformed => .ok none
    | .error .digits => .error .digits
    | .error .recursion => .error .recursion
    | .ok (.obj fields) => .ok (entryOf fields)
    | .ok _ => .error .attribute

def readLines (interpreter : Interpreter) : List Str → Except ReadError (List ReadEntry)
  | [] => .ok []
  | ln :: rest => do
      let found ← readLine interpreter ln
      let others ← readLines interpreter rest
      return found.toList ++ others

/-- `items[-limit:]` -/
def lastItems (limit : Int) (items : List Str) : List Str :=
  if 0 < limit then items.drop (items.length - limit.toNat) else items.drop (-limit).toNat

/-- `tail` -/
def tail (interpreter : Interpreter) (limit : Int) : File → Except ReadError (List ReadEntry)
  | none => .ok []
  | some text => readLines interpreter (lastItems limit (readlines (universalNewlines text)))

/-- `iter_all` -/
def iterAll (interpreter : Interpreter) : File → Except ReadError (List ReadEntry)
  | none => .ok []
  | some text => readLines interpreter (splitlines (universalNewlines text))

/-- Entries that are appended one after the other -/
def appendAll (entries : List AuditEntry) (file : File) : File :=
  entries.foldl (fun file entry => (append entry file).2) file

/-! ## The lines of the file -/

section Lines

variable {entry : AuditEntry} {entries : List AuditEntry} {c : CodePoint}
  {interpreter : Interpreter}

/-- An entry that `append` accepts -/
def Appendable (entry : AuditEntry) : Prop :=
  (natText entry.durationMs.natAbs).length ≤ maxStrDigits ∧ entry.line.all isEncodable = true

theorem append_ok_iff {file : File} : (append entry file).1 = .ok () ↔ Appendable entry := by
  rw [append, Appendable]
  split
  · rename_i long
    simp [Nat.not_le.mpr long]
  · rename_i short
    split
    · rename_i encodable
      simp [Nat.le_of_not_lt short, encodable]
    · rename_i refused
      simp [refused]

theorem append_file (appendable : Appendable entry) {file : File} :
    (append entry file).2 = some (file.getD [] ++ entry.line ++ [10]) := by
  rw [append, if_neg (Nat.not_lt.mpr appendable.1), if_pos appendable.2]

theorem appendAll_some (appendable : ∀ entry ∈ entries, Appendable entry) {text : Str} :
    appendAll entries (some text) = some (text ++ linesText (entries.map AuditEntry.line)) := by
  induction entries generalizing text with
  | nil => simp [appendAll, linesText]
  | cons entry more ih =>
      have later := @ih (fun other member => appendable other (List.mem_cons_of_mem entry member))
        (text ++ entry.line ++ [10])
      rw [appendAll] at later
      rw [appendAll, List.foldl_cons, append_file (appendable entry (by simp)), Option.getD_some,
        later, List.map_cons, linesText_cons]
      simp

/-- The file after the first entry -/
theorem appendAll_none (appendable : ∀ entry ∈ entries, Appendable entry) (some : entries ≠ []) :
    appendAll entries none = .some (linesText (entries.map AuditEntry.line)) := by
  cases entries with
  | nil => exact absurd rfl some
  | cons entry more =>
      have later := @appendAll_some more
        (fun other member => appendable other (List.mem_cons_of_mem entry member))
        (entry.line ++ [10])
      rw [appendAll] at later
      rw [appendAll, List.foldl_cons, append_file (appendable entry (by simp)), Option.getD_none,
        List.nil_append, later, List.map_cons, linesText_cons]
      simp

theorem line_printable : IsPrintable entry.line := objectText_printable

theorem not_mem_line (control : c < 32) : c ∉ entry.line :=
  fun inside => Nat.not_le.mpr control (line_printable c inside)

/-- A line with blanks behind it -/
theorem strip_line {trail : Str} (blank : ∀ c ∈ trail, isSpace c = true) :
    strip (entry.line ++ trail) = entry.line := by
  have shape : ∃ middle, entry.line = code '\x7b' :: (middle ++ [code '\x7d']) := ⟨_, rfl⟩
  rcases shape with ⟨middle, shape⟩
  have whole : entry.line ++ trail = code '\x7b' :: (middle ++ code '\x7d' :: trail) := by
    rw [shape]
    simp
  rw [whole, strip_bracketed (by decide) (by decide), rstrip_blank blank, shape]

theorem members_fit (appendable : Appendable entry) : ∀ member ∈ entry.members, member.2.Fits := by
  intro member inside
  simp only [AuditEntry.members, List.mem_cons, List.not_mem_nil, or_false] at inside
  rcases inside with rfl | rfl | rfl | rfl | rfl | rfl | rfl | rfl | rfl
  case inr.inr.inr.inr.inr.inr.inl => exact appendable.1
  all_goals exact trivial

theorem entryOf_members : entryOf (objectFields [] entry.members) = some entry.toRead := by
  rfl

/-- A line is read as its entry. -/
theorem readLine_line (appendable : Appendable entry) (nesting : 0 < interpreter.depth)
    {trail : Str} (blank : ∀ c ∈ trail, isSpace c = true) :
    readLine interpreter (entry.line ++ trail) = .ok (some entry.toRead) := by
  have some : entry.line.isEmpty = false := rfl
  have read : loads interpreter.readFloat interpreter.depth entry.line =
      .ok (.obj (objectFields [] entry.members)) := by
    rcases Nat.exists_eq_add_of_le' nesting with ⟨less, deeper⟩
    rw [deeper]
    exact loads_objectText (members_fit appendable)
  rw [readLine, strip_line blank, some, read]
  simp only [Bool.false_eq_true, if_false, entryOf_members]

/-! ## Lines that are cut -/

/-- A text of the entry holds a line boundary that JSON writes as it is. -/
def HoldsBreak (entry : AuditEntry) : Prop :=
  ∃ text ∈ entry.loggedTexts, ∃ c ∈ text, c = 0x85 ∨ c = 0x2028 ∨ c = 0x2029

instance (entry : AuditEntry) : Decidable (HoldsBreak entry) := by
  unfold HoldsBreak
  infer_instance

theorem high_of_break (printable : 32 ≤ c) (ends : isLineBreak c = true) :
    128 ≤ c ∧ (c = 0x85 ∨ c = 0x2028 ∨ c = 0x2029) := by
  simp only [isLineBreak, Bool.or_eq_true, decide_eq_true_eq] at ends
  rcases ends with ((((((((rfl | rfl) | rfl) | rfl) | rfl) | rfl) | rfl) | rfl) | rfl) | rfl
  all_goals
    revert printable
    decide

theorem members_plainKeys : PlainKeys entry.members := by
  have keys : ∀ key ∈ (["ts", "user", "action", "target", "host", "result", "duration_ms",
      "detail", "payload_sha256"] : List Str),
      key.head?.any isAsciiAlpha = true ∧ ∀ c ∈ key, c < 128 := by decide
  intro member inside
  exact keys member.1 (List.mem_map_of_mem inside)

theorem mem_loggedTexts {key text : Str} :
    (key, Scalar.text text) ∈ entry.members → text ∈ entry.loggedTexts := by
  intro inside
  simp only [AuditEntry.members, List.mem_cons, List.not_mem_nil, or_false, Prod.mk.injEq,
    Scalar.text.injEq, reduceCtorEq, and_false, false_or] at inside
  rcases inside with ⟨_, rfl⟩ | ⟨_, rfl⟩ | ⟨_, rfl⟩ | ⟨_, rfl⟩ | ⟨_, rfl⟩ | ⟨_, rfl⟩ | ⟨_, rfl⟩ |
    ⟨_, rfl⟩ <;> simp [AuditEntry.loggedTexts]

theorem exists_member {text : Str} (inside : text ∈ entry.loggedTexts) :
    ∃ key, (key, Scalar.text text) ∈ entry.members := by
  simp only [AuditEntry.loggedTexts, List.mem_cons, List.not_mem_nil, or_false] at inside
  rcases inside with rfl | rfl | rfl | rfl | rfl | rfl | rfl | rfl
  · exact ⟨"ts", by simp [AuditEntry.members]⟩
  · exact ⟨"user", by simp [AuditEntry.members]⟩
  · exact ⟨"action", by simp [AuditEntry.members]⟩
  · exact ⟨"target", by simp [AuditEntry.members]⟩
  · exact ⟨"host", by simp [AuditEntry.members]⟩
  · exact ⟨"result", by simp [AuditEntry.members]⟩
  · exact ⟨"detail", by simp [AuditEntry.members]⟩
  · exact ⟨"payload_sha256", by simp [AuditEntry.members]⟩

/-- A place in the line at which `str.splitlines` cuts is in a text of the entry. -/
theorem line_cut {front rest : Str} (same : entry.line = front ++ c :: rest)
    (ends : isLineBreak c = true) :
    ∃ earlier key before after later,
      entry.members = earlier ++ (key, .text (before ++ c :: after)) :: later ∧
        front = code '\x7b' :: cutText earlier key (escaped before) ∧
        rest = escaped after ++ code '"' :: restText later := by
  have printable : 32 ≤ c := line_printable c (by rw [same]; simp)
  exact split_objectText members_plainKeys (high_of_break printable ends).1 same

theorem break_mem_line_iff : (∃ c ∈ entry.line, isLineBreak c = true) ↔ HoldsBreak entry := by
  constructor
  · rintro ⟨c, inside, ends⟩
    rcases List.append_of_mem inside with ⟨front, rest, same⟩
    rcases line_cut same ends with ⟨earlier, key, before, after, later, members, _, _⟩
    have occurs : (key, Scalar.text (before ++ c :: after)) ∈ entry.members := by
      rw [members]
      simp
    exact ⟨_, mem_loggedTexts occurs, c, by simp,
      (high_of_break (line_printable c inside) ends).2⟩
  · rintro ⟨text, member, c, inside, known⟩
    rcases exists_member member with ⟨key, occurs⟩
    have high : 128 ≤ c := by
      rcases known with rfl | rfl | rfl <;> decide
    have ends : isLineBreak c = true := by
      rcases known with rfl | rfl | rfl <;> decide
    exact ⟨c, mem_objectText high occurs inside, ends⟩

/-- The first piece of a line that is cut, stripped -/
theorem strip_cutText {earlier : List (Str × Scalar)} {key cut : Str} :
    ∃ shorter, strip (code '\x7b' :: cutText earlier key cut) =
      code '\x7b' :: cutText earlier key shorter ∧ shorter <+: cut := by
  have shape : ∃ middle, ∀ cut, code '\x7b' :: cutText earlier key cut =
      code '\x7b' :: (middle ++ code '"' :: cut) := by
    induction earlier with
    | nil => exact ⟨code '"' :: (escaped key ++ [code '"', code ':']), by simp [cutText]⟩
    | cons member more ih =>
        rcases ih with ⟨middle, same⟩
        refine ⟨memberText member ++ code ',' :: middle, ?_⟩
        intro cut
        have inner := (List.cons.inj (same cut)).2
        simp [cutText, inner]
  rcases shape with ⟨middle, same⟩
  refine ⟨rstrip cut, ?_, rstrip_before⟩
  rw [same, same, strip_bracketed (by decide) (by decide)]

/-- What a reader takes for an entry is an object with members. -/
theorem loads_of_readLine {piece : Str} {found : ReadEntry}
    (read : readLine interpreter piece = .ok (some found)) :
    ∃ first fields, loads interpreter.readFloat interpreter.depth (strip piece) =
      .ok (.obj (first :: fields)) := by
  rw [readLine] at read
  split at read
  · cases read
  · split at read
    · cases read
    · cases read
    · cases read
    · rename_i fields same
      cases fields with
      | nil => cases read
      | cons first others => exact ⟨first, others, same⟩
    · cases read

/-- No piece of a line that is cut is read as an entry. -/
theorem readLine_piece (appendable : Appendable entry) (broken : HoldsBreak entry) {piece : Str}
    (member : piece ∈ lineParts entry.line) {found : ReadEntry} :
    readLine interpreter piece ≠ .ok (some found) := by
  intro read
  rcases loads_of_readLine read with ⟨first, fields, same⟩
  have noReturn : 13 ∉ entry.line := not_mem_line (by decide)
  rcases exists_first_break (break_mem_line_iff.mpr broken) with ⟨front, c, rest, parted, ends, plain⟩
  have noReturn' := noReturn
  rw [parted] at member noReturn'
  rw [lineParts_first noReturn' ends plain] at member
  rcases List.mem_cons.mp member with rfl | member
  · rcases line_cut parted ends with ⟨earlier, key, before, after, later, members, rfl, _⟩
    have fits : ∀ other ∈ earlier, other.2.Fits := by
      intro other inside
      apply members_fit appendable
      rw [members]
      simp [inside]
    rcases @strip_cutText earlier key (escaped before) with ⟨shorter, stripped, inside⟩
    rcases @loads_cut _ _ interpreter.readFloat _ interpreter.depth key fits inside with
      ⟨error, failed⟩
    rw [stripped, failed] at same
    cases same
  · have start : ∃ front c rest, entry.line = front ++ c :: rest ∧ isLineBreak c = true ∧
        piece <+: rest := by
      have behind : 13 ∉ rest := fun inside => noReturn' (by simp [inside])
      rcases mem_lineParts behind member with inside | ⟨inner, d, last, rfl, boundary, inside⟩
      · exact ⟨front, c, rest, parted, ends, inside⟩
      · exact ⟨front ++ c :: inner, d, last, by rw [parted]; simp, boundary, inside⟩
    rcases start with ⟨front, c, rest, parted, ends, inside⟩
    rcases line_cut parted ends with ⟨earlier, key, before, after, later, members, _, rfl⟩
    have follows : FollowsText (restText later) := by
      apply followsText_restText
      intro other inside
      apply @members_plainKeys entry
      rw [members]
      simp [inside]
    rcases @exists_strip piece with ⟨lead, trail, whole, blank⟩
    have clear : ∀ c ∈ lead, IsLead c := by
      intro c occurs
      have space := blank c occurs
      constructor
      · rintro rfl
        exact absurd space (by decide)
      · rintro rfl
        exact absurd space (by decide)
    rw [whole] at inside
    exact loads_inside follows inside clear same

/-! ## Whole logs -/

theorem readLines_append {front back : List Str} {found : List ReadEntry} :
    readLines interpreter (front ++ back) = .ok found ↔
      ∃ first second, readLines interpreter front = .ok first ∧
        readLines interpreter back = .ok second ∧ found = first ++ second := by
  induction front generalizing found with
  | nil => simp [readLines]
  | cons piece more ih =>
      simp only [List.cons_append, readLines, bind_eq_ok, pure_eq_ok, ih]
      constructor
      · rintro ⟨entry, read, _, ⟨first, second, front, back, rfl⟩, rfl⟩
        exact ⟨_, second, ⟨entry, read, first, front, rfl⟩, back, by simp⟩
      · rintro ⟨_, second, ⟨entry, read, first, front, rfl⟩, back, rfl⟩
        exact ⟨entry, read, _, ⟨first, second, front, back, rfl⟩, by simp⟩

/-- Pieces of which none is an entry -/
theorem readLines_none {pieces : List Str} {found : List ReadEntry}
    (none : ∀ piece ∈ pieces, ∀ entry, readLine interpreter piece ≠ .ok (some entry))
    (read : readLines interpreter pieces = .ok found) : found = [] := by
  induction pieces generalizing found with
  | nil =>
      cases read
      rfl
  | cons piece more ih =>
      simp only [readLines, bind_eq_ok, pure_eq_ok] at read
      rcases read with ⟨entry, first, others, behind, rfl⟩
      have rest := ih (fun other member => none other (List.mem_cons_of_mem piece member)) behind
      cases entry with
      | none => simpa using rest
      | some entry => exact absurd first (none piece (by simp) entry)

/-- The pieces of a line that is not cut -/
theorem readLines_whole (appendable : Appendable entry) (nesting : 0 < interpreter.depth)
    (whole : ¬ HoldsBreak entry) :
    readLines interpreter (lineParts entry.line) = .ok [entry.toRead] := by
  have plain : ∀ c ∈ entry.line, isLineBreak c = false := by
    intro c inside
    rw [Bool.eq_false_iff]
    exact fun ends => whole (break_mem_line_iff.mp ⟨c, inside, ends⟩)
  have read := @readLine_line entry interpreter appendable nesting [] (by simp)
  rw [List.append_nil] at read
  rw [lineParts_single plain, readLines, read]
  rfl

/-- Every line that is cut is an entry less. -/
theorem length_readLines (appendable : ∀ entry ∈ entries, Appendable entry)
    (nesting : 0 < interpreter.depth) {found : List ReadEntry}
    (read : readLines interpreter ((entries.map AuditEntry.line).flatMap lineParts) = .ok found) :
    found.length = (entries.filter fun entry => ¬ HoldsBreak entry).length := by
  induction entries generalizing found with
  | nil =>
      cases read
      rfl
  | cons entry more ih =>
      rw [List.map_cons, List.flatMap_cons, readLines_append] at read
      rcases read with ⟨first, second, front, back, rfl⟩
      have behind := ih (fun other member => appendable other (List.mem_cons_of_mem entry member))
        back
      by_cases broken : HoldsBreak entry
      · have none := readLines_none (fun piece member found =>
          readLine_piece (appendable entry (by simp)) broken member) front
        simp [none, broken, behind]
      · rw [readLines_whole (appendable entry (by simp)) nesting broken] at front
        cases front
        simp [broken, behind, Nat.add_comm]

/-- The pieces of the lines are the entries exactly if no line is cut. -/
theorem readLines_pieces_iff (appendable : ∀ entry ∈ entries, Appendable entry)
    (nesting : 0 < interpreter.depth) :
    readLines interpreter ((entries.map AuditEntry.line).flatMap lineParts) =
        .ok (entries.map AuditEntry.toRead) ↔ ∀ entry ∈ entries, ¬ HoldsBreak entry := by
  constructor
  · intro read
    have count := length_readLines appendable nesting read
    rw [List.length_map, eq_comm, List.length_filter_eq_length_iff] at count
    intro entry member
    simpa using count entry member
  · intro whole
    induction entries with
    | nil => rfl
    | cons entry more ih =>
        rw [List.map_cons, List.flatMap_cons, readLines_append]
        refine ⟨[entry.toRead], more.map AuditEntry.toRead, ?_, ?_, rfl⟩
        · exact readLines_whole (appendable entry (by simp)) nesting (whole entry (by simp))
        · exact ih (fun other member => appendable other (List.mem_cons_of_mem entry member))
            fun other member => whole other (List.mem_cons_of_mem entry member)

theorem readLines_lines (appendable : ∀ entry ∈ entries, Appendable entry)
    (nesting : 0 < interpreter.depth) :
    readLines interpreter ((entries.map AuditEntry.line).map (· ++ [10])) =
      .ok (entries.map AuditEntry.toRead) := by
  induction entries with
  | nil => rfl
  | cons entry more ih =>
      have feed : ∀ c ∈ ([10] : Str), isSpace c = true := by decide
      have first := @readLine_line entry interpreter (appendable entry (by simp)) nesting [10] feed
      rw [List.map_cons, List.map_cons, readLines, first,
        ih fun other member => appendable other (List.mem_cons_of_mem entry member)]
      rfl

/-- `iter_all` returns what was appended exactly if no text holds a line boundary. -/
theorem iterAll_appendAll_iff (appendable : ∀ entry ∈ entries, Appendable entry)
    (nesting : 0 < interpreter.depth) :
    iterAll interpreter (appendAll entries none) = .ok (entries.map AuditEntry.toRead) ↔
      ∀ entry ∈ entries, ¬ HoldsBreak entry := by
  cases entries with
  | nil => simp [appendAll, iterAll]
  | cons entry more =>
      have plain : ∀ line ∈ (entry :: more).map AuditEntry.line, 13 ∉ line := by
        intro line member
        rcases List.mem_map.mp member with ⟨other, _, rfl⟩
        exact not_mem_line (by decide)
      rw [appendAll_none appendable (by simp), iterAll,
        universalNewlines_eq (not_mem_linesText plain (by decide)), splitlines_linesText plain]
      exact readLines_pieces_iff appendable nesting

/-- `tail` returns the last entries, and all of them for a limit of zero. -/
theorem tail_appendAll (appendable : ∀ entry ∈ entries, Appendable entry)
    (nesting : 0 < interpreter.depth) {limit : Nat} :
    tail interpreter limit (appendAll entries none) = .ok ((if 0 < limit then
      entries.drop (entries.length - limit) else entries).map AuditEntry.toRead) := by
  cases entries with
  | nil => simp [appendAll, tail]
  | cons entry more =>
      generalize same : entry :: more = entries at appendable
      have some : entries ≠ [] := by simp [← same]
      have plain : ∀ line ∈ entries.map AuditEntry.line, 13 ∉ line ∧ 10 ∉ line := by
        intro line member
        rcases List.mem_map.mp member with ⟨other, _, rfl⟩
        exact ⟨not_mem_line (by decide), not_mem_line (by decide)⟩
      rw [appendAll_none appendable some, tail, universalNewlines_eq
        (not_mem_linesText (fun line member => (plain line member).1) (by decide)),
        readlines_linesText fun line member => (plain line member).2]
      by_cases positive : 0 < limit
      · have last : lastItems limit ((entries.map AuditEntry.line).map (· ++ [10])) =
            ((entries.drop (entries.length - limit)).map AuditEntry.line).map (· ++ [10]) := by
          have limited : (0 : Int) < limit := by exact_mod_cast positive
          rw [lastItems, if_pos limited]
          simp [List.map_drop]
        rw [last, if_pos positive]
        exact readLines_lines (fun other member => appendable other (List.mem_of_mem_drop member))
          nesting
      · have zero : limit = 0 := Nat.eq_zero_of_not_pos positive
        subst zero
        have all : lastItems 0 ((entries.map AuditEntry.line).map (· ++ [10])) =
            (entries.map AuditEntry.line).map (· ++ [10]) := by
          simp [lastItems]
        rw [if_neg positive]
        exact (congrArg (readLines interpreter) all).trans (readLines_lines appendable nesting)

/-- Both readers return what they should exactly if no text holds a line boundary and entries are
asked for. -/
theorem readers_agree_iff (appendable : ∀ entry ∈ entries, (append entry none).1 = .ok ())
    (nesting : 0 < interpreter.depth) (limit : Nat) :
    (iterAll interpreter (appendAll entries none) = .ok (entries.map AuditEntry.toRead) ∧
      tail interpreter limit (appendAll entries none) =
        .ok ((entries.drop (entries.length - limit)).map AuditEntry.toRead)) ↔
      (∀ entry ∈ entries, ¬ HoldsBreak entry) ∧ (0 < limit ∨ entries = []) := by
  have accepted : ∀ entry ∈ entries, Appendable entry :=
    fun entry member => append_ok_iff.mp (appendable entry member)
  rw [iterAll_appendAll_iff accepted nesting, tail_appendAll accepted nesting]
  apply and_congr_right
  intro _
  by_cases positive : 0 < limit
  · simp [positive]
  · have zero : limit = 0 := Nat.eq_zero_of_not_pos positive
    subst zero
    constructor
    · intro same
      have sizes := congrArg (Except.map List.length) same
      simp [Except.map] at sizes
      exact .inr sizes
    · rintro (impossible | rfl)
      · exact absurd impossible positive
      · rfl

end Lines

/-! ## A target with a line separator -/

def separatorEntry : AuditEntry where
  ts := "2026-01-01T00:00:00Z"
  user := "qa"
  action := "alias.create"
  target := [code 'a', 0x2028, code 'b']
  host := "lab"
  result := "ok"
  durationMs := 12
  detail := []
  payloadSha256 := []

def separatorInterpreter : Interpreter where
  readFloat _ := .nan
  depth := 900

theorem separator_appendable :
    ∀ entry ∈ [separatorEntry], (append entry none).1 = .ok () := by
  decide +kernel

/-- The entry is in the log and `tail` returns it, also when no entry is asked for; `iter_all`
does not. -/
theorem readers_disagree :
    (append separatorEntry none).1 = .ok () ∧
      tail separatorInterpreter 1 (appendAll [separatorEntry] none) = .ok [separatorEntry.toRead] ∧
      tail separatorInterpreter 0 (appendAll [separatorEntry] none) = .ok [separatorEntry.toRead] ∧
      iterAll separatorInterpreter (appendAll [separatorEntry] none) ≠
        .ok [separatorEntry.toRead] := by
  have accepted : ∀ entry ∈ [separatorEntry], Appendable entry :=
    fun entry member => append_ok_iff.mp (separator_appendable entry member)
  have nesting : 0 < separatorInterpreter.depth := by decide
  have one := @tail_appendAll [separatorEntry] separatorInterpreter accepted nesting 1
  have zero := @tail_appendAll [separatorEntry] separatorInterpreter accepted nesting 0
  refine ⟨separator_appendable _ (by simp), one, zero, ?_⟩
  intro same
  have whole := (iterAll_appendAll_iff accepted nesting).mp same
  exact absurd (whole separatorEntry (by simp)) (by decide)

theorem readers_agree_iff_separator :
    (iterAll separatorInterpreter (appendAll [separatorEntry] none) =
        .ok ([separatorEntry].map AuditEntry.toRead) ∧
      tail separatorInterpreter 1 (appendAll [separatorEntry] none) =
        .ok (([separatorEntry].drop ([separatorEntry].length - 1)).map AuditEntry.toRead)) ↔
      (∀ entry ∈ [separatorEntry], ¬ HoldsBreak entry) ∧ (0 < 1 ∨ [separatorEntry] = []) :=
  readers_agree_iff separator_appendable (by decide) 1

end AuditLog

end OpnsensePlugin

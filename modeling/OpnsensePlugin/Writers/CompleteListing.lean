import OpnsensePlugin.Writers.Preflight

/-!
# Absence from a listing

The writer takes a missing UUID for absent only if the listing shows every
object of the node: the rows that the firewall counts are as many as the total
it reports. Generated lockout rows are not counted by it, so they are not
counted here and cannot stand in for a row that is missing.
-/

namespace OpnsensePlugin

open Effects Python

section

variable [Runtime]

/-- A row that the DNAT controller adds to its listing -/
def isGenerated (resource : Resource) (row : Row) : Bool :=
  resource = .portForward && isLockout (rowUuid row)

/-- A number, or a text of digits, that means `count` -/
def Reports (count : Nat) : Json → Prop
  | .int value => value = count
  | .float value => ((Json.float value).toInt : Except Exn Int) = .ok count
  | .str text => text.all isAsciiDigit = true ∧
      ∀ value, parseInt 10 text = some value → value = count
  | _ => False

/-- An answer that lists the objects `listed` of a table, each of them once, with the size of the
whole table as its total. -/
structure ListsPart (resource : Resource) (table listed : List Str) (out : List (Str × Json)) :
    Prop where
  rows : ∃ rows : List Row, field out "rows" = some (.arr (rows.map .obj)) ∧
    (rows.filter fun row => !isGenerated resource row).map (fun row => field row "uuid") =
      listed.map fun uuid => some (.str uuid)
  nodup : listed.Nodup
  subset : listed ⊆ table
  total : ∃ total, field out "total" = some total ∧ Reports table.length total

end

section Counting

variable [Runtime] {resource : Resource} {table listed : List Str} {out : List (Str × Json)}

omit [Runtime] in
theorem rowsOf_objects {rows : List Row} : rowsOf (rows.map .obj) = some rows := by
  unfold rowsOf
  induction rows with
  | nil => rfl
  | cons row rest ih => simp [ih]

omit [Runtime] in
/-- Rows of a table that are as many as its objects are all of them. -/
theorem subset_of_length_le (nodup : listed.Nodup) (subset : listed ⊆ table)
    (enough : table.length ≤ listed.length) : table ⊆ listed := by
  have part := List.subperm_of_subset nodup subset
  exact (part.perm_of_length_le enough).symm.subset

theorem countedRows_eq {rows : List Row}
    (listing : (rows.filter fun row => !isGenerated resource row).map (fun row => field row "uuid") =
      listed.map fun uuid => some (.str uuid)) :
    countedRows resource rows = listed.length := by
  have lengths := congrArg List.length listing
  rw [List.length_map, List.length_map] at lengths
  rw [countedRows, List.countP_eq_length_filter, ← lengths]
  rfl

omit [Runtime] in
theorem listedTotal_reports {count : Nat} {total : Json} {value : Int}
    (reports : Reports count total) (read : listedTotal total = .ok value) : value = count := by
  cases total with
  | int number =>
      dsimp only [listedTotal] at read
      split at read
      · cases read
        exact reports
      · cases read
  | str text =>
      dsimp only [listedTotal] at read
      split at read
      · cases read
      · split at read
        · rename_i found
          cases read
          exact reports.2 _ found
        · cases read
  | _ => cases read

/-- A listing that `search` accepts shows the whole table. -/
theorem searchRows_complete (part : ListsPart resource table listed out) {rows : List Row}
    (accepted : searchRows resource (.obj out) = .ok rows) :
    table ⊆ listed ∧
      (rows.filter fun row => !isGenerated resource row).map (fun row => field row "uuid") =
        listed.map fun uuid => some (.str uuid) := by
  rcases part.rows with ⟨known, rowsEq, listing⟩
  rcases part.total with ⟨total, totalEq, reports⟩
  simp only [searchRows, rowsEq, rowsOf_objects, totalEq, bind_eq_ok, raiseIf_eq_ok,
    pure_eq_ok] at accepted
  rcases accepted with ⟨value, read, _, enough, rfl⟩
  have counted := countedRows_eq listing
  have same := listedTotal_reports reports read
  have whole : table.length ≤ listed.length := by
    rw [decide_eq_false_iff_not, same, counted] at enough
    omega
  exact ⟨subset_of_length_le part.nodup part.subset whole, listing⟩

/-- No row has the UUID, in any case of its letters. -/
theorem isAbsent_listed {uuid : Str} {rows : List Row}
    (listing : (rows.filter fun row => !isGenerated resource row).map (fun row => field row "uuid") =
      listed.map fun uuid => some (.str uuid))
    (absent : isAbsent uuid rows = true) {known : Str} (member : known ∈ listed) :
    Runtime.lower known ≠ Runtime.lower uuid := by
  have shown : some (Json.str known) ∈
      (rows.filter fun row => !isGenerated resource row).map fun row => field row "uuid" := by
    rw [listing]
    exact List.mem_map.mpr ⟨known, member, rfl⟩
  rcases List.mem_map.mp shown with ⟨row, found, named⟩
  have text : rowUuid row = known := by
    rw [rowUuid, fieldText, fieldD, named]
    rfl
  simp only [isAbsent, Bool.not_eq_true', List.any_eq_false, decide_eq_true_eq] at absent
  have other := absent row (List.mem_of_mem_filter found)
  rwa [text] at other

end Counting

namespace VerifiedFirewallWriter

variable [Runtime] {writer : VerifiedFirewallWriter} {State : Type} {before after : State}
  {role : Role} {uuid : Str} {table listed : List Str} {out : List (Str × Json)}
  {outcome : Except Exn Bool}

/-- Absence is claimed only from a listing of the whole table; a listing that misses a row of it is
refused. -/
theorem verify_absent (part : ListsPart writer.resource table listed out)
    (run : (writer.verify uuid none role : Py Role State Bool).Run before
      [⟨.get role writer.searchPath searchParams, .ok (.obj out)⟩] outcome after) :
    (outcome = .ok true → ∀ known ∈ table, Runtime.lower known ≠ Runtime.lower uuid) ∧
      ((∃ known ∈ table, known ∉ listed) → ∃ error, outcome = .error error) := by
  rw [verify, search, clientGet, Action.run_bind_pure] at run
  rcases run with ⟨result, searched, rfl⟩
  rw [Action.run_bind_decoded] at searched
  rcases searched with ⟨reply, tail, same, answered⟩
  rcases List.cons.inj same with ⟨event, rfl⟩
  cases event
  rcases answered with ⟨value, received, rest⟩ | ⟨error, received, _⟩
  rotate_left
  · cases received
  cases received
  rw [Action.run_ofExcept] at rest
  rcases rest with ⟨_, rfl, _⟩
  cases accepted : searchRows writer.resource (.obj out) with
  | error error => exact ⟨by simp [Except.map], fun _ => ⟨error, rfl⟩⟩
  | ok rows =>
      rcases searchRows_complete part accepted with ⟨complete, listing⟩
      constructor
      · intro success known member
        exact isAbsent_listed listing (Except.ok.inj success) (complete member)
      · rintro ⟨known, member, missing⟩
        exact absurd (complete member) missing

/-- The run on an accepted listing -/
theorem verify_listed {rows : List Row} (accepted : searchRows writer.resource (.obj out) = .ok rows) :
    (writer.verify uuid none role : Py Role State Bool).Run before
      [⟨.get role writer.searchPath searchParams, .ok (.obj out)⟩] (.ok (isAbsent uuid rows))
      before := by
  rw [verify, search, clientGet, Action.run_bind_pure]
  refine ⟨.ok rows, ?_, rfl⟩
  rw [Action.run_bind_decoded]
  refine ⟨.ok (.obj out), [], rfl, .inl ⟨.obj out, rfl, ?_⟩⟩
  exact Action.run_ofExcept.mpr ⟨rfl, accepted.symm, rfl⟩

end VerifiedFirewallWriter

namespace ListingDemo

def first : Str := "06ef0c66-91fb-490a-9345-2fd20b1bad8e"

def second : Str := "b3d7a5f0-5b0c-4a4e-9d5e-0f4be5b0a0c1"

def deleted : Str := "5f0c66aa-91fb-490a-9345-2fd20b1bad8e"

/-- Two port forwards and a lockout row, which the total leaves out -/
def rows : List Row :=
  [[("uuid", .str "lockout_1")], [("uuid", .str second)], [("uuid", .str first)]]

def answer : List (Str × Json) := [("rows", .arr (rows.map .obj)), ("total", .str "2")]

def writer : VerifiedFirewallWriter where
  client := ⟨"fw", "https://fw"⟩
  peer := none
  resource := .portForward
  actor := "plugin"
  haVerifyAttempts := 6
  haSyncMode := .automatic
  attempts_pos := one_le_six_attempts
  attempts_le_ten := six_attempts_le_ten

theorem listsPart :
    @ListsPart Runtime.ascii .portForward [first, second] [second, first] answer := by
  refine @ListsPart.mk Runtime.ascii _ _ _ _ ⟨rows, rfl, rfl⟩ (by decide) (by decide) ?_
  refine ⟨.str "2", rfl, by decide, fun value read => ?_⟩
  have two : parseInt 10 "2" = some 2 := by decide
  rw [two] at read
  cases read
  rfl

/-- The deleted port forward is on no row, and all rows of the table are shown. -/
theorem absence_verified :
    (∀ known ∈ ([first, second] : List Str),
      Runtime.ascii.lower known ≠ Runtime.ascii.lower deleted) ∧
      ¬ ∃ known ∈ ([first, second] : List Str), known ∉ ([second, first] : List Str) := by
  have accepted : @searchRows Runtime.ascii .portForward (.obj answer) = .ok rows := rfl
  have run := @VerifiedFirewallWriter.verify_listed Runtime.ascii writer Unit () .client deleted
    answer rows accepted
  have verified := @VerifiedFirewallWriter.verify_absent Runtime.ascii writer Unit () () .client
    deleted _ _ answer _ listsPart run
  refine ⟨verified.1 rfl, fun missing => ?_⟩
  rcases verified.2 missing with ⟨error, same⟩
  cases same

end ListingDemo

end OpnsensePlugin

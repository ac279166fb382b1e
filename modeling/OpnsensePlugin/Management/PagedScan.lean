import OpnsensePlugin.Management.MutationRuns
import OpnsensePlugin.Routes.FormValues

/-!
# The scan for a deleted object

A table that the appliance serves page by page is scanned until as many rows
were seen as it reports. On a fixed table no page is missed or read twice, so
the scan tells whether the deleted object is still there.
-/

namespace OpnsensePlugin

open Effects Python

namespace Management

variable [Runtime]

/-- The row of an object, with a text as its UUID -/
abbrev TableRow := List (Str × Json)

def IsNamed (row : TableRow) : Prop := ∃ text, field row "uuid" = some (.str text)

/-- The row has the UUID, in any case of its letters. -/
def Names (uuid : Str) (row : TableRow) : Prop :=
  ∃ text, field row "uuid" = some (.str text) ∧ Runtime.lower text = uuid

/-- The rows after the first `observed` ones that fit on a page -/
def pageAfter (table : List TableRow) (observed : Nat) : List TableRow :=
  (table.drop observed).take pageSize

/-- A request for a page is answered with its rows and the size of the table. -/
def Serves (table : List TableRow) : Exchange Role → Prop
  | ⟨.get _ _ params, reply⟩ => ∀ page : Nat, field params "current" = some (.int (page + 1 : Nat)) →
      ∃ out total, reply = .ok (.obj out) ∧
        field out "rows" = some (.arr ((pageAfter table (page * pageSize)).map .obj)) ∧
        field out "total" = some total ∧ isBool total = false ∧
        (total.toInt : Except Exn Int) = .ok table.length
  | _ => True

/-! ## Rows -/

section Rows

variable {spec : Spec} {row : TableRow} {text : Str}

theorem field_selectedFormFields {fields : List (Str × Json)} {name : Str} :
    field (selectedFormFields fields) name = (field fields name).map selectedForm := by
  induction fields with
  | nil => rfl
  | cons entry rest ih =>
      rcases entry with ⟨key, value⟩
      rw [selectedFormFields, field_cons, field_cons, ih]
      split <;> rfl

/-- A row with a UUID is no set of options, so its fields are decoded one by one. -/
theorem selectedForm_row (named : field row "uuid" = some (.str text)) :
    selectedForm (.obj row) = .obj (selectedFormFields row) := by
  have member : (("uuid" : Str), Json.str text) ∈ row := mem_of_field named
  have plain : row.isEmpty = false := by
    cases row with
    | nil => cases named
    | cons => rfl
  have options : (row.all fun entry => isOption entry.2) = false := by
    rw [List.all_eq_false]
    exact ⟨_, member, by simp [isOption]⟩
  rw [selectedForm]
  simp [plain, options]

omit [Runtime] in
/-- The listed fields of a row keep its UUID. -/
theorem publicRow_fields {fields : List (Str × Json)} {items : List FieldSpec}
    {start : List (Str × Json)} (named : field fields "uuid" = some (.str text))
    (kept : field start "uuid" = some (.str text)) :
    ∃ shown, items.foldlM (fun row item =>
        if item.secret || item.writeOnly then return row
        else do
          let value ← get (.obj fields) item.name
          return match listedValue value with
            | some value => setField item.name value row
            | none => row) start = (.ok shown : Except Exn (List (Str × Json))) ∧
      field shown "uuid" = some (.str text) := by
  induction items generalizing start with
  | nil => exact ⟨start, rfl, kept⟩
  | cons item rest ih =>
      rw [List.foldlM_cons]
      by_cases hidden : (item.secret || item.writeOnly) = true
      · rw [if_pos hidden]
        exact ih kept
      · rw [if_neg hidden]
        rcases @get_obj fields item.name with ⟨value, found, same⟩
        rw [found]
        cases listed : listedValue value with
        | none =>
            have step := ih kept
            simpa [listed] using step
        | some shown =>
            have still : field (setField item.name shown start) "uuid" = some (.str text) := by
              rw [field_setField]
              split
              · rename_i named_uuid
                rw [← named_uuid] at same
                rw [same _ named] at listed
                rw [← listed]
                rfl
              · exact kept
            have step := ih still
            simpa [listed] using step

theorem publicRow_named (named : field row "uuid" = some (.str text)) :
    ∃ shown, publicRow spec (selectedForm (.obj row)) = .ok shown ∧
      field shown "uuid" = some (.str text) := by
  have selected : field (selectedFormFields row) "uuid" = some (.str text) := by
    rw [field_selectedFormFields, named]
    rfl
  rw [selectedForm_row named, publicRow]
  have uuid : (Json.get (.obj (selectedFormFields row)) "uuid" : Except Exn Json) =
      .ok (.str text) := by
    rw [Json.get_eq_ok]
    exact ⟨_, rfl, by rw [fieldD, selected]; rfl⟩
  rw [uuid]
  exact publicRow_fields selected rfl

/-- The shown rows of a page have the UUIDs of the page. -/
theorem publicRows_named {rows : List TableRow} (named : ∀ row ∈ rows, IsNamed row) :
    ∃ shown, (rows.map Json.obj).mapM (fun row => publicRow spec (selectedForm row)) = .ok shown ∧
      shown.map (fun row => field row "uuid") = rows.map (fun row => field row "uuid") := by
  induction rows with
  | nil => exact ⟨[], rfl, rfl⟩
  | cons row rest ih =>
      rcases ih (fun other member => named other (List.mem_cons_of_mem _ member)) with
        ⟨others, listed, same⟩
      rcases named row (List.mem_cons_self ..) with ⟨text, found⟩
      rcases @publicRow_named _ spec row text found with ⟨shown, first, uuid⟩
      refine ⟨shown :: others, ?_, ?_⟩
      · rw [List.map_cons, List.mapM_cons, first, listed]
        rfl
      · rw [List.map_cons, List.map_cons, uuid, found, same]

/-- The search of the shown rows finds the UUID exactly if a row has it. -/
theorem hasUuid_named {uuid : Str} {rows shown : List TableRow} (named : ∀ row ∈ rows, IsNamed row)
    (same : shown.map (fun row => field row "uuid") = rows.map fun row => field row "uuid") :
    ∃ found, hasUuid uuid shown = .ok found ∧ (found = true ↔ ∃ row ∈ rows, Names uuid row) := by
  induction rows generalizing shown with
  | nil =>
      rw [List.map_nil, List.map_eq_nil_iff] at same
      subst same
      exact ⟨false, rfl, by simp⟩
  | cons row rest ih =>
      rcases List.map_eq_cons_iff.mp same with ⟨first, others, rfl, here, there⟩
      rcases named row (List.mem_cons_self ..) with ⟨text, found⟩
      rcases ih (fun other member => named other (List.mem_cons_of_mem _ member)) there with
        ⟨later, searched, meaning⟩
      have shownUuid : fieldD first "uuid" (.str []) = .str text := by
        have known : field first "uuid" = some (.str text) := here.trans found
        rw [fieldD, known]
        rfl
      by_cases hit : Runtime.lower text = uuid
      · refine ⟨true, by simp [hasUuid, shownUuid, hit], ?_⟩
        exact ⟨fun _ => ⟨row, List.mem_cons_self .., text, found, hit⟩, fun _ => rfl⟩
      · refine ⟨later, by simp [hasUuid, shownUuid, hit, searched], ?_⟩
        rw [meaning, List.exists_mem_cons_iff]
        constructor
        · exact .inr
        · rintro (⟨other, known, hits⟩ | rest)
          · rw [found] at known
            cases known
            exact absurd hits hit
          · exact rest

end Rows

/-! ## Pages -/

section Pages

variable {spec : Spec} {State : Type} {before after : State} {trace : Trace Role} {role : Role}
  {uuid target : Str} {present incomplete : Exn} {table : List TableRow}

theorem listingOf_page {out : List (Str × Json)} {rows : List TableRow} {total : Json} {size : Nat}
    (named : ∀ row ∈ rows, IsNamed row)
    (rowsEq : field out "rows" = some (.arr (rows.map .obj)))
    (totalEq : field out "total" = some total) (number : isBool total = false)
    (read : (total.toInt : Except Exn Int) = .ok size) (fits : rows.length ≤ size) :
    ∃ listing : Listing, listingOf spec (.obj out) = .ok listing ∧ listing.total = size ∧
      listing.rows.map (fun row => field row "uuid") = rows.map fun row => field row "uuid" := by
  rcases @publicRows_named _ spec rows named with ⟨shown, listed, same⟩
  have objects : ((rows.map Json.obj).any fun row => !row.isObj) = false := by
    simp [Json.isObj]
  have counted : totalOf out (rows.map Json.obj).length = .ok (size : Int) := by
    have enough : (isBool total || decide ((size : Int) < (rows.map Json.obj).length)) = false := by
      rw [number, Bool.false_or, decide_eq_false_iff_not, List.length_map]
      omega
    simp only [totalOf, totalEq, read, enough, Bool.false_eq_true, if_false]
  refine ⟨⟨shown, size⟩, ?_, rfl, same⟩
  simp only [listingOf, rowsEq, objects, counted, listed]
  rfl

omit [Runtime] in
theorem length_pageAfter {observed : Nat} :
    (pageAfter table observed).length = min pageSize (table.length - observed) := by
  rw [pageAfter, List.length_take, List.length_drop]

omit [Runtime] in
theorem pageAfter_named {observed : Nat} (named : ∀ row ∈ table, IsNamed row) :
    ∀ row ∈ pageAfter table observed, IsNamed row := by
  intro row member
  exact named row (List.mem_of_mem_drop (List.mem_of_mem_take member))

/-- A page that is served honestly -/
theorem list_serves {page : Nat} {outcome : Except Exn Listing}
    (listable : path spec spec.search [] = .ok target) (named : ∀ row ∈ table, IsNamed row)
    (fits : page * pageSize ≤ table.length) (serves : ∀ event ∈ trace, Serves table event)
    (run : (list spec role (page + 1) : Py Role State Listing).Run before trace outcome after) :
    trace.length = 1 ∧ after = before ∧ ∃ listing : Listing, outcome = .ok listing ∧
      listing.total = table.length ∧
      listing.rows.map (fun row => field row "uuid") =
        (pageAfter table (page * pageSize)).map fun row => field row "uuid" := by
  rw [list, listable, Action.run_bind_ofExcept] at run
  rcases run with ⟨_, same, run⟩ | ⟨_, impossible, _⟩
  rotate_left
  · cases impossible
  cases same
  rw [callGet, Action.run_bind_decoded] at run
  rcases run with ⟨reply, tail, rfl, answered⟩
  rcases serves _ (List.mem_cons_self ..) page rfl with
    ⟨out, total, rfl, rowsEq, totalEq, number, read⟩
  rcases answered with ⟨value, received, rest⟩ | ⟨_, refused, _⟩
  rotate_left
  · cases refused
  cases received
  rw [Action.run_ofExcept] at rest
  rcases rest with ⟨rfl, rfl, rfl⟩
  have size : (pageAfter table (page * pageSize)).length ≤ table.length := by
    rw [length_pageAfter]
    omega
  rcases @listingOf_page _ spec out _ total table.length (pageAfter_named named) rowsEq totalEq
    number read size with ⟨listing, listed, totals, rows⟩
  exact ⟨rfl, rfl, listing, listed, totals, rows⟩

/-- What a page shows of the table: the object, the end of the table, or a full page. -/
theorem scanPage_serves {page : Nat} {outcome : Except Exn ScanProgress}
    (listable : path spec spec.search [] = .ok target) (named : ∀ row ∈ table, IsNamed row)
    (fits : page * pageSize ≤ table.length) (serves : ∀ event ∈ trace, Serves table event)
    (run : (scanPage spec role uuid present (page + 1) (page * pageSize) :
      Py Role State ScanProgress).Run before trace outcome after) :
    trace.length = 1 ∧ after = before ∧
      ((∃ row ∈ pageAfter table (page * pageSize), Names uuid row) ∧ outcome = .error present ∨
        (¬ ∃ row ∈ pageAfter table (page * pageSize), Names uuid row) ∧
          (table.length ≤ (page + 1) * pageSize ∧ outcome = .ok .complete ∨
            (page + 1) * pageSize < table.length ∧
              outcome = .ok (.full ((page + 1) * pageSize)))) := by
  rw [scanPage, Action.run_bind] at run
  rcases run with ⟨front, listing, middle, back, rfl, listed, run⟩ | ⟨error, rfl, listed⟩
  rotate_left
  · rcases list_serves listable named fits serves listed with ⟨_, _, _, impossible, _⟩
    cases impossible
  rcases list_serves listable named fits (fun event member =>
    serves event (List.mem_append_left _ member)) listed with ⟨single, rfl, _, same, total, rows⟩
  cases same
  rcases hasUuid_named (pageAfter_named named) rows with ⟨found, searched, meaning⟩
  have size := congrArg List.length rows
  rw [List.length_map, List.length_map, length_pageAfter] at size
  rw [searched, Action.run_bind_ofExcept] at run
  rcases run with ⟨_, same, run⟩ | ⟨_, impossible, _⟩
  rotate_left
  · cases impossible
  cases same
  rw [Action.run_bind_raiseIf] at run
  rcases run with ⟨rfl, run⟩ | ⟨rfl, rfl, rfl, rfl⟩
  rotate_left
  · exact ⟨by simpa using single, rfl, .inl ⟨meaning.mp rfl, rfl⟩⟩
  rw [Action.run_pure] at run
  rcases run with ⟨rfl, rfl, rfl⟩
  refine ⟨by simpa using single, rfl, .inr ⟨fun hit => ?_, ?_⟩⟩
  · cases meaning.mpr hit
  have next : (page + 1) * pageSize = page * pageSize + 200 := by
    rw [Nat.add_mul, pageSize]
  rw [total, size, next]
  have pages : pageSize = 200 := rfl
  rw [pages] at fits ⊢
  by_cases last : table.length ≤ page * 200 + 200
  · have seen : (table.length : Int) ≤ (page * 200 + min 200 (table.length - page * 200) : Nat) := by
      omega
    exact .inl ⟨last, by rw [if_pos seen]⟩
  · have unseen : ¬ (table.length : Int) ≤
        (page * 200 + min 200 (table.length - page * 200) : Nat) := by omega
    have full : min 200 (table.length - page * 200) = 200 := by omega
    refine .inr ⟨by omega, ?_⟩
    rw [if_neg unseen, full, if_neg (by decide)]

omit [Runtime] in
/-- The rows from a page on are those of the page and those of the pages after it. -/
theorem mem_drop_pages {page : Nat} {property : TableRow → Prop} :
    (∃ row ∈ table.drop (page * pageSize), property row) ↔
      (∃ row ∈ pageAfter table (page * pageSize), property row) ∨
        ∃ row ∈ table.drop ((page + 1) * pageSize), property row := by
  have split : table.drop (page * pageSize) =
      pageAfter table (page * pageSize) ++ table.drop ((page + 1) * pageSize) := by
    have next : (page + 1) * pageSize = page * pageSize + pageSize := by
      rw [Nat.add_mul, Nat.one_mul]
    rw [pageAfter, next, ← List.drop_drop, List.take_append_drop]
  rw [split]
  simp only [List.mem_append, or_and_right, exists_or]

/-- A scan shows one page before it ends or goes on. -/
theorem page_serves {page : Nat} {next : ScanProgress → Py Role State Unit}
    {outcome : Except Exn Unit} (listable : path spec spec.search [] = .ok target)
    (named : ∀ row ∈ table, IsNamed row) (fits : page * pageSize ≤ table.length)
    (serves : ∀ event ∈ trace, Serves table event)
    (run : (scanPage spec role uuid present (page + 1) (page * pageSize) >>= next).Run before trace
      outcome after) :
    ∃ front back, trace = front ++ back ∧ front.length = 1 ∧
      ((∃ row ∈ pageAfter table (page * pageSize), Names uuid row) ∧ back = [] ∧
          outcome = .error present ∨
        (¬ ∃ row ∈ pageAfter table (page * pageSize), Names uuid row) ∧
          (table.length ≤ (page + 1) * pageSize ∧ (next .complete).Run before back outcome after ∨
            (page + 1) * pageSize < table.length ∧
              (next (.full ((page + 1) * pageSize))).Run before back outcome after)) := by
  rw [Action.run_bind] at run
  rcases run with ⟨front, progress, middle, back, rfl, paged, run⟩ | ⟨error, rfl, paged⟩
  · rcases scanPage_serves listable named fits (fun event member =>
      serves event (List.mem_append_left _ member)) paged with
      ⟨single, rfl, ⟨_, impossible⟩ | ⟨none, ⟨last, same⟩ | ⟨more, same⟩⟩⟩
    · cases impossible
    · cases same
      exact ⟨front, back, rfl, single, .inr ⟨none, .inl ⟨last, run⟩⟩⟩
    · cases same
      exact ⟨front, back, rfl, single, .inr ⟨none, .inr ⟨more, run⟩⟩⟩
  · rcases scanPage_serves listable named fits serves paged with
      ⟨single, _, ⟨hit, same⟩ | ⟨_, ⟨_, impossible⟩ | ⟨_, impossible⟩⟩⟩
    · cases same
      exact ⟨trace, [], by simp, single, .inl ⟨hit, rfl, rfl⟩⟩
    · cases impossible
    · cases impossible

omit [Runtime] in
/-- The last page shows the rest of the table. -/
theorem absent_last {page : Nat} (last : table.length ≤ (page + 1) * pageSize)
    {property : TableRow → Prop} (none : ¬ ∃ row ∈ pageAfter table (page * pageSize), property row) :
    ¬ ∃ row ∈ table.drop (page * pageSize), property row := by
  intro hit
  rcases mem_drop_pages.mp hit with here | ⟨row, there, _⟩
  · exact none here
  · rw [List.drop_eq_nil_of_le last] at there
    cases there

/-- The number of pages of a table of some size, at least one -/
def pageCount (size : Nat) : Nat := max 1 ((size + 199) / 200)

omit [Runtime] in
theorem pageCount_step {size seen : Nat} (more : seen + 200 < size) :
    pageCount (size - (seen + 200)) + 1 ≤ pageCount (size - seen) := by
  unfold pageCount
  omega

omit [Runtime] in
theorem one_le_pageCount {size : Nat} : 1 ≤ pageCount size := le_max_left ..

omit [Runtime] in
theorem next_page {page : Nat} : (page + 1) * pageSize = page * pageSize + 200 := by
  rw [Nat.add_mul, pageSize]

/-- How a scan from a page on ends, with at most `remaining` pages after it -/
theorem scan_serves {page remaining : Nat} {outcome : Except Exn Unit}
    (listable : path spec spec.search [] = .ok target) (named : ∀ row ∈ table, IsNamed row)
    (fits : page * pageSize ≤ table.length) (serves : ∀ event ∈ trace, Serves table event)
    (run : (scan spec role uuid present incomplete (page + 1) (page * pageSize) remaining :
      Py Role State Unit).Run before trace outcome after) :
    trace.length ≤ pageCount (table.length - page * pageSize) ∧
      ((∃ row ∈ table.drop (page * pageSize), Names uuid row) ∧ outcome = .error present ∨
        (¬ ∃ row ∈ table.drop (page * pageSize), Names uuid row) ∧
          table.length ≤ (page + remaining + 1) * pageSize ∧ outcome = .ok () ∨
        (page + remaining + 1) * pageSize < table.length ∧ outcome = .error incomplete) := by
  induction remaining generalizing page before trace with
  | zero =>
      rcases page_serves listable named fits serves run with ⟨front, back, rfl, single,
        ⟨hit, rfl, rfl⟩ | ⟨none, ⟨last, run⟩ | ⟨more, run⟩⟩⟩
      · rw [List.append_nil, single]
        exact ⟨one_le_pageCount, .inl ⟨mem_drop_pages.mpr (.inl hit), rfl⟩⟩
      · rw [Action.run_pure] at run
        rcases run with ⟨rfl, rfl, _⟩
        rw [List.append_nil, single]
        exact ⟨one_le_pageCount, .inr (.inl ⟨absent_last last none, last, rfl⟩)⟩
      · rw [Action.run_raise] at run
        rcases run with ⟨rfl, rfl, _⟩
        rw [List.append_nil, single]
        exact ⟨one_le_pageCount, .inr (.inr ⟨more, rfl⟩)⟩
  | succ remaining ih =>
      have limit : (page + 1 + remaining + 1) * pageSize =
          (page + (remaining + 1) + 1) * pageSize := by
        rw [Nat.add_right_comm page 1 remaining, ← Nat.add_assoc]
      rcases page_serves listable named fits serves run with ⟨front, back, rfl, single,
        ⟨hit, rfl, rfl⟩ | ⟨none, ⟨last, run⟩ | ⟨more, run⟩⟩⟩
      · rw [List.append_nil, single]
        exact ⟨one_le_pageCount, .inl ⟨mem_drop_pages.mpr (.inl hit), rfl⟩⟩
      · rw [Action.run_pure] at run
        rcases run with ⟨rfl, rfl, _⟩
        rw [List.append_nil, single]
        have within : table.length ≤ (page + (remaining + 1) + 1) * pageSize :=
          last.trans (Nat.mul_le_mul_right _ (by omega))
        exact ⟨one_le_pageCount, .inr (.inl ⟨absent_last last none, within, rfl⟩)⟩
      · rcases ih more.le (fun event member => serves event (List.mem_append_right _ member)) run
          with ⟨short, ended⟩
        rw [next_page] at short more
        refine ⟨?_, ?_⟩
        · rw [List.length_append, single, Nat.add_comm]
          exact (Nat.add_le_add_right short 1).trans (pageCount_step more)
        · rw [limit] at ended
          rcases ended with ⟨hit, rfl⟩ | ⟨missing, within, rfl⟩ | ⟨beyond, rfl⟩
          · exact .inl ⟨mem_drop_pages.mpr (.inr hit), rfl⟩
          · refine .inr (.inl ⟨fun hit => ?_, within, rfl⟩)
            rcases mem_drop_pages.mp hit with here | there
            · exact none here
            · exact missing there
          · exact .inr (.inr ⟨beyond, rfl⟩)

/-! ## Any server -/

theorem list_short {page : Nat} {outcome : Except Exn Listing}
    (run : (list spec role page : Py Role State Listing).Run before trace outcome after) :
    trace.length ≤ 1 := by
  rw [list, Action.run_bind_ofExcept] at run
  rcases run with ⟨target, _, run⟩ | ⟨_, _, rfl, _⟩
  rotate_left
  · exact Nat.zero_le 1
  rw [callGet, Action.run_bind_decoded] at run
  rcases run with ⟨reply, tail, rfl, ⟨value, _, rest⟩ | ⟨_, _, rfl, _⟩⟩
  · rw [Action.run_ofExcept] at rest
    rcases rest with ⟨rfl, _⟩
    exact le_rfl
  · exact le_rfl

theorem scanPage_short {page observed : Nat} {outcome : Except Exn ScanProgress}
    (run : (scanPage spec role uuid present page observed : Py Role State ScanProgress).Run before
      trace outcome after) : trace.length ≤ 1 := by
  rw [scanPage, Action.run_bind] at run
  rcases run with ⟨front, listing, middle, back, rfl, listed, run⟩ | ⟨error, _, listed⟩
  rotate_left
  · exact list_short listed
  have rest : back = [] := by
    rw [Action.run_bind_ofExcept] at run
    rcases run with ⟨found, _, run⟩ | ⟨_, _, rfl, _⟩
    · rw [Action.run_bind_raiseIf] at run
      rcases run with ⟨_, run⟩ | ⟨_, rfl, _⟩
      · exact (Action.run_pure.mp run).1
      · rfl
    · rfl
  rw [rest, List.append_nil]
  exact list_short listed

/-- A scan requests at most one page more than may remain. -/
theorem scan_short {page observed remaining : Nat} {outcome : Except Exn Unit}
    (run : (scan spec role uuid present incomplete page observed remaining :
      Py Role State Unit).Run before trace outcome after) : trace.length ≤ remaining + 1 := by
  induction remaining generalizing page observed before trace with
  | zero =>
      rw [scan, Action.run_bind] at run
      rcases run with ⟨front, progress, middle, back, rfl, paged, run⟩ | ⟨error, _, paged⟩
      · have rest : back = [] := by
          cases progress with
          | complete => exact (Action.run_pure.mp run).1
          | short => exact (Action.run_raise.mp run).1
          | full count => exact (Action.run_raise.mp run).1
        rw [rest, List.append_nil]
        exact scanPage_short paged
      · exact scanPage_short paged
  | succ remaining ih =>
      rw [scan, Action.run_bind] at run
      rcases run with ⟨front, progress, middle, back, rfl, paged, run⟩ | ⟨error, _, paged⟩
      · have first := scanPage_short paged
        have rest : back.length ≤ remaining + 1 := by
          cases progress with
          | complete =>
              rw [(Action.run_pure.mp run).1]
              exact Nat.zero_le _
          | short =>
              rw [(Action.run_raise.mp run).1]
              exact Nat.zero_le _
          | full count => exact ih run
        rw [List.length_append]
        omega
      · have first := scanPage_short paged
        omega

end Pages

/-! ## The check of a delete -/

/-- The deleted object is still on a row. -/
def stillPresent : Exn := raised (.new "unverified" "El objeto sigue presente tras eliminarlo." 502)

/-- The rows do not add up to the total. -/
def notListed : Exn := raised (.new "unverified" "No se pudo verificar la lista completa." 502)

/-- What `_mutate` does after the apply of a delete, on the local node -/
theorem verifyChange_delete {service : ManagementService} {spec : Spec} {request : MutateRequest}
    {expected : Json} {uuid : Str} (deletes : request.action = .delete)
    (alone : service.peer = none) :
    service.verifyChange spec request expected uuid = (do
      scanAll spec .client uuid stillPresent notListed
      return) := by
  rw [ManagementService.verifyChange, if_pos deletes, alone]
  rfl

/-- The pages of a fixed table decide whether the deleted object is on it, up to 200000 rows; no
server makes the check request more than 1000 pages. -/
theorem deleteCheck_pages {spec : Spec} {uuid target : Str} {table : List TableRow}
    {State : Type} {before after : State} {trace : Trace Role} {outcome : Except Exn Unit}
    (listable : path spec spec.search [] = .ok target) (named : ∀ row ∈ table, IsNamed row)
    (run : (scanAll spec .client uuid stillPresent notListed : Py Role State Unit).Run before trace
      outcome after) :
    trace.length ≤ 1000 ∧ ((∀ event ∈ trace, Serves table event) →
      trace.length ≤ pageCount table.length ∧
      (table.length ≤ 200000 → (outcome = .ok () ↔ ¬ ∃ row ∈ table, Names uuid row)) ∧
      (200000 < table.length → outcome = .error notListed ∨
        outcome = .error stillPresent ∧ ∃ row ∈ table, Names uuid row)) := by
  refine ⟨scan_short run, fun serves => ?_⟩
  have started : (scan spec .client uuid stillPresent notListed (0 + 1) (0 * pageSize) 999 :
      Py Role State Unit).Run before trace outcome after := by
    rw [Nat.zero_mul]
    exact run
  have empty : 0 * pageSize ≤ table.length := by
    rw [Nat.zero_mul]
    exact Nat.zero_le _
  rcases scan_serves listable named empty serves started with ⟨short, ended⟩
  have limit : (0 + 999 + 1) * pageSize = 200000 := rfl
  rw [limit, Nat.zero_mul, List.drop_zero] at ended
  rw [Nat.zero_mul, Nat.sub_zero] at short
  refine ⟨short, fun small => ?_, fun large => ?_⟩
  · rcases ended with ⟨hit, rfl⟩ | ⟨missing, _, rfl⟩ | ⟨beyond, _⟩
    · simpa using hit
    · simpa using missing
    · omega
  · rcases ended with ⟨hit, rfl⟩ | ⟨_, within, _⟩ | ⟨_, rfl⟩
    · exact .inr ⟨rfl, hit⟩
    · omega
    · exact .inl rfl

end Management

namespace ScanDemo

open Management

def spec : Spec where
  id := "routes"
  base := "/api/routes/routes"
  key := "route"
  search := some "searchroute"
  get := some "getroute"
  add := some "addroute"
  set := some "setroute"
  delete := some "delroute"
  fields := [{ name := "descr" }]
  apply := .single "/api/routes/routes/reconfigure"

def table : List TableRow := [[("uuid", .str "A1"), ("descr", .str "kept")]]

def answer : List (Str × Json) := [("rows", .arr (table.map .obj)), ("total", .str "1")]

def request : Request Role :=
  .get .client "/api/routes/routes/searchroute"
    [("current", .int 1), ("rowCount", .int 200), ("searchPhrase", .str [])]

def trace : Trace Role := [⟨request, .ok (.obj answer)⟩]

theorem served : ∀ event ∈ trace, Serves table event := by
  intro event member
  rw [List.mem_singleton.mp member]
  intro page current
  have first : page = 0 := by
    have number : some (Json.int 1) = some (.int (page + 1 : Nat)) := current
    have same := Json.int.inj (Option.some.inj number)
    omega
  subst first
  exact ⟨answer, .str "1", rfl, rfl, rfl, rfl, rfl⟩

/-- The server of the table; the scan asks for pages only. -/
def serve : Trace Role → (request : OpnsensePlugin.Request Role) → Answer request
  | _, .get _ _ _ | _, .post _ _ _ => .ok (.obj answer)
  | _, .append _ => .ok ()
  | _, .clock => ⟨[], 0⟩
  | _, .lockFor _ _ => 0
  | _, .acquireGuard _ | _, .releaseGuard _ | _, .acquire _ | _, .release _ => ()

theorem scanned :
    (@scanAll Runtime.ascii Unit spec .client "b2" stillPresent notListed).Run () trace (.ok ())
      () := by
  rcases Program.replay_yields serve
    (@scanAll Runtime.ascii Unit spec .client "b2" stillPresent notListed ()) [] with
    ⟨observed, recorded, run⟩
  have replayed : (@scanAll Runtime.ascii Unit spec .client "b2" stillPresent notListed ()).replay
      serve [] = (trace, (.ok (), ())) := rfl
  rw [replayed] at recorded run
  have same : trace = observed := recorded
  rw [same]
  exact run

/-- The deleted object is not on the only row, which one page shows. -/
theorem deletion_verified :
    trace.length ≤ pageCount table.length ∧ ¬ ∃ row ∈ table, @Names Runtime.ascii "b2" row := by
  have listable : path spec spec.search [] = .ok "/api/routes/routes/searchroute" := rfl
  have named : ∀ row ∈ table, Management.IsNamed row := by
    intro row member
    rw [List.mem_singleton.mp member]
    exact ⟨"A1", rfl⟩
  have checked := (@deleteCheck_pages Runtime.ascii _ _ _ _ _ _ _ _ _ listable named scanned).2
    served
  exact ⟨checked.1, (checked.2.1 (by decide)).mp rfl⟩

end ScanDemo

end OpnsensePlugin

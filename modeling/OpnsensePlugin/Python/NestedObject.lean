import OpnsensePlugin.Python.Canonical
import OpnsensePlugin.Python.FlatObject

/-!
# Objects inside objects

`json.loads` reads a value back wherever it stands: `Reads` says so of a text, and
of an object if it holds of the values of its members.
-/

namespace Python

variable {readFloat : Str → PyFloat} {depth : Nat} {text rest : Str} {value : Json}

/-- The text is read as the value, whatever follows it. -/
structure Reads (readFloat : Str → PyFloat) (depth : Nat) (text : Str) (value : Json) : Prop where
  visible : ∀ rest, skipSpace (text ++ rest) = text ++ rest
  scans : ∀ fuel c rest, EndsNumber c → text.length < fuel →
    scanValue readFloat fuel depth (text ++ c :: rest) = .ok (value, c :: rest)

theorem Scalar.reads {value : Scalar} (fits : value.Fits) :
    Reads readFloat depth value.dumps value.json where
  visible _ := skipSpace_dumps
  scans fuel c rest ends enough := by
    rcases Nat.exists_eq_add_of_lt enough with ⟨less, rfl⟩
    exact scanValue_scalar fits ends

/-- A member of an object: its key, the text of its value, and the value -/
structure Entry where
  key : Str
  text : Str
  value : Json

def Entry.written (entry : Entry) : Str × Str := (entry.key, entry.text)

/-- The `dict` of the members -/
def entriesFields (fields : List (Str × Json)) (entries : List Entry) : List (Str × Json) :=
  entries.foldl (fun fields entry => setField entry.key entry.value fields) fields

variable {entry : Entry} {entries : List Entry} {fields : List (Str × Json)} {fuel : Nat}

theorem membersText_cons : membersText ((entry :: entries).map Entry.written) =
    code '"' :: (escaped entry.key ++ code '"' :: code ':' ::
      (entry.text ++ laterMembers (entries.map Entry.written))) := by
  rw [List.map_cons, membersText, Entry.written, quoted_eq]
  simp only [List.cons_append, List.append_assoc]
  rfl

theorem laterMembers_cons : laterMembers ((entry :: entries).map Entry.written) =
    code ',' :: code '"' :: (escaped entry.key ++ code '"' :: code ':' ::
      (entry.text ++ laterMembers (entries.map Entry.written))) := by
  rw [List.map_cons, laterMembers, Entry.written, quoted_eq]
  simp only [List.cons_append, List.append_assoc]
  rfl

theorem scanMembers_end (reads : Reads readFloat depth entry.text entry.value)
    (enough : entry.text.length < fuel) :
    scanMembers readFloat (fuel + 1) depth fields (escaped entry.key ++ code '"' :: code ':' ::
        (entry.text ++ code '\x7d' :: rest)) =
      .ok (.obj (setField entry.key entry.value fields), rest) := by
  rw [scanMembers, scanString_escaped]
  simp only [skipSpace_colon, expect_cons, reads.visible, bind, Except.bind,
    reads.scans _ _ _ endsNumber_brace enough, skipSpace_brace, if_true]

theorem scanMembers_more (reads : Reads readFloat depth entry.text entry.value)
    (enough : entry.text.length < fuel) :
    scanMembers readFloat (fuel + 1) depth fields (escaped entry.key ++ code '"' :: code ':' ::
        (entry.text ++ code ',' :: code '"' :: rest)) =
      scanMembers readFloat fuel depth (setField entry.key entry.value fields) rest := by
  have brace : code ',' ≠ code '\x7d' := by decide
  rw [scanMembers, scanString_escaped]
  simp only [skipSpace_colon, expect_cons, reads.visible, bind, Except.bind,
    reads.scans _ _ _ endsNumber_comma enough, skipSpace_comma, if_neg brace, if_true, skipSpace_quote]

theorem scanMembers_entries (reads : ∀ member ∈ entry :: entries,
      Reads readFloat depth member.text member.value)
    (enough : entry.text.length + (laterMembers (entries.map Entry.written)).length < fuel) :
    scanMembers readFloat fuel depth fields (escaped entry.key ++ code '"' :: code ':' ::
        (entry.text ++ (laterMembers (entries.map Entry.written) ++ rest))) =
      .ok (.obj (entriesFields fields (entry :: entries)), rest) := by
  have first := reads entry List.mem_cons_self
  induction entries generalizing entry fields fuel with
  | nil =>
      have closing : (laterMembers (([] : List Entry).map Entry.written)).length = 1 := by decide
      rcases Nat.exists_eq_add_of_lt enough with ⟨less, rfl⟩
      exact scanMembers_end first (by omega)
  | cons next more ih =>
      rw [laterMembers_cons] at enough ⊢
      simp only [List.length_cons, List.length_append] at enough
      rcases Nat.exists_eq_add_of_lt enough with ⟨less, rfl⟩
      have others : ∀ member ∈ next :: more, Reads readFloat depth member.text member.value :=
        fun member mem => reads member (List.mem_cons_of_mem _ mem)
      simp only [List.cons_append, List.append_assoc]
      refine (scanMembers_more first ?_).trans (ih others ?_ (others next List.mem_cons_self))
      · omega
      · omega

theorem Reads.object (reads : ∀ member ∈ entry :: entries,
      Reads readFloat depth member.text member.value) :
    Reads readFloat (depth + 1) (code '\x7b' :: membersText ((entry :: entries).map Entry.written))
      (.obj (entriesFields [] (entry :: entries))) where
  visible _ := skipSpace_cons (by decide)
  scans fuel c rest ends enough := by
    rw [membersText_cons] at enough ⊢
    simp only [List.length_cons, List.length_append] at enough
    rcases Nat.exists_eq_add_of_lt enough with ⟨less, rfl⟩
    simp only [List.cons_append, List.append_assoc]
    rw [scanValue_object]
    exact scanMembers_entries reads (by omega)

/-- What was written is read back. -/
theorem loads_entries (reads : ∀ member ∈ entry :: entries,
      Reads readFloat depth member.text member.value) :
    loads readFloat (depth + 1) (code '\x7b' :: membersText ((entry :: entries).map Entry.written)) =
      .ok (.obj (entriesFields [] (entry :: entries))) := by
  have read : ∀ fuel, (membersText ((entry :: entries).map Entry.written)).length < fuel →
      scanValue readFloat (fuel + 1) (depth + 1)
        (code '\x7b' :: membersText ((entry :: entries).map Entry.written)) =
          .ok (.obj (entriesFields [] (entry :: entries)), []) := by
    intro fuel enough
    rw [membersText_cons] at enough ⊢
    simp only [List.length_cons, List.length_append] at enough
    have inside := @scanMembers_entries readFloat depth [] entry entries [] fuel reads (by omega)
    rw [List.append_nil] at inside
    rw [scanValue_object]
    exact inside
  have mark : code '\x7b' ≠ 0xfeff := by decide
  rw [loads, skipSpace_cons (by decide), List.length_cons, read _ (Nat.lt_succ_self _)]
  simp [mark]
  rfl

/-! ## Sorted objects -/

section Sorted

theorem setField_of_not_mem {name : Str} (fresh : name ∉ fields.map Prod.fst) :
    setField name value fields = fields ++ [(name, value)] := by
  induction fields with
  | nil => rfl
  | cons entry rest ih =>
      rcases entry with ⟨head, old⟩
      simp only [List.map_cons, List.mem_cons, not_or] at fresh
      rw [setField, if_neg (Ne.symm fresh.1), ih fresh.2, List.cons_append]

variable [Runtime] {first : Str × Json} {more : List (Str × Json)}

def Entry.ofField (member : Str × Json) : Entry := ⟨member.1, member.2.dumps, member.2⟩

theorem entriesFields_ofField {front : List (Str × Json)}
    (distinct : ((front ++ fields).map Prod.fst).Nodup) :
    entriesFields front (fields.map Entry.ofField) = front ++ fields := by
  induction fields generalizing front with
  | nil => exact (List.append_nil front).symm
  | cons member rest ih =>
      rcases member with ⟨name, value⟩
      have fresh : name ∉ front.map Prod.fst := by
        intro known
        rw [List.map_append, List.nodup_append] at distinct
        exact distinct.2.2 name known name (by simp) rfl
      have moved : ((front ++ [(name, value)]) ++ rest) = front ++ (name, value) :: rest := by simp
      rw [← moved] at distinct ⊢
      rw [← ih distinct]
      simp only [entriesFields, List.map_cons, List.foldl_cons, Entry.ofField,
        setField_of_not_mem fresh]

/-- An object whose names are in order is written as it is. -/
theorem dumps_obj_sorted (sorted : (fields.map Prod.fst).Pairwise fun a b => strLe a b = true) :
    (Json.obj fields).dumps =
      code '\x7b' :: membersText ((fields.map Entry.ofField).map Entry.written) := by
  have written : dumpsFields fields = (fields.map Entry.ofField).map Entry.written := by
    rw [dumpsFields_eq, List.map_map]
    rfl
  have kept : (dumpsFields fields).insertionSort (fun a b => strLe a.1 b.1 = true) =
      dumpsFields fields := by
    apply List.Pairwise.insertionSort_eq
    rw [← List.pairwise_map (f := Prod.fst) (R := fun a b => strLe a b = true), names_dumpsFields]
    exact sorted
  have whole := @dumps_obj_append _ fields []
  rw [List.append_nil, List.append_nil, kept, written] at whole
  exact whole

variable (sorted : ((first :: more).map Prod.fst).Pairwise fun a b => strLe a b = true)
  (distinct : ((first :: more).map Prod.fst).Nodup)

include sorted distinct

theorem Reads.sortedObject (reads : ∀ member ∈ first :: more, Reads readFloat depth member.2.dumps member.2) :
    Reads readFloat (depth + 1) (Json.obj (first :: more)).dumps (.obj (first :: more)) := by
  have each : ∀ entry ∈ (first :: more).map Entry.ofField, Reads readFloat depth entry.text entry.value := by
    intro entry mem
    rcases List.mem_map.mp mem with ⟨member, known, rfl⟩
    exact reads member known
  have whole := Reads.object each
  have same : entriesFields [] ((first :: more).map Entry.ofField) = first :: more :=
    entriesFields_ofField distinct
  rw [dumps_obj_sorted sorted]
  rw [← List.map_cons (f := Entry.ofField), same] at whole
  exact whole

theorem loads_sorted (reads : ∀ member ∈ first :: more, Reads readFloat depth member.2.dumps member.2) :
    loads readFloat (depth + 1) (Json.obj (first :: more)).dumps = .ok (.obj (first :: more)) := by
  have each : ∀ entry ∈ (first :: more).map Entry.ofField, Reads readFloat depth entry.text entry.value := by
    intro entry mem
    rcases List.mem_map.mp mem with ⟨member, known, rfl⟩
    exact reads member known
  have whole := loads_entries each
  have same : entriesFields [] ((first :: more).map Entry.ofField) = first :: more :=
    entriesFields_ofField distinct
  rw [dumps_obj_sorted sorted]
  rw [← List.map_cons (f := Entry.ofField), same] at whole
  exact whole

end Sorted

end Python

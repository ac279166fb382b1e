import OpnsensePlugin.Python.FlatObject
import OpnsensePlugin.Python.Order

/-!
# Canonical JSON

The canonical text of nested objects of texts. Two of them have one text if and
only if they have the same texts under the same names: the order of the fields
is lost and nothing else.
-/

namespace Python

/-! ## Members of an object -/

section Members

variable {key other rest more : Str} {entries others : List (Str × Str)}

theorem quoted_append_inj (same : quoted key ++ rest = quoted other ++ more) :
    key = other ∧ rest = more := by
  rw [quoted_eq, quoted_eq, List.cons_append, List.cons_append, List.cons.injEq,
    List.append_assoc, List.append_assoc] at same
  have scanned := congrArg scanString same.2
  rw [List.singleton_append, List.singleton_append, scanString_escaped, scanString_escaped,
    Option.some.injEq, Prod.mk.injEq] at scanned
  exact scanned

/-- What follows the first member, up to the closing brace -/
def laterMembers : List (Str × Str) → Str
  | [] => "\x7d"
  | (key, text) :: rest => "," ++ (quoted key ++ (":" ++ (text ++ laterMembers rest)))

/-- What follows the opening brace -/
def membersText : List (Str × Str) → Str
  | [] => "\x7d"
  | (key, text) :: rest => quoted key ++ (":" ++ (text ++ laterMembers rest))

theorem join_members :
    join "," (entries.map fun entry => quoted entry.1 ++ ":" ++ entry.2) ++ "\x7d" =
      membersText entries := by
  have later : ∀ (entries : List (Str × Str)) (first : Str),
      join "," (first :: entries.map fun entry => quoted entry.1 ++ ":" ++ entry.2) ++ "\x7d" =
        first ++ laterMembers entries := by
    intro entries
    induction entries with
    | nil =>
        intro first
        rfl
    | cons entry rest ih =>
        intro first
        have tail := ih (quoted entry.1 ++ ":" ++ entry.2)
        have step (second : Str) (texts : List Str) : join "," (first :: second :: texts) =
            first ++ "," ++ join "," (second :: texts) := rfl
        rw [List.map_cons, step, List.append_assoc, tail]
        simp [laterMembers]
  cases entries with
  | nil => rfl
  | cons entry rest =>
      rw [List.map_cons, later]
      simp [membersText]

/-- No value of the first object is a part of a value of the second, nor the other way round. -/
def Unmixed (entries others : List (Str × Str)) : Prop :=
  ∀ entry ∈ entries, ∀ other ∈ others, ∀ rest more : Str,
    entry.2 ++ rest = other.2 ++ more → entry.2 = other.2 ∧ rest = more

theorem Unmixed.tail {entry another : Str × Str}
    (separate : Unmixed (entry :: entries) (another :: others)) : Unmixed entries others := by
  intro first left second right
  exact separate first (List.mem_cons_of_mem _ left) second (List.mem_cons_of_mem _ right)

theorem member_inj {first second : Str × Str}
    (separate : Unmixed (first :: entries) (second :: others))
    (same : quoted first.1 ++ (":" ++ (first.2 ++ rest)) =
      quoted second.1 ++ (":" ++ (second.2 ++ more))) :
    first = second ∧ rest = more := by
  have keys := quoted_append_inj same
  have texts := separate first List.mem_cons_self second List.mem_cons_self rest more
    (List.append_cancel_left keys.2)
  exact ⟨Prod.ext keys.1 texts.1, texts.2⟩

theorem laterMembers_inj (separate : Unmixed entries others)
    (same : laterMembers entries ++ rest = laterMembers others ++ more) :
    entries = others ∧ rest = more := by
  induction entries generalizing others with
  | nil =>
      cases others with
      | nil => exact ⟨rfl, List.append_cancel_left same⟩
      | cons second others => cases (List.cons.inj same).1
  | cons first entries ih =>
      cases others with
      | nil => cases (List.cons.inj same).1
      | cons second others =>
          simp only [laterMembers, List.append_assoc] at same
          have members := member_inj separate (List.append_cancel_left same)
          have tails := ih separate.tail members.2
          rw [members.1, tails.1]
          exact ⟨rfl, tails.2⟩

theorem membersText_inj (separate : Unmixed entries others)
    (same : membersText entries ++ rest = membersText others ++ more) :
    entries = others ∧ rest = more := by
  cases entries with
  | nil =>
      cases others with
      | nil => exact ⟨rfl, List.append_cancel_left same⟩
      | cons second others => cases (List.cons.inj same).1
  | cons first entries =>
      cases others with
      | nil => cases (List.cons.inj same).1
      | cons second others =>
          simp only [membersText, List.append_assoc] at same
          have members := member_inj separate same
          have tails := laterMembers_inj separate.tail members.2
          rw [members.1, tails.1]
          exact ⟨rfl, tails.2⟩

/-- `sorted(fields.items())` of members with distinct names -/
theorem sortedMembers_eq_iff (distinct : (entries.map (·.1)).Nodup) :
    entries.insertionSort (fun a b => strLe a.1 b.1 = true) =
      others.insertionSort (fun a b => strLe a.1 b.1 = true) ↔ entries.Perm others := by
  have front := List.perm_insertionSort (fun a b : Str × Str => strLe a.1 b.1 = true) entries
  have back := List.perm_insertionSort (fun a b : Str × Str => strLe a.1 b.1 = true) others
  constructor
  · intro same
    rw [← same] at back
    exact front.symm.trans back
  · intro same
    have joined := front.trans (same.trans back.symm)
    refine joined.eq_of_pairwise ?_ (sorted entries) (sorted others)
    intro first second left right below above
    have key : first.1 = second.1 := antisymm_of (fun a b => strLe a b = true) below above
    have found := field_of_mem distinct (front.mem_iff.mp left)
    rw [key, field_of_mem distinct (same.mem_iff.mpr (back.mem_iff.mp right))] at found
    exact Prod.ext key (Option.some.inj found).symm
where
  sorted (entries : List (Str × Str)) :
      (entries.insertionSort fun a b => strLe a.1 b.1 = true).Pairwise
        fun a b => strLe a.1 b.1 = true := by
    have total : Std.Total fun a b : Str × Str => strLe a.1 b.1 = true :=
      ⟨fun a b => total_of (fun a b => strLe a b = true) a.1 b.1⟩
    have transitive : IsTrans (Str × Str) fun a b => strLe a.1 b.1 = true :=
      ⟨fun a b c => trans_of fun a b => strLe a b = true⟩
    exact List.pairwise_insertionSort _ entries

end Members

/-! ## Objects of texts -/

mutual

/-- A text, or an object of such values whose names are distinct -/
def Json.IsForm : Json → Prop
  | .str _ => True
  | .obj fields => (fields.map (·.1)).Nodup ∧ AreForms fields
  | _ => False

def AreForms : List (Str × Json) → Prop
  | [] => True
  | (_, value) :: rest => value.IsForm ∧ AreForms rest

end

mutual

/-- The same texts under the same names, in any order -/
def SameForm : Json → Json → Prop
  | .str text, .str other => text = other
  | .obj fields, .obj others =>
      HasFields fields others ∧ ∀ name ∈ others.map (·.1), name ∈ fields.map (·.1)
  | _, _ => False

/-- The second object has every field of the first one. -/
def HasFields : List (Str × Json) → List (Str × Json) → Prop
  | [], _ => True
  | (name, value) :: rest, others =>
      (∃ other, field others name = some other ∧ SameForm value other) ∧ HasFields rest others

end

theorem areForms_iff {fields : List (Str × Json)} :
    AreForms fields ↔ ∀ entry ∈ fields, entry.2.IsForm := by
  induction fields with
  | nil => simp [AreForms]
  | cons entry rest ih => simp [AreForms, ih]

theorem hasFields_iff {fields others : List (Str × Json)} :
    HasFields fields others ↔
      ∀ entry ∈ fields, ∃ other, field others entry.1 = some other ∧ SameForm entry.2 other := by
  induction fields with
  | nil => simp [HasFields]
  | cons entry rest ih => simp [HasFields, ih]

section Texts

variable [Runtime] {fields others : List (Str × Json)}

theorem dumpsFields_eq : dumpsFields fields = fields.map fun entry => (entry.1, entry.2.dumps) := by
  induction fields with
  | nil => rfl
  | cons entry rest ih => rw [dumpsFields, ih, List.map_cons]

theorem names_dumpsFields : (dumpsFields fields).map (·.1) = fields.map (·.1) := by
  rw [dumpsFields_eq, List.map_map]
  rfl

theorem dumps_obj_append {rest : Str} : (Json.obj fields).dumps ++ rest =
    code '\x7b' :: (membersText ((dumpsFields fields).insertionSort fun a b => strLe a.1 b.1 = true)
      ++ rest) := by
  rw [← join_members, Json.dumps, List.append_assoc, List.append_assoc, List.append_assoc]
  rfl

/-- Members that are the same under the same names -/
theorem perm_dumpsFields (distinct : (fields.map (·.1)).Nodup) (others_distinct : (others.map (·.1)).Nodup)
    (names : ∀ name ∈ others.map (·.1), name ∈ fields.map (·.1))
    (texts : ∀ entry ∈ fields, ∃ other, field others entry.1 = some other ∧
      other.dumps = entry.2.dumps) :
    (dumpsFields fields).Perm (dumpsFields others) := by
  have entries_nodup {fields : List (Str × Json)} (distinct : (fields.map (·.1)).Nodup) :
      (dumpsFields fields).Nodup := by
    rw [← names_dumpsFields] at distinct
    exact distinct.of_map _
  refine (List.perm_ext_iff_of_nodup (entries_nodup distinct) (entries_nodup others_distinct)).mpr ?_
  intro member
  rw [dumpsFields_eq, dumpsFields_eq, List.mem_map, List.mem_map]
  constructor
  · rintro ⟨entry, listed, rfl⟩
    rcases texts entry listed with ⟨other, found, same⟩
    exact ⟨(entry.1, other), mem_of_field found, by rw [same]⟩
  · rintro ⟨other, listed, rfl⟩
    have name := names other.1 (List.mem_map.mpr ⟨other, listed, rfl⟩)
    rcases List.mem_map.mp name with ⟨entry, member, same⟩
    rcases texts entry member with ⟨found, looked, text⟩
    rw [same, field_of_mem others_distinct listed, Option.some.injEq] at looked
    exact ⟨entry, member, by rw [same, looked, text]⟩

mutual

theorem dumps_of_sameForm : ∀ value other : Json, value.IsForm → other.IsForm →
    SameForm value other → other.dumps = value.dumps
  | .str text, .str other, _, _, same => by
      rw [SameForm] at same
      rw [same]
  | .obj fields, .obj others, form, otherForm, same => by
      rw [SameForm] at same
      rw [Json.IsForm] at form otherForm
      have members := perm_dumpsFields form.1 otherForm.1 same.2
        (dumps_of_hasFields fields others form.2 otherForm.2 same.1)
      rw [← names_dumpsFields] at form
      rw [Json.dumps, Json.dumps, (sortedMembers_eq_iff form.1).mpr members]

theorem dumps_of_hasFields : ∀ fields others : List (Str × Json), AreForms fields → AreForms others →
    HasFields fields others → ∀ entry ∈ fields, ∃ other, field others entry.1 = some other ∧
      other.dumps = entry.2.dumps
  | [], _, _, _, _ => by simp
  | (name, value) :: rest, others, forms, otherForms, has => by
      rw [AreForms] at forms
      rw [HasFields] at has
      rcases has with ⟨⟨other, found, same⟩, has⟩
      have otherForm := areForms_iff.mp otherForms _ (mem_of_field found)
      rw [List.forall_mem_cons]
      refine ⟨⟨other, found, dumps_of_sameForm value other forms.1 otherForm same⟩, ?_⟩
      exact dumps_of_hasFields rest others forms.2 otherForms has

end

/-- The values of two objects, none of which begins another one -/
theorem separate_dumpsFields (forms : AreForms fields) (otherForms : AreForms others)
    (parted : ∀ entry ∈ fields, ∀ other : Json, other.IsForm → ∀ rest more : Str,
      entry.2.dumps ++ rest = other.dumps ++ more → SameForm entry.2 other ∧ rest = more) :
    Unmixed ((dumpsFields fields).insertionSort fun a b => strLe a.1 b.1 = true)
      ((dumpsFields others).insertionSort fun a b => strLe a.1 b.1 = true) := by
  intro first left second right rest more same
  rw [List.mem_insertionSort, dumpsFields_eq, List.mem_map] at left right
  rcases left with ⟨entry, member, rfl⟩
  rcases right with ⟨other, listed, rfl⟩
  have form := areForms_iff.mp forms entry member
  have otherForm := areForms_iff.mp otherForms other listed
  have parts := parted entry member other.2 otherForm rest more same
  exact ⟨(dumps_of_sameForm _ _ form otherForm parts.1).symm, parts.2⟩

/-- Members that are the same texts come from the same fields. -/
theorem sameForm_of_perm (otherForms : AreForms others)
    (otherDistinct : (others.map (·.1)).Nodup)
    (members : (dumpsFields fields).Perm (dumpsFields others))
    (parted : ∀ entry ∈ fields, ∀ other : Json, other.IsForm → ∀ rest more : Str,
      entry.2.dumps ++ rest = other.dumps ++ more → SameForm entry.2 other ∧ rest = more) :
    SameForm (.obj fields) (.obj others) := by
  rw [SameForm, hasFields_iff]
  constructor
  · intro entry member
    have listed : (entry.1, entry.2.dumps) ∈ dumpsFields others := by
      rw [← members.mem_iff, dumpsFields_eq]
      exact List.mem_map.mpr ⟨entry, member, rfl⟩
    rw [dumpsFields_eq, List.mem_map] at listed
    rcases listed with ⟨other, found, same⟩
    rw [Prod.mk.injEq] at same
    have otherForm := areForms_iff.mp otherForms other found
    have text : entry.2.dumps ++ [] = other.2.dumps ++ [] := by rw [same.2]
    refine ⟨other.2, ?_, (parted entry member other.2 otherForm [] [] text).1⟩
    rw [← same.1]
    exact field_of_mem otherDistinct found
  · intro name listed
    rw [← names_dumpsFields] at listed ⊢
    exact (members.map (·.1)).mem_iff.mpr listed

mutual

/-- A canonical text determines its value, also in front of another text. -/
theorem sameForm_of_dumps : ∀ value : Json, value.IsForm → ∀ other : Json, other.IsForm →
    ∀ rest more : Str, value.dumps ++ rest = other.dumps ++ more → SameForm value other ∧ rest = more
  | .str text, _, .str other, _, rest, more, same => by
      rw [SameForm]
      exact quoted_append_inj same
  | .str text, _, .obj others, _, rest, more, same => by
      rw [dumps_obj_append] at same
      cases (List.cons.inj same).1
  | .obj fields, _, .str other, _, rest, more, same => by
      rw [dumps_obj_append] at same
      cases (List.cons.inj same).1
  | .obj fields, form, .obj others, otherForm, rest, more, same => by
      rw [Json.IsForm] at form otherForm
      have parted := sameForms_of_dumps fields form.2
      rw [dumps_obj_append, dumps_obj_append] at same
      have members := membersText_inj (separate_dumpsFields form.2 otherForm.2 parted)
        (List.cons.inj same).2
      have distinct := form.1
      rw [← names_dumpsFields] at distinct
      have permuted := (sortedMembers_eq_iff distinct).mp members.1
      exact ⟨sameForm_of_perm otherForm.2 otherForm.1 permuted parted, members.2⟩

theorem sameForms_of_dumps : ∀ fields : List (Str × Json), AreForms fields → ∀ entry ∈ fields,
    ∀ other : Json, other.IsForm → ∀ rest more : Str,
      entry.2.dumps ++ rest = other.dumps ++ more → SameForm entry.2 other ∧ rest = more
  | [], _ => by simp
  | (name, value) :: rest, forms => by
      rw [AreForms] at forms
      rw [List.forall_mem_cons]
      exact ⟨sameForm_of_dumps value forms.1, sameForms_of_dumps rest forms.2⟩

end

/-- Canonical texts are the same if and only if the texts below the same names are. -/
theorem dumps_eq_iff {value other : Json} (form : value.IsForm) (otherForm : other.IsForm) :
    value.dumps = other.dumps ↔ SameForm value other := by
  constructor
  · intro same
    have alone : value.dumps ++ [] = other.dumps ++ [] := by rw [same]
    exact (sameForm_of_dumps value form other otherForm [] [] alone).1
  · intro same
    exact (dumps_of_sameForm value other form otherForm same).symm

end Texts

end Python

import OpnsensePlugin.Python.Order
import OpnsensePlugin.Routes.Rendering

/-!
# Readback of a rendered object

The appliance stores texts and renders them: a select field as its text or as
options with flags, an empty selection also as an empty object or as an empty
PHP array. The comparison of a readback sees the stored texts through every
rendering but the last two, which the writer does not decode.
-/

namespace OpnsensePlugin

open Python FirewallForm

/-! ## Renderings -/

/-- How one stored text is rendered; no option at all is the empty object. -/
inductive Leaf
  | text (content : Str)
  | options (choices : List Choice)
  | emptyArray

def Leaf.json : Leaf → Json
  | .text content => .str content
  | .options choices => optionsJson choices
  | .emptyArray => .arr []

/-- The text that a rendering stands for -/
def Leaf.shows_ : Leaf → Str
  | .text content => content
  | .options choices => join "," (chosenKeys choices)
  | .emptyArray => []

/-- Neither the empty object nor the empty array -/
def Leaf.IsLegible : Leaf → Prop
  | .text _ => True
  | .options choices => choices ≠ []
  | .emptyArray => False

/-- A rendered object: its fields are rendered texts or objects. -/
inductive FormNode
  | leaf (leaf : Leaf)
  | group (fields : List (Str × FormNode))

mutual

def FormNode.json : FormNode → Json
  | .leaf leaf => leaf.json
  | .group fields => .obj (formJson fields)

def formJson : List (Str × FormNode) → List (Str × Json)
  | [] => []
  | (name, node) :: rest => (name, node.json) :: formJson rest

end

mutual

/-- The rendered texts below a name, under their dotted names -/
def FormNode.leaves (name : Str) : FormNode → List (Str × Leaf)
  | .leaf leaf => [(name, leaf)]
  | .group fields => formLeaves (name ++ ".") fields

def formLeaves (path : Str) : List (Str × FormNode) → List (Str × Leaf)
  | [] => []
  | (name, node) :: rest => node.leaves (path ++ name) ++ formLeaves path rest

end

mutual

/-- No object with fields is itself an option map: not all of its fields have a field `selected`. -/
def FormNode.IsClear : FormNode → Prop
  | .leaf _ => True
  | .group fields =>
      ((formJson fields).all (fun entry => isOption entry.2) = true → fields = []) ∧
        AllClear fields

def AllClear : List (Str × FormNode) → Prop
  | [] => True
  | (_, node) :: rest => node.IsClear ∧ AllClear rest

end

/-- The entries of a list field, which commas or line ends separate -/
def contentEntries (text : Str) : List Str :=
  splitOn (code ',') (text.map fun c => if c = code '\n' then code ',' else c)

/-- The text of a field as it is stored and as it is rendered; the entries of an alias come in any
order. -/
def SameText (name stored rendered : Str) : Prop :=
  if name = "content" then (contentEntries rendered).Perm (contentEntries stored)
  else rendered = stored

/-- A rendering of a record, whose texts have the dotted names of its fields -/
structure Renders (stored : List (Str × Str)) (fields : List (Str × FormNode)) : Prop where
  names : (formLeaves [] fields).map (·.1) = stored.map (·.1)
  distinct : (stored.map (·.1)).Nodup
  texts : ∀ name text leaf, (name, text) ∈ stored → (name, leaf) ∈ formLeaves [] fields →
    SameText name text leaf.shows_
  clear : (FormNode.group fields).IsClear

section

variable [Runtime]

/-- The stored text of a field and the requested one -/
def SameValue (name stored requested : Str) : Prop :=
  if name = "protocol" then Runtime.lower stored = Runtime.lower requested
  else if name = "content" then (contentEntries stored).Perm (contentEntries requested)
  else stored = requested

/-- The record agrees with a payload on every field of the payload. -/
def Agrees (stored : List (Str × Str)) (expected : List (Str × Json)) : Prop :=
  ∀ entry ∈ flattenFields [] expected [],
    ∃ text, (entry.1, text) ∈ stored ∧ SameValue entry.1 text entry.2

/-- Two renderings of a record are read back alike, and as the record. -/
def ReadsBack (stored : List (Str × Str)) (first second : List (Str × FormNode)) : Prop :=
  ∀ expected, ∃ answer, matchesPayload (.obj (formJson first)) (.obj expected) = .ok answer ∧
    matchesPayload (.obj (formJson second)) (.obj expected) = .ok answer ∧
    (answer = true ↔ Agrees stored expected)

end

/-! ## What the comparison observes -/

section Observation

variable [Runtime]

/-- The text that the comparison observes; an empty object has none. -/
def Leaf.observed : Leaf → Option Str
  | .text content => some content
  | .options choices => if choices = [] then none else some (join "," (chosenKeys choices))
  | .emptyArray => some (Json.arr []).text

/-- The texts that the comparison observes, with their names -/
def observedLeaves (leaves : List (Str × Leaf)) : List (Str × Str) :=
  leaves.filterMap fun entry => entry.2.observed.map fun text => (entry.1, text)

/-- `dict.update` -/
def enterAll (entries : List (Str × Str)) (result : List (Str × Str)) : List (Str × Str) :=
  entries.foldl (fun result entry => setField entry.1 entry.2 result) result

theorem flatten_leaf {name : Str} {leaf : Leaf} {result : List (Str × Str)} :
    flattenValue name (selected leaf.json) result =
      enterAll (observedLeaves [(name, leaf)]) result := by
  cases leaf with
  | text content => simp [Leaf.json, selected, flattenValue, flatText, Json.text, observedLeaves,
      Leaf.observed, enterAll]
  | options choices =>
      rw [Leaf.json, Rendering.selected_optionsJson]
      by_cases none : choices = []
      · simp [none, flattenValue, flattenFields, observedLeaves, Leaf.observed, enterAll]
      · simp [none, flattenValue, flatText, Json.text, observedLeaves, Leaf.observed, enterAll]
  | emptyArray => simp [Leaf.json, selected, flattenValue, flatText, observedLeaves,
      Leaf.observed, enterAll]

omit [Runtime] in
theorem enterAll_append {first second result : List (Str × Str)} :
    enterAll (first ++ second) result = enterAll second (enterAll first result) :=
  List.foldl_append

theorem observedLeaves_append {first second : List (Str × Leaf)} :
    observedLeaves (first ++ second) = observedLeaves first ++ observedLeaves second :=
  List.filterMap_append

/-- A clear object is decoded field by field. -/
theorem selected_group {fields : List (Str × FormNode)}
    (plain : (formJson fields).all (fun entry => isOption entry.2) = true → fields = []) :
    selected (.obj (formJson fields)) = .obj (selectedFields (formJson fields)) := by
  have notOptions : ¬ (!(formJson fields).isEmpty &&
      (formJson fields).all fun entry => isOption entry.2) = true := by
    rw [Bool.and_eq_true]
    rintro ⟨some, options⟩
    rw [plain options] at some
    cases some
  rw [selected, if_neg notOptions]

mutual

theorem flatten_node (name : Str) (result : List (Str × Str)) : ∀ node : FormNode, node.IsClear →
    flattenValue name (selected node.json) result =
      enterAll (observedLeaves (node.leaves name)) result
  | .leaf leaf, _ => flatten_leaf
  | .group fields, clear => by
      rw [FormNode.IsClear] at clear
      rw [FormNode.json, selected_group clear.1, flattenValue, FormNode.leaves]
      exact flatten_form (name ++ ".") result fields clear.2

theorem flatten_form (path : Str) (result : List (Str × Str)) :
    ∀ fields : List (Str × FormNode), AllClear fields →
      flattenFields path (selectedFields (formJson fields)) result =
        enterAll (observedLeaves (formLeaves path fields)) result
  | [], _ => by simp [formJson, selectedFields, flattenFields, formLeaves, observedLeaves, enterAll]
  | (name, node) :: rest, clear => by
      rw [AllClear] at clear
      rw [formJson, selectedFields, flattenFields, flatten_node (path ++ name) result node clear.1,
        flatten_form path _ rest clear.2, formLeaves, observedLeaves_append, enterAll_append]

end

omit [Runtime] in
theorem field_enterAll {entries result : List (Str × Str)} {name : Str}
    (distinct : (entries.map (·.1)).Nodup) :
    field (enterAll entries result) name = (field entries name).or (field result name) := by
  induction entries generalizing result with
  | nil => rfl
  | cons entry rest ih =>
      rcases entry with ⟨key, text⟩
      rw [List.map_cons, List.nodup_cons] at distinct
      have step : enterAll ((key, text) :: rest) result = enterAll rest (setField key text result) :=
        rfl
      rw [step, ih distinct.2, field_setField, field_cons]
      by_cases same : name = key
      · simp [same, field_of_not_mem distinct.1]
      · simp [same]

/-- The record that the comparison works on -/
theorem flatten_form_root {fields : List (Str × FormNode)} (clear : (FormNode.group fields).IsClear) :
    flatten (selected (.obj (formJson fields))) =
      .ok (enterAll (observedLeaves (formLeaves [] fields)) []) := by
  rw [FormNode.IsClear] at clear
  rw [selected_group clear.1, flatten, flatten_form [] [] fields clear.2]

theorem observedLeaves_cons {name : Str} {leaf : Leaf} {rest : List (Str × Leaf)} :
    observedLeaves ((name, leaf) :: rest) =
      match leaf.observed with
      | none => observedLeaves rest
      | some text => (name, text) :: observedLeaves rest := by
  cases seen : leaf.observed with
  | none => simp [observedLeaves, seen]
  | some text => simp [observedLeaves, seen]

theorem field_observedLeaves {leaves : List (Str × Leaf)} {name : Str}
    (distinct : (leaves.map (·.1)).Nodup) :
    field (observedLeaves leaves) name = (field leaves name).bind Leaf.observed := by
  induction leaves with
  | nil => rfl
  | cons entry rest ih =>
      rcases entry with ⟨key, leaf⟩
      rw [List.map_cons, List.nodup_cons] at distinct
      have rest := ih distinct.2
      rw [observedLeaves_cons, field_cons]
      by_cases same : name = key
      · rw [same, field_of_not_mem distinct.1] at rest
        cases seen : leaf.observed with
        | none => simp [same, seen, rest]
        | some text => simp [same, seen, field_cons]
      · cases seen : leaf.observed with
        | none => simp [same, rest]
        | some text => simp [same, rest, field_cons]

theorem names_observedLeaves {leaves : List (Str × Leaf)} :
    ((observedLeaves leaves).map (·.1)).Sublist (leaves.map (·.1)) := by
  induction leaves with
  | nil => exact List.Sublist.refl []
  | cons entry rest ih =>
      rcases entry with ⟨name, leaf⟩
      rw [observedLeaves_cons, List.map_cons]
      cases leaf.observed with
      | none => exact ih.trans (List.sublist_cons_self _ _)
      | some text => exact ih.cons_cons name

end Observation

/-! ## The answer of a readback -/

section Answer

variable [Runtime] {stored : List (Str × Str)} {fields : List (Str × FormNode)}
  {name text : Str} {leaf : Leaf}

/-- No text is rendered as an empty object or an empty array. -/
def AllLegible (fields : List (Str × FormNode)) : Prop :=
  ∀ entry ∈ formLeaves [] fields, entry.2.IsLegible

theorem observed_of_legible (legible : leaf.IsLegible) : leaf.observed = some leaf.shows_ := by
  cases leaf with
  | text content => rfl
  | options choices => exact if_neg legible
  | emptyArray => cases legible

/-- The comparison of one field, decided -/
theorem fieldMatches_iff {observed value : Str} :
    fieldMatches name observed value = true ↔
      if name = "protocol" then Runtime.lower observed = Runtime.lower value
      else if name = "content" then (contentEntries observed).Perm (contentEntries value)
      else observed = value := by
  unfold fieldMatches
  split
  · exact decide_eq_true_iff
  · split
    · rw [decide_eq_true_iff]
      exact sorted_eq_iff_perm
    · exact decide_eq_true_iff

omit [Runtime] in
theorem Renders.leaf_mem (rendered : Renders stored fields) (member : (name, text) ∈ stored) :
    ∃ leaf, (name, leaf) ∈ formLeaves [] fields := by
  have listed : name ∈ (formLeaves [] fields).map (·.1) := by
    rw [rendered.names]
    exact List.mem_map.mpr ⟨(name, text), member, rfl⟩
  rcases List.mem_map.mp listed with ⟨entry, shown, rfl⟩
  exact ⟨entry.2, shown⟩

omit [Runtime] in
theorem Renders.text_mem (rendered : Renders stored fields)
    (member : (name, leaf) ∈ formLeaves [] fields) : ∃ text, (name, text) ∈ stored := by
  have listed : name ∈ stored.map (·.1) := by
    rw [← rendered.names]
    exact List.mem_map.mpr ⟨(name, leaf), member, rfl⟩
  rcases List.mem_map.mp listed with ⟨entry, kept, rfl⟩
  exact ⟨entry.2, kept⟩

omit [Runtime] in
theorem Renders.distinct_leaves (rendered : Renders stored fields) :
    ((formLeaves [] fields).map (·.1)).Nodup := by
  rw [rendered.names]
  exact rendered.distinct

/-- The comparison of one requested text with what the rendering shows -/
def foundText (fields : List (Str × FormNode)) (entry : Str × Str) : Bool :=
  match (field (formLeaves [] fields) entry.1).bind Leaf.observed with
  | none => false
  | some observed => fieldMatches entry.1 observed entry.2

theorem Renders.matchesPayload_eq (rendered : Renders stored fields) (expected : List (Str × Json)) :
    matchesPayload (.obj (formJson fields)) (.obj expected) =
      .ok ((flattenFields [] expected []).all (foundText fields)) := by
  have distinct := rendered.distinct_leaves
  have found : ∀ name, field (enterAll (observedLeaves (formLeaves [] fields)) []) name =
      (field (formLeaves [] fields) name).bind Leaf.observed := by
    intro name
    rw [field_enterAll (distinct.sublist names_observedLeaves), field_observedLeaves distinct]
    simp [field_nil]
  rw [matchesPayload, flatten_form_root rendered.clear]
  simp only [flatten, bind, Except.bind, pure, Except.pure, found]
  rfl

/-- A legible rendering matches exactly what agrees with the record. -/
theorem Renders.foundText_iff (rendered : Renders stored fields) (legible : AllLegible fields)
    {entry : Str × Str} :
    foundText fields entry = true ↔
      ∃ text, (entry.1, text) ∈ stored ∧ SameValue entry.1 text entry.2 := by
  have distinct := rendered.distinct_leaves
  have compared : ∀ text leaf, (entry.1, text) ∈ stored →
      (entry.1, leaf) ∈ formLeaves [] fields →
        (foundText fields entry = true ↔ SameValue entry.1 text entry.2) := by
    intro text leaf kept shown
    have same := rendered.texts entry.1 text leaf kept shown
    rw [foundText, field_of_mem distinct shown, Option.bind_some,
      observed_of_legible (legible _ shown), fieldMatches_iff, SameValue]
    rw [SameText] at same
    by_cases protocol : entry.1 = "protocol"
    · have other : entry.1 ≠ "content" := by
        rw [protocol, Ne, ofString_inj]
        decide
      rw [if_neg other] at same
      rw [same]
    · by_cases content : entry.1 = "content"
      · rw [if_pos content] at same
        rw [if_neg protocol, if_neg protocol, if_pos content, if_pos content]
        constructor
        · exact same.symm.trans
        · exact same.trans
      · rw [if_neg content] at same
        rw [same]
  constructor
  · intro found
    cases shown : field (formLeaves [] fields) entry.1 with
    | none => simp [foundText, shown] at found
    | some leaf =>
        have member := mem_of_field shown
        rcases rendered.text_mem member with ⟨text, kept⟩
        exact ⟨text, kept, (compared text leaf kept member).mp found⟩
  · rintro ⟨text, kept, same⟩
    rcases rendered.leaf_mem kept with ⟨leaf, shown⟩
    exact (compared text leaf kept shown).mpr same

theorem Renders.matches_iff_agrees (rendered : Renders stored fields) (legible : AllLegible fields)
    (expected : List (Str × Json)) :
    ∃ answer, matchesPayload (.obj (formJson fields)) (.obj expected) = .ok answer ∧
      (answer = true ↔ Agrees stored expected) := by
  refine ⟨_, rendered.matchesPayload_eq expected, ?_⟩
  rw [List.all_eq_true]
  exact forall₂_congr fun entry _ => rendered.foundText_iff legible

/-- A payload that asks for the empty text of a field -/
def emptyPayload (name : Str) : List (Str × Json) := [(name, .str [])]

theorem flatten_emptyPayload : flattenFields [] (emptyPayload name) [] = [(name, [])] := by
  simp [emptyPayload, flattenFields, flattenValue, flatText, Json.text, setField]

omit [Runtime] in
theorem shows_of_not_legible (illegible : ¬ leaf.IsLegible) : leaf.shows_ = [] := by
  cases leaf with
  | text content => exact absurd trivial illegible
  | options choices =>
      have none : choices = [] := not_not.mp illegible
      rw [none]
      rfl
  | emptyArray => rfl

/-- The record agrees that the text is empty. -/
theorem Renders.agrees_empty (rendered : Renders stored fields)
    (shown : (name, leaf) ∈ formLeaves [] fields) (illegible : ¬ leaf.IsLegible) :
    Agrees stored (emptyPayload name) := by
  rcases rendered.text_mem shown with ⟨text, kept⟩
  have same := rendered.texts name text leaf kept shown
  rw [shows_of_not_legible illegible, SameText] at same
  intro entry member
  rw [flatten_emptyPayload, List.mem_singleton] at member
  rw [member]
  refine ⟨text, kept, ?_⟩
  rw [SameValue]
  by_cases content : name = "content"
  · rw [if_pos content] at same
    have other : name ≠ "protocol" := by
      rw [content, Ne, ofString_inj]
      decide
    rw [if_neg other, if_pos content]
    exact same.symm
  · rw [if_neg content] at same
    rw [← same, if_neg content]
    split
    · rfl
    · rfl

/-- The comparison does not see the empty text in an empty object or array. -/
theorem Renders.empty_not_found (ascii : LowersAscii) (rendered : Renders stored fields)
    (shown : (name, leaf) ∈ formLeaves [] fields) (illegible : ¬ leaf.IsLegible) :
    foundText fields (name, []) = false := by
  rw [foundText, field_of_mem rendered.distinct_leaves shown, Option.bind_some]
  cases leaf with
  | text content => exact absurd trivial illegible
  | options choices =>
      have none : choices = [] := not_not.mp illegible
      simp [Leaf.observed, none]
  | emptyArray =>
      have brackets : (Json.arr []).text = [91, 93] := rfl
      have lowered : Runtime.lower [91, 93] ≠ Runtime.lower [] := by
        rw [ascii [91, 93] (by decide), ascii [] (by decide)]
        decide
      have entries : contentItems [91, 93] ≠ contentItems [] := by decide
      rw [Leaf.observed, brackets]
      simp only [fieldMatches]
      split
      · exact decide_eq_false lowered
      · split
        · exact decide_eq_false entries
        · rfl

/-- A readback that every payload can trust shows no empty object or array. -/
theorem Renders.legible_of_matches (ascii : LowersAscii) (rendered : Renders stored fields)
    (reads : ∀ expected, ∃ answer,
      matchesPayload (.obj (formJson fields)) (.obj expected) = .ok answer ∧
        (answer = true ↔ Agrees stored expected)) :
    AllLegible fields := by
  rintro ⟨name, leaf⟩ shown
  by_contra illegible
  rcases reads (emptyPayload name) with ⟨answer, compared, agrees⟩
  rw [rendered.matchesPayload_eq, flatten_emptyPayload] at compared
  have missed := rendered.empty_not_found ascii shown illegible
  have found := agrees.mpr (rendered.agrees_empty shown illegible)
  rw [found, List.all_cons, missed] at compared
  cases compared

/-- Two renderings of a record are read back alike, and as the record, if and only if neither of
them shows an empty object or array in the place of a text. -/
theorem readsBack_iff {first second : List (Str × FormNode)} (ascii : LowersAscii)
    (once : Renders stored first) (again : Renders stored second) :
    ReadsBack stored first second ↔ AllLegible first ∧ AllLegible second := by
  constructor
  · intro reads
    constructor
    · refine once.legible_of_matches ascii ?_
      intro expected
      rcases reads expected with ⟨answer, compared, _, agrees⟩
      exact ⟨answer, compared, agrees⟩
    · refine again.legible_of_matches ascii ?_
      intro expected
      rcases reads expected with ⟨answer, _, compared, agrees⟩
      exact ⟨answer, compared, agrees⟩
  · rintro ⟨firstLegible, secondLegible⟩ expected
    rcases once.matches_iff_agrees firstLegible expected with ⟨answer, compared, agrees⟩
    rcases again.matches_iff_agrees secondLegible expected with ⟨other, recompared, agreesAgain⟩
    have same : other = answer := by
      rw [Bool.eq_iff_iff, agrees, agreesAgain]
    rw [same] at recompared
    exact ⟨answer, compared, recompared, agrees⟩

end Answer

/-! ## An alias without a protocol -/

namespace RenderingDemo

def storedAlias : List (Str × Str) := [("name", "Lists"), ("proto", ""), ("content", "a\nb")]

def contentChoices : List Choice := [⟨"b", "b", true, false⟩, ⟨"a", "a", true, true⟩]

/-- The alias with its entries as options, and its protocol as given -/
def aliasShown (proto : Leaf) : List (Str × FormNode) :=
  [("name", .leaf (.text "Lists")), ("proto", .leaf proto),
    ("content", .leaf (.options contentChoices))]

def aliasLeaves (proto : Leaf) : List (Str × Leaf) :=
  [("name", .text "Lists"), ("proto", proto), ("content", .options contentChoices)]

def protoChoices : List Choice := [⟨"IPv4", "IPv4", false, false⟩, ⟨"IPv6", "IPv6", false, true⟩]

theorem renders_alias {proto : Leaf} (empty : proto.shows_ = []) :
    Renders storedAlias (aliasShown proto) where
  names := by rfl
  distinct := by decide
  texts := by
    intro name text leaf kept shown
    have leaves : formLeaves [] (aliasShown proto) = aliasLeaves proto := rfl
    rw [leaves] at shown
    simp only [storedAlias, aliasLeaves, List.mem_cons, Prod.mk.injEq, List.not_mem_nil, or_false] at kept shown
    rcases kept with ⟨rfl, rfl⟩ | ⟨rfl, rfl⟩ | ⟨rfl, rfl⟩
    · rcases shown with ⟨_, rfl⟩ | ⟨same, _⟩ | ⟨same, _⟩
      · exact (if_neg (by decide)).mpr rfl
      · exact absurd same (by decide)
      · exact absurd same (by decide)
    · rcases shown with ⟨same, _⟩ | ⟨_, rfl⟩ | ⟨same, _⟩
      · exact absurd same (by decide)
      · exact (if_neg (by decide)).mpr empty
      · exact absurd same (by decide)
    · rcases shown with ⟨same, _⟩ | ⟨same, _⟩ | ⟨_, rfl⟩
      · exact absurd same (by decide)
      · exact absurd same (by decide)
      · exact (if_pos rfl).mpr (by decide)
  clear := by
    refine ⟨?_, trivial, trivial, trivial, trivial⟩
    intro options
    cases options

theorem alias_read_back :
    @ReadsBack Runtime.ascii storedAlias (aliasShown (.text [])) (aliasShown (.options protoChoices)) := by
  refine (@readsBack_iff Runtime.ascii _ _ _ lowersAscii (renders_alias rfl)
    (renders_alias (by decide))).mpr ⟨?_, ?_⟩
  · simp [AllLegible, aliasShown, formLeaves, FormNode.leaves, Leaf.IsLegible, contentChoices]
  · simp [AllLegible, aliasShown, formLeaves, FormNode.leaves, Leaf.IsLegible, contentChoices,
      protoChoices]

theorem empty_proto_missed :
    Renders storedAlias (aliasShown (.text [])) ∧ Renders storedAlias (aliasShown (.options [])) ∧
      ¬ @ReadsBack Runtime.ascii storedAlias (aliasShown (.text [])) (aliasShown (.options [])) := by
  refine ⟨renders_alias rfl, renders_alias rfl, ?_⟩
  intro reads
  rcases reads [("proto", .str [])] with ⟨answer, first, second, _⟩
  have found : @matchesPayload Runtime.ascii (.obj (formJson (aliasShown (.text []))))
      (.obj [("proto", .str [])]) = .ok true := by rfl
  have missed : @matchesPayload Runtime.ascii (.obj (formJson (aliasShown (.options []))))
      (.obj [("proto", .str [])]) = .ok false := by rfl
  rw [found] at first
  rw [missed, ← first] at second
  cases second

end RenderingDemo

end OpnsensePlugin

import OpnsensePlugin.Python.Split
import OpnsensePlugin.Routes.FormValues

/-!
# Objects that a firewall returns

A firewall returns a stored object with some of its select fields as options.
`selected` takes the options back to the stored texts, but it leaves an empty
option dictionary as it is.
-/

namespace OpnsensePlugin

open Python

namespace FirewallForm

variable [Runtime]

/-! ## Options -/

/-- An option of a select field -/
structure Choice where
  key : Str
  label : Str
  chosen : Bool
  asText : Bool

def Choice.json (choice : Choice) : Json :=
  let mark : Nat := if choice.chosen then 1 else 0
  .obj [("value", .str choice.label),
    ("selected", if choice.asText then .str (natText mark) else .int mark)]

def optionsJson (choices : List Choice) : Json :=
  .obj (choices.map fun choice => (choice.key, choice.json))

def chosenKeys (choices : List Choice) : List Str :=
  (choices.filter Choice.chosen).map Choice.key

/-- The fields of a payload that a firewall can show as options -/
def selectNames : Resource → List Str
  | .portForward => ["interface", "target", "source.network", "destination.network", "ipprotocol",
      "protocol", "pass", "natreflection"]
  | .rules => ["action", "direction", "ipprotocol", "protocol", "source_net", "destination_net",
      "interface"]
  | .aliases => ["type", "content", "proto"]

/-- The entries of the content of an alias -/
def contentLines (content : Str) : List Str :=
  if content.isEmpty then [] else splitOn (code '\n') content

/-- The options show the stored text. -/
def ShowsText (name text : Str) (choices : List Choice) : Prop :=
  if name = "content" then chosenKeys choices = contentLines text
  else join "," (chosenKeys choices) = text

/-- The texts of an object under their dotted names -/
def leaves (fields : List (Str × Json)) : List (Str × Str) :=
  fields.flatMap fun (name, value) =>
    match value with
    | .str text => [(name, text)]
    | .obj inner => inner.filterMap fun (key, part) =>
        match part with
        | .str text => some (name ++ "." ++ key, text)
        | _ => none
    | _ => []

omit [Runtime] in
theorem mem_leaves {fields : List (Str × Json)} {name text : Str}
    (listed : (name, .str text) ∈ fields) : (name, text) ∈ leaves fields :=
  List.mem_flatMap.mpr ⟨_, listed, by simp⟩

omit [Runtime] in
theorem mem_leaves_nested {fields inner : List (Str × Json)} {group key text : Str}
    (listed : (group, .obj inner) ∈ fields) (part : (key, .str text) ∈ inner) :
    (group ++ "." ++ key, text) ∈ leaves fields := by
  refine List.mem_flatMap.mpr ⟨_, listed, ?_⟩
  exact List.mem_filterMap.mpr ⟨_, part, rfl⟩

/-- The select fields that a firewall returns as options, with their options -/
structure Rendering (resource : Resource) (fields : List (Str × Json)) where
  options : Str → Option (List Choice)
  selects : ∀ name choices, options name = some choices → name ∈ selectNames resource
  faithful : ∀ name text choices, (name, text) ∈ leaves fields → options name = some choices →
    ShowsText name text choices

def shown (options : Str → Option (List Choice)) (name : Str) : Json → Json
  | .str text =>
      match options name with
      | some choices => optionsJson choices
      | none => .str text
  | value => value

def shownField (options : Str → Option (List Choice)) (name : Str) : Json → Json
  | .obj inner => .obj (inner.map fun (key, part) => (key, shown options (name ++ "." ++ key) part))
  | value => shown options name value

namespace Rendering

variable {resource : Resource} {fields : List (Str × Json)}

/-- The object that a firewall returns -/
def row (rendering : Rendering resource fields) : List (Str × Json) :=
  fields.map fun entry => (entry.1, shownField rendering.options entry.1 entry.2)

/-- Every select field has an option. -/
def HasOptions (rendering : Rendering resource fields) : Prop :=
  ∀ name, rendering.options name ≠ some []

variable {rendering : Rendering resource fields} {name text : Str}

omit [Runtime] in
theorem field_json_selected (choice : Choice) : ∃ fields, choice.json = .obj fields ∧
    field fields "selected" =
      some (if choice.asText then .str (natText (if choice.chosen then 1 else 0))
        else .int (if choice.chosen then 1 else 0)) := by
  refine ⟨_, rfl, ?_⟩
  rcases choice with ⟨key, label, chosen, asText⟩
  cases chosen <;> cases asText <;> rfl

omit [Runtime] in
theorem isOption_json (choice : Choice) : isOption choice.json = true := by
  rcases field_json_selected choice with ⟨fields, same, found⟩
  simp [same, isOption, found]

theorem isSelected_json (choice : Choice) : isSelected choice.json = choice.chosen := by
  have one : natText 1 = ("1" : Str) := by decide
  have zero : natText 0 ≠ ("1" : Str) := by decide
  rcases field_json_selected choice with ⟨fields, same, found⟩
  rw [same]
  simp only [isSelected, fieldD, found, Option.getD_some]
  cases choice.asText <;> cases choice.chosen <;>
    simp [Json.text, Json.repr, intText, one, zero]

/-- Options stand for the keys of the chosen ones, but no option at all for an empty object. -/
theorem selected_optionsJson {choices : List Choice} :
    selected (optionsJson choices) =
      if choices = [] then .obj [] else .str (join "," (chosenKeys choices)) := by
  have options : ∀ entry ∈ choices.map fun choice => (choice.key, choice.json),
      isOption entry.2 = true := by
    intro entry member
    rcases List.mem_map.mp member with ⟨choice, _, rfl⟩
    exact isOption_json choice
  have kept : ((choices.map fun choice => (choice.key, choice.json)).filter fun entry =>
      isSelected entry.2).map (·.1) = chosenKeys choices := by
    simp [List.filter_map, Function.comp_def, isSelected_json, chosenKeys]
  cases choices with
  | nil => simp [optionsJson, selected, selectedFields]
  | cons first rest =>
      rw [optionsJson, selected, if_pos (by simpa using List.all_eq_true.mpr options), kept]
      simp

theorem selected_shown_plain (plain : rendering.options name = none) :
    selected (shown rendering.options name (.str text)) = .str text := by
  simp [shown, plain, selected]

theorem selected_shown (hasOptions : rendering.HasOptions) (member : (name, text) ∈ leaves fields)
    (other : name ≠ "content") :
    selected (shown rendering.options name (.str text)) = .str text := by
  cases options : rendering.options name with
  | none => exact selected_shown_plain options
  | some choices =>
      have faithful := rendering.faithful name text choices member options
      rw [ShowsText, if_neg other] at faithful
      have some : choices ≠ [] := by
        rintro rfl
        exact hasOptions name options
      simp [shown, options, selected_optionsJson, some, faithful]

omit [Runtime] in
/-- An empty option dictionary shows no text but the empty one. -/
theorem text_of_no_options (member : (name, text) ∈ leaves fields)
    (options : rendering.options name = some []) : text = [] := by
  have faithful := rendering.faithful name text [] member options
  by_cases content : name = "content"
  · rw [ShowsText, if_pos content] at faithful
    by_contra some
    simp [contentLines, some, chosenKeys, splitOn_ne_nil.symm] at faithful
  · rw [ShowsText, if_neg content] at faithful
    exact faithful.symm

omit [Runtime] in
theorem hasOptions_of_texts
    (texts : ∀ name ∈ selectNames resource, ∃ text, (name, text) ∈ leaves fields ∧ text ≠ []) :
    rendering.HasOptions := by
  intro name none
  rcases texts name (rendering.selects name [] none) with ⟨text, leaf, visible⟩
  exact visible (rendering.text_of_no_options leaf none)

omit [Runtime] in
theorem plain_of_not_select (outside : name ∉ selectNames resource) :
    rendering.options name = none := by
  cases options : rendering.options name with
  | none => rfl
  | some choices => exact absurd (rendering.selects name choices options) outside

theorem selectedFields_eq_map {fields : List (Str × Json)} :
    selectedFields fields = fields.map fun entry => (entry.1, selected entry.2) := by
  induction fields with
  | nil => simp [selectedFields]
  | cons entry rest ih => simp [selectedFields, ih]

/-- The row that `normalize` works on -/
def selectedRow (rendering : Rendering resource fields) : List (Str × Json) :=
  fields.map fun entry => (entry.1, selected (shownField rendering.options entry.1 entry.2))

theorem selected_row (member : (name, .str text) ∈ fields) (outside : name ∉ selectNames resource) :
    selected (.obj rendering.row) = .obj rendering.selectedRow := by
  have plain : rendering.options name = none := plain_of_not_select outside
  have listed : (name, Json.str text) ∈ rendering.row := by
    refine List.mem_map.mpr ⟨_, member, ?_⟩
    simp [shownField, shown, plain]
  have notAll : ¬ (!rendering.row.isEmpty &&
      rendering.row.all fun entry => isOption entry.2) = true := by
    simp only [Bool.and_eq_true, not_and]
    intro _ all
    exact absurd (List.all_eq_true.mp all _ listed) (by simp [isOption])
  rw [selected, if_neg notAll, selectedFields_eq_map, row, selectedRow]
  simp

theorem field_selectedRow : field rendering.selectedRow name =
    (field fields name).map fun value => selected (shownField rendering.options name value) := by
  let change (name : Str) (value : Json) : Json :=
    selected (shownField rendering.options name value)
  exact @field_map _ name fields _ change

theorem selectedRow_eq (kept : ∀ entry ∈ fields,
    selected (shownField rendering.options entry.1 entry.2) = entry.2) :
    rendering.selectedRow = fields := by
  have same : ∀ entry ∈ fields,
      (entry.1, selected (shownField rendering.options entry.1 entry.2)) = entry := by
    intro entry member
    rw [kept entry member]
  rw [selectedRow, List.map_congr_left same, List.map_id']

end Rendering

end FirewallForm

end OpnsensePlugin

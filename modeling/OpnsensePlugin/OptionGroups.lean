import OpnsensePlugin.Collectors
import OpnsensePlugin.Management.Crl

/-!
# Option groups

OPNsense shows the choices of a form as a group of options, each with a flag.
Four functions read such groups, and each tests the flags in its own way.
-/

namespace OpnsensePlugin

open Management Python

/-- The encodings of a flag: `1`, `0`, `'1'`, `'0'`, `true` and `false` -/
inductive SelectedFlag
  | one
  | zero
  | textOne
  | textZero
  | yes
  | no
deriving DecidableEq

namespace SelectedFlag

def json : SelectedFlag → Json
  | one => .int 1
  | zero => .int 0
  | textOne => .str "1"
  | textZero => .str "0"
  | yes => .bool true
  | no => .bool false

/-- `str(flag) == "1"` -/
def readsOne : SelectedFlag → Bool
  | one | textOne => true
  | _ => false

/-- `flag in ('1', 1, True)` -/
def isSet : SelectedFlag → Bool
  | one | textOne | yes => true
  | _ => false

/-- `bool(flag)` -/
def isTruthy : SelectedFlag → Bool
  | one | textOne | textZero | yes => true
  | _ => false

theorem isSet_of_readsOne {flag : SelectedFlag} (reads : flag.readsOne = true) :
    flag.isSet = true := by
  cases flag with
  | one | textOne | yes => rfl
  | _ => cases reads

theorem readsOne_eq_isSet {flag : SelectedFlag} (plain : flag ≠ yes) :
    flag.readsOne = flag.isSet := by
  cases flag with
  | yes => exact absurd rfl plain
  | _ => rfl

theorem isTruthy_eq_isSet {flag : SelectedFlag} (other : flag ≠ textZero) :
    flag.isTruthy = flag.isSet := by
  cases flag with
  | textZero => exact absurd rfl other
  | _ => rfl

end SelectedFlag

/-- `{value, selected}` -/
structure GroupOption where
  value : Json
  selected : SelectedFlag

def GroupOption.json (option : GroupOption) : Json :=
  .obj [("value", option.value), ("selected", option.selected.json)]

/-- A dictionary of options -/
structure OptionGroup where
  options : List (Str × GroupOption)
  distinct : (options.map (·.1)).Nodup

namespace OptionGroup

variable [Runtime] {group : OptionGroup} {key : Str} {keys : List Str} {test : Json → Bool}

def fields (group : OptionGroup) : List (Str × Json) :=
  group.options.map fun (key, option) => (key, option.json)

def json (group : OptionGroup) : Json := .obj group.fields

/-- The keys of the options that pass a test -/
def keysWhere (group : OptionGroup) (test : Json → Bool) : List Str :=
  (group.fields.filter fun (_, option) => test option).map (·.1)

/-- The first key of the options that pass a test, with its option -/
def firstWhere (group : OptionGroup) (test : Json → Bool) : Option (Str × GroupOption) :=
  group.options.find? fun (_, option) => test option.json

/-! ## What the decoders designate -/

/-- `selected` of the verified writer returns the keys as one text; an empty dictionary stays. -/
def VerifiedSelects (group : OptionGroup) (keys : List Str) : Prop :=
  keys = group.keysWhere isSelected ∧
    selected group.json = if group.options = [] then .obj [] else .str (join "," keys)

/-- `selected` of the engine -/
def EngineSelects (group : OptionGroup) (keys : List Str) : Prop :=
  keys = group.keysWhere isSelected ∧ selectedForm group.json = .str (join "," keys)

/-- `_selected` of the revocation lists -/
def CrlSelects (group : OptionGroup) (keys : List Str) : Prop :=
  keys = group.keysWhere CrlService.isChosen ∧ CrlService.chosen group.json = .ok (join "," keys)

/-- `_selected_value` returns the value of the first option that it takes for selected. -/
def HasyncSelects (group : OptionGroup) (key : Str) : Prop :=
  ∃ option, group.firstWhere isSelectedOption = some (key, option) ∧
    selectedValue group.json = option.value.text

/-- All decoders designate the same keys; the last one reads groups with one such key only. -/
def DecodersAgree (group : OptionGroup) : Prop :=
  ∃ keys, group.VerifiedSelects keys ∧ group.EngineSelects keys ∧ group.CrlSelects keys ∧
    ∀ key, keys = [key] → group.HasyncSelects key

/-! ## The tests on flags -/

section Tests

variable {option : GroupOption}

omit [Runtime] in
theorem isOption_json : isOption option.json = true := rfl

theorem isSelected_json : isSelected option.json = option.selected.readsOne := by
  rcases option with ⟨value, flag⟩
  cases flag <;> rfl

omit [Runtime] in
theorem isChosen_json : CrlService.isChosen option.json = option.selected.isSet := by
  rcases option with ⟨value, flag⟩
  cases flag <;> rfl

omit [Runtime] in
theorem isSelectedOption_json : isSelectedOption option.json = option.selected.isTruthy := by
  rcases option with ⟨value, flag⟩
  cases flag <;> rfl

end Tests

/-! ## What is returned -/

omit [Runtime] in
theorem keysWhere_eq : group.keysWhere test =
    (group.options.filter fun (_, option) => test option.json).map (·.1) := by
  rw [keysWhere, fields, List.filter_map, List.map_map]
  rfl

omit [Runtime] in
theorem all_isOption : (group.fields.all fun (_, option) => isOption option) = true := by
  rw [List.all_eq_true]
  intro entry member
  rcases List.mem_map.mp member with ⟨⟨key, option⟩, _, rfl⟩
  exact isOption_json

theorem verifiedSelects_iff : group.VerifiedSelects keys ↔ keys = group.keysWhere isSelected := by
  have returned : selected group.json =
      if group.options = [] then .obj [] else .str (join "," (group.keysWhere isSelected)) := by
    by_cases blank : group.options = []
    · have none : group.fields = [] := by simp [fields, blank]
      simp [json, selected, none, blank, selectedFields]
    · have some : group.fields.isEmpty = false := by simp [fields, blank]
      simp only [json, selected, some, all_isOption, Bool.not_false, Bool.and_self, if_true,
        if_neg blank]
      rfl
  constructor
  · exact fun selects => selects.1
  · rintro rfl
    exact ⟨rfl, returned⟩

theorem engineSelects_iff : group.EngineSelects keys ↔ keys = group.keysWhere isSelected := by
  have returned : selectedForm group.json = .str (join "," (group.keysWhere isSelected)) := by
    by_cases blank : group.options = []
    · have none : group.fields = [] := by simp [fields, blank]
      simp [json, selectedForm, none, keysWhere, join]
    · have some : group.fields.isEmpty = false := by simp [fields, blank]
      simp only [json, selectedForm, some, all_isOption, Bool.false_eq_true, if_false, if_true]
      rfl
  constructor
  · exact fun selects => selects.1
  · rintro rfl
    exact ⟨rfl, returned⟩

omit [Runtime] in
theorem crlSelects_iff :
    group.CrlSelects keys ↔ keys = group.keysWhere CrlService.isChosen :=
  ⟨fun selects => selects.1, fun same => ⟨same, by rw [same]; rfl⟩⟩

theorem hasyncSelects_iff : group.HasyncSelects key ↔
    ∃ option, group.firstWhere isSelectedOption = some (key, option) := by
  constructor
  · rintro ⟨option, first, _⟩
    exact ⟨option, first⟩
  · rintro ⟨option, first⟩
    refine ⟨option, first, ?_⟩
    have found : (group.fields.map (·.2)).find? isSelectedOption = some option.json := by
      rw [fields, List.map_map, List.find?_map]
      exact congrArg (Option.map _) first
    simp only [json, selectedValue, found]
    rfl

/-! ## Agreement -/

/-- No flag is `true`, and no flag before the only selected option is `'0'`. -/
structure Readable (group : OptionGroup) : Prop where
  plain : ∀ entry ∈ group.options, entry.2.selected ≠ .yes
  first : ∀ front entry back, group.options = front ++ entry :: back →
    entry.2.selected.isSet = true → (∀ other ∈ front ++ back, other.2.selected.isSet = false) →
      ∀ earlier ∈ front, earlier.2.selected ≠ .textZero

/-- The verified writer and the revocation lists read the same keys where no flag is `true`. -/
theorem keysWhere_eq_iff : group.keysWhere isSelected = group.keysWhere CrlService.isChosen ↔
    ∀ entry ∈ group.options, entry.2.selected ≠ .yes := by
  simp only [keysWhere_eq, isSelected_json, isChosen_json]
  constructor
  · intro same entry member yes
    have fewer : List.Sublist (group.options.filter fun entry => entry.2.selected.readsOne)
        (group.options.filter fun entry => entry.2.selected.isSet) :=
      List.monotone_filter_right _ fun _ => SelectedFlag.isSet_of_readsOne
    have length := congrArg List.length same
    rw [List.length_map, List.length_map] at length
    have equal := fewer.eq_of_length length
    have kept : entry ∈ group.options.filter fun entry => entry.2.selected.isSet :=
      List.mem_filter.mpr ⟨member, by simp [yes, SelectedFlag.isSet]⟩
    rw [← equal, List.mem_filter, yes] at kept
    exact absurd kept.2 (by decide)
  · intro plain
    congr 1
    apply List.filter_congr
    exact fun entry member => SelectedFlag.readsOne_eq_isSet (plain entry member)

/-- A group with one selected option, where no flag is `true` -/
theorem exists_only (plain : ∀ entry ∈ group.options, entry.2.selected ≠ .yes)
    (only : group.keysWhere isSelected = [key]) :
    ∃ front option back, group.options = front ++ (key, option) :: back ∧
      option.selected.isSet = true ∧
      ∀ other ∈ front ++ back, other.2.selected.isSet = false := by
  rw [keysWhere_eq_iff.mpr plain] at only
  simp only [keysWhere_eq, isChosen_json] at only
  rcases List.map_eq_singleton_iff.mp only with ⟨⟨_, option⟩, single, rfl⟩
  rcases List.filter_eq_cons_iff.mp single with ⟨front, back, split, before, reads, after⟩
  refine ⟨front, option, back, split, reads, ?_⟩
  intro other member
  rcases List.mem_append.mp member with early | late
  · simpa using before other early
  · simpa using List.filter_eq_nil_iff.mp after other late

omit [Runtime] in
/-- The first option that `_selected_value` takes for selected is the only selected one, unless a
flag before it is `'0'`. -/
theorem firstWhere_iff {front back : List (Str × GroupOption)} {option : GroupOption}
    (split : group.options = front ++ (key, option) :: back)
    (chosen : option.selected.isSet = true)
    (others : ∀ other ∈ front ++ back, other.2.selected.isSet = false) :
    (∃ taken, group.firstWhere isSelectedOption = some (key, taken)) ↔
      ∀ earlier ∈ front, earlier.2.selected ≠ .textZero := by
  have truthy : option.selected.isTruthy = true := by
    rw [SelectedFlag.isTruthy_eq_isSet, chosen]
    intro zero
    rw [zero] at chosen
    cases chosen
  simp only [firstWhere, isSelectedOption_json, split, List.find?_append]
  constructor
  · rintro ⟨taken, first⟩ earlier member zero
    have early : (front.find? fun entry => entry.2.selected.isTruthy).isSome = true :=
      List.find?_isSome.mpr ⟨earlier, member, by simp [zero, SelectedFlag.isTruthy]⟩
    rcases Option.isSome_iff_exists.mp early with ⟨found, isFound⟩
    simp only [isFound, Option.some_or, Option.some.injEq] at first
    subst first
    -- the keys of a dictionary are distinct
    have distinct := group.distinct
    rw [split, List.map_append, List.map_cons, List.nodup_append] at distinct
    have listed : key ∈ front.map (·.1) := List.mem_map.mpr ⟨_, List.mem_of_find?_eq_some isFound, rfl⟩
    exact distinct.2.2 key listed key (by simp) rfl
  · intro plain
    have silent : (front.find? fun entry => entry.2.selected.isTruthy) = none := by
      rw [List.find?_eq_none]
      intro earlier member
      rw [SelectedFlag.isTruthy_eq_isSet (plain earlier member),
        others earlier (List.mem_append_left _ member)]
      simp
    exact ⟨option, by simp [silent, truthy]⟩

/-- The decoders agree exactly on readable groups. -/
theorem decodersAgree_iff : group.DecodersAgree ↔ group.Readable := by
  constructor
  · rintro ⟨keys, verified, _, crl, hasync⟩
    have same := crlSelects_iff.mp crl
    rw [verifiedSelects_iff.mp verified] at same
    have plain := keysWhere_eq_iff.mp same
    refine ⟨plain, ?_⟩
    rintro front ⟨key, option⟩ back split chosen others
    have only : keys = [key] := by
      rw [crlSelects_iff.mp crl, keysWhere_eq]
      have silent : ∀ part : List (Str × GroupOption), (∀ other ∈ part, other ∈ front ++ back) →
          (part.filter fun entry => entry.2.selected.isSet) = [] := by
        intro part inside
        rw [List.filter_eq_nil_iff]
        intro other member
        simp [others other (inside other member)]
      simp only [isChosen_json, split, List.filter_append, List.filter_cons, chosen, if_true]
      rw [silent front (by simp +contextual), silent back (by simp +contextual)]
      rfl
    exact (firstWhere_iff split chosen others).mp (hasyncSelects_iff.mp (hasync key only))
  · intro readable
    refine ⟨group.keysWhere isSelected, verifiedSelects_iff.mpr rfl, engineSelects_iff.mpr rfl,
      crlSelects_iff.mpr (keysWhere_eq_iff.mpr readable.plain), ?_⟩
    intro key only
    rcases exists_only readable.plain only with ⟨front, option, back, split, chosen, others⟩
    have before := readable.first front (key, option) back split chosen others
    exact hasyncSelects_iff.mpr ((firstWhere_iff split chosen others).mpr before)

/-- `true` is not `"1"` for the writers. -/
def enabledGroup : OptionGroup where
  options := [("lan", ⟨.str "LAN", .yes⟩)]
  distinct := by decide

/-- The text `'0'` is true for `_selected_value`. -/
def disabledFirst : OptionGroup where
  options := [([], ⟨.str "Disabled", .textZero⟩), ("opt1", ⟨.str "PFSYNC", .textOne⟩)]
  distinct := by decide

omit [Runtime] in
theorem decoders_disagree :
    ¬ @DecodersAgree Runtime.ascii enabledGroup ∧ ¬ @DecodersAgree Runtime.ascii disabledFirst := by
  constructor
  · rintro ⟨keys, verified, _, crl, _⟩
    have unread : keys = [] := verified.1
    have read : keys = ["lan"] := crl.1
    rw [unread] at read
    cases read
  · rintro ⟨keys, verified, _, _, hasync⟩
    have only : keys = ["opt1"] := verified.1
    rcases hasync "opt1" only with ⟨option, first, _⟩
    cases first

end OptionGroup

end OpnsensePlugin

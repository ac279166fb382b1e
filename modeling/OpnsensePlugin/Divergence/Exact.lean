import Mathlib.Data.List.Find
import OpnsensePlugin.Divergence.Snapshots

/-!
# Which services and gateways are reported

An entry about a service or a gateway stands for a value that differs between
the nodes, where a row that a node does not have has the value `None`. A service
with an empty name is left out by an explicit test.
-/

namespace OpnsensePlugin

open Effects Python

/-! ## The values of the rows -/

/-- The text that names a row -/
def listedName : Json → Option Str
  | .obj fields =>
      match rowName fields with
      | .str name => some name
      | _ => none
  | _ => none

abbrev HasUniqueNames (items : List Json) : Prop :=
  (items.filterMap listedName).Nodup

/-- What a list says about a name: nothing if no row has it -/
def listedValue (items : List Json) (name key : Str) : Json :=
  match items.find? fun row => listedName row = some name with
  | some (.obj fields) => fieldD fields key .null
  | _ => .null

section Rows

variable {items : List Json} {name key : Str} {rows : NamedRows}

theorem namedRow_name {row : Json} (named : IsNamed rowName row) :
    (namedRow rowName row).map Prod.fst = (listedName row).map some := by
  rcases named with ⟨fields, name, rfl, text⟩
  simp [namedRow, listedName, text]

theorem names_eq (named : ∀ row ∈ items, IsNamed rowName row) :
    (items.filterMap (namedRow rowName)).map Prod.fst = (items.filterMap listedName).map some := by
  rw [List.map_filterMap, List.map_filterMap]
  exact List.filterMap_congr fun row member => namedRow_name (named row member)

/-- With unique names it makes no difference that the last row with a name counts. -/
theorem valueIn_eq_listedValue (named : ∀ row ∈ items, IsNamed rowName row)
    (unique : HasUniqueNames items) :
    valueIn (items.filterMap (namedRow rowName)) (some name) key = listedValue items name key := by
  have distinct : ((items.filterMap (namedRow rowName)).map Prod.fst).Nodup := by
    rw [names_eq named]
    exact unique.map (Option.some_injective Str)
  have single : {row ∈ items.filterMap (namedRow rowName) |
      decide (row.1 = some name) = true}.Subsingleton := by
    rintro first ⟨listed, left⟩ second ⟨member, right⟩
    rw [decide_eq_true_eq] at left right
    exact List.inj_on_of_nodup_map distinct listed member (left.trans right.symm)
  rw [valueIn, ← List.find?_eq_find?_of_perm (List.reverse_perm _).symm single, List.find?_filterMap,
    listedValue]
  have same : items.find? (fun row => (namedRow rowName row).any fun row => row.1 = some name) =
      items.find? fun row => listedName row = some name := by
    refine List.find?_congr fun row member => ?_
    rcases named row member with ⟨fields, text, rfl, found⟩
    simp [namedRow, listedName, found]
  rw [same]
  cases found : items.find? fun row => listedName row = some name with
  | none => rfl
  | some row =>
      rcases named row (List.mem_of_find?_eq_some found) with ⟨fields, text, rfl, keyed⟩
      simp [namedRow, keyed]

end Rows

/-! ## The entries of each section -/

section Categories

variable {category key detail : Str} {severity : Severity} {a b : Json} {out : List Divergence}
  {entry : Divergence}

/-- All entries are of one category. -/
def Within (category : Str) (out : List Divergence) : Prop :=
  ∀ entry ∈ out, entry.category = category

theorem eqOrDiff_eq_some : eqOrDiff category key a b severity detail = some entry ↔
    a.same b = false ∧ entry = { category, key, severity, a, b, detail } := by
  rw [eqOrDiff]
  cases a.same b <;> simp [eq_comm]

theorem eqOrDiff_category (found : eqOrDiff category key a b severity detail = some entry) :
    entry.category = category := by
  rw [(eqOrDiff_eq_some.mp found).2]

theorem within_filterMap {α : Type} {items : List α} {step : α → Option Divergence}
    (each : ∀ item entry, step item = some entry → entry.category = category) :
    Within category (items.filterMap step) := by
  intro entry member
  rcases List.mem_filterMap.mp member with ⟨item, _, found⟩
  exact each item entry found

theorem diffSystem_within (found : diffSystem a b = .ok out) : Within "system" out := by
  simp only [diffSystem, bind_eq_ok, pure_eq_ok] at found
  rcases found with ⟨_, _, _, _, rfl⟩
  exact within_filterMap fun _ _ => eqOrDiff_category

theorem diffHasync_within (found : diffHasync a b = .ok out) : Within "hasync" out := by
  simp only [diffHasync, bind_eq_ok, pure_eq_ok] at found
  rcases found with ⟨_, _, _, _, rfl⟩
  exact within_filterMap fun _ _ => eqOrDiff_category

theorem diffServices_within (found : diffServices a b = .ok out) : Within "services" out := by
  simp only [diffServices, bind_eq_ok, pure_eq_ok] at found
  rcases found with ⟨_, _, _, _, _, _, rfl⟩
  exact within_filterMap fun _ _ => eqOrDiff_category

theorem diffGateways_within (found : diffGateways a b = .ok out) : Within "gateways" out := by
  simp only [diffGateways, bind_eq_ok, pure_eq_ok] at found
  rcases found with ⟨_, _, _, _, _, _, rfl⟩
  exact within_filterMap fun _ _ => eqOrDiff_category

theorem diffLink_category {name : RowName} (found : diffLink name a b = .ok (some entry)) :
    entry.category = "interfaces" := by
  rw [diffLink] at found
  split at found
  · cases found
  · simp only [bind_eq_ok] at found
    rcases found with ⟨_, _, _, _, found⟩
    split at found
    · rw [pure_eq_ok] at found
      exact eqOrDiff_category found.symm
    · cases found

theorem diffInterfaces_within (found : diffInterfaces a b = .ok out) : Within "interfaces" out := by
  simp only [diffInterfaces, bind_eq_ok, pure_eq_ok] at found
  rcases found with ⟨_, _, _, _, _, _, entries, done, rfl⟩
  intro entry member
  rcases exists_of_mem_mapM done (List.reduceOption_mem_iff.mp member) with ⟨name, _, same⟩
  exact diffLink_category same

theorem diffCerts_within (found : diffCerts a b = .ok out) : Within "certs" out := by
  simp only [diffCerts, bind_eq_ok, pure_eq_ok] at found
  rcases found with ⟨_, _, _, _, onlyA, _, onlyB, _, rfl⟩
  intro entry member
  rcases List.mem_append.mp member with member | member <;>
    rcases List.mem_map.mp member with ⟨name, _, rfl⟩ <;> rfl

variable [Runtime]

theorem diffCarp_within (found : diffCarp a b = .ok out) : Within "carp" out := by
  simp only [diffCarp, bind_eq_ok] at found
  rcases found with ⟨aC, _, bC, _, found⟩
  split at found
  · cases found
    exact fun _ member => absurd member List.not_mem_nil
  · simp only [bind_eq_ok, pure_eq_ok] at found
    rcases found with ⟨_, _, _, _, rfl⟩
    intro entry member
    simp only [carpEntries, List.mem_append, Option.mem_toList] at member
    rcases member with (role | maintenance) | demotion
    · rw [diffRoles] at role
      split at role
      · cases role
      · cases role
        rfl
    · exact eqOrDiff_category maintenance
    · rw [diffDemotion] at demotion
      split at demotion
      · cases demotion
      · exact eqOrDiff_category demotion

end Categories

/-! ## All entries -/

section Differs

variable [Runtime] {a b : Json} {out part : List Divergence} {category : Str} {entry : Divergence}
  {diff : Json → Json → Except Exn (List Divergence)}

/-- The comparisons by the category of their entries -/
def differs : List (Str × (Json → Json → Except Exn (List Divergence))) :=
  [("system", diffSystem), ("carp", diffCarp), ("hasync", diffHasync), ("services", diffServices),
    ("gateways", diffGateways), ("interfaces", diffInterfaces), ("certs", diffCerts)]

theorem differs_within (listed : (category, diff) ∈ differs) (found : diff a b = .ok part) :
    Within category part := by
  simp only [differs, List.mem_cons, Prod.mk.injEq, List.not_mem_nil, or_false] at listed
  rcases listed with ⟨rfl, rfl⟩ | ⟨rfl, rfl⟩ | ⟨rfl, rfl⟩ | ⟨rfl, rfl⟩ | ⟨rfl, rfl⟩ | ⟨rfl, rfl⟩ |
    ⟨rfl, rfl⟩
  · exact diffSystem_within found
  · exact diffCarp_within found
  · exact diffHasync_within found
  · exact diffServices_within found
  · exact diffGateways_within found
  · exact diffInterfaces_within found
  · exact diffCerts_within found

theorem differs_distinct : ((@differs ‹Runtime›).map Prod.fst).Nodup := by
  simp only [differs, List.map]
  decide

theorem computeDivergence_eq_ok : computeDivergence a b = .ok out ↔
    ∃ parts, (differs.mapM fun differ => differ.2 a b) = .ok parts ∧
      sortEntries parts.flatten = out := by
  simp only [computeDivergence, differs, List.mapM_cons, List.mapM_nil, bind_eq_ok, pure_eq_ok]
  constructor
  · rintro ⟨system, hSystem, carp, hCarp, hasync, hHasync, services, hServices, gateways,
      hGateways, interfaces, hInterfaces, certs, hCerts, rfl⟩
    exact ⟨_, ⟨system, hSystem, _, ⟨carp, hCarp, _, ⟨hasync, hHasync, _, ⟨services, hServices, _,
      ⟨gateways, hGateways, _, ⟨interfaces, hInterfaces, _, ⟨certs, hCerts, _, rfl, rfl⟩, rfl⟩, rfl⟩,
      rfl⟩, rfl⟩, rfl⟩, rfl⟩, by simp⟩
  · rintro ⟨_, ⟨system, hSystem, _, ⟨carp, hCarp, _, ⟨hasync, hHasync, _, ⟨services, hServices, _,
      ⟨gateways, hGateways, _, ⟨interfaces, hInterfaces, _, ⟨certs, hCerts, _, rfl, rfl⟩, rfl⟩, rfl⟩,
      rfl⟩, rfl⟩, rfl⟩, rfl⟩, rfl⟩
    exact ⟨system, hSystem, carp, hCarp, hasync, hHasync, services, hServices, gateways,
      hGateways, interfaces, hInterfaces, certs, hCerts, by simp⟩

/-- The entries of a category are those of its comparison. -/
theorem mem_section_iff (found : computeDivergence a b = .ok out)
    (listed : (category, diff) ∈ differs) (compared : diff a b = .ok part) :
    entry ∈ part ↔ entry ∈ out ∧ entry.category = category := by
  rcases computeDivergence_eq_ok.mp found with ⟨parts, done, rfl⟩
  simp only [sortEntries, List.mem_insertionSort, List.mem_flatten]
  constructor
  · intro member
    rcases exists_of_mapM_mem done listed with ⟨other, present, same⟩
    cases compared.symm.trans same
    exact ⟨⟨part, present, member⟩, differs_within listed compared entry member⟩
  · rintro ⟨⟨other, present, member⟩, named⟩
    rcases exists_of_mem_mapM done present with ⟨differ, mentioned, same⟩
    have category_eq := differs_within mentioned same entry member
    rw [named] at category_eq
    have equal : (category, diff) = differ :=
      List.inj_on_of_nodup_map differs_distinct listed mentioned category_eq
    subst equal
    cases compared.symm.trans same
    exact member

end Differs

/-! ## The entry of a name -/

theorem valueIn_of_not_mem {rows : NamedRows} {name : RowName} {key : Str}
    (absent : name ∉ rows.map Prod.fst) : valueIn rows name key = .null := by
  have missing : rows.reverse.find? (fun row => row.1 = name) = none := by
    rw [List.find?_eq_none]
    intro row member same
    rw [decide_eq_true_eq] at same
    exact absent (List.mem_map.mpr ⟨row, List.mem_reverse.mp member, same⟩)
  rw [valueIn, missing]

/-- Every name whose values differ is looked at. -/
theorem mem_bothNames {rowsA rowsB : NamedRows} {names : List RowName} {name : RowName} {key : Str}
    (sorted : bothNames rowsA rowsB = .ok names)
    (differ : (valueIn rowsA name key).same (valueIn rowsB name key) = false) : name ∈ names := by
  rw [mem_sortedNames sorted, List.mem_append]
  by_contra absent
  rw [not_or] at absent
  rw [valueIn_of_not_mem absent.1, valueIn_of_not_mem absent.2] at differ
  exact absurd differ (by decide)

/-- The text of an entry about a gateway -/
def gatewayDetail (name : Str) : Str :=
  ("Gateway '" : Str) ++ name ++ ("' reports different status on each node." : Str)

namespace Snapshot

variable {keyed : Bool} {a b : Snapshot keyed} {name : Str}

theorem serviceValue_eq {snapshot : Snapshot keyed} {key : Str} (named : name ≠ [])
    (unique : HasUniqueNames snapshot.services) :
    valueIn snapshot.serviceRows (some name) key = listedValue snapshot.services name key := by
  rw [← valueIn_eq_listedValue snapshot.services_named unique, valueIn, valueIn, serviceRows,
    ← List.filter_reverse, List.find?_filter]
  have same : (fun row : RowName × Fields => decide (decide (row.1 ≠ some []) = true ∧
      decide (row.1 = some name) = true)) = fun row => decide (row.1 = some name) := by
    funext row
    by_cases equal : row.1 = some name <;> simp [equal, named]
  rw [same]

theorem services_exact (named : name ≠ []) (uniqueA : HasUniqueNames a.services)
    (uniqueB : HasUniqueNames b.services) {services : List Divergence}
    (compared : diffServices a.json b.json = .ok services) :
    (∃ entry ∈ services, entry.key = name) ↔
      (listedValue a.services name "running").same (listedValue b.services name "running") =
        false := by
  rcases a.diffServices_returns b with ⟨names, sorted, found⟩
  cases compared.symm.trans found
  rw [← serviceValue_eq named uniqueA, ← serviceValue_eq named uniqueB]
  constructor
  · rintro ⟨entry, member, rfl⟩
    rcases List.mem_filterMap.mp member with ⟨listed, member, same⟩
    have present : listed.isSome = true := by
      rw [mem_sortedNames sorted, List.mem_append] at member
      rcases member with member | member
      · exact serviceNames_isSome member
      · exact serviceNames_isSome member
    rcases Option.isSome_iff_exists.mp present with ⟨text, rfl⟩
    rcases eqOrDiff_eq_some.mp same with ⟨differ, rfl⟩
    exact differ
  · intro differ
    exact ⟨_, List.mem_filterMap.mpr ⟨some name, mem_bothNames sorted differ,
      eqOrDiff_eq_some.mpr ⟨differ, rfl⟩⟩, rfl⟩

theorem gatewayDetail_inj {first second : Str}
    (same : gatewayDetail first = gatewayDetail second) : first = second :=
  List.append_cancel_left (List.append_cancel_right same)

theorem gateways_exact (uniqueA : HasUniqueNames a.gateways) (uniqueB : HasUniqueNames b.gateways)
    {gateways : List Divergence} (compared : diffGateways a.json b.json = .ok gateways) :
    (∃ entry ∈ gateways, entry.key = shownName (some name) ∧ entry.detail = gatewayDetail name) ↔
      (listedValue a.gateways name "status").same (listedValue b.gateways name "status") =
        false := by
  rcases a.diffGateways_returns b with ⟨names, sorted, found⟩
  cases compared.symm.trans found
  rw [← valueIn_eq_listedValue a.gateways_named uniqueA,
    ← valueIn_eq_listedValue b.gateways_named uniqueB]
  constructor
  · rintro ⟨entry, member, _, detail⟩
    rcases List.mem_filterMap.mp member with ⟨listed, member, same⟩
    have present : listed.isSome = true := by
      rw [mem_sortedNames sorted, List.mem_append] at member
      rcases member with member | member
      · exact named_of_mem a.gateways_named member
      · exact named_of_mem b.gateways_named member
    rcases Option.isSome_iff_exists.mp present with ⟨text, rfl⟩
    rcases eqOrDiff_eq_some.mp same with ⟨differ, rfl⟩
    cases gatewayDetail_inj detail
    exact differ
  · intro differ
    exact ⟨_, List.mem_filterMap.mpr ⟨some name, mem_bothNames sorted differ,
      eqOrDiff_eq_some.mpr ⟨differ, rfl⟩⟩, rfl, rfl⟩

/--
The comparison of two snapshots: the mirror law, the order of the entries, and
which services and gateways are reported. A gateway is told by the text of its
entry, since its key may be the one of a gateway without a name.
-/
theorem computeDivergence_exact [Runtime] (a b : Snapshot keyed) : ∃ out mirror,
    computeDivergence a.json b.json = .ok out ∧ computeDivergence b.json a.json = .ok mirror ∧
      Mirrors mirror out ∧ (out.Pairwise fun first second => first.le second = true) ∧
      (HasUniqueNames a.services → HasUniqueNames b.services → ∀ name ≠ [],
        ((∃ entry ∈ out, entry.category = "services" ∧ entry.key = name) ↔
          (listedValue a.services name "running").same (listedValue b.services name "running") =
            false)) ∧
      (HasUniqueNames a.gateways → HasUniqueNames b.gateways → ∀ name,
        ((∃ entry ∈ out, entry.category = "gateways" ∧ entry.key = shownName (some name) ∧
            entry.detail = gatewayDetail name) ↔
          (listedValue a.gateways name "status").same (listedValue b.gateways name "status") =
            false)) := by
  rcases a.computeDivergence_mirrors b with ⟨out, mirror, found, answered, mirrors, sorted⟩
  rcases a.diffServices_returns b with ⟨_, _, services⟩
  rcases a.diffGateways_returns b with ⟨_, _, gateways⟩
  refine ⟨out, mirror, found, answered, mirrors, sorted, ?_, ?_⟩
  · intro uniqueA uniqueB name named
    rw [← services_exact named uniqueA uniqueB services]
    have listed : (("services" : Str), diffServices) ∈ differs := by simp [differs]
    simp only [mem_section_iff found listed services, and_assoc]
  · intro uniqueA uniqueB name
    rw [← gateways_exact uniqueA uniqueB gateways]
    have listed : (("gateways" : Str), diffGateways) ∈ differs := by simp [differs]
    simp only [mem_section_iff found listed gateways, and_assoc]

end Snapshot

/-! ## A service with an empty name -/

/-- The snapshot of a node whose only service has no name -/
def unnamedService (running : Bool) : Snapshot true where
  json := .obj [("services", .obj [("items", .arr [.obj [("name", .str []),
    ("running", .bool running)]])])]
  system := []
  carp := []
  hasync := []
  services := [.obj [("name", .str []), ("running", .bool running)]]
  gateways := []
  interfaces := []
  certs := []
  system_read := rfl
  carp_read := rfl
  role_hashable := rfl
  hasync_read := rfl
  services_read := rfl
  services_named := by
    intro row member
    rw [List.mem_singleton.mp member]
    exact ⟨_, _, rfl, rfl⟩
  gateways_read := rfl
  gateways_named := by simp
  interfaces_read := rfl
  interfaces_named := by simp
  links_hashable := by simp
  certs_read := rfl
  certs_keyed := by simp

/-- Its state differs between the nodes, and there is no entry about it. -/
theorem computeDivergence_emptyName :
    HasUniqueNames (unnamedService true).services ∧ HasUniqueNames (unnamedService false).services ∧
      (listedValue (unnamedService true).services [] "running").same
        (listedValue (unnamedService false).services [] "running") = false ∧
      @computeDivergence Runtime.ascii (unnamedService true).json (unnamedService false).json =
        .ok [] := by
  refine ⟨by decide, by decide, by decide, ?_⟩
  rfl

end OpnsensePlugin

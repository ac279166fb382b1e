import OpnsensePlugin.Divergence.Mirror

/-!
# Snapshots that can be compared

A snapshot whose sections can be read and whose rows are named by texts. Two such
snapshots are always compared, and exchanging them exchanges the values of every
entry and keeps the entries in their order.
-/

namespace OpnsensePlugin

open Effects Python

/-- A row with a text under its key -/
def IsNamed (keyed : Fields → Json) (row : Json) : Prop :=
  ∃ fields name, row = .obj fields ∧ keyed fields = .str name

/-- A row whose key is `None` -/
def IsUnnamed (keyed : Fields → Json) (row : Json) : Prop :=
  ∃ fields, row = .obj fields ∧ keyed fields = .null

/-- The rows of the services of a snapshot -/
def serviceItems (snapshot : Json) : Except Exn (List Json) := do
  let services ← sectionOf snapshot "services"
  itemsOrNone (fieldD services "items" (.arr []))

/-- The rows of the certificates of a snapshot -/
def certItems (snapshot : Json) : Except Exn (List Json) := do
  let certs ← sectionOf snapshot "certs"
  itemsOrNone (fieldD certs "expiring_soon" (.arr []))

/--
A snapshot whose rows are named by texts. The certificates of a snapshot have
either all a fingerprint or a description, or none of them has one.
-/
structure Snapshot (keyed : Bool) where
  json : Json
  system : Fields
  carp : Fields
  hasync : Fields
  services : List Json
  gateways : List Json
  interfaces : List Json
  certs : List Json
  system_read : sectionOf json "system" = .ok system
  carp_read : sectionOf json "carp" = .ok carp
  role_hashable : (fieldD carp "role" .null).isHashable = true
  hasync_read : sectionOf json "hasync" = .ok hasync
  services_read : serviceItems json = .ok services
  services_named : ∀ row ∈ services, IsNamed rowName row
  gateways_read : listOf json "gateways" = .ok gateways
  gateways_named : ∀ row ∈ gateways, IsNamed rowName row
  interfaces_read : listOf json "interfaces" = .ok interfaces
  interfaces_named : ∀ row ∈ interfaces, IsNamed rowName row
  links_hashable : ∀ fields, .obj fields ∈ interfaces →
    (fieldD fields "link" .null).isHashable = true
  certs_read : certItems json = .ok certs
  certs_keyed : ∀ row ∈ certs, if keyed then IsNamed certKey row else IsUnnamed certKey row

/-! ## The rows of a list -/

section Rows

variable {keyed : Fields → Json} {items : List Json} {name key : Str} {rows others : NamedRows}
  {names : List RowName}

theorem itemsOrNone_arr : itemsOrNone (.arr items) = .ok items := by
  cases items <;> rfl

/-- A row by its name, if it has one -/
def namedRow (keyed : Fields → Json) : Json → Option (RowName × Fields)
  | .obj fields =>
      match keyed fields with
      | .str name => some (some name, fields)
      | .null => some (none, fields)
      | _ => none
  | _ => none

theorem keyedRow_eq {row : Json} (named : IsNamed keyed row ∨ IsUnnamed keyed row) :
    keyedRow keyed row = .ok (namedRow keyed row) := by
  rcases named with ⟨fields, name, rfl, text⟩ | ⟨fields, rfl, absent⟩
  · simp [keyedRow, namedRow, text, nameOf]
  · simp [keyedRow, namedRow, absent, nameOf]

theorem reduceOption_map {α β : Type} (f : α → Option β) (items : List α) :
    (items.map f).reduceOption = items.filterMap f := by
  simp [List.reduceOption, List.filterMap_map]

theorem mapM_eq_map {α β : Type} {step : α → Except Exn β} {f : α → β} {items : List α}
    (each : ∀ item ∈ items, step item = .ok (f item)) : items.mapM step = .ok (items.map f) := by
  rw [mapM_eq_ok_iff, List.forall₂_map_right_iff, List.forall₂_same]
  exact each

theorem keyedRows_eq (named : ∀ row ∈ items, IsNamed keyed row ∨ IsUnnamed keyed row) :
    items.mapM (keyedRow keyed) = .ok (items.map (namedRow keyed)) :=
  mapM_eq_map fun row member => keyedRow_eq (named row member)

theorem mem_namedRow {row : RowName × Fields} (member : row ∈ items.filterMap (namedRow keyed)) :
    .obj row.2 ∈ items ∧ keyed row.2 = match row.1 with
      | some name => .str name
      | none => .null := by
  rcases List.mem_filterMap.mp member with ⟨item, listed, found⟩
  cases item with
  | obj fields =>
      simp only [namedRow] at found
      split at found
      · rename_i text
        cases found
        exact ⟨listed, text⟩
      · rename_i absent
        cases found
        exact ⟨listed, absent⟩
      · cases found
  | _ => cases found

/-- A row of the services, unless its name is empty -/
theorem serviceRow_eq {row : Json} (named : IsNamed rowName row) :
    serviceRow row = .ok ((namedRow rowName row).filter fun row => row.1 ≠ some []) := by
  rcases named with ⟨fields, name, rfl, text⟩
  simp only [rowName] at text
  rcases name with _ | ⟨c, rest⟩
  · simp [serviceRow, namedRow, rowName, text, Json.truthy]
  · simp [serviceRow, namedRow, rowName, text, Json.truthy, nameOf]
    rfl

end Rows

namespace Snapshot

variable {keyed : Bool} (snapshot other : Snapshot keyed)

/-- The services by name; a service with an empty name is left out. -/
def serviceRows : NamedRows :=
  (snapshot.services.filterMap (namedRow rowName)).filter fun row => row.1 ≠ some []

def gatewayRows : NamedRows := snapshot.gateways.filterMap (namedRow rowName)

def interfaceRows : NamedRows := snapshot.interfaces.filterMap (namedRow rowName)

def certRows : NamedRows := snapshot.certs.filterMap (namedRow certKey)

theorem serviceRows_read : OpnsensePlugin.serviceRows snapshot.json = .ok snapshot.serviceRows := by
  have found := snapshot.services_read
  simp only [serviceItems, bind_eq_ok] at found
  rcases found with ⟨services, read, items⟩
  simp only [OpnsensePlugin.serviceRows, bind_eq_ok, pure_eq_ok]
  refine ⟨services, read, snapshot.services, items, _,
    mapM_eq_map fun row member => serviceRow_eq (snapshot.services_named row member), ?_⟩
  rw [reduceOption_map, serviceRows, ← List.filterMap_eq_filter, List.filterMap_filterMap]
  refine List.filterMap_congr fun row _ => ?_
  cases namedRow rowName row <;> simp [Option.filter, Option.guard]

theorem namedRows_read {name : Str} {items : List Json}
    (read : listOf snapshot.json name = .ok items) (named : ∀ row ∈ items, IsNamed rowName row) :
    namedRows snapshot.json name = .ok (items.filterMap (namedRow rowName)) := by
  simp only [namedRows, bind_eq_ok, pure_eq_ok]
  exact ⟨items, read, _, keyedRows_eq fun row member => Or.inl (named row member),
    (reduceOption_map _ _).symm⟩

theorem certRows_read : OpnsensePlugin.certRows snapshot.json = .ok snapshot.certRows := by
  have found := snapshot.certs_read
  simp only [certItems, bind_eq_ok] at found
  rcases found with ⟨certs, read, items⟩
  simp only [OpnsensePlugin.certRows, bind_eq_ok, pure_eq_ok]
  refine ⟨certs, read, snapshot.certs, items, _, keyedRows_eq ?_,
    (reduceOption_map _ _).symm⟩
  intro row member
  have key := snapshot.certs_keyed row member
  cases keyed with
  | true => exact Or.inl key
  | false => exact Or.inr key

/-! ## What the rows are named -/

variable {snapshot other}

theorem named_of_mem {items : List Json} (named : ∀ row ∈ items, IsNamed rowName row) {name : RowName}
    (member : name ∈ (items.filterMap (namedRow rowName)).map Prod.fst) : name.isSome = true := by
  rcases List.mem_map.mp member with ⟨row, listed, rfl⟩
  rcases mem_namedRow listed with ⟨item, key⟩
  rcases named _ item with ⟨fields, name, same, text⟩
  cases same
  rw [text] at key
  split at key
  · rename_i present
    rw [present]
    rfl
  · cases key

theorem serviceNames_isSome {name : RowName} (member : name ∈ snapshot.serviceRows.map Prod.fst) :
    name.isSome = true := by
  rcases List.mem_map.mp member with ⟨row, listed, rfl⟩
  exact named_of_mem snapshot.services_named
    (List.mem_map.mpr ⟨row, List.mem_of_mem_filter listed, rfl⟩)

theorem certNames_isSome {name : RowName} (member : name ∈ snapshot.certRows.map Prod.fst) :
    name.isSome = keyed := by
  rcases List.mem_map.mp member with ⟨row, listed, rfl⟩
  rcases mem_namedRow listed with ⟨item, key⟩
  have kind := snapshot.certs_keyed _ item
  cases keyed with
  | true =>
      rcases kind with ⟨fields, name, same, text⟩
      cases same
      rw [text] at key
      split at key
      · rename_i present
        rw [present]
        rfl
      · cases key
  | false =>
      rcases kind with ⟨fields, same, absent⟩
      cases same
      rw [absent] at key
      split at key
      · cases key
      · rename_i missing
        rw [missing]
        rfl

theorem bothNames_returns {kind : Bool} {rowsA rowsB : NamedRows}
    (first : ∀ name ∈ rowsA.map Prod.fst, name.isSome = kind)
    (second : ∀ name ∈ rowsB.map Prod.fst, name.isSome = kind) :
    ∃ names, bothNames rowsA rowsB = .ok names := by
  refine @sortedNames_returns kind _ fun name member => ?_
  rcases List.mem_append.mp member with member | member
  · exact first name member
  · exact second name member

/-! ## Every section is compared -/

variable (snapshot other)

theorem diffSystem_returns : ∃ out, diffSystem snapshot.json other.json = .ok out :=
  ⟨diffFields "system" systemFields snapshot.system other.system, by
    simp [diffSystem, snapshot.system_read, other.system_read]⟩

theorem diffHasync_returns : ∃ out, diffHasync snapshot.json other.json = .ok out :=
  ⟨diffFields "hasync" hasyncFields snapshot.hasync other.hasync, by
    simp [diffHasync, snapshot.hasync_read, other.hasync_read]⟩

theorem diffCarp_returns [Runtime] : ∃ out, diffCarp snapshot.json other.json = .ok out := by
  simp only [diffCarp, bind_eq_ok, snapshot.carp_read, other.carp_read, Except.ok.injEq,
    exists_eq_left']
  split
  · exact ⟨[], rfl⟩
  · simp only [bind_eq_ok, requireHashable_eq_ok]
    exact ⟨_, (), snapshot.role_hashable, (), other.role_hashable, rfl⟩

theorem diffServices_returns : ∃ names, bothNames snapshot.serviceRows other.serviceRows = .ok names ∧
    diffServices snapshot.json other.json =
      .ok (names.filterMap (serviceEntry snapshot.serviceRows other.serviceRows)) := by
  rcases bothNames_returns (@serviceNames_isSome keyed snapshot)
    (@serviceNames_isSome keyed other) with ⟨names, sorted⟩
  refine ⟨names, sorted, ?_⟩
  simp only [diffServices, bind_eq_ok, pure_eq_ok]
  exact ⟨_, snapshot.serviceRows_read, _, other.serviceRows_read, names, sorted, rfl⟩

theorem diffGateways_returns : ∃ names, bothNames snapshot.gatewayRows other.gatewayRows = .ok names ∧
    diffGateways snapshot.json other.json =
      .ok (names.filterMap (gatewayEntry snapshot.gatewayRows other.gatewayRows)) := by
  rcases bothNames_returns (fun _ => named_of_mem snapshot.gateways_named)
    (fun _ => named_of_mem other.gateways_named) with ⟨names, sorted⟩
  refine ⟨names, sorted, ?_⟩
  simp only [diffGateways, bind_eq_ok, pure_eq_ok]
  exact ⟨_, snapshot.namedRows_read snapshot.gateways_read snapshot.gateways_named,
    _, other.namedRows_read other.gateways_read other.gateways_named, names, sorted, rfl⟩

theorem valueIn_hashable {rows : NamedRows} {key : Str} (name : RowName)
    (each : ∀ row ∈ rows, (fieldD row.2 key .null).isHashable = true) :
    (valueIn rows name key).isHashable = true := by
  rw [valueIn]
  split
  · rename_i row found
    exact each row (List.mem_reverse.mp (List.mem_of_find?_eq_some found))
  · rfl

theorem links_isHashable (name : RowName) :
    (valueIn snapshot.interfaceRows name "link").isHashable = true :=
  valueIn_hashable name fun _ member => snapshot.links_hashable _ (mem_namedRow member).1

theorem diffLink_returns {name : RowName} {a b : Json} (first : a.isHashable = true)
    (second : b.isHashable = true) : ∃ entry, diffLink name a b = .ok entry := by
  rw [diffLink]
  split
  · exact ⟨none, rfl⟩
  · simp only [bind_eq_ok, requireHashable_eq_ok]
    split
    · exact ⟨_, (), first, (), second, rfl⟩
    · exact ⟨_, (), first, (), second, rfl⟩

theorem diffInterfaces_returns : ∃ out, diffInterfaces snapshot.json other.json = .ok out := by
  rcases bothNames_returns (fun _ => named_of_mem snapshot.interfaces_named)
    (fun _ => named_of_mem other.interfaces_named) with ⟨names, sorted⟩
  choose entry found using fun name : RowName =>
    @diffLink_returns name _ _ (snapshot.links_isHashable name) (other.links_isHashable name)
  refine ⟨(names.map entry).reduceOption, ?_⟩
  simp only [diffInterfaces, bind_eq_ok, pure_eq_ok]
  exact ⟨_, snapshot.namedRows_read snapshot.interfaces_read snapshot.interfaces_named,
    _, other.namedRows_read other.interfaces_read other.interfaces_named, names, sorted, _,
    mapM_eq_map fun name _ => found name, rfl⟩

theorem onlyNames_returns {kind : Bool} {rows others : NamedRows}
    (first : ∀ name ∈ rows.map Prod.fst, name.isSome = kind) :
    ∃ names, onlyNames rows others = .ok names :=
  sortedNames_returns _ fun name member => first name (List.mem_of_mem_filter member)

theorem mem_onlyNames {rows others : NamedRows} {names : List RowName} {name : RowName}
    (found : onlyNames rows others = .ok names) (member : name ∈ names) :
    name ∈ rows.map Prod.fst ∧ name ∉ others.map Prod.fst := by
  rw [mem_sortedNames found, List.mem_filter, decide_eq_true_eq] at member
  exact member

/-- Names that are all texts or all `None` are told apart by their texts. -/
theorem nameText_inj {kind : Bool} {first second : RowName} (left : first.isSome = kind)
    (right : second.isSome = kind) (same : nameText first = nameText second) : first = second := by
  rw [← right] at left
  cases first <;> cases second
  · rfl
  · cases left
  · cases left
  · exact congrArg some same

def certFacts (a b : Str) (name : RowName) : Facts :=
  ("certs", nameText name, .info, .str a, .str b)

theorem certEntries_facts {onlyA onlyB : List RowName} :
    (certEntries onlyA onlyB).map Divergence.facts =
      onlyA.map (certFacts "present" "missing") ++ onlyB.map (certFacts "missing" "present") := by
  rw [certEntries, List.map_append, List.map_map, List.map_map]
  rfl

theorem certEntries_mirrored {onlyA onlyB : List RowName} :
    (certEntries onlyA onlyB).map Divergence.mirrored =
      onlyA.map (certFacts "missing" "present") ++ onlyB.map (certFacts "present" "missing") := by
  rw [certEntries, List.map_append, List.map_map, List.map_map]
  rfl

/-- The certificates of one node come first, but they have other keys than those of the other. -/
theorem diffCerts_sortsAlike : ∃ out mirror, diffCerts snapshot.json other.json = .ok out ∧
    diffCerts other.json snapshot.json = .ok mirror ∧ SortsAlike mirror out := by
  rcases @onlyNames_returns keyed _ other.certRows (fun _ => @certNames_isSome keyed snapshot _)
    with ⟨onlyA, foundA⟩
  rcases @onlyNames_returns keyed _ snapshot.certRows (fun _ => @certNames_isSome keyed other _)
    with ⟨onlyB, foundB⟩
  have kindA : ∀ name ∈ onlyA, name.isSome = keyed := fun name member =>
    certNames_isSome (mem_onlyNames foundA member).1
  have kindB : ∀ name ∈ onlyB, name.isSome = keyed := fun name member =>
    certNames_isSome (mem_onlyNames foundB member).1
  have distinct : ∀ name ∈ onlyA, name ∉ onlyB := fun name member listed =>
    (mem_onlyNames foundA member).2 (mem_onlyNames foundB listed).1
  refine ⟨certEntries onlyA onlyB, certEntries onlyB onlyA, ?_, ?_, sortsAlike_of_perm ?_ ?_⟩
  · simp only [diffCerts, bind_eq_ok, pure_eq_ok]
    exact ⟨_, snapshot.certRows_read, _, other.certRows_read, onlyA, foundA, onlyB, foundB, rfl⟩
  · simp only [diffCerts, bind_eq_ok, pure_eq_ok]
    exact ⟨_, other.certRows_read, _, snapshot.certRows_read, onlyB, foundB, onlyA, foundA, rfl⟩
  · rw [certEntries_mirrored, certEntries_facts]
    exact List.perm_append_comm
  · intro first found second met _ key
    rcases List.mem_append.mp found with found | found <;>
      rcases List.mem_append.mp met with met | met <;>
      rcases List.mem_map.mp found with ⟨name, listed, rfl⟩ <;>
      rcases List.mem_map.mp met with ⟨next, member, rfl⟩
    · rw [nameText_inj (kindA name listed) (kindA next member) key]
    · rw [nameText_inj (kindA name listed) (kindB next member) key] at listed
      exact absurd member (distinct next listed)
    · rw [← nameText_inj (kindB name listed) (kindA next member) key] at member
      exact absurd listed (distinct name member)
    · rw [nameText_inj (kindB name listed) (kindB next member) key]

/-! ## The comparison of two snapshots -/

theorem Reflects.both {diff : Json → Json → Except Exn (List Divergence)} {a b : Json}
    (reflects : Reflects diff) (returns : ∃ out, diff a b = .ok out) :
    ∃ out mirror, diff a b = .ok out ∧ diff b a = .ok mirror ∧ Mirrors mirror out := by
  rcases returns with ⟨out, found⟩
  rcases reflects a b out found with ⟨mirror, answered, mirrors⟩
  exact ⟨out, mirror, found, answered, mirrors⟩

variable [Runtime]

/--
Two snapshots are compared in either order, with the same entries in the same
order but for exchanged values.
-/
theorem computeDivergence_mirrors : ∃ out mirror,
    computeDivergence snapshot.json other.json = .ok out ∧
      computeDivergence other.json snapshot.json = .ok mirror ∧ Mirrors mirror out ∧
      out.Pairwise fun first second => first.le second = true := by
  rcases Reflects.both diffSystem_reflects (snapshot.diffSystem_returns other)
    with ⟨system, systemB, hSystem, hSystemB, mSystem⟩
  rcases Reflects.both diffCarp_reflects (snapshot.diffCarp_returns other)
    with ⟨carp, carpB, hCarp, hCarpB, mCarp⟩
  rcases Reflects.both diffHasync_reflects (snapshot.diffHasync_returns other)
    with ⟨hasync, hasyncB, hHasync, hHasyncB, mHasync⟩
  rcases snapshot.diffServices_returns other with ⟨_, _, foundServices⟩
  rcases Reflects.both diffServices_reflects ⟨_, foundServices⟩
    with ⟨services, servicesB, hServices, hServicesB, mServices⟩
  rcases snapshot.diffGateways_returns other with ⟨_, _, foundGateways⟩
  rcases Reflects.both diffGateways_reflects ⟨_, foundGateways⟩
    with ⟨gateways, gatewaysB, hGateways, hGatewaysB, mGateways⟩
  rcases Reflects.both diffInterfaces_reflects (snapshot.diffInterfaces_returns other)
    with ⟨interfaces, interfacesB, hInterfaces, hInterfacesB, mInterfaces⟩
  rcases snapshot.diffCerts_sortsAlike other with ⟨certs, certsB, hCerts, hCertsB, mCerts⟩
  have alike := (((((mSystem.append mCarp).append mHasync).append mServices).append
    mGateways).append mInterfaces).append_sortsAlike mCerts
  refine ⟨sortEntries (system ++ carp ++ hasync ++ services ++ gateways ++ interfaces ++ certs),
    sortEntries (systemB ++ carpB ++ hasyncB ++ servicesB ++ gatewaysB ++ interfacesB ++ certsB),
    ?_, ?_, ?_, sortEntries_pairwise _⟩
  · simp only [computeDivergence, bind_eq_ok, pure_eq_ok]
    exact ⟨_, hSystem, _, hCarp, _, hHasync, _, hServices, _, hGateways, _, hInterfaces, _, hCerts,
      rfl⟩
  · simp only [computeDivergence, bind_eq_ok, pure_eq_ok]
    exact ⟨_, hSystemB, _, hCarpB, _, hHasyncB, _, hServicesB, _, hGatewaysB, _, hInterfacesB, _,
      hCertsB, rfl⟩
  · rw [Mirrors, sortEntries_facts, sortEntries_mirrored]
    exact alike

end Snapshot

end OpnsensePlugin

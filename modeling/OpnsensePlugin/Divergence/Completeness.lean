import OpnsensePlugin.Divergence.Exact
import OpnsensePlugin.Routes.Overview

/-!
# What the divergence of two overviews leaves out

The comparison reads keys that the collectors do not write: the revision, the
version and the product of a node, the link state of an interface, and the
fingerprint or the description of a certificate. A key that neither node has
never differs, and all certificates share the key `None`.
-/

namespace OpnsensePlugin

open Effects Python

namespace Overview

variable (overview : Overview)

/-- An overview can be compared; none of its certificates has a key. -/
def snapshot : Snapshot false where
  json := overview.json
  system := match overview.system.json with
    | .obj fields => fields
    | _ => []
  carp := overview.carp.fields
  hasync := overview.hasync.fields
  services := overview.services.items.map fun service => .obj service.fields
  gateways := overview.gateways.map fun gateway => .obj gateway.fields
  interfaces := overview.interfaces.map fun stat => .obj stat.fields
  certs := overview.certsExpiring.map fun cert => .obj cert.fields
  system_read := rfl
  carp_read := rfl
  role_hashable := rfl
  hasync_read := rfl
  services_read := by exact itemsOrNone_arr
  services_named := by
    intro row member
    rcases List.mem_map.mp member with ⟨service, _, rfl⟩
    exact ⟨service.fields, service.name, rfl, rfl⟩
  gateways_read := by exact itemsOrNone_arr
  gateways_named := by
    intro row member
    rcases List.mem_map.mp member with ⟨gateway, _, rfl⟩
    exact ⟨gateway.fields, gateway.name, rfl, rfl⟩
  interfaces_read := by exact itemsOrNone_arr
  interfaces_named := by
    intro row member
    rcases List.mem_map.mp member with ⟨stat, _, rfl⟩
    exact ⟨stat.fields, stat.name, rfl, rfl⟩
  links_hashable := by
    intro fields member
    rcases List.mem_map.mp member with ⟨stat, _, same⟩
    cases same
    rfl
  certs_read := by exact itemsOrNone_arr
  certs_keyed := by
    intro row member
    rcases List.mem_map.mp member with ⟨cert, _, rfl⟩
    exact ⟨cert.fields, rfl, rfl⟩

/-! ## Sections that stay empty -/

variable (other : Overview)

theorem diffSystem_silent : diffSystem overview.json other.json = .ok [] := by
  rfl

theorem link_absent (name : RowName) :
    valueIn overview.snapshot.interfaceRows name "link" = .null := by
  rw [valueIn]
  split
  · rename_i row found
    have listed := List.mem_reverse.mp (List.mem_of_find?_eq_some found)
    rcases List.mem_map.mp (mem_namedRow listed).1 with ⟨stat, _, same⟩
    rw [← Json.obj.inj same]
    rfl
  · rfl

theorem diffInterfaces_silent : diffInterfaces overview.json other.json = .ok [] := by
  rcases overview.snapshot.diffInterfaces_returns other.snapshot with ⟨out, found⟩
  have compared := found
  simp only [diffInterfaces, bind_eq_ok, pure_eq_ok] at found
  rcases found with ⟨rowsA, readA, rowsB, readB, names, _, entries, done, rfl⟩
  cases readA.symm.trans (overview.snapshot.namedRows_read overview.snapshot.interfaces_read
    overview.snapshot.interfaces_named)
  cases readB.symm.trans (other.snapshot.namedRows_read other.snapshot.interfaces_read
    other.snapshot.interfaces_named)
  have silent : entries.reduceOption = [] := by
    rw [List.eq_nil_iff_forall_not_mem]
    intro entry member
    rcases exists_of_mem_mapM done (List.reduceOption_mem_iff.mp member) with ⟨name, _, same⟩
    have absent := overview.link_absent name
    have missing := other.link_absent name
    simp only [Snapshot.interfaceRows] at absent missing
    rw [absent, missing] at same
    cases same
  rw [silent] at compared
  exact compared

/-! ## Certificates -/

theorem certRows_eq : overview.snapshot.certRows =
    overview.certsExpiring.map fun cert => (none, cert.fields) := by
  rw [Snapshot.certRows, snapshot, List.filterMap_map]
  exact List.filterMap_eq_map_iff_forall_eq_some.mpr fun cert _ => rfl

end Overview

/-- Rows without a key: there is at most one name, and it is missing only if there is no row. -/
theorem onlyNames_unnamed {rows others : List Fields} :
    onlyNames (rows.map fun row => (none, row)) (others.map fun row => (none, row)) =
      .ok (if rows = [] ∨ others ≠ [] then [] else [none]) := by
  rw [onlyNames, List.map_map, List.map_map]
  rcases others with _ | ⟨other, others⟩
  · have names : ((rows.map (Prod.fst ∘ fun row => ((none, row) : RowName × Fields))).filter
        fun name => name ∉ ([] : List Fields).map
          (Prod.fst ∘ fun row => ((none, row) : RowName × Fields))) =
            List.replicate rows.length none := by
      simp [List.filter_eq_self.mpr, Function.comp_def]
    rw [names]
    rcases rows with _ | ⟨row, rows⟩
    · rfl
    · rw [sortedNames, List.replicate_dedup (by simp)]
      rfl
  · simp [Function.comp_def, sortedNames]

namespace Overview

variable {ι : Type} (identity : CertSummary → ι) (a b : Overview)

theorem diffCerts_eq : diffCerts a.json b.json = .ok (certEntries
    (if a.certsExpiring = [] ∨ b.certsExpiring ≠ [] then [] else [none])
    (if b.certsExpiring = [] ∨ a.certsExpiring ≠ [] then [] else [none])) := by
  have only (first second : Overview) : onlyNames first.snapshot.certRows second.snapshot.certRows =
      .ok (if first.certsExpiring = [] ∨ second.certsExpiring ≠ [] then [] else [none]) := by
    rw [certRows_eq, certRows_eq]
    have found := @onlyNames_unnamed (first.certsExpiring.map CertSummary.fields)
      (second.certsExpiring.map CertSummary.fields)
    simpa [Function.comp_def] using found
  simp only [diffCerts, bind_eq_ok, pure_eq_ok]
  exact ⟨_, a.snapshot.certRows_read, _, b.snapshot.certRows_read, _, only a b, _, only b a, rfl⟩

/-- A certificate, told by its identity, that expires soon on one node but not on the other -/
def ExpiresOnOne (cert : ι) : Prop :=
  Xor (cert ∈ a.certsExpiring.map identity) (cert ∈ b.certsExpiring.map identity)

/-- The entries that a comparison of two overviews owes to its readers -/
structure IsReported (out : List Divergence) : Prop where
  versions : (Json.arr a.system.versions).same (.arr b.system.versions) = false →
    ∃ entry ∈ out, entry.category = "system"
  interfaces : ∀ first ∈ a.interfaces, ∀ second ∈ b.interfaces, first.name = second.name →
    first.isUp ≠ second.isUp →
      ∃ entry ∈ out, entry.category = "interfaces" ∧ entry.key = shownName (some first.name)
  certs : ∃ entryOf : ι → Divergence, ∀ cert, ExpiresOnOne identity a b cert →
    entryOf cert ∈ out ∧ (entryOf cert).category = "certs" ∧
      ∀ other, ExpiresOnOne identity a b other → entryOf cert = entryOf other → cert = other

/-- Nothing is left out of the comparison of two overviews. -/
structure IsUnaffected : Prop where
  versions : (Json.arr a.system.versions).same (.arr b.system.versions) = true
  interfaces : ∀ first ∈ a.interfaces, ∀ second ∈ b.interfaces, first.name = second.name →
    first.isUp = second.isUp
  certs : ∀ cert, ExpiresOnOne identity a b cert →
    ∀ other ∈ a.certsExpiring ++ b.certsExpiring, identity other = cert

variable {identity a b}

/-- There is at most one entry, and none if certificates expire soon on both nodes. -/
theorem certEntries_single {out : List Divergence} (found : diffCerts a.json b.json = .ok out) :
    out.length ≤ 1 ∧ (out ≠ [] ↔ (a.certsExpiring = [] ↔ b.certsExpiring ≠ [])) := by
  cases found.symm.trans (diffCerts_eq a b)
  rcases a.certsExpiring with _ | ⟨first, rest⟩ <;>
    rcases b.certsExpiring with _ | ⟨second, others⟩ <;> simp [certEntries]

theorem ExpiresOnOne.exists_mem {cert : ι} (alone : ExpiresOnOne identity a b cert) :
    ∃ other ∈ a.certsExpiring ++ b.certsExpiring, identity other = cert := by
  rcases alone with ⟨listed, _⟩ | ⟨listed, _⟩
  · rcases List.mem_map.mp listed with ⟨other, member, same⟩
    exact ⟨other, List.mem_append_left _ member, same⟩
  · rcases List.mem_map.mp listed with ⟨other, member, same⟩
    exact ⟨other, List.mem_append_right _ member, same⟩

/-- If a certificate is alone on both nodes, the node that does not have it has none. -/
theorem ExpiresOnOne.empty_iff {cert : ι} (alone : ExpiresOnOne identity a b cert)
    (lonely : ∀ other ∈ a.certsExpiring ++ b.certsExpiring, identity other = cert) :
    a.certsExpiring = [] ↔ b.certsExpiring ≠ [] := by
  rcases alone with ⟨listed, absent⟩ | ⟨listed, absent⟩
  · have empty : b.certsExpiring = [] := by
      rw [List.eq_nil_iff_forall_not_mem]
      intro other member
      exact absent (List.mem_map.mpr ⟨other, member, lonely other (List.mem_append_right _ member)⟩)
    have filled : a.certsExpiring ≠ [] := by
      intro none
      simp [none] at listed
    simp [empty, filled]
  · have empty : a.certsExpiring = [] := by
      rw [List.eq_nil_iff_forall_not_mem]
      intro other member
      exact absent (List.mem_map.mpr ⟨other, member, lonely other (List.mem_append_left _ member)⟩)
    have filled : b.certsExpiring ≠ [] := by
      intro none
      simp [none] at listed
    simp [empty, filled]

/-- A certificate of one node has an entry only if it is alone on both nodes. -/
theorem entries_iff {out : List Divergence} (found : diffCerts a.json b.json = .ok out) :
    (∃ entryOf : ι → Divergence, ∀ cert, ExpiresOnOne identity a b cert → entryOf cert ∈ out ∧
        ∀ other, ExpiresOnOne identity a b other → entryOf cert = entryOf other → cert = other) ↔
      ∀ cert, ExpiresOnOne identity a b cert →
        ∀ other ∈ a.certsExpiring ++ b.certsExpiring, identity other = cert := by
  rcases certEntries_single found with ⟨single, present⟩
  constructor
  · rintro ⟨entryOf, reported⟩ cert alone other member
    rcases reported cert alone with ⟨listed, distinct⟩
    have onOne : ExpiresOnOne identity a b (identity other) := by
      have sides := present.mp (List.ne_nil_of_mem listed)
      rcases List.mem_append.mp member with member | member
      · have empty : b.certsExpiring = [] := by
          by_contra filled
          rw [sides.mpr filled] at member
          exact List.not_mem_nil member
        exact Or.inl ⟨List.mem_map_of_mem member, by simp [empty]⟩
      · have empty : a.certsExpiring = [] := sides.mpr (List.ne_nil_of_mem member)
        exact Or.inr ⟨List.mem_map_of_mem member, by simp [empty]⟩
    refine (distinct _ onOne ?_).symm
    have met := (reported _ onOne).1
    rcases out with _ | ⟨entry, _ | ⟨next, rest⟩⟩
    · cases listed
    · rw [List.mem_singleton.mp listed, List.mem_singleton.mp met]
    · simp at single
  · intro lonely
    by_cases some : ∃ cert, ExpiresOnOne identity a b cert
    · rcases some with ⟨cert, alone⟩
      have filled : out ≠ [] := present.mpr (alone.empty_iff (lonely cert alone))
      rcases List.exists_mem_of_ne_nil out filled with ⟨entry, listed⟩
      refine ⟨fun _ => entry, fun other onOne => ⟨listed, fun next met _ => ?_⟩⟩
      rcases onOne.exists_mem with ⟨first, member, rfl⟩
      rcases met.exists_mem with ⟨second, listed, rfl⟩
      rw [lonely cert alone first member, lonely cert alone second listed]
    · exact ⟨fun _ => certEntry [] [] [] none, fun cert alone => absurd ⟨cert, alone⟩ some⟩

/-- Two overviews are always compared, and nothing but the conditions saves an entry. -/
theorem isReported_iff [Runtime] {out : List Divergence}
    (found : computeDivergence a.json b.json = .ok out) :
    IsReported identity a b out ↔ IsUnaffected identity a b := by
  have noSystem : ∀ entry, ¬(entry ∈ out ∧ entry.category = "system") := by
    intro entry
    have listed : (("system" : Str), diffSystem) ∈ differs := by simp [differs]
    rw [← mem_section_iff found listed (a.diffSystem_silent b)]
    exact List.not_mem_nil
  have noInterface : ∀ entry, ¬(entry ∈ out ∧ entry.category = "interfaces") := by
    intro entry
    have listed : (("interfaces" : Str), diffInterfaces) ∈ differs := by simp [differs]
    rw [← mem_section_iff found listed (a.diffInterfaces_silent b)]
    exact List.not_mem_nil
  have cert : ∀ entry, entry ∈ out ∧ entry.category = "certs" ↔ entry ∈ certEntries
      (if a.certsExpiring = [] ∨ b.certsExpiring ≠ [] then [] else [none])
      (if b.certsExpiring = [] ∨ a.certsExpiring ≠ [] then [] else [none]) := by
    intro entry
    have listed : (("certs" : Str), diffCerts) ∈ differs := by simp [differs]
    exact (mem_section_iff found listed (diffCerts_eq a b)).symm
  constructor
  · intro reported
    refine ⟨?_, ?_, ?_⟩
    · by_contra differ
      rcases reported.versions (Bool.eq_false_of_not_eq_true differ) with ⟨entry, member, named⟩
      exact noSystem entry ⟨member, named⟩
    · intro first listed second member same
      by_contra differ
      rcases reported.interfaces first listed second member same differ
        with ⟨entry, present, named, _⟩
      exact noInterface entry ⟨present, named⟩
    · rw [← entries_iff (diffCerts_eq a b)]
      rcases reported.certs with ⟨entryOf, owed⟩
      refine ⟨entryOf, fun name alone => ?_⟩
      rcases owed name alone with ⟨member, named, distinct⟩
      exact ⟨(cert _).mp ⟨member, named⟩, distinct⟩
  · intro unaffected
    refine ⟨?_, ?_, ?_⟩
    · intro differ
      rw [unaffected.versions] at differ
      cases differ
    · intro first listed second member same differ
      exact absurd (unaffected.interfaces first listed second member same) differ
    · rcases (entries_iff (diffCerts_eq a b)).mpr unaffected.certs with ⟨entryOf, owed⟩
      refine ⟨entryOf, fun name alone => ?_⟩
      rcases owed name alone with ⟨member, distinct⟩
      rcases (cert _).mpr member with ⟨present, named⟩
      exact ⟨present, named, distinct⟩

/--
The comparison of what two nodes answer reports everything that it should if and
only if the versions are the same, no interface of both nodes is up on one of
them only, and a certificate that expires soon on one node only is the only one
that expires soon.
-/
theorem computeDivergence_complete_iff [Runtime] [Floats] (identity : CertSummary → ι)
    {answersA answersB : NodeAnswers} (collectedA : collectOverview answersA = .ok a)
    (collectedB : collectOverview answersB = .ok b) :
    buildOverview answersA = .ok a.json ∧ buildOverview answersB = .ok b.json ∧
      ∃ out, computeDivergence a.json b.json = .ok out ∧
        (IsReported identity a b out ↔ IsUnaffected identity a b) := by
  rcases a.snapshot.computeDivergence_mirrors b.snapshot with ⟨out, _, found, _⟩
  refine ⟨?_, ?_, out, found, isReported_iff found⟩
  · simp [buildOverview, collectedA]
  · simp [buildOverview, collectedB]

/-- A node that reports a version and nothing else -/
def versionNode (version : Str) : NodeAnswers :=
  answeringNode "/api/diagnostics/system/system_information" [("versions", .arr [.str version])]
    (by simp) 0

def versionOverview (version : Str) : Overview :=
  { silent with system := { silent.system with versions := [.str version] } }

theorem collectOverview_version (version : Str) :
    @collectOverview Runtime.ascii Floats.unused (versionNode version) =
      .ok (versionOverview version) := by
  rfl

/-- A node with a network interface that lists the certificates -/
def certNode (rows : List Json) : NodeAnswers where
  reply path :=
    if path = certSearchPath then .ok (.obj [("rows", .arr rows)])
    else if path = interfaceConfigPath then
      .ok (.obj [("vtnet0", .obj [("flags", .arr [.str "up"])])])
    else .ok (.obj [])
  now _ := 0
  zones := []
  distinct := by
    intro path fields found
    split at found
    · cases found
      simp
    · split at found
      · cases found
        simp
      · cases found
        exact List.nodup_nil

/-- What is collected of such a node -/
def certOverview (rows : List Json) : Overview :=
  ((@collectOverview Runtime.ascii Floats.unused (certNode rows)).toOption).getD silent

def webRows : List Json := [.obj [("uuid", .str "web"), ("valid_to", .str "1812720758")]]

/-- Of two nodes with the same interface one has a certificate that expires soon. -/
theorem computeDivergence_complete_same : ∃ out,
    @computeDivergence Runtime.ascii (certOverview webRows).json (certOverview []).json = .ok out ∧
      IsReported CertSummary.uuid (certOverview webRows) (certOverview []) out ∧
      (certOverview webRows).certsExpiring.map CertSummary.uuid = [("web" : Str)] ∧
      (certOverview []).certsExpiring = [] ∧
      (certOverview webRows).interfaces.map InterfaceStat.name = [("vtnet0" : Str)] := by
  have first : @collectOverview Runtime.ascii Floats.unused (certNode webRows) =
      .ok (certOverview webRows) := by
    rfl
  have second : @collectOverview Runtime.ascii Floats.unused (certNode []) =
      .ok (certOverview []) := by
    rfl
  have expiring : (certOverview webRows).certsExpiring.map CertSummary.uuid = [("web" : Str)] := by rfl
  have none : (certOverview []).certsExpiring = [] := by rfl
  rcases @computeDivergence_complete_iff _ _ _ Runtime.ascii Floats.unused CertSummary.uuid _ _
    first second with ⟨_, _, out, found, reported⟩
  refine ⟨out, found, reported.mpr ⟨by rfl, ?_, ?_⟩, expiring, none, by rfl⟩
  · have same : (certOverview webRows).interfaces = (certOverview []).interfaces := by rfl
    have one : ∃ stat, (certOverview []).interfaces = [stat] := ⟨_, rfl⟩
    rcases one with ⟨stat, listed⟩
    rw [same, listed]
    intro left atLeft right atRight _
    rw [List.mem_singleton.mp atLeft, List.mem_singleton.mp atRight]
  · intro cert alone other member
    rw [none, List.append_nil] at member
    have name : other.uuid ∈ (certOverview webRows).certsExpiring.map CertSummary.uuid :=
      List.mem_map_of_mem member
    rcases alone.exists_mem with ⟨found, inside, same⟩
    rw [none, List.append_nil] at inside
    have named : found.uuid ∈ (certOverview webRows).certsExpiring.map CertSummary.uuid :=
      List.mem_map_of_mem inside
    rw [expiring, List.mem_singleton] at name named
    rw [← same, name, named]

/-- Two versions that differ are not reported. -/
theorem computeDivergence_versionsMissed :
    @collectOverview Runtime.ascii Floats.unused (versionNode "26.1.2") =
        .ok (versionOverview "26.1.2") ∧
      @collectOverview Runtime.ascii Floats.unused (versionNode "26.1.3") =
        .ok (versionOverview "26.1.3") ∧
      (Json.arr (versionOverview "26.1.2").system.versions).same
        (.arr (versionOverview "26.1.3").system.versions) = false ∧
      @computeDivergence Runtime.ascii (versionOverview "26.1.2").json
        (versionOverview "26.1.3").json = .ok [] :=
  ⟨collectOverview_version _, collectOverview_version _, by decide, rfl⟩

end Overview

end OpnsensePlugin

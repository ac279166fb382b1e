import OpnsensePlugin.Metrics.Integrity

/-!
# The series of the metrics

A series is the name of a metric with a set of labels, and the format allows one
sample for each. The names of interfaces are keys of a dictionary; the labels of
gateways, services and certificates are fields that nothing keeps apart.
-/

namespace OpnsensePlugin

open Effects Python

abbrev Series := Str × Finset (Str × Str)

/-- The series of a sample -/
def seriesOf : Exposition.Line → Option Series
  | .comment _ => none
  | .sample content => some (content.name, content.labels.toFinset)

/-- A scraper reads no two samples of one series. -/
def HasUniqueSeries (body : Str) : Prop :=
  ∃ lines, Exposition.read body = some lines ∧ (lines.filterMap seriesOf).Nodup

def Family.series (family : Family) : List Series :=
  family.samples.map fun sample => (family.name, sample.1.toFinset)

section Families

variable [Runtime] {family : Family} {families : List Family} {lines : List Exposition.Line}

theorem Family.series_of_lines (written : family.lines = .ok lines) :
    lines.filterMap seriesOf = family.series := by
  rw [Family.lines_eq_ok] at written
  rcases written with ⟨samples, done, rfl⟩
  rw [List.filterMap_append, Family.series]
  have silent : family.header.filterMap seriesOf = [] := rfl
  rw [silent, List.nil_append]
  rw [mapM_eq_ok_iff] at done
  generalize family.samples = entries at done
  induction done with
  | nil => rfl
  | cons found rest ih =>
      rename_i entry line entries others
      rcases entry with ⟨labels, measure⟩
      simp only [bind_eq_ok, pure_eq_ok] at found
      rcases found with ⟨text, _, rfl⟩
      simp [seriesOf, ih]

theorem series_of_linesOf (written : linesOf families = .ok lines) :
    lines.filterMap seriesOf = families.flatMap Family.series := by
  simp only [linesOf, bind_eq_ok, pure_eq_ok] at written
  rcases written with ⟨sections, done, rfl⟩
  rw [mapM_eq_ok_iff] at done
  induction done with
  | nil => rfl
  | cons found rest ih =>
      rw [List.flatten_cons, List.filterMap_append, Family.series_of_lines found, ih,
        List.flatMap_cons]

omit [Runtime] in
/-- Metrics of different names share no series. -/
theorem nodup_series_iff (names : (families.map Family.name).Nodup) :
    (families.flatMap Family.series).Nodup ↔ ∀ family ∈ families, family.series.Nodup := by
  rw [List.nodup_flatMap, and_iff_left]
  rw [List.Nodup, List.pairwise_map] at names
  apply names.imp
  intro first second different
  apply List.disjoint_left.mpr
  intro series inside other
  rcases List.mem_map.mp inside with ⟨_, _, rfl⟩
  rcases List.mem_map.mp other with ⟨_, _, same⟩
  exact different (congrArg Prod.fst same).symm

end Families

/-! ## Labels that tell items apart -/

section Labels

variable {α : Type} {items : List α} {host key value other : Str}

/-- Items are told apart by what they are mapped to if a field of them tells them apart. -/
theorem nodup_map_iff {β γ : Type} {field : α → β} {mapped : α → γ}
    (same : ∀ first second, mapped first = mapped second ↔ field first = field second) :
    (items.map mapped).Nodup ↔ (items.map field).Nodup := by
  simp only [List.Nodup, List.pairwise_map, ne_eq, same]

theorem pair_labels_iff (different : key ≠ "host") :
    ([("host", host), (key, value)] : List (Str × Str)).toFinset =
      ([("host", host), (key, other)] : List (Str × Str)).toFinset ↔ value = other := by
  constructor
  · intro same
    have inside : (key, value) ∈ ([("host", host), (key, value)] : List (Str × Str)).toFinset := by
      simp
    rw [same] at inside
    simpa [different] using inside
  · rintro rfl
    rfl

theorem nodup_pair_labels {field : α → Str} {name : Str} (different : key ≠ "host") :
    (items.map fun item =>
      ((name, ([("host", host), (key, field item)] : List (Str × Str)).toFinset) : Series)).Nodup ↔
      (items.map field).Nodup := by
  apply nodup_map_iff
  intro first second
  rw [Prod.mk.injEq, and_iff_right rfl, pair_labels_iff different]

end Labels

/-! ## The inventory -/

section Inventories

variable [Runtime] [Floats] {answers : NodeAnswers} {host : Str} {inventory : Inventory}

omit [Floats] in
theorem interfaceStat_name {stats : List (Str × List (Str × Json))} {name : Str} {c : Json}
    {found : InterfaceStat} (collected : interfaceStat stats name c = .ok found) :
    found.name = name := by
  simp only [interfaceStat, bind_eq_ok, pure_eq_ok] at collected
  rcases collected with ⟨_, _, _, _, _, _, _, _, _, _, _, _, _, _, _, _, rfl⟩
  rfl

omit [Floats] in
/-- The interfaces are the keys of a dictionary. -/
theorem nodup_interfaces {ifaces : List InterfaceStat}
    (collected : collectInterfaces answers = .ok ifaces) :
    (ifaces.map InterfaceStat.name).Nodup := by
  simp only [collectInterfaces, bind_eq_ok] at collected
  rcases collected with ⟨cfg, found, _, _, byName, _, collected⟩
  cases cfg with
  | obj fields =>
      dsimp only at collected
      have keys : ifaces.map InterfaceStat.name = fields.map (·.1) := by
        rw [mapM_eq_ok_iff] at collected
        clear found
        induction collected with
        | nil => rfl
        | cons made rest ih => rw [List.map_cons, List.map_cons, ih, interfaceStat_name made]
      rw [keys]
      rw [NodeAnswers.get, received_eq_ok] at found
      exact answers.distinct _ _ found
  | _ =>
      cases collected
      exact List.nodup_nil

theorem Inventory.IsCollected.unique {other : Inventory} (collected : inventory.IsCollected answers)
    (again : other.IsCollected answers) : inventory = other := by
  rcases inventory with ⟨sys, ifaces, gws, svc, certs, vpn, ha⟩
  rcases other with ⟨sys', ifaces', gws', svc', certs', vpn', ha'⟩
  have sameSys := collected.sys.symm.trans again.sys
  have sameIfaces := collected.ifaces.symm.trans again.ifaces
  have sameGws := collected.gws.symm.trans again.gws
  have sameSvc := collected.svc.symm.trans again.svc
  have sameCerts := collected.certs.symm.trans again.certs
  have sameVpn := collected.vpn.symm.trans again.vpn
  have sameHa := collected.ha.symm.trans again.ha
  cases sameSys
  cases sameIfaces
  cases sameGws
  cases sameSvc
  cases sameCerts
  cases sameVpn
  cases sameHa
  rfl

/-- What keeps the samples of the three metrics without a key apart -/
structure Inventory.IsDistinct (inventory : Inventory) : Prop where
  gws : (inventory.gws.map GatewayStatus.name).Nodup
  svc : (inventory.svc.items.map ServiceState.id).Nodup
  certs : (inventory.certs.map CertSummary.metricLabel).Nodup

omit [Runtime] in
theorem nodup_familyNames : ((inventory.families host).map Family.name).Nodup := by
  have names : (inventory.families host).map Family.name =
      ["opnsense_up", "opnsense_pf_states_current", "opnsense_pf_states_limit",
        "opnsense_memory_used_bytes", "opnsense_memory_total_bytes",
        "opnsense_iface_rx_bytes_total", "opnsense_iface_tx_bytes_total",
        "opnsense_iface_rx_errors_total", "opnsense_iface_tx_errors_total",
        "opnsense_iface_drops_total", "opnsense_iface_up", "opnsense_gateway_rtt_seconds",
        "opnsense_gateway_loss_ratio", "opnsense_gateway_up", "opnsense_service_running",
        "opnsense_cert_expiry_seconds", "opnsense_vpn_peers_total", "opnsense_ha_enabled"] := rfl
  rw [names]
  decide +kernel

omit [Runtime] [Floats] in
theorem nodup_interfaceFamilies (keys : (inventory.ifaces.map InterfaceStat.name).Nodup) :
    ∀ family ∈ interfaceFamilies host inventory.ifaces, family.series.Nodup := by
  have named : ∀ name : Str, (inventory.ifaces.map fun i =>
      ((name, ([("host", host), ("iface", i.name)] : List (Str × Str)).toFinset) : Series)).Nodup :=
    fun name => (nodup_pair_labels (by decide)).mpr keys
  have labelled : ∀ name : Str, (inventory.ifaces.map fun i => ((name,
      ([("host", host), ("iface", i.name), ("label", i.label)] : List (Str × Str)).toFinset) :
        Series)).Nodup := by
    intro name
    rw [List.Nodup, List.pairwise_map] at keys ⊢
    apply keys.imp
    intro first second different same
    have inside : (("iface" : Str), first.name) ∈ ([("host", host), ("iface", first.name),
        ("label", first.label)] : List (Str × Str)).toFinset := by simp
    rw [(Prod.mk.inj same).2] at inside
    have other : ("iface" : Str) ≠ "host" ∧ ("iface" : Str) ≠ "label" := by decide
    simp [other, different] at inside
  simp only [interfaceFamilies, List.forall_mem_cons, Family.series, List.map_map,
    Function.comp_def, labelled, named, true_and]
  simp

omit [Runtime] in
theorem nodup_families_iff (keys : (inventory.ifaces.map InterfaceStat.name).Nodup) :
    (∀ family ∈ inventory.families host, family.series.Nodup) ↔ inventory.IsDistinct := by
  have gateways : ("gw" : Str) ≠ "host" ∧ ("service" : Str) ≠ "host" ∧ ("cert" : Str) ≠ "host" ∧
      ("type" : Str) ≠ "host" := by decide
  have system : ∀ family ∈ systemFamilies host inventory.sys, family.series.Nodup := by
    simp [systemFamilies, upFamily, Family.series]
  have vpn : ∀ family ∈ vpnFamilies host inventory.vpn, family.series.Nodup := by
    have types : (["wireguard", "ipsec", "openvpn"] : List Str).Nodup := by decide
    rw [vpnFamilies, List.forall_mem_singleton]
    exact (@nodup_pair_labels Str ["wireguard", "ipsec", "openvpn"] host "type" id
      "opnsense_vpn_peers_total" gateways.2.2.2).mpr (by simpa using types)
  have ha : ∀ family ∈ haFamilies host inventory.ha, family.series.Nodup := by
    simp [haFamilies, Family.series]
  simp only [Inventory.families, List.forall_mem_append, and_iff_right system,
    and_iff_right (nodup_interfaceFamilies keys), and_iff_right vpn, and_iff_left ha]
  simp only [gatewayFamilies, serviceFamilies, certFamilies, List.forall_mem_cons,
    List.not_mem_nil, false_imp_iff, implies_true, and_true, Family.series, List.map_map,
    Function.comp_def, nodup_pair_labels gateways.1, nodup_pair_labels gateways.2.1,
    nodup_pair_labels gateways.2.2.1]
  constructor
  · rintro ⟨⟨gws, _, _⟩, svc, certs⟩
    exact ⟨gws, svc, certs⟩
  · intro distinct
    exact ⟨⟨distinct.gws, distinct.gws, distinct.gws⟩, distinct.svc, distinct.certs⟩

theorem hasUniqueSeries_joinedLines {lines : List Exposition.Line} (numbers : FloatTexts)
    (written : metricLines answers host = .ok lines) :
    HasUniqueSeries (joinedLines lines) ↔ (lines.filterMap seriesOf).Nodup := by
  simp [HasUniqueSeries, read_joinedLines numbers written]

/-- The metrics of a whole inventory -/
theorem hasUniqueSeries_iff (numbers : FloatTexts) (collected : inventory.IsCollected answers)
    {owner : Host} {label body : Str} (rendered : renderMetrics answers owner label = .ok body) :
    HasUniqueSeries body ↔ inventory.IsDistinct := by
  simp only [renderMetrics, bind_eq_ok, pure_eq_ok] at rendered
  rcases rendered with ⟨lines, written, rfl⟩
  rw [hasUniqueSeries_joinedLines numbers written]
  rcases metricLines_eq_ok.mp written with ⟨error, failed, _⟩ | ⟨other, again, written⟩
  · rw [collected.sys] at failed
    cases failed
  · have keys := nodup_interfaces collected.ifaces
    rw [← collected.unique again] at written
    rw [series_of_linesOf written, nodup_series_iff nodup_familyNames, nodup_families_iff keys]

/-- The samples of the metrics are of different series exactly if rendering stopped at the system
snapshot, or gateways, services and certificates have different labels. -/
theorem renderMetrics_unique_iff (numbers : FloatTexts) {owner : Host} {label body : Str}
    (rendered : renderMetrics answers owner label = .ok body) :
    HasUniqueSeries body ↔ (∃ error, collectSystem answers = .error error) ∨
      ∃ inventory : Inventory, inventory.IsCollected answers ∧ inventory.IsDistinct := by
  have lines := rendered
  simp only [renderMetrics, bind_eq_ok, pure_eq_ok] at lines
  rcases lines with ⟨lines, written, rfl⟩
  rcases metricLines_eq_ok.mp written with ⟨error, failed, alone⟩ | ⟨inventory, collected, _⟩
  · rw [hasUniqueSeries_joinedLines numbers written, series_of_linesOf alone]
    simp [upFamily, Family.series, failed]
  · rw [hasUniqueSeries_iff numbers collected rendered]
    constructor
    · intro distinct
      exact .inr ⟨inventory, collected, distinct⟩
    · rintro (⟨error, failed⟩ | ⟨other, again, distinct⟩)
      · rw [collected.sys] at failed
        cases failed
      · rw [collected.unique again]
        exact distinct

end Inventories

/-! ## A renewed certificate -/

/-- A node that lists certificates with the given names -/
def certNode (names : List Str) : NodeAnswers where
  reply path :=
    if path = certSearchPath then
      .ok (.obj [("rows", .arr (names.map fun name => .obj [("name", .str name)]))])
    else .ok (.obj [])
  now _ := 0
  zones := []
  distinct := by
    intro path fields found
    split at found
    · cases found
      exact List.nodup_singleton _
    · cases found
      exact List.nodup_nil

def fwHost : Host := ⟨"fw", "https://fw"⟩

theorem renderMetrics_unique_cert :
    ∃ body, @renderMetrics Runtime.ascii Floats.unused (certNode ["web", "vpn"]) fwHost "fw" =
      .ok body ∧ HasUniqueSeries body := by
  have some : ∃ body, @renderMetrics Runtime.ascii Floats.unused (certNode ["web", "vpn"]) fwHost
      "fw" = .ok body := ⟨_, rfl⟩
  rcases some with ⟨body, rendered⟩
  refine ⟨body, rendered, ?_⟩
  refine (@renderMetrics_unique_iff Runtime.ascii Floats.unused _ floatTexts_ascii fwHost "fw" body
    rendered).mpr (.inr ?_)
  exact ⟨⟨_, _, _, _, _, _, _⟩,
    @Inventory.IsCollected.mk Runtime.ascii Floats.unused _ _ rfl rfl rfl rfl rfl rfl rfl,
    ⟨by decide, by decide, by decide⟩⟩

/-- The old and the new certificate of one name are two samples of one series. -/
theorem renderMetrics_duplicates_cert :
    ∃ body, @renderMetrics Runtime.ascii Floats.unused (certNode ["web", "web"]) fwHost "fw" =
      .ok body ∧ ¬ HasUniqueSeries body := by
  have some : ∃ body, @renderMetrics Runtime.ascii Floats.unused (certNode ["web", "web"]) fwHost
      "fw" = .ok body := ⟨_, rfl⟩
  have inventory : ∃ inventory : Inventory,
      @Inventory.IsCollected Runtime.ascii Floats.unused (certNode ["web", "web"]) inventory ∧
        ¬ (inventory.certs.map CertSummary.metricLabel).Nodup :=
    ⟨⟨_, _, _, _, _, _, _⟩,
      @Inventory.IsCollected.mk Runtime.ascii Floats.unused _ _ rfl rfl rfl rfl rfl rfl rfl,
      by decide⟩
  rcases some with ⟨body, rendered⟩
  rcases inventory with ⟨inventory, collected, double⟩
  refine ⟨body, rendered, fun unique => double ?_⟩
  exact ((@hasUniqueSeries_iff Runtime.ascii Floats.unused _ inventory floatTexts_ascii collected
    fwHost "fw" body rendered).mp unique).certs

end OpnsensePlugin

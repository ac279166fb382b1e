import OpnsensePlugin.Metrics.Exporter

/-!
# The integrity of the metrics body

What the exporter writes is the exposition of its lines, so a scraper reads
these lines with the strings that were put in. The body of a failure is read as
its two lines if and only if the strings in it need no escape.
-/

namespace OpnsensePlugin

open Effects Python

/-! ## The exporter writes the exposition format -/

section Format

variable {label : Str} {line : Exposition.Line} {out : List Exposition.Line}

theorem escapeText_eq : escapeText label = Exposition.escaped label := by
  have step : ∀ c : CodePoint, replaceChar (code '"') "\\\""
      (replaceChar (code '\n') "\\n" (if c = code '\\' then "\\\\" else [c])) =
        Exposition.escapeLabel c := by
    intro c
    by_cases slash : c = code '\\'
    · subst slash
      decide
    by_cases feed : c = code '\n'
    · subst feed
      decide
    by_cases quote : c = code '"'
    · subst quote
      decide
    · simp [replaceChar, Exposition.escapeLabel, slash, feed, quote]
  induction label with
  | nil => rfl
  | cons c rest ih =>
      have first := step c
      simp only [escapeText, replaceChar, List.flatMap_cons, List.flatMap_append,
        Exposition.escaped] at first ih ⊢
      rw [first, ih]

theorem lineText_eq : lineText line = line.text := by
  cases line with
  | comment text => rfl
  | sample content =>
      rw [lineText, Exposition.Line.text, sampleText, Exposition.Sample.text,
        Exposition.labelSetText]
      split
      · simp
      · have texts : Exposition.labelText = fun label : Str × Str =>
            label.1 ++ ("=\"" : Str) ++ escapeText label.2 ++ [code '"'] := by
          funext label
          rw [Exposition.labelText, escapeText_eq]
        simp [Exposition.labelsText, texts]

theorem joinedLines_eq (some : out ≠ []) : joinedLines out = Exposition.exposition out := by
  have texts : out.map lineText = out.map Exposition.Line.text :=
    List.map_congr_left fun _ _ => lineText_eq
  have lines : out.map Exposition.Line.text ≠ [] := by simpa using some
  rw [joinedLines, Exposition.exposition, linesText_eq_join, texts]
  exact (join_concat lines).symm

end Format

/-! ## The lines of the exporter are valid -/

/-- The texts of floats are numbers, as `repr` documents. -/
def FloatTexts [Runtime] : Prop :=
  ∀ negative mantissa exponent,
    Exposition.isNumber (Runtime.reprFloat negative mantissa exponent) = true

/-- Whether the fixed texts of a section belong in the format -/
def Family.isWritable (family : Family) : Bool :=
  Exposition.isName Exposition.isMetricLetter family.name && !family.kind.contains (code '\n') &&
    !family.help.contains (code '\n') &&
    family.samples.all fun sample =>
      sample.1.all fun label => Exposition.isName Exposition.isLabelLetter label.1

section Validity

variable [Runtime] {families front back : List Family} {family : Family} {measure : Measure}
  {lines : List Exposition.Line} {text : Str}

theorem isNumber_measure (numbers : FloatTexts) (written : measure.text = .ok text) :
    Exposition.isNumber text = true := by
  cases measure with
  | int value =>
      simp only [Measure.text, formatInt] at written
      split at written
      · cases written
      · cases written
        exact Exposition.isNumber_intText
  | float value =>
      cases written
      have names : Exposition.isNumber "nan" = true ∧ Exposition.isNumber "inf" = true ∧
          Exposition.isNumber "-inf" = true := by decide
      cases value with
      | nan => exact names.1
      | infinity negative =>
          cases negative
          · exact names.2.1
          · exact names.2.2
      | finite negative mantissa exponent => exact numbers negative mantissa exponent

theorem Family.lines_eq_ok :
    family.lines = .ok lines ↔ ∃ samples : List Exposition.Line,
      (family.samples.mapM fun (labels, value) => do
        let text ← value.text
        return Exposition.Line.sample ⟨family.name, labels, text⟩) = .ok samples ∧
        lines = family.header ++ samples := by
  rw [Family.lines]
  simp only [bind_eq_ok, pure_eq_ok]

theorem Family.valid_of_mem (numbers : FloatTexts) (writable : family.isWritable = true)
    (written : family.lines = .ok lines) : ∀ line ∈ lines, line.IsValid := by
  simp only [Family.isWritable, Bool.and_eq_true, Bool.not_eq_true', List.all_eq_true] at writable
  rcases writable with ⟨⟨⟨name, kind⟩, help⟩, labels⟩
  have space : code '\n' ≠ code ' ' := by decide
  have marks : code '\n' ∉ (" HELP " : Str) ∧ code '\n' ∉ (" TYPE " : Str) := by decide
  have named : code '\n' ∉ family.name :=
    Exposition.not_mem_of_isName name (by decide)
  have plainKind : code '\n' ∉ family.kind := by simpa using kind
  have plainHelp : code '\n' ∉ family.help := by simpa using help
  rw [Family.lines_eq_ok] at written
  rcases written with ⟨samples, done, rfl⟩
  intro line member
  rcases List.mem_append.mp member with member | member
  · simp only [Family.header, List.mem_cons, List.not_mem_nil, or_false] at member
    rcases member with rfl | rfl
    · simp [Exposition.Line.IsValid, marks.1, named, space, plainHelp]
    · simp [Exposition.Line.IsValid, marks.2, named, space, plainKind]
  · rcases exists_of_mem_mapM done member with ⟨⟨set, measure⟩, listed, made⟩
    simp only [bind_eq_ok, pure_eq_ok] at made
    rcases made with ⟨text, written, rfl⟩
    exact ⟨name, labels _ listed, isNumber_measure numbers written⟩

theorem linesOf_append :
    linesOf (front ++ back) = .ok lines ↔
      ∃ before after, linesOf front = .ok before ∧ linesOf back = .ok after ∧
        lines = before ++ after := by
  simp only [linesOf, List.mapM_append, bind_eq_ok, pure_eq_ok]
  constructor
  · rintro ⟨both, ⟨before, first, after, second, rfl⟩, rfl⟩
    exact ⟨before.flatten, after.flatten, ⟨before, first, rfl⟩, ⟨after, second, rfl⟩, by simp⟩
  · rintro ⟨_, _, ⟨before, first, rfl⟩, ⟨after, second, rfl⟩, rfl⟩
    exact ⟨before ++ after, ⟨before, first, after, second, rfl⟩, by simp⟩

theorem linesOf_valid (numbers : FloatTexts)
    (writable : ∀ family ∈ families, family.isWritable = true)
    (written : linesOf families = .ok lines) : ∀ line ∈ lines, line.IsValid := by
  simp only [linesOf, bind_eq_ok, pure_eq_ok] at written
  rcases written with ⟨sections, done, rfl⟩
  intro line member
  rcases List.mem_flatten.mp member with ⟨part, listed, inside⟩
  rcases exists_of_mem_mapM done listed with ⟨family, among, made⟩
  exact family.valid_of_mem numbers (writable family among) made line inside

theorem linesOf_ne_nil (written : linesOf (family :: families) = .ok lines) : lines ≠ [] := by
  simp only [linesOf, List.mapM_cons, bind_eq_ok, pure_eq_ok, Family.lines_eq_ok] at written
  rcases written with ⟨sections, ⟨first, ⟨samples, _, rfl⟩, others, _, rfl⟩, rfl⟩
  simp [Family.header]

end Validity

/-! ## The inventory behind the metrics -/

/-- What the collectors of the exporter return -/
structure Inventory where
  sys : SystemSnapshot
  ifaces : List InterfaceStat
  gws : List GatewayStatus
  svc : ServiceSummary
  certs : List CertSummary
  vpn : VPNSnapshot
  ha : HASyncSnapshot

section Inventories

variable [Runtime] [Floats] {answers : NodeAnswers} {host : Str} {inventory : Inventory}
  {lines : List Exposition.Line} {family : Family}

structure Inventory.IsCollected (answers : NodeAnswers) (inventory : Inventory) : Prop where
  sys : collectSystem answers = .ok inventory.sys
  ifaces : collectInterfaces answers = .ok inventory.ifaces
  gws : collectGateways answers = .ok inventory.gws
  svc : collectServices answers = .ok inventory.svc
  certs : collectCertificates answers = .ok inventory.certs
  vpn : collectVpn answers = .ok inventory.vpn
  ha : collectHasync answers = .ok inventory.ha

omit [Runtime] in
def Inventory.families (host : Str) (inventory : Inventory) : List Family :=
  systemFamilies host inventory.sys ++ (interfaceFamilies host inventory.ifaces ++
    (gatewayFamilies host inventory.gws ++ (serviceFamilies host inventory.svc ++
      (certFamilies host inventory.certs ++ (vpnFamilies host inventory.vpn ++
        haFamilies host inventory.ha)))))

/-- The two ways in which rendering succeeds -/
theorem metricLines_eq_ok :
    metricLines answers host = .ok lines ↔
      (∃ error, collectSystem answers = .error error ∧
        linesOf [upFamily host false] = .ok lines) ∨
      ∃ inventory : Inventory, inventory.IsCollected answers ∧
        linesOf (inventory.families host) = .ok lines := by
  rw [metricLines]
  cases system : collectSystem answers with
  | error error =>
      constructor
      · intro written
        exact .inl ⟨error, rfl, written⟩
      · rintro (⟨_, _, written⟩ | ⟨inventory, collected, _⟩)
        · exact written
        · have found := collected.sys
          rw [system] at found
          cases found
  | ok sys =>
      simp only [bind_eq_ok, pure_eq_ok, Inventory.families, linesOf_append, reduceCtorEq,
        false_and, exists_false, false_or]
      constructor
      · rintro ⟨_, first, ifaces, hasIfaces, _, second, gws, hasGws, _, third, svc, hasSvc, _,
          fourth, certs, hasCerts, _, fifth, vpn, hasVpn, _, sixth, ha, hasHa, _, last, rfl⟩
        exact ⟨⟨sys, ifaces, gws, svc, certs, vpn, ha⟩,
          ⟨system, hasIfaces, hasGws, hasSvc, hasCerts, hasVpn, hasHa⟩,
          _, _, first, ⟨_, _, second, ⟨_, _, third, ⟨_, _, fourth, ⟨_, _, fifth,
            ⟨_, _, sixth, last, rfl⟩, rfl⟩, rfl⟩, rfl⟩, rfl⟩, by simp⟩
      · rintro ⟨inventory, collected, _, _, first, ⟨_, _, second, ⟨_, _, third, ⟨_, _, fourth,
          ⟨_, _, fifth, ⟨_, _, sixth, last, rfl⟩, rfl⟩, rfl⟩, rfl⟩, rfl⟩, rfl⟩
        have same : inventory.sys = sys := by
          have found := collected.sys
          rw [system] at found
          cases found
          rfl
        rw [same] at first
        exact ⟨_, first, _, collected.ifaces, _, second, _, collected.gws, _, third, _,
          collected.svc, _, fourth, _, collected.certs, _, fifth, _, collected.vpn, _, sixth, _,
          collected.ha, _, last, by simp⟩

/-- The texts that the source fixes for a section: its name, kind and help -/
def Family.isTitled (family : Family) : Bool :=
  Exposition.isName Exposition.isMetricLetter family.name && !family.kind.contains (code '\n') &&
    !family.help.contains (code '\n')

/-- The names of the labels of a metric -/
def labelNames : List (List Str) :=
  [["host"], ["host", "iface"], ["host", "iface", "label"], ["host", "gw"], ["host", "service"],
    ["host", "cert"], ["host", "type"]]

omit [Runtime] [Floats] in
theorem Family.isWritable_of_titled (titled : family.isTitled = true)
    (labels : ∀ sample ∈ family.samples, sample.1.map Prod.fst ∈ labelNames) :
    family.isWritable = true := by
  have named : ∀ names ∈ labelNames, ∀ name ∈ names,
      Exposition.isName Exposition.isLabelLetter name = true := by decide
  rw [Family.isWritable, ← Family.isTitled, titled, Bool.true_and, List.all_eq_true]
  intro sample member
  rw [List.all_eq_true]
  intro label inside
  exact named _ (labels sample member) _ (List.mem_map_of_mem inside)

omit [Runtime] in
theorem families_titled : ∀ family ∈ inventory.families host, family.isTitled = true := by
  have all : (inventory.families host).all Family.isTitled = true := by rfl
  exact List.all_eq_true.mp all

omit [Runtime] in
theorem families_labelled : ∀ family ∈ inventory.families host, ∀ sample ∈ family.samples,
    sample.1.map Prod.fst ∈ labelNames := by
  simp only [Inventory.families, systemFamilies, upFamily, interfaceFamilies, gatewayFamilies,
    serviceFamilies, certFamilies, vpnFamilies, haFamilies, List.forall_mem_append,
    List.forall_mem_cons, List.forall_mem_map, labelNames]
  simp

theorem metricLines_valid (numbers : FloatTexts) (written : metricLines answers host = .ok lines) :
    ∀ line ∈ lines, line.IsValid := by
  rcases metricLines_eq_ok.mp written with ⟨_, _, written⟩ | ⟨inventory, _, written⟩
  · apply linesOf_valid numbers _ written
    intro family member
    rw [List.mem_singleton.mp member]
    exact Family.isWritable_of_titled rfl (by simp [upFamily, labelNames])
  · apply linesOf_valid numbers _ written
    intro family member
    exact Family.isWritable_of_titled (families_titled family member)
      (families_labelled family member)

theorem metricLines_ne_nil (written : metricLines answers host = .ok lines) : lines ≠ [] := by
  rcases metricLines_eq_ok.mp written with ⟨_, _, written⟩ | ⟨inventory, _, written⟩
  · exact linesOf_ne_nil written
  · exact linesOf_ne_nil written

/-- A scraper reads the lines that were rendered. -/
theorem read_joinedLines (numbers : FloatTexts) (written : metricLines answers host = .ok lines) :
    Exposition.read (joinedLines lines) = some lines := by
  rw [joinedLines_eq (metricLines_ne_nil written)]
  exact Exposition.read_eq_some_iff.mpr ⟨rfl, metricLines_valid numbers written⟩

end Inventories

/-! ## The handler -/

section Handler

variable [Runtime] {host text : Str} {report : MetricsReport}

/-- The lines that a body stands for -/
def MetricsReport.lines : MetricsReport → List Exposition.Line
  | .unconfigured =>
      [.comment " opnsense plugin: no opnsense_hosts configured",
        .sample ⟨"opnsense_up", [("host", "unknown")], "0"⟩]
  | .rendered out => out
  | .failed error host =>
      [.comment ((" opnsense plugin: render_metrics failed: " : Str) ++ excText error),
        .sample ⟨"opnsense_up", [("host", host)], "0"⟩]

/-- A text that is its own escaped form -/
def IsPlainLabel (text : Str) : Prop :=
  code '"' ∉ text ∧ code '\\' ∉ text ∧ code '\n' ∉ text

/-- Nothing in the report needs an escape that the handler leaves out. -/
def MetricsReport.IsPlain : MetricsReport → Prop
  | .failed error host => code '\n' ∉ excText error ∧ IsPlainLabel host
  | _ => True

omit [Runtime] in
theorem length_escapeLabel (c : CodePoint) : 1 ≤ (Exposition.escapeLabel c).length := by
  rcases Exposition.escapeLabel_cases c with ⟨written, _⟩ | ⟨e, written, _⟩ <;> simp [written]

omit [Runtime] in
theorem length_escaped : text.length ≤ (Exposition.escaped text).length := by
  induction text with
  | nil => exact Nat.zero_le _
  | cons c rest ih =>
      have first := length_escapeLabel c
      have later : Exposition.escaped (c :: rest) =
          Exposition.escapeLabel c ++ Exposition.escaped rest := rfl
      rw [later, List.length_append, List.length_cons]
      omega

omit [Runtime] in
theorem escaped_eq_self_iff : Exposition.escaped text = text ↔ IsPlainLabel text := by
  induction text with
  | nil => simp [Exposition.escaped, IsPlainLabel]
  | cons c rest ih =>
      have later : Exposition.escaped (c :: rest) =
          Exposition.escapeLabel c ++ Exposition.escaped rest := rfl
      rw [later]
      rcases Exposition.escapeLabel_cases c with ⟨written, quote, feed, slash⟩ | ⟨e, written, read⟩
      · rw [written, List.singleton_append, List.cons.injEq, ih]
        simp [IsPlainLabel, Ne.symm quote, Ne.symm feed, Ne.symm slash]
      · have longer := @length_escaped rest
        constructor
        · intro same
          have lengths := congrArg List.length same
          rw [written] at lengths
          simp only [List.length_append, List.length_cons, List.length_nil] at lengths
          omega
        · intro plain
          have special : c = code '"' ∨ c = code '\\' ∨ c = code '\n' := by
            unfold Exposition.unescapedLabel at read
            split at read
            · rename_i kept
              cases read
              rw [Bool.or_eq_true, decide_eq_true_eq, decide_eq_true_eq] at kept
              exact kept.elim (fun slash => .inr (.inl slash)) .inl
            · split at read
              · cases read
                exact .inr (.inr rfl)
              · cases read
          rcases special with rfl | rfl | rfl
          · exact absurd List.mem_cons_self plain.1
          · exact absurd List.mem_cons_self plain.2.1
          · exact absurd List.mem_cons_self plain.2.2

omit [Runtime] in
/-- The body of a failure is the exposition of its lines if the host needs no escape. -/
theorem failed_body_eq_iff {error : Exn} :
    (MetricsReport.failed error host).body =
      Exposition.exposition (MetricsReport.failed error host).lines ↔ IsPlainLabel host := by
  have front : Exposition.exposition (MetricsReport.failed error host).lines =
      ("# opnsense plugin: render_metrics failed: " : Str) ++ excText error ++
        ("\nopnsense_up\x7bhost=\"" : Str) ++ Exposition.escaped host ++ ("\"\x7d 0\n" : Str) := by
    have comment : ("# opnsense plugin: render_metrics failed: " : Str) =
        code '#' :: (" opnsense plugin: render_metrics failed: " : Str) := by decide
    have opened : ("\nopnsense_up\x7bhost=\"" : Str) =
        code '\n' :: (("opnsense_up" : Str) ++ code '{' :: (("host" : Str) ++ ("=\"" : Str))) := by
      decide
    have closed : ("\"\x7d 0\n" : Str) =
        code '"' :: code '}' :: code ' ' :: (("0" : Str) ++ [code '\n']) := by decide
    have feed : code '\n' = 10 := by decide
    rw [comment, opened, closed]
    simp [MetricsReport.lines, Exposition.exposition, linesText, Exposition.Line.text,
      Exposition.Sample.text, Exposition.labelSetText, Exposition.labelsText,
      Exposition.labelText, join, feed]
  rw [front, MetricsReport.body, ← escaped_eq_self_iff]
  simp [eq_comm]

omit [Runtime] in
theorem failed_lines_valid_iff {error : Exn} :
    (∀ line ∈ (MetricsReport.failed error host).lines, line.IsValid) ↔
      code '\n' ∉ excText error := by
  have plain : code '\n' ∉ (" opnsense plugin: render_metrics failed: " : Str) := by decide
  have sample : Exposition.Sample.IsValid ⟨"opnsense_up", [("host", host)], "0"⟩ := by
    refine ⟨rfl, ?_, rfl⟩
    intro label member
    rw [List.mem_singleton.mp member]
    rfl
  simp [MetricsReport.lines, Exposition.Line.IsValid, plain, sample]

omit [Runtime] in
theorem unconfigured_body :
    Exposition.read MetricsReport.unconfigured.body = some MetricsReport.unconfigured.lines := by
  decide +kernel

variable [Floats] {answers : Host → NodeAnswers} {cfg : Config}
  {resolvedMasterSide : Host → Host → Str → Str → Except Exn Side}

theorem rendered_of_report {out : List Exposition.Line}
    (chosen : metricsReport resolvedMasterSide answers cfg = .ok (.rendered out)) :
    ∃ host : Host, metricLines (answers host) (metricHost host host.name) = .ok out := by
  simp only [metricsReport, bind_eq_ok] at chosen
  rcases chosen with ⟨found, _, chosen⟩
  cases found with
  | none => cases chosen
  | some host =>
      refine ⟨host, ?_⟩
      dsimp only at chosen
      split at chosen
      · rename_i attempt
        cases chosen
        simp only [bind_eq_ok] at attempt
        rcases attempt with ⟨_, _, written⟩
        exact written
      · cases chosen

/-- A scraper reads the lines that the report stands for, strings and all, exactly if rendering
did not fail or the text of the exception is one line and the name of the host needs no escape. -/
theorem hMetrics_intact_iff (numbers : FloatTexts)
    (chosen : metricsReport resolvedMasterSide answers cfg = .ok report) :
    hMetrics resolvedMasterSide answers cfg = .ok report.body ∧
      (Exposition.read report.body = some report.lines ↔ report.IsPlain) := by
  constructor
  · rw [hMetrics, chosen]
    rfl
  · cases report with
    | unconfigured =>
        simp only [MetricsReport.IsPlain, iff_true]
        exact unconfigured_body
    | rendered out =>
        simp only [MetricsReport.IsPlain, iff_true]
        rcases rendered_of_report chosen with ⟨host, written⟩
        exact read_joinedLines numbers written
    | failed error host =>
        rw [Exposition.read_eq_some_iff, failed_body_eq_iff, failed_lines_valid_iff,
          MetricsReport.IsPlain]
        exact and_comm

end Handler

/-! ## A failure that breaks the scrape -/

theorem floatTexts_ascii : @FloatTexts Runtime.ascii := by
  intro negative mantissa exponent
  have text : @Runtime.reprFloat Runtime.ascii negative mantissa exponent = natText mantissa := by
    change (Nat.repr mantissa).toList.map code = (Nat.toDigits 10 mantissa).map code
    rw [Nat.repr, String.toList_ofList]
  rw [text]
  exact Exposition.isNumber_natText

/-- A node whose interface configuration cannot be read -/
def failingNode (detail : Str) : NodeAnswers where
  reply path := if path = interfaceConfigPath then .error (.error detail) else .ok (.obj [])
  now _ := 0
  zones := []
  distinct := by
    intro path fields found
    split at found
    · cases found
    · cases found
      exact List.nodup_nil

def singleHost : Config :=
  [("opnsense_hosts", .arr [.obj [("name", .str "fw"), ("url", .str "https://fw")]])]

theorem hMetrics_intact_timeout :
    Exposition.read (MetricsReport.failed (opnsenseError (.plain "timed out")) "fw").body =
      some (MetricsReport.failed (opnsenseError (.plain "timed out")) "fw").lines := by
  have chosen : @metricsReport Runtime.ascii Floats.unused (fun _ _ _ _ => .ok .left)
      (fun _ => failingNode "timed out") singleHost =
        .ok (.failed (opnsenseError (.plain "timed out")) "fw") := by rfl
  exact (@hMetrics_intact_iff Runtime.ascii _ Floats.unused _ _ _ floatTexts_ascii chosen).2.mpr
    ⟨by decide, by decide, by decide, by decide⟩

/-- The body of an error page goes into the metrics line by line, and nothing can be read. -/
theorem hMetrics_unreadable :
    ∃ report, @metricsReport Runtime.ascii Floats.unused (fun _ _ _ _ => .ok .left)
        (fun _ => failingNode "HTTP 500: <html>\n<h1>Error</h1>\n</html>") singleHost = .ok report ∧
      @hMetrics Runtime.ascii Floats.unused (fun _ _ _ _ => .ok .left)
        (fun _ => failingNode "HTTP 500: <html>\n<h1>Error</h1>\n</html>") singleHost =
          .ok report.body ∧
      Exposition.read report.body = none := by
  refine ⟨.failed (opnsenseError (.plain "HTTP 500: <html>\n<h1>Error</h1>\n</html>")) "fw",
    by rfl, by rfl, by decide +kernel⟩

end OpnsensePlugin

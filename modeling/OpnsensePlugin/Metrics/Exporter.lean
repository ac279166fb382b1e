import OpnsensePlugin.Collectors
import OpnsensePlugin.Metrics.Exposition
import OpnsensePlugin.Target

/-!
# The metrics endpoint

`render_metrics` writes one section for each metric. `_line` escapes the values
of the labels, but the two lines that `_h_metrics` writes when rendering fails
hold the name of the host and the text of the exception as they are.
-/

namespace OpnsensePlugin

open Effects Python

section Model

variable [Runtime]

/-! ## Lines -/

/-- `str.replace` of a character -/
def replaceChar (old : CodePoint) (new text : Str) : Str :=
  text.flatMap fun c => if c = old then new else [c]

/-- `_escape` -/
def escapeText (label : Str) : Str :=
  replaceChar (code '"') "\\\"" (replaceChar (code '\n') "\\n" (replaceChar (code '\\') "\\\\" label))

/-- What `_line` returns, once its value is a text; no label of a metric is `None`. -/
def sampleText (sample : Exposition.Sample) : Str :=
  if sample.labels.isEmpty then sample.name ++ [code ' '] ++ sample.value
  else
    let rendered := join [code ','] (sample.labels.map fun (k, v) =>
      k ++ ("=\"" : Str) ++ escapeText v ++ [code '"'])
    sample.name ++ [code '{'] ++ rendered ++ [code '}', code ' '] ++ sample.value

def lineText : Exposition.Line → Str
  | .comment text => code '#' :: text
  | .sample content => sampleText content

/-- A number that a sample shows -/
inductive Measure
  | int (value : Int)
  | float (value : PyFloat)

/-- The text of an integer, unless it has too many digits -/
def formatInt (value : Int) : Except Exn Str :=
  if maxStrDigits < (natText value.natAbs).length then
    .error (.builtin .valueError "Exceeds the limit (4300 digits) for integer string conversion")
  else .ok (intText value)

/-- `f"{value}"` -/
def Measure.text : Measure → Except Exn Str
  | .int value => formatInt value
  | .float value => .ok value.text

/-- `1 if flag else 0` -/
def Measure.flag (flag : Bool) : Measure := .int (if flag then 1 else 0)

/-- A metric with its samples, which follow the two lines of `_section` -/
structure Family where
  name : Str
  kind : Str
  help : Str
  samples : List (List (Str × Str) × Measure)

/-- `_section` -/
def Family.header (family : Family) : List Exposition.Line :=
  [.comment ((" HELP " : Str) ++ family.name ++ [code ' '] ++ family.help),
    .comment ((" TYPE " : Str) ++ family.name ++ [code ' '] ++ family.kind)]

def Family.lines (family : Family) : Except Exn (List Exposition.Line) := do
  let samples ← family.samples.mapM fun (labels, value) => do
    let text ← value.text
    return Exposition.Line.sample ⟨family.name, labels, text⟩
  return family.header ++ samples

def linesOf (families : List Family) : Except Exn (List Exposition.Line) := do
  let lines ← families.mapM Family.lines
  return lines.flatten

/-! ## Sections -/

variable [Floats]

omit [Runtime] [Floats] in
def upFamily (host : Str) (up : Bool) : Family :=
  ⟨"opnsense_up", "gauge", "1 if the OPNsense API responded successfully",
    [([("host", host)], .flag up)]⟩

omit [Runtime] [Floats] in
def systemFamilies (host : Str) (sys : SystemSnapshot) : List Family :=
  let common : List (Str × Str) := [("host", host)]
  [upFamily host true,
    ⟨"opnsense_pf_states_current", "gauge", "Current pf state count",
      [(common, .int sys.pfStatesCurrent)]⟩,
    ⟨"opnsense_pf_states_limit", "gauge", "pf state table size limit",
      [(common, .int sys.pfStatesLimit)]⟩,
    ⟨"opnsense_memory_used_bytes", "gauge", "Memory used in bytes (approx, derived from MB)",
      [(common, .int (sys.memoryUsedMb * 1024 * 1024))]⟩,
    ⟨"opnsense_memory_total_bytes", "gauge", "Memory total in bytes (approx, derived from MB)",
      [(common, .int (sys.memoryTotalMb * 1024 * 1024))]⟩]

omit [Runtime] [Floats] in
def interfaceFamilies (host : Str) (ifaces : List InterfaceStat) : List Family :=
  let named (i : InterfaceStat) : List (Str × Str) := [("host", host), ("iface", i.name)]
  let labelled (i : InterfaceStat) : List (Str × Str) :=
    [("host", host), ("iface", i.name), ("label", i.label)]
  [⟨"opnsense_iface_rx_bytes_total", "counter", "Total bytes received per interface",
      ifaces.map fun i => (labelled i, .int i.receivedBytes)⟩,
    ⟨"opnsense_iface_tx_bytes_total", "counter", "Total bytes sent per interface",
      ifaces.map fun i => (labelled i, .int i.sentBytes)⟩,
    ⟨"opnsense_iface_rx_errors_total", "counter", "Total receive errors per interface",
      ifaces.map fun i => (named i, .int i.receivedErrors)⟩,
    ⟨"opnsense_iface_tx_errors_total", "counter", "Total transmit errors per interface",
      ifaces.map fun i => (named i, .int i.sendErrors)⟩,
    ⟨"opnsense_iface_drops_total", "counter", "Dropped packets per interface",
      ifaces.map fun i => (named i, .int i.droppedPackets)⟩,
    ⟨"opnsense_iface_up", "gauge", "1 if the interface is up+running",
      ifaces.map fun i => (named i, .flag i.isUp)⟩]

omit [Runtime] in
def gatewayFamilies (host : Str) (gws : List GatewayStatus) : List Family :=
  let labels (g : GatewayStatus) : List (Str × Str) := [("host", host), ("gw", g.name)]
  [⟨"opnsense_gateway_rtt_seconds", "gauge", "Gateway monitor round-trip time in seconds",
      gws.map fun g => (labels g, .float (Floats.divide g.delayMs (.finite false 1000 0)))⟩,
    ⟨"opnsense_gateway_loss_ratio", "gauge", "Gateway monitor loss ratio (0..1)",
      gws.map fun g => (labels g, .float (Floats.divide g.lossPct (.finite false 100 0)))⟩,
    ⟨"opnsense_gateway_up", "gauge", "1 if the gateway monitor reports Online",
      gws.map fun g => (labels g, .flag g.isUp)⟩]

omit [Runtime] [Floats] in
def serviceFamilies (host : Str) (svc : ServiceSummary) : List Family :=
  [⟨"opnsense_service_running", "gauge", "1 if the service is running",
    svc.items.map fun s => ([("host", host), ("service", s.id)], .flag s.running)⟩]

omit [Runtime] [Floats] in
/-- `c["name"] or c["uuid"]` -/
def CertSummary.metricLabel (c : CertSummary) : Str := if c.name.isEmpty then c.uuid else c.name

omit [Runtime] [Floats] in
def certFamilies (host : Str) (certs : List CertSummary) : List Family :=
  [⟨"opnsense_cert_expiry_seconds", "gauge",
    "Seconds until the certificate expires (negative if past)",
    certs.map fun c => ([("host", host), ("cert", c.metricLabel)], .int (c.daysToExpiry * 86400))⟩]

omit [Runtime] [Floats] in
def vpnFamilies (host : Str) (vpn : VPNSnapshot) : List Family :=
  [⟨"opnsense_vpn_peers_total", "gauge", "Number of VPN peers/sessions per engine",
    [([("host", host), ("type", "wireguard")], .int vpn.wireguardPeers.length),
      ([("host", host), ("type", "ipsec")], .int vpn.ipsecPhase1.length),
      ([("host", host), ("type", "openvpn")], .int vpn.openvpnSessions.length)]⟩]

omit [Runtime] [Floats] in
def haFamilies (host : Str) (ha : HASyncSnapshot) : List Family :=
  [⟨"opnsense_ha_enabled", "gauge", "1 if pfsync is configured (peer interface selected)",
    [([("host", host)], .flag ha.enabled)]⟩]

/-- The lines of `render_metrics`. A section is written before the next collector is asked. -/
def metricLines (answers : NodeAnswers) (host : Str) : Except Exn (List Exposition.Line) :=
  match collectSystem answers with
  | .error _ => linesOf [upFamily host false]
  | .ok sys => do
      let system ← linesOf (systemFamilies host sys)
      let ifaces ← collectInterfaces answers
      let interfaces ← linesOf (interfaceFamilies host ifaces)
      let gws ← collectGateways answers
      let gateways ← linesOf (gatewayFamilies host gws)
      let svc ← collectServices answers
      let services ← linesOf (serviceFamilies host svc)
      let certs ← collectCertificates answers
      let certificates ← linesOf (certFamilies host certs)
      let vpn ← collectVpn answers
      let sessions ← linesOf (vpnFamilies host vpn)
      let ha ← collectHasync answers
      let sync ← linesOf (haFamilies host ha)
      return system ++ interfaces ++ gateways ++ services ++ certificates ++ sessions ++ sync

omit [Runtime] [Floats] in
/-- `"\n".join(out) + "\n"` -/
def joinedLines (out : List Exposition.Line) : Str :=
  join [code '\n'] (out.map lineText) ++ [code '\n']

/-- `host_label or client.host.name` -/
def metricHost (host : Host) (label : Str) : Str := if label.isEmpty then host.name else label

/-- `render_metrics` -/
def renderMetrics (answers : NodeAnswers) (host : Host) (label : Str) : Except Exn Str := do
  let out ← metricLines answers (metricHost host label)
  return joinedLines out

/-! ## The handler -/

/-- `_first_host_from_config`, given what `_resolved_master_side` does -/
def firstHostFromConfig (resolvedMasterSide : Host → Host → Str → Str → Except Exn Side)
    (cfg : Config) : Except Exn (Option Host) := do
  let hosts := configuredHosts cfg
  if !hosts.truthy then return none
  if !(← isClusterMode cfg) then return some (← hostAt hosts 0 >>= hostFromDict)
  let first ← hostAt hosts 0
  let second ← hostAt hosts 1
  let a ← hostFromDict first
  let b ← hostFromDict second
  let nameA ← first.getD "name" (.str "NODOA")
  let nameB ← second.getD "name" (.str "NODOB")
  let side ← resolvedMasterSide a b nameA.text nameB.text
  return some (side.pick a b)

/-- What `_h_metrics` answers -/
inductive MetricsReport
  | unconfigured
  | rendered (out : List Exposition.Line)
  | failed (error : Exn) (host : Str)

/-- The branch that `_h_metrics` takes -/
def metricsReport (resolvedMasterSide : Host → Host → Str → Str → Except Exn Side)
    (answers : Host → NodeAnswers) (cfg : Config) : Except Exn MetricsReport := do
  match ← firstHostFromConfig resolvedMasterSide cfg with
  | none => return .unconfigured
  | some host =>
      let attempt : Except Exn (List Exposition.Line) := do
        requireHttps host
        metricLines (answers host) (metricHost host host.name)
      match attempt with
      | .ok out => return .rendered out
      | .error error => return .failed error host.name

omit [Floats] in
/-- The body of the answer -/
def MetricsReport.body : MetricsReport → Str
  | .unconfigured =>
      ("# opnsense plugin: no opnsense_hosts configured\nopnsense_up\x7bhost=\"unknown\"\x7d 0\n" :
        Str)
  | .rendered out => joinedLines out
  | .failed error host =>
      ("# opnsense plugin: render_metrics failed: " : Str) ++ excText error ++
        ("\nopnsense_up\x7bhost=\"" : Str) ++ host ++ ("\"\x7d 0\n" : Str)

/-- `_h_metrics` -/
def hMetrics (resolvedMasterSide : Host → Host → Str → Str → Except Exn Side)
    (answers : Host → NodeAnswers) (cfg : Config) : Except Exn Str := do
  let report ← metricsReport resolvedMasterSide answers cfg
  return report.body

end Model

end OpnsensePlugin

import OpnsensePlugin.Collectors

/-!
# The overview of a node

`build_overview` runs all collectors of a node and puts their results into one
`dict`. The names of its keys are those of the collectors.
-/

namespace OpnsensePlugin

open Effects Python

def SystemSnapshot.json (system : SystemSnapshot) : Json :=
  .obj [("name", .str system.name), ("versions", .arr system.versions),
    ("cpu_type", system.cpuType), ("uptime", .str system.uptime),
    ("boottime", .str system.boottime), ("config_change", .str system.configChange),
    ("loadavg", .arr (system.loadavg.map .float)), ("memory_total_mb", .int system.memoryTotalMb),
    ("memory_used_mb", .int system.memoryUsedMb), ("memory_used_pct", .float system.memoryUsedPct),
    ("arc_mb", .int system.arcMb), ("pf_states_current", .int system.pfStatesCurrent),
    ("pf_states_limit", .int system.pfStatesLimit), ("pf_states_pct", .float system.pfStatesPct)]

def InterfaceStat.fields (stat : InterfaceStat) : List (Str × Json) :=
  [("name", .str stat.name), ("label", .str stat.label), ("macaddr", .str stat.macaddr),
    ("flags", .arr stat.flags), ("ipv4", .arr stat.ipv4), ("ipv6", .arr stat.ipv6),
    ("mtu", .int stat.mtu), ("received_bytes", .int stat.receivedBytes),
    ("sent_bytes", .int stat.sentBytes), ("received_packets", .int stat.receivedPackets),
    ("sent_packets", .int stat.sentPackets), ("received_errors", .int stat.receivedErrors),
    ("send_errors", .int stat.sendErrors), ("dropped_packets", .int stat.droppedPackets),
    ("collisions", .int stat.collisions), ("is_up", .bool stat.isUp)]

def GatewayStatus.fields (gateway : GatewayStatus) : List (Str × Json) :=
  [("name", .str gateway.name), ("address", .str gateway.address),
    ("monitor", .str gateway.monitor), ("status", .str gateway.status),
    ("status_human", .str gateway.statusHuman), ("delay_ms", .float gateway.delayMs),
    ("loss_pct", .float gateway.lossPct), ("stddev_ms", .float gateway.stddevMs),
    ("is_up", .bool gateway.isUp)]

def ServiceState.fields (service : ServiceState) : List (Str × Json) :=
  [("id", .str service.id), ("name", .str service.name),
    ("description", .str service.description), ("running", .bool service.running),
    ("locked", .bool service.locked)]

def ServiceSummary.fields (summary : ServiceSummary) : List (Str × Json) :=
  [("total", .int summary.total), ("running", .int summary.running),
    ("stopped", .int summary.stopped),
    ("items", .arr (summary.items.map fun service => .obj service.fields))]

def VPNPeer.json (peer : VPNPeer) : Json :=
  .obj [("type", .str peer.type), ("name", .str peer.name), ("enabled", .bool peer.enabled),
    ("connected", .bool peer.connected), ("remote_address", .str peer.remoteAddress),
    ("raw", peer.raw)]

def VPNSnapshot.json (vpn : VPNSnapshot) : Json :=
  .obj [("wireguard_enabled", .bool vpn.wireguardEnabled),
    ("wireguard_peers", .arr (vpn.wireguardPeers.map VPNPeer.json)),
    ("ipsec_phase1", .arr (vpn.ipsecPhase1.map VPNPeer.json)),
    ("openvpn_sessions", .arr (vpn.openvpnSessions.map VPNPeer.json))]

def HASyncSnapshot.fields (hasync : HASyncSnapshot) : List (Str × Json) :=
  [("enabled", .bool hasync.enabled), ("pfsync_interface", .str hasync.pfsyncInterface),
    ("pfsync_peer_ip", .str hasync.pfsyncPeerIp), ("pfsync_version", .str hasync.pfsyncVersion),
    ("sync_to_ip", .str hasync.syncToIp), ("sync_compatibility", .str hasync.syncCompatibility),
    ("sync_disable_preempt", .bool hasync.syncDisablePreempt),
    ("sync_disconnect_ppps", .bool hasync.syncDisconnectPpps)]

def CarpVhid.json (vip : CarpVhid) : Json :=
  .obj [("vhid", .str vip.vhid), ("interface", .str vip.interface), ("ipaddr", .str vip.ipaddr),
    ("status", .str vip.status), ("advbase", .str vip.advbase), ("advskew", .str vip.advskew)]

def CarpRole.text : CarpRole → Str
  | .master => "master"
  | .backup => "backup"
  | .disabled => "disabled"
  | .unknown => "unknown"

def CarpStatus.fields (status : CarpStatus) : List (Str × Json) :=
  [("role", .str status.role.text), ("enabled", .bool status.enabled),
    ("maintenance_mode", .bool status.maintenanceMode), ("demotion", .int status.demotion),
    ("status_msg", .str status.statusMsg), ("vhids", .arr (status.vhids.map CarpVhid.json))]

def CertSummary.fields (cert : CertSummary) : List (Str × Json) :=
  [("uuid", .str cert.uuid), ("name", .str cert.name), ("description", .str cert.description),
    ("commonname", .str cert.commonname), ("valid_from", .str cert.validFrom),
    ("valid_to", .str cert.validTo), ("days_to_expiry", .int cert.daysToExpiry),
    ("in_use", .bool cert.inUse), ("is_user", .bool cert.isUser),
    ("cert_type", .str cert.certType), ("digest", .str cert.digest)]

/-- The results of the collectors of a node -/
structure Overview where
  system : SystemSnapshot
  interfaces : List InterfaceStat
  gateways : List GatewayStatus
  services : ServiceSummary
  vpn : VPNSnapshot
  hasync : HASyncSnapshot
  certs : List CertSummary
  carp : CarpStatus

/-- `CERT_EXPIRY_WARNING_DAYS` -/
def certExpiryWarningDays : Int := 30

namespace Overview

/-- `certs_expiring` -/
def certsExpiring (overview : Overview) : List CertSummary :=
  overview.certs.filter fun cert => cert.daysToExpiry ≤ certExpiryWarningDays

def certsFields (overview : Overview) : List (Str × Json) :=
  [("total", .int overview.certs.length),
    ("expiring_soon_count", .int overview.certsExpiring.length),
    ("expiring_soon", .arr (overview.certsExpiring.map fun cert => .obj cert.fields))]

/-- The `dict` that `build_overview` returns -/
def json (overview : Overview) : Json :=
  .obj [("system", overview.system.json),
    ("interfaces", .arr (overview.interfaces.map fun stat => .obj stat.fields)),
    ("gateways", .arr (overview.gateways.map fun gateway => .obj gateway.fields)),
    ("services", .obj overview.services.fields), ("vpn", overview.vpn.json),
    ("hasync", .obj overview.hasync.fields), ("carp", .obj overview.carp.fields),
    ("certs", .obj overview.certsFields)]

end Overview

/--
The collections of `build_overview`. They run next to one another, and the
exception of the first one that failed is raised.
-/
def collectOverview [Runtime] [Floats] (answers : NodeAnswers) : Except Exn Overview := do
  let system ← collectSystem answers
  let interfaces ← collectInterfaces answers
  let gateways ← collectGateways answers
  let services ← collectServices answers
  let vpn ← collectVpn answers
  let hasync ← collectHasync answers
  let certs ← collectCertificates answers
  let carp ← collectCarp answers
  return { system, interfaces, gateways, services, vpn, hasync, certs, carp }

/-- `build_overview` -/
def buildOverview [Runtime] [Floats] (answers : NodeAnswers) : Except Exn Json := do
  let overview ← collectOverview answers
  return overview.json

/-- A node that answers one question with this object and all others with an empty one -/
def answeringNode (asked : Str) (answer : List (Str × Json))
    (distinct : (answer.map (·.1)).Nodup) (now : Int) : NodeAnswers where
  reply path := if path = asked then .ok (.obj answer) else .ok (.obj [])
  now _ := now
  zones := []
  distinct := by
    intro path fields found
    split at found
    · cases found
      exact distinct
    · cases found
      exact List.nodup_nil

/-- The overview of a node that answers with empty objects only -/
def Overview.silent : Overview where
  system := {
    name := []
    versions := []
    cpuType := .str []
    uptime := []
    boottime := []
    configChange := []
    loadavg := []
    memoryTotalMb := 0
    memoryUsedMb := 0
    memoryUsedPct := .finite false 0 0
    arcMb := 0
    pfStatesCurrent := 0
    pfStatesLimit := 0
    pfStatesPct := .finite false 0 0 }
  interfaces := []
  gateways := []
  services := ⟨0, 0, 0, []⟩
  vpn := ⟨false, [], [], []⟩
  hasync := ⟨false, [], [], [], [], [], false, false⟩
  certs := []
  carp := ⟨.disabled, false, false, 0, [], []⟩

end OpnsensePlugin

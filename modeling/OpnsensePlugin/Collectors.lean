import OpnsensePlugin.Carp
import OpnsensePlugin.Python.Datetime

/-!
# Collectors

The collectors turn what a node reports into the entries of a snapshot. Each of
them fails with the exception of the first answer that it cannot use. No
collection reads a path twice, so its answers are a function of the path.
-/

namespace OpnsensePlugin

open Effects Python

/-- The floating-point routines that the collectors call -/
class Floats where
  /-- `float(text)`; `none` stands for `ValueError` -/
  read : Str → Option PyFloat
  /-- `left / right`, where `right` is not zero -/
  divide : PyFloat → PyFloat → PyFloat
  /-- `round(part / whole * 100, digits)`, where `whole` is not zero; `none` stands for
  `OverflowError` -/
  percentage : Int → Int → Nat → Option PyFloat

/-- Floats for a node that reports no numbers -/
@[reducible]
def Floats.unused : Floats where
  read _ := none
  divide left _ := left
  percentage _ _ _ := none

/-- What one collection of a node learns -/
structure NodeAnswers where
  reply : Str → Reply
  /-- The microseconds since the beginning of 1970 at the reading for a row -/
  now : Nat → Int
  /-- The local names of the time zone, in lower case -/
  zones : List Str
  /-- A `dict` has each of its keys once. -/
  distinct : ∀ path fields, reply path = .ok (.obj fields) → (fields.map (·.1)).Nodup

/-- `client.get(path)` -/
def NodeAnswers.get (answers : NodeAnswers) (path : Str) : Except Exn Json :=
  received (answers.reply path)

/-! ## Values -/

def wrongType (value : Json) (complaint : Str) : Exn :=
  .builtin .typeError ("'" ++ typeName value ++ ("' object is not " : Str) ++ complaint)

/-- `value.get(key, default)` -/
def member (value : Json) (key : Str) (default : Json := .null) : Except Exn Json :=
  match value with
  | .obj fields => .ok (fieldD fields key default)
  | _ => .error (noAttribute value "get")

/-- `value.get(key, default) if isinstance(value, dict) else default` -/
def memberOf (value : Json) (key : Str) (default : Json) : Json :=
  match value with
  | .obj fields => fieldD fields key default
  | _ => default

/-- The items of an iteration over the value -/
def itemsOf : Json → Except Exn (List Json)
  | .arr items => .ok items
  | .obj fields => .ok (fields.map fun entry => .str entry.1)
  | .str text => .ok (text.map fun c => .str [c])
  | value => .error (wrongType value "iterable")

/-- `list(value or [])` -/
def itemsOrNone (value : Json) : Except Exn (List Json) :=
  if value.truthy then itemsOf value else .ok []

/-- `value[0] if value else ""` -/
def firstItem (value : Json) : Except Exn Json :=
  if !value.truthy then .ok (.str [])
  else match value with
    | .arr items => .ok (items.headD .null)
    | .str text => .ok (.str (text.take 1))
    | .obj _ => .error (.builtin .keyError "0")
    | _ => .error (wrongType value "subscriptable")

section Model

variable [Runtime]

/-- `str(value.get(key, ""))` -/
def memberText (value : Json) (key : Str) : Except Exn Str := do
  let found ← member value key (.str [])
  return found.text

/-- `_to_int` and `_safe_int` -/
def safeInt (value : Json) : Int := (parseInt 10 value.text).getD 0

/-- `_bool_from_int` and `_bool01` -/
def bool01 (value : Json) : Bool := parseInt 10 value.text = some 1

variable [Floats]

/-! ## System -/

structure SystemSnapshot where
  name : Str
  versions : List Json
  cpuType : Json
  uptime : Str
  boottime : Str
  configChange : Str
  loadavg : List PyFloat
  memoryTotalMb : Int
  memoryUsedMb : Int
  memoryUsedPct : PyFloat
  arcMb : Int
  pfStatesCurrent : Int
  pfStatesLimit : Int
  pfStatesPct : PyFloat

/-- `round(part / whole * 100, digits) if whole else 0.0` -/
def percentageOf (part whole : Int) (digits : Nat) : Except Exn PyFloat :=
  if whole = 0 then .ok (.finite false 0 0)
  else match Floats.percentage part whole digits with
    | some value => .ok value
    | none => .error (.builtin .overflowError "integer division result too large for a float")

omit [Runtime] in
/-- `_parse_loadavg` -/
def parseLoadavg (value : Json) : Except Exn (List PyFloat) :=
  if !value.truthy then .ok []
  else match value with
    | .str text => .ok ((splitOn (code ',') text).filterMap fun chunk => Floats.read (strip chunk))
    | _ => .error (noAttribute value "split")

/-- The answer of `getCPUType`, or nothing if it fails -/
def cpuTypes (answers : NodeAnswers) : Json :=
  match answers.get "/api/diagnostics/cpu_usage/getCPUType" with
  | .ok value => value
  | .error _ => .arr []

/-- `collect_system` -/
def collectSystem (answers : NodeAnswers) : Except Exn SystemSnapshot := do
  let info ← answers.get "/api/diagnostics/system/system_information"
  let res ← answers.get "/api/diagnostics/system/systemResources"
  let time ← answers.get "/api/diagnostics/system/systemTime"
  let pf ← answers.get "/api/diagnostics/firewall/pf_states"
  let mem := memberOf res "memory" (.obj [])
  let total := safeInt (← member mem "total_frmt")
  let used := safeInt (← member mem "used_frmt")
  let usedPct ← percentageOf used total 2
  let arc := safeInt (← member mem "arc_frmt")
  let current := safeInt (← member pf "current")
  let limit := safeInt (← member pf "limit")
  let statesPct ← percentageOf current limit 4
  let name ← memberText info "name"
  let versions ← itemsOrNone (← member info "versions")
  let cpuType ← firstItem (cpuTypes answers)
  let uptime ← memberText time "uptime"
  let boottime ← memberText time "boottime"
  let configChange ← memberText time "config"
  let loadavg ← parseLoadavg (← member time "loadavg" (.str []))
  return SystemSnapshot.mk name versions cpuType uptime boottime configChange loadavg total used
    usedPct arc current limit statesPct

/-! ## Interfaces -/

structure InterfaceStat where
  name : Str
  label : Str
  macaddr : Str
  flags : List Json
  ipv4 : List Json
  ipv6 : List Json
  mtu : Int
  receivedBytes : Int
  sentBytes : Int
  receivedPackets : Int
  sentPackets : Int
  receivedErrors : Int
  sendErrors : Int
  droppedPackets : Int
  collisions : Int
  isUp : Bool

/-- What stands between an opening and a closing character, and what follows it -/
def enclosed (opening closing : CodePoint) : Str → Option (Str × Str)
  | [] => none
  | c :: rest =>
      match partition closing rest with
      | (inside, some behind) => if c = opening && !inside.isEmpty then some (inside, behind) else none
      | (_, none) => none

/-- `_parse_stat_key`: the name and the label of `[label] (name) …` -/
def parseStatKey (key : Str) : Str × Str :=
  match enclosed (code '[') (code ']') key with
  | some (label, behind) =>
      match enclosed (code '(') (code ')') (behind.dropWhile isSpace) with
      | some (name, _) => if behind.head?.any isSpace then (name, label) else (key, [])
      | none => (key, [])
  | none => (key, [])

/-- `by_name`, built from the statistics one by one -/
def statsByName : List (Str × Json) → List (Str × List (Str × Json)) →
    Except Exn (List (Str × List (Str × Json)))
  | [], stats => .ok stats
  | (key, .obj row) :: rest, stats =>
      let (name, label) := parseStatKey key
      statsByName rest (setField name (setField "_label" (.str label) row) stats)
  | (_, value) :: _, _ => .error (wrongType value "a mapping")

omit [Runtime] [Floats] in
/-- The statistics of an answer by the name of the interface -/
def statsOf (answer : Json) : Except Exn (List (Str × List (Str × Json))) :=
  match memberOf answer "statistics" (.obj []) with
  | .obj raw => statsByName raw []
  | value => .error (noAttribute value "items")

/-- One entry of `collect_interfaces` -/
def interfaceStat (stats : List (Str × List (Str × Json))) (name : Str) (c : Json) :
    Except Exn InterfaceStat := do
  let s := (field stats name).getD []
  let flags ← itemsOrNone (← member c "flags")
  let macaddr ← memberText c "macaddr"
  let ipv4 ← itemsOrNone (← member c "ipv4")
  let ipv6 ← itemsOrNone (← member c "ipv6")
  let mtu ← member c "mtu" (.int 0)
  let counter (key : Str) := safeInt (fieldD s key .null)
  return {
    name
    label := fieldText s "_label"
    macaddr
    flags
    ipv4
    ipv6
    mtu := safeInt (fieldD s "mtu" mtu)
    receivedBytes := counter "received-bytes"
    sentBytes := counter "sent-bytes"
    receivedPackets := counter "received-packets"
    sentPackets := counter "sent-packets"
    receivedErrors := counter "received-errors"
    sendErrors := counter "send-errors"
    droppedPackets := counter "dropped-packets"
    collisions := counter "collisions"
    isUp := flags.any (Json.isText "up") && flags.any (Json.isText "running") }

def interfaceConfigPath : Str := "/api/diagnostics/interface/getInterfaceConfig"

/-- `collect_interfaces` -/
def collectInterfaces (answers : NodeAnswers) : Except Exn (List InterfaceStat) := do
  let cfg ← answers.get interfaceConfigPath
  let stats ← answers.get "/api/diagnostics/interface/getInterfaceStatistics"
  let byName ← statsOf stats
  match cfg with
  | .obj fields => fields.mapM fun (name, c) => interfaceStat byName name c
  | _ => return []

/-! ## Gateways -/

structure GatewayStatus where
  name : Str
  address : Str
  monitor : Str
  status : Str
  statusHuman : Str
  delayMs : PyFloat
  lossPct : PyFloat
  stddevMs : PyFloat
  isUp : Bool

omit [Runtime] in
/-- `_parse_metric` -/
def parseMetric (value : Str) : PyFloat :=
  let zero : PyFloat := .finite false 0 0
  if value.isEmpty || value = "~" then zero
  else (Floats.read (strip (removeAll "%" 0 (removeAll "ms" 0 value)))).getD zero

/-- One entry of `collect_gateways` -/
def gatewayStatus (it : Json) : Except Exn GatewayStatus := do
  let status := (← member it "status" (.str "none")).text
  let statusHuman ← memberText it "status_translated"
  let name ← memberText it "name"
  let address ← memberText it "address"
  let monitor ← memberText it "monitor"
  let delay ← memberText it "delay"
  let loss ← memberText it "loss"
  let stddev ← memberText it "stddev"
  return {
    name
    address
    monitor
    status
    statusHuman
    delayMs := parseMetric delay
    lossPct := parseMetric loss
    stddevMs := parseMetric stddev
    isUp := Runtime.lower statusHuman = "online" }

/-- `collect_gateways` -/
def collectGateways (answers : NodeAnswers) : Except Exn (List GatewayStatus) := do
  let payload ← answers.get "/api/routes/gateway/status"
  let items ← itemsOf (memberOf payload "items" (.arr []))
  items.mapM gatewayStatus

/-! ## Services -/

structure ServiceState where
  id : Str
  name : Str
  description : Str
  running : Bool
  locked : Bool

structure ServiceSummary where
  total : Nat
  running : Nat
  stopped : Nat
  items : List ServiceState

/-- One entry of `collect_services` -/
def serviceState (r : Json) : Except Exn ServiceState := do
  let running := bool01 (← member r "running")
  let id ← memberText r "id"
  let name ← memberText r "name"
  let description ← memberText r "description"
  let locked := bool01 (← member r "locked")
  return ServiceState.mk id name description running locked

/-- `collect_services` -/
def collectServices (answers : NodeAnswers) : Except Exn ServiceSummary := do
  let payload ← answers.get "/api/core/service/search"
  let rows ← itemsOf (memberOf payload "rows" (.arr []))
  let items ← rows.mapM serviceState
  let running := (items.filter ServiceState.running).length
  return ServiceSummary.mk items.length running (items.length - running) items

/-! ## Certificates -/

structure CertSummary where
  uuid : Str
  name : Str
  description : Str
  commonname : Str
  validFrom : Str
  validTo : Str
  daysToExpiry : Int
  inUse : Bool
  isUser : Bool
  certType : Str
  digest : Str

omit [Runtime] [Floats] in
/-- `int(delta.total_seconds() // 86400)` for the time from `now` to the date -/
def daysFrom (now : Int) (date : DateTime) : Int :=
  (date.timestamp * 1000000 - now).fdiv (86400 * 1000000)

omit [Runtime] [Floats] in
/-- `_parse_days_to` -/
def parseDaysTo (zones : List Str) (now : Int) (validTo : Str) : Int :=
  if validTo.isEmpty then 0
  else match Matcher.strptime (Matcher.zonedDate zones) (strip validTo) with
    | some date => daysFrom now date
    | none =>
        match Matcher.strptime Matcher.date ((strip validTo).take 24) with
        | some date => daysFrom now date
        | none => 0

/-- `_bool_from` -/
def boolFrom (value : Json) : Bool :=
  match parseInt 10 value.text with
  | some number => number ≠ 0
  | none =>
      match value with
      | .bool flag => flag
      | _ => false

/-- One entry of `collect_certificates` -/
def certSummary (zones : List Str) (now : Int) (r : Json) : Except Exn CertSummary := do
  let stated ← member r "valid_to"
  let validTo := if stated.truthy then stated.text else []
  let uuid ← memberText r "uuid"
  let name ← memberText r "name"
  let description ← memberText r "descr"
  let commonname ← memberText r "commonname"
  let validFrom ← memberText r "valid_from"
  let inUse := boolFrom (← member r "in_use")
  let isUser := boolFrom (← member r "is_user")
  let certType ← memberText r "cert_type"
  let digest ← memberText r "digest"
  return CertSummary.mk uuid name description commonname validFrom validTo
    (parseDaysTo zones now validTo) inUse isUser certType digest

def certSearchPath : Str := "/api/trust/cert/search"

/-- `collect_certificates` -/
def collectCertificates (answers : NodeAnswers) : Except Exn (List CertSummary) := do
  let payload ← answers.get certSearchPath
  let rows ← itemsOf (memberOf payload "rows" (.arr []))
  rows.zipIdx.mapM fun (r, index) => certSummary answers.zones (answers.now index) r

/-! ## VPN sessions -/

structure VPNPeer where
  type : Str
  name : Str
  enabled : Bool
  connected : Bool
  remoteAddress : Str
  raw : Json

structure VPNSnapshot where
  wireguardEnabled : Bool
  wireguardPeers : List VPNPeer
  ipsecPhase1 : List VPNPeer
  openvpnSessions : List VPNPeer

/-- `next((str(row[k]) for k in keys if row.get(k)), "")` -/
def firstText (row : List (Str × Json)) (keys : List Str) : Str :=
  match (keys.map fun key => fieldD row key .null).find? Json.truthy with
  | some value => value.text
  | none => []

/-- `_peer` -/
def vpnPeer (kind : Str) (nameKeys remoteKeys : List Str) (row : Json) : Except Exn VPNPeer :=
  match row with
  | .obj fields =>
      let enabled := fieldD fields "enabled" (fieldD fields "status" (.str []))
      let connected :=
        match field fields "peer-status" with
        | some status =>
            if kind = "wireguard" then decide (Runtime.lower status.text = "online")
            else bool01 (fieldD fields "connected" (fieldD fields "running" (.str [])))
        | none => bool01 (fieldD fields "connected" (fieldD fields "running" (.str [])))
      .ok {
        type := kind
        name := firstText fields nameKeys
        enabled := bool01 enabled || Runtime.lower enabled.text ∈ (["true", "yes"] : List Str)
        connected
        remoteAddress := firstText fields remoteKeys
        raw := row }
  | _ => .error (noAttribute row "get")

/-- `value or {}` -/
def orObject (value : Json) : Json := if value.truthy then value else .obj []

/-- `collect_wireguard` -/
def collectWireguard (answers : NodeAnswers) : Except Exn (Bool × List VPNPeer) := do
  let general ← answers.get "/api/wireguard/general/get"
  let settings ← member (orObject general) "general" (.obj [])
  let enabled := bool01 (← member (orObject settings) "enabled" (.int 0))
  let answer ← answers.get "/api/wireguard/service/show"
  let rows ← itemsOf (memberOf answer "rows" (.arr []))
  let kept ← rows.filterM fun row => do
    let type ← member row "type"
    return !type.isText "interface"
  let peers ← kept.mapM
    (vpnPeer "wireguard" ["name", "instance"] ["endpoint", "endpoint_address"])
  return (enabled, peers)

/-- `collect_ipsec` -/
def collectIpsec (answers : NodeAnswers) : Except Exn (List VPNPeer) := do
  let payload ← answers.get "/api/ipsec/sessions/searchPhase1"
  let rows ← itemsOf (memberOf payload "rows" (.arr []))
  rows.mapM (vpnPeer "ipsec" ["name", "id"] ["remote-host", "remote_addr"])

/-- `collect_openvpn` -/
def collectOpenvpn (answers : NodeAnswers) : Except Exn (List VPNPeer) := do
  let payload ← answers.get "/api/openvpn/service/searchSessions"
  let rows ← itemsOf (memberOf payload "rows" (.arr []))
  rows.mapM (vpnPeer "openvpn" ["description", "common_name", "id"] ["real_address", "virtual_addr"])

/-- `collect_vpn` -/
def collectVpn (answers : NodeAnswers) : Except Exn VPNSnapshot := do
  let (enabled, peers) ← collectWireguard answers
  let phase1 ← collectIpsec answers
  let sessions ← collectOpenvpn answers
  return VPNSnapshot.mk enabled peers phase1 sessions

/-! ## HA sync -/

structure HASyncSnapshot where
  enabled : Bool
  pfsyncInterface : Str
  pfsyncPeerIp : Str
  pfsyncVersion : Str
  syncToIp : Str
  syncCompatibility : Str
  syncDisablePreempt : Bool
  syncDisconnectPpps : Bool

/-- Whether an entry of an option group is selected -/
def isSelectedOption : Json → Bool
  | .obj entry => (fieldD entry "selected" .null).truthy
  | _ => false

/-- `_selected_value` -/
def selectedValue : Json → Str
  | .obj options =>
      match (options.map (·.2)).find? isSelectedOption with
      | some (.obj entry) => fieldText entry "value"
      | _ => []
  | _ => []

/-- `collect_hasync` -/
def collectHasync (answers : NodeAnswers) : Except Exn HASyncSnapshot := do
  let payload ← answers.get "/api/core/hasync/get"
  let h := memberOf payload "hasync" (.obj [])
  let interface := selectedValue (← member h "pfsyncinterface")
  let peerIp ← memberText h "pfsyncpeerip"
  let version := selectedValue (← member h "pfsyncversion")
  let syncTo ← memberText h "synchronizetoip"
  let compatibility := selectedValue (← member h "synchronizecompatibility")
  let preempt := bool01 (← member h "disablepreempt")
  let ppps := bool01 (← member h "disconnectppps")
  return {
    enabled := !interface.isEmpty && Runtime.lower interface ≠ "disabled"
    pfsyncInterface := interface
    pfsyncPeerIp := peerIp
    pfsyncVersion := version
    syncToIp := syncTo
    syncCompatibility := compatibility
    syncDisablePreempt := preempt
    syncDisconnectPpps := ppps }

/-- `collect_carp_status` on the answers of the node -/
def collectCarp (answers : NodeAnswers) : Except Exn CarpStatus :=
  carpStatusOf (safeFields (answers.reply vipStatusPath))

end Model

end OpnsensePlugin

import OpnsensePlugin.Writers.Legacy
import OpnsensePlugin.Writers.Preflight

/-!
# The ten legacy writers

Each writer is the lifecycle of `OpnsensePlugin.Writers.Legacy` with its own
paths, payload, checks and audited texts.
-/

namespace OpnsensePlugin

open Effects Python

def valueError (detail : Str) : Exn := .builtin .valueError detail

/-- `"1" if flag else "0"` -/
def flagText (flag : Bool) : Json := .str (if flag then "1" else "0")

/-- Whether `re.match` with a pattern that ends in `$` accepts the text, given what the pattern
accepts without it: `$` also matches before a final newline. -/
def matchesLine (accepts : Str → Bool) (text : Str) : Bool :=
  accepts text || (text.getLast? = some 10 && accepts text.dropLast)

/-- `\d{1,3}` -/
def isOctetText (text : Str) : Bool := isDecimal text && decide (text.length ≤ 3)

/-- `(?:\d{1,3}\.){3}\d{1,3}` -/
def isQuad (text : Str) : Bool :=
  (splitOn (code '.') text).length = 4 && (splitOn (code '.') text).all isOctetText

/-- `_IPV4_RE.match` -/
def matchesIpv4 (text : Str) : Bool := matchesLine isQuad text

/-- `_CIDR_RE.match` -/
def matchesCidr (text : Str) : Bool :=
  matchesLine (fun text => match splitOn (code '/') text with
    | [address, length] => isQuad address && isDecimal length && decide (length.length ≤ 2)
    | _ => false) text

/-- `[0-9a-fA-F]{2}([:-][0-9a-fA-F]{2}){5}` -/
def isMac : Str → Nat → Bool
  | [a, b], pairs => isHexDigit a && isHexDigit b && pairs = 5
  | a :: b :: separator :: rest, pairs =>
      isHexDigit a && isHexDigit b && (separator = code ':' || separator = code '-') &&
        isMac rest (pairs + 1)
  | _, _ => false

/-- `_MAC_RE.match` -/
def matchesMac (text : Str) : Bool := matchesLine (isMac · 0) text

section

variable [Runtime]

/-! ## Aliases and rules -/

structure AliasInput where
  name : Str
  type : Str
  content : Str
  description : Str
  enabled : Bool
  proto : Str

def AliasInput.toPayload (input : AliasInput) : Json :=
  .obj [("alias", .obj [
    ("name", .str input.name),
    ("type", .str input.type),
    ("content", .str input.content),
    ("description", .str input.description),
    ("enabled", flagText input.enabled),
    ("proto", .str input.proto)])]

/-- `AliasWriter`, which checks nothing before it writes -/
def aliasWriter : LegacyWriter AliasInput where
  base := "/api/firewall/alias"
  applyPath := "/api/firewall/alias/reconfigure"
  addName := "addItem"
  setName := some ("setItem" : Str)
  delName := "delItem"
  searchName := "searchItem"
  kind := "alias"
  rollbackNote := "reconfigure failed → rolled back: "
  validate _ := .ok ()
  toPayload := AliasInput.toPayload
  refusedTarget input := input.name
  failedTarget input := input.name
  createdTarget _ input := input.name
  createdDetail uuid _ := "uuid=" ++ uuid
  updatedDetail input := input.name

structure RuleInput where
  interface : Str
  action : Str
  direction : Str
  ipprotocol : Str
  protocol : Str
  sourceNet : Str
  sourcePort : Str
  destinationNet : Str
  destinationPort : Str
  description : Str
  enabled : Bool
  sequence : Int

def RuleInput.toPayload (input : RuleInput) : Json :=
  .obj [("rule", .obj [
    ("enabled", flagText input.enabled),
    ("sequence", .str (intText input.sequence)),
    ("action", .str input.action),
    ("direction", .str input.direction),
    ("ipprotocol", .str input.ipprotocol),
    ("protocol", .str input.protocol),
    ("source_net", .str input.sourceNet),
    ("source_port", .str input.sourcePort),
    ("destination_net", .str input.destinationNet),
    ("destination_port", .str input.destinationPort),
    ("interface", .str input.interface),
    ("description", .str input.description)])]

def RuleInput.validate (input : RuleInput) : Except Exn Unit := do
  raiseIf (input.action ∉ (["pass", "block", "reject"] : List Str))
    (valueError ("action must be one of ('pass', 'block', 'reject'), got " ++
      Runtime.reprStr input.action))
  raiseIf (input.direction ∉ (["in", "out"] : List Str))
    (valueError ("direction must be one of ('in', 'out'), got " ++
      Runtime.reprStr input.direction))
  raiseIf (input.ipprotocol ∉ (["inet", "inet6", "inet46"] : List Str))
    (valueError ("ipprotocol must be one of ('inet', 'inet6', 'inet46'), got " ++
      Runtime.reprStr input.ipprotocol))
  raiseIf input.interface.isEmpty (valueError "interface is required")

/-- `text or other` -/
def textOr (text other : Str) : Str := if text.isEmpty then other else text

def ruleWriter : LegacyWriter RuleInput where
  base := "/api/firewall/filter"
  applyPath := "/api/firewall/filter/apply"
  addName := "addRule"
  setName := some ("setRule" : Str)
  delName := "delRule"
  searchName := "searchRule"
  kind := "rule"
  rollbackNote := "apply failed → rolled back: "
  validate := RuleInput.validate
  toPayload := RuleInput.toPayload
  refusedTarget input := textOr input.description input.interface
  failedTarget input := input.interface
  createdTarget uuid _ := uuid
  createdDetail _ input := input.description
  updatedDetail _ := []

/-! ## NAT -/

structure NatInput where
  interface : Str
  target : Str
  sourceNet : Str
  destinationNet : Str
  description : Str
  enabled : Bool
  ipprotocol : Str
  protocol : Str

def NatInput.toPayload (input : NatInput) : Json :=
  .obj [("rule", .obj [
    ("disabled", flagText (!input.enabled)),
    ("interface", .str input.interface),
    ("ipprotocol", .str input.ipprotocol),
    ("protocol", .str input.protocol),
    ("source_net", .str input.sourceNet),
    ("destination_net", .str input.destinationNet),
    ("target", .str input.target),
    ("description", .str input.description)])]

def NatInput.validate (input : NatInput) : Except Exn Unit := do
  raiseIf input.interface.isEmpty (valueError "interface is required")
  raiseIf input.target.isEmpty (valueError "target is required (IP or alias)")
  raiseIf (input.ipprotocol ∉ (["inet", "inet6"] : List Str))
    (valueError ("ipprotocol must be inet|inet6, got " ++ Runtime.reprStr input.ipprotocol))

def natWriter : LegacyWriter NatInput where
  base := "/api/firewall/source_nat"
  applyPath := "/api/firewall/source_nat/apply"
  addName := "addRule"
  setName := some ("setRule" : Str)
  delName := "delRule"
  searchName := "searchRule"
  kind := "nat"
  rollbackNote := "apply failed → rolled back: "
  validate := NatInput.validate
  toPayload := NatInput.toPayload
  refusedTarget input := textOr input.description input.interface
  failedTarget input := input.interface
  createdTarget uuid _ := uuid
  createdDetail _ input := input.description
  updatedDetail _ := []

structure OneToOneNatInput where
  interface : Str
  external : Str
  sourceNet : Str
  destinationNet : Str
  description : Str
  enabled : Bool
  type : Str
  log : Bool
  sequence : Str

def OneToOneNatInput.toPayload (input : OneToOneNatInput) : Json :=
  .obj [("rule", .obj [
    ("enabled", flagText input.enabled),
    ("log", flagText input.log),
    ("sequence", .str input.sequence),
    ("interface", .str input.interface),
    ("type", .str input.type),
    ("source_net", .str input.sourceNet),
    ("source_not", .str "0"),
    ("destination_net", .str input.destinationNet),
    ("destination_not", .str "0"),
    ("external", .str input.external),
    ("description", .str input.description)])]

def OneToOneNatInput.validate (input : OneToOneNatInput) : Except Exn Unit := do
  raiseIf input.interface.isEmpty (valueError "interface is required")
  raiseIf input.external.isEmpty (valueError "external IP/alias is required")
  raiseIf input.sourceNet.isEmpty (valueError "source_net (internal IP/alias) is required")
  raiseIf (input.type ∉ (["binat", "nat"] : List Str))
    (valueError ("type must be binat|nat, got " ++ Runtime.reprStr input.type))

def oneToOneNatWriter : LegacyWriter OneToOneNatInput where
  base := "/api/firewall/one_to_one"
  applyPath := "/api/firewall/one_to_one/apply"
  addName := "addRule"
  setName := none
  delName := "delRule"
  searchName := "searchRule"
  kind := "one_to_one"
  rollbackNote := "apply failed → rolled back: "
  validate := OneToOneNatInput.validate
  toPayload := OneToOneNatInput.toPayload
  refusedTarget input := textOr input.description input.interface
  failedTarget input := input.interface
  createdTarget uuid _ := uuid
  createdDetail _ input := input.description
  updatedDetail _ := []

/-! ## Unbound -/

structure UnboundHostInput where
  hostname : Str
  domain : Str
  server : Str
  rr : Str
  description : Str
  enabled : Bool

def UnboundHostInput.toPayload (input : UnboundHostInput) : Json :=
  .obj [("host", .obj [
    ("enabled", flagText input.enabled),
    ("hostname", .str input.hostname),
    ("domain", .str input.domain),
    ("rr", .str input.rr),
    ("server", .str input.server),
    ("description", .str input.description)])]

def UnboundHostInput.validate (input : UnboundHostInput) : Except Exn Unit := do
  raiseIf input.hostname.isEmpty (valueError "hostname is required")
  raiseIf input.domain.isEmpty (valueError "domain is required")
  raiseIf input.server.isEmpty (valueError "server (IP) is required")
  raiseIf (input.rr ∉ (["A", "AAAA", "MX"] : List Str))
    (valueError ("rr must be A|AAAA|MX, got " ++ Runtime.reprStr input.rr))

def unboundWriter : LegacyWriter UnboundHostInput where
  base := "/api/unbound/settings"
  applyPath := "/api/unbound/service/reconfigure"
  addName := "addHostOverride"
  setName := none
  delName := "delHostOverride"
  searchName := "searchHostOverride"
  kind := "unbound"
  rollbackNote := "apply failed → rolled back: "
  validate := UnboundHostInput.validate
  toPayload := UnboundHostInput.toPayload
  refusedTarget input := textOr input.hostname "?"
  failedTarget input := input.hostname
  createdTarget uuid _ := uuid
  createdDetail _ input := input.description
  updatedDetail _ := []

structure UnboundDotInput where
  domain : Str
  server : Str
  verify : Str
  port : Str
  description : Str
  enabled : Bool
  forwardTcpUpstream : Bool
  forwardFirst : Bool

def UnboundDotInput.toPayload (input : UnboundDotInput) : Json :=
  .obj [("dot", .obj [
    ("enabled", flagText input.enabled),
    ("type", .str "dot"),
    ("domain", .str input.domain),
    ("server", .str input.server),
    ("port", .str input.port),
    ("verify", .str input.verify),
    ("forward_tcp_upstream", flagText input.forwardTcpUpstream),
    ("forward_first", flagText input.forwardFirst),
    ("description", .str input.description)])]

def UnboundDotInput.validate (input : UnboundDotInput) : Except Exn Unit := do
  raiseIf (input.domain.isEmpty || code '.' ∉ input.domain)
    (valueError "domain must be a fully-qualified zone (e.g. lab.local)")
  raiseIf input.server.isEmpty (valueError "server (DoT resolver IP) is required")
  raiseIf input.verify.isEmpty (valueError "verify (cert hostname for SNI) is required")
  raiseIf (input.port.isEmpty || !isDigit input.port)
    (valueError "port must be a numeric string (default 853)")

def unboundDotWriter : LegacyWriter UnboundDotInput where
  base := "/api/unbound/settings"
  applyPath := "/api/unbound/service/reconfigure"
  addName := "addForward"
  setName := none
  delName := "delForward"
  searchName := "searchForward"
  kind := "unbound_dot"
  rollbackNote := "apply failed → rolled back: "
  validate := UnboundDotInput.validate
  toPayload := UnboundDotInput.toPayload
  refusedTarget input := textOr input.domain "?"
  failedTarget input := input.domain
  createdTarget uuid _ := uuid
  createdDetail _ input := input.description
  updatedDetail _ := []

structure UnboundDomainInput where
  domain : Str
  server : Str
  description : Str
  enabled : Bool

def UnboundDomainInput.toPayload (input : UnboundDomainInput) : Json :=
  .obj [("dot", .obj [
    ("enabled", flagText input.enabled),
    ("type", .str "forward"),
    ("domain", .str input.domain),
    ("server", .str input.server),
    ("description", .str input.description)])]

def UnboundDomainInput.validate (input : UnboundDomainInput) : Except Exn Unit := do
  raiseIf input.domain.isEmpty (valueError "domain is required")
  raiseIf (code '.' ∉ input.domain)
    (valueError "domain must be a fully-qualified zone (contain a dot)")
  raiseIf input.server.isEmpty (valueError "server (IP) is required")

def unboundDomainWriter : LegacyWriter UnboundDomainInput where
  base := "/api/unbound/settings"
  applyPath := "/api/unbound/service/reconfigure"
  addName := "addForward"
  setName := none
  delName := "delForward"
  searchName := "searchForward"
  kind := "unbound_domain"
  rollbackNote := "apply failed → rolled back: "
  validate := UnboundDomainInput.validate
  toPayload := UnboundDomainInput.toPayload
  refusedTarget input := textOr input.domain "?"
  failedTarget input := input.domain
  createdTarget uuid _ := uuid
  createdDetail _ input := input.description
  updatedDetail _ := []

/-! ## Kea -/

structure DhcpReservationInput where
  subnet : Str
  ipAddress : Str
  hwAddress : Str
  hostname : Str
  description : Str

def DhcpReservationInput.toPayload (input : DhcpReservationInput) : Json :=
  .obj [("reservation", .obj [
    ("subnet", .str input.subnet),
    ("ip_address", .str input.ipAddress),
    ("hw_address", .str input.hwAddress),
    ("hostname", .str input.hostname),
    ("description", .str input.description)])]

def DhcpReservationInput.validate (input : DhcpReservationInput) : Except Exn Unit := do
  raiseIf input.subnet.isEmpty (valueError "subnet UUID is required")
  raiseIf (!matchesIpv4 input.ipAddress)
    (valueError ("ip_address must be IPv4, got " ++ Runtime.reprStr input.ipAddress))
  raiseIf (!matchesMac input.hwAddress)
    (valueError ("hw_address must be MAC (XX:XX:XX:XX:XX:XX), got " ++
      Runtime.reprStr input.hwAddress))
  raiseIf input.hostname.isEmpty (valueError "hostname is required")

def dhcpReservationWriter : LegacyWriter DhcpReservationInput where
  base := "/api/kea/dhcpv4"
  applyPath := "/api/kea/service/reconfigure"
  addName := "addReservation"
  setName := none
  delName := "delReservation"
  searchName := "searchReservation"
  kind := "dhcp_reservation"
  rollbackNote := "apply failed → rolled back: "
  validate := DhcpReservationInput.validate
  toPayload := DhcpReservationInput.toPayload
  refusedTarget input := textOr input.hostname "?"
  failedTarget input := input.hostname
  createdTarget uuid _ := uuid
  createdDetail _ input := input.description
  updatedDetail _ := []

structure DhcpSubnetInput where
  subnet : Str
  description : Str
  pools : Str
  nextServer : Str
  matchClientId : Bool

def DhcpSubnetInput.toPayload (input : DhcpSubnetInput) : Json :=
  .obj [("subnet4", .obj [
    ("subnet", .str input.subnet),
    ("description", .str input.description),
    ("pools", .str input.pools),
    ("next_server", .str input.nextServer),
    ("match-client-id", flagText input.matchClientId)])]

def DhcpSubnetInput.validate (input : DhcpSubnetInput) : Except Exn Unit :=
  raiseIf (!matchesCidr input.subnet)
    (valueError ("subnet must be IPv4 CIDR (e.g. 192.168.1.0/24), got " ++
      Runtime.reprStr input.subnet))

def dhcpSubnetWriter : LegacyWriter DhcpSubnetInput where
  base := "/api/kea/dhcpv4"
  applyPath := "/api/kea/service/reconfigure"
  addName := "addSubnet"
  setName := none
  delName := "delSubnet"
  searchName := "searchSubnet"
  kind := "dhcp_subnet"
  rollbackNote := "apply failed → rolled back: "
  validate := DhcpSubnetInput.validate
  toPayload := DhcpSubnetInput.toPayload
  refusedTarget input := textOr input.subnet "?"
  failedTarget input := input.subnet
  createdTarget uuid _ := uuid
  createdDetail _ input := input.description
  updatedDetail _ := []

/-! ## WireGuard -/

structure WireguardPeerInput where
  name : Str
  pubkey : Str
  tunneladdress : Str
  keepalive : Int
  psk : Str
  enabled : Bool

def WireguardPeerInput.toPayload (input : WireguardPeerInput) : Json :=
  let psk : List (Str × Json) := if input.psk.isEmpty then [] else [("psk", .str input.psk)]
  let fields : List (Str × Json) := [
    ("enabled", flagText input.enabled),
    ("name", .str input.name),
    ("pubkey", .str input.pubkey),
    ("tunneladdress", .str input.tunneladdress),
    ("keepalive", .str (intText input.keepalive))]
  .obj [("client", .obj (fields ++ psk))]

def WireguardPeerInput.validate (input : WireguardPeerInput) : Except Exn Unit := do
  raiseIf input.name.isEmpty (valueError "name is required")
  raiseIf (input.pubkey.isEmpty || decide (input.pubkey.length ≠ 44) ||
      decide (input.pubkey.getLast? ≠ some (code '=')))
    (valueError "pubkey must be a 44-char base64-encoded WireGuard public key")
  raiseIf (input.tunneladdress.isEmpty || code '/' ∉ input.tunneladdress)
    (valueError "tunneladdress must be CIDR (e.g. 10.99.0.5/32)")
  raiseIf (decide (input.keepalive < 0) || decide (65535 < input.keepalive))
    (valueError "keepalive must be 0..65535 seconds")

def wireguardPeerWriter : LegacyWriter WireguardPeerInput where
  base := "/api/wireguard/client"
  applyPath := "/api/wireguard/service/reconfigure"
  addName := "addClient"
  setName := none
  delName := "delClient"
  searchName := "searchClient"
  kind := "wgpeer"
  rollbackNote := "apply failed → rolled back: "
  validate := WireguardPeerInput.validate
  toPayload := WireguardPeerInput.toPayload
  refusedTarget input := textOr input.name "?"
  failedTarget input := input.name
  createdTarget uuid _ := uuid
  createdDetail _ input := input.name
  updatedDetail _ := []

/-! ## All of them -/

inductive LegacyKind
  | aliases
  | rules
  | nat
  | oneToOne
  | unbound
  | unboundDot
  | unboundDomain
  | dhcpReservation
  | dhcpSubnet
  | wireguardPeer
deriving DecidableEq

namespace LegacyKind

def Input : LegacyKind → Type
  | aliases => AliasInput
  | rules => RuleInput
  | nat => NatInput
  | oneToOne => OneToOneNatInput
  | unbound => UnboundHostInput
  | unboundDot => UnboundDotInput
  | unboundDomain => UnboundDomainInput
  | dhcpReservation => DhcpReservationInput
  | dhcpSubnet => DhcpSubnetInput
  | wireguardPeer => WireguardPeerInput

def writer : (kind : LegacyKind) → LegacyWriter kind.Input
  | aliases => aliasWriter
  | rules => ruleWriter
  | nat => natWriter
  | oneToOne => oneToOneNatWriter
  | unbound => unboundWriter
  | unboundDot => unboundDotWriter
  | unboundDomain => unboundDomainWriter
  | dhcpReservation => dhcpReservationWriter
  | dhcpSubnet => dhcpSubnetWriter
  | wireguardPeer => wireguardPeerWriter

/-- No writer sends an empty payload. -/
theorem payload_truthy (kind : LegacyKind) (input : kind.Input) :
    (kind.writer.toPayload input).truthy = true := by
  cases kind <;> rfl

/-- The list of a writer is not the page of the system information. -/
theorem searchPath_ne_sysinfoPath (kind : LegacyKind) :
    kind.writer.searchPath ≠ HaVerifier.sysinfoPath := by
  have same : kind.writer.searchPath =
      (@LegacyKind.writer Runtime.ascii kind).searchPath := by
    cases kind <;> rfl
  rw [same]
  cases kind <;> decide

end LegacyKind

end

end OpnsensePlugin

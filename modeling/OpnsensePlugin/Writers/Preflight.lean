import OpnsensePlugin.Python.Url
import OpnsensePlugin.Writers.Readback

/-!
# Verified writer: requests and XMLRPC preflight

The writer object, the requests each of its methods makes, and
`_sync_preflight`, which confirms the direction and the scope of XMLRPC
synchronization. The preflight is cut where it makes a request: what it decides
between two requests is a pure function of the answers.
-/

namespace OpnsensePlugin

open Effects Python

structure Host where
  name : Str
  url : Str
deriving DecidableEq

/-- The two clients of a writer: `self.client` and `self.peer`. -/
inductive Role
  | client
  | peer
deriving DecidableEq

inductive HaSyncMode
  | automatic
  | xmlrpcPf
deriving DecidableEq

def HaSyncMode.name : HaSyncMode → Str
  | .automatic => "automatic"
  | .xmlrpcPf => "xmlrpc_pf"

/-- A constructed `VerifiedFirewallWriter`; the constructor checks the attempt bounds. -/
structure VerifiedFirewallWriter where
  client : Host
  peer : Option Host
  resource : Resource
  actor : Str
  haVerifyAttempts : Nat
  haSyncMode : HaSyncMode
  attempts_pos : 1 ≤ haVerifyAttempts
  attempts_le_ten : haVerifyAttempts ≤ 10

/-! One attempt and the default of six are within the bounds. -/

theorem one_le_one_attempt : 1 ≤ 1 := Nat.le_refl 1

theorem one_attempt_le_ten : 1 ≤ 10 := by decide

theorem one_le_six_attempts : 1 ≤ 6 := by decide

theorem six_attempts_le_ten : 6 ≤ 10 := by decide

/-- What a completed preflight returns; the peer must still agree with it later. -/
structure SyncPlan where
  target : Str
  sections : List Str
  identities : List (Str × Str)
deriving DecidableEq

/-! ## Decisions of the preflight -/

section Decisions

variable [Runtime]

def unsafeSync (detail : Str) : Exn := opnsenseError (.unsafeSync detail)

/-- The section of the XMLRPC selection that a resource needs. -/
def requiredSection : Resource → Str
  | .aliases => "aliases"
  | .rules => "rules"
  | .portForward => "nat"

def allowedSections : List Str := ["aliases", "rules", "nat"]

/-- `set(str(local.get("syncitems", "")).split(","))` -/
def selectedSections (hasync : List (Str × Json)) : List Str :=
  splitOn (code ',') (fieldText hasync "syncitems")

/-- The host of an acceptable HTTPS URL: no credentials, path, query or fragment. -/
def urlHost (target : Str) : Option Str := do
  let parsed ← urlsplit target
  if parsed.scheme ≠ "https" || parsed.username.isSome || parsed.password.isSome ||
      !(parsed.path.isEmpty || parsed.path = "/") || !parsed.query.isEmpty ||
      !parsed.fragment.isEmpty then none
  else
    let port ← parsed.port
    if port.any fun port => !(1 ≤ port && port ≤ 65535) then none
    else parsed.hostname

/-- The literal address of an XMLRPC target; `none` is every `ValueError` and `TypeError`. -/
def targetAddress : Json → Option IpAddress
  | .str target => do
      let host ← if contains "://" target then urlHost target else some target
      let address ← ipAddress host
      if address.isLoopback || address.isUnspecified || address.isMulticast then none
      else some address
  -- `"://" in target` or the parsers reject every value that is not text
  | _ => none

/-- `selected(data).get("hasync", {})`, which must be an object -/
def hasyncOf (data : Json) : Except Exn Json :=
  (selected data).getD "hasync" (.obj [])

def unverifiedConfiguration : Exn := unsafeSync "Cannot verify XMLRPC configuration"

/-- The local `hasync` object and the target of the peer, from the `hasync/get` answers. -/
def hasyncPair (localData peerData : Json) : Except Exn (List (Str × Json) × Str) := do
  raiseIf (!localData.isObj || !peerData.isObj) unverifiedConfiguration
  let local_ ← hasyncOf localData
  let peer ← hasyncOf peerData
  match local_, peer with
  | .obj local_, .obj peer =>
      match field peer "synchronizetoip" with
      | some (.str reverse) => .ok (local_, reverse)
      | _ => .error unverifiedConfiguration
  | _, _ => .error unverifiedConfiguration

def checkedTarget (target : Json) : Except Exn (Str × IpAddress) :=
  match target, targetAddress target with
  | .str text, some address => .ok (text, address)
  | _, _ => .error (unsafeSync "XMLRPC target must be a literal peer IP or HTTPS IP URL")

/-- The target, its address and the scope, from the `hasync/get` answers of both nodes. -/
def syncScope (resource : Resource) (localData peerData : Json) :
    Except Exn (Str × List Str × IpAddress) := do
  let (local_, reverse) ← hasyncPair localData peerData
  let sections := selectedSections local_
  raiseIf (requiredSection resource ∉ sections ||
      !sections.all fun name => name ∈ allowedSections)
    (unsafeSync "XMLRPC must select the required section and only aliases, rules and NAT")
  raiseIf (!reverse.isEmpty) (unsafeSync "XMLRPC must be configured in one direction only")
  let (text, address) ← checkedTarget (fieldD local_ "synchronizetoip" (.str []))
  return (text, sortedSet sections, address)

def unverifiedInterfaces : Exn := unsafeSync "Cannot verify XMLRPC peer interfaces"

/-- The address of an interface entry that is not a CARP VIP. -/
def ownAddress : Json → Option IpAddress
  | .obj entry =>
      if (fieldD entry "vhid" .null).truthy then none
      else ipAddressOf (fieldD entry "ipaddr" .null)
  | _ => none

/-- The own addresses of one interface in one address family. -/
def familyAddresses (interface : List (Str × Json)) (family : Str) :
    Except Exn (List IpAddress) :=
  match fieldD interface family (.arr []) with
  | .arr entries => .ok (entries.filterMap ownAddress)
  | _ => .error unverifiedInterfaces

/-- The own addresses of one interface; entries that are not objects are skipped. -/
def interfaceAddresses : Json → Except Exn (List IpAddress)
  | .obj interface => do
      let v4 ← familyAddresses interface "ipv4"
      let v6 ← familyAddresses interface "ipv6"
      return v4 ++ v6
  | _ => .ok []

/-- The set that `addresses(client)` collects from an answer. -/
def addressesOf : Json → Except Exn (List IpAddress)
  | .obj config => do
      let found ← config.mapM fun (_, interface) => interfaceAddresses interface
      return found.flatten
  | _ => .error unverifiedInterfaces

/-- The `(vhid, address)` pairs of a node on which every VIP has the required status. -/
def carpIdentities (status : CarpStatus) (required : Str) : Except Exn (List (Str × Str)) := do
  raiseIf (!status.enabled || status.maintenanceMode || status.vhids.isEmpty ||
      status.vhids.any fun vip => vip.status ≠ required)
    (unsafeSync "XMLRPC requires the selected node to remain MASTER and its peer BACKUP")
  return status.vhids.map fun vip => (vip.vhid, vip.ipaddr)

def pairLe (a b : Str × Str) : Bool :=
  if a.1 = b.1 then strLe a.2 b.2 else strLe a.1 b.1

/-- `left == right` for the sets of the listed items -/
def sameSet {α : Type} [DecidableEq α] (left right : List α) : Bool :=
  left.all (· ∈ right) && right.all (· ∈ left)

/-- The plan, from the CARP snapshots of both nodes. -/
def planOf (target : Str) (sections : List Str) (left right : CarpStatus) :
    Except Exn SyncPlan := do
  let owned ← carpIdentities left "MASTER"
  let standby ← carpIdentities right "BACKUP"
  raiseIf (!sameSet owned standby) (unsafeSync "XMLRPC nodes must own the same CARP VIPs")
  return {
    target
    sections
    identities := owned.dedup.insertionSort fun a b => pairLe a b = true }

end Decisions

namespace VerifiedFirewallWriter

variable [Runtime] {State : Type}

def spec (writer : VerifiedFirewallWriter) : ResourceSpec := writer.resource.spec

/-! ## Requests -/

def searchPath (writer : VerifiedFirewallWriter) : Str :=
  writer.spec.base ++ "/search" ++ writer.spec.suffix

def searchParams : List (Str × Json) := [("rowCount", .int (-1)), ("current", .int 1)]

def detailPath (writer : VerifiedFirewallWriter) (uuid : Str) : Str :=
  writer.spec.base ++ "/get" ++ writer.spec.suffix ++ "/" ++ uuid

def applyPath (writer : VerifiedFirewallWriter) : Str :=
  writer.spec.base ++ "/" ++ writer.spec.applyName

def deletePath (writer : VerifiedFirewallWriter) (uuid : Str) : Str :=
  writer.spec.base ++ "/del" ++ writer.spec.suffix ++ "/" ++ uuid

def hasyncPath : Str := "/api/core/hasync/get"

def interfacesPath : Str := "/api/diagnostics/interface/getInterfaceConfig"

def restartPath : Str := "/api/core/hasync_status/restart/pf"

/-- `search` -/
def search (writer : VerifiedFirewallWriter) (role : Role) : Py Role State (List Row) := do
  let out ← clientGet role writer.searchPath searchParams
  Action.ofExcept (searchRows writer.resource out)

/-- `get` -/
def get (writer : VerifiedFirewallWriter) (uuid : Str) (role : Role) : Py Role State Json := do
  let out ← clientGet role (writer.detailPath uuid)
  Action.ofExcept (detailOf writer.resource out)

/-- `verify`; `none` asks for absence. -/
def verify (writer : VerifiedFirewallWriter) (uuid : Str) (expected : Option Json)
    (role : Role) : Py Role State Bool :=
  match expected with
  | none => do
      let rows ← writer.search role
      return isAbsent uuid rows
  | some payload => do
      let detail ← writer.get uuid role
      Action.ofExcept (matchesPayload detail payload)

/-- `_dnat_ids` -/
def dnatIds (writer : VerifiedFirewallWriter) (role : Role) : Py Role State (List Str) := do
  let rows ← writer.search role
  Action.ofExcept (dnatUuids rows)

/-- A POST whose answer must acknowledge success. -/
def acknowledged (role : Role) (path : Str) (payload : Json) (operation : Str) :
    Py Role State (List (Str × Json)) := do
  let response ← clientPost role path payload
  Action.ofExcept (requireSuccess operation response)

/-- `_apply` -/
def apply (writer : VerifiedFirewallWriter) : Py Role State Unit := do
  let _ ← acknowledged .client writer.applyPath (.obj []) "apply"

/-- `addresses(client)` -/
def addresses (role : Role) : Py Role State (List IpAddress) := do
  let config ← clientGet role interfacesPath
  Action.ofExcept (addressesOf config)

/-- Whether the target is an address of the peer and none of the local node. -/
def isExclusive (address : IpAddress) : Py Role State Bool := do
  let peer ← addresses .peer
  if address ∈ peer then
    let local_ ← addresses .client
    return !(address ∈ local_ : Bool)
  else return false

/-- The preflight of a writer with a peer in `xmlrpc_pf` mode. -/
def xmlrpcPreflight (writer : VerifiedFirewallWriter) : Py Role State SyncPlan := do
  let localData ← clientGet .client hasyncPath
  let peerData ← clientGet .peer hasyncPath
  let (target, sections, address) ←
    Action.ofExcept (syncScope writer.resource localData peerData)
  let exclusive ← isExclusive address
  Action.raiseIf (!exclusive)
    (unsafeSync "XMLRPC target is not an exclusive address of the configured peer")
  let left ← collectCarpStatus .client
  let right ← collectCarpStatus .peer
  Action.ofExcept (planOf target sections left right)

/-- `_sync_preflight` -/
def syncPreflight (writer : VerifiedFirewallWriter) : Py Role State (Option SyncPlan) :=
  if writer.peer.isNone || writer.haSyncMode ≠ .xmlrpcPf then return none
  else do
    let plan ← writer.xmlrpcPreflight
    return some plan

end VerifiedFirewallWriter

end OpnsensePlugin

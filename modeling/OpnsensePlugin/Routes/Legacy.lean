import OpnsensePlugin.Target
import OpnsensePlugin.Writers.LegacyRuns

/-!
# Legacy write routes

The eight legacy pages accept `create` and `delete`. Their builders differ in
the writer and in how they read the object to create; all of them refuse
read-only configurations and unknown actions before they make a client.
-/

namespace OpnsensePlugin

open Effects Python

section

variable [Runtime]

/-- `OPNsenseClient._url`: where a request to `path` goes. Nothing is sent without a URL. -/
def clientUrl (host : Host) (path : Str) : Option Str :=
  urljoin host.url (if path.head? = some (code '/') then path else code '/' :: path)

/-- `except ValueError` -/
def isValueError : Exn → Bool
  | .builtin .valueError _ | .builtin .unicodeEncodeError _ => true
  | _ => false

abbrev Response := Nat × Json

def refusal (status : Nat) (error detail : Str) : Response :=
  (status, .obj [("ok", .bool false), ("error", .str error), ("detail", .str detail)])

/-- The handlers of `OPNsenseAuthError`, `OPNsenseTimeoutError` and `OPNsenseError` -/
def upstreamRefusal : Exn → Response
  | .custom (.opnsense (.auth detail)) => refusal 401 "auth" detail
  | .custom (.opnsense (.timeout detail)) => refusal 504 "timeout" detail
  | error => refusal 502 "upstream" (excText error)

/-- `str(given.get(key, default))` -/
def textIn (given : Json) (key default : Str) : Except Exn Str := do
  let value ← given.getD key (.str default)
  return value.text

/-- `bool(given.get(key, default))` -/
def flagIn (given : Json) (key : Str) (default : Bool) : Except Exn Bool := do
  let value ← given.getD key (.bool default)
  return value.truthy

/-- A page: its writer, the key of the object to create, and how that object is read -/
structure LegacyRoute (Input : Type) where
  writer : LegacyWriter Input
  inputKey : Str
  parse : Json → Except Exn Input

namespace LegacyRoute

variable {Input State : Type}

/-- The branch of `create` -/
def create (route : LegacyRoute Input) (context : LegacyContext) (body : List (Str × Json)) :
    Py Party State (Except Response LegacyResult) := do
  let given := fieldD body route.inputKey .null
  let parsed ← Action.attempt Raised.isValueOrType
    (Action.ofExcept (route.parse (if given.truthy then given else .obj [])))
  match parsed with
  | .error error => return .error (refusal 400 "bad_request" (excText error))
  | .ok input => do
      let created ← Action.attempt isValueError (route.writer.create context input)
      return created.mapError fun error => refusal 400 "validation" (excText error)

/-- The branch of `delete` -/
def delete (route : LegacyRoute Input) (context : LegacyContext) (body : List (Str × Json)) :
    Py Party State (Except Response LegacyResult) := do
  let uuid := fieldText body "uuid"
  if uuid.isEmpty then return .error (refusal 400 "bad_request" "uuid is required")
  else do
    let result ← route.writer.delete context uuid
    return .ok result

def response (action : Str) (result : LegacyResult) : Response :=
  if !result.ok then refusal 502 "upstream" (textOr result.detail "write failed")
  else (200, .obj [("ok", .bool true),
    ("data", .obj [("uuid", .str result.uuid), ("action", .str action)])])

def conclude (action : Str) : Except Exn (Except Response LegacyResult) → Response
  | .error error => upstreamRefusal error
  | .ok (.error early) => early
  | .ok (.ok result) => response action result

/-- `str(body.get("action", "")).lower()` -/
def actionOf (body : List (Str × Json)) : Str := Runtime.lower (fieldText body "action")

/-- The writers of the pages have no `HAVerifier`. -/
def contextOf (host : Host) (actor : Str) : LegacyContext :=
  { actor, hostName := host.name, ha := none }

/-- `build_…_action_payload` -/
def actionPayload (route : LegacyRoute Input) (host : Host) (body : List (Str × Json))
    (actor : Str) (readOnly : Bool) : Py Party State Response :=
  if readOnly then return refusal 403 "read_only" "plugin config has read_only=true"
  else if actionOf body ∉ (["create", "delete"] : List Str) then
    return refusal 400 "bad_request" "action must be create|delete"
  else do
    Action.ofExcept (requireHttps host)
    let outcome ← Action.attempt isOpnsense
      (if actionOf body = "create" then route.create (contextOf host actor) body
        else route.delete (contextOf host actor) body)
    return conclude (actionOf body) outcome

end LegacyRoute

/-! ## The pages -/

def natRoute : LegacyRoute NatInput where
  writer := natWriter
  inputKey := "rule"
  parse rule := do
    let interface ← textIn rule "interface" ""
    let target ← textIn rule "target" ""
    let sourceNet ← textIn rule "source_net" "any"
    let destinationNet ← textIn rule "destination_net" "any"
    let description ← textIn rule "description" ""
    let enabled ← flagIn rule "enabled" true
    let ipprotocol ← textIn rule "ipprotocol" "inet"
    let protocol ← textIn rule "protocol" "any"
    return { interface, target, description, enabled, ipprotocol, protocol
             sourceNet := textOr sourceNet "any"
             destinationNet := textOr destinationNet "any" }

def oneToOneRoute : LegacyRoute OneToOneNatInput where
  writer := oneToOneNatWriter
  inputKey := "rule"
  parse rule := do
    let interface ← textIn rule "interface" ""
    let external ← textIn rule "external" ""
    let sourceNet ← textIn rule "source_net" ""
    let destinationNet ← textIn rule "destination_net" "any"
    let description ← textIn rule "description" ""
    let enabled ← flagIn rule "enabled" true
    let type ← textIn rule "type" "binat"
    let log ← flagIn rule "log" false
    let sequence ← textIn rule "sequence" "100"
    return { interface, external, sourceNet, description, enabled, type, log, sequence
             destinationNet := textOr destinationNet "any" }

def unboundRoute : LegacyRoute UnboundHostInput where
  writer := unboundWriter
  inputKey := "host"
  parse h := do
    let hostname ← textIn h "hostname" ""
    let domain ← textIn h "domain" ""
    let server ← textIn h "server" ""
    let rr ← textIn h "rr" "A"
    let description ← textIn h "description" ""
    let enabled ← flagIn h "enabled" true
    return { hostname, domain, server, rr, description, enabled }

def unboundDomainRoute : LegacyRoute UnboundDomainInput where
  writer := unboundDomainWriter
  inputKey := "domain"
  parse d := do
    let domain ← textIn d "domain" ""
    let server ← textIn d "server" ""
    let description ← textIn d "description" ""
    let enabled ← flagIn d "enabled" true
    return { domain, server, description, enabled }

def unboundDotRoute : LegacyRoute UnboundDotInput where
  writer := unboundDotWriter
  inputKey := "dot"
  parse d := do
    let domain ← textIn d "domain" ""
    let server ← textIn d "server" ""
    let verify ← textIn d "verify" ""
    let port ← textIn d "port" "853"
    let description ← textIn d "description" ""
    let enabled ← flagIn d "enabled" true
    let forwardTcpUpstream ← flagIn d "forward_tcp_upstream" false
    let forwardFirst ← flagIn d "forward_first" false
    return { domain, server, verify, description, enabled, forwardTcpUpstream, forwardFirst
             port := textOr port "853" }

def dhcpRoute : LegacyRoute DhcpReservationInput where
  writer := dhcpReservationWriter
  inputKey := "reservation"
  parse r := do
    let subnet ← textIn r "subnet" ""
    let ipAddress ← textIn r "ip_address" ""
    let hwAddress ← textIn r "hw_address" ""
    let hostname ← textIn r "hostname" ""
    let description ← textIn r "description" ""
    return { subnet, ipAddress, hwAddress, hostname, description }

def dhcpSubnetRoute : LegacyRoute DhcpSubnetInput where
  writer := dhcpSubnetWriter
  inputKey := "subnet"
  parse s := do
    let subnet ← textIn s "subnet" ""
    let description ← textIn s "description" ""
    let pools ← textIn s "pools" ""
    let nextServer ← textIn s "next_server" ""
    let matchClientId ← flagIn s "match_client_id" true
    return { subnet, description, pools, nextServer, matchClientId }

def wgRoute : LegacyRoute WireguardPeerInput where
  writer := wireguardPeerWriter
  inputKey := "peer"
  parse p := do
    let name ← textIn p "name" ""
    let pubkey ← textIn p "pubkey" ""
    let tunneladdress ← textIn p "tunneladdress" ""
    let given ← p.getD "keepalive" (.int 25)
    let keepalive ← (if given.truthy then given else .int 25).toInt
    let psk ← textIn p "psk" ""
    let enabled ← flagIn p "enabled" true
    return { name, pubkey, tunneladdress, keepalive, psk, enabled }

inductive LegacyPage
  | nat
  | oneToOne
  | unbound
  | unboundDomains
  | unboundDots
  | dhcp
  | dhcpSubnet
  | wg
deriving DecidableEq

namespace LegacyPage

def kind : LegacyPage → LegacyKind
  | nat => .nat
  | oneToOne => .oneToOne
  | unbound => .unbound
  | unboundDomains => .unboundDomain
  | unboundDots => .unboundDot
  | dhcp => .dhcpReservation
  | dhcpSubnet => .dhcpSubnet
  | wg => .wireguardPeer

def route : (page : LegacyPage) → LegacyRoute page.kind.Input
  | nat => natRoute
  | oneToOne => oneToOneRoute
  | unbound => unboundRoute
  | unboundDomains => unboundDomainRoute
  | unboundDots => unboundDotRoute
  | dhcp => dhcpRoute
  | dhcpSubnet => dhcpSubnetRoute
  | wg => wgRoute

/-- Every page writes with the writer of its kind. -/
theorem route_writer (page : LegacyPage) : page.route.writer = page.kind.writer := by
  cases page <;> rfl

end LegacyPage

end

end OpnsensePlugin

import OpnsensePlugin.Collectors
import OpnsensePlugin.Routes.Legacy

/-!
# Lists of the legacy pages

The builders of the lists search their table and show its rows as they come. Domain
overrides and DNS-over-TLS entries share a table, and the search of WireGuard peers
needs a POST on some builds.
-/

namespace OpnsensePlugin

open Effects Python

namespace LegacyPage

variable [Runtime]

/-- `out.get("rows", []) if isinstance(out, dict) else []` -/
def rowsOf (out : Json) : Json := memberOf out "rows" (.arr [])

/-- `[r for r in rows if str(r.get("type", default)).lower() == kind]` -/
def rowsOfKind (default kind : Str) (rows : Json) : Except Exn Json := do
  let items ← itemsOf rows
  let kept ← items.filterM fun row => do
    let text ← textIn row "type" default
    return decide (Runtime.lower text = kind)
  return .arr kept

/-- The data of a list under its key, with what else is shown -/
def listed (key : Str) (rows : Json) (others : List (Str × Json) := []) : Except Exn Response := do
  let count ← hostCount rows
  return (200, .obj [("ok", .bool true),
    ("data", .obj ((key, rows) :: (others ++ ([("total", .int count)] : List (Str × Json)))))])

def searchPath : LegacyPage → Str
  | nat => "/api/firewall/source_nat/searchRule"
  | oneToOne => "/api/firewall/one_to_one/searchRule"
  | unbound => "/api/unbound/settings/searchHostOverride"
  | unboundDomains | unboundDots => "/api/unbound/settings/searchForward"
  | dhcp => "/api/kea/dhcpv4/searchReservation"
  | dhcpSubnet => "/api/kea/dhcpv4/searchSubnet"
  | wg => "/api/wireguard/client/searchClient"

def listKey : LegacyPage → Str
  | nat | oneToOne => "rules"
  | unbound => "hosts"
  | unboundDomains => "domains"
  | unboundDots => "dots"
  | dhcp => "reservations"
  | dhcpSubnet => "subnets"
  | wg => "peers"

variable {State : Type}

/-- The search of a page; only that of the peers is repeated as a POST. -/
def search (page : LegacyPage) : Py Party State Json :=
  match page with
  | .wg => do
      let answered ← Action.attempt isOpnsense (clientGet .client page.searchPath)
      match answered with
      | .ok out => return out
      | .error _ => clientPost .client page.searchPath (.obj [])
  | _ => clientGet .client page.searchPath

/-- What a list shows of the answer to its search -/
def shownRows (page : LegacyPage) (out : Json) : Except Exn Json :=
  match page with
  | .unboundDomains => rowsOfKind "forward" "forward" (rowsOf out)
  | .unboundDots => rowsOfKind [] "dot" (rowsOf out)
  | _ => .ok (rowsOf out)

/-- The subnets that the list of reservations offers as well -/
def subnets (page : LegacyPage) : Py Party State (List (Str × Json)) :=
  match page with
  | .dhcp => do
      let out ← clientGet .client LegacyPage.dhcpSubnet.searchPath
      return [("subnets", rowsOf out)]
  | _ => return []

/-- The `try` statement of `build_…_list_payload` -/
def attemptList (page : LegacyPage) : Py Party State Response := do
  let out ← page.search
  let others ← page.subnets
  Action.ofExcept (do
    let rows ← page.shownRows out
    listed page.listKey rows others)

/-- `build_…_list_payload` -/
def listPayload (page : LegacyPage) (host : Host) : Py Party State Response := do
  Action.ofExcept (requireHttps host)
  let outcome ← Action.attempt isOpnsense page.attemptList
  match outcome with
  | .ok response => return response
  | .error error => return upstreamRefusal error

end LegacyPage

end OpnsensePlugin

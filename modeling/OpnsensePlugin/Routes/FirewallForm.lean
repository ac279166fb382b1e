import OpnsensePlugin.Writers.LegacyKinds

/-!
# Firewall forms

`parse_payload` turns the flat form of a port forward, a rule or an alias into
the payload of OPNsense, and `normalize` turns an object that OPNsense returns
back into a form.
-/

namespace OpnsensePlugin

open Python

structure PortForwardInput where
  interface : Str
  target : Str
  destinationPort : Str
  targetPort : Str
  sourceNet : Str
  sourcePort : Str
  destinationNet : Str
  description : Str
  enabled : Bool
  log : Bool
  ipprotocol : Str
  protocol : Str
  sequence : Int
  filterAssociation : Str
  natreflection : Str

namespace FirewallForm

variable [Runtime]

/-- `PortForwardInput.to_payload` -/
def portForwardPayload (input : PortForwardInput) : Json :=
  .obj [("rule", .obj [
    ("interface", .str input.interface),
    ("target", .str input.target),
    ("source", .obj [("network", .str input.sourceNet), ("port", .str input.sourcePort)]),
    ("destination", .obj [("network", .str input.destinationNet),
      ("port", .str input.destinationPort)]),
    ("local-port", .str input.targetPort),
    ("descr", .str input.description),
    ("disabled", flagText (!input.enabled)),
    ("log", flagText input.log),
    ("ipprotocol", .str input.ipprotocol),
    ("protocol", .str (if Runtime.lower input.protocol = "tcp/udp" then "TCP/UDP"
      else input.protocol)),
    ("sequence", .str (intText input.sequence)),
    ("pass", .str input.filterAssociation),
    ("natreflection", .str input.natreflection)])]

/-! ## Values of a form -/

/-- `_bool` -/
def formBool (data : List (Str × Json)) (key : Str) (default : Bool) : Except Exn Bool :=
  match fieldD data key (.bool default) with
  | .bool value => return value
  | _ => .error (.builtin .typeError (key ++ " must be a JSON boolean"))

def lengthLimit (key : Str) : Nat := if key = "content" then 65536 else 2048

/-- `_str` -/
def formText (data : List (Str × Json)) (key default : Str) (required : Bool) :
    Except Exn Str := do
  let unsupported := valueError (key ++ " must be a string within the supported length")
  match fieldD data key (.str default) with
  | .str value => do
      raiseIf (lengthLimit key < value.length) unsupported
      raiseIf (0 ∈ value || (required && (strip value).isEmpty))
        (valueError (key ++ " is required or invalid"))
      return strip value
  | _ => .error unsupported

/-- `_enum` -/
def checkChoice (value name : Str) (choices : List Str) : Except Exn Str :=
  if value ∈ choices then return value
  else .error (valueError (name ++ " must be one of " ++ join ", " choices))

/-- `_enum(_str(data, key, default), key, choices)` -/
def formChoice (data : List (Str × Json)) (key default : Str) (choices : List Str) :
    Except Exn Str := do
  let value ← formText data key default false
  checkChoice value key choices

/-- `re.split(r"[:-]", value)` -/
def portParts (value : Str) : List Str :=
  splitOn (code '-') (value.map fun c => if c = code ':' then code '-' else c)

/-- `re.fullmatch(r"\d+(?:[:-]\d+)?", value)` -/
def isPortRange (value : Str) : Bool :=
  (portParts value).length ≤ 2 && (portParts value).all isDecimal

/-- `re.fullmatch(r"[A-Za-z_][A-Za-z0-9_-]*", value)` -/
def isPortAlias (value : Str) : Bool :=
  value.head?.any (fun c => isAsciiAlpha c || c = code '_') &&
    value.all fun c => isAsciiAlnum c || c = code '_' || c = code '-'

/-- The numbers of a port or a range are ports, a range ascends and is allowed. -/
def badPorts (ports : List Int) (allowRange : Bool) : Bool :=
  (ports.any fun port => port < 1 || 65535 < port) ||
    match ports with
    | low :: high :: _ => !allowRange || high < low
    | _ => false

/-- The check of a port that is neither blank nor `any` -/
def checkPort (key value : Str) (allowRange : Bool) : Except Exn Unit :=
  if isPortRange value then do
    let ports ← (portParts value).mapM fun part => (Json.str part).toInt
    raiseIf (badPorts ports allowRange)
      (valueError (key ++ " must be a valid port or ascending range"))
  else raiseIf (!isPortAlias value) (valueError (key ++ " must be a port, alias or range"))

/-- `_port` -/
def formPort (data : List (Str × Json)) (key : Str) (required allowRange : Bool) :
    Except Exn Str := do
  let written ← formText data key [] required
  let value : Str := if Runtime.lower written = "any" then [] else written
  raiseIf (required && value.isEmpty) (valueError (key ++ " is required"))
  if value.isEmpty then return value
  else do
    checkPort key value allowRange
    return value

def badSequence : Exn := valueError "sequence must be an integer between 1 and 999999"

/-- `int(sequence)` of a text of digits; other values stay as they are. -/
def readSequence (value : Json) : Except Exn Json :=
  match value with
  | .str text =>
      if isDigit text then do
        let number ← value.toInt
        return .int number
      else return value
  | value => return value

/-- The `sequence` of a form -/
def formSequence (data : List (Str × Json)) : Except Exn Int := do
  match ← readSequence (fieldD data "sequence" (.int 1)) with
  | .int number => do
      raiseIf (!(1 ≤ number && number ≤ 999999)) badSequence
      return number
  | _ => .error badSequence

/-! ## `parse_payload` -/

def ipprotocols : List Str := ["inet", "inet6", "inet46"]

def protocols : List Str := ["tcp", "udp", "tcp/udp", "any", "icmp", "icmp6", "esp", "gre"]

def forwardedProtocols : List Str := ["tcp", "udp", "tcp/udp"]

/-- `_enum(_str(data, "protocol", …).lower(), "protocol", …)` -/
def formProtocol (data : List (Str × Json)) (default : Str) : Except Exn Str := do
  let value ← formText data "protocol" default false
  checkChoice (Runtime.lower value) "protocol" protocols

/-- The dictionary `common` of `parse_payload` -/
structure CommonInput where
  interface : Str
  ipprotocol : Str
  protocol : Str
  sourceNet : Str
  sourcePort : Str
  destinationNet : Str
  destinationPort : Str
  description : Str
  enabled : Bool
  sequence : Int

/-- The defaults and the requirement that differ between port forwards and rules -/
structure CommonForm where
  protocol : Str
  destinationNet : Str
  destinationPort : Bool

def portForwardForm : CommonForm := ⟨"tcp", "wanip", true⟩

def ruleForm : CommonForm := ⟨"any", "any", false⟩

def parseCommon (form : CommonForm) (data : List (Str × Json)) : Except Exn CommonInput := do
  let sequence ← formSequence data
  let interface ← formText data "interface" [] true
  let ipprotocol ← formChoice data "ipprotocol" "inet" ipprotocols
  let protocol ← formProtocol data form.protocol
  let sourceNet ← formText data "source_net" "any" true
  let sourcePort ← formPort data "source_port" false true
  let destinationNet ← formText data "destination_net" form.destinationNet true
  let destinationPort ← formPort data "destination_port" form.destinationPort true
  let description ← formText data "description" [] false
  let enabled ← formBool data "enabled" false
  return { interface, ipprotocol, protocol, sourceNet, sourcePort, destinationNet,
           destinationPort, description, enabled, sequence }

def aliasTypes : List Str := ["host", "network", "port", "url", "urltable", "geoip", "external"]

/-- `re.fullmatch(r"[A-Za-z_][A-Za-z0-9_]{0,254}", name)` -/
def isAliasName (name : Str) : Bool :=
  name.head?.any (fun c => isAsciiAlpha c || c = code '_') && name.length ≤ 255 &&
    name.all fun c => isAsciiAlnum c || c = code '_'

def parseAlias (data : List (Str × Json)) : Except Exn AliasInput := do
  let name ← formText data "name" [] true
  raiseIf (!isAliasName name) (valueError "name must be an identifier without spaces")
  let type ← formChoice data "type" "host" aliasTypes
  let content ← formText data "content" [] (type ≠ "external")
  let description ← formText data "description" [] false
  let enabled ← formBool data "enabled" true
  let proto ← formText data "proto" [] false
  return { name, type, content, description, enabled, proto }

/-- `{**data, "target_port": data["local_port"]}` where only the second is given -/
def withTargetPort (data : List (Str × Json)) : List (Str × Json) :=
  match field data "target_port", field data "local_port" with
  | none, some port => setField "target_port" port data
  | _, _ => data

def parsePortForward (data : List (Str × Json)) : Except Exn PortForwardInput := do
  let common ← parseCommon portForwardForm data
  let _ ← checkChoice common.protocol "protocol" forwardedProtocols
  let data := withTargetPort data
  let target ← formText data "target" [] true
  let targetPort ← formPort data "target_port" true false
  let log ← formBool data "log" false
  let filterAssociation ← formChoice data "filter_association" [] [[], "pass", "rule"]
  let natreflection ← formChoice data "natreflection" [] [[], "purenat", "disable"]
  return { common with target, targetPort, log, filterAssociation, natreflection }

/-- The arguments of `RuleInput` and the two flags that `parse_payload` adds to its payload -/
structure RuleForm where
  input : RuleInput
  log : Bool
  quick : Bool

def parseRule (data : List (Str × Json)) : Except Exn RuleForm := do
  let common ← parseCommon ruleForm data
  let action ← formChoice data "action" "pass" ["pass", "block", "reject"]
  let direction ← formChoice data "direction" "in" ["in", "out", "any"]
  let log ← formBool data "log" false
  let quick ← formBool data "quick" true
  return { input := { common with action, direction }, log, quick }

/-- `fields.update(entries)` -/
def updateFields (entries fields : List (Str × Json)) : List (Str × Json) :=
  entries.foldl (fun fields (name, value) => setField name value fields) fields

/-- `payload["rule"].update(entries)` -/
def updateRule (entries : List (Str × Json)) : Json → Json
  | .obj [(key, .obj fields)] => .obj [(key, .obj (updateFields entries fields))]
  | payload => payload

def RuleForm.payload (form : RuleForm) : Json :=
  let flagged := updateRule [("log", flagText form.log), ("quick", flagText form.quick)]
    form.input.toPayload
  if form.input.protocol = "tcp/udp" then updateRule [("protocol", .str "TCP/UDP")] flagged
  else flagged

/-- `parse_payload` -/
def parsePayload (resource : Resource) : Json → Except Exn Json
  | .obj data =>
      match resource with
      | .portForward => do
          let input ← parsePortForward data
          return portForwardPayload input
      | .rules => do
          let form ← parseRule data
          return form.payload
      | .aliases => do
          let input ← parseAlias data
          return input.toPayload
  | _ => .error (.builtin .typeError "rule/alias must be a JSON object")

/-! ## `normalize` -/

/-- The keys that `normalize` copies -/
def copiedNames : Resource → List Str
  | .aliases => ["uuid", "name", "type", "content", "description", "proto"]
  | _ => ["uuid", "interface", "ipprotocol", "protocol", "sequence", "source_net", "source_port",
      "destination_net", "destination_port", "description", "action", "direction", "target",
      "natreflection"]

def copied (resource : Resource) (row : List (Str × Json)) : List (Str × Json) :=
  (copiedNames resource).filterMap fun name => (field row name).map (name, ·)

/-- A part of `source` or `destination`, flat, nested or under the name of the form -/
def endpointValue (row : List (Str × Json)) (group suffix key : Str) : Json :=
  let flat := fieldD row (group ++ "_" ++ key) (.str [])
  let nested : Json := match fieldD row group (.obj []) with
    | .obj nested => fieldD nested suffix flat
    | _ => flat
  fieldD row (group ++ "." ++ suffix) nested

/-- `str(row.get(key, default)) == "1"` -/
def isFlagged (row : List (Str × Json)) (key default : Str) : Bool :=
  (fieldD row key (.str default)).text = "1"

/-- The keys of a port forward that have other names in a form -/
def portForwardEntries (row : List (Str × Json)) : List (Str × Json) :=
  [("source_net", endpointValue row "source" "network" "net"),
    ("source_port", endpointValue row "source" "port" "port"),
    ("destination_net", endpointValue row "destination" "network" "net"),
    ("destination_port", endpointValue row "destination" "port" "port"),
    ("target_port", fieldD row "local-port" (fieldD row "target_port" (.str []))),
    ("description", fieldD row "descr" (fieldD row "description" (.str []))),
    ("enabled", .bool (!isFlagged row "disabled" "0")),
    ("filter_association", fieldD row "pass" (.str []))]

def enabledEntries (row : List (Str × Json)) : List (Str × Json) :=
  [("enabled", .bool (isFlagged row "enabled" "1"))]

/-- The keys that port forwards and rules have in common -/
def ruleEntries (row : List (Str × Json)) : List (Str × Json) :=
  [("log", .bool (isFlagged row "log" "0")),
    ("protocol", .str (Runtime.lower (fieldD row "protocol" (.str "any")).text)),
    ("quick", .bool (isFlagged row "quick" "1"))]

/-- `text.replace(",", "\n")` -/
def commasToLines (text : Str) : Str := text.map fun c => if c = code ',' then code '\n' else c

/-- The content of an alias, where it is a text -/
def contentEntries (row : List (Str × Json)) : List (Str × Json) :=
  match field row "content" with
  | some (.str content) => [("content", .str (commasToLines content))]
  | _ => []

def normalizeRow (resource : Resource) (row : List (Str × Json)) : List (Str × Json) :=
  match resource with
  | .portForward =>
      updateFields (portForwardEntries row ++ ruleEntries row) (copied resource row)
  | .rules => updateFields (enabledEntries row ++ ruleEntries row) (copied resource row)
  | .aliases => updateFields (enabledEntries row ++ contentEntries row) (copied resource row)

/-- `normalize` -/
def normalize (resource : Resource) (row : Json) : Except Exn (List (Str × Json)) :=
  match selected row with
  | .obj row => return normalizeRow resource row
  | .str text =>
      if (copiedNames resource).any fun name => contains name text then
        .error (.builtin .typeError "string indices must be integers")
      else .error (attributeError "get")
  | _ => .error (attributeError "get")

end FirewallForm

end OpnsensePlugin

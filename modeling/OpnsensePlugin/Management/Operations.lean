import OpnsensePlugin.Management.Engine
import OpnsensePlugin.Python.IpAddress

/-!
# Operations

`execute_operation`: one request of an allowlisted operation, the checks of its
answer, and for some operations a readback of the service status. Whether the
request was sent is the state of the code in the `try` statement.
-/

namespace OpnsensePlugin

open Effects Python

/-! ## The allowlist -/

inductive Method
  | get
  | post
deriving DecidableEq

/-- `kind` of a field of an operation, with the data of its check -/
inductive ValueKind
  | integer (min max : Int)
  | uuid
  | ip
  | hostname
  | identifier
  | select (options : List Str)

structure OperationField where
  name : Str
  kind : ValueKind
  required : Bool := false
  default : Json := .null

structure StatusCheck where
  path : Str
  expected : List Str

structure Acknowledgement where
  key : Str
  values : List Str

/-- An entry of `OPERATIONS`; `mutating` is the argument `mutation` of `_register`. -/
structure OperationSpec where
  id : Str
  method : Method
  path : Str
  fields : List OperationField := []
  verify : Option StatusCheck := none
  ack : Option Acknowledgement := none
  bodyKey : Option Str := none
  segment : Option Str := none
  mutating : Option Bool := none

def OperationSpec.mutation (spec : OperationSpec) : Bool :=
  spec.mutating.getD (spec.method = .post)

def services : List Str :=
  ["wireguard", "ids", "monit", "dnsmasq", "syslog", "ipsec", "captiveportal"]

def serviceActions : List Str := ["start", "stop", "restart", "reconfigure"]

/-- The status of a service and its four actions; a reconfiguration is not read back. -/
def serviceOperations (service : Str) : List OperationSpec :=
  let base : Str := "/api/" ++ service ++ "/service/"
  { id := service ++ "_status", method := .get, path := base ++ "status" } ::
    serviceActions.map fun action =>
      let reconfigures : Bool := action = ("reconfigure" : Str)
      { id := service ++ "_" ++ action
        method := .post
        path := base ++ action
        verify := if reconfigures then none
          else some ⟨base ++ "status", if action = ("stop" : Str) then ["stopped", "disabled"]
            else ["running"]⟩
        ack := some ⟨if !reconfigures then "response"
          else if service = ("wireguard" : Str) then "result" else "status", ["ok"]⟩ }

def firmwareOperations : List OperationSpec :=
  ((["status", "info", "upgradestatus"] : List Str).map fun action =>
    { id := "firmware_" ++ action, method := .get, path := "/api/core/firmware/" ++ action }) ++
  (["check", "audit", "update", "upgrade", "reboot", "poweroff"] : List Str).map fun action =>
    { id := "firmware_" ++ action, method := .post, path := "/api/core/firmware/" ++ action,
      ack := some ⟨"status", ["ok"]⟩ }

def diagnosticReads : List OperationSpec :=
  ([("activity", "/api/diagnostics/activity/getActivity"),
    ("arp", "/api/diagnostics/interface/searchArp"),
    ("ndp", "/api/diagnostics/interface/searchNdp"),
    ("routes", "/api/diagnostics/interface/getRoutes"),
    ("ipsec_sad", "/api/ipsec/sad/search"),
    ("ipsec_spd", "/api/ipsec/spd/search"),
    ("ipsec_leases", "/api/ipsec/leases/search"),
    ("ipsec_sessions", "/api/ipsec/sessions/searchPhase1"),
    ("ping_jobs", "/api/diagnostics/ping/searchJobs")] : List (Str × Str)).map
      fun (id, path) => { id, method := .get, path }

/-- `_HOST` -/
def hostField : OperationField := { name := "hostname", kind := .hostname, required := true }

/-- `_SOURCE` -/
def sourceField : OperationField := { name := "source_address", kind := .ip }

def diagnosticOperations : List OperationSpec :=
  [{ id := "states", method := .post, path := "/api/diagnostics/firewall/queryStates",
     mutating := some false,
     fields := [{ name := "rowCount", kind := .integer 1 200, default := .int 50 },
       { name := "current", kind := .integer 1 100000, default := .int 1 }] },
   { id := "reverse_dns", method := .get, path := "/api/diagnostics/dns/reverseLookup",
     fields := [{ name := "address", kind := .ip, required := true }] },
   { id := "traceroute", method := .post, path := "/api/diagnostics/traceroute/set",
     fields := [hostField, sourceField,
       { name := "ipproto", kind := .select ["inet", "inet6"], default := .str "inet" },
       { name := "protocol", kind := .select ["udp", "icmp"], default := .str "udp" }],
     bodyKey := some "traceroute.settings", ack := some ⟨"result", ["ok"]⟩ },
   { id := "ping_create", method := .post, path := "/api/diagnostics/ping/set",
     fields := [hostField, sourceField,
       { name := "fam", kind := .select ["ip", "ip6"], default := .str "ip" },
       { name := "packetsize", kind := .integer 1 65535 },
       { name := "interval", kind := .integer 1 120 }],
     bodyKey := some "ping.settings", ack := some ⟨"result", ["ok"]⟩ }] ++
  ((["start", "stop", "remove"] : List Str).map fun action =>
    { id := "ping_" ++ action, method := .post, path := "/api/diagnostics/ping/" ++ action,
      fields := [{ name := "jobid", kind := .uuid, required := true }],
      segment := some "jobid", ack := some ⟨"status", ["ok"]⟩ }) ++
  (["connect", "disconnect"] : List Str).map fun action =>
    { id := "ipsec_" ++ action, method := .post, path := "/api/ipsec/sessions/" ++ action,
      fields := [{ name := "id", kind := .identifier, required := true }],
      segment := some "id", ack := some ⟨"result", ["ok"]⟩ }

/-- `OPERATIONS` -/
def operations : List OperationSpec :=
  services.flatMap serviceOperations ++ firmwareOperations ++ diagnosticReads ++
    diagnosticOperations

example : (operations.map OperationSpec.id).Nodup := by decide +kernel

namespace Management

/-! ## Values -/

variable [Runtime]

/-- `re.fullmatch(r'(?=.{1,253}\.?$)[A-Za-z0-9](?:[A-Za-z0-9.-]*[A-Za-z0-9])?\.?', value)` of a
text of at most 253 characters -/
def isHostname (value : Str) : Bool :=
  let body := if value.getLast? = some (code '.') then value.dropLast else value
  value.all (fun c => isAsciiAlnum c || c = code '.' || c = code '-') &&
    body.head?.any isAsciiAlnum && body.getLast?.any isAsciiAlnum

/-- `re.fullmatch(r'[A-Za-z0-9][A-Za-z0-9_.:-]{0,127}', value)` -/
def isIdentifier (value : Str) : Bool :=
  value.head?.any isAsciiAlnum && value.length ≤ 128 &&
    value.all fun c => isAsciiAlnum c || c ∈ ("_.:-" : Str)

def checkText (kind : ValueKind) (value : Str) : Except Exn Unit :=
  match kind with
  | .integer _ _ => return
  | .uuid =>
      match validateUuid (.str value) with
      | .ok _ => return
      | .error error =>
          if error.isValueOrType then .error (badRequest "UUID inválido.") else .error error
  | .ip => raiseIf (ipAddress value).isNone (badRequest "Dirección IP inválida.")
  | .hostname =>
      raiseIf ((ipAddress value).isNone && !isHostname value) (badRequest "Hostname inválido.")
  | .identifier => raiseIf (!isIdentifier value) (badRequest "Identificador inválido.")
  | .select options => raiseIf (value ∉ options) (badRequest "Opción inválida.")

/-- The value of a field that is neither absent nor blank -/
def operationValue (kind : ValueKind) (value : Json) : Except Exn Json :=
  match kind with
  | .integer min max => do
      raiseIf (isBool value || !isDecimal value.text) (badRequest "Número inválido.")
      let number ← value.toInt
      raiseIf (!(min ≤ number && number ≤ max)) (badRequest "Número fuera de rango.")
      return .int number
  | kind =>
      match value with
      | .str text => do
          raiseIf (253 < text.length || 0 ∈ text) (badRequest "Texto inválido.")
          checkText kind text
          return value
      | _ => .error (badRequest "Texto inválido.")

/-- `_values` of the operations -/
def operationValues (spec : OperationSpec) : Json → Except Exn (List (Str × Json))
  | .obj values => do
      raiseIf (values.any fun (name, _) => name ∉ spec.fields.map OperationField.name)
        (badRequest "Campo de operación no permitido.")
      spec.fields.foldlM (fun result item => do
        let value := fieldD values item.name item.default
        if isBlank value then
          raiseIf item.required (badRequest "Falta un campo obligatorio.")
          return result
        else
          let checked ← operationValue item.kind value
          return setField item.name checked result) []
  | _ => .error (badRequest "Valores inválidos.")

theorem operationValues_known {spec : OperationSpec} {values : Json}
    {checked : List (Str × Json)} (valued : operationValues spec values = .ok checked) :
    ∃ fields, values = .obj fields ∧
      ∀ name ∈ fields.map (·.1), name ∈ spec.fields.map OperationField.name := by
  cases values with
  | obj fields =>
      simp only [operationValues, bind_eq_ok, raiseIf_eq_ok] at valued
      rcases valued with ⟨_, known, _⟩
      refine ⟨fields, rfl, ?_⟩
      intro name listed
      rcases List.mem_map.mp listed with ⟨entry, member, rfl⟩
      rw [List.any_eq_false] at known
      simpa using known entry member
  | _ => cases valued

/-! ## Targets -/

/-- `quote(text, safe='')` -/
def quote (text : Str) : Except Exn Str :=
  if text.all isEncodable then
    return (Sha256.utf8 text).flatMap fun byte =>
      if isAsciiAlnum byte || byte ∈ ("_.-~" : Str) then [byte]
      else code '%' :: (hexDigits 2 byte).map fun c => if code 'a' ≤ c then c - 32 else c
  else .error unicodeEncodeError

/-- The path and the values that remain after the path segment was taken -/
def operationTarget (spec : OperationSpec) (values : List (Str × Json)) :
    Except Exn (Str × List (Str × Json)) :=
  match spec.segment with
  | none => return (spec.path, values)
  | some name =>
      match field values name with
      | none => .error (.builtin .keyError name)
      | some (.str text) => do
          let segment ← quote text
          return (spec.path ++ "/" ++ segment, values.filter fun (key, _) => key ≠ name)
      | some _ => .error (typeError "quote_from_bytes() expected bytes")

/-- The body, nested under the parts of `body_key` -/
def operationBody (spec : OperationSpec) (values : List (Str × Json)) : List (Str × Json) :=
  match spec.bodyKey with
  | none => values
  | some key => (parts key).foldr (fun part body => [(part, .obj body)]) values

/-! ## Answers -/

/-- Case folding of `re.I` for the letters of the patterns below -/
def foldCase (c : CodePoint) : CodePoint :=
  if code 'A' ≤ c ∧ c ≤ code 'Z' then c + 32
  else if c = 0x130 ∨ c = 0x131 then code 'i'
  else if c = 0x17f then code 's'
  else if c = 0x212a then code 'k'
  else c

/-- The texts that the pattern `_SECRET` matches -/
def secretWords : List Str :=
  ["password", "passwd", "privkey", "priv_key", "priv-key", "privatekey", "private_key",
    "private-key", "apikey", "api_key", "api-key", "secret", "token", "credential",
    "authorization", "cookie", "psk"]

def isSecretKey (key : Str) : Bool :=
  let folded := key.map foldCase
  secretWords.any fun word => contains word folded

/-- The rest of a text after every occurrence of `needle` -/
def afterEach (needle text : Str) : List Str :=
  (text.tails.filter needle.isPrefixOf).map (List.drop needle.length)

/-- `-----BEGIN .*PRIVATE KEY-----`, ignoring case, in a folded text -/
def hasPrivateKey (folded : Str) : Bool :=
  (splitOn 10 folded).any fun line =>
    (afterEach "-----begin " line).any (contains "private key-----")

/-- `[^\s/]+:[^\s/]+@` at the start of a text -/
def startsWithCredentials (text : Str) : Bool :=
  let run := text.takeWhile fun c => !isSpace c && c ≠ code '/'
  match (run.drop 1).dropWhile (· ≠ code ':') with
  | [] => false
  | _ :: afterColon => code '@' ∈ afterColon.drop 1

/-- `https?://[^\s/]+:[^\s/]+@`, ignoring case, in a folded text -/
def hasCredentials (folded : Str) : Bool :=
  (["http://", "https://"] : List Str).any fun scheme =>
    (afterEach scheme folded).any startsWithCredentials

def redacted (text : Str) : Str :=
  let folded := text.map foldCase
  if hasPrivateKey folded || hasCredentials folded then "[redacted]" else text

def tooDeep : Exn := invalidResponse "Respuesta demasiado anidada."

mutual

/-- `_sanitize` -/
def sanitize (depth : Nat) : Json → Except Exn Json
  | .obj fields => do
      raiseIf (16 < depth) tooDeep
      let kept ← sanitizeFields (depth + 1) fields
      return .obj kept
  | .arr items => do
      raiseIf (16 < depth) tooDeep
      let kept ← sanitizeItems (depth + 1) items
      return .arr kept
  | .str text => do
      raiseIf (16 < depth) tooDeep
      return .str (redacted text)
  | value => do
      raiseIf (16 < depth) tooDeep
      return value

def sanitizeFields (depth : Nat) : List (Str × Json) → Except Exn (List (Str × Json))
  | [] => return []
  | (key, value) :: rest =>
      if isSecretKey key then sanitizeFields depth rest
      else do
        let value ← sanitize depth value
        let rest ← sanitizeFields depth rest
        return (key, value) :: rest

def sanitizeItems (depth : Nat) : List Json → Except Exn (List Json)
  | [] => return []
  | value :: rest => do
      let value ← sanitize depth value
      let rest ← sanitizeItems depth rest
      return value :: rest

end

def upstreamError (detail : Str) : Exn := raised (.new "upstream" detail 502)

/-- `str(response.get(key, '')).lower()` -/
def markerText (response : List (Str × Json)) (key : Str) : Str :=
  Runtime.lower (fieldD response key (.str [])).text

/-- The checks of an answer that do not depend on the operation -/
def checkRejection (response : List (Str × Json)) : Except Exn Unit := do
  raiseIf (fieldD response "validations" .null).truthy
    (raised (.new "validation" "OPNsense rechazó los valores." 422))
  raiseIf ((fieldD response "error" .null).truthy || (fieldD response "errorMessage" .null).truthy)
    (upstreamError "OPNsense rechazó la operación.")
  raiseIf ((["status", "result"] : List Str).any fun key =>
      markerText response key ∈ (["failed", "failure", "error"] : List Str))
    (upstreamError "OPNsense rechazó la operación.")

/-- The acknowledgement of an operation that has one -/
def checkAck (spec : OperationSpec) (response : Json) : Except Exn Unit :=
  match spec.ack, response with
  | none, _ => return
  | some ack, .obj fields => do
      raiseIf (markerText fields ack.key ∉ ack.values)
        (upstreamError "OPNsense no confirmó la solicitud.")
      raiseIf (spec.id = "monit_reconfigure" &&
          (!(fieldD fields "template" .null).isText "OK" ||
            !(fieldD fields "result" .null).isText "Control file syntax OK"))
        (upstreamError "Monit no confirmó una configuración válida.")
  | some _, _ => .error (upstreamError "OPNsense no confirmó la solicitud.")

def checkShape : Json → Except Exn Unit
  | .obj fields => checkRejection fields
  | .arr _ => return
  | _ => .error (invalidResponse "Respuesta de operación inválida.")

/-- The checks of the answer to an operation -/
def checkResponse (spec : OperationSpec) (response : Json) : Except Exn Unit := do
  checkShape response
  checkAck spec response

/-- The state that the answer to a status request confirms -/
def confirmedState (check : StatusCheck) (response : Json) : Except Exn Json :=
  let mismatch : Exn := raised (.new "verification"
    "El estado del servicio no coincide con lo solicitado." 502 true (some .verify))
  match response with
  | .obj fields => do
      let status := fieldD fields "status" .null
      raiseIf (!check.expected.any fun text => status.isText text) mismatch
      return status
  | _ => .error mismatch

/-! ## Execution -/

structure OperationResult where
  operation : Str
  accepted : Bool
  verified : Bool
  state : Json
  result : Json

/-- The local variables of `execute_operation` that its records use -/
structure OperationCall where
  host : Str
  actor : Str
  spec : OperationSpec
  started : Clock
  digest : Str

def OperationCall.entry (call : OperationCall) (result detail : Str) (now : Clock) :
    AuditEntry where
  ts := now.utcIso
  user := call.actor
  action := "operation." ++ call.spec.id
  target := call.spec.id
  host := call.host
  result := result
  durationMs := now.monotonicMs - call.started.monotonicMs
  detail := detail
  payloadSha256 := call.digest

/-- A record whose failure is an error of its own; the state says whether a request was sent. -/
def recordSent (entry : Clock → AuditEntry) (failure : Str) : Py Role Bool Unit := do
  let stored ← (auditRecord entry).attempt fun _ => true
  match stored with
  | .ok () => return
  | .error _ => do
      let posted ← Action.readState
      Action.raise (raised { ManagementError.new "audit" failure 503 posted (some .audit) with
        auditFailure := true })

/-- `record` -/
def record (call : OperationCall) (result detail : Str) : Py Role Bool Unit :=
  recordSent (call.entry result detail) "No se pudo registrar la operación."

/-- A record that only a POST operation makes -/
def recordPost (call : OperationCall) (result detail : Str) : Py Role Bool Unit :=
  if call.spec.method = .post then record call result detail else return

/-- Send the request of the operation. -/
def sendOperation (spec : OperationSpec) (path : Str) (payload : List (Str × Json)) :
    Py Role Bool Json :=
  match spec.method with
  | .post => do
      Action.modifyState fun _ => true
      callPost .client path (.obj payload)
  | .get => callGet .client path payload

/-- Read the status back where the operation asks for it. -/
def readStatus (spec : OperationSpec) : Py Role Bool (Option Json) :=
  match spec.verify with
  | none => return none
  | some check => do
      let status ← callGet .client check.path
      let state ← Action.ofExcept (confirmedState check status)
      return some state

/-- `execute_operation` after the checks of the answer -/
def finishOperation (call : OperationCall) (response : Json) : Py Role Bool OperationResult := do
  let status ← readStatus call.spec
  let result ← Action.ofExcept (sanitize 0 response)
  recordPost call "ok" (if status.isSome then "Estado verificado."
    else "Respuesta recibida; sin afirmar aplicación.")
  return {
    operation := call.spec.id
    accepted := call.spec.method = .post
    verified := status.isSome
    state := status.getD (.str (if call.spec.method = .post && call.spec.mutation then "accepted"
      else "observed"))
    result }

/-- The body of the `try` statement of `execute_operation` -/
def attemptOperation (call : OperationCall) (path : Str) (payload : List (Str × Json)) :
    Py Role Bool OperationResult := do
  let response ← sendOperation call.spec path payload
  Action.ofExcept (checkResponse call.spec response)
  finishOperation call response

/-- What an error of the `try` statement reports -/
def reportOperation (posted : Bool) (error : ManagementError) : ManagementError :=
  { error with
    isPartial := error.isPartial ||
      (posted && error.error ∉ (["validation", "auth"] : List Str))
    stage := some (error.stage.getD (if posted then .operation else .read)) }

/-- The handler of the `try` statement of `execute_operation` -/
def recoverOperation (call : OperationCall) (error : Exn) : Py Role Bool OperationResult :=
  match error with
  | .custom (.management error) => do
      let posted ← Action.readState
      let stored ← (if posted && !error.auditFailure then record call "error" error.error
        else pure ()).attempt isManagement
      match stored with
      | .ok () => Action.raise (raised (reportOperation posted error))
      | .error _ => Action.raise (raised { reportOperation posted error with auditFailure := true })
  | error => Action.raise error

/-- `execute_operation` up to the first request: the operation, its target and its body -/
def planOperation (operation values : Json) :
    Except Exn (OperationSpec × Str × List (Str × Json)) :=
  match operations.find? fun spec => operation.isText spec.id with
  | none => .error (raised (.new "unsupported" "Operación no disponible." 404))
  | some spec => do
      let values ← operationValues spec values
      let (path, values) ← operationTarget spec values
      return (spec, path, operationBody spec values)

/-- The records and the request of a planned operation -/
def runOperation (call : OperationCall) (path : Str) (payload : List (Str × Json)) :
    Py Role Bool OperationResult := do
  recordPost call "attempt" "Solicitud validada; pendiente de envío."
  (attemptOperation call path payload).handle (recoverOperation call)

/-- `execute_operation` -/
def executeOperation (client : Host) (actor : Str) (operation values : Json) :
    Py Role Unit OperationResult := do
  let (spec, path, payload) ← Action.ofExcept (planOperation operation values)
  let started ← readClock
  let digest ← Action.ofExcept (hashPayload values)
  let (result, _) ← Action.withState false
    (runOperation ⟨client.name, actor, spec, started, digest⟩ path payload)
  return result

end Management

end OpnsensePlugin

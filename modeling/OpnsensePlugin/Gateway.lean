import OpnsensePlugin.Client
import OpnsensePlugin.Cluster
import OpnsensePlugin.Effects.Embedding
import OpnsensePlugin.Management.Backups
import OpnsensePlugin.Management.Operations
import OpnsensePlugin.Management.Views
import OpnsensePlugin.Routes.Firewall
import OpnsensePlugin.Routes.LegacyLists

/-!
# The handlers of the plugin

What the plugin does with an HTTP request. A handler reads the configuration file, asks
the host application for the permission, resolves the node to talk to, and only then
calls the builders and services of the other modules, on the clients of that node and
of its peer. The pages that only show what they read send no POSTs, but their handlers
resolve the node and keep what a probe finds; what such a page asks of its node is a
parameter.
-/

namespace OpnsensePlugin

open Effects Python

/-! ## The surroundings -/

/-- What is found in the place of `config.json` -/
inductive ConfigFile
  | missing
  | unreadable
  | json (value : Json)

/-- What becomes of `require_auth(perms=['plugins.manage'])(lambda: True)()` -/
inductive Probe
  | missing
  | raised
  | returned (granted : Bool)

/-- An HTTP request, with the session that the host application has found for it. `json` is what
`get_json(silent=True)` returns. -/
structure WebRequest where
  method : Str
  args : List (Str × Str) := []
  json : Json := .null
  session : List (Str × Json) := []

/-- What a handler asks for: its configuration, the permission, whatever the clients and the audit log
ask for, what the backup store asks of the disk, and what there is to be for a new backup -/
inductive Ask
  | config
  | permission
  | exchange (request : Request Host)
  | disk (operation : Backups.Operation)
  | supply

abbrev Ask.Answer : Ask → Type
  | .config => ConfigFile
  | .permission => Probe
  | .exchange request => OpnsensePlugin.Answer request
  | .disk operation => Backups.Answer operation
  | .supply => Backups.Download × Backups.Draw

/-- `_master_cache`, with its time in milliseconds -/
structure MasterCache where
  side : Option Side := none
  ts : Int := 0

structure GatewayState where
  cache : MasterCache := {}
  disk : Backups.Disk := {}

abbrev Gate (α : Type) : Type := Action Ask Ask.Answer GatewayState Exn α

def GatewayState.cachePart : Part GatewayState MasterCache where
  read := cache
  write cache state := { state with cache }

def GatewayState.diskPart : Part GatewayState Backups.Disk where
  read := disk
  write disk state := { state with disk }

/-- The request to the host that the node is -/
def Request.onHost {Node : Type} (hosts : Node → Host) : Request Node → Request Host
  | .get node path params => .get (hosts node) path params
  | .post node path body => .post (hosts node) path body
  | .append entry => .append entry
  | .clock => .clock
  | .acquireGuard table => .acquireGuard table
  | .lockFor table key => .lockFor table key
  | .releaseGuard table => .releaseGuard table
  | .acquire lock => .acquire lock
  | .release lock => .release lock

/-- Code of the clients, on the hosts that its nodes are -/
def atHosts {Node : Type} (hosts : Node → Host) :
    Wrapping (Request Node) (@Answer Node) Ask Ask.Answer where
  wrap request := .exchange (request.onHost hosts)
  unwrap
    | .get _ _ _, reply => reply
    | .post _ _ _, reply => reply
    | .append _, answer => answer
    | .clock, now => now
    | .acquireGuard _, answer => answer
    | .lockFor _ _, lock => lock
    | .releaseGuard _, answer => answer
    | .acquire _, answer => answer
    | .release _, answer => answer

def onDisk : Wrapping Backups.Operation Backups.Answer Ask Ask.Answer where
  wrap := .disk
  unwrap _ answer := answer

/-! ## Configuration and permission -/

/-- `value is not False` -/
def isNotFalse : Json → Bool
  | .bool false => false
  | _ => true

/-- `_load_config` -/
def loadConfig : ConfigFile → Config
  | .json (.obj fields) =>
      setField "read_only" (.bool (isNotFalse (fieldD fields "read_only" .null))) fields
  | _ => [("opnsense_hosts", .arr []), ("poll_interval", .int 30), ("read_only", .bool true)]

def isReadOnly (cfg : Config) : Bool := isNotFalse (fieldD cfg "read_only" .null)

def readConfig : Gate Config := do
  return loadConfig (← Action.ask .config)

/-- `_firewall_can_write` -/
def firewallCanWrite : Gate Bool := do
  match ← Action.ask Ask.permission with
  | .returned granted => return granted
  | .missing | .raised => return false

section Runtime

variable [Runtime]

/-- The first argument of that name -/
def WebRequest.arg (form : WebRequest) (name : Str) : Option Str := field form.args name

/-- `str(getattr(request, 'session', {}).get('user', 'plugin'))` -/
def WebRequest.actor (form : WebRequest) : Str :=
  (fieldD form.session "user" (.str "plugin")).text

/-- `request.get_json(silent=True) if request.method == 'POST' else None` -/
def WebRequest.body (form : WebRequest) : Json :=
  if form.method = ("POST" : Str) then form.json else .null

/-! ## The master of the cluster -/

def masterTtl : Int := 10000

/-- The probe of `_resolved_master_side`; a failed one counts for the first node. -/
def probeSide {State : Type} : Py Side State Side :=
  (do
    let left ← collectCarpStatus Side.left
    let right ← collectCarpStatus Side.right
    return OPNsenseClusterClient.sideOf left.role right.role : Py Side State Side).handle
      fun _ => return .left

/-- `_resolved_master_side` -/
def resolvedMasterSide (a b : Host) : Py Side MasterCache Side := do
  let now ← readClock
  let cache ← Action.readState
  match cache.side with
  | some side =>
      if now.monotonicMs - cache.ts < masterTtl then return side else probeAndKeep now
  | none => probeAndKeep now
where
  probeAndKeep (now : Clock) : Py Side MasterCache Side := do
    Action.ofExcept (requireHttps a)
    Action.ofExcept (requireHttps b)
    let side ← probeSide
    Action.modifyState fun _ => ⟨some side, now.monotonicMs⟩
    return side

/-- The hosts that the two sides are -/
def configuredHost (cfg : Config) (side : Side) : Host :=
  (hostAt (configuredHosts cfg) (side.pick 0 1) >>= hostFromDict).toOption.getD ⟨[], []⟩

/-- `_firewall_target` -/
def targetOf (cfg : Config) (write : Bool) : Gate (Except Exn (Option (Host × Option Host))) :=
  Action.inside (atHosts (configuredHost cfg)) GatewayState.cachePart
    (firewallTarget resolvedMasterSide cfg write)

/-! ## Responses -/

/-- `read_only` and `write_restriction` of a response -/
structure Restriction where
  readOnly : Bool
  reason : Option Str

/-- The `data` of a response of the services -/
inductive Delivered
  | mutated (result : MutateResult)
  | detailed (view : DetailView)
  | paged (view : PageView)
  | crlMutated (caref : Str)
  | crlDetailed (view : CrlService.CrlView)
  | operated (result : Management.OperationResult) (target : Str)
  | archived (result : Backups.Result)

/-- A response: the payload of a builder or a refusal, `{'ok': True, 'data': …}` with what was
delivered, or `as_dict()` of an error of the services -/
inductive Responded
  | payload (status : Nat) (body : Json)
  | delivered (data : Delivered) (restriction : Option Restriction)
  | failed (error : ManagementError)

def Responded.status : Responded → Nat
  | .payload status _ => status
  | .delivered _ _ => 200
  | .failed error => error.status

/-- The member `ok` of the body holds. -/
def Responded.ok : Responded → Bool
  | .payload _ body => (memberOf body "ok" .null).truthy
  | .delivered _ _ => true
  | .failed _ => false

def refused (status : Nat) (error detail : Str) : Responded :=
  .payload status (refusal status error detail).2

def methodNotAllowed : Responded :=
  .payload 405 (.obj [("ok", .bool false), ("error", .str "method_not_allowed")])

/-- `_unconfigured_response` -/
def unconfiguredResponse : Responded :=
  refused 400 "unconfigured" "No opnsense_hosts in config.json — edit /opt/PegaProx/plugins/opnsense/config.json"

def permissionRefusal : Responded :=
  refused 403 "forbidden" "Se requiere el permiso plugins.manage."

def internalError (detail : Str) : Responded := refused 500 "internal" detail

/-- The handlers of `ManagementError` and of all other exceptions -/
def serviceFailure (detail : Str) : Exn → Responded
  | .custom (.management error) => .failed error
  | _ => internalError detail

/-! ## The gate -/

/-- What `_management_context` returns -/
structure Context where
  cfg : Config
  readOnly : Bool
  write : Bool
  body : Json
  host : Host
  peer : Option Host
  actor : Str

/-- `except (ValueError, KeyError, TypeError)` -/
def isTargetError : Exn → Bool
  | .builtin .keyError _ => true
  | error => error.isValueOrType

/-- The target of the context, or the response to an error of `_firewall_target` -/
def contextOf (form : WebRequest) (cfg : Config) (write : Bool) :
    Except Exn (Option (Host × Option Host)) → Gate (Except Responded Context)
  | .error error =>
      if isTargetError error then return .error (refused 409 "ha_unsafe" (excText error))
      else if isOpnsense error then
        return .error (refused 502 "ha_unavailable" (excText error))
      else Action.raise error
  | .ok none => return .error unconfiguredResponse
  | .ok (some (host, peer)) =>
      return .ok { cfg, readOnly := isReadOnly cfg, write, host, peer, actor := form.actor
                   body := if write then form.json else .null }

/-- `_management_context` from the check of the permission on -/
def writeContext (form : WebRequest) (cfg : Config) : Gate (Except Responded Context) := do
  if !(← firewallCanWrite) then return .error permissionRefusal
  else if !form.json.isObj then
    return .error (refused 400 "bad_request" "Se requiere un objeto JSON.")
  else contextOf form cfg true (← targetOf cfg true)

/-- `_management_context` -/
def managementContext (form : WebRequest) (mutation : Option Bool) :
    Gate (Except Responded Context) := do
  let cfg ← readConfig
  if form.method ∉ (["GET", "POST"] : List Str) then return .error methodNotAllowed
  else if mutation.getD (form.method = ("POST" : Str)) then
    if isReadOnly cfg then
      return .error (refused 403 "read_only" "El plugin está configurado en modo de solo lectura.")
    else writeContext form cfg
  else contextOf form cfg false (← targetOf cfg false)

/-- `context['read_only'] or not _firewall_can_write()` -/
def readsOnly (context : Context) : Gate Bool := do
  if context.readOnly then return true
  else return !(← firewallCanWrite)

/-- The code of a builder or a service, on the clients of the context -/
def Context.serve {Node α : Type} (hosts : Node → Host) (code : Py Node Unit α) :
    Gate (Except Exn α) :=
  Action.inside (atHosts hosts) .none code

/-- The nodes of a writer -/
def Context.hostOf (context : Context) : Role → Host
  | .client => context.host
  | .peer => context.peer.getD context.host

/-- The response of a builder, which has let other errors pass -/
def built : Except Exn Response → Gate Response
  | .ok response => return response
  | .error error => Action.raise error

/-! ## The pages of the firewall -/

/-- The payload says whether the caller may write, if it is one of data. -/
def showReadOnly (context : Context) (response : Response) : Gate Responded := do
  match response.2 with
  | .obj fields =>
      if (fieldD fields "ok" .null).truthy then
        let readOnly ← readsOnly context
        let shown := match fieldD fields "data" .null with
          | .obj data => .obj (setField "read_only" (.bool readOnly) data)
          | other => other
        return .payload response.1 (.obj (setField "data" shown fields))
      else return .payload response.1 (.obj fields)
  | other => return .payload response.1 other

/-- The attempts that the constructor of the writer accepts -/
def attemptsOf : Json → Option { attempts : Nat // 1 ≤ attempts ∧ attempts ≤ 10 }
  | .int attempts =>
      if bounds : 1 ≤ attempts.toNat ∧ attempts.toNat ≤ 10 then some ⟨attempts.toNat, bounds⟩
      else none
  | _ => none

/-- A number between zero and two -/
def isBackoff : Json → Bool
  | .int backoff => 0 ≤ backoff ∧ backoff ≤ 2
  | .float .nan => false
  | .float backoff =>
      !Delay.less backoff (.finite false 0 0) && !Delay.less (.finite false 2 0) backoff
  | _ => false

def syncModeOf (mode : Json) : Option HaSyncMode :=
  [HaSyncMode.automatic, .xmlrpcPf].find? fun known => mode.isText known.name

/-- The settings of a writer, if its constructor accepts them -/
def settingsOf (context : Context) : Except Exn FirewallSettings := do
  let haSyncMode ← Management.required (syncModeOf
    (fieldD context.cfg "ha_sync_mode" (.str "automatic")))
    (valueError "ha_sync_mode must be automatic or xmlrpc_pf")
  let attempts ← Management.required (attemptsOf (fieldD context.cfg "ha_verify_attempts" (.int 6)))
    (valueError "ha_verify_attempts must be an integer between 1 and 10")
  raiseIf (!isBackoff (fieldD context.cfg "ha_verify_backoff" (.float (.finite false 1 (-1)))))
    (valueError "ha_verify_backoff must be a number between 0 and 2 seconds")
  return { host := context.host, peerHost := context.peer, actor := context.actor
           readOnly := context.readOnly, haVerifyAttempts := attempts.val, haSyncMode
           attempts_pos := attempts.property.1, attempts_le_ten := attempts.property.2 }

/-- What an action comes to whose writer cannot be made: the arguments are checked before. -/
def unmadeWriter (resource : Resource) (context : Context) (error : Exn) : Response :=
  let checked : Except Exn Unit := do
    let _ ← FirewallRoute.actionRequest resource context.body
    requireHttps context.host
    match context.peer with
    | some peer => requireHttps peer
    | none => return
  match checked with
  | .error early => FirewallRoute.badRequest early
  | .ok () => FirewallRoute.badRequest error

/-- `_h_firewall_management` for a POST -/
def firewallWrite (resource : Resource) (context : Context) : Gate Responded := do
  match settingsOf context with
  | .error error =>
      let response := unmadeWriter resource context error
      return .payload response.1 response.2
  | .ok settings =>
      let response ← built (← Context.serve context.hostOf
        (FirewallRoute.actionPayload settings resource context.body))
      return .payload response.1 response.2

/-- The builder that `_h_firewall_management` calls for a GET -/
def firewallReading (resource : Resource) (form : WebRequest) (host : Host) : Py Role Unit Response :=
  match form.arg "uuid" with
  | some uuid => FirewallRoute.detailPayload host resource (.str uuid)
  | none => FirewallRoute.listPayload host resource (form.arg "view" = some ("summary" : Str))

/-- `_h_firewall_management` -/
def firewallManagement (resource : Resource) (form : WebRequest) : Gate Responded := do
  match ← managementContext form none with
  | .error denied => return denied
  | .ok context =>
      if context.write then firewallWrite resource context
      else do
        let response ← built (← Context.serve context.hostOf
          (firewallReading resource form context.host))
        showReadOnly context response

/-- `_h_legacy_management` -/
def legacyManagement (page : LegacyPage) (form : WebRequest) : Gate Responded := do
  match ← managementContext form none with
  | .error denied => return denied
  | .ok context =>
      let party : Party → Host := fun _ => context.host
      if context.write then
        match context.body with
        | .obj body => do
            let response ← built (← Context.serve party
              (page.route.actionPayload context.host body context.actor context.readOnly))
            return .payload response.1 response.2
        | _ => Action.raise (.builtin .attributeError [])
      else do
        let response ← built (← Context.serve party (page.listPayload context.host))
        showReadOnly context response

/-! ## Services -/

/-- The two clients are made before anything is sent. -/
def requireClients (context : Context) : Except Exn Unit := do
  requireHttps context.host
  match context.peer with
  | some peer => requireHttps peer
  | none => return

/-- What the plugin offers: the specifications of its catalogue, what it does with PEM texts, and the
libraries of its backups -/
structure Plugin where
  specs : List Spec
  loadPem : Str → Except Exn Unit
  library : Backups.Library

/-- A resource of `_management_resources` -/
inductive Managed
  | engine (spec : Spec)
  | crl

def crlId : Str := "trust_crl"

def Plugin.resource (plugin : Plugin) (id : Str) : Option Managed :=
  if id = crlId then some .crl
  else (plugin.specs.find? fun spec => spec.id = id).map .engine

def pageRefusal (detail : Str) : Responded := refused 400 "bad_request" detail

/-- `int(request.args.get(name, default))` -/
def pageArg (form : WebRequest) (name default : Str) : Option Int :=
  parseInt 10 ((form.arg name).getD default)

/-- The two numbers of a page -/
def pageArgs (form : WebRequest) : Option (Int × Int) := do
  let page ← pageArg form "page" "1"
  let rowCount ← pageArg form "row_count" "50"
  return (page, rowCount)

def searchArg (form : WebRequest) : Json := .str ((form.arg "search").getD [])

/-- What a GET asks of a service; `none` where the page is refused. -/
def specReading (spec : Spec) (form : WebRequest) : Option (Py Role Unit Delivered) :=
  if form.arg "defaults" = some ("1" : Str) then
    some do return .detailed (← ManagementService.detail spec none)
  else match form.arg "uuid" with
    | some uuid => some do return .detailed (← ManagementService.detail spec (some (.str uuid)))
    | none => match pageArgs form with
        | none => none
        | some (page, rowCount) =>
            if page < 1 || !(1 ≤ rowCount && rowCount ≤ 200) then none
            else some do
              return .paged (← ManagementService.listPage spec (.int page) (.int rowCount)
                (searchArg form))

def crlReading (form : WebRequest) : Option (Py Role Unit Delivered) :=
  match form.arg "uuid" with
  | some uuid => some do return .crlDetailed (← CrlService.detail (.str uuid))
  | none => match pageArgs form with
      | none => none
      | some (page, rowCount) =>
          some do
            return .paged (← CrlService.listPage (.int page) (.int rowCount) (searchArg form))

/-- The restriction of a resource that nobody may write, or not on a pair of nodes -/
def restriction (readOnly blocked : Bool) : Restriction where
  readOnly := readOnly || blocked
  reason := if readOnly then some ("read_only" : Str)
    else if blocked then some ("ha_unqualified" : Str) else none

/-- The restriction that is shown with a reading of the resource -/
def restrictionOf (managed : Managed) (context : Context) (readOnly : Bool) : Restriction :=
  match managed with
  | .crl => ⟨readOnly, if context.readOnly then some ("read_only" : Str) else none⟩
  | .engine spec => restriction readOnly (context.peer.isSome && !spec.haSafe)

/-- What a reading of a service comes to; the restriction is found after the data. -/
def delivered (managed : Managed) (context : Context) :
    Except Exn Delivered → Gate Responded
  | .error error => return serviceFailure "No se pudo completar la operación." error
  | .ok data => do
      let readOnly ← readsOnly context
      return .delivered data (some (restrictionOf managed context readOnly))

def managedWriting (plugin : Plugin) (managed : Managed) (context : Context) :
    Py Role Unit Delivered :=
  match managed with
  | .engine spec => do
      let service : ManagementService := ⟨context.host, context.peer, context.actor⟩
      return .mutated (← service.mutate spec context.body)
  | .crl => do
      let service : CrlService := ⟨context.host, context.peer, context.actor, plugin.loadPem⟩
      return .crlMutated (← service.mutate context.body)

def managedReading (managed : Managed) (form : WebRequest) : Except Responded (Py Role Unit Delivered) :=
  match managed with
  | .engine spec =>
      match specReading spec form with
      | some reading => .ok reading
      | none => .error (pageRefusal "Página o tamaño de página inválido.")
  | .crl =>
      if form.arg "defaults" = some ("1" : Str) then
        .error (pageRefusal "CRL requiere la referencia de la CA.")
      else match crlReading form with
        | some reading => .ok reading
        | none => .error (pageRefusal "PÃ¡gina o tamaÃ±o de pÃ¡gina invÃ¡lido.")

/-- `_h_manage` once there is a context -/
def manageIn (plugin : Plugin) (managed : Managed) (form : WebRequest) (context : Context) :
    Gate Responded := do
  Action.ofExcept (requireClients context)
  if context.write then
    match ← Context.serve context.hostOf (managedWriting plugin managed context) with
    | .ok data => return .delivered data none
    | .error error => return serviceFailure "No se pudo completar la operación." error
  else match managedReading managed form with
    | .error refusal => return refusal
    | .ok reading => delivered managed context (← Context.serve context.hostOf reading)

/-- A member of the body, if that is an object, and else the argument of the URL -/
def named (form : WebRequest) (name : Str) : Json :=
  match form.body with
  | .obj body => fieldD body name .null
  | _ => match form.arg name with
      | some text => .str text
      | none => .null

/-- `_h_manage` -/
def hManage (plugin : Plugin) (form : WebRequest) : Gate Responded :=
  match named form "resource" with
  | .str id =>
      match plugin.resource id with
      | none => return refused 404 "unknown_resource" "Selecciona un módulo válido."
      | some managed => do
          match ← managementContext form none with
          | .error denied => return denied
          | .ok context => manageIn plugin managed form context
  | _ => return refused 404 "unknown_resource" "Selecciona un módulo válido."

/-- The values of an operation -/
def operationValues (form : WebRequest) : Json :=
  match form.body with
  | .obj body => fieldD body "values" (.obj [])
  | _ => .obj ((form.args.filter fun entry => entry.1 ≠ ("operation" : Str)).map
      fun entry => (entry.1, .str entry.2))

def methodName : Method → Str
  | .get => "GET"
  | .post => "POST"

/-- `_h_operate` once there is a context -/
def operateIn (operation : Str) (form : WebRequest) (context : Context) : Gate Responded := do
  Action.ofExcept (requireHttps context.host)
  match ← Context.serve context.hostOf (Management.executeOperation context.host context.actor
      (.str operation) (operationValues form)) with
  | .ok result => return .delivered (.operated result context.host.name) none
  | .error error => return serviceFailure "No se pudo completar la operación." error

/-- `_h_operate` -/
def hOperate (form : WebRequest) : Gate Responded :=
  match named form "operation" with
  | .str operation =>
      match operations.find? fun spec => operation = spec.id with
      | none => return refused 404 "unknown_operation" "Selecciona una operación válida."
      | some spec =>
          if form.method ≠ methodName spec.method then return methodNotAllowed
          else do
            match ← managementContext form (some (spec.mutating.getD (form.method = ("POST" : Str)))) with
            | .error denied => return denied
            | .ok context => operateIn operation form context
  | _ => return refused 404 "unknown_operation" "Selecciona una operación válida."

/-! ## What the workspace is told -/

structure Health where
  configured : Bool
  readOnly : Bool
  clusterMode : Bool
  hostsConfigured : Nat
  canWrite : Bool
  writeRestriction : Option Str

/-- `_h_health` -/
def hHealth : Gate Health := do
  let cfg ← readConfig
  let readOnly := isReadOnly cfg
  let canWrite ← if readOnly then pure false else firewallCanWrite
  let clusterMode ← Action.ofExcept (isClusterMode cfg)
  let hostsConfigured ← Action.ofExcept (hostCount (configuredHosts cfg))
  return { configured := (fieldD cfg "opnsense_hosts" .null).truthy, readOnly, clusterMode
           hostsConfigured, canWrite
           writeRestriction := if readOnly then some ("read_only" : Str)
             else if !canWrite then some ("permission" : Str) else none }

def Managed.id : Managed → Str
  | .engine spec => spec.id
  | .crl => crlId

def Managed.haSafe : Managed → Bool
  | .engine spec => spec.haSafe
  | .crl => false

/-- The actions of a specification; the one of the CRLs names none. -/
def Managed.operations : Managed → List WriteAction
  | .engine spec => [WriteAction.create, .update, .delete].filter fun action =>
      (ManagementService.operation spec action).any fun path => !path.isEmpty
  | .crl => []

structure CatalogEntry where
  id : Str
  restriction : Restriction
  operations : List WriteAction

structure Catalog where
  resources : List CatalogEntry
  backups : Bool
  readOnly : Bool

/-- `_management_resources`, in its order -/
def Plugin.managed (plugin : Plugin) : List Managed := plugin.specs.map .engine ++ [.crl]

/-- `_h_catalog` -/
def hCatalog (plugin : Plugin) (form : WebRequest) : Gate (Except Responded Catalog) := do
  if form.method ≠ ("GET" : Str) then return .error methodNotAllowed
  else do
    let cfg ← readConfig
    let granted ← if isReadOnly cfg then pure false else firewallCanWrite
    let readOnly := isReadOnly cfg || !granted
    let cluster ← Action.ofExcept (isClusterMode cfg)
    let backups ← firewallCanWrite
    return .ok {
      resources := plugin.managed.map fun managed =>
        ⟨managed.id, restriction readOnly (cluster && !managed.haSafe), managed.operations⟩
      backups, readOnly }

/-! ## Backups -/

/-- The error of the backup store, for the handlers of the route -/
def backupFailure : Backups.Exn → Responded
  | .custom (.management error) => .failed error
  | _ => internalError "No se pudo procesar el respaldo."

def storeCall (plugin : Plugin) (call : Backups.Call) : Gate Responded := do
  match ← Action.inside onDisk GatewayState.diskPart (call.run plugin.library) with
  | .ok result => return .delivered (.archived result) none
  | .error error => return backupFailure error

/-- The host of a new backup is the one for reads; errors of the resolution are internal ones. -/
def createBackup (plugin : Plugin) : Gate Responded := do
  let cfg ← readConfig
  match ← targetOf cfg false with
  | .error _ => return internalError "No se pudo procesar el respaldo."
  | .ok none => return unconfiguredResponse
  | .ok (some (host, _)) => do
      let (reply, draw) ← Action.ask Ask.supply
      storeCall plugin (.create host reply draw)

/-- The `try` statement of `_h_backups` -/
def backupAction (plugin : Plugin) (form : WebRequest) : Gate Responded :=
  if form.method = ("GET" : Str) then
    if form.arg "download" = some ("1" : Str) then
      storeCall plugin (.read (match form.arg "id" with | some id => .str id | none => .null))
    else storeCall plugin .list
  else match form.json with
    | .obj body =>
        if (fieldD body "action" .null).isText "create" then createBackup plugin
        else if (fieldD body "action" .null).isText "delete" then
          storeCall plugin (.delete (fieldD body "id" .null))
        else return .payload 400 (.obj [("ok", .bool false), ("error", .str "bad_request")])
    | _ => return .payload 400 (.obj [("ok", .bool false), ("error", .str "bad_request")])

/-- `_h_backups` -/
def hBackups (plugin : Plugin) (form : WebRequest) : Gate Responded := do
  if form.method ∉ (["GET", "POST"] : List Str) then return methodNotAllowed
  else if !(← firewallCanWrite) then return permissionRefusal
  else backupAction plugin form

/-! ## Pages that only show what they read -/

/-- `_first_host_from_config` -/
def firstHost : Gate (Option Host) := do
  let cfg ← readConfig
  if !(configuredHosts cfg).truthy then return none
  let cluster ← Action.ofExcept (isClusterMode cfg)
  let a ← Action.ofExcept (hostAt (configuredHosts cfg) 0 >>= hostFromDict)
  if !cluster then return some a
  else do
    let b ← Action.ofExcept (hostAt (configuredHosts cfg) 1 >>= hostFromDict)
    let side ← Action.inside (atHosts (configuredHost cfg)) GatewayState.cachePart
      (resolvedMasterSide a b)
    return some ((← Action.ofExcept side).pick a b)

/-- The routes of these pages -/
inductive Page
  | overview
  | cluster
  | network
  | logs
  | vpn
  | metrics

/-- The builders of the pages: what they show without a host, of one host, and of a pair -/
structure Builders (Shown : Type) where
  refusal : Page → Shown
  single : Page → Host → Py Unit Unit Shown
  pair : Page → Host → Host → Py Side Unit Shown

section Pages

variable {Shown : Type}

/-- The end of a handler, which lets the exceptions of a builder pass -/
def shownOf : Except Exn Shown → Gate Shown
  | .ok shown => return shown
  | .error error => Action.raise error

/-- `_h_network`, `_h_logs`, `_h_vpn`, `_h_metrics`, and `_h_overview` without a cluster -/
def showFirst (builders : Builders Shown) (page : Page) : Gate Shown := do
  match ← firstHost with
  | none => return builders.refusal page
  | some host => shownOf (← Context.serve (fun _ => host) (builders.single page host))

/-- The two hosts of the configuration, side by side -/
def showPair (builders : Builders Shown) (page : Page) (cfg : Config) : Gate Shown := do
  let a ← Action.ofExcept (hostAt (configuredHosts cfg) 0 >>= hostFromDict)
  let b ← Action.ofExcept (hostAt (configuredHosts cfg) 1 >>= hostFromDict)
  shownOf (← Context.serve (fun side => side.pick a b) (builders.pair page a b))

/-- `_h_overview` -/
def hOverview (builders : Builders Shown) : Gate Shown := do
  let cfg ← readConfig
  if ← Action.ofExcept (isClusterMode cfg) then showPair builders .overview cfg
  else showFirst builders .overview

/-- `_h_cluster` -/
def hCluster (builders : Builders Shown) : Gate Shown := do
  let cfg ← readConfig
  let count ← Action.ofExcept (hostCount (configuredHosts cfg))
  if count < 2 then return builders.refusal .cluster
  else showPair builders .cluster cfg

def showPage (builders : Builders Shown) : Page → Gate Shown
  | .overview => hOverview builders
  | .cluster => hCluster builders
  | page => showFirst builders page

end Pages

/-! ## Routes -/

/-- The registered routes that can change something, and their handlers -/
inductive Route
  | firewall (resource : Resource)
  | legacy (page : LegacyPage)
  | manage
  | operate
  | backups

def handle (plugin : Plugin) : Route → WebRequest → Gate Responded
  | .firewall resource, form => firewallManagement resource form
  | .legacy page, form => legacyManagement page form
  | .manage, form => hManage plugin form
  | .operate, form => hOperate form
  | .backups, form => hBackups plugin form

end Runtime

end OpnsensePlugin

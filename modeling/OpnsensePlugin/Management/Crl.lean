import OpnsensePlugin.Management.Operations

/-!
# Certificate revocation lists

`CrlService`: a list is addressed by the reference of its CA, read in full,
checked against the revision of the request, posted and read back. The process
lock around a change is left out; nothing here depends on other calls.
-/

namespace OpnsensePlugin

open Effects Python

/-- `loadPem` is `x509.load_pem_x509_crl`, which raises `ValueError` for other texts. -/
structure CrlService where
  client : Host
  peer : Option Host
  actor : Str
  loadPem : Str → Except Exn Unit

inductive CrlAction
  | create
  | update
  | delete
  | revoke
deriving DecidableEq

def CrlAction.name : CrlAction → Str
  | .create => "create"
  | .update => "update"
  | .delete => "delete"
  | .revoke => "revoke"

namespace CrlService

open Management

/-! ## References and selectors -/

def base : Str := "/api/trust/crl/"

/-- `re.fullmatch(r'[0-9a-f]{13}', value)` -/
def isRefid (value : Str) : Bool :=
  value.length = 13 && value.all fun c => isAsciiDigit c || (code 'a' ≤ c && c ≤ code 'f')

/-- `_refid` -/
def refid : Json → Except Exn Str
  | .str value =>
      if isRefid value then return value
      else .error (badRequest
        "La referencia CA/certificado debe tener 13 dígitos hexadecimales.")
  | _ => .error (badRequest "La referencia CA/certificado debe tener 13 dígitos hexadecimales.")

/-- `value in ('1', 1, True)` -/
def isOne : Json → Bool
  | .str text => text = "1"
  | .int value => value = 1
  | .bool value => value
  | .float (.finite false mantissa (.ofNat exponent)) => mantissa * 2 ^ exponent = 1
  | .float (.finite false mantissa (.negSucc exponent)) => mantissa = 2 ^ (exponent + 1)
  | _ => false

/-- An option that `_selected` keeps -/
def isChosen : Json → Bool
  | .obj fields => isOne (fieldD fields "selected" .null)
  | _ => false

/-- `_selected` -/
def chosen : Json → Except Exn Str
  | .arr [] => return []
  | .obj fields => return join "," ((fields.filter fun (_, option) => isChosen option).map (·.1))
  | .str text => return text
  | _ => .error (invalidResponse "Selector CRL inválido.")

/-! ## Reading a list -/

/-- A list as `_raw` returns it: `item` has texts only, `choices` the certificates that each of the
seven reasons offers. -/
structure CrlState where
  item : List (Str × Str)
  choices : List (List (Str × Str))

/-- `item[name]` -/
def CrlState.text (state : CrlState) (name : Str) : Str := (field state.item name).getD []

def reasonName (number : Nat) : Str := "revoked_reason_" ++ natText number

def reasonNames : List Str := (List.range 7).map reasonName

def detailText (raw : List (Str × Json)) (name : Str) : Except Exn Str :=
  let default : Json := if name = "descr" ∨ name = "text" then .str [] else .null
  match fieldD raw name default with
  | .str text => return text
  | _ => .error (invalidResponse "Detalle CRL inválido.")

/-- One certificate that a reason offers -/
def reasonChoice (ref : Str) (option : Json) : Except Exn (Str × Str) := do
  raiseIf (!isRefid ref) (invalidResponse "Referencia de certificado inválida.")
  match option with
  | .obj fields =>
      match fieldD fields "value" .null with
      | .str label => return (ref, label)
      | _ => .error (invalidResponse "Opción de revocación inválida.")
  | _ => .error (invalidResponse "Opción de revocación inválida.")

/-- The certificates of a reason, and those of them that are revoked -/
def reasonOf (raw : List (Str × Json)) (name : Str) :
    Except Exn (Str × List (Str × Str)) := do
  let options : Json := match fieldD raw name .null with
    | .arr [] => .obj []
    | options => options
  match options with
  | .obj fields => do
      let choices ← fields.mapM fun (ref, option) => reasonChoice ref option
      let revoked ← chosen options
      return (revoked, choices)
  | _ => .error (invalidResponse "Referencias de revocación inválidas.")

/-- What `_raw` makes of an answer -/
def stateOf (caref : Str) (response : Json) : Except Exn CrlState := do
  let missing := invalidResponse "No se recibió la CA/CRL solicitada."
  match response with
  | .obj response =>
      match fieldD response "crl" .null with
      | .obj raw => do
          raiseIf (!(fieldD raw "caref" .null).isText caref) missing
          let descr ← detailText raw "descr"
          let serial ← detailText raw "serial"
          let lifetime ← detailText raw "lifetime"
          let text ← detailText raw "text"
          raiseIf (!isDigit serial || !isDigit lifetime)
            (invalidResponse "Contadores CRL inválidos.")
          raiseIf (contains "PRIVATE KEY" text)
            (invalidResponse "La respuesta contiene material no permitido.")
          let crlmethod ← chosen (fieldD raw "crlmethod" .null)
          raiseIf (crlmethod ∉ (["internal", "existing"] : List Str))
            (invalidResponse "Método CRL inválido.")
          let reasons ← reasonNames.mapM (reasonOf raw)
          return {
            item := ([("caref", caref), ("descr", descr), ("serial", serial),
              ("lifetime", lifetime), ("text", text), ("crlmethod", crlmethod)] :
                List (Str × Str)) ++ reasonNames.zip (reasons.map (·.1))
            choices := reasons.map (·.2) }
      | _ => .error missing
  | _ => .error missing

/-- `_raw` -/
def raw {State : Type} (caref : Str) : Py Role State CrlState := do
  let response ← callGet .client (base ++ "get/" ++ caref)
  Action.ofExcept (stateOf caref response)

/-- `[item, choices]` -/
def CrlState.json (state : CrlState) : Json :=
  .arr [.obj (state.item.map fun (name, text) => (name, .str text)),
    .obj (reasonNames.zip (state.choices.map fun choices =>
      .arr (choices.map fun (ref, label) => .obj [("value", .str ref), ("label", .str label)])))]

/-! ## Values of a change -/

variable [Runtime]

def editableNames : List Str :=
  (["descr", "crlmethod", "lifetime", "text"] : List Str) ++ reasonNames

def invalidLifetime : Exn := badRequest "Vigencia CRL inválida."

/-- `str(lifetime)` of a valid lifetime -/
def lifetimeText (value : Json) : Except Exn Str := do
  raiseIf (isBool value || !isDigit value.text) invalidLifetime
  let days ← value.toInt
  raiseIf (!(1 ≤ days && days ≤ 36500)) invalidLifetime
  return value.text

/-- The references of a reason, given as a list or as a text with commas -/
def reasonRefs (value : Json) : Except Exn (List Json) := do
  let invalid := badRequest "Lista de certificados inválida."
  let refs ← match value with
    | .arr items => pure items
    | .str text => pure (if text.isEmpty then [] else (splitOn (code ',') text).map .str)
    | _ => .error invalid
  raiseIf (5000 < refs.length) invalid
  return refs

/-- The references of one reason, with those of the reasons before it in `seen` -/
def checkRefs (allowed : List Str) (seen : List Str) (refs : List Json) :
    Except Exn (List Str) :=
  refs.foldlM (fun seen ref => do
    let ref ← refid ref
    raiseIf (ref ∉ allowed || ref ∈ seen)
      (badRequest "Certificado ajeno a la CA o motivo duplicado.")
    return seen ++ [ref]) seen

/-- The text of a CRL that is imported -/
def checkPem (service : CrlService) (value : Json) : Except Exn Unit := do
  let invalid := badRequest "CRL PEM inválida."
  match value with
  | .str text => do
      raiseIf (1024 * 1024 < text.length || !isAscii text) invalid
      match service.loadPem text with
      | .ok () => return
      | .error (.builtin .valueError _) | .error (.builtin .unicodeEncodeError _) =>
          .error invalid
      | .error error => .error error
  | _ => .error invalid

/-- `_validate` -/
def validate (service : CrlService) (values : Json) (current : CrlState) :
    Except Exn (List (Str × Json)) :=
  match values with
  | .obj values => do
      raiseIf (values.any fun (name, _) => name ∉ editableNames)
        (badRequest "Campo CRL no permitido.")
      let merged := values.foldl (fun merged (name, value) => setField name value merged)
        (current.item.map fun (name, text) => (name, .str text))
      let value (name : Str) : Json := fieldD merged name .null
      raiseIf (match value "descr" with
          | .str text => !(1 ≤ text.length && text.length ≤ 255) || text.any (· < 32)
          | _ => true)
        (badRequest "Descripción CRL inválida.")
      raiseIf (!((value "crlmethod").isText "internal" || (value "crlmethod").isText "existing"))
        (badRequest "Método CRL inválido.")
      let lifetime ← lifetimeText (value "lifetime")
      let (_, payload) ← (reasonNames.zip current.choices).foldlM
        (fun (seen, payload) (name, choices) => do
          let refs ← reasonRefs (value name)
          let seen ← checkRefs (choices.map (·.1)) seen refs
          return (seen, setField name (.str (join "," (refs.map Json.text))) payload))
        (([] : List Str), setField "lifetime" (.str lifetime) merged)
      if (value "crlmethod").isText "existing" then
        service.checkPem (value "text")
        return payload
      else return payload.filter fun (name, _) => name ≠ "text"
  | _ => .error (badRequest "Campo CRL no permitido.")

/-- The revoked certificates after a revocation -/
def revocation (values : Json) (current : CrlState) : Except Exn Json := do
  let required := badRequest "Se requieren certificado y motivo."
  match values with
  | .obj fields => do
      raiseIf (!(fields.all fun (name, _) => name = "certificate" || name = "reason") ||
        (field fields "certificate").isNone || (field fields "reason").isNone) required
      let cert ← refid (fieldD fields "certificate" .null)
      let reason := (fieldD fields "reason" .null).text
      raiseIf (reason ∉ (List.range 7).map natText || current.text "crlmethod" ≠ "internal")
        (badRequest "Motivo inválido o CRL importada.")
      return .obj (reasonNames.map fun name =>
        let others := (splitOn (code ',') (current.text name)).filter fun ref =>
          !ref.isEmpty && ref ≠ cert
        (name, .arr ((others ++ if name = "revoked_reason_" ++ reason then [cert] else []).map
          .str)))
  | _ => .error required

/-- The payload of a change; a deletion has none. -/
def payloadOf (service : CrlService) (action : CrlAction) (values : Json) (current : CrlState) :
    Except Exn (List (Str × Json)) :=
  match action with
  | .delete => return []
  | .revoke => do
      let values ← revocation values current
      service.validate values current
  | _ => service.validate values current

/-! ## A change -/

structure CrlRequest where
  action : CrlAction
  caref : Str
  revision : Str
  values : Json

def crlActionOf (body : List (Str × Json)) : Option CrlAction :=
  let action := fieldD body "action" .null
  [CrlAction.create, .update, .delete, .revoke].find? fun known => action.isText known.name

/-- The checks of `mutate` before it takes the lock -/
def accept (service : CrlService) (body : Json) : Except Exn CrlRequest := do
  raiseIf service.peer.isSome (raised (.new "ha_unqualified"
    "La escritura CRL no está calificada para HA." 409))
  match body with
  | .obj body =>
      match crlActionOf body with
      | some action => do
          let caref ← refid (fieldD body "uuid" .null)
          match fieldD body "revision" .null with
          | .str revision => do
              raiseIf (!isRevision revision)
                (badRequest "Se requiere la revisión CRL vigente.")
              return { action, caref, revision, values := fieldD body "values" (.obj []) }
          | _ => .error (badRequest "Se requiere la revisión CRL vigente.")
      | none => .error (badRequest "Acción CRL inválida.")
  | _ => .error (badRequest "Acción CRL inválida.")

/-- The current list is the one the revision was computed from, and permits the action. -/
def checkState (request : CrlRequest) (current : CrlState) : Except Exn Unit := do
  let hash ← hashPayload current.json
  raiseIf (hash ≠ request.revision)
    (raised (.new "conflict" "La CRL cambió; recargue antes de guardar." 409))
  let present := !(current.text "descr").isEmpty
  raiseIf (if request.action = .create then present else !present)
    (raised (.new "conflict" "El estado de la CRL cambió." 409))

/-- The local variables of `mutate` that the change and its records use -/
structure CrlChange where
  host : Str
  actor : Str
  request : CrlRequest
  current : CrlState
  payload : List (Str × Json)
  started : Clock
  digest : Str

def CrlChange.entry (change : CrlChange) (result : Str) (now : Clock) : AuditEntry where
  ts := now.utcIso
  user := change.actor
  action := "crl." ++ change.request.action.name
  target := change.request.caref
  host := change.host
  result := result
  durationMs := now.monotonicMs - change.started.monotonicMs
  detail := []
  payloadSha256 := change.digest

/-- `record`; the state says whether the request was sent. -/
def record (change : CrlChange) (result : Str) : Py Role Bool Unit :=
  recordSent (change.entry result) "No se pudo registrar la operación CRL."

/-- The checks of the answer to a change -/
def checkAnswer (action : CrlAction) (response : Json) : Except Exn Unit := do
  let unconfirmed := upstreamError "OPNsense no confirmó la operación CRL."
  match response with
  | .obj fields => do
      raiseIf (fieldD fields "validations" .null).truthy
        (raised (.new "validation" "OPNsense rechazó la CRL." 422))
      raiseIf (!(fieldD fields "status" .null).isText
        (if action = .delete then "deleted" else "saved")) unconfirmed
  | _ => .error unconfirmed

/-- `set(left.split(',')) == set(right.split(','))` -/
def sameItems (left right : Str) : Bool :=
  (splitOn (code ',') left).all (· ∈ splitOn (code ',') right) &&
    (splitOn (code ',') right).all (· ∈ splitOn (code ',') left)

/-- The texts of the list that was read back are the requested ones. -/
def sameTexts (change : CrlChange) (after : CrlState) : Bool :=
  let wanted (name : Str) : Str := (fieldD change.payload name (.str [])).text
  let described := (["descr", "lifetime", "crlmethod"] : List Str).all fun name =>
    after.text name = wanted name
  described && if wanted "crlmethod" = "internal" then
      reasonNames.all fun name => sameItems (after.text name) (wanted name)
    else strip (after.text "text") = strip (wanted "text")

/-- `int(after['serial']) == int(current['serial']) + 1` -/
def nextSerial (current after : CrlState) : Except Exn Bool := do
  let serial ← (Json.str (after.text "serial")).toInt
  let previous ← (Json.str (current.text "serial")).toInt
  return serial = previous + 1

/-- Whether the list that was read back is the requested one -/
def matchesChange (change : CrlChange) (after : CrlState) : Except Exn Bool :=
  if change.request.action = .delete then
    return (after.text "descr").isEmpty && (after.text "text").isEmpty && after.text "serial" = "0"
  else if sameTexts change after then nextSerial change.current after
  else return false

/-- The readback of a change -/
def confirm (change : CrlChange) : Py Role Bool Unit := do
  let after ← raw change.request.caref
  let same ← Action.ofExcept (matchesChange change after)
  Action.raiseIf (!same) (raised (.new "verification"
    "La CRL guardada no coincide con lo solicitado." 502))
  record change "ok"

/-- The body of the `try` statement of `mutate`; it returns the reference of the list. -/
def attemptChange (change : CrlChange) : Py Role Bool Str := do
  Action.modifyState fun _ => true
  let delete : Bool := change.request.action = .delete
  let response ← callPost .client
    (base ++ (if delete then "del/" else "set/") ++ change.request.caref)
    (if delete then .obj [] else .obj [("crl", .obj change.payload)])
  Action.ofExcept (checkAnswer change.request.action response)
  confirm change
  return change.request.caref

/-- `except (ManagementError, ValueError)`: the error that the handler reports -/
def caughtError : Exn → Option ManagementError
  | .custom (.management error) => some error
  | .builtin .valueError _ | .builtin .unicodeEncodeError _ =>
      some (.new "invalid_response" "La revisión CRL recibida es inválida." 502)
  | _ => none

/-- The handler of the `try` statement of `mutate` -/
def recoverChange (change : CrlChange) (error : Exn) : Py Role Bool Str :=
  match caughtError error with
  | some error => do
      let reported := { error with
        isPartial := error.error ∉ (["validation", "auth"] : List Str)
        stage := some (error.stage.getD .crlWrite) }
      let stored ← (if error.auditFailure then pure () else record change "error").attempt
        isManagement
      match stored with
      | .ok () => Action.raise (raised reported)
      | .error _ => Action.raise (raised { reported with auditFailure := true })
  | none => Action.raise error

/-- `mutate` from the lock on, up to the record of the attempt -/
def prepareChange (service : CrlService) (request : CrlRequest) (started : Clock) :
    Py Role Bool CrlChange := do
  let current ← raw request.caref
  Action.ofExcept (checkState request current)
  let payload ← Action.ofExcept (service.payloadOf request.action request.values current)
  let digest ← Action.ofExcept (hashPayload (.obj payload))
  return ⟨service.client.name, service.actor, request, current, payload, started, digest⟩

def runChange (service : CrlService) (request : CrlRequest) : Py Role Bool Str := do
  let started ← readClock
  let change ← service.prepareChange request started
  record change "attempt"
  (attemptChange change).handle (recoverChange change)

/-- `mutate` -/
def mutate (service : CrlService) (body : Json) : Py Role Unit Str := do
  let request ← Action.ofExcept (service.accept body)
  let (caref, _) ← Action.withState false (service.runChange request)
  return caref

end CrlService

end OpnsensePlugin

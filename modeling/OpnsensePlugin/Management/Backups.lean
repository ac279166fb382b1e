import OpnsensePlugin.Effects.Action
import OpnsensePlugin.Environment
import OpnsensePlugin.Python.Decode
import OpnsensePlugin.Python.Equality
import OpnsensePlugin.Python.TextSize
import OpnsensePlugin.Python.Url
import OpnsensePlugin.Writers.Preflight

/-!
# Encrypted backups

`BackupStore`: a directory of encrypted copies, one file for each, and one key next
to it. Every operation on a file, and every entry of the audit log, may fail.
-/

namespace OpnsensePlugin

open Python Effects

namespace Backups

/-- `MAX_XML` -/
def maxXml : Nat := 16 * 1024 * 1024

/-- `MAX_ENVELOPE` -/
def maxEnvelope : Nat := 23 * 1024 * 1024

/-- `AESGCM`: it opens what it closed under the same key, nonce and associated data, and a closed
text carries a tag of sixteen bytes. -/
structure Cipher where
  encrypt (key nonce payload : Bytes) (associated : Str) : Bytes
  decrypt (key nonce closed : Bytes) (associated : Str) : Option Bytes
  decrypt_encrypt : ∀ {key nonce payload associated}, key.length = 32 → nonce.length = 12 →
    decrypt key nonce (encrypt key nonce payload associated) associated = some payload
  length_encrypt : ∀ {key nonce payload associated},
    (encrypt key nonce payload associated).length = payload.length + 16

/-- The libraries that the store calls -/
structure Library where
  cipher : Cipher
  /-- `ElementTree.fromstring` reads the payload, and its root is `opnsense`. -/
  parses : Bytes → Bool
  /-- `\w` -/
  isWord : CodePoint → Bool
  /-- `float`, of a text that `json` reads -/
  readFloat : Str → PyFloat
  /-- How deep `json` goes into a value, beyond the two objects of an envelope -/
  depth : Nat

/-! ## Errors -/

inductive BackupError
  | management (error : ManagementError)
  | invalidTag
  | fileNotFound
  | recursion

abbrev Exn := Raised BackupError

/-- `_error` -/
def backupError (detail : Str := "No se pudo procesar el respaldo.") (status : Nat := 502) : Exn :=
  .custom (.management (.new "backup" detail status))

/-- `except OSError` -/
def isOsError : Exn → Bool
  | .builtin .osError _ | .custom .fileNotFound => true
  | _ => false

/-- `except (OSError, ValueError, KeyError, TypeError, InvalidTag)` -/
def isDamage : Exn → Bool
  | .builtin .osError _ | .builtin .valueError _ | .builtin .unicodeEncodeError _ => true
  | .builtin .keyError _ | .builtin .typeError _ | .custom .invalidTag => true
  | _ => false

/-! ## Payloads -/

/-- `_xml` -/
def checkXml (library : Library) (payload : Bytes) : Except Exn Unit :=
  if payload.isEmpty || maxXml < payload.length then
    .error (backupError "El respaldo está vacío o excede 16 MiB.")
  else if library.parses payload then .ok ()
  else .error (backupError "El archivo no es un respaldo XML válido de OPNsense.")

/-- What becomes of the request for the file -/
inductive Download
  | timeout
  | failed
  | response (status : Nat) (contentLength : Option Str) (chunks : List Bytes)

/-- The chunks, as long as there are not too many bytes -/
def joinChunks : Nat → List Bytes → Except Exn Bytes
  | _, [] => .ok []
  | size, chunk :: rest =>
      if maxXml < size + chunk.length then .error (backupError "El respaldo excede 16 MiB.")
      else (joinChunks (size + chunk.length) rest).map (chunk ++ ·)

/-- The header is no number or too large a number. -/
def declaredTooLarge : Option Str → Except Exn Bool
  | none => .ok false
  | some declared =>
      if !isDigit declared then .ok true
      else match parseInt 10 declared with
        | none => .error (.builtin .valueError "invalid literal for int()")
        | some size => .ok (decide ((maxXml : Int) < size))

def receive : Download → Except Exn Bytes
  | .timeout =>
      .error (.custom (.management (.new "timeout" "OPNsense no entregó el respaldo a tiempo." 504)))
  | .failed => .error (backupError "Falló la descarga del respaldo.")
  | .response status contentLength chunks => do
      raiseIf (status = 401 || status = 403)
        (.custom (.management (.new "auth" "OPNsense denegó acceso al respaldo." 401)))
      raiseIf (status ≠ 200) (backupError "OPNsense no entregó el respaldo.")
      let tooLarge ← declaredTooLarge contentLength
      raiseIf tooLarge (backupError "El respaldo excede el tamaño permitido.")
      joinChunks 0 chunks

section Runtime

variable [Runtime]

/-- The address names a host and nothing else. -/
def checkUrl (url : Str) : Except Exn Unit :=
  match urlsplit url with
  | none => .error (.builtin .valueError "Invalid URL")
  | some parsed =>
      raiseIf ((parsed.hostname.getD []).isEmpty || !(parsed.username.getD []).isEmpty ||
          !(parsed.password.getD []).isEmpty || !parsed.query.isEmpty || !parsed.fragment.isEmpty)
        (backupError "La dirección del firewall no es válida." 400)

/-- `_download` -/
def download (library : Library) (host : Host) (reply : Download) : Except Exn Bytes := do
  raiseIf (!("https://" : Str).isPrefixOf host.url) (backupError "El firewall requiere HTTPS." 400)
  checkUrl host.url
  let payload ← receive reply
  checkXml library payload
  return payload

/-! ## Envelopes -/

/-- `hashlib.sha256(payload).hexdigest()` -/
def payloadDigest (payload : Bytes) : Str := Sha256.digest (payload.map Fin.val)

/-- `_canonical`: the text whose UTF-8 encoding is meant -/
def canonical (value : Json) : Except Exn Str :=
  if value.dumps.all isEncodable then .ok value.dumps
  else .error (.builtin .unicodeEncodeError "surrogates not allowed")

/-- The metadata of a copy; its `source` and its `format` are always the same. -/
structure Metadata where
  id : Str
  date : Str
  host : Str
  sha256 : Str
  size : Nat

/-- The members in the order of their names, which is the order of the canonical text -/
def Metadata.members (metadata : Metadata) : List (Str × Json) :=
  [("date", .str metadata.date), ("format", .str "opnsense-xml"), ("host", .str metadata.host),
    ("id", .str metadata.id), ("sha256", .str metadata.sha256), ("size", .int metadata.size),
    ("source", .str "latest_historical_backup")]

def Metadata.json (metadata : Metadata) : Json := .obj metadata.members

def envelope (metadata : Json) (nonce closed : Bytes) : Json :=
  .obj [("ciphertext", .str (Base64.encode closed)), ("metadata", metadata),
    ("nonce", .str (Base64.encode nonce)), ("version", .int 1)]

/-- `value[key]` -/
def member (value : Json) (key : Str) : Except Exn Json :=
  match value with
  | .obj fields => match field fields key with
      | some found => .ok found
      | none => .error (.builtin .keyError key)
  | _ => .error (.builtin .typeError "indices must be integers")

/-- `base64.b64decode(value, validate=True)` -/
def decoded (value : Json) : Except Exn Bytes :=
  match value with
  | .str text => match Base64.decode text with
      | some bytes => .ok bytes
      | none => .error (.builtin .valueError "Invalid base64")
  | _ => .error (.builtin .typeError "argument should be bytes or text")

/-- What `_load` reads in a file before it needs the key: metadata, nonce and ciphertext -/
def parseEnvelope (library : Library) (ident raw : Str) : Except Exn (Json × Bytes × Bytes) := do
  if maxEnvelope < byteLength raw then throw (.builtin .valueError [])
  let envelope ← match loads library.readFloat (library.depth + 2) raw with
    | .ok value => pure value
    | .error .recursion => throw (.custom .recursion)
    | .error _ => throw (.builtin .valueError "Invalid JSON")
  let metadata ← member envelope "metadata"
  if !(← member envelope "version").same (.int 1) then throw (.builtin .valueError [])
  if !(← member metadata "id").same (.str ident) then throw (.builtin .valueError [])
  let nonce ← decoded (← member envelope "nonce")
  let closed ← decoded (← member envelope "ciphertext")
  if nonce.length ≠ 12 then throw (.builtin .valueError [])
  return (metadata, nonce, closed)

/-- What `_load` does once it has the key -/
def openEnvelope (library : Library) (key : Bytes) (metadata : Json) (nonce closed : Bytes) :
    Except Exn Bytes := do
  let associated ← canonical metadata
  let payload ← match library.cipher.decrypt key nonce closed associated with
    | some payload => pure payload
    | none => throw (.custom .invalidTag)
  if !(Json.int payload.length).same (← member metadata "size") then
    throw (.builtin .valueError [])
  if !(Json.str (payloadDigest payload)).same (← member metadata "sha256") then
    throw (.builtin .valueError [])
  checkXml library payload
  return payload

/-! ## The directory -/

/-- What the store asks of the audit log and of the file system -/
inductive Operation
  | append (action target digest : Str)
  | stat
  | isLink
  | exists
  | scan
  | makeKey
  | writeKey
  | readKey
  | makeDraft
  | writeDraft
  | replace
  | readBackup
  | unlink

/-- An operation succeeds, or it fails, after so many bytes if it writes. -/
abbrev Answer (_ : Operation) : Type := Option Nat

/-- The directory, and the key next to it: its `.enc` files by the names they have without that
ending, and its `.tmp` files. `made` counts the key files that were made; the source does not. -/
structure Disk where
  key : Option Bytes := none
  backups : List (Str × Str) := []
  drafts : List Str := []
  made : Nat := 0

abbrev Store (α : Type) : Type := Action Operation Answer Disk Exn α

/-- An operation whose failure is raised as the error -/
def attempt (operation : Operation) (error : Exn) : Store Unit := do
  match ← Action.ask operation with
  | none => pure ()
  | some _ => Action.raise error

def perform (operation : Operation) : Store Unit := attempt operation (.builtin .osError [])

/-- `_pinned` -/
def pinned : Store Unit := attempt .stat (backupError "El directorio de respaldos cambió." 409)

/-- `_path`; a canonical identifier names a file of the directory itself. -/
def path (ident : Json) : Store Str :=
  match ident with
  | .str text =>
      if (parseUuid text).map uuidText = some text then do
        pinned
        perform .isLink
        return text
      else Action.raise (backupError "Identificador de respaldo inválido." 400)
  | _ => Action.raise (backupError "Identificador de respaldo inválido." 400)

/-- `_record` -/
def record (action ident : Str) : Store Unit :=
  attempt (.append ("backup." ++ action) ident [])
    (.custom (.management (.new "audit" "No se pudo registrar el acceso al respaldo." 503)))

/-- `self.key_path.exists()`: some failures are taken for a missing file. -/
def keyExists : Store Bool := do
  match ← Action.ask .exists with
  | none => return (← Action.readState).key.isSome
  | some 0 => return false
  | some _ => Action.raise (.builtin .osError [])

/-- `self.root.glob('*.enc')`: some failures of the scan are passed over. -/
def scan : Store (List Str) := do
  match ← Action.ask .scan with
  | none => return (← Action.readState).backups.map Prod.fst
  | some 0 => return []
  | some _ => Action.raise (.builtin .osError [])

/-- The part of `_key` that makes the key, unless the file exists after all -/
def makeKey (token : Bytes) : Store Unit := do
  perform .makeKey
  if (← Action.readState).key.isSome then pure ()
  else
    Action.modifyState fun disk => { disk with key := some [], made := disk.made + 1 }
    match ← Action.ask .writeKey with
    | none => Action.modifyState fun disk => { disk with key := some token }
    | some written =>
        Action.modifyState fun disk => { disk with key := some (token.take written) }
        Action.raise (.builtin .osError [])

/-- The part of `_key` that reads the key -/
def readKey : Store Bytes := do
  let unreadable : Exn := backupError "La llave de respaldos no está disponible o es inválida." 409
  match ← Action.ask .readKey with
  | some _ => Action.raise unreadable
  | none =>
      match (← Action.readState).key with
      | none => Action.raise unreadable
      | some stored =>
          let value := stored.take 33
          if value.length ≠ 32 then Action.raise unreadable else return value

/-- `_key(create)`; `token` is what `secrets.token_bytes(32)` returns. -/
def key (token : Option Bytes) : Store Bytes := do
  pinned
  perform .isLink
  match token with
  | none => pure ()
  | some token =>
      if ← keyExists then pure ()
      else
        if !(← scan).isEmpty then
          Action.raise
            (backupError "Falta la llave de los respaldos existentes; no se generará otra." 409)
        makeKey token
  readKey

/-! ## Calls -/

/-- `datetime.now(timezone.utc)` -/
structure Clock where
  year : Fin 10000
  month : Fin 13
  day : Fin 32
  hour : Fin 24
  minute : Fin 60
  second : Fin 60
  microsecond : Fin 1000000

/-- The last digits of a number -/
def padded : Nat → Nat → Str
  | 0, _ => []
  | width + 1, n => padded width (n / 10) ++ [code '0' + n % 10]

/-- `isoformat()` -/
def Clock.isoformat (clock : Clock) : Str :=
  let fraction : Str :=
    if clock.microsecond.val = 0 then [] else code '.' :: padded 6 clock.microsecond.val
  padded 4 clock.year.val ++ [code '-'] ++ padded 2 clock.month.val ++ [code '-'] ++
    padded 2 clock.day.val ++ [code 'T'] ++ padded 2 clock.hour.val ++ [code ':'] ++
    padded 2 clock.minute.val ++ [code ':'] ++ padded 2 clock.second.val ++ fraction ++ "+00:00"

/-- What `create` draws: a version 4 UUID, the time, and bytes for a key and a nonce -/
structure Draw where
  ident : Str
  clock : Clock
  token : Bytes
  nonce : Bytes
  canonical_ident : (parseUuid ident).map uuidText = some ident
  length_token : token.length = 32
  length_nonce : nonce.length = 12

def Draw.metadata (library : Library) (host : Host) (payload : Bytes) (draw : Draw) : Metadata where
  id := draw.ident
  date := draw.clock.isoformat
  host := (host.name.filter fun c =>
    library.isWord c || c = code ' ' || c = code '.' || c = code '-').take 80
  sha256 := payloadDigest payload
  size := payload.length

/-- `create`, from the temporary file on -/
def save (ident : Str) (text : Except Exn Str) : Store Unit :=
  Action.finallyDo
    (Action.handle
      (do
        perform .makeDraft
        Action.raiseIf (ident ∈ (← Action.readState).drafts) (.builtin .osError [])
        Action.modifyState fun disk => { disk with drafts := disk.drafts ++ [ident] }
        let text ← Action.ofExcept text
        perform .writeDraft
        pinned
        perform .replace
        Action.modifyState fun disk =>
          { disk with
            drafts := disk.drafts.filter (· ≠ ident), backups := setField ident text disk.backups })
      fun error =>
        if isOsError error then
          Action.raise (backupError "No se pudo guardar el respaldo cifrado." 503)
        else Action.raise error)
    (Action.modifyState fun disk => { disk with drafts := disk.drafts.filter (· ≠ ident) })

/-- `create(host)` -/
def create (library : Library) (host : Host) (reply : Download) (draw : Draw) : Store Json := do
  pinned
  record "create" []
  let payload ← Action.ofExcept (download library host reply)
  let metadata := (draw.metadata library host payload).json
  let value ← key (some draw.token)
  let associated ← Action.ofExcept (canonical metadata)
  let closed := library.cipher.encrypt value draw.nonce payload associated
  let target ← path (.str draw.ident)
  save target (canonical (envelope metadata draw.nonce closed))
  return metadata

/-- `_load(ident)` -/
def load (library : Library) (ident : Json) : Store (Json × Bytes) := do
  let name ← path ident
  Action.handle
    (do
      perform .readBackup
      match field (← Action.readState).backups name with
      | none => Action.raise (.custom .fileNotFound)
      | some raw => do
          let (metadata, nonce, closed) ← Action.ofExcept (parseEnvelope library name raw)
          let value ← key none
          let payload ← Action.ofExcept (openEnvelope library value metadata nonce closed)
          return (metadata, payload))
    fun error =>
      match error with
      | .custom .fileNotFound => Action.raise (backupError "Respaldo no encontrado." 404)
      | error =>
          if isDamage error then
            Action.raise (backupError "El respaldo está dañado o no puede autenticarse." 409)
          else Action.raise error

def loadAll (library : Library) : List Str → Store (List Json)
  | [] => pure []
  | name :: rest => do
      let (metadata, _) ← load library (.str name)
      let more ← loadAll library rest
      return metadata :: more

/-- `item['date']`; other dates than texts cannot be compared. -/
def dateOf (metadata : Json) : Except Exn Str := do
  match ← member metadata "date" with
  | .str date => return date
  | _ => throw (.builtin .typeError "not supported between instances")

/-- `list()` -/
def list (library : Library) : Store (List Json) := do
  pinned
  let names ← scan
  let results ← loadAll library (names.insertionSort fun first second =>
    strLe (first ++ ".enc") (second ++ ".enc") = true)
  let dates ← Action.ofExcept (results.mapM dateOf)
  return ((results.zip dates).insertionSort fun first second => strLe second.2 first.2 = true).map
    Prod.fst

/-- `read(ident)` -/
def read (library : Library) (ident : Json) : Store Bytes := do
  let name ← path ident
  record "download" name
  let (_, payload) ← load library ident
  return payload

/-- `delete(ident)` -/
def delete (library : Library) (ident : Json) : Store Str := do
  let name ← path ident
  record "delete" name
  let _ ← load library ident
  Action.handle
    (do
      pinned
      perform .unlink
      Action.modifyState fun disk =>
        { disk with backups := disk.backups.filter fun entry => entry.1 ≠ name })
    fun error =>
      if isOsError error then Action.raise (backupError "No se pudo eliminar el respaldo." 503)
      else Action.raise error
  return name

/-- A call, with what the network and the random numbers are for it -/
inductive Call
  | create (host : Host) (reply : Download) (draw : Draw)
  | read (ident : Json)
  | list
  | delete (ident : Json)

inductive Result
  | created (metadata : Json)
  | payload (bytes : Bytes)
  | listed (items : List Json)
  | deleted (ident : Str)

def Call.run (library : Library) : Call → Store Result
  | .create host reply draw => do return .created (← Backups.create library host reply draw)
  | .read ident => do return .payload (← Backups.read library ident)
  | .list => do return .listed (← Backups.list library)
  | .delete ident => do return .deleted (← Backups.delete library ident)

end Runtime

end Backups

end OpnsensePlugin

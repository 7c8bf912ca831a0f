import NovenaGateway.Native.Config
import NovenaGateway.Native.RpcHandler
import NovenaGateway.Native.RpcRequest

/-!
# Firmware updates

`_cmd_update_firmware` of `rpc_handler.py` with the checks of `ota_security.py`. A command is
verified and then works on the staging directory it shares with the others: every operation on a
file is one step, and a list of labels is one interleaving of any number of commands. The device
lock of `execute` keeps two commands for one device apart. The branch for Windows, the published
OTA status and the log are left out.
-/

namespace Novena

/-- The type of a tar member, as far as `validate_tarball` asks. -/
inductive MemberType where
  | plain
  | symlink
  | hardlink
  | device
  | fifo
  deriving DecidableEq

/-- `tarfile.TarInfo`. -/
structure TarMember where
  name : String
  type : MemberType
  mode : Int

/-- What the checks of an update use from outside. -/
structure OtaHost where
  /-- `_handler_config`. -/
  handlerConfig : Json
  /-- `load_public_key` of the file at a path. -/
  loadPublicKey : Json → Py (List UInt8)
  /-- Ed25519 under a key accepts a base64 signature over the canonical bytes of a manifest. -/
  verifies : List UInt8 → Json → Json → Bool
  /-- `datetime.fromisoformat` after `Z` was replaced, moved to UTC. -/
  fromisoformat : String → Py IsoTime
  /-- The scheme and the host name `urlparse` finds. -/
  urlparse : String → Py (String × Option String)
  /-- The hexadecimal SHA-256. -/
  sha256 : List UInt8 → String
  /-- The members of a gzipped tar file. -/
  getmembers : List UInt8 → Py (List TarMember)
  /-- `Path(path).expanduser().resolve()`. -/
  resolve : String → String
  /-- `json.dump` of the trusted manifest. -/
  dump : Json → List UInt8

namespace Ota

open RpcRequest (literal oneOf splitChar)

/-- `raise OtaSecurityError(msg)` unless `b`; the class derives from `ValueError`. -/
def require (b : Bool) (msg : String) : Py Unit :=
  if b then .ok () else .error (.valueError msg)

/-! ## The manifest -/

/-- `DEFAULT_OTA_PUBLIC_KEY_PATH`. -/
def defaultPublicKeyPath : String := "/etc/novena-gateway/trust/ota_vendor_ed25519.pub"

/-- `DEFAULT_OTA_KEY_ID`. -/
def defaultKeyId : String := "novena-ota-v1"

/-- `MAX_MANIFEST_AGE_SECONDS`. -/
def maxManifestAgeSeconds : Int := 60 * 60 * 24 * 30

/-- `gateway_version`. -/
def gatewayVersion : String := "0.1.0"

/-- `\d+` at the front: the digits and what follows them. -/
def digits (cs : List Char) : Option (List Nat × List Char) :=
  match cs.takeWhile fun c => (digitValue? c).isSome with
  | [] => none
  | ds => some (ds.filterMap digitValue?, cs.drop ds.length)

/-- `VERSION_RE`: the digits of the three numbers. -/
def matchVersion (s : String) : Option (List (List Nat)) := do
  let (major, cs) ← digits s.toList
  let (minor, cs) ← digits (← literal "." cs)
  let (patch, cs) ← digits (← literal "." cs)
  if cs = [] then return [major, minor, patch]
  let (_, cs) ← digits (← oneOf ["-rc.", "-canary."] cs)
  if cs = [] then return [major, minor, patch] else none

/-- `SHA256_RE`. -/
def matchesSha256 (s : String) : Bool :=
  s.length = 64 && s.toList.all fun c => c.isDigit || ('a' ≤ c.toLower && c.toLower ≤ 'f')

/-- A hexadecimal SHA-256 in a manifest. -/
def digestText : Json → Py String
  | .str s =>
    if matchesSha256 s then .ok s else .error (.valueError "Manifest artifact_sha256 is invalid")
  | _ => .error (.valueError "Manifest artifact_sha256 is invalid")

/-- `_normalised_version`. -/
def normalisedVersion : Json → Py String
  | .str s => if (matchVersion s).isSome then .ok s
    else .error (.valueError "Manifest version is invalid")
  | _ => .error (.valueError "Manifest version is invalid")

/-- `_version_tuple`. `int()` refuses more than 4300 digits. -/
def versionTuple (value : Json) : Py (List Nat) := do
  let parts := (matchVersion (← normalisedVersion value)).getD []
  parts.mapM fun ds => do
    require (ds.length ≤ 4300) "Exceeds the limit for integer string conversion"
    return ofDigits ds

/-- `_parse_iso_datetime`, in microseconds. -/
def parseIsoDatetime (host : OtaHost) (value : Json) (fieldName : String) : Py Int := do
  require value.truthy ("Manifest missing " ++ fieldName)
  match value with
  | .str s => match host.fromisoformat s with
    | .ok t => return t.utc
    | .error e =>
      throw (if e.isValueError then .valueError ("Manifest has invalid " ++ fieldName) else e)
  | _ => throw .attributeError

/-- `_validate_compatibility`. -/
def validateCompatibility (manifest : Json) : Py Unit := do
  let current ← versionTuple (.str gatewayVersion)
  let minimum ← manifest.get "minimum_gateway_version"
  let maximum ← manifest.get "maximum_gateway_version"
  if minimum.truthy then
    require (¬ current < (← versionTuple minimum)) "Gateway version is below manifest minimum"
  if maximum.truthy then
    require (¬ (← versionTuple maximum) < current) "Gateway version is above manifest maximum"

/-- The elements of `set(value)`. -/
def keySet : Json → Py (List Json.Key)
  | .arr items => items.mapM Json.hashKey
  | .obj fields => .ok (fields.map fun p => .str p.1)
  | .str s => .ok (s.toList.map fun c => .str (String.singleton c))
  | _ => .error .typeError

/-- A positive `int`; a Boolean is one. -/
def positiveInt : Json → Option Nat
  | .int n => if 0 < n then some n.toNat else none
  | .bool true => some 1
  | _ => none

/-- What `verify_manifest` returns: the fields that are used, and the whole dictionary. -/
structure TrustedManifest where
  version : String
  artifactUrl : String
  artifactSha256 : String
  sizeBytes : Nat
  fields : Dict String Json

/-- `verify_manifest`. -/
def verifyManifest (host : OtaHost) (manifest signature publicKeyPath trustedKeyIds : Json)
    (now : Int) : Py TrustedManifest := do
  -- the form of the manifest, then its signature
  let fields ← match manifest with
    | .obj fields => pure fields
    | _ => throw (.valueError "Manifest must be a JSON object")
  require signature.truthy "Missing manifest signature"
  let trusted ← keySet (trustedKeyIds.orElse (.arr [.str defaultKeyId]))
  let keyId ← (← manifest.get "key_id").hashKey
  require (keyId ∈ trusted) "Manifest key id is not trusted"
  let publicKey ← host.loadPublicKey publicKeyPath
  require (host.verifies publicKey manifest signature) "Manifest signature verification failed"
  -- the signed fields, each with its own error
  let version ← normalisedVersion (← manifest.get "version")
  let artifactUrl ← match ← manifest.get "artifact_url" with
    | .str url => pure url
    | _ => throw (.valueError "Manifest artifact_url is invalid")
  let (scheme, hostname) ← host.urlparse artifactUrl
  require (scheme = "https" ∨
    scheme = "http" ∧ (hostname = some "localhost" ∨ hostname = some "127.0.0.1"))
    "Manifest artifact URL must use HTTPS"
  let artifactSha256 ← digestText (← manifest.get "artifact_sha256")
  let sizeBytes ← match positiveInt (← manifest.get "size_bytes") with
    | some n => pure n
    | none => throw (.valueError "Manifest size_bytes is invalid")
  let channel ← manifest.get "channel"
  require (["stable", "pilot", "canary"].any fun c => channel.eq (.str c))
    "Manifest channel is invalid"
  -- the window of time
  let issuedAt ← parseIsoDatetime host (← manifest.get "issued_at") "issued_at"
  let expiresAt ← parseIsoDatetime host (← manifest.get "expires_at") "expires_at"
  require (now < expiresAt) "Manifest has expired"
  require (issuedAt ≤ now) "Manifest issued_at is in the future"
  require (expiresAt - issuedAt ≤ maxManifestAgeSeconds * 1000000)
    "Manifest validity window is too long"
  -- the version of the gateway must be within the bounds of the manifest
  validateCompatibility manifest
  let artifactSha256 := lower artifactSha256
  return { version, artifactUrl, artifactSha256, sizeBytes
           fields := Dict.set (Dict.set fields "version" (.str version)) "artifact_sha256"
             (.str artifactSha256) }

/-! ## The staging directory -/

/-- `base / name` of a resolved path. -/
def joinPath (base name : String) : String :=
  if base.toList.getLast? = some '/' then base ++ name else base ++ "/" ++ name

/-- `os.path.commonpath([base, candidate]) == base` of resolved paths. -/
def isWithin (base candidate : String) : Bool :=
  candidate = base || startsWith candidate (joinPath base "")

/-- A path in a configuration. -/
def pathText : Json → Py String
  | .str s => .ok s
  | _ => .error .typeError

/-- `resolve_child_path`. -/
def resolveChildPath (host : OtaHost) (baseDir filename : String) : Py String := do
  let base := host.resolve baseDir
  let candidate := host.resolve (joinPath base filename)
  require (isWithin base candidate) "Resolved OTA path escapes its base directory"
  return candidate

/-- `safe_release_dir`. -/
def safeReleaseDir (host : OtaHost) (installDir : String) (version : String) : Py String := do
  let releases := host.resolve (joinPath (host.resolve installDir) "releases")
  let candidate := host.resolve (joinPath releases ("novena-gateway-" ++ version))
  require (isWithin releases candidate) "Resolved release path escapes releases directory"
  return candidate

/-- `UPDATE_PATH`. -/
def updatePath : String := dataDir ++ "/update"

/-- A verified command: its manifest and the two files it stages. -/
structure Update where
  manifest : TrustedManifest
  destTar : String
  manifestPath : String

/-- `_cmd_update_firmware` up to the download, under the configuration of the gateway at that
    time. -/
def prepare (host : OtaHost) (config params : Json) (now : Int) : Py Update := do
  -- parameters of the caller cannot switch HTTPS off
  if (← params.get "allow_insecure").truthy then
    throw (.valueError "Caller-controlled OTA HTTPS bypass is not allowed")
  let manifest ← params.get "manifest"
  let signature ← params.get "signature"
  require (manifest.truthy && signature.truthy) "Missing signed OTA manifest or signature"
  -- the path of the key comes from the configuration, then from the handler
  let otaConfig ← config.getD "ota" (.obj [])
  let publicKeyPath ← otaConfig.getD "public_key_path"
    (← host.handlerConfig.getD "ota_public_key_path" (.str defaultPublicKeyPath))
  let trustedKeyIds ← otaConfig.get "trusted_key_ids"
  let trustedKeyIds ← if trustedKeyIds.truthy then pure trustedKeyIds
    else host.handlerConfig.get "ota_trusted_key_ids"
  let trusted ← verifyManifest host manifest signature publicKeyPath trustedKeyIds now
  -- the paths are resolved before anything is downloaded
  let storageConfig ← config.getD "storage" (.obj [])
  let updateDir ← pathText ((← storageConfig.get "update_path").orElse (.str updatePath))
  let installDir ← pathText
    ((← storageConfig.get "install_path").orElse (.str "/opt/novena-gateway"))
  let _ ← safeReleaseDir host installDir trusted.version
  let destTar ← resolveChildPath host updateDir ("firmware_" ++ trusted.version ++ ".tar.gz")
  let manifestPath ← resolveChildPath host updateDir ("manifest_" ++ trusted.version ++ ".json")
  return ⟨trusted, destTar, manifestPath⟩

/-- `PurePosixPath(name).is_absolute()` or `..` in its parts. -/
def unsafePath (name : String) : Bool :=
  startsWith name "/" || "..".toList ∈ splitChar '/' name.toList

/-- The checks of `validate_tarball` on one member. -/
def validateMember (m : TarMember) : Py Unit := do
  require (!unsafePath m.name) ("Unsafe archive path: " ++ m.name)
  require (m.type ≠ .symlink ∧ m.type ≠ .hardlink) ("Archive links are not allowed: " ++ m.name)
  require (m.type ≠ .device ∧ m.type ≠ .fifo)
    ("Archive special files are not allowed: " ++ m.name)
  -- the second bit of the mode
  require (m.mode % 4 < 2) ("World-writable archive entry is not allowed: " ++ m.name)

/-- Digests are compared in lower case. -/
def sameDigest (a b : String) : Bool := lower a = lower b

end Ota

/-! ## The commands -/

open Ota (Update)

/-- What a command does next. -/
inductive UpdatePhase where
  | accepted
  | downloaded
  | sized
  | hashed
  | validated
  | recorded
  /-- The artifact was refused and is removed. -/
  | discarding (error : String)
  deriving DecidableEq

/-- A command under execution, with the lock it holds. -/
structure UpdateWorker where
  lock : Json.Key
  update : Update
  phase : UpdatePhase

/-- A call of the helper's `run-upgrade` with the file at the path it passes. -/
structure HelperCall where
  update : Update
  content : Option (List UInt8)

/-- The commands that run, the staged files and the calls of the helper. No function reads the
    calls. -/
structure UpdateState where
  workers : Dict Nat UpdateWorker
  nextId : Nat
  files : String → Option (List UInt8)
  calls : List HelperCall

/-- How `urlopen`, `open`, `read` and `write` end. -/
inductive Download where
  | unreachable
  /-- An exception after the file was opened; these bytes are in it. -/
  | interrupted (written : List UInt8)
  | received (body : List UInt8)

namespace UpdateState

/-- One operation of a command. -/
inductive Label where
  /-- `execute` takes the lock and calls the handler. `made` says whether the directory is there
      or can be made. -/
  | start (job : Job) (config : Json) (now : Int) (made : Bool)
  | download (i : Nat) (outcome : Download)
  | checkSize (i : Nat)
  | checkHash (i : Nat)
  | validateTarball (i : Nat)
  /-- `os.remove`, which may fail. -/
  | discard (i : Nat) (removed : Bool)
  /-- `some written` when an exception leaves these bytes in the file. -/
  | writeManifest (i : Nat) (interrupted : Option (List UInt8))
  | runUpgrade (i : Nat)

/-- A command goes on. -/
def goto (s : UpdateState) (i : Nat) (w : UpdateWorker) (phase : UpdatePhase) : UpdateState :=
  { s with workers := s.workers.set i { w with phase } }

/-- A command returns or raises. -/
def finish (s : UpdateState) (i : Nat) : UpdateState :=
  { s with workers := s.workers.erase i }

/-- What a path holds from now on. -/
def write (s : UpdateState) (path : String) (content : Option (List UInt8)) : UpdateState :=
  { s with files := Function.update s.files path content }

variable (host : OtaHost)

def start (s : UpdateState) (job : Job) (config : Json) (now : Int) (made : Bool) :
    Option UpdateState :=
  match job.lockKey with
  | .error _ => some s
  | .ok lock =>
    -- a device has one command at a time
    if s.workers.any fun p => p.2.lock = lock then none
    else match Ota.prepare host config (.obj job.params) now with
      | .ok update =>
        -- `os.makedirs`
        if made then
          some { s with workers := s.workers.set s.nextId ⟨lock, update, .accepted⟩
                        nextId := s.nextId + 1 }
        else some s
      | .error _ => some s

def download (s : UpdateState) (i : Nat) (w : UpdateWorker) : Download → UpdateState
  | .unreachable => s.finish i
  | .interrupted written => (s.write w.update.destTar (some written)).finish i
  | .received body => (s.write w.update.destTar (some body)).goto i w .downloaded

def checkSize (s : UpdateState) (i : Nat) (w : UpdateWorker) : UpdateState :=
  match s.files w.update.destTar with
  | none => s.finish i
  | some bytes =>
    if bytes.length = w.update.manifest.sizeBytes then s.goto i w .sized
    else s.goto i w (.discarding "Firmware size mismatch")

def checkHash (s : UpdateState) (i : Nat) (w : UpdateWorker) : UpdateState :=
  match s.files w.update.destTar with
  | none => s.finish i
  | some bytes =>
    if Ota.sameDigest (host.sha256 bytes) w.update.manifest.artifactSha256 then s.goto i w .hashed
    else s.goto i w (.discarding "Firmware checksum mismatch")

def validateTarball (s : UpdateState) (i : Nat) (w : UpdateWorker) : UpdateState :=
  match s.files w.update.destTar with
  | none => s.finish i
  | some bytes => match host.getmembers bytes with
    -- `tarfile` raises no `OtaSecurityError`
    | .error _ => s.finish i
    | .ok members => match members.forM Ota.validateMember with
      | .ok _ => s.goto i w .validated
      | .error e => s.goto i w (.discarding e.text)

def discard (s : UpdateState) (i : Nat) (w : UpdateWorker) (removed : Bool) : UpdateState :=
  (if removed then s.write w.update.destTar none else s).finish i

def writeManifest (s : UpdateState) (i : Nat) (w : UpdateWorker) :
    Option (List UInt8) → UpdateState
  | none => (s.write w.update.manifestPath
      (some (host.dump (.obj w.update.manifest.fields)))).goto i w .recorded
  | some written => (s.write w.update.manifestPath (some written)).finish i

/-- `run-upgrade`; the command ends with it, whatever the helper answers. -/
def runUpgrade (s : UpdateState) (i : Nat) (w : UpdateWorker) : UpdateState :=
  finish { s with calls := s.calls ++ [⟨w.update, s.files w.update.destTar⟩] } i

/-- The step of a command that runs, when it is its next one. -/
def act (s : UpdateState) (i : Nat) (w : UpdateWorker) : Label → Option UpdateState
  | .start .. => none
  -- each action belongs to one phase
  | .download _ outcome => if w.phase = .accepted then some (s.download i w outcome) else none
  | .checkSize _ => if w.phase = .downloaded then some (s.checkSize i w) else none
  | .checkHash _ => if w.phase = .sized then some (s.checkHash host i w) else none
  | .validateTarball _ => if w.phase = .hashed then some (s.validateTarball host i w) else none
  | .discard _ removed => match w.phase with
    | .discarding _ => some (s.discard i w removed)
    | _ => none
  | .writeManifest _ interrupted =>
    if w.phase = .validated then some (s.writeManifest host i w interrupted) else none
  | .runUpgrade _ => if w.phase = .recorded then some (s.runUpgrade i w) else none

/-- One step: a command starts or makes its next operation. -/
def step (s : UpdateState) : Label → Option UpdateState
  | .start job config now made =>
    if job.method = "update_firmware" then s.start host job config now made else none
  | label@(.download i _) | label@(.checkSize i) | label@(.checkHash i)
  | label@(.validateTarball i) | label@(.discard i _) | label@(.writeManifest i _)
  | label@(.runUpgrade i) => (s.workers.get? i).bind fun w => s.act host i w label

/-- No command runs. -/
def init (files : String → Option (List UInt8)) : UpdateState := ⟨[], 0, files, []⟩

end UpdateState

end Novena

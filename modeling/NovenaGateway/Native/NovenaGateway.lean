import NovenaGateway.ForStd.Steps
import NovenaGateway.Native.ClaimBuffer
import NovenaGateway.Native.DeploymentSetup

/-!
# The gateway process

`NovenaGateway` with the parts of its handlers that outlive a message, the files among them: the
configuration, the connectors, the publisher with its buffer, the journal of configuration
requests, and the guard of governed commands. Files can be read and written.
-/

namespace Novena

/-- Where the main thread is with `_start_connectors`: before it, in its loop with these entries
    still to visit, or past it. -/
inductive Startup where
  | waiting
  | visiting (entries : List Json)
  | done

/-- `NovenaGateway` and the files it owns. -/
structure NovenaGateway where
  /-- `config.json`. -/
  configFile : Json
  /-- `_config`. -/
  config : Json
  /-- `_connectors`, by name. -/
  connectors : List Json
  startup : Startup
  publisher : MqttPublisher
  /-- Where the publisher's buffer lies. -/
  buffer : BufferPlace
  /-- The events in the database files of the other directories. -/
  buffers : String → List MqttEvent
  /-- `_remote_config._envelope_guard.journal`. -/
  configJournal : ConfigReplayJournal
  /-- `_rpc_handler._governance`. -/
  governance : GovernedCommandGuard

namespace NovenaGateway

/-- `_reset_field_state_for_new_claim` with the resets it calls. The two journals and the guard
    change in memory before their file is replaced. -/
def resetFieldState (config : Json) : List (Step NovenaGateway) :=
  [⟨false, fun g => { g with connectors := [], config }⟩,
   ⟨false, fun g => { g with configJournal := (g.configJournal.reset false).1 }⟩,
   ⟨true, fun g => { g with configJournal := (g.configJournal.reset true).1 }⟩,
   ⟨false, fun g => { g with governance := (g.governance.resetForNewClaim false false).1 }⟩,
   ⟨true, fun g => { g with governance := (g.governance.resetForNewClaim true false).1 }⟩,
   ⟨true, fun g => { g with governance := (g.governance.resetForNewClaim true true).1 }⟩]

/-- The removal of the directory that `data_file_path` is taken for. The database files of the
    publisher go with it if they are there or below. -/
def eraseBuffer (g : NovenaGateway) : NovenaGateway :=
  { g with
    buffers := fun directory => if g.buffer.removes directory then [] else g.buffers directory
    publisher := { g.publisher with
      storage := if g.buffer.removes g.buffer.directory then [] else g.publisher.storage } }

/-- `clear_claim_buffer`, which gives up between the two when the replay thread does not stop. In a
    directory that is not a safe one it always does. -/
def clearClaimBuffer : List (Step NovenaGateway) :=
  [⟨false, fun g => { g with publisher :=
      { g.publisher with releaseInProgress := true, queue := [] } }⟩,
   ⟨true, eraseBuffer⟩]

/-- What survives the process. -/
structure Disk where
  config : Json
  /-- The events in the database files of a directory. -/
  buffers : String → List MqttEvent
  configJournal : Option ReplayState
  policy : Option Json
  commandJournal : JournalFile

/-- The files of a gateway. -/
def disk (g : NovenaGateway) : Disk where
  config := g.configFile
  buffers := fun directory =>
    if directory = g.buffer.directory then g.publisher.storage else g.buffers directory
  configJournal := g.configJournal.file
  policy := g.governance.policyFile
  commandJournal := g.governance.journal.file

/-- The section `mqtt` the publisher is made from, with what `__init__` adds to it. -/
def publisherConfig (config : Json) : Py (Dict String Json) := do
  match ← config.item "mqtt" with
  | .obj mqtt =>
    let keys ← (← (← config.getD "features" (.obj [])).getD "rpc" (.obj [])).getD
      "trusted_command_keys" (.obj [])
    let mqtt := match config.item "bootstrap_mqtt" with
      | .ok bootstrap => Dict.set mqtt "bootstrap_mqtt" bootstrap
      | .error _ => mqtt
    return Dict.set mqtt "trusted_release_keys" keys
  | _ => throw .typeError

/-- `__init__` with `_load_config`, which leaves when the configuration is not valid. The process
    has read its files and has not yet started a connector. -/
def boot (host : Host) (cfg : GuardConfig) (disk : Disk) : Option NovenaGateway := do
  let errors ← (validateConfig host disk.config).toOption
  if !errors.isEmpty then none else
  let serial ← ((disk.config.item "gateway").toOption.bind fun gateway =>
    (gateway.item "serial_number").toOption)
  let mqtt ← (publisherConfig disk.config).toOption
  let path ← (dataFilePath disk.config).toOption
  let buffer := BufferPlace.resolve host.realpath path
  let publisher ← (MqttPublisher.init serial mqtt (disk.buffers buffer.directory)).toOption
  let governance ← (GovernedCommandGuard.init cfg disk.policy disk.commandJournal).toOption
  return { configFile := disk.config, config := disk.config, connectors := [], startup := .waiting,
           publisher, buffer, buffers := disk.buffers, configJournal := .init disk.configJournal,
           governance }

/-- The main thread reaches `_start_connectors`, which looks at the mode once. -/
def beginStartup (g : NovenaGateway) : Py NovenaGateway := do
  if ← releasePending g.config then return { g with startup := .done } else
  return { g with startup := .visiting (← connectorEntries g.config) }

/-- One round of its loop. The names it fills in are of no consequence here. -/
def continueStartup (g : NovenaGateway) (outcome : StartOutcome) : Py NovenaGateway :=
  match g.startup with
  | .visiting (entry :: entries) =>
    (startConnector outcome entry).2.map fun result =>
      { g with
        startup := .visiting entries
        connectors := if result.success then g.connectors ++ [result.name] else g.connectors }
  | _ => .ok { g with startup := .done }

end NovenaGateway

end Novena

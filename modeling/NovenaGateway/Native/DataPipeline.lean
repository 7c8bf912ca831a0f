import Mathlib.Logic.Function.Basic
import NovenaGateway.ForStd.Groups
import NovenaGateway.ForStd.Run
import NovenaGateway.Native.UplinkReads

/-!
# From a poll to the gateway

The queues of `modbus_connector.py` between the polls of its slaves and `send_to_storage`:
`__poll_device` reads a slave, waiting for one response after the other, and puts what it has read
into `__data_to_convert`; a turn of `__convert_data` takes entries from there, makes one batch of
them for every device and its converter and converts the batches one after the other, and
`__save_data` hands the results to the gateway. There is no `await` within a turn, so that a turn is
one step, but turns come in between the responses of a poll.

`K` are the keys of the batches, a device name with its converter. The slave and its converter share
their configuration. What the registers held at a poll and what the device answered, and the lists
of what was polled, converted and saved, are history.
-/

namespace Novena.Modbus

/-- What a poll has read. -/
structure PollEntry (R : Type) where
  data : SlaveData R
  /-- What the registers of the device held. Nothing reads it. -/
  memory : Int → Int → R
  /-- And how the poll began. -/
  start : Reading R

/-- A poll under way. -/
structure ActivePoll (R : Type) where
  reading : Reading R
  memory : Int → Int → R
  start : Reading R

/-- What becomes of a batch: its conversion may raise, or that of one before it in the turn. -/
inductive BatchFate (V : Type) where
  | converted (data : ConvertedData V)
  | raised
  | skipped

/-- The entries of one key a turn has taken, and what became of them. -/
structure Batch (K R V : Type) where
  key : K
  entries : List (PollEntry R)
  fate : BatchFate V

/-- The queues of a connector. -/
structure DataPipeline (K R V : Type) where
  configs : K → UplinkConfig R V
  /-- The polls that are under way. -/
  polls : K → Option (ActivePoll R)
  /-- `__data_to_convert`. -/
  dataToConvert : List (K × PollEntry R)
  /-- `__data_to_save`. -/
  dataToSave : List (K × ConvertedData V)
  polled : List (K × PollEntry R)
  batches : List (Batch K R V)
  saved : List (K × ConvertedData V)

/-- `len(converted_data['attributes']) or len(converted_data['telemetry'])`. -/
def ConvertedData.worthSaving {V : Type} (data : ConvertedData V) : Bool :=
  data.attributes.length != 0 || data.telemetry.length != 0

namespace DataPipeline

variable {K R V : Type} [DecidableEq K]

/-- A connector that has just been made. -/
def init (configs : K → UplinkConfig R V) : DataPipeline K R V where
  configs := configs
  polls _ := none
  dataToConvert := []
  dataToSave := []
  polled := []
  batches := []
  saved := []

/-- The loop over `batch_to_convert`. An exception leaves it, and with it the turn. -/
def convertBatches (expand : String → Int → String) :
    (K → UplinkConfig R V) → List (K × List (PollEntry R)) →
      (K → UplinkConfig R V) × List (Batch K R V)
  | configs, [] => (configs, [])
  | configs, (key, entries) :: rest =>
    match convert expand (entries.map PollEntry.data) (configs key) with
    | (.error _, config) =>
      (Function.update configs key config,
        ⟨key, entries, .raised⟩ :: rest.map fun batch => ⟨batch.1, batch.2, .skipped⟩)
    | (.ok converted, config) =>
      let (configs', batches) := convertBatches expand (Function.update configs key config) rest
      (configs', ⟨key, entries, .converted converted⟩ :: batches)

/-- What `__data_to_save` is given for a batch. -/
def toSave (batch : Batch K R V) : Option (K × ConvertedData V) :=
  match batch.fate with
  | .converted data => if data.worthSaving then some (batch.key, data) else none
  | .raised | .skipped => none

/-- A turn of `__convert_data` that takes `n` entries: as many as come in a tenth of a second. -/
def convertTurn (expand : String → Int → String) (s : DataPipeline K R V) (n : Nat) :
    DataPipeline K R V :=
  let (configs, batches) :=
    convertBatches expand s.configs (Dict.groups (s.dataToConvert.take n))
  { s with
    configs
    dataToConvert := s.dataToConvert.drop n
    dataToSave := s.dataToSave ++ batches.filterMap toSave
    batches := s.batches ++ batches }

/-- A poll of the slave with this key begins, unless one is under way. -/
def beginPoll (s : DataPipeline K R V) (key : K) (memory : Int → Int → R) (start : Reading R) :
    Option (DataPipeline K R V) :=
  match s.polls key with
  | some _ => none
  | none => some { s with
      polls := Function.update s.polls key (some { reading := start, memory, start }) }

/-- It goes on, by one response at most. An exception, or nothing read, leaves no entry. -/
def continuePoll (s : DataPipeline K R V) (key : K) : Option (DataPipeline K R V) :=
  match s.polls key with
  | none => none
  | some poll =>
    match poll.reading.next (s.configs key) with
    | .running => none
    | .raised => some { s with polls := Function.update s.polls key none }
    | .returned (.inl reading) =>
      some { s with polls := Function.update s.polls key (some { poll with reading }) }
    | .returned (.inr data) =>
      let entry := { data, memory := poll.memory, start := poll.start }
      some { s with
        polls := Function.update s.polls key none
        dataToConvert := if data.isEmpty then s.dataToConvert else s.dataToConvert ++ [(key, entry)]
        polled := if data.isEmpty then s.polled else s.polled ++ [(key, entry)] }

/-- A turn of `__save_data`. -/
def save (s : DataPipeline K R V) : DataPipeline K R V :=
  match s.dataToSave with
  | [] => s
  | converted :: rest => { s with dataToSave := rest, saved := s.saved ++ [converted] }

/-- What can happen next. -/
inductive Label (K R : Type) where
  | beginPoll (key : K) (fuel : Nat) (memory : Int → Int → R)
      (read : ConfigSection → Nat → Int → Address → Int → Answer R)
  | continuePoll (key : K)
  | convert (n : Nat)
  | save

def step (expand : String → Int → String) (s : DataPipeline K R V) :
    Label K R → Option (DataPipeline K R V)
  | .beginPoll key fuel memory read => s.beginPoll key memory (.start fuel read)
  | .continuePoll key => s.continuePoll key
  | .convert n => some (s.convertTurn expand n)
  | .save => some s.save

/-- A run. -/
def exec (expand : String → Int → String) (configs : K → UplinkConfig R V)
    (labels : List (Label K R)) : Option (DataPipeline K R V) :=
  Run.exec (step expand) (init configs) labels

end DataPipeline

end Novena.Modbus

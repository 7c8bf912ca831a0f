import NovenaGateway.Native.Json

/-!
# The durable command journal

`DurableCommandJournal` of `governed_commands.py`: a state dictionary in memory and its JSON
file, replaced as a whole by every successful `_persist`. An operation changes the state
first and persists afterwards, so the functions here return the journal after the call
together with the value or the exception that leaves it. The flag `ok` is the outcome of the
file operations of one `_persist`; encoding failures of the state come on top of it.
-/

namespace Novena

/-- The `state` of a command record. -/
inductive RecordState where
  | executing
  | terminal
  deriving DecidableEq, Repr

/-- A record of `_state["commands"]`, as `mark_executing` and `mark_terminal` write it. -/
structure CommandRecord where
  state : RecordState
  deviceId : Json
  sequenceNumber : Json
  status : Option String
  result : Json
  error : Json
  stage : Option String
  timestamp : Int

/-- A record of `_state["events"]`. -/
structure CommandEvent where
  commandId : String
  state : RecordState
  status : Option String
  stage : Option String
  error : Json
  deviceId : Json
  sequenceNumber : Int
  recordedAt : Int

/-- `_state`. The sequences are keyed by the device id as a dictionary key and keep the
    spelling it was first written with. -/
structure JournalState where
  commands : Dict String CommandRecord
  sequences : Dict Json.Key (Json × Int)
  events : List CommandEvent
  maxEpoch : Int

/-- The state of a new journal. -/
def JournalState.empty : JournalState := ⟨[], [], [], 0⟩

/-- What is at the journal's path. -/
inductive JournalFile where
  | missing
  | unreadable
  | saved (state : JournalState)

/-- `DurableCommandJournal`: the state in memory and the file. -/
structure DurableCommandJournal where
  state : JournalState
  file : JournalFile

/-- What `sorted` needs of the keys: strings only, or nothing but numbers. -/
def sortableKeys (ks : List Json.Key) : Bool :=
  ks.all (fun | .str _ => true | _ => false) ||
    ks.all (fun | .num _ | .inf _ | .nan => true | _ => false)

/-- `json.dump` with sorted keys, read back by `json.load`: the state as the file holds it,
    with every key turned into a string. `none` when the keys cannot be sorted. -/
def JournalState.dump (s : JournalState) : Option JournalState :=
  if sortableKeys (s.sequences.map Prod.fst) then
    some { s with sequences := s.sequences.map fun (_, spelling, n) =>
      (.str spelling.jsonKey, .str spelling.jsonKey, n) }
  else none

namespace DurableCommandJournal

/-- `_load`: an unreadable or missing file gives an empty state. -/
def load : JournalFile → JournalState
  | .saved state => state
  | .missing | .unreadable => .empty

/-- `__init__` on what is at the path. -/
def init (file : JournalFile) : DurableCommandJournal := ⟨load file, file⟩

/-- `_persist`. -/
def persist (j : DurableCommandJournal) (ok : Bool) : DurableCommandJournal × Py Unit :=
  match j.state.dump with
  | none => (j, .error .typeError)
  | some saved => if ok then ({ j with file := .saved saved }, .ok ()) else (j, .error .osError)

/-- `reset`. -/
def reset (j : DurableCommandJournal) (ok : Bool) : DurableCommandJournal × Py Unit :=
  persist { j with state := .empty } ok

/-- `get`. -/
def get (j : DurableCommandJournal) (commandId : String) : Option CommandRecord :=
  j.state.commands.get? commandId

/-- `max_sequence`. -/
def maxSequence (j : DurableCommandJournal) (deviceId : Json) : Py Int :=
  deviceId.hashKey.map fun key => ((j.state.sequences.get? key).map Prod.snd).getD 0

/-- `max_epoch`. -/
def maxEpoch (j : DurableCommandJournal) : Int := j.state.maxEpoch

/-- `reconciliation_events`. -/
def reconciliationEvents (j : DurableCommandJournal) : List CommandEvent := j.state.events

/-- `record_epoch`. -/
def recordEpoch (j : DurableCommandJournal) (epoch : Int) (ok : Bool) :
    DurableCommandJournal × Py Unit :=
  persist { j with state.maxEpoch := max epoch j.state.maxEpoch } ok

/-- The sequence table after `write` has seen `sequence` for a device. -/
def bumpSequence (sequences : Dict Json.Key (Json × Int)) (deviceId : Json) (key : Json.Key)
    (sequence : Int) : Dict Json.Key (Json × Int) :=
  match sequences.get? key with
  | some (spelling, n) => sequences.set key (spelling, max sequence n)
  | none => sequences.set key (deviceId, max sequence 0)

/-- What `write` reads from a record before it files it: the sequence as an integer, and the
    key of its device unless the device id is falsy. -/
def sequenceEntry (record : CommandRecord) : Py (Int × Option Json.Key) := do
  let sequence ← record.sequenceNumber.toInt
  if record.deviceId.truthy then
    let key ← record.deviceId.hashKey
    return (sequence, some key)
  else return (sequence, none)

/-- The sequence table after `write` has filed an entry of a device. -/
def fileSequence (sequences : Dict Json.Key (Json × Int)) (deviceId : Json) :
    Int × Option Json.Key → Dict Json.Key (Json × Int)
  | (sequence, some key) => bumpSequence sequences deviceId key sequence
  | (_, none) => sequences

/-- The event `write` appends. -/
def eventOf (commandId : String) (record : CommandRecord) (sequence now : Int) : CommandEvent :=
  { commandId, state := record.state, status := record.status, stage := record.stage,
    error := record.error, deviceId := record.deviceId, sequenceNumber := sequence,
    recordedAt := now }

/-- `write`: the record, the device's highest sequence, the event, then the file. -/
def write (j : DurableCommandJournal) (commandId : String) (record : CommandRecord) (now : Int)
    (ok : Bool) : DurableCommandJournal × Py Unit :=
  -- the record is stored before anything can raise
  let j := { j with state.commands := j.state.commands.set commandId record }
  match sequenceEntry record with
  | .error e => (j, .error e)
  | .ok entry =>
    let events := j.state.events ++ [eventOf commandId record entry.1 now]
    persist { j with state.sequences := fileSequence j.state.sequences record.deviceId entry
                     state.events := events.drop (events.length - 10000) } ok

/-! ## What the operations do -/

/-- `_persist` leaves the state alone; it succeeds exactly when it replaced the file. -/
theorem persist_cases (j : DurableCommandJournal) (ok : Bool) :
    (∃ saved, j.state.dump = some saved ∧
        j.persist ok = ({ j with file := .saved saved }, .ok ())) ∨
      (∃ e, j.persist ok = (j, .error e)) := by
  simp only [persist]
  cases hd : j.state.dump with
  | none => exact .inr ⟨_, rfl⟩
  | some saved =>
    cases ok with
    | true => exact .inl ⟨saved, rfl, rfl⟩
    | false => exact .inr ⟨_, rfl⟩

/-- Saving leaves the state as it is. -/
@[simp] theorem persist_state (j : DurableCommandJournal) (ok : Bool) :
    (j.persist ok).1.state = j.state := by
  rcases j.persist_cases ok with ⟨_, _, h⟩ | ⟨_, h⟩ <;> rw [h]

/-- Dumping keeps everything but the spelling of the sequence keys. -/
theorem dump_eq {s saved : JournalState} (h : s.dump = some saved) :
    saved.commands = s.commands ∧ saved.events = s.events ∧ saved.maxEpoch = s.maxEpoch ∧
      saved.sequences = s.sequences.map fun (_, spelling, n) =>
        (.str spelling.jsonKey, .str spelling.jsonKey, n) := by
  simp only [JournalState.dump] at h
  split at h
  · cases h; exact ⟨rfl, rfl, rfl, rfl⟩
  · cases h

/-- Everything `write` can do to the state: it stores the record, and then it has either
    raised on the record's own fields, or filed the sequence and the event. -/
theorem write_state (j : DurableCommandJournal) (commandId : String) (record : CommandRecord)
    (now : Int) (ok : Bool) :
    (j.write commandId record now ok).1.state.commands =
        j.state.commands.set commandId record ∧
      (j.write commandId record now ok).1.state.maxEpoch = j.state.maxEpoch ∧
      (((∃ e, sequenceEntry record = .error e) ∧
          (j.write commandId record now ok).1.state.sequences = j.state.sequences ∧
          (j.write commandId record now ok).1.state.events = j.state.events) ∨
        ∃ entry, sequenceEntry record = .ok entry ∧
          (j.write commandId record now ok).1.state.sequences =
            fileSequence j.state.sequences record.deviceId entry ∧
          ∀ e ∈ (j.write commandId record now ok).1.state.events,
            e ∈ j.state.events ∨ e = eventOf commandId record entry.1 now) := by
  simp only [write]
  cases hs : sequenceEntry record with
  | error e => exact ⟨rfl, rfl, .inl ⟨⟨e, rfl⟩, rfl, rfl⟩⟩
  | ok entry =>
    simp only [persist_state]
    refine ⟨trivial, trivial, .inr ⟨entry, rfl, rfl, fun e he => ?_⟩⟩
    simpa using List.mem_of_mem_drop he

/-- `write` returns normally only after the file holds the new state. -/
theorem write_ok {j : DurableCommandJournal} {commandId : String} {record : CommandRecord}
    {now : Int} {ok : Bool} (h : (j.write commandId record now ok).2 = .ok ()) :
    ∃ saved, (j.write commandId record now ok).1.state.dump = some saved ∧
      (j.write commandId record now ok).1.file = .saved saved := by
  simp only [write] at h ⊢
  split at h
  · cases h
  · rcases persist_cases _ ok with ⟨saved, hd, hp⟩ | ⟨e, hp⟩
    · rw [hp]; exact ⟨saved, hd, rfl⟩
    · rw [hp] at h; cases h

/-- A failed `write` leaves the file as it was. -/
theorem write_error {j : DurableCommandJournal} {commandId : String} {record : CommandRecord}
    {now : Int} {ok : Bool} {e : Exn} (h : (j.write commandId record now ok).2 = .error e) :
    (j.write commandId record now ok).1.file = j.file := by
  simp only [write] at h ⊢
  split
  · rfl
  · rename_i entry hs
    rw [hs] at h
    dsimp only at h
    rcases persist_cases _ ok with ⟨saved, hd, hp⟩ | ⟨e, hp⟩
    · rw [hp] at h; cases h
    · rw [hp]

/-- After a `write` the file is the old one or the new state. -/
theorem write_file (j : DurableCommandJournal) (commandId : String) (record : CommandRecord)
    (now : Int) (ok : Bool) :
    (j.write commandId record now ok).1.file = j.file ∨
      ∃ saved, (j.write commandId record now ok).1.state.dump = some saved ∧
        (j.write commandId record now ok).1.file = .saved saved := by
  cases h : (j.write commandId record now ok).2 with
  | error e => exact .inl (write_error h)
  | ok u => exact .inr (write_ok h)

/-- `write` stores the record in memory whatever else happens. -/
theorem get_write_self (j : DurableCommandJournal) (commandId : String) (record : CommandRecord)
    (now : Int) (ok : Bool) :
    (j.write commandId record now ok).1.get commandId = some record := by
  simp only [get, (j.write_state commandId record now ok).1, Dict.get?_set_self]

/-- `write` never forgets another command. -/
theorem get_write_isSome {j : DurableCommandJournal} {c : String} (h : (j.get c).isSome)
    (commandId : String) (record : CommandRecord) (now : Int) (ok : Bool) :
    ((j.write commandId record now ok).1.get c).isSome := by
  simp only [get, (j.write_state commandId record now ok).1]
  exact Dict.get?_set_isSome h _ _

/-- The recorded maximum of a sequence table under a key. -/
def topSequence (sequences : Dict Json.Key (Json × Int)) (key : Json.Key) : Int :=
  ((sequences.get? key).map Prod.snd).getD 0

/-- The largest sequence of a device is that of its key. -/
theorem maxSequence_eq {j : DurableCommandJournal} {deviceId : Json} {key : Json.Key}
    (h : deviceId.hashKey = .ok key) :
    j.maxSequence deviceId = .ok (topSequence j.state.sequences key) := by
  simp [maxSequence, topSequence, h, Except.map]

/-- Filing a sequence raises the maximum of its key to at least that sequence and leaves every
    other key alone. -/
theorem topSequence_bump (sequences : Dict Json.Key (Json × Int)) (deviceId : Json)
    (key key' : Json.Key) (sequence : Int) :
    topSequence (bumpSequence sequences deviceId key sequence) key' =
      if key' = key then max sequence (topSequence sequences key)
      else topSequence sequences key' := by
  simp only [bumpSequence, topSequence]
  split <;> rename_i h <;> simp only [Dict.get?_set, h] <;> split <;> simp

/-- `write` never lowers a device's maximum. -/
theorem topSequence_write_le (j : DurableCommandJournal) (commandId : String)
    (record : CommandRecord) (now : Int) (ok : Bool) (key : Json.Key) :
    topSequence j.state.sequences key ≤
      topSequence (j.write commandId record now ok).1.state.sequences key := by
  obtain ⟨_, _, ⟨_, hs, _⟩ | ⟨⟨sequence, key?⟩, _, hs, _⟩⟩ :=
    j.write_state commandId record now ok
  · rw [hs]
  · rw [hs]
    cases key? with
    | none => exact le_refl _
    | some k =>
      simp only [fileSequence, topSequence_bump]
      split
      · next h => subst h; exact le_max_right _ _
      · exact le_refl _

end DurableCommandJournal

end Novena

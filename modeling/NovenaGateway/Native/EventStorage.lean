import NovenaGateway.ForStd.Run

/-!
# The event storage

`SQLiteEventStorage` of `sqlite_event_storage.py` and the `Database` thread of `database.py` behind
it, from the opening of a directory with one database file up to the first rotation. Until then
this file is both read and written. Messages that were put are collected and inserted by the
database thread, which also prefetches the next batch of rows; the replay thread of the publisher
takes packs of messages and reports them as done. `step` runs one action of one thread, so that a
list of labels is one interleaving. A statement of SQLite is one action, a scan of the table visits
the rows in the order of their ids, and an id is never used again (`AUTOINCREMENT`).

Every branch that opens a second file or removes the one there is sets `rotated`, and no step
follows it: a run is one without rotation, with at most its last action as an exception.

The last fields of the state are history: no function reads them.
-/

namespace Novena

/-- The settings the storage reads here. -/
structure StorageSettings where
  maxDbAmount : Int
  maxReadRecordsCount : Nat
  /-- `writing_batch_size`. -/
  batchSize : Nat
  /-- `messages_ttl_check_in_hours`, already multiplied by 3600. -/
  messagesTtlCheck : Int
  messagesTtlInDays : Int

/-- A row of the table `messages`. -/
structure Row where
  id : Nat
  timestamp : Int
  message : String
  deriving DecidableEq

/-- Where the loop of the database thread stands. -/
inductive DatabaseThread where
  /-- Before the prefetch. -/
  | top
  /-- `self.read_data()` has returned, and its rows are not assigned yet. -/
  | selected (batch : List Row)
  /-- They are assigned, and the flag is not cleared yet. -/
  | assigned
  /-- Before `self.process()`. -/
  | processing
  /-- The old messages were deleted, and nothing is collected yet. -/
  | swept (now : Int)
  /-- A batch was taken from the queue and is not inserted yet. -/
  | collected (batch : List (Int × String))
  /-- `self.process()` has returned. -/
  | processed

/-- Where the loop of the replay thread stands with the storage. -/
inductive ReplayThread where
  /-- In the constructor of the storage, before it lets the database thread read. -/
  | opening
  | idle
  /-- The messages of a pack are being published. -/
  | holding (pack : List Row)
  /-- `delete_data` has returned, and no new batch is asked for yet. -/
  | deleted
  /-- The prefetched rows are dropped, and the flag is not set yet. -/
  | cleared
  /-- Before the table is asked whether it has rows. -/
  | asking
  /-- It has none, and the size of its file is not looked at yet. -/
  | empty

/-- What `process_file_limit` finds under the path of the file. -/
inductive FileSize where
  | absent
  | small
  /-- The size is at least the limit. -/
  | full
  /-- The file goes away before its size is read. -/
  | vanishes

/-- The storage, its table, its two threads and the history. -/
structure EventStorage where
  rows : List Row
  /-- The id that was assigned last. -/
  lastId : Nat
  /-- `__should_read` of the database. -/
  shouldRead : Bool
  reachedSizeLimit : Bool
  isMaxDbAmountReached : Bool
  /-- A second file was opened, or the one there was is removed. -/
  rotated : Bool
  /-- `__can_prepare_new_batch`. -/
  canPrepare : Bool
  nextBatch : List Row
  lastMsgCheck : Int
  writeQueue : List String
  stopped : Bool
  deleteTimePoint : Nat
  thread : DatabaseThread
  replay : ReplayThread
  /-- The messages `put` accepted. -/
  accepted : List String
  /-- The rows that were inserted. -/
  written : List Row
  /-- The messages of the batches that could not be inserted. -/
  lost : List String
  /-- The packs the replay thread was given. -/
  handed : List (List Row)
  /-- The rows of the packs it reported as done. -/
  acknowledged : List Row
  /-- The rows `delete_data` removed. -/
  removed : List Row
  /-- The rows that were too old. -/
  expired : List Row
  /-- How often old rows were looked for. -/
  sweeps : Nat

namespace EventStorage

variable (cfg : StorageSettings)

/-- A storage that has just opened its file. -/
def Opened (s : EventStorage) : Prop :=
  ∃ rows lastId, (rows.Pairwise fun a b : Row => a.id < b.id) ∧
    (∀ row ∈ rows, 0 < row.id ∧ row.id ≤ lastId) ∧
    s = { rows, lastId, shouldRead := false, reachedSizeLimit := false,
          isMaxDbAmountReached := false, rotated := false, canPrepare := true, nextBatch := [],
          lastMsgCheck := 0, writeQueue := [], stopped := false, deleteTimePoint := 0,
          thread := .top, replay := .opening, accepted := [], written := [], lost := [],
          handed := [], acknowledged := [], removed := [], expired := [], sweeps := 0 }

/-! ## The file -/

/-- `len(self._database_files)` until the first rotation. -/
def databaseFiles : Nat := 1

/-- `__rotate_read_database` removes the file. -/
def rotateReadDatabase (s : EventStorage) : EventStorage := { s with rotated := true }

/-- `__start_write_database` opens a second file. -/
def startWriteDatabase (s : EventStorage) : EventStorage := { s with rotated := true }

/-- `on_write_database_callback`. -/
def onWriteDatabaseCallback (s : EventStorage) : EventStorage :=
  if s.reachedSizeLimit && !(databaseFiles ≥ cfg.maxDbAmount) then s.startWriteDatabase else s

/-- `process_file_limit` of a database that is written to. -/
def processFileLimit (s : EventStorage) : FileSize → EventStorage
  | .absent | .small => s
  | .full => onWriteDatabaseCallback cfg { s with reachedSizeLimit := true }
  | .vanishes => { s with reachedSizeLimit := true }

/-- `__check_and_handle_max_db_count`, with its answer. -/
def checkAndHandleMaxDbCount (s : EventStorage) : EventStorage × Bool :=
  if databaseFiles ≥ cfg.maxDbAmount then ({ s with isMaxDbAmountReached := true }, true)
  else if s.isMaxDbAmountReached then
    (startWriteDatabase { s with isMaxDbAmountReached := false }, false)
  else (s, false)

/-! ## The producers -/

/-- `put`; only a rotation leaves it without a database to write to. -/
def put (s : EventStorage) (message : String) : EventStorage :=
  if s.isMaxDbAmountReached || s.stopped then s
  else
    let checked := if s.reachedSizeLimit then s.checkAndHandleMaxDbCount cfg else (s, false)
    if checked.2 then checked.1
    else { checked.1 with
      writeQueue := s.writeQueue ++ [message], accepted := s.accepted ++ [message] }

/-! ## The database thread -/

/-- `read_data`; an error of the database gives no rows. -/
def readData (s : EventStorage) (ok : Bool) : List Row :=
  if s.stopped then []
  else if s.nextBatch ≠ [] then s.nextBatch
  else if ok then s.rows.take cfg.maxReadRecordsCount else []

/-- The condition of the prefetch in `run`. -/
def prefetches (s : EventStorage) : Bool := s.shouldRead && s.canPrepare && s.nextBatch = []

/-- `self.read_data()` of the prefetch. -/
def select (s : EventStorage) (ok : Bool) : Option EventStorage :=
  match s.thread with
  | .top =>
    if !s.stopped && s.prefetches then some { s with thread := .selected (s.readData cfg ok) }
    else none
  | _ => none

/-- `self.__next_batch = …`. -/
def assign (s : EventStorage) : Option EventStorage :=
  match s.thread with
  | .selected batch => some { s with nextBatch := batch, thread := .assigned }
  | _ => none

/-- `self.__can_prepare_new_batch = False`. -/
def unset (s : EventStorage) : Option EventStorage :=
  match s.thread with
  | .assigned => some { s with canPrepare := false, thread := .processing }
  | _ => none

/-- A turn of the loop without prefetch. -/
def skip (s : EventStorage) : Option EventStorage :=
  match s.thread with
  | .top => if !s.stopped && !s.prefetches then some { s with thread := .processing } else none
  | _ => none

/-- The milliseconds of a day. -/
def dayMs : Int := 86400000

/-- `delete_data_lte` at the time `at` of its own clock reading; a failure leaves the rows. -/
def deleteDataLte (s : EventStorage) (time : Int) (ok : Bool) : EventStorage :=
  if ok then
    let limit := time - cfg.messagesTtlInDays * dayMs
    { s with
      rows := s.rows.filter fun row => limit < row.timestamp
      expired := s.expired ++ s.rows.filter fun row => row.timestamp ≤ limit }
  else s

/-- The condition under which `process` looks for old messages. -/
def sweepDue (s : EventStorage) (now : Int) : Bool :=
  -- the time since the last check is compared with the time of that check
  now - s.lastMsgCheck ≥ s.lastMsgCheck + cfg.messagesTtlCheck && !s.stopped

/-- The beginning of `process`. -/
def sweep (s : EventStorage) (now time : Int) (ok : Bool) : Option EventStorage :=
  match s.thread with
  | .processing =>
    if s.sweepDue cfg now then
      some { s.deleteDataLte cfg time ok with
        lastMsgCheck := now, thread := .swept now, sweeps := s.sweeps + 1 }
    else some { s with thread := .swept now }
  | _ => none

/-- `process` takes up to a batch of messages from the queue; how many depends on the time. -/
def collect (s : EventStorage) (count : Nat) : Option EventStorage :=
  match s.thread with
  | .swept now =>
    -- an empty queue ends the pass
    if count = 0 then some { s with thread := .processed }
    -- `get_nowait` until the batch is full or a tenth of a second is over
    else if count ≤ cfg.batchSize ∧ count ≤ s.writeQueue.length then
      some { s with
        writeQueue := s.writeQueue.drop count
        thread := .collected ((s.writeQueue.take count).map fun message => (now, message)) }
    else none
  | _ => none

/-- The rows a batch becomes. -/
def numbered (lastId : Nat) : List (Int × String) → List Row
  | [] => []
  | (timestamp, message) :: batch => ⟨lastId + 1, timestamp, message⟩ :: numbered (lastId + 1) batch

/-- `execute_many_write` and `commit`; a batch that cannot be inserted is gone. -/
def insert (s : EventStorage) (ok : Bool) : Option EventStorage :=
  match s.thread with
  | .collected batch =>
    -- one transaction for the batch: all its rows or none
    if ok && !s.stopped then
      some { s with
        rows := s.rows ++ numbered s.lastId batch
        lastId := s.lastId + batch.length
        written := s.written ++ numbered s.lastId batch
        thread := .processed }
    -- the batch has left the queue, so a failed write loses it
    else some { s with lost := s.lost ++ batch.map Prod.snd, thread := .processed }
  | _ => none

/-- The end of the loop: the size of the file is looked at when the period is over. -/
def limit (s : EventStorage) (due : Bool) (size : FileSize) : Option EventStorage :=
  match s.thread with
  | .processed =>
    if !s.reachedSizeLimit && due then some { s.processFileLimit cfg size with thread := .top }
    else some { s with thread := .top }
  | _ => none

/-! ## The replay thread -/

/-- The storage was opened, `self.__read_database.should_read = True`. -/
def setShouldRead (s : EventStorage) : Option EventStorage :=
  match s.replay with
  | .opening => some { s with shouldRead := true, replay := .asking }
  | _ => none

/-- `process_event_storage_data`: the rows with a message. -/
def processEventStorageData (data : List Row) : List Row := data.filter fun row => row.message ≠ ""

/-- The new `delete_time_point`. -/
def timePoint (point : Nat) (pack : List Row) : Nat :=
  pack.foldl (fun point row => if point = 0 ∨ point < row.id then row.id else point) point

/-- `get_event_pack`; with an empty pack the replay thread waits and asks again. Its second
    rotation is for several files. -/
def getEventPack (s : EventStorage) (ok present : Bool) : Option EventStorage :=
  match s.replay with
  | .idle =>
    -- a stopped storage gives nothing
    if s.stopped then some s
    else
      let data := s.readData cfg ok
      -- nothing was read and the file is gone, so the next one becomes the read one
      if data = [] && !present then some s.rotateReadDatabase
      else
        let pack := processEventStorageData data
        -- rows without a message make no pack
        if pack = [] then some s
        else some { s with
          deleteTimePoint := timePoint s.deleteTimePoint pack
          replay := .holding pack
          handed := s.handed ++ [pack] }
  | _ => none

/-- `delete_data` of the rows up to the time point; a failure leaves the rows. -/
def deleteData (s : EventStorage) (ok : Bool) : EventStorage :=
  if ok then
    { s with
      rows := s.rows.filter fun row => s.deleteTimePoint < row.id
      removed := s.removed ++ s.rows.filter fun row => row.id ≤ s.deleteTimePoint }
  else s

/-- `event_pack_processing_done` up to the return of `delete_data`: every message of the pack was
    published. -/
def eventPackProcessingDone (s : EventStorage) (ok : Bool) : Option EventStorage :=
  match s.replay with
  | .holding pack =>
    if s.stopped then some { s with acknowledged := s.acknowledged ++ pack, replay := .idle }
    else some { s.deleteData ok with
      acknowledged := s.acknowledged ++ pack, replay := .deleted }
  | _ => none

/-- `can_prepare_new_batch`, first assignment. -/
def clearNextBatch (s : EventStorage) : Option EventStorage :=
  match s.replay with
  | .deleted => some { s with nextBatch := [], replay := .cleared }
  | _ => none

/-- Its second assignment. -/
def canPrepareNewBatch (s : EventStorage) : Option EventStorage :=
  match s.replay with
  | .cleared => some { s with canPrepare := true, replay := .asking }
  | _ => none

/-- `database_has_records`; an error of the database is answered as an empty table. -/
def databaseHasRecords (s : EventStorage) (ok : Bool) : Option EventStorage :=
  match s.replay with
  | .asking => some { s with replay := if ok && s.rows ≠ [] then .idle else .empty }
  | _ => none

/-- The end of `event_pack_processing_done` with an empty table, and that of the constructor. -/
def shrink (s : EventStorage) (size : FileSize) : Option EventStorage :=
  match s.replay with
  | .empty =>
    let s := { s.processFileLimit cfg size with replay := .idle }
    some (if s.reachedSizeLimit then s.rotateReadDatabase else s)
  | _ => none

/-- The replay thread keeps a pack that was published in part only. -/
def preserve (s : EventStorage) : Option EventStorage :=
  match s.replay with
  | .holding _ => some { s with replay := .idle }
  | _ => none

/-! ## The system -/

/-- One action; `ok` is the outcome of a statement, the times are clock readings. -/
inductive Label where
  | put (message : String)
  | select (ok : Bool)
  | assign
  | unset
  | skip
  | sweep (now time : Int) (ok : Bool)
  | collect (count : Nat)
  | insert (ok : Bool)
  | limit (due : Bool) (size : FileSize)
  | read
  | get (ok present : Bool)
  | done (ok : Bool)
  | clear
  | prepare
  | ask (ok : Bool)
  | shrink (size : FileSize)
  | preserve
  | stop

/-- One action of a thread. -/
def act (s : EventStorage) : Label → Option EventStorage
  | .put message => some (s.put cfg message)
  | .select ok => s.select cfg ok
  | .assign => s.assign
  | .unset => s.unset
  | .skip => s.skip
  | .sweep now time ok => s.sweep cfg now time ok
  | .collect count => s.collect cfg count
  | .insert ok => s.insert ok
  | .limit due size => s.limit cfg due size
  | .read => s.setShouldRead
  | .get ok present => s.getEventPack cfg ok present
  | .done ok => s.eventPackProcessingDone ok
  | .clear => s.clearNextBatch
  | .prepare => s.canPrepareNewBatch
  | .ask ok => s.databaseHasRecords ok
  | .shrink size => s.shrink cfg size
  | .preserve => s.preserve
  | .stop => some { s with stopped := true }

/-- One action of the system; a rotation is the last one. -/
def step (s : EventStorage) (a : Label) : Option EventStorage :=
  if s.rotated then none else s.act cfg a

/-- A run. -/
def exec (s : EventStorage) (labels : List Label) : Option EventStorage :=
  Run.exec (step cfg) s labels

end EventStorage

end Novena

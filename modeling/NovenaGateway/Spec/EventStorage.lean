import NovenaGateway.ForStd.Ascending
import NovenaGateway.Native.EventStorage
import Mathlib.Data.List.Perm.Basic
import Mathlib.Data.Nat.Basic

/-!
# No event is deleted before it was published

`_replay_loop` deletes a pack only when every event of it was published, by the id of its last row.
That the rows up to this id are those of the pack rests on the order of the ids and on the
prefetched rows being the first ones of the table. The second fails when a pack is reported as done
between the `SELECT` of the prefetch and the assignment of its rows; without this, every deleted row
was in a pack that was published, and the packs are published in the order of the rows, none twice.

The runs are those of one database file: they go up to the first rotation, which may be their last
action.

Key results:
- `EventStorage.removed_handed`: every interleaving deletes only rows that were handed out
- `EventStorage.removed_acknowledged`: and only rows of published packs, without that race
- `EventStorage.acknowledged_ascending`: each row at most once, and in order
- `EventStorage.messages_accounted`: where every accepted message is
- `EventStorage.sweeps_le_one`: the database looks for old messages once
-/

namespace Novena.EventStorage

variable {cfg : StorageSettings} {s s' : EventStorage}

/-! ## The parts of a step -/

/-- A pack has the rows with a message. -/
theorem mem_processEventStorageData {data : List Row} {row : Row} :
    row ∈ processEventStorageData data ↔ row ∈ data ∧ row.message ≠ "" := by
  simp [processEventStorageData]

/-- The time point only grows. -/
theorem le_timePoint (point : Nat) (pack : List Row) : point ≤ timePoint point pack := by
  induction pack generalizing point with
  | nil => exact Nat.le_refl point
  | cons row pack ih =>
    have hfirst : point ≤ if point = 0 ∨ point < row.id then row.id else point := by
      split <;> omega
    exact Nat.le_trans hfirst (ih _)

/-- And none of its rows is past the time point. -/
theorem id_le_timePoint {point : Nat} {pack : List Row} {row : Row} (h : row ∈ pack) :
    row.id ≤ timePoint point pack := by
  induction pack generalizing point with
  | nil => exact absurd h List.not_mem_nil
  | cons first pack ih =>
    cases List.mem_cons.mp h with
    | inl hfirst =>
      have hstep : row.id ≤ if point = 0 ∨ point < first.id then first.id else point := by
        rw [hfirst]
        split <;> omega
      exact Nat.le_trans hstep (le_timePoint _ pack)
    | inr hrest => exact ih hrest

/-- And it is the old one or the id of a row of the pack. -/
theorem timePoint_eq (point : Nat) (pack : List Row) :
    timePoint point pack = point ∨ ∃ row ∈ pack, row.id = timePoint point pack := by
  induction pack generalizing point with
  | nil => exact .inl rfl
  | cons first pack ih =>
    have hfirst : timePoint point (first :: pack) =
        timePoint (if point = 0 ∨ point < first.id then first.id else point) pack := rfl
    rw [hfirst]
    obtain hsame | ⟨row, hrow, hid⟩ := ih (if point = 0 ∨ point < first.id then first.id else point)
    · rw [hsame]
      split
      · exact .inr ⟨first, List.mem_cons_self, rfl⟩
      · exact .inl rfl
    · exact .inr ⟨row, List.mem_cons_of_mem first hrow, hid⟩

/-- New rows have new ids. -/
theorem mem_numbered {lastId : Nat} {batch : List (Int × String)} {row : Row}
    (h : row ∈ numbered lastId batch) : lastId < row.id ∧ row.id ≤ lastId + batch.length := by
  induction batch generalizing lastId with
  | nil => exact absurd h List.not_mem_nil
  | cons first batch ih =>
    obtain ⟨time, message⟩ := first
    rw [numbered, List.mem_cons] at h
    rw [List.length_cons]
    cases h with
    | inl hfirst =>
      have hid : row.id = lastId + 1 := congrArg Row.id hfirst
      omega
    | inr hrest =>
      have hids := ih hrest
      omega

/-- In the order of the batch. -/
theorem numbered_ascending (lastId : Nat) (batch : List (Int × String)) :
    (numbered lastId batch).Ascending Row.id := by
  induction batch generalizing lastId with
  | nil => exact List.Pairwise.nil
  | cons first batch ih =>
    obtain ⟨time, message⟩ := first
    rw [numbered]
    exact List.Pairwise.cons (fun row hrow => (mem_numbered hrow).1) (ih (lastId + 1))

/-- They have its messages. -/
theorem map_message_numbered (lastId : Nat) (batch : List (Int × String)) :
    (numbered lastId batch).map Row.message = batch.map Prod.snd := by
  induction batch generalizing lastId with
  | nil => rfl
  | cons first batch ih =>
    obtain ⟨time, message⟩ := first
    rw [numbered, List.map_cons, List.map_cons, ih]

/-- The rows a read returns are the prefetched ones, or the first ones of the table, or none. -/
theorem readData_cases (s : EventStorage) (ok : Bool) :
    s.readData cfg ok = [] ∨ s.readData cfg ok = s.nextBatch ∧ s.nextBatch ≠ [] ∨
      s.readData cfg ok = s.rows.take cfg.maxReadRecordsCount ∧ s.nextBatch = [] := by
  unfold readData
  split
  · exact .inl rfl
  · split
    case isTrue hnext => exact .inr (.inl ⟨rfl, hnext⟩)
    case isFalse hnext =>
      split
      · exact .inr (.inr ⟨rfl, not_not.mp hnext⟩)
      · exact .inl rfl

/-- A message is refused, or it is put at the end of the queue. -/
theorem put_cases (s : EventStorage) (message : String) :
    s.put cfg message = s ∨ s.put cfg message = { s with isMaxDbAmountReached := true } ∨
      s.put cfg message =
        { s with writeQueue := s.writeQueue ++ [message], accepted := s.accepted ++ [message] } := by
  unfold EventStorage.put
  split
  case isTrue => exact .inl rfl
  case isFalse hopen =>
    have hmax : s.isMaxDbAmountReached = false := by
      simp only [Bool.or_eq_true, not_or, Bool.not_eq_true] at hopen
      exact hopen.1
    by_cases hreached : s.reachedSizeLimit = true
    · by_cases hfull : databaseFiles ≥ cfg.maxDbAmount
      · exact .inr (.inl (by simp [checkAndHandleMaxDbCount, hreached, hfull]))
      · exact .inr (.inr (by simp [checkAndHandleMaxDbCount, hreached, hfull, hmax]))
    · exact .inr (.inr (by simp [hreached]))

/-- `process_file_limit` changes two flags at most. -/
theorem exists_processFileLimit (s : EventStorage) (size : FileSize) :
    ∃ reached rotated, s.processFileLimit cfg size =
      { s with reachedSizeLimit := reached, rotated := rotated } := by
  cases size with
  | absent => exact ⟨s.reachedSizeLimit, s.rotated, rfl⟩
  | small => exact ⟨s.reachedSizeLimit, s.rotated, rfl⟩
  | vanishes => exact ⟨true, s.rotated, rfl⟩
  | full =>
    simp only [processFileLimit, onWriteDatabaseCallback]
    split
    · exact ⟨true, true, rfl⟩
    · exact ⟨true, s.rotated, rfl⟩

/-- What one action can do. -/
inductive Moves (cfg : StorageSettings) (s : EventStorage) : Label → EventStorage → Prop where
  | refused {message : String} : Moves cfg s (.put message) s
  | full {message : String} : Moves cfg s (.put message) { s with isMaxDbAmountReached := true }
  | put {message : String} :
    Moves cfg s (.put message)
      { s with writeQueue := s.writeQueue ++ [message], accepted := s.accepted ++ [message] }
  | select {ok : Bool} (hthread : s.thread = .top) (hnext : s.nextBatch = []) :
    Moves cfg s (.select ok) { s with thread := .selected (s.readData cfg ok) }
  | assign {batch : List Row} (hthread : s.thread = .selected batch) :
    Moves cfg s .assign { s with nextBatch := batch, thread := .assigned }
  | unset (hthread : s.thread = .assigned) :
    Moves cfg s .unset { s with canPrepare := false, thread := .processing }
  | skip (hthread : s.thread = .top) : Moves cfg s .skip { s with thread := .processing }
  | sweep {now time : Int} {ok : Bool} (hthread : s.thread = .processing)
      (hdue : s.sweepDue cfg now = true) :
    Moves cfg s (.sweep now time ok)
      { s.deleteDataLte cfg time ok with
        lastMsgCheck := now, thread := .swept now, sweeps := s.sweeps + 1 }
  | noSweep {now time : Int} {ok : Bool} (hthread : s.thread = .processing)
      (hdue : s.sweepDue cfg now = false) :
    Moves cfg s (.sweep now time ok) { s with thread := .swept now }
  | collectNone {now : Int} (hthread : s.thread = .swept now) :
    Moves cfg s (.collect 0) { s with thread := .processed }
  | collect {now : Int} {count : Nat} (hthread : s.thread = .swept now) :
    Moves cfg s (.collect count)
      { s with
        writeQueue := s.writeQueue.drop count
        thread := .collected ((s.writeQueue.take count).map fun message => (now, message)) }
  | insert {batch : List (Int × String)} (hthread : s.thread = .collected batch)
      (hstopped : s.stopped = false) :
    Moves cfg s (.insert true)
      { s with
        rows := s.rows ++ numbered s.lastId batch
        lastId := s.lastId + batch.length
        written := s.written ++ numbered s.lastId batch
        thread := .processed }
  | lose {ok : Bool} {batch : List (Int × String)} (hthread : s.thread = .collected batch) :
    Moves cfg s (.insert ok) { s with lost := s.lost ++ batch.map Prod.snd, thread := .processed }
  | limit {due reached rotated : Bool} {size : FileSize} (hthread : s.thread = .processed) :
    Moves cfg s (.limit due size)
      { s with thread := .top, reachedSizeLimit := reached, rotated := rotated }
  | read (hreplay : s.replay = .opening) :
    Moves cfg s .read { s with shouldRead := true, replay := .asking }
  | getNone {ok present rotated : Bool} : Moves cfg s (.get ok present) { s with rotated := rotated }
  | get {ok present : Bool} (hreplay : s.replay = .idle)
      (hpack : processEventStorageData (s.readData cfg ok) ≠ []) :
    Moves cfg s (.get ok present)
      { s with
        deleteTimePoint := timePoint s.deleteTimePoint (processEventStorageData (s.readData cfg ok))
        replay := .holding (processEventStorageData (s.readData cfg ok))
        handed := s.handed ++ [processEventStorageData (s.readData cfg ok)] }
  | doneStopped {ok : Bool} {pack : List Row} (hreplay : s.replay = .holding pack)
      (hstopped : s.stopped = true) :
    Moves cfg s (.done ok) { s with acknowledged := s.acknowledged ++ pack, replay := .idle }
  | done {ok : Bool} {pack : List Row} (hreplay : s.replay = .holding pack)
      (hstopped : s.stopped = false) :
    Moves cfg s (.done ok)
      { s.deleteData ok with acknowledged := s.acknowledged ++ pack, replay := .deleted }
  | clear (hreplay : s.replay = .deleted) :
    Moves cfg s .clear { s with nextBatch := [], replay := .cleared }
  | prepare (hreplay : s.replay = .cleared) :
    Moves cfg s .prepare { s with canPrepare := true, replay := .asking }
  | ask {ok : Bool} {next : ReplayThread} (hreplay : s.replay = .asking)
      (hnext : next = .idle ∨ next = .empty) :
    Moves cfg s (.ask ok) { s with replay := next }
  | shrink {reached rotated : Bool} {size : FileSize} (hreplay : s.replay = .empty) :
    Moves cfg s (.shrink size)
      { s with replay := .idle, reachedSizeLimit := reached, rotated := rotated }
  | preserve {pack : List Row} (hreplay : s.replay = .holding pack) :
    Moves cfg s .preserve { s with replay := .idle }
  | stop : Moves cfg s .stop { s with stopped := true }

/-- A call of `put` is refused, or queues its message. -/
private theorem put_moves {message : String} (h : act cfg s (.put message) = some s') :
    Moves cfg s (.put message) s' := by
  obtain rfl := Option.some.inj h
  obtain hsame | hfull | hput := @put_cases cfg s message
  · rw [hsame]
    exact .refused
  · rw [hfull]
    exact .full
  · rw [hput]
    exact .put

/-- The thread prefetches while it has no rows at hand. -/
private theorem select_moves {ok : Bool} (h : act cfg s (.select ok) = some s') :
    Moves cfg s (.select ok) s' := by
  simp only [act, EventStorage.select] at h
  split at h
  case h_1 hthread =>
    simp only [Bool.and_eq_true, prefetches, decide_eq_true_eq,
      Option.ite_none_right_eq_some] at h
    obtain ⟨⟨-, -, hnext⟩, hs'⟩ := h
    obtain rfl := Option.some.inj hs'
    exact .select hthread hnext
  case h_2 => cases h

/-- It keeps the rows it has read. -/
private theorem assign_moves (h : act cfg s .assign = some s') : Moves cfg s .assign s' := by
  simp only [act, EventStorage.assign] at h
  split at h
  case h_1 batch hthread =>
    obtain rfl := Option.some.inj h
    exact .assign hthread
  case h_2 => cases h

/-- And asks for no others until they are dealt with. -/
private theorem unset_moves (h : act cfg s .unset = some s') : Moves cfg s .unset s' := by
  simp only [act, EventStorage.unset] at h
  split at h
  case h_1 hthread =>
    obtain rfl := Option.some.inj h
    exact .unset hthread
  case h_2 => cases h

/-- Or it prefetches nothing. -/
private theorem skip_moves (h : act cfg s .skip = some s') : Moves cfg s .skip s' := by
  simp only [act, EventStorage.skip] at h
  split at h
  case h_1 hthread =>
    obtain ⟨-, hs'⟩ := Option.ite_none_right_eq_some.mp h
    obtain rfl := Option.some.inj hs'
    exact .skip hthread
  case h_2 => cases h

/-- `delete_data_lte` runs when the last check is long enough ago. -/
private theorem sweep_moves {now time : Int} {ok : Bool}
    (h : act cfg s (.sweep now time ok) = some s') : Moves cfg s (.sweep now time ok) s' := by
  simp only [act, EventStorage.sweep] at h
  split at h
  case h_1 hthread =>
    split at h
    case isTrue hdue =>
      obtain rfl := Option.some.inj h
      exact .sweep hthread hdue
    case isFalse hdue =>
      obtain rfl := Option.some.inj h
      exact .noSweep hthread (Bool.eq_false_iff.mpr hdue)
  case h_2 => cases h

/-- The messages of the queue are collected, if there are any. -/
private theorem collect_moves {count : Nat} (h : act cfg s (.collect count) = some s') :
    Moves cfg s (.collect count) s' := by
  simp only [act, EventStorage.collect] at h
  split at h
  case h_1 hthread =>
    split at h
    case isTrue hcount =>
      obtain rfl := Option.some.inj h
      obtain rfl := hcount
      exact .collectNone hthread
    case isFalse =>
      obtain ⟨-, hs'⟩ := Option.ite_none_right_eq_some.mp h
      obtain rfl := Option.some.inj hs'
      exact .collect hthread
  case h_2 => cases h

/-- They are written to the table, or lost with the exception. -/
private theorem insert_moves {ok : Bool} (h : act cfg s (.insert ok) = some s') :
    Moves cfg s (.insert ok) s' := by
  simp only [act, EventStorage.insert] at h
  split at h
  case h_1 batch hthread =>
    split at h
    case isTrue hok =>
      obtain rfl := Option.some.inj h
      obtain ⟨rfl, hstopped⟩ := Bool.and_eq_true_iff.mp hok
      exact .insert hthread (by simpa using hstopped)
    case isFalse =>
      obtain rfl := Option.some.inj h
      exact .lose hthread
  case h_2 => cases h

/-- The size of the file is looked at, or not yet. -/
private theorem limit_moves {due : Bool} {size : FileSize}
    (h : act cfg s (.limit due size) = some s') : Moves cfg s (.limit due size) s' := by
  simp only [act, EventStorage.limit] at h
  split at h
  case h_1 hthread =>
    split at h
    case isTrue =>
      obtain rfl := Option.some.inj h
      obtain ⟨reached, rotated, hlimit⟩ := @exists_processFileLimit cfg s size
      rw [hlimit]
      exact .limit hthread
    case isFalse =>
      obtain rfl := Option.some.inj h
      exact .limit hthread
  case h_2 => cases h

/-- The replay tells the storage that it reads. -/
private theorem read_moves (h : act cfg s .read = some s') : Moves cfg s .read s' := by
  simp only [act, setShouldRead] at h
  split at h
  case h_1 hreplay =>
    obtain rfl := Option.some.inj h
    exact .read hreplay
  case h_2 => cases h

/-- `get_event_pack` returns no row, or hands over a pack. -/
private theorem get_moves {ok present : Bool} (h : act cfg s (.get ok present) = some s') :
    Moves cfg s (.get ok present) s' := by
  simp only [act, getEventPack] at h
  split at h
  case h_1 hreplay =>
    split at h
    -- `should_read` is not set
    case isTrue =>
      obtain rfl := Option.some.inj h
      exact .getNone
    case isFalse =>
      split at h
      -- there is no file to read from
      case isTrue =>
        obtain rfl := Option.some.inj h
        exact .getNone
      case isFalse =>
        split at h
        -- nothing was read
        case isTrue =>
          obtain rfl := Option.some.inj h
          exact .getNone
        case isFalse hpack =>
          obtain rfl := Option.some.inj h
          exact .get hreplay hpack
  case h_2 => cases h

/-- The rows of an acknowledged pack are deleted, unless the storage was stopped. -/
private theorem done_moves {ok : Bool} (h : act cfg s (.done ok) = some s') :
    Moves cfg s (.done ok) s' := by
  simp only [act, eventPackProcessingDone] at h
  split at h
  case h_1 pack hreplay =>
    split at h
    case isTrue hstopped =>
      obtain rfl := Option.some.inj h
      exact .doneStopped hreplay hstopped
    case isFalse hstopped =>
      obtain rfl := Option.some.inj h
      exact .done hreplay (Bool.eq_false_iff.mpr hstopped)
  case h_2 => cases h

/-- Then the prefetched rows are dropped. -/
private theorem clear_moves (h : act cfg s .clear = some s') : Moves cfg s .clear s' := by
  simp only [act, clearNextBatch] at h
  split at h
  case h_1 hreplay =>
    obtain rfl := Option.some.inj h
    exact .clear hreplay
  case h_2 => cases h

/-- And others may be prefetched. -/
private theorem prepare_moves (h : act cfg s .prepare = some s') : Moves cfg s .prepare s' := by
  simp only [act, canPrepareNewBatch] at h
  split at h
  case h_1 hreplay =>
    obtain rfl := Option.some.inj h
    exact .prepare hreplay
  case h_2 => cases h

/-- The replay asks whether the file has rows. -/
private theorem ask_moves {ok : Bool} (h : act cfg s (.ask ok) = some s') :
    Moves cfg s (.ask ok) s' := by
  simp only [act, databaseHasRecords] at h
  split at h
  case h_1 hreplay =>
    obtain rfl := Option.some.inj h
    refine .ask hreplay ?_
    split
    · exact .inl rfl
    · exact .inr rfl
  case h_2 => cases h

/-- An empty file is shrunk, and its size looked at. -/
private theorem shrink_moves {size : FileSize} (h : act cfg s (.shrink size) = some s') :
    Moves cfg s (.shrink size) s' := by
  simp only [act, EventStorage.shrink] at h
  split at h
  case h_1 hreplay =>
    obtain rfl := Option.some.inj h
    obtain ⟨reached, rotated, hlimit⟩ := @exists_processFileLimit cfg s size
    rw [hlimit]
    split
    · exact .shrink hreplay
    · exact .shrink hreplay
  case h_2 => cases h

/-- A pack whose publication failed is kept. -/
private theorem preserve_moves (h : act cfg s .preserve = some s') : Moves cfg s .preserve s' := by
  simp only [act, EventStorage.preserve] at h
  split at h
  case h_1 pack hreplay =>
    obtain rfl := Option.some.inj h
    exact .preserve hreplay
  case h_2 => cases h

/-- Every action of a thread is one of the moves. -/
theorem act_moves {a : Label} (h : act cfg s a = some s') : Moves cfg s a s' := by
  cases a with
  | put message => exact put_moves h
  | select ok => exact select_moves h
  | assign => exact assign_moves h
  | unset => exact unset_moves h
  | skip => exact skip_moves h
  | sweep now time ok => exact sweep_moves h
  | collect count => exact collect_moves h
  | insert ok => exact insert_moves h
  | limit due size => exact limit_moves h
  | read => exact read_moves h
  | get ok present => exact get_moves h
  | done ok => exact done_moves h
  | clear => exact clear_moves h
  | prepare => exact prepare_moves h
  | ask ok => exact ask_moves h
  | shrink size => exact shrink_moves h
  | preserve => exact preserve_moves h
  | stop =>
    obtain rfl := Option.some.inj h
    exact .stop

/-- And so is every step of the system. -/
theorem step_moves {a : Label} (h : step cfg s a = some s') : Moves cfg s a s' := by
  unfold step at h
  split at h
  · cases h
  · exact act_moves h

/-- What the replay depends on is the same. -/
structure Same (s s' : EventStorage) : Prop where
  rows : s'.rows = s.rows
  lastId : s'.lastId = s.lastId
  nextBatch : s'.nextBatch = s.nextBatch
  deleteTimePoint : s'.deleteTimePoint = s.deleteTimePoint
  stopped : s.stopped = true → s'.stopped = true
  handed : s'.handed = s.handed
  acknowledged : s'.acknowledged = s.acknowledged
  removed : s'.removed = s.removed
  selected : ∀ batch, s'.thread = .selected batch → s.thread = .selected batch
  holding : ∀ pack, s'.replay = .holding pack → s.replay = .holding pack
  deleted : s'.replay ≠ .deleted → s.replay ≠ .deleted

/-- What a step does to the table, the prefetched rows and the packs. -/
inductive Effect (cfg : StorageSettings) (s : EventStorage) : Label → EventStorage → Prop where
  | same {a : Label} {s' : EventStorage} (h : Same s s') : Effect cfg s a s'
  | selects {ok : Bool} (hthread : s.thread = .top) (hnext : s.nextBatch = []) :
    Effect cfg s (.select ok) { s with thread := .selected (s.readData cfg ok) }
  | assigns {batch : List Row} (hthread : s.thread = .selected batch) :
    Effect cfg s .assign { s with nextBatch := batch, thread := .assigned }
  | expires {now time : Int} (hthread : s.thread = .processing) :
    Effect cfg s (.sweep now time true)
      { s.deleteDataLte cfg time true with
        lastMsgCheck := now, thread := .swept now, sweeps := s.sweeps + 1 }
  | inserts {batch : List (Int × String)} (hthread : s.thread = .collected batch) :
    Effect cfg s (.insert true)
      { s with
        rows := s.rows ++ numbered s.lastId batch
        lastId := s.lastId + batch.length
        written := s.written ++ numbered s.lastId batch
        thread := .processed }
  | hands {ok present : Bool} (hreplay : s.replay = .idle)
      (hpack : processEventStorageData (s.readData cfg ok) ≠ []) :
    Effect cfg s (.get ok present)
      { s with
        deleteTimePoint := timePoint s.deleteTimePoint (processEventStorageData (s.readData cfg ok))
        replay := .holding (processEventStorageData (s.readData cfg ok))
        handed := s.handed ++ [processEventStorageData (s.readData cfg ok)] }
  | acknowledges {ok : Bool} {pack : List Row} (hreplay : s.replay = .holding pack)
      (hstopped : s.stopped = true) :
    Effect cfg s (.done ok) { s with acknowledged := s.acknowledged ++ pack, replay := .idle }
  | deletes {ok : Bool} {pack : List Row} (hreplay : s.replay = .holding pack)
      (hstopped : s.stopped = false) :
    Effect cfg s (.done ok)
      { s.deleteData ok with acknowledged := s.acknowledged ++ pack, replay := .deleted }
  | clears (hreplay : s.replay = .deleted) :
    Effect cfg s .clear { s with nextBatch := [], replay := .cleared }

/-- A step of a thread that changes nothing the replay depends on. -/
private theorem same_of {s s' : EventStorage} (hrows : s'.rows = s.rows)
    (hlastId : s'.lastId = s.lastId) (hnext : s'.nextBatch = s.nextBatch)
    (hpoint : s'.deleteTimePoint = s.deleteTimePoint)
    (hstopped : s.stopped = true → s'.stopped = true)
    (hhistory : s'.handed = s.handed ∧ s'.acknowledged = s.acknowledged ∧ s'.removed = s.removed)
    (hselected : s'.thread = s.thread ∨ ∀ batch, s'.thread ≠ .selected batch)
    (hreplay : s'.replay = s.replay ∨
      (∀ pack, s'.replay ≠ .holding pack) ∧ s.replay ≠ .deleted) : Same s s' where
  rows := hrows
  lastId := hlastId
  nextBatch := hnext
  deleteTimePoint := hpoint
  stopped := hstopped
  handed := hhistory.1
  acknowledged := hhistory.2.1
  removed := hhistory.2.2
  -- a new batch is only selected by `select`
  selected batch h := by
    obtain hsame | hnone := hselected
    · rw [← hsame, h]
    · exact absurd h (hnone batch)
  holding pack h := by
    obtain hsame | hnone := hreplay
    · rw [← hsame, h]
    · exact absurd h (hnone.1 pack)
  deleted h := by
    obtain hsame | hnone := hreplay
    · rw [← hsame]
      exact h
    · exact hnone.2

/-- Every step of the threads has one of the effects. -/
theorem step_effect {a : Label} (h : step cfg s a = some s') : Effect cfg s a s' := by
  cases step_moves h with
  | refused =>
    -- the refusals and the queue do not concern the replay
    exact .same (same_of rfl rfl rfl rfl id ⟨rfl, rfl, rfl⟩ (.inl rfl) (.inl rfl))
  | full =>
    exact .same (same_of rfl rfl rfl rfl id ⟨rfl, rfl, rfl⟩ (.inl rfl) (.inl rfl))
  | put =>
    exact .same (same_of rfl rfl rfl rfl id ⟨rfl, rfl, rfl⟩ (.inl rfl) (.inl rfl))
  | select hthread hnext => exact .selects hthread hnext
  | assign hthread => exact .assigns hthread
  -- from here to the insertion the thread only moves on
  | unset hthread =>
    exact .same (same_of rfl rfl rfl rfl id ⟨rfl, rfl, rfl⟩ (.inr fun _ hb => by cases hb)
      (.inl rfl))
  | skip hthread =>
    exact .same (same_of rfl rfl rfl rfl id ⟨rfl, rfl, rfl⟩ (.inr fun _ hb => by cases hb)
      (.inl rfl))
  | @sweep now time ok hthread hdue =>
    cases ok with
    | true => exact .expires hthread
    | false =>
      exact .same (same_of rfl rfl rfl rfl id ⟨rfl, rfl, rfl⟩ (.inr fun _ hb => by cases hb)
        (.inl rfl))
  | noSweep hthread hdue =>
    exact .same (same_of rfl rfl rfl rfl id ⟨rfl, rfl, rfl⟩ (.inr fun _ hb => by cases hb)
      (.inl rfl))
  | collectNone hthread =>
    exact .same (same_of rfl rfl rfl rfl id ⟨rfl, rfl, rfl⟩ (.inr fun _ hb => by cases hb)
      (.inl rfl))
  | collect hthread =>
    exact .same (same_of rfl rfl rfl rfl id ⟨rfl, rfl, rfl⟩ (.inr fun _ hb => by cases hb)
      (.inl rfl))
  | insert hthread hstopped => exact .inserts hthread
  | lose hthread =>
    exact .same (same_of rfl rfl rfl rfl id ⟨rfl, rfl, rfl⟩ (.inr fun _ hb => by cases hb)
      (.inl rfl))
  | limit hthread =>
    exact .same (same_of rfl rfl rfl rfl id ⟨rfl, rfl, rfl⟩ (.inr fun _ hb => by cases hb)
      (.inl rfl))
  -- what the replay asks for leaves its packs alone
  | read hreplay =>
    refine .same (same_of rfl rfl rfl rfl id ⟨rfl, rfl, rfl⟩ (.inl rfl)
      (.inr ⟨fun _ hp => (by cases hp), ?_⟩))
    rw [hreplay]
    exact fun hd => by cases hd
  | getNone =>
    exact .same (same_of rfl rfl rfl rfl id ⟨rfl, rfl, rfl⟩ (.inl rfl) (.inl rfl))
  | get hreplay hpack => exact .hands hreplay hpack
  | doneStopped hreplay hstopped => exact .acknowledges hreplay hstopped
  | done hreplay hstopped => exact .deletes hreplay hstopped
  | clear hreplay => exact .clears hreplay
  | prepare hreplay =>
    refine .same (same_of rfl rfl rfl rfl id ⟨rfl, rfl, rfl⟩ (.inl rfl)
      (.inr ⟨fun _ hp => (by cases hp), ?_⟩))
    rw [hreplay]
    exact fun hd => by cases hd
  | ask hreplay hnext =>
    refine .same (same_of rfl rfl rfl rfl id ⟨rfl, rfl, rfl⟩ (.inl rfl) (.inr ⟨?_, ?_⟩))
    · intro pack hp
      obtain rfl | rfl := hnext
      · cases hp
      · cases hp
    · rw [hreplay]
      exact fun hd => by cases hd
  | shrink hreplay =>
    refine .same (same_of rfl rfl rfl rfl id ⟨rfl, rfl, rfl⟩ (.inl rfl)
      (.inr ⟨fun _ hp => (by cases hp), ?_⟩))
    rw [hreplay]
    exact fun hd => by cases hd
  | preserve hreplay =>
    refine .same (same_of rfl rfl rfl rfl id ⟨rfl, rfl, rfl⟩ (.inl rfl)
      (.inr ⟨fun _ hp => (by cases hp), ?_⟩))
    rw [hreplay]
    exact fun hd => by cases hd
  | stop =>
    exact .same (same_of rfl rfl rfl rfl (fun _ => rfl) ⟨rfl, rfl, rfl⟩ (.inl rfl) (.inl rfl))

/-! ## The order of the rows -/

/-- The batch has every row of the table up to any of its own. -/
def Leading (s : EventStorage) (batch : List Row) : Prop :=
  ∀ last ∈ batch, last.id ≤ s.lastId ∧ ∀ row ∈ s.rows, row.id ≤ last.id → row ∈ batch

/-- The table is in the order of the ids, and so is what is read from it. -/
structure Ordered (s : EventStorage) : Prop where
  ascending : s.rows.Ascending Row.id
  ids : ∀ row ∈ s.rows, 0 < row.id ∧ row.id ≤ s.lastId
  point : s.deleteTimePoint ≤ s.lastId
  next : s.Leading s.nextBatch
  selected : ∀ batch, s.thread = .selected batch → s.Leading batch

/-- No rows lead the table. -/
theorem leading_nil (s : EventStorage) : s.Leading [] :=
  fun _ h => absurd h List.not_mem_nil

/-- Rows that go and rows with new ids leave a batch what it is. -/
theorem Leading.mono {batch : List Row} (h : s.Leading batch) (hlastId : s.lastId ≤ s'.lastId)
    (hrows : ∀ row ∈ s'.rows, row ∈ s.rows ∨ s.lastId < row.id) : s'.Leading batch := by
  intro last hlast
  obtain ⟨hid, hall⟩ := h last hlast
  constructor
  · omega
  · intro row hrow hle
    cases hrows row hrow with
    | inl hold => exact hall row hold hle
    | inr hnew => omega

/-- What is read leads the table. -/
theorem Ordered.leading_readData (h : Ordered s) (ok : Bool) : s.Leading (s.readData cfg ok) := by
  obtain hnone | ⟨hnext, -⟩ | ⟨htake, -⟩ := @readData_cases cfg s ok
  · rw [hnone]
    exact leading_nil s
  · rw [hnext]
    exact h.next
  · rw [htake]
    intro last hlast
    exact ⟨(h.ids last (List.mem_of_mem_take hlast)).2,
      fun row hrow hle => h.ascending.mem_take_of_le hlast hrow hle⟩

/-- What the new time point covers is covered by the old one, or is in the rows that were read. -/
theorem Ordered.mem_readData (h : Ordered s) {ok : Bool} {row : Row} (hrow : row ∈ s.rows)
    (hle : row.id ≤
      timePoint s.deleteTimePoint (processEventStorageData (s.readData cfg ok))) :
    timePoint s.deleteTimePoint (processEventStorageData (s.readData cfg ok)) =
        s.deleteTimePoint ∨ row ∈ s.readData cfg ok := by
  obtain hsame | ⟨last, hlast, hid⟩ :=
    timePoint_eq s.deleteTimePoint (processEventStorageData (s.readData cfg ok))
  · exact .inl hsame
  · have hdata := (mem_processEventStorageData.mp hlast).1
    exact .inr ((h.leading_readData ok last hdata).2 row hrow (by omega))

/-- The time point is an id that was given. -/
theorem Ordered.point_le (h : Ordered s) (ok : Bool) :
    timePoint s.deleteTimePoint (processEventStorageData (s.readData cfg ok)) ≤ s.lastId := by
  obtain hsame | ⟨last, hlast, hid⟩ :=
    timePoint_eq s.deleteTimePoint (processEventStorageData (s.readData cfg ok))
  · rw [hsame]
    exact h.point
  · have hdata := (mem_processEventStorageData.mp hlast).1
    have hlastId := (h.leading_readData ok last hdata).1
    omega

/-- A step that removes rows at most keeps the order. -/
theorem Ordered.of_rows (h : Ordered s) (hrows : List.Sublist s'.rows s.rows)
    (hlastId : s'.lastId = s.lastId) (hpoint : s'.deleteTimePoint ≤ s'.lastId)
    (hnext : s.Leading s'.nextBatch)
    (hselected : ∀ batch, s'.thread = .selected batch → s.Leading batch) : Ordered s' where
  ascending := List.Pairwise.sublist hrows h.ascending
  ids row hrow := by
    rw [hlastId]
    exact h.ids row (hrows.subset hrow)
  point := hpoint
  next := hnext.mono hlastId.ge fun _ hrow => .inl (hrows.subset hrow)
  selected batch hthread :=
    (hselected batch hthread).mono hlastId.ge fun _ hrow => .inl (hrows.subset hrow)

/-- Every step keeps the order of the table. -/
theorem Ordered.step {a : Label} (h : Ordered s) (heffect : Effect cfg s a s') : Ordered s' := by
  cases heffect with
  | same hsame =>
    refine h.of_rows (hsame.rows ▸ List.Sublist.refl _) hsame.lastId ?_ ?_ ?_
    · rw [hsame.lastId, hsame.deleteTimePoint]
      exact h.point
    · rw [hsame.nextBatch]
      exact h.next
    · exact fun batch hthread => h.selected batch (hsame.selected batch hthread)
  | selects hthread hnext =>
    refine h.of_rows (List.Sublist.refl _) rfl h.point h.next ?_
    intro batch hb
    obtain rfl := DatabaseThread.selected.inj hb
    exact h.leading_readData _
  | assigns hthread =>
    refine h.of_rows (List.Sublist.refl _) rfl h.point (h.selected _ hthread) ?_
    intro batch hb
    cases hb
  | expires hthread =>
    refine h.of_rows List.filter_sublist rfl h.point h.next ?_
    intro batch hb
    cases hb
  -- new rows come behind the table, with ids above the last one
  | @inserts batch hthread =>
    have hnew : ∀ row ∈ s.rows ++ numbered s.lastId batch, row ∈ s.rows ∨ s.lastId < row.id := by
      intro row hrow
      cases List.mem_append.mp hrow with
      | inl hold => exact .inl hold
      | inr hrest => exact .inr (mem_numbered hrest).1
    constructor
    case ascending =>
      refine List.pairwise_append.mpr ⟨h.ascending, numbered_ascending _ _, ?_⟩
      intro row hrow new hnew
      have hold := (h.ids row hrow).2
      have hid := (mem_numbered hnew).1
      omega
    case ids =>
      intro row hrow
      show 0 < row.id ∧ row.id ≤ s.lastId + batch.length
      cases List.mem_append.mp hrow with
      | inl hold =>
        have hids := h.ids row hold
        omega
      | inr hrest =>
        have hids := mem_numbered hrest
        omega
    case point => exact Nat.le_trans h.point (Nat.le_add_right _ _)
    case next => exact h.next.mono (Nat.le_add_right _ _) hnew
    case selected =>
      intro batch hb
      cases hb
  | hands hreplay hpack =>
    exact h.of_rows (List.Sublist.refl _) rfl (h.point_le _) h.next h.selected
  | acknowledges hreplay hstopped =>
    exact h.of_rows (List.Sublist.refl _) rfl h.point h.next h.selected
  -- a deletion takes rows from the front of the table
  | @deletes ok pack hreplay hstopped =>
    cases ok with
    | true => exact h.of_rows List.filter_sublist rfl h.point h.next h.selected
    | false => exact h.of_rows (List.Sublist.refl _) rfl h.point h.next h.selected
  | clears hreplay =>
    exact h.of_rows (List.Sublist.refl _) rfl h.point (leading_nil s) h.selected

/-- The table of a file that is opened is in order. -/
theorem Opened.ordered (h : Opened s) : Ordered s := by
  obtain ⟨rows, lastId, hascending, hids, rfl⟩ := h
  constructor
  case ascending => exact hascending
  case ids => exact hids
  case point => exact Nat.zero_le lastId
  case next => exact leading_nil _
  case selected =>
    intro batch hb
    cases hb

/-! ## Deleted rows were handed out -/

/-- The row was in a pack the replay thread was given. -/
def Handed (s : EventStorage) (row : Row) : Prop := ∃ pack ∈ s.handed, row ∈ pack

/-- Rows with a message that are deleted, or will be by the next deletion, were handed out. -/
structure HandsOut (s : EventStorage) : Prop where
  ordered : Ordered s
  handed : ∀ row ∈ s.rows, row.id ≤ s.deleteTimePoint → row.message ≠ "" → s.Handed row
  removed : ∀ row ∈ s.removed, row.message ≠ "" → s.Handed row

/-- Rows that go, and rows with new ids, were not deleted unseen. -/
theorem HandsOut.of_rows (h : HandsOut s) (hordered : Ordered s')
    (hrows : ∀ row ∈ s'.rows, row ∈ s.rows ∨ s.lastId < row.id)
    (hpoint : s'.deleteTimePoint = s.deleteTimePoint) (hhanded : s'.handed = s.handed)
    (hremoved : s'.removed = s.removed) : HandsOut s' where
  ordered := hordered
  handed row hrow hle hmessage := by
    rw [hpoint] at hle
    rw [Handed, hhanded]
    cases hrows row hrow with
    | inl hold => exact h.handed row hold hle hmessage
    | inr hnew =>
      have hbound := h.ordered.point
      omega
  removed := by
    unfold Handed
    rw [hremoved, hhanded]
    exact h.removed

/-- Every step deletes only what was handed out. -/
theorem HandsOut.step {a : Label} (h : HandsOut s) (hstep : EventStorage.step cfg s a = some s') :
    HandsOut s' := by
  have heffect := step_effect hstep
  have hordered := h.ordered.step heffect
  cases heffect with
  -- in most steps no row is handed out and none is removed
  | same hsame =>
    exact h.of_rows hordered (fun row hrow => .inl (hsame.rows ▸ hrow)) hsame.deleteTimePoint
      hsame.handed hsame.removed
  | selects hthread hnext => exact h.of_rows hordered (fun _ => .inl) rfl rfl rfl
  | assigns hthread => exact h.of_rows hordered (fun _ => .inl) rfl rfl rfl
  | expires hthread =>
    exact h.of_rows hordered (fun row hrow => .inl (List.mem_filter.mp hrow).1) rfl rfl rfl
  | inserts hthread =>
    refine h.of_rows hordered (fun row hrow => ?_) rfl rfl rfl
    cases List.mem_append.mp hrow with
    | inl hold => exact .inl hold
    | inr hnew => exact .inr (mem_numbered hnew).1
  | @hands ok present hreplay hpack =>
    -- a row is handed out before, or by this pack
    have hgrow : ∀ row, s.Handed row → ∃ pack ∈ s.handed ++ [processEventStorageData
        (s.readData cfg ok)], row ∈ pack := by
      intro row hrow
      obtain ⟨pack, hmem, hin⟩ := hrow
      exact ⟨pack, List.mem_append_left _ hmem, hin⟩
    constructor
    case ordered => exact hordered
    case handed =>
      intro row hrow hle hmessage
      cases h.ordered.mem_readData hrow hle with
      | inl hsame => exact hgrow row (h.handed row hrow (hsame ▸ hle) hmessage)
      | inr hdata =>
        exact ⟨_, List.mem_append_right _ List.mem_cons_self,
          mem_processEventStorageData.mpr ⟨hdata, hmessage⟩⟩
    case removed => exact fun row hrow hmessage => hgrow row (h.removed row hrow hmessage)
  | acknowledges hreplay hstopped => exact h.of_rows hordered (fun _ => .inl) rfl rfl rfl
  | @deletes ok pack hreplay hstopped =>
    cases ok with
    | false => exact h.of_rows hordered (fun _ => .inl) rfl rfl rfl
    | true =>
      constructor
      case ordered => exact hordered
      -- what is left is behind the point
      case handed =>
        intro row hrow hle
        have hkept := of_decide_eq_true (List.mem_filter.mp hrow).2
        have hpast : row.id ≤ s.deleteTimePoint := hle
        omega
      -- what is removed was at the point at most, and so was handed out
      case removed =>
        intro row hrow hmessage
        cases List.mem_append.mp hrow with
        | inl hold => exact h.removed row hold hmessage
        | inr hnew =>
          obtain ⟨hmem, hle⟩ := List.mem_filter.mp hnew
          exact h.handed row hmem (of_decide_eq_true hle) hmessage
  | clears hreplay => exact h.of_rows hordered (fun _ => .inl) rfl rfl rfl

/-- After the opening nothing is up to the time point. -/
theorem Opened.handsOut (h : Opened s) : HandsOut s := by
  have hordered := h.ordered
  obtain ⟨rows, lastId, -, hids, rfl⟩ := h
  constructor
  case ordered => exact hordered
  case handed =>
    intro row hrow hle
    have hpositive := (hids row hrow).1
    have hzero : row.id ≤ 0 := hle
    omega
  case removed => exact fun row hrow => absurd hrow List.not_mem_nil

/-- Whatever the order of the steps, `delete_data` removes only rows that were handed out, apart
    from those without a message. -/
theorem removed_handed {labels : List Label} (hopened : Opened s)
    (hrun : exec cfg s labels = some s') {row : Row} (hrow : row ∈ s'.removed)
    (hmessage : row.message ≠ "") : ∃ pack ∈ s'.handed, row ∈ pack := by
  have hend : HandsOut s' :=
    Run.exec_invariant' (fun _ _ _ h hstep => h.step hstep) hopened.handsOut hrun
  exact hend.removed row hrow hmessage

/-- A small storage with two rows. -/
private def twoRows : EventStorage :=
  { rows := [⟨1, 5, "a"⟩, ⟨2, 6, "b"⟩], lastId := 2, shouldRead := false,
    reachedSizeLimit := false, isMaxDbAmountReached := false, rotated := false,
    canPrepare := true, nextBatch := [], lastMsgCheck := 0, writeQueue := [], stopped := false,
    deleteTimePoint := 0, thread := .top, replay := .opening, accepted := [], written := [],
    lost := [], handed := [], acknowledged := [], removed := [], expired := [], sweeps := 0 }

private def oneByOne : StorageSettings :=
  { maxDbAmount := 10, maxReadRecordsCount := 1, batchSize := 10, messagesTtlCheck := 3600,
    messagesTtlInDays := 7 }

/-- It has just been opened. -/
private theorem twoRows_opened : Opened twoRows :=
  ⟨[⟨1, 5, "a"⟩, ⟨2, 6, "b"⟩], 2, by simp, by simp, rfl⟩

/-- Two packs of one row, one after the other. -/
private def twoPacks : List Label :=
  [.read, .ask true, .get true true, .done true, .clear, .prepare, .ask true, .get true true,
    .done true]

/-- The second row is deleted with the second pack. -/
theorem removed_handed_twoRows : ∃ s', exec oneByOne twoRows twoPacks = some s' ∧
    (⟨2, 6, "b"⟩ : Row) ∈ s'.removed ∧ ∃ pack ∈ s'.handed, (⟨2, 6, "b"⟩ : Row) ∈ pack :=
  ⟨_, rfl, by decide, removed_handed twoRows_opened
    (show exec oneByOne twoRows twoPacks = _ from rfl) (by decide) (by decide)⟩

/-! ## Deleted rows were published -/

/-- The rows of a prefetch are read and not assigned yet. -/
def selecting (s : EventStorage) : Bool :=
  match s.thread with
  | .selected _ => true
  | _ => false

/-- Without a prefetch under way there are no selected rows. -/
theorem not_selected (h : s.selecting = false) (batch : List Row) :
    s.thread ≠ .selected batch := by
  intro hthread
  simp [selecting, hthread] at h

/-- No pack is reported as done between the `SELECT` of the prefetch and its assignment. -/
def NoRace (s : EventStorage) : Label → Prop
  | .done _ => s.selecting = false
  | _ => True

instance (s : EventStorage) (a : Label) : Decidable (NoRace s a) :=
  match a with
  | .done _ => inferInstanceAs (Decidable (s.selecting = false))
  | .put _ | .select _ | .assign | .unset | .skip | .sweep .. | .collect _ | .insert _
  | .limit .. | .read | .get .. | .clear | .prepare | .ask _ | .shrink _ | .preserve
  | .stop => .isTrue trivial

/-- The rows up to the time point are those of the pack in hand, and of the prefetched rows. -/
structure Replays (cfg : StorageSettings) (s : EventStorage) : Prop where
  ordered : Ordered s
  few : (s.rows.filter fun row => row.id ≤ s.deleteTimePoint).length ≤ cfg.maxReadRecordsCount
  length : s.nextBatch.length ≤ cfg.maxReadRecordsCount
  next : s.nextBatch ≠ [] → ∀ row ∈ s.rows, row.id ≤ s.deleteTimePoint → row ∈ s.nextBatch
  selected : ∀ batch, s.thread = .selected batch →
    s.nextBatch = [] ∧ (batch ≠ [] → batch = s.rows.take cfg.maxReadRecordsCount)
  holding : ∀ pack, s.replay = .holding pack →
    ∀ row ∈ s.rows, row.id ≤ s.deleteTimePoint → row.message ≠ "" → row ∈ pack
  removed : ∀ row ∈ s.removed, row.message ≠ "" → row ∈ s.acknowledged

/-- The rows up to the time point are among the first ones. -/
theorem Replays.mem_take (h : Replays cfg s) {row : Row} (hrow : row ∈ s.rows)
    (hle : row.id ≤ s.deleteTimePoint) : row ∈ s.rows.take cfg.maxReadRecordsCount :=
  h.ordered.ascending.mem_take_of_length h.few hrow hle

/-- A read is never longer than the limit of records. -/
theorem Replays.length_readData (h : Replays cfg s) (ok : Bool) :
    (s.readData cfg ok).length ≤ cfg.maxReadRecordsCount := by
  obtain hnone | ⟨hnext, -⟩ | ⟨htake, -⟩ := @readData_cases cfg s ok
  · rw [hnone]
    exact Nat.zero_le _
  · rw [hnext]
    exact h.length
  · rw [htake]
    exact List.length_take_le _ _

/-- A read that returns rows returns all up to the time point it leads to. -/
theorem Replays.mem_readData (h : Replays cfg s) {ok : Bool} (hdata : s.readData cfg ok ≠ [])
    {row : Row} (hrow : row ∈ s.rows)
    (hle : row.id ≤
      timePoint s.deleteTimePoint (processEventStorageData (s.readData cfg ok))) :
    row ∈ s.readData cfg ok := by
  cases h.ordered.mem_readData hrow hle with
  | inr hmem => exact hmem
  | inl hsame =>
    rw [hsame] at hle
    obtain hnone | ⟨hnext, hne⟩ | ⟨htake, -⟩ := @readData_cases cfg s ok
    · exact absurd hnone hdata
    · rw [hnext]
      exact h.next hne row hrow hle
    · rw [htake]
      exact h.mem_take hrow hle

/-- A pack with rows comes from a read with rows. -/
theorem readData_ne_nil {ok : Bool} (h : processEventStorageData (s.readData cfg ok) ≠ []) :
    s.readData cfg ok ≠ [] := by
  intro hdata
  rw [hdata] at h
  exact h rfl

/-- There are few rows up to the new time point. -/
theorem Replays.few_readData (h : Replays cfg s) {ok : Bool} (hdata : s.readData cfg ok ≠ []) :
    (s.rows.filter fun row => row.id ≤
      timePoint s.deleteTimePoint (processEventStorageData (s.readData cfg ok))).length ≤
      cfg.maxReadRecordsCount := by
  refine Nat.le_trans ?_ (h.length_readData ok)
  refine (List.subperm_of_subset (h.ordered.ascending.filter _).nodup fun row hrow => ?_).length_le
  obtain ⟨hmem, hle⟩ := List.mem_filter.mp hrow
  exact h.mem_readData hdata hmem (of_decide_eq_true hle)

/-- Steps that leave the time point, the prefetched rows and the packs as they are. -/
theorem Replays.of_rows (h : Replays cfg s) (hordered : Ordered s')
    (hrows : (s'.rows.filter fun row => row.id ≤ s.deleteTimePoint).Sublist s.rows)
    (hpoint : s'.deleteTimePoint = s.deleteTimePoint) (hnext : s'.nextBatch = s.nextBatch)
    (hselected : ∀ batch, s'.thread = .selected batch →
      s.nextBatch = [] ∧ (batch ≠ [] → batch = s'.rows.take cfg.maxReadRecordsCount))
    (hholding : ∀ pack, s'.replay = .holding pack → s.replay = .holding pack)
    (hremoved : s'.removed = s.removed)
    (hacknowledged : ∀ row ∈ s.acknowledged, row ∈ s'.acknowledged) : Replays cfg s' where
  ordered := hordered
  -- few: fewer rows are left up to the point
  few := by
    rw [hpoint]
    have hfew := hrows.filter fun row => row.id ≤ s.deleteTimePoint
    simp only [List.filter_filter, Bool.and_self] at hfew
    exact Nat.le_trans hfew.length_le h.few
  length := hnext ▸ h.length
  next hne row hrow hle := by
    rw [hpoint] at hle
    rw [hnext] at hne ⊢
    exact h.next hne row (hrows.subset (List.mem_filter.mpr ⟨hrow, decide_eq_true hle⟩)) hle
  selected batch hthread := hnext ▸ hselected batch hthread
  holding pack hpack row hrow hle := by
    rw [hpoint] at hle
    exact h.holding pack (hholding pack hpack) row
      (hrows.subset (List.mem_filter.mpr ⟨hrow, decide_eq_true hle⟩)) hle
  removed row hrow hmessage := by
    rw [hremoved] at hrow
    exact hacknowledged row (h.removed row hrow hmessage)

/-- The rows a prefetch selects are the first ones of the table. -/
theorem Replays.selects (h : Replays cfg s) {ok : Bool} (hnext : s.nextBatch = [])
    (hordered : Ordered { s with thread := .selected (s.readData cfg ok) }) :
    Replays cfg { s with thread := .selected (s.readData cfg ok) } := by
  refine h.of_rows hordered List.filter_sublist rfl rfl ?_ (fun _ => id) rfl fun _ => id
  intro batch hb
  obtain rfl := DatabaseThread.selected.inj hb
  refine ⟨hnext, fun hne => ?_⟩
  obtain hnone | ⟨-, hprefetched⟩ | ⟨htake, -⟩ := @readData_cases cfg s ok
  · exact absurd hnone hne
  · exact absurd hnext hprefetched
  · exact htake

/-- They are still the first ones when they are assigned: no pack was reported as done since. -/
theorem Replays.assigns (h : Replays cfg s) {batch : List Row} (hthread : s.thread = .selected batch)
    (hordered : Ordered { s with nextBatch := batch, thread := .assigned }) :
    Replays cfg { s with nextBatch := batch, thread := .assigned } := by
  -- a batch that was selected is the beginning of the table as it is now
  have hbatch := (h.selected batch hthread).2
  constructor
  case ordered => exact hordered
  case few => exact h.few
  case length =>
    show batch.length ≤ cfg.maxReadRecordsCount
    by_cases hne : batch = []
    · rw [hne]
      exact Nat.zero_le _
    · rw [hbatch hne]
      exact List.length_take_le _ _
  case next =>
    intro hne row hrow hle
    show row ∈ batch
    rw [hbatch hne]
    exact h.mem_take hrow hle
  -- selected: the thread has assigned its batch
  case selected =>
    intro batch hb
    cases hb
  case holding => exact h.holding
  case removed => exact h.removed

/-- New rows have ids past the time point. -/
theorem Replays.inserts (h : Replays cfg s) {batch : List (Int × String)}
    (hordered : Ordered s') (hrows : s'.rows = s.rows ++ numbered s.lastId batch)
    (hpoint : s'.deleteTimePoint = s.deleteTimePoint) (hnext : s'.nextBatch = s.nextBatch)
    (hthread : ∀ batch, s'.thread ≠ .selected batch) (hreplay : s'.replay = s.replay)
    (hremoved : s'.removed = s.removed) (hacknowledged : s'.acknowledged = s.acknowledged) :
    Replays cfg s' := by
  refine h.of_rows hordered ?_ hpoint hnext (fun batch hb => absurd hb (hthread batch)) ?_
    hremoved ?_
  · have hnone :
        (numbered s.lastId batch).filter (fun row => row.id ≤ s.deleteTimePoint) = [] := by
      refine List.filter_eq_nil_iff.mpr fun row hrow hle => ?_
      have hnew := (mem_numbered hrow).1
      have hbound := h.ordered.point
      have hpast := of_decide_eq_true hle
      omega
    rw [hrows, List.filter_append, hnone, List.append_nil]
    exact List.filter_sublist
  · rw [hreplay]
    exact fun _ => id
  · rw [hacknowledged]
    exact fun _ => id

/-- A pack has every row up to the new time point that has a message. -/
theorem Replays.hands (h : Replays cfg s) {ok : Bool}
    (hpack : processEventStorageData (s.readData cfg ok) ≠ [])
    (hordered : Ordered { s with
      deleteTimePoint := timePoint s.deleteTimePoint (processEventStorageData (s.readData cfg ok))
      replay := .holding (processEventStorageData (s.readData cfg ok))
      handed := s.handed ++ [processEventStorageData (s.readData cfg ok)] }) :
    Replays cfg { s with
      deleteTimePoint := timePoint s.deleteTimePoint (processEventStorageData (s.readData cfg ok))
      replay := .holding (processEventStorageData (s.readData cfg ok))
      handed := s.handed ++ [processEventStorageData (s.readData cfg ok)] } := by
  have hdata := readData_ne_nil hpack
  constructor
  case ordered => exact hordered
  case few => exact h.few_readData hdata
  case length => exact h.length
  -- the point moves to the end of what was read, which the prefetched rows reach
  case next =>
    intro hne row hrow hle
    have hmem := h.mem_readData hdata hrow hle
    obtain hnone | ⟨hnext, -⟩ | ⟨-, hnext⟩ := @readData_cases cfg s ok
    · exact absurd hnone hdata
    · exact hnext ▸ hmem
    · exact absurd hnext hne
  case selected => exact h.selected
  -- the pack is what was read
  case holding =>
    intro pack hb row hrow hle hmessage
    obtain rfl := ReplayThread.holding.inj hb
    exact mem_processEventStorageData.mpr ⟨h.mem_readData hdata hrow hle, hmessage⟩
  case removed => exact h.removed

/-- What a deletion removes is in the pack that was published, and nothing is left up to the time
    point. -/
theorem Replays.deletes (h : Replays cfg s) {pack : List Row} (hreplay : s.replay = .holding pack)
    (hrace : s.selecting = false)
    (hordered : Ordered { s.deleteData true with
      acknowledged := s.acknowledged ++ pack, replay := .deleted }) :
    Replays cfg { s.deleteData true with
      acknowledged := s.acknowledged ++ pack, replay := .deleted } := by
  -- the rows that are left are behind the point
  have hpast : ∀ row ∈ s.rows.filter (fun row => s.deleteTimePoint < row.id),
      ¬ row.id ≤ s.deleteTimePoint := by
    intro row hrow
    have hkept := of_decide_eq_true (List.mem_filter.mp hrow).2
    omega
  constructor
  case ordered => exact hordered
  case few =>
    have hnone : (s.rows.filter fun row => s.deleteTimePoint < row.id).filter
        (fun row => row.id ≤ s.deleteTimePoint) = [] :=
      List.filter_eq_nil_iff.mpr fun row hrow hle => hpast row hrow (of_decide_eq_true hle)
    exact Nat.le_trans (Nat.le_of_eq (congrArg List.length hnone)) (Nat.zero_le _)
  case length => exact h.length
  case next => exact fun _ row hrow hle => absurd hle (hpast row hrow)
  case selected => exact fun batch hthread => absurd hthread (not_selected hrace batch)
  case holding => exact fun _ _ row hrow hle => absurd hle (hpast row hrow)
  -- what is removed was in the pack that has been published
  case removed =>
    intro row hrow hmessage
    cases List.mem_append.mp hrow with
    | inl hold => exact List.mem_append_left _ (h.removed row hold hmessage)
    | inr hnew =>
      obtain ⟨hmem, hle⟩ := List.mem_filter.mp hnew
      exact List.mem_append_right _
        (h.holding pack hreplay row hmem (of_decide_eq_true hle) hmessage)

/-- Without prefetched rows the next read is from the table. -/
theorem Replays.clears (h : Replays cfg s)
    (hordered : Ordered { s with nextBatch := [], replay := .cleared }) :
    Replays cfg { s with nextBatch := [], replay := .cleared } := by
  constructor
  case ordered => exact hordered
  case few => exact h.few
  case length => exact Nat.zero_le _
  case next => exact fun hne => absurd rfl hne
  case selected => exact fun batch hthread => ⟨rfl, (h.selected batch hthread).2⟩
  case holding =>
    intro pack hb
    cases hb
  case removed => exact h.removed

/-- Without the race every step keeps the rows up to the time point in the pack. -/
theorem Replays.step {a : Label} (h : Replays cfg s) (hrace : NoRace s a)
    (hstep : EventStorage.step cfg s a = some s') : Replays cfg s' := by
  have heffect := step_effect hstep
  have hordered := h.ordered.step heffect
  cases heffect with
  | same hsame =>
    refine h.of_rows hordered ?_ hsame.deleteTimePoint hsame.nextBatch ?_ hsame.holding
      hsame.removed ?_
    · rw [hsame.rows]
      exact List.filter_sublist
    · intro batch hthread
      rw [hsame.rows]
      exact h.selected batch (hsame.selected batch hthread)
    · rw [hsame.acknowledged]
      exact fun _ => id
  -- without the race the thread selects from the table that is there
  | selects hthread hnext => exact h.selects hnext hordered
  | assigns hthread => exact h.assigns hthread hordered
  | expires hthread =>
    exact h.of_rows hordered (List.filter_sublist.trans List.filter_sublist) rfl rfl
      (fun _ hb => by cases hb) (fun _ => id) rfl fun _ => id
  | inserts hthread =>
    exact h.inserts hordered rfl rfl rfl (fun _ hb => by cases hb) rfl rfl rfl
  | hands hreplay hpack => exact h.hands hpack hordered
  | acknowledges hreplay hstopped =>
    exact h.of_rows hordered List.filter_sublist rfl rfl h.selected (fun _ hb => by cases hb) rfl
      fun row => List.mem_append_left _
  | @deletes ok pack hreplay hstopped =>
    cases ok with
    | true => exact h.deletes hreplay hrace hordered
    | false =>
      -- the rows stay, and the pack counts as published
      exact h.of_rows hordered List.filter_sublist rfl rfl h.selected (fun _ hb => by cases hb) rfl
        fun row => List.mem_append_left _
  | clears hreplay => exact h.clears hordered

/-- After the opening no pack is in hand. -/
theorem Opened.replays (h : Opened s) : Replays cfg s := by
  have hordered := h.ordered
  obtain ⟨rows, lastId, -, hids, rfl⟩ := h
  -- ids begin at one, and nothing has been handed out up to zero
  have hpast : ∀ row ∈ rows, ¬ row.id ≤ 0 := by
    intro row hrow
    have hpositive := (hids row hrow).1
    omega
  constructor
  case ordered => exact hordered
  case few =>
    have hnone : rows.filter (fun row => row.id ≤ 0) = [] :=
      List.filter_eq_nil_iff.mpr fun row hrow hle => hpast row hrow (of_decide_eq_true hle)
    show (List.filter _ rows).length ≤ _
    rw [hnone]
    exact Nat.zero_le _
  case length => exact Nat.zero_le _
  case next => exact fun hne => absurd rfl hne
  case selected =>
    intro batch hb
    cases hb
  case holding =>
    intro pack hb
    cases hb
  case removed => exact fun row hrow => absurd hrow List.not_mem_nil

/-- Without the race, `delete_data` removes only rows of packs every message of which was
    published, apart from those without a message. -/
theorem removed_acknowledged {labels : List Label} (hopened : Opened s)
    (hrace : Run.Along (EventStorage.step cfg) NoRace s labels)
    (hrun : exec cfg s labels = some s') {row : Row} (hrow : row ∈ s'.removed)
    (hmessage : row.message ≠ "") : row ∈ s'.acknowledged := by
  have hend : Replays cfg s' :=
    Run.exec_invariant (fun _ _ _ h hP hstep => h.step hP hstep) hopened.replays hrace hrun
  exact hend.removed row hrow hmessage

/-- And it was in the pack that was published. -/
theorem removed_acknowledged_twoRows : ∃ s', exec oneByOne twoRows twoPacks = some s' ∧
    (⟨2, 6, "b"⟩ : Row) ∈ s'.removed ∧ (⟨2, 6, "b"⟩ : Row) ∈ s'.acknowledged :=
  ⟨_, rfl, by decide, removed_acknowledged twoRows_opened
    (show Run.Along (EventStorage.step oneByOne) NoRace twoRows twoPacks by decide) rfl
    (by decide) (by decide)⟩

/-- The first pack is reported as done while its row is prefetched once more. The second pack is
    not published, the prefetched row is, and the second row is deleted. -/
theorem removed_unpublished : ∃ s', exec oneByOne twoRows
    [.read, .ask true, .get true true, .select true, .done true, .clear, .prepare, .ask true,
      .get true true, .preserve, .assign, .get true true, .done true] = some s' ∧
    (⟨2, 6, "b"⟩ : Row) ∈ s'.removed ∧ (⟨2, 6, "b"⟩ : Row) ∉ s'.acknowledged :=
  ⟨_, rfl, by decide, by decide⟩

/-! ## Packs are published in order -/

/-- The deletion after a pack succeeds, and no prefetch is under way. -/
def Deletes (s : EventStorage) : Label → Prop
  | .done ok => (ok = true ∨ s.stopped = true) ∧ s.selecting = false
  | _ => True

instance (s : EventStorage) (a : Label) : Decidable (Deletes s a) :=
  match a with
  | .done ok => inferInstanceAs (Decidable ((ok = true ∨ s.stopped = true) ∧ s.selecting = false))
  | .put _ | .select _ | .assign | .unset | .skip | .sweep .. | .collect _ | .insert _
  | .limit .. | .read | .get .. | .clear | .prepare | .ask _ | .shrink _ | .preserve
  | .stop => .isTrue trivial

/-- Without a prefetch under way there is no race. -/
theorem Deletes.noRace {a : Label} (h : Deletes s a) : NoRace s a := by
  cases a with
  | done ok => exact h.2
  | _ => trivial

/-- The rows are later than every published one. -/
def Later (s : EventStorage) (rows : List Row) : Prop :=
  ∀ old ∈ s.acknowledged, ∀ row ∈ rows, old.id < row.id

/-- What is left and what is in hand is later than what was published. -/
structure InOrder (cfg : StorageSettings) (s : EventStorage) : Prop where
  replays : Replays cfg s
  acknowledged : s.acknowledged.Ascending Row.id
  lastId : ∀ old ∈ s.acknowledged, old.id ≤ s.lastId
  rows : s.stopped = true ∨ s.Later s.rows
  ascending : s.nextBatch.Ascending Row.id
  next : s.stopped = true ∨ s.replay = .deleted ∨ s.Later s.nextBatch
  holding : ∀ pack, s.replay = .holding pack →
    pack.Ascending Row.id ∧ s.Later pack ∧ ∀ row ∈ pack, row.id ≤ s.deleteTimePoint

/-- Fewer rows are later too. -/
theorem Later.subset {rows rows' : List Row} (h : s.Later rows) (hsub : ∀ row ∈ rows', row ∈ rows) :
    s.Later rows' :=
  fun old hold row hrow => h old hold row (hsub row hrow)

/-- And so are the same rows while nothing more is published. -/
theorem Later.of_acknowledged {rows : List Row} (h : s.Later rows)
    (hsame : s'.acknowledged = s.acknowledged) : s'.Later rows := by
  unfold Later
  rw [hsame]
  exact h

/-- A storage that was stopped reads nothing. -/
theorem stopped_of_readData {ok : Bool} (h : s.readData cfg ok ≠ []) : s.stopped = false := by
  unfold readData at h
  split at h
  case isTrue => exact absurd rfl h
  case isFalse hstopped => exact Bool.eq_false_iff.mpr hstopped

/-- What is read is in order, and later than what was published. -/
theorem InOrder.readData (h : InOrder cfg s) {ok : Bool} (hdata : s.readData cfg ok ≠ [])
    (hreplay : s.replay ≠ .deleted) :
    (s.readData cfg ok).Ascending Row.id ∧ s.Later (s.readData cfg ok) := by
  have hstopped : ¬ s.stopped = true := Bool.eq_false_iff.mp (stopped_of_readData hdata)
  obtain hnone | ⟨hnext, -⟩ | ⟨htake, -⟩ := @readData_cases cfg s ok
  · exact absurd hnone hdata
  · rw [hnext]
    exact ⟨h.ascending, (h.next.resolve_left hstopped).resolve_left hreplay⟩
  · rw [htake]
    exact ⟨h.replays.ordered.ascending.take _,
      (h.rows.resolve_left hstopped).subset fun _ => List.mem_of_mem_take⟩

/-- Steps that leave the published rows, the prefetched ones and the packs as they are. -/
theorem InOrder.of_rows (h : InOrder cfg s) (hreplays : Replays cfg s')
    (hrows : ∀ row ∈ s'.rows, row ∈ s.rows ∨ s.lastId < row.id) (hlastId : s.lastId ≤ s'.lastId)
    (hpoint : s'.deleteTimePoint = s.deleteTimePoint) (hnext : s'.nextBatch = s.nextBatch)
    (hstopped : s.stopped = true → s'.stopped = true)
    (hacknowledged : s'.acknowledged = s.acknowledged)
    (hdeleted : s.replay = .deleted → s'.replay = .deleted)
    (hholding : ∀ pack, s'.replay = .holding pack → s.replay = .holding pack) :
    InOrder cfg s' where
  replays := hreplays
  acknowledged := hacknowledged ▸ h.acknowledged
  lastId old hold := Nat.le_trans (h.lastId old (hacknowledged ▸ hold)) hlastId
  -- rows: a new row has an id above all that were acknowledged
  rows := by
    refine h.rows.imp hstopped fun hlater => Later.of_acknowledged ?_ hacknowledged
    intro old hold row hrow
    cases hrows row hrow with
    | inl hkept => exact hlater old hold row hkept
    | inr hnew =>
      have hid := h.lastId old hold
      omega
  ascending := hnext ▸ h.ascending
  next := by
    rw [hnext]
    exact h.next.imp hstopped fun hrest =>
      hrest.imp hdeleted fun hlater => hlater.of_acknowledged hacknowledged
  holding pack hpack := by
    obtain ⟨hascending, hlater, hpast⟩ := h.holding pack (hholding pack hpack)
    exact ⟨hascending, hlater.of_acknowledged hacknowledged, hpoint ▸ hpast⟩

/-- What is prefetched are the first rows of the table. -/
theorem InOrder.assigns (h : InOrder cfg s) {batch : List Row} (hthread : s.thread = .selected batch)
    (hreplays : Replays cfg { s with nextBatch := batch, thread := .assigned }) :
    InOrder cfg { s with nextBatch := batch, thread := .assigned } := by
  have hbatch := (h.replays.selected batch hthread).2
  constructor
  case replays => exact hreplays
  case acknowledged => exact h.acknowledged
  case lastId => exact h.lastId
  case rows => exact h.rows
  case ascending =>
    show batch.Ascending Row.id
    by_cases hne : batch = []
    · rw [hne]
      exact List.Pairwise.nil
    · rw [hbatch hne]
      exact h.replays.ordered.ascending.take _
  -- next: its rows are rows of the table, and all of them later
  case next =>
    refine h.rows.imp id fun hlater => .inr (hlater.subset fun row hrow => ?_)
    have hmem : row ∈ s.rows.take cfg.maxReadRecordsCount :=
      hbatch (List.ne_nil_of_mem hrow) ▸ hrow
    exact List.mem_of_mem_take hmem
  case holding => exact h.holding

/-- A pack that is handed out is in order, and later than every published row. -/
theorem InOrder.hands (h : InOrder cfg s) {ok : Bool} (hreplay : s.replay = .idle)
    (hpack : processEventStorageData (s.readData cfg ok) ≠ [])
    (hreplays : Replays cfg { s with
      deleteTimePoint := timePoint s.deleteTimePoint (processEventStorageData (s.readData cfg ok))
      replay := .holding (processEventStorageData (s.readData cfg ok))
      handed := s.handed ++ [processEventStorageData (s.readData cfg ok)] }) :
    InOrder cfg { s with
      deleteTimePoint := timePoint s.deleteTimePoint (processEventStorageData (s.readData cfg ok))
      replay := .holding (processEventStorageData (s.readData cfg ok))
      handed := s.handed ++ [processEventStorageData (s.readData cfg ok)] } := by
  -- a pack is handed out only after the prefetched rows were dropped
  have hnot : s.replay ≠ .deleted := by
    rw [hreplay]
    exact fun hd => by cases hd
  obtain ⟨hascending, hlater⟩ := h.readData (readData_ne_nil hpack) hnot
  constructor
  case replays => exact hreplays
  case acknowledged => exact h.acknowledged
  case lastId => exact h.lastId
  case rows => exact h.rows
  case ascending => exact h.ascending
  case next => exact h.next.imp id fun hrest => .inr (hrest.resolve_left hnot)
  case holding =>
    intro pack hb
    obtain rfl := ReplayThread.holding.inj hb
    exact ⟨hascending.filter _, hlater.subset fun _ hrow => (List.mem_filter.mp hrow).1,
      fun _ hrow => id_le_timePoint hrow⟩

/-- The rows of a pack that was published come after those of the packs before. -/
theorem InOrder.publishes (h : InOrder cfg s) {pack : List Row} (hreplay : s.replay = .holding pack) :
    (s.acknowledged ++ pack).Ascending Row.id ∧
      ∀ old ∈ s.acknowledged ++ pack, old.id ≤ s.lastId := by
  obtain ⟨hascending, hlater, hpast⟩ := h.holding pack hreplay
  refine ⟨List.pairwise_append.mpr ⟨h.acknowledged, hascending, hlater⟩, fun old hold => ?_⟩
  cases List.mem_append.mp hold with
  | inl hbefore => exact h.lastId old hbefore
  | inr hnow => exact Nat.le_trans (hpast old hnow) h.replays.ordered.point

/-- The rows that stay after a deletion are past the time point, and those of the pack are not. -/
theorem InOrder.deletes (h : InOrder cfg s) {pack : List Row} (hreplay : s.replay = .holding pack)
    (hreplays : Replays cfg { s.deleteData true with
      acknowledged := s.acknowledged ++ pack, replay := .deleted }) :
    InOrder cfg { s.deleteData true with
      acknowledged := s.acknowledged ++ pack, replay := .deleted } := by
  obtain ⟨hascending, hlastId⟩ := h.publishes hreplay
  constructor
  case replays => exact hreplays
  case acknowledged => exact hascending
  case lastId => exact hlastId
  -- rows: what is left is behind the point, and the pack is not
  case rows =>
    refine h.rows.imp id fun hrows old hold row hrow => ?_
    obtain ⟨hmem, hkept⟩ := List.mem_filter.mp hrow
    cases List.mem_append.mp hold with
    | inl hbefore => exact hrows old hbefore row hmem
    | inr hnow =>
      have hpast := (h.holding pack hreplay).2.2 old hnow
      exact Nat.lt_of_le_of_lt hpast (of_decide_eq_true hkept)
  case ascending => exact h.ascending
  case next => exact .inr (.inl rfl)
  case holding =>
    intro pack hb
    cases hb

/-- Every step with these deletions keeps the packs in order. -/
theorem InOrder.step {a : Label} (h : InOrder cfg s) (hdeletes : Deletes s a)
    (hstep : EventStorage.step cfg s a = some s') : InOrder cfg s' := by
  have heffect := step_effect hstep
  have hreplays := h.replays.step hdeletes.noRace hstep
  have hkept : ∀ row ∈ s.rows, row ∈ s.rows ∨ s.lastId < row.id := fun _ => .inl
  cases heffect with
  | same hsame =>
    refine h.of_rows hreplays (hsame.rows ▸ hkept) hsame.lastId.ge hsame.deleteTimePoint
      hsame.nextBatch hsame.stopped hsame.acknowledged ?_ hsame.holding
    intro hreplay
    exact not_not.mp fun hne => hsame.deleted hne hreplay
  -- the thread reads, and acknowledges nothing
  | selects hthread hnext =>
    exact h.of_rows hreplays hkept le_rfl rfl rfl id rfl id fun _ => id
  | assigns hthread => exact h.assigns hthread hreplays
  | expires hthread =>
    exact h.of_rows hreplays (fun row hrow => .inl (List.mem_filter.mp hrow).1) le_rfl rfl rfl id
      rfl id fun _ => id
  | inserts hthread =>
    refine h.of_rows hreplays (fun row hrow => ?_) (Nat.le_add_right _ _) rfl rfl id rfl id
      fun _ => id
    cases List.mem_append.mp hrow with
    | inl hold => exact .inl hold
    | inr hnew => exact .inr (mem_numbered hnew).1
  | hands hreplay hpack => exact h.hands hreplay hpack hreplays
  | @acknowledges ok pack hreplay hstopped =>
    -- a storage that was stopped reads no more
    obtain ⟨hascending, hlastId⟩ := h.publishes hreplay
    constructor
    case replays => exact hreplays
    case acknowledged => exact hascending
    case lastId => exact hlastId
    case rows => exact .inl hstopped
    case ascending => exact h.ascending
    case next => exact .inl hstopped
    case holding =>
      intro pack hb
      cases hb
  -- the deletion goes through, or the storage had been stopped
  | @deletes ok pack hreplay hstopped =>
    obtain rfl | hstop := hdeletes.1
    · exact h.deletes hreplay hreplays
    · rw [hstopped] at hstop
      cases hstop
  -- the prefetched rows are gone, and with them the question
  | clears hreplay =>
    constructor
    case replays => exact hreplays
    case acknowledged => exact h.acknowledged
    case lastId => exact h.lastId
    case rows => exact h.rows
    case ascending => exact List.Pairwise.nil
    case next => exact .inr (.inr fun _ _ _ hrow => absurd hrow List.not_mem_nil)
    case holding =>
      intro pack hb
      cases hb

/-- After the opening nothing was published. -/
theorem Opened.inOrder (h : Opened s) : InOrder cfg s := by
  have hreplays : Replays cfg s := h.replays
  obtain ⟨rows, lastId, -, -, rfl⟩ := h
  constructor
  case replays => exact hreplays
  case acknowledged => exact List.Pairwise.nil
  case lastId => exact fun _ hold => absurd hold List.not_mem_nil
  case rows => exact .inr fun _ hold => absurd hold List.not_mem_nil
  case ascending => exact List.Pairwise.nil
  case next => exact .inr (.inr fun _ hold => absurd hold List.not_mem_nil)
  case holding =>
    intro pack hb
    cases hb

/-- When the deletions succeed, and no prefetch is under way during one, the rows are published in
    the order they were put, and none is published again once it was reported as done. -/
theorem acknowledged_ascending {labels : List Label} (hopened : Opened s)
    (hdeletes : Run.Along (EventStorage.step cfg) Deletes s labels)
    (hrun : exec cfg s labels = some s') :
    s'.acknowledged.Pairwise fun old row => old.id < row.id := by
  have hend : InOrder cfg s' :=
    Run.exec_invariant (fun _ _ _ h hP hstep => h.step hP hstep) hopened.inOrder hdeletes hrun
  exact hend.acknowledged

/-- Both rows are published, in their order. -/
theorem acknowledged_ascending_twoRows : ∃ s', exec oneByOne twoRows twoPacks = some s' ∧
    s'.acknowledged = [⟨1, 5, "a"⟩, ⟨2, 6, "b"⟩] ∧
    s'.acknowledged.Pairwise fun old row => old.id < row.id :=
  ⟨_, rfl, rfl, acknowledged_ascending twoRows_opened
    (show Run.Along (EventStorage.step oneByOne) Deletes twoRows twoPacks by decide) rfl⟩

/-! ## Where the messages are -/

/-- The messages of the batch that is being written. -/
def collecting (s : EventStorage) : List String :=
  match s.thread with
  | .collected batch => batch.map Prod.snd
  | _ => []

/-- An accepted message is written, lost, in the batch or in the queue, and a row that was there or
    was written is removed, expired or in the table. -/
structure Accounted (initial : List Row) (flushed : List String) (s : EventStorage) : Prop where
  accepted : s.accepted = flushed ++ s.collecting ++ s.writeQueue
  written : (s.written.map Row.message).Sublist flushed
  lost : flushed.Perm (s.written.map Row.message ++ s.lost)
  rows : (initial ++ s.written).Perm (s.removed ++ s.expired ++ s.rows)

/-- A table falls into the rows that go and those that stay. -/
theorem filter_append_perm {p q : Row → Bool} (h : ∀ row, q row = !p row) (rows : List Row) :
    (rows.filter p ++ rows.filter q).Perm rows := by
  obtain rfl : q = fun row => !p row := funext h
  exact List.filter_append_perm p rows

/-- A step that moves no message. -/
theorem Accounted.of_same {initial : List Row} {flushed : List String}
    (h : Accounted initial flushed s) (hcollecting : s'.collecting = s.collecting)
    (hqueue : s'.writeQueue = s.writeQueue) (haccepted : s'.accepted = s.accepted)
    (hwritten : s'.written = s.written) (hlost : s'.lost = s.lost)
    (hrows : (s.removed ++ s.expired ++ s.rows).Perm (s'.removed ++ s'.expired ++ s'.rows)) :
    Accounted initial flushed s' where
  accepted := by rw [haccepted, hcollecting, hqueue, h.accepted]
  written := hwritten ▸ h.written
  lost := by rw [hwritten, hlost]; exact h.lost
  rows := by rw [hwritten]; exact h.rows.trans hrows

/-- The rows a deletion takes out of the table are the ones it counts. -/
theorem perm_of_split {removed expired rows out kept : List Row} (h : (out ++ kept).Perm rows) :
    (removed ++ expired ++ rows).Perm (removed ++ out ++ expired ++ kept) ∧
      (removed ++ expired ++ rows).Perm (removed ++ (expired ++ out) ++ kept) := by
  have hlast : (removed ++ expired ++ rows).Perm (removed ++ (expired ++ out) ++ kept) := by
    rw [List.append_assoc, List.append_assoc, List.append_assoc]
    exact (h.symm.append_left expired).append_left removed
  have hswap : (removed ++ (expired ++ out) ++ kept).Perm (removed ++ out ++ expired ++ kept) := by
    rw [List.append_assoc removed out]
    exact (List.perm_append_comm.append_left removed).append_right kept
  exact ⟨hlast.trans hswap, hlast⟩

/-- Every step keeps each message and each row in one place. -/
theorem Accounted.step {initial : List Row} {flushed : List String} {a : Label}
    (h : Accounted initial flushed s) (hstep : EventStorage.step cfg s a = some s') :
    ∃ flushed', Accounted initial flushed' s' := by
  cases step_moves hstep with
  | refused => exact ⟨flushed, h⟩
  | full => exact ⟨flushed, h.of_same rfl rfl rfl rfl rfl (.refl _)⟩
  -- one message more, at the end of the queue
  | @put message =>
    refine ⟨flushed, ?_, h.written, h.lost, h.rows⟩
    show s.accepted ++ [message] = flushed ++ s.collecting ++ (s.writeQueue ++ [message])
    rw [h.accepted, List.append_assoc _ s.writeQueue]
  | select hthread hnext =>
    exact ⟨flushed, h.of_same (by simp [collecting, hthread]) rfl rfl rfl rfl (.refl _)⟩
  | assign hthread =>
    exact ⟨flushed, h.of_same (by simp [collecting, hthread]) rfl rfl rfl rfl (.refl _)⟩
  | unset hthread =>
    exact ⟨flushed, h.of_same (by simp [collecting, hthread]) rfl rfl rfl rfl (.refl _)⟩
  | skip hthread =>
    exact ⟨flushed, h.of_same (by simp [collecting, hthread]) rfl rfl rfl rfl (.refl _)⟩
  -- rows that expire are counted as expired
  | @sweep now time ok hthread hdue =>
    have hcollecting : s.collecting = [] := by simp [collecting, hthread]
    cases ok with
    | true =>
      refine ⟨flushed, h.of_same hcollecting.symm rfl rfl rfl rfl ?_⟩
      refine (perm_of_split (filter_append_perm (fun row => ?_) s.rows)).2
      rw [← decide_not, decide_eq_decide]
      exact Int.not_le.symm
    | false => exact ⟨flushed, h.of_same hcollecting.symm rfl rfl rfl rfl (.refl _)⟩
  | noSweep hthread hdue =>
    exact ⟨flushed, h.of_same (by simp [collecting, hthread]) rfl rfl rfl rfl (.refl _)⟩
  | collectNone hthread =>
    exact ⟨flushed, h.of_same (by simp [collecting, hthread]) rfl rfl rfl rfl (.refl _)⟩
  | @collect now count hthread =>
    have hcollecting : s.collecting = [] := by simp [collecting, hthread]
    -- the batch is the beginning of the queue
    have hmap : ((s.writeQueue.take count).map fun message => (now, message)).map Prod.snd =
        s.writeQueue.take count := by
      rw [List.map_map]
      exact List.map_id _
    refine ⟨flushed, ?_, h.written, h.lost, h.rows⟩
    show s.accepted = flushed ++ (List.map _ (List.map _ _)) ++ s.writeQueue.drop count
    rw [hmap, List.append_assoc, List.take_append_drop, h.accepted, hcollecting, List.append_nil]
  -- the batch is in the table now
  | @insert batch hthread hstopped =>
    refine ⟨flushed ++ batch.map Prod.snd, ?_, ?_, ?_, ?_⟩
    · show s.accepted = flushed ++ batch.map Prod.snd ++ [] ++ s.writeQueue
      rw [h.accepted, collecting, hthread, List.append_nil]
    · rw [List.map_append, map_message_numbered]
      exact h.written.append_right _
    · rw [List.map_append, map_message_numbered, List.append_assoc]
      refine (h.lost.append_right _).trans ?_
      rw [List.append_assoc]
      exact List.perm_append_comm.append_left _
    · show (initial ++ (s.written ++ _)).Perm (s.removed ++ s.expired ++ (s.rows ++ _))
      rw [← List.append_assoc, ← List.append_assoc]
      exact h.rows.append_right _
  -- and this one nowhere
  | @lose ok batch hthread =>
    refine ⟨flushed ++ batch.map Prod.snd, ?_, ?_, ?_, h.rows⟩
    · show s.accepted = flushed ++ batch.map Prod.snd ++ [] ++ s.writeQueue
      rw [h.accepted, collecting, hthread, List.append_nil]
    · exact h.written.trans (List.sublist_append_left _ _)
    · show (flushed ++ _).Perm (_ ++ (s.lost ++ _))
      rw [← List.append_assoc]
      exact h.lost.append_right _
  | limit hthread =>
    exact ⟨flushed, h.of_same (by simp [collecting, hthread]) rfl rfl rfl rfl (.refl _)⟩
  | read hreplay => exact ⟨flushed, h.of_same rfl rfl rfl rfl rfl (.refl _)⟩
  | getNone => exact ⟨flushed, h.of_same rfl rfl rfl rfl rfl (.refl _)⟩
  | get hreplay hpack => exact ⟨flushed, h.of_same rfl rfl rfl rfl rfl (.refl _)⟩
  | doneStopped hreplay hstopped => exact ⟨flushed, h.of_same rfl rfl rfl rfl rfl (.refl _)⟩
  -- rows that are deleted are counted as removed
  | @done ok pack hreplay hstopped =>
    cases ok with
    | true =>
      refine ⟨flushed, h.of_same rfl rfl rfl rfl rfl ?_⟩
      refine (perm_of_split (filter_append_perm (fun row => ?_) s.rows)).1
      rw [← decide_not, decide_eq_decide, not_le]
    | false => exact ⟨flushed, h.of_same rfl rfl rfl rfl rfl (.refl _)⟩
  | clear hreplay => exact ⟨flushed, h.of_same rfl rfl rfl rfl rfl (.refl _)⟩
  | prepare hreplay => exact ⟨flushed, h.of_same rfl rfl rfl rfl rfl (.refl _)⟩
  | ask hreplay hnext => exact ⟨flushed, h.of_same rfl rfl rfl rfl rfl (.refl _)⟩
  | shrink hreplay => exact ⟨flushed, h.of_same rfl rfl rfl rfl rfl (.refl _)⟩
  | preserve hreplay => exact ⟨flushed, h.of_same rfl rfl rfl rfl rfl (.refl _)⟩
  | stop => exact ⟨flushed, h.of_same rfl rfl rfl rfl rfl (.refl _)⟩

/-- At the opening the rows are in the table. -/
theorem accounted_of_opened (h : Opened s) : Accounted s.rows [] s := by
  obtain ⟨rows, lastId, -, -, rfl⟩ := h
  constructor
  case accepted => rfl
  case written => exact List.Sublist.refl _
  case lost => exact .refl _
  case rows => exact List.Perm.of_eq (List.append_nil rows)

/-- In every run an accepted message is written, lost with its batch, in the batch or in the queue,
    the written ones in the order they were accepted, and the rows of the beginning and the written
    ones are those that were removed, that expired and that are in the table. -/
theorem messages_accounted {labels : List Label} (hopened : Opened s)
    (hrun : exec cfg s labels = some s') :
    ∃ flushed, s'.accepted = flushed ++ s'.collecting ++ s'.writeQueue ∧
      (s'.written.map Row.message).Sublist flushed ∧
      flushed.Perm (s'.written.map Row.message ++ s'.lost) ∧
      (s.rows ++ s'.written).Perm (s'.removed ++ s'.expired ++ s'.rows) := by
  have hend : ∃ flushed, Accounted s.rows flushed s' := by
    refine Run.exec_invariant' (I := fun u => ∃ flushed, Accounted s.rows flushed u) ?_
      ⟨[], accounted_of_opened hopened⟩ hrun
    intro u a u' hu hstep
    obtain ⟨flushed, h⟩ := hu
    exact h.step hstep
  obtain ⟨flushed, h⟩ := hend
  exact ⟨flushed, h.accepted, h.written, h.lost, h.rows⟩

/-- One message more is in the queue. -/
theorem messages_accounted_twoRows : ∃ s', exec oneByOne twoRows [.read, .ask true, .put "c"] = some s' ∧
    ∃ flushed, s'.accepted = flushed ++ s'.collecting ++ s'.writeQueue ∧
      (s'.written.map Row.message).Sublist flushed ∧
      flushed.Perm (s'.written.map Row.message ++ s'.lost) ∧
      (twoRows.rows ++ s'.written).Perm (s'.removed ++ s'.expired ++ s'.rows) :=
  ⟨_, rfl, messages_accounted twoRows_opened
    (show exec oneByOne twoRows [.read, .ask true, .put "c"] = _ from rfl)⟩

/-! ## Old messages -/

/-- The clock of a run is in an interval that ends before twice its beginning. -/
def ClockWithin (cfg : StorageSettings) (t : Int) : Label → Prop
  | .sweep now _ _ => t ≤ now ∧ now < 2 * t + cfg.messagesTtlCheck
  | _ => True

/-- Where the loop of a thread that has not looked for old messages can stand. -/
def NotSwept (s : EventStorage) : Prop :=
  match s.thread with
  | .swept _ | .collected _ => s.stopped = true
  | _ => True

/-- Old messages were not looked for, and nothing was written, or they were looked for once. -/
def SweptOnce (initial : List Row) (t : Int) (s : EventStorage) : Prop :=
  (s.sweeps = 0 ∧ s.lastMsgCheck = 0 ∧ s.expired = [] ∧ s.NotSwept ∧
    ∀ row ∈ s.rows, row ∈ initial) ∨
  (s.sweeps = 1 ∧ t ≤ s.lastMsgCheck ∧ ∀ row ∈ s.expired, row ∈ initial)

/-- A step that looks for no old message. -/
theorem SweptOnce.of_same {initial : List Row} {t : Int} (h : SweptOnce initial t s)
    (hsweeps : s'.sweeps = s.sweeps) (hcheck : s'.lastMsgCheck = s.lastMsgCheck)
    (hexpired : s'.expired = s.expired) (hthread : s.NotSwept → s'.NotSwept)
    (hrows : s.NotSwept → ∀ row ∈ s'.rows, row ∈ s.rows) : SweptOnce initial t s' := by
  unfold SweptOnce
  rw [hsweeps, hcheck, hexpired]
  refine h.imp (fun hnone => ?_) id
  obtain ⟨hzero, hlast, hnothing, hnot, hall⟩ := hnone
  exact ⟨hzero, hlast, hnothing, hthread hnot, fun row hrow => hall row (hrows hnot row hrow)⟩

/-- Every step within that time keeps the check at one. -/
theorem SweptOnce.step {initial : List Row} {t : Int} {a : Label} (h : SweptOnce initial t s)
    (ht : cfg.messagesTtlCheck ≤ t) (hclock : ClockWithin cfg t a)
    (hstep : EventStorage.step cfg s a = some s') : SweptOnce initial t s' := by
  cases step_moves hstep with
  | refused => exact h
  | full => exact h.of_same rfl rfl rfl id fun _ _ => id
  | put => exact h.of_same rfl rfl rfl id fun _ _ => id
  | select hthread hnext => exact h.of_same rfl rfl rfl (fun _ => trivial) fun _ _ => id
  | assign hthread => exact h.of_same rfl rfl rfl (fun _ => trivial) fun _ _ => id
  | unset hthread => exact h.of_same rfl rfl rfl (fun _ => trivial) fun _ _ => id
  | skip hthread => exact h.of_same rfl rfl rfl (fun _ => trivial) fun _ _ => id
  | @sweep now time ok hthread hdue =>
    obtain ⟨hlow, hhigh⟩ := hclock
    -- the first check is due whatever the clock says, the second never
    simp only [sweepDue, Bool.and_eq_true, decide_eq_true_eq] at hdue
    obtain ⟨hzero, hlast, hnothing, -, hall⟩ | ⟨-, hlast, -⟩ := h
    · refine .inr ⟨congrArg (· + 1) hzero, hlow, ?_⟩
      have hnone : ∀ row ∈ s.expired, row ∈ initial := by
        rw [hnothing]
        exact fun _ hrow => absurd hrow List.not_mem_nil
      cases ok with
      | true =>
        intro row hrow
        cases List.mem_append.mp hrow with
        | inl hold => exact hnone row hold
        | inr hnew => exact hall row (List.mem_filter.mp hnew).1
      | false => exact hnone
    · -- twice the time of the first check is out of reach
      have hagain := hdue.1
      omega
  -- without a check the thread was stopped before the first one
  | noSweep hthread hdue =>
    obtain ⟨hzero, hlast, hnothing, -, hall⟩ | hswept := h
    · -- the first check is due at once
      have hstopped : s.stopped = true := by
        simp only [sweepDue, hlast, Bool.and_eq_false_imp, decide_eq_true_eq,
          Bool.not_eq_false'] at hdue
        exact hdue (by have hlow := hclock.1; omega)
      exact .inl ⟨hzero, hlast, hnothing, hstopped, hall⟩
    · exact .inr hswept
  | collectNone hthread => exact h.of_same rfl rfl rfl (fun _ => trivial) fun _ _ => id
  | collect hthread =>
    refine h.of_same rfl rfl rfl (fun hnot => ?_) fun _ _ => id
    rw [NotSwept, hthread] at hnot
    exact hnot
  | insert hthread hstopped =>
    -- a thread that was not stopped has looked for old messages before it writes
    refine h.of_same rfl rfl rfl (fun _ => trivial) fun hnot => ?_
    rw [NotSwept, hthread] at hnot
    exact absurd hnot (Bool.eq_false_iff.mp hstopped)
  | lose hthread => exact h.of_same rfl rfl rfl (fun _ => trivial) fun _ _ => id
  | limit hthread => exact h.of_same rfl rfl rfl (fun _ => trivial) fun _ _ => id
  | read hreplay => exact h.of_same rfl rfl rfl id fun _ _ => id
  | getNone => exact h.of_same rfl rfl rfl id fun _ _ => id
  | get hreplay hpack => exact h.of_same rfl rfl rfl id fun _ _ => id
  | doneStopped hreplay hstopped => exact h.of_same rfl rfl rfl id fun _ _ => id
  -- a deletion makes the table smaller
  | @done ok pack hreplay hstopped =>
    cases ok with
    | true => exact h.of_same rfl rfl rfl id fun _ row hrow => (List.mem_filter.mp hrow).1
    | false => exact h.of_same rfl rfl rfl id fun _ _ => id
  | clear hreplay => exact h.of_same rfl rfl rfl id fun _ _ => id
  | prepare hreplay => exact h.of_same rfl rfl rfl id fun _ _ => id
  | ask hreplay hnext => exact h.of_same rfl rfl rfl id fun _ _ => id
  | shrink hreplay => exact h.of_same rfl rfl rfl id fun _ _ => id
  | preserve hreplay => exact h.of_same rfl rfl rfl id fun _ _ => id
  | stop =>
    refine h.of_same rfl rfl rfl (fun _ => ?_) fun _ _ => id
    show NotSwept { s with stopped := true }
    unfold NotSwept
    split <;> trivial

/-- After the opening no check was made. -/
theorem Opened.sweptOnce (h : Opened s) (t : Int) : SweptOnce s.rows t s := by
  obtain ⟨rows, lastId, -, -, rfl⟩ := h
  exact .inl ⟨rfl, rfl, rfl, trivial, fun _ => id⟩

/-- The condition compares the time since the last check with the time of that check. While the
    clock stays below twice its first reading, old messages are looked for once, and what is
    accepted during the run never expires. -/
theorem sweeps_le_one {labels : List Label} {t : Int} (hopened : Opened s)
    (ht : cfg.messagesTtlCheck ≤ t) (hclock : ∀ a ∈ labels, ClockWithin cfg t a)
    (hrun : exec cfg s labels = some s') : s'.sweeps ≤ 1 ∧ ∀ row ∈ s'.expired, row ∈ s.rows := by
  have hend : SweptOnce s.rows t s' :=
    Run.exec_invariant (P := fun _ a => ClockWithin cfg t a)
      (fun _ _ _ h hP hstep => h.step ht hP hstep) (hopened.sweptOnce t)
      (Run.Along.of_forall fun a ha _ => hclock a ha) hrun
  obtain ⟨hzero, -, hnothing, -⟩ | ⟨hone, -, hall⟩ := hend
  · rw [hnothing]
    exact ⟨by omega, fun _ hrow => absurd hrow List.not_mem_nil⟩
  · exact ⟨by omega, hall⟩

/-- A message is written, and a day goes by. -/
private def dayLater : List Label :=
  [.read, .ask true, .put "c", .select true, .assign, .unset, .sweep 1750000000000 1750000000001 true,
    .collect 1, .insert true, .limit true .small, .skip, .sweep 1750086400000 1750086400001 true]

/-- A day later the check is not due. -/
theorem sweeps_le_one_dayLater : ∃ s', exec oneByOne twoRows dayLater = some s' ∧
    s'.sweeps ≤ 1 ∧ ∀ row ∈ s'.expired, row ∈ twoRows.rows :=
  ⟨_, rfl, sweeps_le_one twoRows_opened
    (show oneByOne.messagesTtlCheck ≤ 1750000000000 by decide)
    (show ∀ a ∈ dayLater, ClockWithin oneByOne 1750000000000 a by
      simp [dayLater, ClockWithin, oneByOne]) rfl⟩

end Novena.EventStorage

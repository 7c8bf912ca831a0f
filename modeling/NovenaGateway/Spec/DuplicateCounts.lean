import NovenaGateway.ForStd.Run
import NovenaGateway.Native.RemoteLog
import NovenaGateway.Spec.RemoteLog

/-!
# What duplicate suppression counts

A record that comes again within the window is not published, it is counted in the cache, and the
count leaves the cache in a summary. A run of the handler is kept here with what it was given and
with what it said: each entry that reached the buffer is known as the copy of a record or as the
summary of a line. No count is lost on the way, whichever of eviction, expiry and the last flush
takes a line out of the cache.

## Key results

- `RemoteLogHandler.Emits.of_room`: what one record does to the buffer and to the cache
- `LogRun.Counts.call`: a call keeps the accounts
- `LogRun.counts_agree`: after the last flush, the records given are the copies and the counts said
-/

namespace Novena

namespace RemoteLogHandler

/-- What reaches the buffer: the copy of a record, or the summary of a line of the cache. -/
inductive Item where
  | copy (r : LogRecord)
  | sums (sig : LogSignature) (d : Duplicate) (wall : Int)

/-- The entry that is published. -/
def Item.entry : Item → LogEntry
  | .copy r => r.entry
  | .sums _ d wall => summary d wall

/-- The record that was copied. -/
def Item.copied : Item → Option LogRecord
  | .copy r => some r
  | .sums .. => none

/-- How many suppressed records of a signature a published entry stands for. -/
def Item.counts (sig : LogSignature) : Item → Nat
  | .copy _ => 0
  | .sums sig' d _ => if sig' = sig then d.suppressed else 0

/-- What became of a record. -/
inductive Fate where
  | ignored | forwarded | suppressed
  deriving DecidableEq

variable (h : RemoteLogHandler)

/-- The records `emit` does not leave out. -/
def listens (r : LogRecord) : Bool :=
  h.settings.enabled && !decide (r.levelno < h.settings.minLevel) &&
    !(startsWithAny r.name ["novena_gateway.mqtt_publisher"] ||
      decide (r.name = "novena_gateway.remote_log_handler"))

/-- The records that may be suppressed. -/
def eligible (r : LogRecord) : Bool := h.listens r && !h.exempt r

/-- What becomes of a record that is given to `emit`. -/
def fate (r : LogRecord) (now wall : Int) : Fate :=
  if !h.listens r then .ignored
  else if (h.shouldSuppressDuplicate r now wall).1 then .suppressed else .forwarded

/-- The summaries of lines that leave the cache. -/
def summaries (lines : Dict LogSignature Duplicate) (wall : Int) : List Item :=
  (lines.filter fun line => line.2.suppressed ≠ 0).map fun line => .sums line.1 line.2 wall

/-- The line of a record that is forwarded. -/
def freshLine (r : LogRecord) (now : Int) : Duplicate := ⟨now, now, 0, r.entry, [r.claimId]⟩

/-- How many lines the cache has too many once a new one is in it. -/
def surplus (r : LogRecord) (now : Int) : Nat :=
  (h.duplicateRecords.set (signature r) (freshLine r now)).length -
    max 1 h.settings.duplicateCacheSize

/-- What `emit` puts into the buffer. -/
def emitItems (r : LogRecord) (now wall : Int) : List Item :=
  if !h.listens r then []
  else if h.exempt r then [.copy r]
  else match h.duplicateRecords.get? (signature r) with
    | none =>
      summaries ((h.duplicateRecords.set (signature r) (freshLine r now)).take (h.surplus r now))
        wall ++ [.copy r]
    | some d =>
      if now - d.forwardedAt < h.settings.duplicateWindow then []
      else summaries [(signature r, d)] wall ++ [.copy r]

/-- The lines a flush takes out of the cache. -/
def expired (now : Int) (line : LogSignature × Duplicate) : Bool :=
  h.stopped || decide (h.settings.duplicateWindow ≤ now - line.2.forwardedAt)

/-- What a flush puts into the buffer before it takes everything. -/
def flushItems (now wall : Int) : List Item :=
  summaries (h.duplicateRecords.filter (h.expired now)) wall

end RemoteLogHandler

open RemoteLogHandler

/-- A handler, the records it was given with what became of them, what it said, and the batches it
    published. -/
structure LogRun where
  handler : RemoteLogHandler
  heard : List (Int × LogRecord × Fate)
  said : List Item
  published : List (List LogEntry)

/-- A call of the handler. The clocks show anything. -/
inductive LogCall where
  | emit (r : LogRecord) (now wall : Int)
  | stop
  | flush (now wall : Int)

namespace LogRun

/-- A handler that has just been made. -/
def init (settings : LogSettings) : LogRun := ⟨.init settings, [], [], []⟩

/-- What a call puts into the buffer. -/
def items (s : LogRun) : LogCall → List Item
  | .emit r now wall => s.handler.emitItems r now wall
  | .stop => []
  | .flush now wall => s.handler.flushItems now wall

/-- A call. -/
def call (s : LogRun) : LogCall → LogRun
  | .emit r now wall =>
    ⟨s.handler.emit r now wall, s.heard ++ [(now, r, s.handler.fate r now wall)],
      s.said ++ s.handler.emitItems r now wall, s.published⟩
  | .stop => { s with handler := { s.handler with stopped := true } }
  | .flush now wall =>
    ⟨(s.handler.flush now wall).2, s.heard, s.said ++ s.handler.flushItems now wall,
      s.published ++ (s.handler.flush now wall).1⟩

/-- Every call is possible in every state. -/
def step (s : LogRun) (c : LogCall) : Option LogRun := some (s.call c)

/-- The buffer has room for what the call puts into it. -/
def Roomy (s : LogRun) (c : LogCall) : Prop :=
  s.handler.buffer.length + (s.items c).length ≤ s.handler.settings.maxBufferSize

instance (s : LogRun) (c : LogCall) : Decidable (s.Roomy c) := by
  unfold Roomy
  infer_instance

/-- The records of a signature that were given to `emit`. -/
def emitted (s : LogRun) (sig : LogSignature) : Nat :=
  s.heard.countP fun x => signature x.2.1 = sig

/-- The copies of records of a signature among what was said. -/
def copies (s : LogRun) (sig : LogSignature) : Nat :=
  (s.said.filterMap Item.copied).countP fun r => signature r = sig

/-- The counts of the summaries of a signature among what was said. -/
def summed (s : LogRun) (sig : LogSignature) : Nat := (s.said.map (Item.counts sig)).sum

end LogRun

namespace RemoteLogHandler

variable {h : RemoteLogHandler} {r : LogRecord} {now wall : Int}

/-! ## The entries that reach the buffer -/

/-- With room in the buffer nothing is dropped. -/
theorem append_of_room {e : LogEntry} (hroom : h.buffer.length + 1 ≤ h.settings.maxBufferSize) :
    h.append e = { h with buffer := h.buffer ++ [e] } := by
  have hnone : h.buffer.length + 1 - h.settings.maxBufferSize = 0 := by omega
  rw [append, hnone, List.drop_zero]

/-- The summaries are made line by line. -/
theorem summaries_cons (line : LogSignature × Duplicate) (lines : Dict LogSignature Duplicate) :
    summaries (line :: lines) wall = summaries [line] wall ++ summaries lines wall := by
  simp only [summaries, List.filter_cons, List.filter_nil]
  split
  · rfl
  · rfl

/-- A summary goes to the end of the buffer. -/
theorem appendDuplicateSummary_of_room (sig : LogSignature) {d : Duplicate}
    (hsums : h.settings.duplicateSummary = true)
    (hroom : h.buffer.length + (summaries [(sig, d)] wall).length ≤ h.settings.maxBufferSize) :
    h.appendDuplicateSummary d wall =
      { h with buffer := h.buffer ++ (summaries [(sig, d)] wall).map Item.entry } := by
  unfold appendDuplicateSummary
  by_cases hd : d.suppressed = 0
  · simp [summaries, hd]
  · have hone : summaries [(sig, d)] wall = [.sums sig d wall] := by simp [summaries, hd]
    rw [hone] at hroom ⊢
    rw [if_neg (by simp [hsums, hd]), append_of_room hroom]
    rfl

/-- And so do all of a flush. -/
theorem appendSummaries_of_room (hsums : h.settings.duplicateSummary = true)
    (lines : Dict LogSignature Duplicate)
    (hroom : h.buffer.length + (summaries lines wall).length ≤ h.settings.maxBufferSize) :
    h.appendSummaries lines wall =
      { h with buffer := h.buffer ++ (summaries lines wall).map Item.entry } := by
  induction lines generalizing h with
  | nil => simp [appendSummaries, summaries]
  | cons line lines ih =>
    obtain ⟨sig, d⟩ := line
    rw [summaries_cons, List.length_append] at hroom
    have hfirst : h.appendDuplicateSummary d wall =
        { h with buffer := h.buffer ++ (summaries [(sig, d)] wall).map Item.entry } :=
      appendDuplicateSummary_of_room sig hsums (by omega)
    have hrest := ih (h := { h with buffer := h.buffer ++ (summaries [(sig, d)] wall).map Item.entry })
      hsums (by simp only [List.length_append, List.length_map]; omega)
    show (h.appendDuplicateSummary d wall).appendSummaries lines wall = _
    rw [hfirst, hrest, summaries_cons (sig, d) lines, List.map_append, List.append_assoc]

/-! ## What the summaries count -/

/-- The summaries of the table count what it has suppressed. -/
theorem counts_summaries (sig : LogSignature) (lines : Dict LogSignature Duplicate) :
    ((summaries lines wall).map (Item.counts sig)).sum = lines.share sig Duplicate.suppressed := by
  induction lines with
  | nil => rfl
  | cons line lines ih =>
    obtain ⟨sig', d⟩ := line
    rw [summaries_cons, List.map_append, List.sum_append, ih, Dict.share_cons]
    congr 1
    by_cases hd : d.suppressed = 0
    · simp [summaries, hd]
    · simp [summaries, hd, Item.counts]

/-- A summary is no copy of a record. -/
theorem copied_summaries (lines : Dict LogSignature Duplicate) :
    (summaries lines wall).filterMap Item.copied = [] := by
  rw [List.filterMap_eq_nil_iff]
  intro item hitem
  obtain ⟨line, _, rfl⟩ := List.mem_map.mp hitem
  rfl

/-- A summary is of a line of the table. -/
theorem mem_summaries {sig : LogSignature} {d : Duplicate} {wall' : Int}
    {lines : Dict LogSignature Duplicate} (hmem : Item.sums sig d wall' ∈ summaries lines wall) :
    (sig, d) ∈ lines := by
  obtain ⟨line, hline, heq⟩ := List.mem_map.mp hmem
  obtain ⟨rfl, rfl, _⟩ := Item.sums.inj heq
  exact List.mem_of_mem_filter hline

/-- What a line of the cache says of the record that was forwarded. -/
def origin (line : LogSignature × Duplicate) : LogSignature × Int × LogEntry :=
  (line.1, line.2.forwardedAt, line.2.entry)

/-- What a record does: it is known what it puts into the buffer, what it makes of the cache, and
    that the suppressed records are those that are in the counts. -/
structure Emits (h : RemoteLogHandler) (r : LogRecord) (now wall : Int)
    (lines : Dict LogSignature Duplicate) : Prop where
  result : h.emit r now wall =
    { h with buffer := h.buffer ++ (h.emitItems r now wall).map Item.entry
             duplicateRecords := lines }
  keys : (lines.map Prod.fst).Nodup
  counts : ∀ sig, (if h.fate r now wall = .suppressed ∧ signature r = sig then 1 else 0) +
      h.duplicateRecords.share sig Duplicate.suppressed =
    ((h.emitItems r now wall).map (Item.counts sig)).sum + lines.share sig Duplicate.suppressed
  copied : (h.emitItems r now wall).filterMap Item.copied =
    if h.fate r now wall = .forwarded then [r] else []
  lines : ∀ line ∈ lines, origin line ∈ h.duplicateRecords.map origin ∨
    h.fate r now wall = .forwarded ∧ origin line = (signature r, now, r.entry)
  sums : ∀ sig d wall', Item.sums sig d wall' ∈ h.emitItems r now wall →
    origin (sig, d) ∈ h.duplicateRecords.map origin ∨
      h.fate r now wall = .forwarded ∧ origin (sig, d) = (signature r, now, r.entry)
  preceded : h.fate r now wall = .suppressed → ∃ line ∈ h.duplicateRecords,
    line.1 = signature r ∧ now - line.2.forwardedAt < h.settings.duplicateWindow

/-- A record that is left out, or that is never suppressed, does not touch the cache. -/
theorem Emits.of_forwarded (hkeys : (h.duplicateRecords.map Prod.fst).Nodup)
    (hresult : h.emit r now wall =
      { h with buffer := h.buffer ++ (h.emitItems r now wall).map Item.entry })
    (hcopied : (h.emitItems r now wall).filterMap Item.copied =
      if h.fate r now wall = .forwarded then [r] else [])
    (hsums : ∀ sig d wall', Item.sums sig d wall' ∉ h.emitItems r now wall)
    (hcounts : ∀ sig, ((h.emitItems r now wall).map (Item.counts sig)).sum = 0)
    (hfate : h.fate r now wall ≠ .suppressed) : Emits h r now wall h.duplicateRecords where
  result := hresult
  keys := hkeys
  counts sig := by rw [if_neg (fun hs => hfate hs.1), hcounts]
  copied := hcopied
  lines line hline := .inl (List.mem_map_of_mem hline)
  sums sig d wall' hmem := absurd hmem (hsums sig d wall')
  preceded hs := absurd hs hfate

/-- The line of a record that is forwarded again, or suppressed, goes to the end of the cache. -/
theorem share_moved (hkeys : (h.duplicateRecords.map Prod.fst).Nodup) {d : Duplicate}
    (hget : h.duplicateRecords.get? (signature r) = some d) (d' : Duplicate) (sig : LogSignature) :
    (h.duplicateRecords.erase (signature r) ++ [(signature r, d')]).share sig
        Duplicate.suppressed + (if signature r = sig then d.suppressed else 0) =
      h.duplicateRecords.share sig Duplicate.suppressed +
        (if signature r = sig then d'.suppressed else 0) := by
  rw [Dict.share_append, Dict.share_cons, Dict.share_nil]
  by_cases hsig : signature r = sig
  · subst hsig
    rw [Dict.share_erase_self, Dict.share_of_get? _ _ hkeys hget]
    simp only [if_true]
    omega
  · rw [Dict.share_erase_ne _ _ _ (Ne.symm hsig)]
    simp only [hsig, if_false]

/-- A line that moves to the end of the table is not there twice. -/
theorem keys_moved (hkeys : (h.duplicateRecords.map Prod.fst).Nodup) (sig : LogSignature)
    (d : Duplicate) : ((h.duplicateRecords.erase sig ++ [(sig, d)]).map Prod.fst).Nodup := by
  apply Dict.nodup_append_new
  · exact hkeys.sublist (List.filter_sublist.map Prod.fst)
  · apply Dict.notMem_keys_of_get?_eq_none
    rw [Dict.get?_erase, if_pos rfl]

/-- And the first records of the lines stay the same. -/
theorem origin_moved {d d' : Duplicate} {sig : LogSignature}
    (hget : h.duplicateRecords.get? sig = some d) (hd : origin (sig, d') = origin (sig, d)) :
    ∀ line ∈ h.duplicateRecords.erase sig ++ [(sig, d')],
      origin line ∈ h.duplicateRecords.map origin := by
  intro line hline
  obtain hline | hline := List.mem_append.mp hline
  · exact List.mem_map_of_mem (List.mem_of_mem_filter hline)
  · rw [List.mem_singleton.mp hline, hd]
    exact List.mem_map_of_mem (Dict.mem_of_get? hget)

/-- A record that is listened to is suppressed or appended. -/
theorem emit_of_listens (hlistens : h.listens r = true) : h.emit r now wall =
    if (h.shouldSuppressDuplicate r now wall).1 then (h.shouldSuppressDuplicate r now wall).2
    else (h.shouldSuppressDuplicate r now wall).2.append r.entry := by
  simp only [listens, Bool.and_eq_true, Bool.not_eq_true', decide_eq_false_iff_not] at hlistens
  obtain ⟨⟨henabled, hlevel⟩, hown⟩ := hlistens
  rw [emit, if_neg (by simp [henabled, hlevel]), if_neg (by simp only [hown]; simp)]

/-- Any other is passed over. -/
theorem emit_of_not_listens (hlistens : h.listens r = false) : h.emit r now wall = h := by
  unfold emit
  split
  · rfl
  · next hfirst =>
    rw [if_pos]
    simp only [Bool.or_eq_true, Bool.not_eq_true', decide_eq_true_eq, not_or,
      Bool.not_eq_false] at hfirst
    simp only [listens, hfirst.1, hfirst.2, decide_false, Bool.not_false, Bool.and_true,
      Bool.true_and, Bool.not_eq_false'] at hlistens
    exact hlistens

/-- Nothing is counted for a record that is passed over. -/
theorem Emits.ignored (hkeys : (h.duplicateRecords.map Prod.fst).Nodup)
    (hlistens : h.listens r = false) : Emits h r now wall h.duplicateRecords := by
  have hitems : h.emitItems r now wall = [] := by simp [emitItems, hlistens]
  have hfate : h.fate r now wall = .ignored := by simp [fate, hlistens]
  apply Emits.of_forwarded hkeys
  · rw [emit_of_not_listens hlistens, hitems, List.map_nil, List.append_nil]
  · rw [hitems, hfate]
    rfl
  · simp [hitems]
  · simp [hitems]
  · simp [hfate]

/-- An exempt record is appended, and the table is not looked at. -/
theorem Emits.exempt (hkeys : (h.duplicateRecords.map Prod.fst).Nodup)
    (hroom : h.buffer.length + (h.emitItems r now wall).length ≤ h.settings.maxBufferSize)
    (hlistens : h.listens r = true) (hexempt : h.exempt r = true) :
    Emits h r now wall h.duplicateRecords := by
  have hitems : h.emitItems r now wall = [.copy r] := by simp [emitItems, hlistens, hexempt]
  have hshould : h.shouldSuppressDuplicate r now wall = (false, h) := by
    simp [shouldSuppressDuplicate, hexempt]
  have hfate : h.fate r now wall = .forwarded := by simp [fate, hlistens, hshould]
  rw [hitems] at hroom
  apply Emits.of_forwarded hkeys
  · rw [emit_of_listens hlistens, hshould, hitems]
    exact append_of_room hroom
  · rw [hitems, hfate]
    rfl
  · simp [hitems]
  · simp [hitems, Item.counts]
  · simp [hfate]

/-- A record that is not in the cache: a line for it, and the oldest lines make room. -/
theorem Emits.remembered (hsums : h.settings.duplicateSummary = true)
    (hkeys : (h.duplicateRecords.map Prod.fst).Nodup)
    (hroom : h.buffer.length + (h.emitItems r now wall).length ≤ h.settings.maxBufferSize)
    (hlistens : h.listens r = true) (hexempt : h.exempt r = false)
    (hget : h.duplicateRecords.get? (signature r) = none) :
    Emits h r now wall ((h.duplicateRecords ++ [(signature r, freshLine r now)]).drop
      (h.surplus r now)) := by
  have hset := Dict.set_of_get?_eq_none hget (freshLine r now)
  -- the signature is new, so the record is forwarded and remembered
  have hshould : h.shouldSuppressDuplicate r now wall =
      (false, h.rememberDuplicate r now wall) := by
    simp [shouldSuppressDuplicate, hexempt, hget]
  have hfate : h.fate r now wall = .forwarded := by simp [fate, hlistens, hshould]
  have hitems : h.emitItems r now wall =
      summaries ((h.duplicateRecords ++ [(signature r, freshLine r now)]).take (h.surplus r now))
        wall ++ [.copy r] := by
    simp [emitItems, hlistens, hexempt, hget, hset]
  -- a line is an old one, or that of the record
  have hline : ∀ line ∈ h.duplicateRecords ++ [(signature r, freshLine r now)],
      origin line ∈ h.duplicateRecords.map origin ∨
        h.fate r now wall = .forwarded ∧ origin line = (signature r, now, r.entry) := by
    intro line hline
    obtain hline | hline := List.mem_append.mp hline
    · exact .inl (List.mem_map_of_mem hline)
    · rw [List.mem_singleton.mp hline]
      exact .inr ⟨hfate, rfl⟩
  refine ⟨?_, ?_, ?_, ?_, ?_, ?_, ?_⟩
  -- result: what does not fit in the table is summed up first, then the record is appended
  · rw [hitems, List.length_append, List.length_singleton] at hroom
    have hremember : h.rememberDuplicate r now wall =
        ({ h with duplicateRecords := (h.duplicateRecords.set (signature r)
            (freshLine r now)).drop (h.surplus r now) } : RemoteLogHandler).appendSummaries
          ((h.duplicateRecords.set (signature r) (freshLine r now)).take (h.surplus r now)) wall := rfl
    have hsummaries : ({ h with duplicateRecords := (h.duplicateRecords ++
        [(signature r, freshLine r now)]).drop (h.surplus r now) } : RemoteLogHandler).appendSummaries
          ((h.duplicateRecords ++ [(signature r, freshLine r now)]).take (h.surplus r now)) wall = _ :=
      appendSummaries_of_room (h := { h with duplicateRecords := (h.duplicateRecords ++
        [(signature r, freshLine r now)]).drop (h.surplus r now) }) hsums _
        (by show h.buffer.length + _ ≤ h.settings.maxBufferSize; omega)
    rw [hset, hsummaries] at hremember
    rw [emit_of_listens hlistens, hshould]
    simp only [Bool.false_eq_true, if_false]
    rw [hremember, append_of_room, hitems, List.map_append, ← List.append_assoc]
    · rfl
    · simp only [List.length_append, List.length_map]
      omega
  -- keys
  · exact (Dict.nodup_append_new hkeys (Dict.notMem_keys_of_get?_eq_none hget) _).sublist
      ((List.drop_sublist _ _).map Prod.fst)
  -- counts: the table splits into the lines that are summed up and those that stay
  · intro sig
    have hparts := Dict.share_append Duplicate.suppressed sig
      ((h.duplicateRecords ++ [(signature r, freshLine r now)]).take (h.surplus r now))
      ((h.duplicateRecords ++ [(signature r, freshLine r now)]).drop (h.surplus r now))
    rw [List.take_append_drop, Dict.share_append, Dict.share_cons, Dict.share_nil] at hparts
    rw [if_neg (by simp [hfate]), hitems, List.map_append, List.sum_append, counts_summaries]
    simp only [freshLine, ite_self, Nat.add_zero, List.map_cons, List.map_nil, Item.counts,
      List.sum_cons, List.sum_nil] at hparts ⊢
    omega
  -- copied
  · rw [hitems, List.filterMap_append, copied_summaries, hfate]
    rfl
  -- lines
  · exact fun line hmem => hline line (List.mem_of_mem_drop hmem)
  -- sums: the lines that are summed up were in the table
  · intro sig d wall' hmem
    rw [hitems] at hmem
    obtain hmem | hmem := List.mem_append.mp hmem
    · exact hline _ (List.mem_of_mem_take (mem_summaries hmem))
    · exact absurd (List.mem_singleton.mp hmem) (by simp)
  -- preceded: nothing is suppressed
  · simp [hfate]

/-- A record that comes within the window: it is counted. -/
theorem Emits.suppressed (hkeys : (h.duplicateRecords.map Prod.fst).Nodup)
    (hlistens : h.listens r = true) (hexempt : h.exempt r = false) {d : Duplicate}
    (hget : h.duplicateRecords.get? (signature r) = some d)
    (hwindow : now - d.forwardedAt < h.settings.duplicateWindow) :
    Emits h r now wall (h.duplicateRecords.erase (signature r) ++ [(signature r,
      { d with suppressed := d.suppressed + 1, lastSeen := now
               claims := d.claims ++ [r.claimId] })]) := by
  -- within the window: the line counts one more and moves to the end of the table
  have hshould : h.shouldSuppressDuplicate r now wall =
      (true, { h with duplicateRecords := h.duplicateRecords.erase (signature r) ++
        [(signature r, { d with suppressed := d.suppressed + 1, lastSeen := now
                                claims := d.claims ++ [r.claimId] })] }) := by
    simp [shouldSuppressDuplicate, hexempt, hget, hwindow]
  have hfate : h.fate r now wall = .suppressed := by simp [fate, hlistens, hshould]
  have hitems : h.emitItems r now wall = [] := by
    simp [emitItems, hlistens, hexempt, hget, hwindow]
  refine ⟨?_, keys_moved hkeys _ _, ?_, ?_, ?_, ?_, ?_⟩
  -- result
  · rw [emit_of_listens hlistens, hshould, hitems]
    simp only [if_true, List.map_nil, List.append_nil]
  -- counts: one more in the line, and nothing summed up
  · intro sig
    have hmoved := share_moved hkeys hget
      { d with suppressed := d.suppressed + 1, lastSeen := now
               claims := d.claims ++ [r.claimId] } sig
    simp only [hfate, hitems, true_and, List.map_nil, List.sum_nil]
    by_cases hsig : signature r = sig
    · simp only [hsig, if_true] at hmoved ⊢
      omega
    · simp only [hsig, if_false] at hmoved ⊢
      omega
  -- copied
  · rw [hitems, hfate]
    rfl
  -- lines
  · exact fun line hline => .inl (origin_moved hget (by rfl) line hline)
  -- sums
  · simp [hitems]
  -- preceded: by the record of the line
  · exact fun _ => ⟨_, Dict.mem_of_get? hget, rfl, hwindow⟩

/-- A record that comes after the window: what was counted is summed up, and it starts anew. -/
theorem Emits.again (hsums : h.settings.duplicateSummary = true)
    (hkeys : (h.duplicateRecords.map Prod.fst).Nodup)
    (hroom : h.buffer.length + (h.emitItems r now wall).length ≤ h.settings.maxBufferSize)
    (hlistens : h.listens r = true) (hexempt : h.exempt r = false) {d : Duplicate}
    (hget : h.duplicateRecords.get? (signature r) = some d)
    (hwindow : ¬ now - d.forwardedAt < h.settings.duplicateWindow) :
    Emits h r now wall
      (h.duplicateRecords.erase (signature r) ++ [(signature r, freshLine r now)]) := by
  -- after the window: the line is summed up and begins again
  have hshould : h.shouldSuppressDuplicate r now wall =
      (false, { h.appendDuplicateSummary d wall with
        duplicateRecords := h.duplicateRecords.erase (signature r) ++
          [(signature r, freshLine r now)] }) := by
    simp [shouldSuppressDuplicate, hexempt, hget, hwindow, freshLine]
  have hfate : h.fate r now wall = .forwarded := by simp [fate, hlistens, hshould]
  have hitems : h.emitItems r now wall = summaries [(signature r, d)] wall ++ [.copy r] := by
    simp [emitItems, hlistens, hexempt, hget, hwindow]
  refine ⟨?_, keys_moved hkeys _ _, ?_, ?_, ?_, ?_, ?_⟩
  -- result
  · rw [hitems, List.length_append, List.length_singleton] at hroom
    rw [emit_of_listens hlistens, hshould,
      appendDuplicateSummary_of_room (signature r) hsums (by omega)]
    simp only [Bool.false_eq_true, if_false]
    rw [append_of_room, hitems, List.map_append, ← List.append_assoc]
    · rfl
    · simp only [List.length_append, List.length_map]
      omega
  -- counts: what the line had counted is in the summary now
  · intro sig
    have hmoved := share_moved hkeys hget (freshLine r now) sig
    rw [if_neg (by simp [hfate]), hitems, List.map_append, List.sum_append, counts_summaries,
      Dict.share_cons, Dict.share_nil]
    simp only [freshLine, ite_self, Nat.add_zero, List.map_cons, List.map_nil, Item.counts,
      List.sum_cons, List.sum_nil] at hmoved ⊢
    omega
  -- copied
  · rw [hitems, List.filterMap_append, copied_summaries, hfate]
    rfl
  -- lines
  · intro line hline
    obtain hline | hline := List.mem_append.mp hline
    · exact .inl (List.mem_map_of_mem (List.mem_of_mem_filter hline))
    · rw [List.mem_singleton.mp hline]
      exact .inr ⟨hfate, rfl⟩
  -- sums: the line that is summed up was in the table
  · intro sig d' wall' hmem
    rw [hitems] at hmem
    obtain hmem | hmem := List.mem_append.mp hmem
    · rw [List.mem_singleton.mp (mem_summaries hmem)]
      exact .inl (List.mem_map_of_mem (Dict.mem_of_get? hget))
    · exact absurd (List.mem_singleton.mp hmem) (by simp)
  -- preceded
  · simp [hfate]

/-- What one record does, in a buffer that has room for it. -/
theorem Emits.of_room (hsums : h.settings.duplicateSummary = true)
    (hkeys : (h.duplicateRecords.map Prod.fst).Nodup)
    (hroom : h.buffer.length + (h.emitItems r now wall).length ≤ h.settings.maxBufferSize) :
    ∃ lines, Emits h r now wall lines := by
  cases hlistens : h.listens r with
  | false => exact ⟨_, .ignored hkeys hlistens⟩
  | true =>
    cases hexempt : h.exempt r with
    | true => exact ⟨_, .exempt hkeys hroom hlistens hexempt⟩
    | false =>
      cases hget : h.duplicateRecords.get? (signature r) with
      | none => exact ⟨_, .remembered hsums hkeys hroom hlistens hexempt hget⟩
      | some d =>
        by_cases hwindow : now - d.forwardedAt < h.settings.duplicateWindow
        · exact ⟨_, .suppressed hkeys hlistens hexempt hget hwindow⟩
        · exact ⟨_, .again hsums hkeys hroom hlistens hexempt hget hwindow⟩

/-! ## A flush -/

/-- The first batches are the first entries. -/
theorem flatten_parts (n : Nat) (entries : List LogEntry) (k : Nat) :
    ((List.range k).map fun i => (entries.drop (i * n)).take n).flatten = entries.take (k * n) := by
  induction k with
  | zero => simp
  | succ k ih =>
    rw [List.range_succ, List.map_append, List.flatten_append, ih, Nat.succ_mul, List.take_add]
    simp

/-- The batches are the entries in order, when a batch has at least one. -/
theorem flatten_batches {batchSize : Int} (hbatch : 0 < batchSize) (entries : List LogEntry) :
    (batches batchSize entries).flatten = entries := by
  unfold batches
  dsimp only
  rw [flatten_parts]
  apply List.take_of_length_le
  have hn : 0 < batchSize.toNat := by omega
  have hdiv := Nat.div_add_mod (entries.length + batchSize.toNat - 1) batchSize.toNat
  have hmod := Nat.mod_lt (entries.length + batchSize.toNat - 1) hn
  rw [Nat.mul_comm] at hdiv
  omega

/-- With room in the buffer a flush sends it and the summaries, and empties both. -/
theorem flush_of_room (hsums : h.settings.duplicateSummary = true)
    (hroom : h.buffer.length + (h.flushItems now wall).length ≤ h.settings.maxBufferSize) :
    h.flush now wall =
      (batches h.settings.batchSize (h.buffer ++ (h.flushItems now wall).map Item.entry),
        { h with buffer := []
                 duplicateRecords := h.duplicateRecords.filter fun line => !h.expired now line }) := by
  have hsummaries := appendSummaries_of_room hsums _ hroom
  unfold flush appendExpiredDuplicateSummaries
  rw [if_neg (by simp [hsums])]
  dsimp only
  unfold flushItems expired at hsummaries
  rw [hsummaries]
  rfl

end RemoteLogHandler

namespace LogRun

/-- The records that were forwarded. -/
def forwarded (s : LogRun) : List LogRecord :=
  s.heard.filterMap fun x => if x.2.2 = .forwarded then some x.2.1 else none

/-- The suppressed records of a signature. -/
def suppressed (s : LogRun) (sig : LogSignature) : Nat :=
  s.heard.countP fun x => x.2.2 = .suppressed ∧ signature x.2.1 = sig

/-- The record that was forwarded at that time under that signature. -/
def Backed (heard : List (Int × LogRecord × Fate)) (o : LogSignature × Int × LogEntry) : Prop :=
  ∃ r, (o.2.1, r, Fate.forwarded) ∈ heard ∧ signature r = o.1 ∧ r.entry = o.2.2

/-- Every suppressed record came less than a window after a record like it that was forwarded. -/
def Preceded (window : Nat) (heard : List (Int × LogRecord × Fate)) : Prop :=
  ∀ (before : List (Int × LogRecord × Fate)) (now : Int) (r : LogRecord)
    (after : List (Int × LogRecord × Fate)), heard = before ++ (now, r, .suppressed) :: after →
    ∃ now' r', (now', r', Fate.forwarded) ∈ before ∧ signature r' = signature r ∧
      now - now' < window

/-- The accounts of a run. -/
structure Counts (settings : LogSettings) (s : LogRun) : Prop where
  same : s.handler.settings = settings
  /-- What was said is published or waits in the buffer. -/
  ledger : s.published.flatten ++ s.handler.buffer = s.said.map Item.entry
  /-- The forwarded records were copied. -/
  copied : s.said.filterMap Item.copied = s.forwarded
  /-- A record that was not left out was forwarded or suppressed. -/
  ignored : ∀ x ∈ s.heard, x.2.2 = .ignored → s.handler.listens x.2.1 = false
  /-- The suppressed records are counted in what was said or in the cache. -/
  counted : ∀ sig, s.suppressed sig =
    s.summed sig + s.handler.duplicateRecords.share sig Duplicate.suppressed
  keys : (s.handler.duplicateRecords.map Prod.fst).Nodup
  lines : ∀ line ∈ s.handler.duplicateRecords, Backed s.heard (origin line)
  sums : ∀ sig d wall, Item.sums sig d wall ∈ s.said → Backed s.heard (origin (sig, d))
  preceded : Preceded settings.duplicateWindow s.heard

/-- At the beginning nothing was heard. -/
theorem Counts.init (settings : LogSettings) : Counts settings (.init settings) where
  same := rfl
  ledger := rfl
  copied := rfl
  ignored x hx := absurd hx List.not_mem_nil
  counted sig := rfl
  keys := List.nodup_nil
  lines line hline := absurd hline List.not_mem_nil
  sums sig d wall hmem := absurd hmem List.not_mem_nil
  preceded before now r after heq := by
    have hlength := congrArg List.length heq
    simp only [LogRun.init, List.length_nil, List.length_append, List.length_cons] at hlength
    omega

/-- What was heard before is heard still. -/
theorem Backed.append {heard : List (Int × LogRecord × Fate)} {o : LogSignature × Int × LogEntry}
    (ho : Backed heard o) (x : Int × LogRecord × Fate) : Backed (heard ++ [x]) o := by
  obtain ⟨r, hmem, hsig, hentry⟩ := ho
  exact ⟨r, List.mem_append_left _ hmem, hsig, hentry⟩

variable {settings : LogSettings} {s : LogRun}

/-- What a line of the cache says stays backed by a record, and the line of a record that is
    forwarded now is backed by that record. -/
theorem Counts.backed (hs : Counts settings s) {r : LogRecord} {now : Int} {fate : Fate}
    {line : LogSignature × Duplicate} (hline : origin line ∈ s.handler.duplicateRecords.map origin ∨
      fate = .forwarded ∧ origin line = (signature r, now, r.entry)) :
    Backed (s.heard ++ [(now, r, fate)]) (origin line) := by
  obtain hold | ⟨rfl, hnew⟩ := hline
  · obtain ⟨line', hline', heq⟩ := List.mem_map.mp hold
    rw [← heq]
    exact (hs.lines line' hline').append _
  · rw [hnew]
    exact ⟨r, List.mem_append_right _ (List.mem_singleton.mpr rfl), rfl, rfl⟩

/-- A record is counted once, wherever it goes. -/
theorem Counts.emit (hs : Counts settings s) (hsums : settings.duplicateSummary = true)
    {r : LogRecord} {now wall : Int} (hroom : s.Roomy (.emit r now wall)) :
    Counts settings (s.call (.emit r now wall)) := by
  -- `Emits` says what the call leaves; every part of `Counts` grows by its part of it
  obtain ⟨lines, he⟩ := Emits.of_room (by rw [hs.same, hsums]) hs.keys hroom
  have hhandler : (s.call (.emit r now wall)).handler = _ := he.result
  refine ⟨?_, ?_, ?_, ?_, ?_, ?_, ?_, ?_, ?_⟩
  -- same
  · rw [hhandler, ← hs.same]
  -- ledger
  · rw [hhandler]
    show s.published.flatten ++ (s.handler.buffer ++ _) = (s.said ++ _).map Item.entry
    rw [← List.append_assoc, hs.ledger, List.map_append]
  -- copied
  · show (s.said ++ _).filterMap Item.copied = (s.heard ++ [_]).filterMap _
    rw [List.filterMap_append, List.filterMap_append, hs.copied, he.copied]
    congr 1
    by_cases hfate : s.handler.fate r now wall = .forwarded
    · simp [hfate]
    · simp [hfate]
  -- ignored: the level of the handler does not change
  · intro x hx hfate
    have hlistens : ∀ r', (s.call (.emit r now wall)).handler.listens r' = s.handler.listens r' := by
      rw [hhandler]
      exact fun _ => rfl
    rw [hlistens]
    obtain hx | hx := List.mem_append.mp hx
    · exact hs.ignored x hx hfate
    · rw [List.mem_singleton.mp hx] at hfate ⊢
      by_contra hheard
      simp only [fate, Bool.not_eq_false] at hfate hheard
      rw [hheard] at hfate
      simp only [Bool.not_true, Bool.false_eq_true, if_false] at hfate
      split at hfate <;> cases hfate
  -- counted
  · intro sig
    have hold := hs.counted sig
    have hnew := he.counts sig
    rw [hhandler]
    simp only [suppressed, summed, call, List.countP_append, List.countP_cons, List.countP_nil,
      List.map_append, List.sum_append, decide_eq_true_eq] at hold ⊢
    omega
  -- keys
  · rw [hhandler]
    exact he.keys
  -- lines
  · intro line hline
    rw [hhandler] at hline
    exact hs.backed (he.lines line hline)
  -- sums
  · intro sig d wall' hmem
    obtain hmem | hmem := List.mem_append.mp hmem
    · exact (hs.sums sig d wall' hmem).append _
    · exact hs.backed (he.sums sig d wall' hmem)
  -- preceded: the record of this call, and then an older one
  · intro before now' r' after heq
    have hheard : s.heard ++ [(now, r, s.handler.fate r now wall)] =
        before ++ (now', r', .suppressed) :: after := heq
    obtain rfl | ⟨after, last, rfl⟩ := List.eq_nil_or_concat after
    · obtain ⟨rfl, hlast⟩ := List.append_inj' hheard rfl
      obtain ⟨rfl, hrest⟩ := Prod.mk.inj (List.singleton_inj.mp hlast)
      obtain ⟨rfl, hfate⟩ := Prod.mk.inj hrest
      obtain ⟨line, hline, hsig, hwindow⟩ := he.preceded hfate
      obtain ⟨r', hmem, hsig', _⟩ := hs.lines line hline
      rw [hs.same] at hwindow
      exact ⟨_, r', hmem, hsig'.trans hsig, hwindow⟩
    · rw [List.concat_eq_append, ← List.cons_append, ← List.append_assoc] at hheard
      exact hs.preceded before now' r' after (List.append_inj' hheard rfl).1

/-- A flush loses no count. -/
theorem Counts.flush (hs : Counts settings s) (hsums : settings.duplicateSummary = true)
    (hbatch : 0 < settings.batchSize) {now wall : Int} (hroom : s.Roomy (.flush now wall)) :
    Counts settings (s.call (.flush now wall)) := by
  -- a flush takes the buffer and sums up the lines that have expired
  have hflush : s.handler.flush now wall = _ := flush_of_room (by rw [hs.same, hsums]) hroom
  have hhandler : (s.call (.flush now wall)).handler = _ := congrArg Prod.snd hflush
  refine ⟨?_, ?_, ?_, ?_, ?_, ?_, ?_, ?_, ?_⟩
  -- same
  · rw [hhandler, ← hs.same]
  -- ledger: the batches are the buffer, cut in pieces
  · rw [hhandler]
    show (s.published ++ (s.handler.flush now wall).1).flatten ++ [] = (s.said ++ _).map Item.entry
    rw [hflush, List.append_nil, List.flatten_append, flatten_batches (by rw [hs.same]; exact hbatch),
      ← List.append_assoc, hs.ledger, List.map_append]
  -- copied: a summary is no copy
  · show (s.said ++ summaries _ _).filterMap Item.copied = s.forwarded
    rw [List.filterMap_append, copied_summaries, List.append_nil, hs.copied]
  -- ignored
  · intro x hx hfate
    rw [hhandler]
    exact hs.ignored x hx hfate
  -- counted: what the expired lines had counted is in the summaries now
  · intro sig
    have hold := hs.counted sig
    have hparts := Dict.share_filter_add Duplicate.suppressed sig s.handler.duplicateRecords
      (s.handler.expired now)
    rw [hhandler]
    simp only [suppressed, summed, call, flushItems, List.map_append, List.sum_append,
      counts_summaries] at hold ⊢
    omega
  -- keys
  · rw [hhandler]
    exact hs.keys.sublist (List.filter_sublist.map Prod.fst)
  -- lines
  · intro line hline
    rw [hhandler] at hline
    exact hs.lines line (List.mem_of_mem_filter hline)
  -- sums
  · intro sig d wall' hmem
    obtain hmem | hmem := List.mem_append.mp hmem
    · exact hs.sums sig d wall' hmem
    · exact hs.lines (sig, d) (List.mem_of_mem_filter (mem_summaries hmem))
  · exact hs.preceded

/-- Every call keeps the accounts. -/
theorem Counts.call (hs : Counts settings s) (hsums : settings.duplicateSummary = true)
    (hbatch : 0 < settings.batchSize) {c : LogCall} (hroom : s.Roomy c) :
    Counts settings (s.call c) := by
  cases c with
  | emit r now wall => exact hs.emit hsums hroom
  | stop =>
    exact ⟨hs.same, hs.ledger, hs.copied, hs.ignored, hs.counted, hs.keys, hs.lines, hs.sums,
      hs.preceded⟩
  | flush now wall => exact hs.flush hsums hbatch hroom

/-- A handler that is stopped stays so. -/
theorem Counts.stopped (hs : Counts settings s) (hsums : settings.duplicateSummary = true)
    {c : LogCall} (hroom : s.Roomy c) (hstopped : s.handler.stopped = true) :
    (s.call c).handler.stopped = true := by
  cases c with
  | emit r now wall =>
    obtain ⟨lines, he⟩ := Emits.of_room (by rw [hs.same, hsums]) hs.keys hroom
    show (s.handler.emit r now wall).stopped = true
    rw [he.result]
    exact hstopped
  | stop => rfl
  | flush now wall =>
    show (s.handler.flush now wall).2.stopped = true
    rw [flush_of_room (by rw [hs.same, hsums]) hroom]
    exact hstopped

/-- A run keeps the accounts, and it ends stopped when `stop` was called. -/
theorem Counts.run (hsums : settings.duplicateSummary = true) (hbatch : 0 < settings.batchSize)
    {calls : List LogCall} {s' : LogRun} (hs : Counts settings s)
    (hroom : Run.Along step Roomy s calls) (hrun : Run.exec step s calls = some s') :
    Counts settings s' ∧ (s.handler.stopped = true ∨ .stop ∈ calls → s'.handler.stopped = true) := by
  induction calls generalizing s with
  | nil =>
    simp only [Run.exec_nil, Option.some.injEq] at hrun
    subst hrun
    exact ⟨hs, fun hstopped => hstopped.resolve_right List.not_mem_nil⟩
  | cons c calls ih =>
    obtain ⟨m, hm, hrest⟩ := Run.exec_cons.mp hrun
    obtain rfl := Option.some.inj hm
    have hstopped := hs.stopped hsums hroom.1
    obtain ⟨hs', himp⟩ := ih (hs.call hsums hbatch hroom.1) (hroom.2 _ rfl) hrest
    refine ⟨hs', fun h => himp ?_⟩
    obtain h | h := h
    · exact .inl (hstopped h)
    · obtain rfl | h := List.mem_cons.mp h
      · exact .inl rfl
      · exact .inr h

/-- The records of a signature, by what became of them. -/
theorem countP_fates (sig : LogSignature) (heard : List (Int × LogRecord × Fate))
    (hignored : ∀ x ∈ heard, x.2.2 = .ignored → signature x.2.1 ≠ sig) :
    (heard.countP fun x => signature x.2.1 = sig) =
      ((heard.filterMap fun x => if x.2.2 = .forwarded then some x.2.1 else none).countP
        fun r => signature r = sig) +
      heard.countP fun x => x.2.2 = .suppressed ∧ signature x.2.1 = sig := by
  -- induction on the records heard; each is in one of the three counts or in none
  induction heard with
  | nil => rfl
  | cons x heard ih =>
    have hrest := ih fun y hy => hignored y (List.mem_cons_of_mem x hy)
    obtain ⟨now, r, fate⟩ := x
    cases fate with
    | ignored =>
      have hne := hignored _ List.mem_cons_self rfl
      simp_all
    | forwarded =>
      by_cases hsig : signature r = sig
      · simp [hsig, hrest]
        omega
      · simp [hsig, hrest]
    | suppressed =>
      by_cases hsig : signature r = sig
      · simp [hsig, hrest]
        omega
      · simp [hsig, hrest]

/-- Whether a record is left out shows in its signature. -/
theorem listens_of_signature {h : RemoteLogHandler} {r r' : LogRecord}
    (hsig : signature r = signature r') : h.listens r = h.listens r' := by
  obtain ⟨hlevel, hname, _⟩ := by simpa only [signature, Prod.mk.injEq] using hsig
  simp only [listens, hlevel, hname]

/-- A record that is not left out was forwarded or suppressed. -/
theorem Counts.emitted_eq (hs : Counts settings s) {r : LogRecord}
    (hr : s.handler.listens r = true) :
    s.emitted (signature r) = s.copies (signature r) + s.suppressed (signature r) := by
  unfold emitted copies suppressed
  rw [hs.copied]
  apply countP_fates
  intro x hx hfate hsig
  have hleft := hs.ignored x hx hfate
  rw [listens_of_signature hsig, hr] at hleft
  cases hleft

/-- When the run is over: for every record that may be suppressed the records given are the copies
    and the counts that were published, every summary is of records of its signature, and what was
    suppressed came less than a window after a record like it that was forwarded. -/
theorem counts_agree {settings : LogSettings} {calls : List LogCall} {now wall : Int} {s : LogRun}
    (hsums : settings.duplicateSummary = true) (hbatch : 0 < settings.batchSize)
    (hstop : .stop ∈ calls)
    (hroom : Run.Along step Roomy (.init settings) (calls ++ [.flush now wall]))
    (hrun : Run.exec step (.init settings) (calls ++ [.flush now wall]) = some s) :
    s.published.flatten = s.said.map Item.entry ∧
    s.said.filterMap Item.copied = s.forwarded ∧
    (∀ r, s.handler.eligible r = true →
      s.emitted (signature r) = s.copies (signature r) + s.summed (signature r)) ∧
    (∀ sig d wall', Item.sums sig d wall' ∈ s.said → Backed s.heard (origin (sig, d))) ∧
    Preceded settings.duplicateWindow s.heard := by
  -- the run is its calls, with `stop` among them, and the last flush
  obtain ⟨m, hm, hlast⟩ := Run.exec_append.mp hrun
  obtain ⟨hcounts, himp⟩ := Counts.run hsums hbatch (.init settings) hroom.of_append hm
  have hstopped : m.handler.stopped = true := himp (.inr hstop)
  have hroomy := (hroom.of_append_right hm).1
  obtain ⟨t, ht, hnil⟩ := Run.exec_cons.mp hlast
  obtain rfl := Option.some.inj ht
  obtain rfl := Option.some.inj hnil
  have hs := hcounts.flush hsums hbatch hroomy
  have hflush : m.handler.flush now wall = _ := flush_of_room (by rw [hcounts.same, hsums]) hroomy
  have hhandler : (m.call (.flush now wall)).handler = _ := congrArg Prod.snd hflush
  -- the last flush takes every line, whatever its age
  have hempty : (m.call (.flush now wall)).handler.duplicateRecords = [] := by
    rw [hhandler]
    simp [expired, hstopped]
  have hbuffer : (m.call (.flush now wall)).handler.buffer = [] := by rw [hhandler]
  refine ⟨?_, hs.copied, ?_, hs.sums, hs.preceded⟩
  -- nothing is left in the buffer
  · have hledger := hs.ledger
    rw [hbuffer, List.append_nil] at hledger
    exact hledger
  -- and nothing in the table
  · intro r hr
    have hlistens : (m.call (.flush now wall)).handler.listens r = true := by
      rw [eligible, Bool.and_eq_true] at hr
      exact hr.1
    have hcounted := hs.counted (signature r)
    rw [hempty, Dict.share_nil, Nat.add_zero] at hcounted
    rw [hs.emitted_eq hlistens, hcounted]

/-- A warning, with the text it comes with. -/
def warning (message : String) : LogRecord :=
  ⟨30, "WARNING", "novena_gateway.modbus", message, "modbus", 1, 0, .null⟩

/-- A cache of one line, and a second warning that takes it. -/
def evictingCalls : List LogCall :=
  [.emit (warning "timeout") 0 0, .emit (warning "timeout") 1000 0,
    .emit (warning "refused") 2000 0, .stop]

/-- The warning that came twice is in the accounts with a copy and with a summary. -/
theorem counts_agree_evicted : ∃ s,
    Run.exec step (.init { duplicateCacheSize := 1 }) (evictingCalls ++ [.flush 3000 0]) = some s ∧
    s.published.flatten.length = 3 ∧
    s.emitted (signature (warning "timeout")) = 2 ∧
    s.copies (signature (warning "timeout")) + s.summed (signature (warning "timeout")) = 2 := by
  have hagree := @counts_agree { duplicateCacheSize := 1 } evictingCalls 3000 0 _ rfl (by decide)
    (by simp [evictingCalls]) (by decide) rfl
  have htimeout := hagree.2.2.1 (warning "timeout") (by decide)
  exact ⟨_, rfl, by decide, by decide, htimeout.symm.trans (by decide)⟩

/-- With a batch size that is not positive nothing is published, and the records are gone. -/
theorem unpublished_records : ∃ s,
    Run.Along step Roomy (.init { batchSize := -1 })
      ([.emit (warning "timeout") 0 0, .stop] ++ [.flush 1000 0]) ∧
    Run.exec step (.init { batchSize := -1 })
      ([.emit (warning "timeout") 0 0, .stop] ++ [.flush 1000 0]) = some s ∧
    s.handler.eligible (warning "timeout") = true ∧
    s.emitted (signature (warning "timeout")) = 1 ∧
    s.handler.buffer = [] ∧ s.published.flatten = [] := by
  exact ⟨_, by decide, rfl, by decide, by decide, rfl, rfl⟩

end LogRun

end Novena

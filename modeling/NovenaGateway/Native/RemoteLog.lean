import NovenaGateway.Native.Json

/-!
# The remote log

`RemoteLogHandler` of `remote_log_handler.py`: the records of the root logger wait in a bounded
buffer until a flush publishes them in batches, and a warning or an error that repeats is counted
in a cache and summed up later. A record comes with the message `_customer_message` makes of it.
Times are in milliseconds.

What a record, an entry and a line of the cache say of a claim is history: no function reads it.
-/

namespace Novena

/-- A record of the logging framework, and the claim under which it was made. -/
structure LogRecord where
  levelno : Int
  levelname : String
  name : String
  message : String
  moduleName : String
  lineno : Int
  created : Int
  claimId : Json

/-- An entry of the log payload, and the claims of the records it stands for. -/
structure LogEntry where
  ts : Int
  level : String
  logger : String
  message : String
  moduleName : String
  line : Int
  claims : List Json

/-- The entry of a record. -/
def LogRecord.entry (r : LogRecord) : LogEntry :=
  ⟨r.created, r.levelname, r.name, r.message, r.moduleName, r.lineno, [r.claimId]⟩

/-- The entry as it is sent. -/
def LogEntry.toJson (e : LogEntry) : Json :=
  .obj [("ts", .int e.ts), ("level", .str e.level), ("logger", .str e.logger),
    ("message", .str e.message), ("module", .str e.moduleName), ("line", .int e.line)]

/-- A line of the cache: when the record was forwarded, and how often it came since. -/
structure Duplicate where
  forwardedAt : Int
  lastSeen : Int
  suppressed : Nat
  entry : LogEntry
  claims : List Json

/-- The settings `__init__` reads, with its defaults. -/
structure LogSettings where
  enabled : Bool := true
  batchSize : Int := 20
  duplicateWindow : Nat := 300000
  duplicateSummary : Bool := true
  duplicateCacheSize : Nat := 512
  minLevel : Int := 20
  maxBufferSize : Nat := 500

/-- What tells two records apart. -/
abbrev LogSignature := Int × String × String

/-- `RemoteLogHandler`. -/
structure RemoteLogHandler where
  settings : LogSettings
  buffer : List LogEntry
  duplicateRecords : Dict LogSignature Duplicate
  stopped : Bool

namespace RemoteLogHandler

/-- The handler `__init__` makes. -/
def init (settings : LogSettings) : RemoteLogHandler := ⟨settings, [], [], false⟩

/-- `_DEDUPLICATE_EXEMPT_LOGGERS`. -/
def exemptLoggers : List String := ["novena_gateway.remote_config", "novena_gateway.activation"]

/-- `_DEDUPLICATE_EXEMPT_TERMS`. -/
def exemptTerms : List String :=
  ["activation", "configuration failed", "config failed", "state changed", "status changed"]

/-- The characters outside ASCII whose case folding has an ASCII character in it. -/
def foldings : Dict Nat (List Nat) :=
  [(0xdf, [0x73, 0x73]), (0x130, [0x69, 0x307]), (0x149, [0x2bc, 0x6e]), (0x17f, [0x73]),
   (0x1f0, [0x6a, 0x30c]), (0x1e96, [0x68, 0x331]), (0x1e97, [0x74, 0x308]),
   (0x1e98, [0x77, 0x30a]), (0x1e99, [0x79, 0x30a]), (0x1e9a, [0x61, 0x2be]),
   (0x1e9e, [0x73, 0x73]), (0x212a, [0x6b]), (0xfb00, [0x66, 0x66]), (0xfb01, [0x66, 0x69]),
   (0xfb02, [0x66, 0x6c]), (0xfb03, [0x66, 0x66, 0x69]), (0xfb04, [0x66, 0x66, 0x6c]),
   (0xfb05, [0x73, 0x74]), (0xfb06, [0x73, 0x74])]

/-- The case folding of a character. Of the others outside ASCII none bears on whether an exempt
    term occurs, and they stay. -/
def casefold (c : Char) : List Nat := (foldings.get? c.toNat).getD [c.toLower.toNat]

/-- `name.startswith(prefixes)`. -/
def startsWithAny (name : String) (prefixes : List String) : Bool :=
  prefixes.any fun start => start.toList.isPrefixOf name.toList

/-- The records that are never suppressed. -/
def exempt (h : RemoteLogHandler) (r : LogRecord) : Bool :=
  h.settings.duplicateWindow = 0 || !(r.levelno = 30 || r.levelno = 40) ||
    startsWithAny r.name exemptLoggers ||
    exemptTerms.any fun term =>
      decide (term.toList.map Char.toNat <:+: r.message.toList.flatMap casefold)

/-- `(record.levelno, record.name, customer_message)`. -/
def signature (r : LogRecord) : LogSignature := (r.levelno, r.name, r.message)

/-- `_buffer.append`: the oldest entry makes room. -/
def append (h : RemoteLogHandler) (e : LogEntry) : RemoteLogHandler :=
  { h with buffer := (h.buffer ++ [e]).drop (h.buffer.length + 1 - h.settings.maxBufferSize) }

/-- The entry of a summary. -/
def summary (d : Duplicate) (wall : Int) : LogEntry :=
  let duration := ((d.lastSeen - d.forwardedAt) / 1000).toNat
  let level := String.ofList (d.entry.level.toList.map Char.toLower)
  { d.entry with
    ts := wall
    message := "Suppressed " ++ toString d.suppressed ++ " identical remote " ++ level ++
      " records over " ++ toString duration ++ "s: " ++ d.entry.message
    claims := d.claims }

/-- `_append_duplicate_summary`. -/
def appendDuplicateSummary (h : RemoteLogHandler) (d : Duplicate) (wall : Int) : RemoteLogHandler :=
  if !h.settings.duplicateSummary || d.suppressed = 0 then h else h.append (summary d wall)

/-- The summaries of some lines of the cache, in order. -/
def appendSummaries (h : RemoteLogHandler) (lines : Dict LogSignature Duplicate) (wall : Int) :
    RemoteLogHandler :=
  lines.foldl (fun h line => h.appendDuplicateSummary line.2 wall) h

/-- `_remember_duplicate`: the oldest lines of a cache that is too long are summed up. -/
def rememberDuplicate (h : RemoteLogHandler) (r : LogRecord) (now wall : Int) :
    RemoteLogHandler :=
  let lines := h.duplicateRecords.set (signature r) ⟨now, now, 0, r.entry, [r.claimId]⟩
  let surplus := lines.length - max 1 h.settings.duplicateCacheSize
  appendSummaries { h with duplicateRecords := lines.drop surplus } (lines.take surplus) wall

/-- `_should_suppress_duplicate`. -/
def shouldSuppressDuplicate (h : RemoteLogHandler) (r : LogRecord) (now wall : Int) :
    Bool × RemoteLogHandler :=
  if h.exempt r then (false, h) else
  match h.duplicateRecords.get? (signature r) with
  | none => (false, h.rememberDuplicate r now wall)
  | some d =>
    -- the line goes to the end of the cache, whatever becomes of it
    let lines := h.duplicateRecords.erase (signature r)
    if now - d.forwardedAt < h.settings.duplicateWindow then
      let d := { d with suppressed := d.suppressed + 1, lastSeen := now,
                        claims := d.claims ++ [r.claimId] }
      (true, { h with duplicateRecords := lines ++ [(signature r, d)] })
    else
      let h := h.appendDuplicateSummary d wall
      let d : Duplicate := ⟨now, now, 0, r.entry, [r.claimId]⟩
      (false, { h with duplicateRecords := lines ++ [(signature r, d)] })

/-- `emit`: its own logger and that of the publisher are left out. -/
def emit (h : RemoteLogHandler) (r : LogRecord) (now wall : Int) : RemoteLogHandler :=
  if !h.settings.enabled || r.levelno < h.settings.minLevel then h
  else if startsWithAny r.name ["novena_gateway.mqtt_publisher"] ||
      r.name = "novena_gateway.remote_log_handler" then h
  else
    let (suppressed, h) := h.shouldSuppressDuplicate r now wall
    if suppressed then h else h.append r.entry

/-- `_append_expired_duplicate_summaries`. -/
def appendExpiredDuplicateSummaries (h : RemoteLogHandler) (force : Bool) (now wall : Int) :
    RemoteLogHandler :=
  if !h.settings.duplicateSummary then h else
  let expired (line : LogSignature × Duplicate) : Bool :=
    force || h.settings.duplicateWindow ≤ now - line.2.forwardedAt
  { h.appendSummaries (h.duplicateRecords.filter expired) wall with
    duplicateRecords := h.duplicateRecords.filter fun line => !expired line }

/-- `entries[i:i + batch_size]` for every `i` of `range(0, len(entries), batch_size)`; a size that
    is not positive gives none. -/
def batches (batchSize : Int) (entries : List LogEntry) : List (List LogEntry) :=
  let n := batchSize.toNat
  (List.range ((entries.length + n - 1) / n)).map fun k => (entries.drop (k * n)).take n

/-- The first half of `_flush`, under the lock: the batches that are to be published. -/
def flush (h : RemoteLogHandler) (now wall : Int) : List (List LogEntry) × RemoteLogHandler :=
  let h := h.appendExpiredDuplicateSummaries h.stopped now wall
  (batches h.settings.batchSize h.buffer, { h with buffer := [] })

/-- The payload of a batch. -/
def payload (serialNumber : Json) (ts : Int) (batch : List LogEntry) : Dict String Json :=
  [("serial_number", serialNumber), ("ts", .int ts), ("logs", .arr (batch.map LogEntry.toJson))]

end RemoteLogHandler

end Novena

import NovenaGateway.Native.RemoteLog

/-!
# What the remote log holds

A record that reaches the handler waits in its buffer or in its cache, and leaves both through a
flush. Whatever is true of the claims of the records that come in is true of those that wait and
of those that leave.

Key results:
- `RemoteLogHandler.Holds.emit`
- `RemoteLogHandler.Holds.flush`
-/

namespace Novena

namespace RemoteLogHandler

variable {P : Json → Prop} {h : RemoteLogHandler}

/-- Every record that waits in the handler was made under a claim with `P`. -/
structure Holds (P : Json → Prop) (h : RemoteLogHandler) : Prop where
  buffer : ∀ e ∈ h.buffer, ∀ c ∈ e.claims, P c
  lines : h.settings.duplicateSummary = true → ∀ line ∈ h.duplicateRecords,
    ∀ c ∈ line.2.claims, P c

/-- A weaker property holds too. -/
theorem Holds.imp {Q : Json → Prop} (hH : h.Holds P) (hPQ : ∀ c, P c → Q c) : h.Holds Q :=
  ⟨fun e he c hc => hPQ c (hH.buffer e he c hc),
    fun hs line hl c hc => hPQ c (hH.lines hs line hl c hc)⟩

/-- The entry of a record stands for it alone. -/
theorem entry_claims {r : LogRecord} (hr : P r.claimId) : ∀ c ∈ r.entry.claims, P c := by
  intro c hc
  rw [List.mem_singleton.mp hc]
  exact hr

/-- A record that is appended is of the claims of the log. -/
theorem Holds.append {e : LogEntry} (hH : h.Holds P) (he : ∀ c ∈ e.claims, P c) :
    (h.append e).Holds P where
  buffer := by
    intro e' he'
    obtain hmem | hmem := List.mem_append.mp (List.mem_of_mem_drop he')
    · exact hH.buffer e' hmem
    · rw [List.mem_singleton.mp hmem]
      exact he
  lines := hH.lines

/-- A summary changes no setting. -/
@[simp] theorem appendDuplicateSummary_settings (d : Duplicate) (wall : Int) :
    (h.appendDuplicateSummary d wall).settings = h.settings := by
  unfold appendDuplicateSummary
  split <;> rfl

/-- And no line. -/
@[simp] theorem appendDuplicateSummary_duplicateRecords (d : Duplicate) (wall : Int) :
    (h.appendDuplicateSummary d wall).duplicateRecords = h.duplicateRecords := by
  unfold appendDuplicateSummary
  split <;> rfl

/-- A summary is of the claims of its line. -/
theorem Holds.appendDuplicateSummary {d : Duplicate} (hH : h.Holds P)
    (hd : h.settings.duplicateSummary = true → ∀ c ∈ d.claims, P c) (wall : Int) :
    (h.appendDuplicateSummary d wall).Holds P := by
  unfold RemoteLogHandler.appendDuplicateSummary
  split
  · exact hH
  · next hsums =>
    simp only [Bool.or_eq_true, Bool.not_eq_true', decide_eq_true_eq, not_or,
      Bool.not_eq_false] at hsums
    exact hH.append (hd hsums.1)

/-- Nor do many. -/
theorem appendSummaries_eq (lines : Dict LogSignature Duplicate) (wall : Int) :
    (h.appendSummaries lines wall).settings = h.settings ∧
      (h.appendSummaries lines wall).duplicateRecords = h.duplicateRecords := by
  induction lines generalizing h with
  | nil => exact ⟨rfl, rfl⟩
  | cons line lines ih =>
    obtain ⟨hs, hr⟩ := ih (h := h.appendDuplicateSummary line.2 wall)
    exact ⟨hs.trans (by simp), hr.trans (by simp)⟩

/-- And so are all of a flush. -/
theorem Holds.appendSummaries {lines : Dict LogSignature Duplicate} (hH : h.Holds P)
    (hlines : h.settings.duplicateSummary = true → ∀ line ∈ lines, ∀ c ∈ line.2.claims, P c)
    (wall : Int) : (h.appendSummaries lines wall).Holds P := by
  induction lines generalizing h with
  | nil => exact hH
  | cons line lines ih =>
    apply ih
    · exact hH.appendDuplicateSummary (fun hs => hlines hs line List.mem_cons_self) wall
    · intro hs line' hmem
      exact hlines (by simpa using hs) line' (List.mem_cons_of_mem _ hmem)

/-- A line is of the claims of its records. -/
theorem Holds.rememberDuplicate {r : LogRecord} (hH : h.Holds P) (hr : P r.claimId)
    (now wall : Int) : (h.rememberDuplicate r now wall).Holds P := by
  have hset : h.settings.duplicateSummary = true → ∀ line ∈
      h.duplicateRecords.set (signature r) ⟨now, now, 0, r.entry, [r.claimId]⟩,
      ∀ c ∈ line.2.claims, P c := by
    intro hs line hmem
    obtain rfl | hmem := Dict.mem_set hmem
    · exact entry_claims hr
    · exact hH.lines hs line hmem
  unfold RemoteLogHandler.rememberDuplicate
  apply Holds.appendSummaries
  · exact ⟨hH.buffer, fun hs line hmem => hset hs line (List.mem_of_mem_drop hmem)⟩
  · exact fun hs line hmem => hset hs line (List.mem_of_mem_take hmem)

/-- A suppressed record adds its claim to its line. -/
theorem Holds.shouldSuppressDuplicate {r : LogRecord} (hH : h.Holds P) (hr : P r.claimId)
    (now wall : Int) : (h.shouldSuppressDuplicate r now wall).2.Holds P := by
  have herase : ∀ line ∈ h.duplicateRecords.erase (signature r), line ∈ h.duplicateRecords :=
    fun line hline => List.mem_of_mem_filter hline
  -- the line of the record is written anew at the end of the cache
  have hmoved : ∀ (h' : RemoteLogHandler) (d : Duplicate), h'.Holds P →
      h'.settings = h.settings →
      (h.settings.duplicateSummary = true → ∀ c ∈ d.claims, P c) →
      Holds P { h' with
        duplicateRecords := h.duplicateRecords.erase (signature r) ++ [(signature r, d)] } := by
    intro h' d hH' hsettings hd
    refine ⟨hH'.buffer, fun hs line hline => ?_⟩
    have hs' : h.settings.duplicateSummary = true := hsettings ▸ hs
    obtain hline | hline := List.mem_append.mp hline
    · exact hH.lines hs' line (herase line hline)
    · rw [List.mem_singleton.mp hline]
      exact hd hs'
  unfold RemoteLogHandler.shouldSuppressDuplicate
  split
  · exact hH
  split
  · exact hH.rememberDuplicate hr now wall
  · next d hget =>
    have hd : h.settings.duplicateSummary = true → ∀ c ∈ d.claims, P c :=
      fun hs => hH.lines hs _ (Dict.mem_of_get? hget)
    dsimp only
    split
    · refine hmoved h _ hH rfl fun hs c hc => ?_
      obtain hc | hc := List.mem_append.mp hc
      · exact hd hs c hc
      · exact entry_claims hr c hc
    · exact hmoved _ _ (hH.appendDuplicateSummary hd wall) (by simp) fun _ => entry_claims hr

/-- A record that comes in. -/
theorem Holds.emit {r : LogRecord} (hH : h.Holds P) (hr : P r.claimId) (now wall : Int) :
    (h.emit r now wall).Holds P := by
  have hkept := hH.shouldSuppressDuplicate hr now wall
  unfold RemoteLogHandler.emit
  split
  · exact hH
  split
  · exact hH
  dsimp only
  split
  · exact hkept
  · exact hkept.append (entry_claims hr)

/-- The lines that expire are sent as summaries. -/
theorem Holds.appendExpiredDuplicateSummaries (hH : h.Holds P) (force : Bool) (now wall : Int) :
    (h.appendExpiredDuplicateSummaries force now wall).Holds P := by
  unfold RemoteLogHandler.appendExpiredDuplicateSummaries
  split
  · exact hH
  · refine ⟨(hH.appendSummaries (fun hs line hline => ?_) wall).buffer, fun hs line hline => ?_⟩
    · exact hH.lines hs line (List.mem_of_mem_filter hline)
    · rw [(appendSummaries_eq _ wall).1] at hs
      exact hH.lines hs line (List.mem_of_mem_filter hline)

/-- A batch has entries of the buffer. -/
theorem mem_batches {batchSize : Int} {entries batch : List LogEntry} {e : LogEntry}
    (hbatch : batch ∈ batches batchSize entries) (he : e ∈ batch) : e ∈ entries := by
  obtain ⟨k, _, rfl⟩ := List.mem_map.mp hbatch
  exact List.mem_of_mem_drop (List.mem_of_mem_take he)

/-- What a flush takes, and what it leaves. -/
theorem Holds.flush (hH : h.Holds P) (now wall : Int) :
    (∀ batch ∈ (h.flush now wall).1, ∀ e ∈ batch, ∀ c ∈ e.claims, P c) ∧
      (h.flush now wall).2.Holds P := by
  have hall := hH.appendExpiredDuplicateSummaries h.stopped now wall
  refine ⟨fun batch hbatch e he => ?_, fun _ h => absurd h List.not_mem_nil, hall.lines⟩
  exact hall.buffer e (mem_batches hbatch he)

end RemoteLogHandler

end Novena

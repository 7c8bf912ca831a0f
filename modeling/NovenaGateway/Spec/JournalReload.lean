import NovenaGateway.Spec.CommandWorkers

/-!
# Reloading the command journal

The journal in memory is keyed by device ids as they come out of the envelope, the file by
strings. `reload_agrees_iff` says what a restart after any run of operations remembers: a journal
built from the file answers like the live one exactly when every device id recorded since the
last reset or restart is a string. A device with the numeric id 7 is found again under `"7"` only,
and the highest sequence of 7 is 0 again.

Key results:
- `DurableCommandJournal.reload_agrees_iff`
- `DurableCommandJournal.reload_forgets`
-/

namespace Novena

namespace DurableCommandJournal

/-! ## Operations -/

/-- The operations on a journal; `restart` builds it again from its file. -/
inductive Operation where
  | write (commandId : String) (record : CommandRecord) (now : Int)
  | recordEpoch (epoch : Int)
  | reset
  | restart

/-- The journal after one operation; `ok` is the outcome of its file operations. -/
def apply (j : DurableCommandJournal) (op : Operation) (ok : Bool) : DurableCommandJournal :=
  match op with
  | .write commandId record now => (j.write commandId record now ok).1
  | .recordEpoch epoch => (j.recordEpoch epoch ok).1
  | .reset => (j.reset ok).1
  | .restart => .init j.file

/-- A record as the guard admits it: its device id is true and can be looked up, and its sequence
    is above every recorded maximum, which is never below 0. -/
structure Admits (record : CommandRecord) : Prop where
  device : record.deviceId.truthy = true
  hashable : ∃ key, record.deviceId.hashKey = .ok key
  sequence : ∃ n, record.sequenceNumber.toInt = .ok n ∧ 0 < n

/-- The operations of a guard. -/
def Operation.Admitted : Operation → Prop
  | .write _ record _ => Admits record
  | _ => True

/-! ## What the file can hold -/

/-- Every device of the state is recorded under a string. -/
def Textual (s : JournalState) : Prop :=
  ∀ p ∈ s.sequences, ∃ t, p.1 = .str t ∧ p.2.1 = .str t

/-- An empty journal has only text. -/
theorem Textual.empty : Textual .empty := fun _ hp => absurd hp List.not_mem_nil

/-- What comes back from a file has strings only. -/
theorem textual_dump {s saved : JournalState} (h : s.dump = some saved) : Textual saved := by
  intro p hp
  rw [(dump_eq h).2.2.2] at hp
  obtain ⟨q, _, rfl⟩ := List.mem_map.mp hp
  exact ⟨q.2.1.jsonKey, rfl, rfl⟩

/-- A textual state comes back as it is. -/
theorem Textual.dump {s : JournalState} (h : Textual s) : s.dump = some s := by
  have hsortable : sortableKeys (s.sequences.map Prod.fst) = true := by
    simp only [sortableKeys, Bool.or_eq_true, List.all_eq_true, List.mem_map]
    left
    rintro key ⟨p, hp, rfl⟩
    obtain ⟨t, ht, _⟩ := h p hp
    rw [ht]
  have hsame : (s.sequences.map fun p =>
      ((.str p.2.1.jsonKey, .str p.2.1.jsonKey, p.2.2) : Json.Key × Json × Int)) =
        s.sequences := by
    conv_rhs => rw [← List.map_id s.sequences]
    refine List.map_congr_left fun p hp => ?_
    obtain ⟨t, hkey, hspelling⟩ := h p hp
    obtain ⟨key, spelling, n⟩ := p
    dsimp only at hkey hspelling
    rw [hkey, hspelling]
    rfl
  rw [JournalState.dump, if_pos hsortable]
  exact congrArg (fun sequences => some { s with sequences }) hsame

/-- A textual state has no sequence under a key that is not a string. -/
theorem Textual.topSequence {s : JournalState} (h : Textual s) {key : Json.Key}
    (hkey : ∀ t, key ≠ .str t) : topSequence s.sequences key = 0 := by
  rw [DurableCommandJournal.topSequence]
  cases hget : s.sequences.get? key with
  | none => rfl
  | some v =>
    obtain ⟨t, ht, _⟩ := h _ (Dict.mem_of_get? hget)
    exact absurd ht (hkey t)

/-- Recording a device under a string keeps the state textual. -/
theorem Textual.bumpSequence {s : JournalState} (h : Textual s) (t : String) (n : Int)
    {p : Json.Key × Json × Int}
    (hp : p ∈ bumpSequence s.sequences (.str t) (.str t) n) :
    ∃ t, p.1 = .str t ∧ p.2.1 = .str t := by
  unfold DurableCommandJournal.bumpSequence at hp
  split at hp
  · next spelling m hget =>
    rcases Dict.mem_set hp with rfl | hold
    · obtain ⟨t', ht', hspelling⟩ := h _ (Dict.mem_of_get? hget)
      exact ⟨t', ht', hspelling⟩
    · exact h p hold
  · rcases Dict.mem_set hp with rfl | hold
    · exact ⟨t, rfl, rfl⟩
    · exact h p hold

/-! ## What an operation leaves -/

/-- An admitted record is filed under its device. -/
theorem Admits.sequenceEntry {record : CommandRecord} (h : Admits record) :
    ∃ n key, record.deviceId.hashKey = .ok key ∧ 0 < n ∧
      DurableCommandJournal.sequenceEntry record = .ok (n, some key) := by
  obtain ⟨key, hkey⟩ := h.hashable
  obtain ⟨n, hn, hpos⟩ := h.sequence
  refine ⟨n, key, hkey, hpos, ?_⟩
  simp only [DurableCommandJournal.sequenceEntry, hn, h.device, hkey, bind, Except.bind, if_true]
  rfl

/-- And what is saved of such a journal has. -/
theorem textual_persist {j : DurableCommandJournal} (h : Textual (load j.file)) (ok : Bool) :
    Textual (load (j.persist ok).1.file) := by
  rcases j.persist_cases ok with ⟨saved, hd, hp⟩ | ⟨e, hp⟩ <;> rw [hp]
  · exact textual_dump hd
  · exact h

/-- The file stays readable text. -/
theorem textual_apply {j : DurableCommandJournal} (h : Textual (load j.file)) (op : Operation)
    (ok : Bool) : Textual (load (j.apply op ok).file) := by
  cases op with
  | write commandId record now =>
    show Textual (load (j.write commandId record now ok).1.file)
    rcases j.write_file commandId record now ok with hf | ⟨saved, hd, hf⟩ <;> rw [hf]
    · exact h
    · exact textual_dump hd
  | recordEpoch epoch =>
    exact textual_persist (j := { j with state.maxEpoch := max epoch j.state.maxEpoch }) h ok
  | reset => exact textual_persist (j := { j with state := .empty }) h ok
  | restart => exact h

/-- Where the file operations succeed, a state that can be written is on disk. -/
theorem apply_file {j : DurableCommandJournal} {op : Operation} {saved : JournalState}
    (hop : op.Admitted) (h : (j.apply op true).state.dump = some saved) :
    (j.apply op true).file = .saved saved ∨
      load (j.apply op true).file = (j.apply op true).state := by
  have hpersist : ∀ k : DurableCommandJournal, (k.persist true).1.state.dump = some saved →
      (k.persist true).1.file = .saved saved := by
    intro k hk
    rw [persist_state] at hk
    simp only [persist, hk, if_true]
  cases op with
  | write commandId record now =>
    left
    obtain ⟨n, key, _, _, hentry⟩ := Admits.sequenceEntry hop
    simp only [apply, write, hentry] at h ⊢
    exact hpersist _ h
  | recordEpoch epoch => exact .inl (hpersist _ h)
  | reset => exact .inl (hpersist _ h)
  | restart => exact .inr rfl

/-! ## Runs -/

/-- A journal with the device ids recorded since the last reset or restart. -/
structure History where
  journal : DurableCommandJournal
  devices : List Json

/-- One operation. -/
def History.apply (h : History) (op : Operation) (ok : Bool) : History where
  journal := h.journal.apply op ok
  devices := match op with
    | .write _ record _ => record.deviceId :: h.devices
    | .recordEpoch _ => h.devices
    | .reset | .restart => []

/-- A sequence of operations. -/
def History.run (h : History) (ops : List (Operation × Bool)) : History :=
  ops.foldl (fun h op => h.apply op.1 op.2) h

/-- The device ids are strings. -/
def History.Strings (h : History) : Prop := ∀ d ∈ h.devices, ∃ t, d = .str t

/-- What a run keeps: the file is text, the state is text as long as the device ids are strings,
    and every device id has a sequence above 0. -/
structure History.Inv (h : History) : Prop where
  file : Textual (load h.journal.file)
  state : h.Strings → Textual h.journal.state
  filed : ∀ d ∈ h.devices, ∃ key, d.hashKey = .ok key ∧
    0 < topSequence h.journal.state.sequences key

/-- An admitted operation keeps that. -/
theorem History.Inv.apply {h : History} (hI : h.Inv) {op : Operation} (hop : op.Admitted)
    (ok : Bool) : (h.apply op ok).Inv := by
  refine ⟨textual_apply hI.file op ok, ?_, ?_⟩
  · intro hstrings
    cases op with
    | write commandId record now =>
      have hstate := hI.state fun d hd => hstrings d (List.mem_cons_of_mem _ hd)
      obtain ⟨t, ht⟩ := hstrings record.deviceId List.mem_cons_self
      obtain ⟨n, key, hkey, _, hentry⟩ := Admits.sequenceEntry hop
      rw [ht, Json.hashKey_str] at hkey
      obtain rfl := Except.ok.inj hkey
      show Textual (h.journal.write commandId record now ok).1.state
      intro p hp
      obtain ⟨_, _, ⟨⟨e, he⟩, _⟩ | ⟨entry, hentry', hseq, _⟩⟩ :=
        h.journal.write_state commandId record now ok
      · cases hentry.symm.trans he
      · obtain rfl := Except.ok.inj (hentry.symm.trans hentry')
        rw [hseq, ht] at hp
        exact hstate.bumpSequence t n hp
    | recordEpoch epoch =>
      show Textual (h.journal.recordEpoch epoch ok).1.state
      rw [DurableCommandJournal.recordEpoch, persist_state]
      exact hI.state hstrings
    | reset =>
      show Textual (h.journal.reset ok).1.state
      rw [DurableCommandJournal.reset, persist_state]
      exact .empty
    | restart => exact hI.file
  · intro d hd
    cases op with
    | write commandId record now =>
      have hgrow := h.journal.topSequence_write_le commandId record now ok
      rcases List.mem_cons.mp hd with rfl | hold
      · obtain ⟨n, key, hkey, hpos, hentry⟩ := Admits.sequenceEntry hop
        refine ⟨key, hkey, ?_⟩
        show 0 < topSequence (h.journal.write commandId record now ok).1.state.sequences key
        obtain ⟨_, _, ⟨⟨e, he⟩, _⟩ | ⟨entry, hentry', hseq, _⟩⟩ :=
          h.journal.write_state commandId record now ok
        · cases hentry.symm.trans he
        · obtain rfl := Except.ok.inj (hentry.symm.trans hentry')
          rw [hseq, fileSequence, topSequence_bump, if_pos rfl]
          exact lt_max_of_lt_left hpos
      · obtain ⟨key, hkey, hpos⟩ := hI.filed d hold
        exact ⟨key, hkey, lt_of_lt_of_le hpos (hgrow key)⟩
    | recordEpoch epoch =>
      obtain ⟨key, hkey, hpos⟩ := hI.filed d hd
      refine ⟨key, hkey, ?_⟩
      show 0 < topSequence (h.journal.recordEpoch epoch ok).1.state.sequences key
      rw [DurableCommandJournal.recordEpoch, persist_state]
      exact hpos
    | reset => exact absurd hd List.not_mem_nil
    | restart => exact absurd hd List.not_mem_nil

/-- And so do many. -/
theorem History.Inv.run {h : History} (hI : h.Inv) {ops : List (Operation × Bool)}
    (hops : ∀ op ∈ ops, op.1.Admitted) : (h.run ops).Inv := by
  induction ops generalizing h with
  | nil => exact hI
  | cons op ops ih =>
    exact ih (hI.apply (hops op List.mem_cons_self) op.2)
      fun op' hop' => hops op' (List.mem_cons_of_mem _ hop')

/-! ## A restart -/

/-- Two journals give the same answers. -/
structure Agrees (j k : DurableCommandJournal) : Prop where
  get : ∀ c, j.get c = k.get c
  maxSequence : ∀ d, j.maxSequence d = k.maxSequence d
  maxEpoch : j.maxEpoch = k.maxEpoch
  events : j.reconciliationEvents = k.reconciliationEvents

/-- Equal states agree. -/
theorem Agrees.of_state {j k : DurableCommandJournal} (h : j.state = k.state) : j.Agrees k :=
  ⟨fun _ => by unfold DurableCommandJournal.get; rw [h],
    fun _ => by unfold DurableCommandJournal.maxSequence; rw [h],
    by unfold DurableCommandJournal.maxEpoch; rw [h],
    by unfold reconciliationEvents; rw [h]⟩

/-- A device id that is recorded is found again after a restart only if it is a string. -/
theorem History.Inv.strings {h : History} (hI : h.Inv)
    (hagrees : h.journal.Agrees (init h.journal.file)) : h.Strings := by
  intro d hd
  obtain ⟨key, hkey, hpos⟩ := hI.filed d hd
  by_contra hnot
  have hother : ∀ t, key ≠ .str t := by
    rintro t rfl
    cases d with
    | str s => exact hnot ⟨s, rfl⟩
    | float x => cases x <;> cases hkey
    | null | bool | int | arr | obj => cases hkey
  have hzero := hI.file.topSequence hother
  have hsame := hagrees.maxSequence d
  rw [maxSequence_eq hkey, maxSequence_eq hkey] at hsame
  have hlive : topSequence h.journal.state.sequences key =
      topSequence (load h.journal.file).sequences key := Except.ok.inj hsame
  omega

/-- A restart forgets nothing exactly when the device ids are strings: after every sequence of
    operations of a guard whose last file operations succeed, a journal built from the file gives
    the same answers as the live one if and only if every device id recorded since the last reset
    or restart is a string. -/
theorem reload_agrees_iff {file : JournalFile} (hfile : Textual (load file))
    {ops : List (Operation × Bool)} {op : Operation} (hops : ∀ op ∈ ops, op.1.Admitted)
    (hop : op.Admitted) :
    (History.run ⟨init file, []⟩ (ops ++ [(op, true)])).journal.Agrees
        (init (History.run ⟨init file, []⟩ (ops ++ [(op, true)])).journal.file) ↔
      (History.run ⟨init file, []⟩ (ops ++ [(op, true)])).Strings := by
  have hstart : History.Inv ⟨init file, []⟩ :=
    ⟨hfile, fun _ => hfile, fun _ hd => absurd hd List.not_mem_nil⟩
  have hrun := hstart.run hops
  have hlast : History.run ⟨init file, []⟩ (ops ++ [(op, true)]) =
      (History.run ⟨init file, []⟩ ops).apply op true := by
    simp only [History.run, List.foldl_append, List.foldl_cons, List.foldl_nil]
  rw [hlast]
  have hI := hrun.apply hop true
  refine ⟨hI.strings, fun hstrings => .of_state ?_⟩
  have hdump := (hI.state hstrings).dump
  rcases apply_file hop hdump with hsaved | hloaded
  · show _ = load _
    have hsaved' : ((History.run ⟨init file, []⟩ ops).apply op true).journal.file = .saved _ :=
      hsaved
    rw [hsaved']
    rfl
  · exact hloaded.symm

/-- The mark of `command-1` for a device. -/
def markOf (deviceId : Json) : Operation :=
  .write "command-1" (GovernedCommandGuard.executingRecord ⟨"command-1", deviceId, .int 1⟩ 0) 0

/-- The mark of a device is admitted. -/
theorem markOf_admitted {deviceId : Json} (h : deviceId.truthy = true)
    (hkey : ∃ key, deviceId.hashKey = .ok key) : (markOf deviceId).Admitted :=
  ⟨h, hkey, 1, rfl, by decide⟩

/-- A device that is named by a text. -/
theorem reload_agrees_text :
    (History.run ⟨init .missing, []⟩
        ([(markOf (.str "7"), false)] ++ [(.recordEpoch 3, true)])).journal.Agrees
      (init (History.run ⟨init .missing, []⟩
        ([(markOf (.str "7"), false)] ++ [(.recordEpoch 3, true)])).journal.file) := by
  have hfile : Textual (load .missing) := .empty
  refine (reload_agrees_iff hfile ?_ ?_).mpr ?_
  · rintro op hop
    rw [List.mem_singleton.mp hop]
    exact markOf_admitted rfl ⟨_, rfl⟩
  · exact trivial
  · intro d hd
    exact ⟨"7", List.mem_singleton.mp hd⟩

/-- The device with the number 7: its sequence 1 is forgotten by a restart. -/
theorem reload_forgets : (markOf (.int 7)).Admitted ∧
    ¬ (History.run ⟨init .missing, []⟩ [(markOf (.int 7), true)]).journal.Agrees
      (init (History.run ⟨init .missing, []⟩ [(markOf (.int 7), true)]).journal.file) := by
  refine ⟨markOf_admitted rfl ⟨_, rfl⟩, fun h => ?_⟩
  have hseven := h.maxSequence (.int 7)
  have hlive : (History.run ⟨init .missing, []⟩ [(markOf (.int 7), true)]).journal.maxSequence
      (.int 7) = .ok 1 := rfl
  have hreload : (init (History.run ⟨init .missing, []⟩
      [(markOf (.int 7), true)]).journal.file).maxSequence (.int 7) = .ok 0 := rfl
  rw [hlive, hreload] at hseven
  exact absurd hseven (by decide)

end DurableCommandJournal

end Novena

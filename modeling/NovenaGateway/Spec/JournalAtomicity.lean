import NovenaGateway.ForStd.Greatest
import NovenaGateway.Native.DeploymentSetup
import NovenaGateway.Spec.JournalReload

/-!
# Journal operations whose file cannot be written

The operations of both journals change the state in memory and then replace the file. When the
replacement raises, the file is the one it was and the memory is ahead of it. The answers of the
journal are then those before the call, and those of the file, only if they agreed before and the
operation had nothing new to say.

## Key results

- `DurableCommandJournal.atomic_iff`, `ConfigReplayJournal.atomic_iff`
- `journals_atomic_iff`: both together
-/

namespace Novena

namespace DurableCommandJournal

variable {j k l : DurableCommandJournal}

/-- What the operation returns or raises; a journal that is built again only reads. -/
def result (j : DurableCommandJournal) (op : Operation) (ok : Bool) : Py Unit :=
  match op with
  | .write commandId record now => (j.write commandId record now ok).2
  | .recordEpoch epoch => (j.recordEpoch epoch ok).2
  | .reset => (j.reset ok).2
  | .restart => .ok ()

/-- The record of a `write` does not raise itself. -/
def Operation.ReachesPersist : Operation → Prop
  | .write _ record _ => ∃ entry, sequenceEntry record = .ok entry
  | _ => True

/-- The later calls of `get`, `max_sequence` and `max_epoch` see the same. -/
structure SameView (j k : DurableCommandJournal) : Prop where
  get : ∀ c, j.get c = k.get c
  maxSequence : ∀ d, j.maxSequence d = k.maxSequence d
  maxEpoch : j.maxEpoch = k.maxEpoch

/-- Two journals look alike to each other. -/
theorem SameView.symm (h : j.SameView k) : k.SameView j :=
  ⟨fun c => (h.get c).symm, fun d => (h.maxSequence d).symm, h.maxEpoch.symm⟩

/-- And to a third one. -/
theorem SameView.trans (h : j.SameView k) (h' : k.SameView l) : j.SameView l :=
  ⟨fun c => (h.get c).trans (h'.get c), fun d => (h.maxSequence d).trans (h'.maxSequence d),
    h.maxEpoch.trans h'.maxEpoch⟩

/-- The journal answers already what the operation would make it answer. -/
def Redundant (j : DurableCommandJournal) : Operation → Prop
  | .write commandId record _ => j.get commandId = some record ∧
      ∀ n key, sequenceEntry record = .ok (n, some key) → n ≤ topSequence j.state.sequences key
  | .recordEpoch epoch => epoch ≤ j.maxEpoch
  | .reset => (∀ c, j.get c = none) ∧ (∀ d n, j.maxSequence d = .ok n → n = 0) ∧ j.maxEpoch = 0
  | .restart => False

/-- When the operation raises, the file is the old one. -/
theorem apply_of_error {op : Operation} {ok : Bool} {e : Exn} (h : j.result op ok = .error e) :
    (j.apply op ok).file = j.file := by
  cases op with
  | write commandId record now => exact write_error h
  | recordEpoch epoch =>
    have hcases := persist_cases { j with state.maxEpoch := max epoch j.state.maxEpoch } ok
    obtain ⟨_, _, hp⟩ | ⟨_, hp⟩ := hcases
    · rw [result, recordEpoch, hp] at h
      cases h
    · rw [apply, recordEpoch, hp]
  | reset =>
    have hcases := persist_cases { j with state := .empty } ok
    obtain ⟨_, _, hp⟩ | ⟨_, hp⟩ := hcases
    · rw [result, reset, hp] at h
      cases h
    · rw [apply, reset, hp]
  | restart => cases h

/-- A sequence is filed under the key of the device. -/
theorem sequenceEntry_some {record : CommandRecord} {n : Int} {key : Json.Key}
    (h : sequenceEntry record = .ok (n, some key)) :
    record.deviceId.truthy = true ∧ record.deviceId.hashKey = .ok key := by
  simp only [sequenceEntry, Except.bind_eq_ok] at h
  obtain ⟨_, _, h⟩ := h
  split at h
  · next htruthy =>
    simp only [Except.bind_eq_ok, Except.pure_eq_ok, Prod.mk.injEq, Option.some.injEq] at h
    obtain ⟨_, hkey, _, rfl⟩ := h
    exact ⟨htruthy, hkey⟩
  · simp at h

/-- The answers after an operation that raised while persisting. -/
theorem sameView_apply_iff {op : Operation} (hop : op.ReachesPersist) {ok : Bool} {e : Exn}
    (h : j.result op ok = .error e) : (j.apply op ok).SameView j ↔ j.Redundant op := by
  cases op with
  | write commandId record now =>
    -- before `persist` the write cannot fail, by hypothesis
    obtain ⟨hcommands, hepoch, ⟨⟨e', he'⟩, _⟩ | ⟨entry, hentry, hsequences, _⟩⟩ :=
      j.write_state commandId record now ok
    · obtain ⟨entry, hentry⟩ := hop
      rw [he'] at hentry
      cases hentry
    -- the view is the same when the record was there and the sequence is no news
    · constructor
      · intro hview
        -- the record is found under its id
        refine ⟨?_, ?_⟩
        · have hget := hview.get commandId
          rw [apply, get_write_self] at hget
          exact hget.symm
        -- and the maximum of its device is not below
        · intro n key hfiled
          obtain rfl := Except.ok.inj (hentry.symm.trans hfiled)
          obtain ⟨_, hkey⟩ := sequenceEntry_some hfiled
          have htop := hview.maxSequence record.deviceId
          rw [maxSequence_eq hkey, maxSequence_eq hkey, apply, hsequences, fileSequence,
            topSequence_bump, if_pos rfl] at htop
          have hmax := Except.ok.inj htop
          omega
      -- conversely
      · rintro ⟨hget, hle⟩
        refine ⟨?_, ?_, hepoch⟩
        · intro c
          show (j.write commandId record now ok).1.state.commands.get? c = j.state.commands.get? c
          rw [hcommands, Dict.set_of_get? hget]
        -- of the other devices nothing has changed, and of this one the maximum is enough
        · intro d
          cases hkey : d.hashKey with
          | error e => simp only [maxSequence, hkey, Except.map]
          | ok key =>
            rw [maxSequence_eq hkey, maxSequence_eq hkey, apply, hsequences]
            obtain ⟨n, filed⟩ := entry
            cases filed with
            | none => rfl
            | some key' =>
              rw [fileSequence, topSequence_bump]
              split
              · next heq =>
                have hn := hle n key' hentry
                rw [heq, max_eq_right hn]
              · rfl
  -- the epoch is kept as a maximum
  | recordEpoch epoch =>
    have hstate : (j.apply (.recordEpoch epoch) ok).state =
        { j.state with maxEpoch := max epoch j.state.maxEpoch } := persist_state _ _
    constructor
    · intro hview
      have hepoch := hview.maxEpoch
      rw [DurableCommandJournal.maxEpoch, hstate] at hepoch
      exact max_eq_right_iff.mp hepoch
    · intro hle
      refine ⟨?_, ?_, ?_⟩
      · intro c
        rw [DurableCommandJournal.get, hstate]
        rfl
      · intro d
        rw [DurableCommandJournal.maxSequence, hstate]
        rfl
      · rw [DurableCommandJournal.maxEpoch, hstate]
        exact max_eq_right hle
  -- an empty journal answers `none` and 0 to everything
  | reset =>
    have hstate : (j.apply .reset ok).state = .empty := persist_state _ _
    have hempty : ∀ d n, (j.apply .reset ok).maxSequence d = .ok n → n = 0 := by
      intro d n hn
      rw [DurableCommandJournal.maxSequence, hstate, Except.map_eq_ok] at hn
      obtain ⟨_, _, hn⟩ := hn
      exact hn.symm
    constructor
    · intro hview
      refine ⟨?_, ?_, ?_⟩
      · intro c
        rw [← hview.get c, DurableCommandJournal.get, hstate]
        rfl
      · intro d n hn
        rw [← hview.maxSequence d] at hn
        exact hempty d n hn
      · rw [← hview.maxEpoch, DurableCommandJournal.maxEpoch, hstate]
        rfl
    -- which a journal may have done before
    · rintro ⟨hget, hsequence, hepoch⟩
      refine ⟨?_, ?_, ?_⟩
      · intro c
        rw [hget c, DurableCommandJournal.get, hstate]
        rfl
      · intro d
        cases hkey : d.hashKey with
        | error e => simp only [DurableCommandJournal.maxSequence, hkey, Except.map]
        | ok key =>
          have hzero := hsequence d _ (maxSequence_eq hkey)
          rw [maxSequence_eq hkey, maxSequence_eq hkey, hzero, hstate]
          rfl
      · rw [hepoch, DurableCommandJournal.maxEpoch, hstate]
        rfl
  | restart => cases h

/-- A failure to persist leaves the answers of before, and those of the file, exactly when the two
    were the same and the operation was redundant. -/
theorem atomic_iff {op : Operation} (hop : op.ReachesPersist) {ok : Bool} {e : Exn}
    (h : j.result op ok = .error e) :
    ((j.apply op ok).SameView j ∧ (j.apply op ok).SameView (init (j.apply op ok).file)) ↔
      j.SameView (init j.file) ∧ j.Redundant op := by
  rw [apply_of_error h, ← sameView_apply_iff hop h]
  constructor
  · rintro ⟨hbefore, hfile⟩
    exact ⟨hbefore.symm.trans hfile, hbefore⟩
  · rintro ⟨hfile, hbefore⟩
    exact ⟨hbefore, hbefore.trans hfile⟩

end DurableCommandJournal

namespace ConfigReplayJournal

variable {j k l : ConfigReplayJournal}

/-- The operations on a journal of configuration requests. -/
inductive Operation where
  | record (idempotencyKey : String) (revision : Int) (result : UpdateResult)
  | reset

/-- The journal after one operation, and what the operation returns or raises. -/
def apply (j : ConfigReplayJournal) (op : Operation) (ok : Bool) :
    ConfigReplayJournal × Py Unit :=
  match op with
  | .record idempotencyKey revision result => j.record idempotencyKey revision result ok
  | .reset => j.reset ok

/-- The later calls of `get` and `max_revision` see the same. -/
structure SameView (j k : ConfigReplayJournal) : Prop where
  get : ∀ key, j.get key = k.get key
  maxRevision : j.state.maxRevision = k.state.maxRevision

theorem SameView.symm (h : j.SameView k) : k.SameView j :=
  ⟨fun key => (h.get key).symm, h.maxRevision.symm⟩

theorem SameView.trans (h : j.SameView k) (h' : k.SameView l) : j.SameView l :=
  ⟨fun key => (h.get key).trans (h'.get key), h.maxRevision.trans h'.maxRevision⟩

/-- The journal answers already what the operation would make it answer. A request that is not
    newer than any of a full journal is dropped as soon as it is recorded. -/
def Redundant (j : ConfigReplayJournal) : Operation → Prop
  | .record idempotencyKey revision result => revision ≤ j.state.maxRevision ∧
      (j.get idempotencyKey = some ⟨revision, result⟩ ∧ j.state.requests.length ≤ 500 ∨
        j.get idempotencyKey = none ∧ j.state.requests.length = 500 ∧
          ∀ p ∈ j.state.requests, revision ≤ p.2.revision)
  | .reset => (∀ key, j.get key = none) ∧ j.state.maxRevision = 0

/-- When the operation raises, the file is the old one and the memory is the new one. -/
theorem apply_of_error {op : Operation} {ok : Bool} {e : Exn} (h : (j.apply op ok).2 = .error e) :
    (j.apply op ok).1.file = j.file ∧ (j.apply op ok).1.state = match op with
      | .record idempotencyKey revision result => ⟨max revision j.state.maxRevision,
          pruned (j.state.requests.set idempotencyKey ⟨revision, result⟩)⟩
      | .reset => .empty := by
  cases op with
  | record idempotencyKey revision result =>
    cases ok with
    | false => exact ⟨rfl, rfl⟩
    | true => cases h
  | reset =>
    cases ok with
    | false => exact ⟨rfl, rfl⟩
    | true => cases h

section Pruning

variable {requests : Dict String ReplayEntry} {key : String} {entry : ReplayEntry}

/-- A short table is left as it is. -/
theorem pruned_of_length_le (h : requests.length ≤ 500) : pruned requests = requests := by
  rw [pruned, if_neg (by omega)]

/-- A table whose answers survive a new entry and the pruning had room for it, or dropped it. -/
theorem fits_of_pruned (hnodup : (requests.map Prod.fst).Nodup)
    (hsame : ∀ c, (pruned (requests.set key entry)).get? c = requests.get? c) :
    requests.get? key = some entry ∧ requests.length ≤ 500 ∨
      requests.get? key = none ∧ requests.length = 500 ∧
        ∀ p ∈ requests, entry.revision ≤ p.2.revision := by
  -- without pruning the entry must have been there
  by_cases hlength : (requests.set key entry).length ≤ 500
  · rw [pruned_of_length_le hlength] at hsame
    have hget := hsame key
    rw [Dict.get?_set_self] at hget
    rw [Dict.set_of_get? hget.symm] at hlength
    exact .inl ⟨hget.symm, hlength⟩
  -- with it, as many were dropped as were too many
  right
  have hkept := List.length_greatest (fun p : String × ReplayEntry => p.2.revision) 500
    (requests.set key entry)
  obtain ⟨dropped, hperm, hle⟩ := List.greatest_append_dropped
    (fun p : String × ReplayEntry => p.2.revision) 500 (requests.set key entry)
  change (pruned (requests.set key entry)).length = _ at hkept
  change (pruned (requests.set key entry) ++ dropped).Perm _ at hperm
  change ∀ a ∈ pruned (requests.set key entry), _ at hle
  generalize pruned (requests.set key entry) = kept at *
  -- every entry there was is still found, so it is among those that were kept
  have hsubset : requests ⊆ kept := by
    rintro ⟨c, v⟩ hp
    exact Dict.mem_of_get? ((hsame c).trans (Dict.get?_of_mem hnodup hp))
  have hcount := (List.subperm_of_subset (hnodup.of_map) hsubset).length_le
  -- an old entry under the key leaves 500 of them, and nothing to prune
  cases hget : requests.get? key with
  | some old =>
    have hsame := Dict.length_set_of_get? hget entry
    omega
  -- a new one is the 501st, and is the one dropped
  | none =>
    rw [Dict.set_of_get?_eq_none hget] at hlength hkept hperm
    rw [List.length_append, List.length_singleton] at hlength hkept
    refine ⟨rfl, by omega, ?_⟩
    have hnew : (key, entry) ∈ kept ++ dropped := hperm.mem_iff.mpr (by simp)
    obtain hnew | hnew := List.mem_append.mp hnew
    · -- the new entry would be found as well
      have hnone := (hsame key).trans hget
      exact absurd (List.mem_map_of_mem (f := Prod.fst) hnew)
        (Dict.notMem_keys_of_get?_eq_none hnone)
    · exact fun p hp => hle p (hsubset hp) (key, entry) hnew

/-- An entry that is not newer than any of a full table is dropped. -/
theorem pruned_of_full (hnodup : (requests.map Prod.fst).Nodup) (hget : requests.get? key = none)
    (hfull : requests.length = 500) (hold : ∀ p ∈ requests, entry.revision ≤ p.2.revision)
    (c : String) : (pruned (requests.set key entry)).get? c = requests.get? c := by
  have hnew : ((requests ++ [(key, entry)]).map Prod.fst).Nodup :=
    Dict.nodup_append_new hnodup (Dict.notMem_keys_of_get?_eq_none hget) entry
  have hperm := List.greatest_append_perm (fun p : String × ReplayEntry => p.2.revision)
    hnew.of_map hold
  rw [hfull] at hperm
  rw [Dict.set_of_get?_eq_none hget]
  exact Dict.get?_perm hperm ((hperm.map Prod.fst).nodup_iff.mpr hnodup) c

end Pruning

/-- The answers after an operation that raised. -/
theorem sameView_apply_iff (hnodup : (j.state.requests.map Prod.fst).Nodup) {op : Operation}
    {ok : Bool} {e : Exn} (h : (j.apply op ok).2 = .error e) :
    (j.apply op ok).1.SameView j ↔ j.Redundant op := by
  obtain ⟨_, hstate⟩ := apply_of_error h
  cases op with
  -- the result is recorded and pruned
  | record idempotencyKey revision result =>
    dsimp only at hstate
    constructor
    · intro hview
      have hrevision := hview.maxRevision
      rw [hstate] at hrevision
      refine ⟨max_eq_right_iff.mp hrevision, fits_of_pruned hnodup ?_⟩
      intro c
      have hget := hview.get c
      rw [ConfigReplayJournal.get, hstate] at hget
      exact hget
    · rintro ⟨hrevision, hfits⟩
      refine ⟨?_, ?_⟩
      · intro c
        rw [ConfigReplayJournal.get, hstate]
        -- the entry was there, or is the one that goes
        obtain ⟨hget, hlength⟩ | ⟨hget, hfull, hold⟩ := hfits
        · show (pruned _).get? c = _
          rw [Dict.set_of_get? hget, pruned_of_length_le hlength]
          rfl
        · exact pruned_of_full hnodup hget hfull hold c
      · rw [hstate]
        exact max_eq_right hrevision
  -- the journal is emptied
  | reset =>
    dsimp only at hstate
    constructor
    · intro hview
      refine ⟨?_, ?_⟩
      · intro key
        rw [← hview.get key, ConfigReplayJournal.get, hstate]
        rfl
      · rw [← hview.maxRevision, hstate]
        rfl
    · rintro ⟨hget, hrevision⟩
      refine ⟨?_, ?_⟩
      · intro key
        rw [hget key, ConfigReplayJournal.get, hstate]
        rfl
      · rw [hrevision, hstate]
        rfl

/-- A failure to persist leaves the answers of before, and those of the file, exactly when the two
    were the same and the operation was redundant. -/
theorem atomic_iff (hnodup : (j.state.requests.map Prod.fst).Nodup) {op : Operation} {ok : Bool}
    {e : Exn} (h : (j.apply op ok).2 = .error e) :
    ((j.apply op ok).1.SameView j ∧ (j.apply op ok).1.SameView (init (j.apply op ok).1.file)) ↔
      j.SameView (init j.file) ∧ j.Redundant op := by
  rw [(apply_of_error h).1, ← sameView_apply_iff hnodup h]
  constructor
  · rintro ⟨hbefore, hfile⟩
    exact ⟨hbefore.symm.trans hfile, hbefore⟩
  · rintro ⟨hfile, hbefore⟩
    exact ⟨hbefore, hbefore.trans hfile⟩

end ConfigReplayJournal

/-- A journal with one command, of a device whose id is a string. -/
def mixedDevices : DurableCommandJournal :=
  ((DurableCommandJournal.init .missing).apply (DurableCommandJournal.markOf (.str "pump")) true)

/-- A journal with one request. -/
def oneRequest : ConfigReplayJournal :=
  ((ConfigReplayJournal.init none).apply (.record "request-1" 3 ⟨.success, none, [], []⟩) true).1

/-- In either journal, when an operation raises because persisting failed, the answers are those of
    before and those of the file if and only if memory and file gave the same answers before and
    the operation was redundant. -/
theorem journals_atomic_iff (ok : Bool) (e : Exn) :
    (∀ (j : DurableCommandJournal) (op : DurableCommandJournal.Operation),
      op.ReachesPersist → j.result op ok = .error e →
      ((j.apply op ok).SameView j ∧ (j.apply op ok).SameView (.init (j.apply op ok).file) ↔
        j.SameView (.init j.file) ∧ j.Redundant op)) ∧
    ∀ (j : ConfigReplayJournal) (op : ConfigReplayJournal.Operation),
      (j.state.requests.map Prod.fst).Nodup → (j.apply op ok).2 = .error e →
      ((j.apply op ok).1.SameView j ∧ (j.apply op ok).1.SameView (.init (j.apply op ok).1.file) ↔
        j.SameView (.init j.file) ∧ j.Redundant op) :=
  ⟨fun _ _ hop h => DurableCommandJournal.atomic_iff hop h,
    fun _ _ hnodup h => ConfigReplayJournal.atomic_iff hnodup h⟩

/-- The same command and the same request once more, whose files cannot be written: nothing is
    lost. -/
theorem journals_atomic_repeated :
    (mixedDevices.apply (DurableCommandJournal.markOf (.str "pump")) false).SameView mixedDevices ∧
      (oneRequest.apply (.record "request-1" 3 ⟨.success, none, [], []⟩) false).1.SameView
        oneRequest := by
  have hcommands : mixedDevices.SameView (.init mixedDevices.file) :=
    ⟨fun _ => rfl, fun _ => rfl, rfl⟩
  have hrequests : oneRequest.SameView (.init oneRequest.file) := ⟨fun _ => rfl, rfl⟩
  have hagain : mixedDevices.Redundant (DurableCommandJournal.markOf (.str "pump")) := by
    refine ⟨rfl, fun n key hfiled => ?_⟩
    cases hfiled
    exact le_of_eq rfl
  obtain ⟨hcommand, -⟩ := ((journals_atomic_iff false .osError).1 mixedDevices
    (DurableCommandJournal.markOf (.str "pump")) ⟨_, rfl⟩ rfl).mpr ⟨hcommands, hagain⟩
  obtain ⟨hrequest, -⟩ := ((journals_atomic_iff false .osError).2 oneRequest
    (.record "request-1" 3 ⟨.success, none, [], []⟩) (by decide) rfl).mpr
      ⟨hrequests, by decide, .inl ⟨rfl, by decide⟩⟩
  exact ⟨hcommand, hrequest⟩

/-- An epoch whose file cannot be written, a command whose device cannot be sorted among the
    others, and a configuration whose result cannot be written are all answered from memory. -/
theorem failed_updates_are_seen :
    ((DurableCommandJournal.init .missing).result (.recordEpoch 5) false = .error .osError ∧
      ((DurableCommandJournal.init .missing).apply (.recordEpoch 5) false).maxEpoch = 5 ∧
      (DurableCommandJournal.init .missing).maxEpoch = 0) ∧
    (mixedDevices.result (DurableCommandJournal.markOf (.int 7)) true = .error .typeError ∧
      (mixedDevices.apply (DurableCommandJournal.markOf (.int 7)) true).maxSequence (.int 7) =
        .ok 1 ∧ mixedDevices.maxSequence (.int 7) = .ok 0) ∧
    (((ConfigReplayJournal.init none).apply
        (.record "request-1" 3 ⟨.success, none, [], []⟩) false).2 = .error .osError ∧
      ((ConfigReplayJournal.init none).apply
        (.record "request-1" 3 ⟨.success, none, [], []⟩) false).1.state.maxRevision = 3 ∧
      (ConfigReplayJournal.init none).state.maxRevision = 0) :=
  ⟨⟨rfl, rfl, rfl⟩, ⟨rfl, rfl, rfl⟩, rfl, rfl, rfl⟩

end Novena

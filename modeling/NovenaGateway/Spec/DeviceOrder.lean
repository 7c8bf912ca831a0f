import NovenaGateway.ForStd.OrderedLock
import NovenaGateway.Spec.CommandWorkers
import NovenaGateway.Spec.JsonText

/-!
# Serial and ordered control of one device

The workers, the device locks and the journal's sequence table are sections under per-key
locks: a worker is inside the section of its lock key, a worker that is about to call its
handler is armed with its sequence number, and the recorded number of a key is the journal's
maximum. `RpcState.Orderly.step` matches every action by section steps, as long as the sequence
number is still fresh when `mark_executing` records it; the code checks that only on receipt.

The locks are keyed by the device id as it is spelled, and one device can be spelled as a
string and as a number. The journal's file cannot hold keys of both kinds, so a second
spelling fails in `mark_executing` (`RpcState.Filed.step`).

Key results:
- `RpcState.serial_ordered`
- `RpcState.overtaken`
-/

namespace Novena

open DurableCommandJournal OrderedLock

/-! ## The section a worker is in -/

/-- A worker that holds its lock. -/
def Pc.inside : Pc → Bool
  | .start | .failing _ => false
  | _ => true

/-- A busy worker holds its lock. -/
theorem Pc.inside_of_busy {pc : Pc} (h : pc.busy = true) : pc.inside = true := by
  cases pc <;> first | rfl | simp [busy] at h

namespace Worker

/-- The key whose section a governed worker is inside of. -/
def insideKey (w : Worker) : Option Json.Key :=
  if w.job.governed ∧ w.pc.inside then w.job.lockKey.toOption else none

/-- The sequence number a governed worker is about to start with. -/
def armedSequence (w : Worker) : Option Int :=
  match w.pc with
  | .ready => if w.job.governed then w.job.sequence? else none
  | _ => none

/-- Only a worker that is ready has a sequence it may still record. -/
theorem armedSequence_of_not_ready {w : Worker} (h : w.pc ≠ .ready) : w.armedSequence = none := by
  simp only [armedSequence]

/-- A read has no section. -/
theorem insideKey_ungoverned {w : Worker} (h : ¬w.job.governed = true) : w.insideKey = none := by
  simp [insideKey, h]

/-- And no sequence. -/
theorem armedSequence_ungoverned {w : Worker} (h : ¬w.job.governed = true) :
    w.armedSequence = none := by
  simp only [armedSequence, h]
  split <;> rfl

/-- Moving on inside the block keeps the section. -/
theorem insideKey_busy {w : Worker} {pc : Pc} (h : w.pc.inside = true) (hpc : pc.inside = true) :
    insideKey { w with pc } = w.insideKey := by
  simp [insideKey, h, hpc]

end Worker

/-- The key and sequence number of a governed job. -/
def Job.section? (job : Job) : Option (Json.Key × Int) := do
  if job.governed then
    let key ← job.lockKey.toOption
    let n ← job.sequence?
    return (key, n)
  else none

/-- The section of a job is its device with its sequence. -/
theorem Job.section?_eq_some {job : Job} {key : Json.Key} {n : Int}
    (h : job.section? = some (key, n)) :
    job.lockKey.toOption = some key ∧ job.sequence? = some n := by
  simp only [Job.section?] at h
  split at h
  · simp only [Option.bind_eq_bind, Option.bind_eq_some_iff, Option.pure_def, Option.some.injEq,
      Prod.mk.injEq] at h
    obtain ⟨_, hk, _, hn, rfl, rfl⟩ := h
    exact ⟨hk, hn⟩
  · cases h

/-- The sections started in a history. -/
def startedSections (trace : List Event) : List (Json.Key × Int) :=
  (invokedJobs trace).filterMap Job.section?

/-- The sections of a longer trace. -/
theorem startedSections_append (trace es : List Event) :
    startedSections (trace ++ es) = startedSections trace ++ startedSections es := by
  simp only [startedSections, invokedJobs_append, List.filterMap_append]

/-- Silent events start none. -/
theorem startedSections_silent {es : List Event} (h : ∀ e ∈ es, e.silent = true) :
    startedSections es = [] := by
  simp only [startedSections, (silent_jobs h).1, List.filterMap_nil]

/-- A governed worker as the rest of the run relies on it: its command was accepted, one that
    is about to start has a sequence number, and one whose handler runs was invoked. -/
structure Worker.Known (trace : List Event) (w : Worker) : Prop where
  accepted : w.job ∈ acceptedJobs trace
  numbered : w.pc = .ready → ∃ n, w.job.sequence? = some n
  invoked : w.pc = .running → w.job ∈ invokedJobs trace

namespace GovernedCommandGuard

variable {g g' : GovernedCommandGuard} {job : Job}

/-- The recorded maximum of every key. -/
def recorded (g : GovernedCommandGuard) (key : Json.Key) : Int :=
  topSequence g.journal.state.sequences key

/-- A mark never lowers a recorded maximum. -/
theorem Marked.recorded_le {r : Py Unit} (h : g.Marked job g' r) (key : Json.Key) :
    g.recorded key ≤ g'.recorded key := by
  -- either the mark raised before it wrote, or it is one `write`
  obtain ⟨rfl, _⟩ | ⟨c, record, now, ok, _, _, _, rfl, _⟩ := h.write
  · exact le_refl _
  · exact topSequence_write_le _ _ _ _ _ _

/-- A mark that returned normally has recorded the sequence number of its command. -/
theorem Marked.recorded_ok (h : g.Marked job g' (.ok ())) {key : Json.Key}
    (htruthy : job.deviceId.truthy = true) (hkey : job.deviceId.hashKey = .ok key) :
    ∃ n, job.sequence? = some n ∧ n ≤ g'.recorded key := by
  obtain ⟨_, hr⟩ | ⟨c, record, now, ok, _, hd, hs, rfl, hr⟩ := h.write
  · exact absurd rfl hr
  obtain ⟨_, _, ⟨⟨e, he⟩, _⟩ | ⟨entry, hentry, hseq, _⟩⟩ := g.journal.write_state c record now ok
  · -- a record whose sequence cannot be read makes `write` raise
    simp only [DurableCommandJournal.write, he] at hr
    cases hr
  -- the sequence and the key are those of the job, since the record repeats its fields
  · simp only [sequenceEntry, hd, htruthy, if_true, hkey, hs, Except.bind_eq_ok,
      Except.pure_eq_ok] at hentry
    obtain ⟨n, hn, k, hk, rfl⟩ := hentry
    cases hk
    refine ⟨n, by simp [Job.sequence?, hn, Except.toOption], ?_⟩
    simp only [recorded, hseq, fileSequence, topSequence_bump, if_true]
    exact le_max_left _ _

/-- The sequence table has an entry under a key. -/
def files (g : GovernedCommandGuard) (key : Json.Key) : Prop :=
  (g.journal.state.sequences.get? key).isSome = true

/-- A key with an entry keeps one. -/
theorem files_fileSequence {sequences : Dict Json.Key (Json × Int)} {key : Json.Key}
    (h : (sequences.get? key).isSome = true) (deviceId : Json) (entry : Int × Option Json.Key) :
    ((fileSequence sequences deviceId entry).get? key).isSome = true := by
  obtain ⟨n, _ | k⟩ := entry
  · exact h
  · simp only [fileSequence, bumpSequence]
    split <;> exact Dict.get?_set_isSome h _ _

/-- A mark never removes an entry. -/
theorem Marked.files_mono {r : Py Unit} (h : g.Marked job g' r) {key : Json.Key}
    (hf : g.files key) : g'.files key := by
  -- as for the maxima: no write, or one
  obtain ⟨rfl, _⟩ | ⟨c, record, now, ok, _, _, _, rfl, _⟩ := h.write
  · exact hf
  · simp only [files]
    obtain ⟨_, _, ⟨_, hs, _⟩ | ⟨entry, _, hs, _⟩⟩ := g.journal.write_state c record now ok
    · rw [hs]; exact hf
    · rw [hs]; exact files_fileSequence hf _ _

/-- A mark that returned normally has filed its device. -/
theorem Marked.files_ok (h : g.Marked job g' (.ok ())) {key : Json.Key}
    (htruthy : job.deviceId.truthy = true) (hkey : job.deviceId.hashKey = .ok key) :
    g'.files key := by
  obtain ⟨_, hr⟩ | ⟨c, record, now, ok, _, hd, _, rfl, hr⟩ := h.write
  · exact absurd rfl hr
  obtain ⟨_, _, ⟨⟨e, he⟩, _⟩ | ⟨entry, hentry, hseq, _⟩⟩ := g.journal.write_state c record now ok
  -- `write` raises
  · simp only [DurableCommandJournal.write, he] at hr
    cases hr
  -- or it has filed the entry
  · simp only [sequenceEntry, hd, htruthy, if_true, hkey, Except.bind_eq_ok,
      Except.pure_eq_ok] at hentry
    obtain ⟨n, _, k, hk, rfl⟩ := hentry
    cases hk
    simp only [files, hseq, fileSequence, bumpSequence]
    split <;> simp

/-- A file is written only when its keys can be sorted: all of them strings, or none. -/
theorem Marked.one_kind (h : g.Marked job g' (.ok ())) {key key' : Json.Key}
    (hk : g'.files key) (hk' : g'.files key') : key.isStr = key'.isStr := by
  obtain ⟨_, hr⟩ | ⟨c, record, now, ok, _, _, _, rfl, hr⟩ := h.write
  · exact absurd rfl hr
  -- a normal return means that the state was dumped, so its keys could be sorted
  obtain ⟨saved, hdump, _⟩ := write_ok hr.symm
  simp only [JournalState.dump] at hdump
  split at hdump
  · next hsort =>
    have hmem := Dict.mem_keys_of_get?_isSome hk
    have hmem' := Dict.mem_keys_of_get?_isSome hk'
    simp only [sortableKeys, Bool.or_eq_true, List.all_eq_true] at hsort
    rcases hsort with hall | hall
    -- all keys are strings
    · have hstr : ∀ k ∈ g.journal.write c record now ok |>.1.state.sequences.map Prod.fst,
          k.isStr = true := by
        intro k hk
        have := hall k hk
        cases k <;> simp_all [Json.Key.isStr]
      rw [hstr key hmem, hstr key' hmem']
    -- or none is
    · have hnum : ∀ k ∈ g.journal.write c record now ok |>.1.state.sequences.map Prod.fst,
          k.isStr = false := by
        intro k hk
        have := hall k hk
        cases k <;> simp_all [Json.Key.isStr]
      rw [hnum key hmem, hnum key' hmem']
  · cases hdump

/-- A policy installation leaves the sequence table alone. -/
theorem installPolicy_sequences (g : GovernedCommandGuard) (cfg : GuardConfig) (wire : Json)
    (fileOk ok : Bool) : (g.installPolicy cfg wire fileOk ok).1.journal.state.sequences =
      g.journal.state.sequences := by
  simp only [installPolicy]
  split
  -- the policy was refused
  · rfl
  -- it was accepted, and its file was written or not
  · split
    · simp only [DurableCommandJournal.recordEpoch, persist_state]
    · rfl

/-- A new policy leaves the recorded maxima as they are. -/
theorem installPolicy_recorded (g : GovernedCommandGuard) (cfg : GuardConfig) (wire : Json)
    (fileOk ok : Bool) : (g.installPolicy cfg wire fileOk ok).1.recorded = g.recorded := by
  funext key
  simp only [recorded, installPolicy_sequences]

end GovernedCommandGuard

/-- Restarts and claim resets, after which the sequence table is not the one before. -/
def Label.isRestart : Label → Bool
  | .crash | .reset .. => true
  | _ => false

namespace RpcState

/-- The workers, the sequence table and the history as sections under the lock keys. -/
def sections (s : RpcState) : Sections Nat Json.Key Int where
  inside := s.workers.view Worker.insideKey
  armed := s.workers.view Worker.armedSequence
  recorded := s.guard.recorded
  started := startedSections s.trace

variable {cfg : RpcConfig} {s s' : RpcState}

/-- The sections after a worker has moved. -/
theorem sections_of_set {i : Nat} {w : Worker} (h : s'.workers = s.workers.set i w) :
    s'.sections =
      { inside := Function.update s.sections.inside i w.insideKey
        armed := Function.update s.sections.armed i w.armedSequence
        recorded := s'.guard.recorded, started := startedSections s'.trace } := by
  simp only [sections, h, Dict.view_set]

/-- And when it has ended. -/
theorem sections_of_erase {i : Nat} (h : s'.workers = s.workers.erase i) :
    s'.sections =
      { inside := Function.update s.sections.inside i none
        armed := Function.update s.sections.armed i none
        recorded := s'.guard.recorded, started := startedSections s'.trace } := by
  simp only [sections, h, Dict.view_erase]

/-- The invariant of the runs in which sequence numbers are fresh. -/
structure Orderly (s : RpcState) : Prop where
  workers : ∀ i w, s.workers.get? i = some w → w.job.governed = true → w.Known s.trace
  locked : ∀ i key, s.sections.inside i = some key → key ∈ s.heldLocks
  accepted : ∀ job ∈ acceptedJobs s.trace, job.Admitted
  invoked : ∀ job ∈ invokedJobs s.trace, job ∈ acceptedJobs s.trace ∧ ∃ p, job.section? = some p
  inv : Inv s.sections

/-- The condition the code does not enforce: when `mark_executing` records a command, its
    sequence number is still above the recorded maximum of its device. -/
def SequenceFresh (s : RpcState) : Label → Prop
  | .markExecuting i _ _ => ∀ w ∈ s.workers.get? i, ∀ key ∈ w.job.lockKey.toOption,
      ∀ n ∈ w.job.sequence?, s.guard.recorded key < n
  | _ => True

instance (s : RpcState) : (a : Label) → Decidable (s.SequenceFresh a)
  | .markExecuting .. => by dsimp only [SequenceFresh]; infer_instance
  | .deliver _ | .acquire _ | .prerequisites .. | .call _ | .handlerReturn ..
  | .markTerminal .. | .finish _ | .abort .. | .crash | .reset .. | .installPolicy .. =>
    .isTrue trivial

/-- A worker of a governed command has a lock key. -/
theorem Orderly.lockKey (hO : Orderly s) {i : Nat} {w : Worker} (hw : s.workers.get? i = some w)
    (hg : w.job.governed = true) :
    w.job.deviceId.truthy = true ∧
      ∃ key, w.job.lockKey = .ok key ∧ w.job.deviceId.hashKey = .ok key :=
  hO.accepted w.job (hO.workers i w hw hg).accepted hg

/-- Where a worker came from: the worker before it has its job, is ready only with a sequence
    number, and runs its handler only if it did before. -/
def Continues (s s' : RpcState) : Prop :=
  ∀ i w', s'.workers.get? i = some w' → ∃ w, s.workers.get? i = some w ∧ w'.job = w.job ∧
    (w.job.governed = true → w'.pc = .ready → ∃ n, w.job.sequence? = some n) ∧
    (w'.pc = .running → w.pc = .running)

/-- Most actions keep the jobs of the workers and add silent events. -/
private theorem Orderly.of_quiet (hO : Orderly s) {es : List Event}
    (hes : ∀ e ∈ es, e.silent = true) (htrace : s'.trace = s.trace ++ es)
    (hworkers : Continues s s')
    (hlocked : ∀ i key, s'.sections.inside i = some key → key ∈ s'.heldLocks)
    (hinv : Inv s'.sections) : Orderly s' := by
  -- silent events accept and invoke nothing
  have haccepted : acceptedJobs s'.trace = acceptedJobs s.trace := by
    rw [htrace, acceptedJobs_append, (silent_jobs hes).2, List.append_nil]
  have hinvoked : invokedJobs s'.trace = invokedJobs s.trace := by
    rw [htrace, invokedJobs_append, (silent_jobs hes).1, List.append_nil]
  refine ⟨?_, hlocked, haccepted ▸ hO.accepted, ?_, hinv⟩
  -- a worker after the step is one before it, with the same job
  · intro i w' hw' hg
    obtain ⟨w, hw, hjob, hready, hrun⟩ := hworkers i w' hw'
    rw [hjob] at hg
    have hknown := hO.workers i w hw hg
    exact ⟨by rw [hjob, haccepted]; exact hknown.accepted, by rw [hjob]; exact hready hg,
      fun h => by rw [hjob, hinvoked]; exact hknown.invoked (hrun h)⟩
  · rw [haccepted, hinvoked]
    exact hO.invoked

/-- Workers that are left alone continue. -/
private theorem Orderly.continues_self (hO : Orderly s) {i : Nat} {w : Worker}
    (hw : s.workers.get? i = some w) : ∃ w₀, s.workers.get? i = some w₀ ∧ w.job = w₀.job ∧
      (w₀.job.governed = true → w.pc = .ready → ∃ n, w₀.job.sequence? = some n) ∧
      (w.pc = .running → w₀.pc = .running) :=
  ⟨w, hw, rfl, fun hg hpc => (hO.workers i w hw hg).numbered hpc, id⟩

/-- Worker `i` goes on with its job. -/
private theorem Orderly.continues_set (hO : Orderly s) {i : Nat} {w : Worker} {pc : Pc}
    (hw : s.workers.get? i = some w) (hset : s'.workers = s.workers.set i { w with pc })
    (hready : w.job.governed = true → pc = .ready → ∃ n, w.job.sequence? = some n)
    (hrun : pc ≠ .running) : Continues s s' := by
  intro j w' h
  rw [hset] at h
  -- worker `i` itself
  obtain ⟨rfl, rfl⟩ | ⟨_, h⟩ := Dict.of_get?_set h
  · exact ⟨w, hw, rfl, hready, fun h => absurd h hrun⟩
  -- another worker
  · exact hO.continues_self h

/-- Worker `i` ends. -/
private theorem Orderly.continues_erase (hO : Orderly s) {i : Nat}
    (herase : s'.workers = s.workers.erase i) : Continues s s' := by
  intro j w' h
  rw [herase] at h
  exact hO.continues_self (Dict.of_get?_erase h).2

/-- Releasing the lock of a worker that leaves its section keeps every other section locked. -/
private theorem locked_unlock (hO : Orderly s) {u : RpcState} (hu : u.heldLocks = s.heldLocks)
    {i : Nat} {w : Worker} (hw : s.workers.get? i = some w) (hin : w.pc.inside = true) {j : Nat}
    {key : Json.Key} (hj : Function.update s.sections.inside i none j = some key) :
    key ∈ (u.unlock w.job).heldLocks := by
  obtain ⟨hne, hj⟩ := Function.eq_some_of_update_none hj
  have hheld : key ∈ u.heldLocks := hu ▸ hO.locked j key hj
  simp only [unlock]
  split
  · next hg =>
    -- a governed worker held its own key, which nobody else may
    obtain ⟨_, k, hk, _⟩ := hO.lockKey hw hg
    simp only [release, hk, List.mem_filter, hheld, true_and, decide_eq_true_eq]
    rintro rfl
    have hi : s.sections.inside i = some key := by
      simp only [sections, Dict.view_of_get? Worker.insideKey hw]
      simp [Worker.insideKey, hg, hin, hk, Except.toOption]
    exact hne (hO.inv.exclusive j i key hj hi)
  -- an ungoverned one held none
  · exact hheld

/-- The key of a worker inside its section. -/
private theorem inside_eq (hO : Orderly s) {i : Nat} {w : Worker} (hw : s.workers.get? i = some w)
    (hg : w.job.governed = true) (hin : w.pc.inside = true) :
    ∃ key, w.job.lockKey = .ok key ∧ w.job.deviceId.hashKey = .ok key ∧
      w.insideKey = some key ∧ s.sections.inside i = some key := by
  obtain ⟨_, key, hk, hd⟩ := hO.lockKey hw hg
  have h : w.insideKey = some key := by simp [Worker.insideKey, hg, hin, hk, Except.toOption]
  exact ⟨key, hk, hd, h, by simp only [sections, Dict.view_of_get? Worker.insideKey hw, h]⟩

/-- An action that moves worker `i` inside or outside every section, with the sections the same. -/
private theorem sections_same {i : Nat} {w w' : Worker} (hw : s.workers.get? i = some w)
    (hset : s'.workers = s.workers.set i w') (hin : w'.insideKey = w.insideKey)
    (harmed : w'.armedSequence = w.armedSequence) (hrec : s'.guard.recorded = s.guard.recorded)
    (hstarted : startedSections s'.trace = startedSections s.trace) :
    s'.sections = s.sections := by
  -- the entries of `i` are written over with what they were
  rw [sections_of_set hset, hin, harmed, hrec, hstarted]
  have h₁ : s.sections.inside i = w.insideKey := Dict.view_of_get? _ hw
  have h₂ : s.sections.armed i = w.armedSequence := Dict.view_of_get? _ hw
  rw [← h₁, ← h₂, Function.update_eq_self, Function.update_eq_self]
  rfl

/-- The sections after worker `i` has left, with the sequence table grown. -/
private theorem inv_leave (hO : Orderly s) (i : Nat)
    (hrec : ∀ key, s.guard.recorded key ≤ s'.guard.recorded key)
    (heq : s'.sections =
      { inside := Function.update s.sections.inside i none
        armed := Function.update s.sections.armed i none
        recorded := s'.guard.recorded, started := startedSections s.trace }) :
    Inv s'.sections := by
  rw [heq]
  -- the table grows first, then the worker leaves
  exact (hO.inv.step (.record hrec)).step (.leave i)

/-- The recorded numbers never fall when a worker marks its command. -/
private theorem recorded_le_of {w : Worker} {guard : GovernedCommandGuard}
    (h : guard = s.guard ∨ (w.job.governed = true ∧ ∃ r, s.guard.Marked w.job guard r))
    (key : Json.Key) : s.guard.recorded key ≤ guard.recorded key := by
  obtain rfl | ⟨_, r, hm⟩ := h
  · exact le_refl _
  · exact hm.recorded_le key

/-- The accepted commands after an acceptance. -/
private theorem mem_acceptedJobs_accept {trace : List Event} {i : Nat} {r : Response}
    {job j : Job} :
    j ∈ acceptedJobs (trace ++ [.response i r, .accepted i job]) ↔
      j ∈ acceptedJobs trace ∨ (j = job ∧ job.governed = true) := by
  rw [acceptedJobs_append, List.mem_append]
  refine or_congr_right ?_
  by_cases hg : job.governed = true <;>
    simp [acceptedJobs, List.filterMap_cons, Event.acceptedJob, hg]

/-- A new worker starts outside every section. -/
private theorem Orderly.accept (hO : Orderly s) {d : Delivery} {r : Response} {job : Job}
    (hstart : RpcHandler.onRpcRequest cfg s.guard d = .started r job) :
    Orderly { s with nextId := s.nextId + 1, workers := s.workers.set s.nextId ⟨job, .start⟩
                     trace := s.trace ++ [.response s.nextId r, .accepted s.nextId job] } := by
  have hset : ({ s with nextId := s.nextId + 1, workers := s.workers.set s.nextId ⟨job, .start⟩
                        trace := s.trace ++ [.response s.nextId r, .accepted s.nextId job] } :
      RpcState).workers = s.workers.set s.nextId ⟨job, .start⟩ := rfl
  have heq := sections_of_set hset
  have hinvoked : invokedJobs [.response s.nextId r, .accepted s.nextId job] = [] := rfl
  have hstarted : startedSections [.response s.nextId r, .accepted s.nextId job] = [] := rfl
  have hout : Worker.insideKey ⟨job, .start⟩ = none := by simp [Worker.insideKey, Pc.inside]
  rw [hout, Worker.armedSequence_of_not_ready (by simp)] at heq
  simp only [startedSections_append, hstarted, List.append_nil] at heq
  refine ⟨?_, ?_, ?_, ?_, inv_leave hO s.nextId (fun _ => le_refl _) heq⟩
  · intro i w hw hg
    obtain ⟨rfl, rfl⟩ | ⟨_, hw⟩ := Dict.of_get?_set hw
    -- the new worker has just been accepted and has done nothing
    · exact ⟨mem_acceptedJobs_accept.mpr (.inr ⟨rfl, hg⟩), by simp, by simp⟩
    -- the others are where they were
    · obtain ⟨haccepted, hready, hrun⟩ := hO.workers i w hw hg
      refine ⟨mem_acceptedJobs_accept.mpr (.inl haccepted), hready, fun h => ?_⟩
      simp only [invokedJobs_append, hinvoked, List.append_nil]
      exact hrun h
  -- the lock of every section is held as before
  · rw [heq]
    exact fun j key hj => hO.locked j key (Function.eq_some_of_update_none hj).2
  · intro j hj
    -- the new command is one that `onRpcRequest` admits
    obtain hj | ⟨rfl, _⟩ := mem_acceptedJobs_accept.mp hj
    · exact hO.accepted j hj
    · exact RpcHandler.started_admitted hstart
  -- an acceptance invokes nothing
  · intro j hj
    simp only [invokedJobs_append, hinvoked, List.append_nil] at hj
    exact ⟨mem_acceptedJobs_accept.mpr (.inl (hO.invoked j hj).1), (hO.invoked j hj).2⟩

/-- The invoked commands after a call. -/
private theorem mem_invokedJobs_call {trace : List Event} {i : Nat} {job j : Job} :
    j ∈ invokedJobs (trace ++ [.invoked i job]) ↔
      j ∈ invokedJobs trace ∨ (j = job ∧ job.governed = true) := by
  rw [invokedJobs_append, List.mem_append]
  refine or_congr_right ?_
  by_cases hg : job.governed = true <;> simp [invokedJobs, Event.invokedJob, hg]

/-- A handler starts: the worker is armed, or its command is not governed. -/
private theorem Orderly.call (hO : Orderly s) {i : Nat} {w : Worker}
    (hw : s.workers.get? i = some w) (hpc : w.pc = .ready) :
    Orderly ((s.emit (.invoked i w.job)).goto i w .running) := by
  have hset : ((s.emit (.invoked i w.job)).goto i w .running).workers =
      s.workers.set i { w with pc := .running } := goto_workers _ i w _
  -- a start accepts nothing
  have haccepted : acceptedJobs (s.trace ++ [.invoked i w.job]) = acceptedJobs s.trace := by
    rw [acceptedJobs_append]
    exact List.append_nil _
  -- the worker stays in its section
  have hheld : ∀ j key, Function.update s.sections.inside i
      (Worker.insideKey { w with pc := .running }) j = some key → key ∈ s.heldLocks := by
    have hin : Worker.insideKey { w with pc := .running } = s.sections.inside i := by
      rw [Worker.insideKey_busy (by rw [hpc]; rfl) rfl]
      exact (Dict.view_of_get? _ hw).symm
    rw [hin, Function.update_eq_self]
    exact hO.locked
  have heq := sections_of_set hset
  refine ⟨?_, heq ▸ hheld, ?_, ?_, ?_⟩
  -- workers
  · intro j w' hw' hg
    rw [goto_trace, emit_trace]
    -- worker `i` runs from here on, and its start is in the trace
    obtain ⟨rfl, rfl⟩ | ⟨_, hw'⟩ := Dict.of_get?_set hw'
    · exact ⟨by rw [haccepted]; exact (hO.workers j w hw hg).accepted, by simp,
        fun _ => mem_invokedJobs_call.mpr (.inr ⟨rfl, hg⟩)⟩
    · obtain ⟨h₁, h₂, h₃⟩ := hO.workers j w' hw' hg
      exact ⟨by rw [haccepted]; exact h₁, h₂, fun h => mem_invokedJobs_call.mpr (.inl (h₃ h))⟩
  -- accepted
  · exact haccepted ▸ hO.accepted
  · intro j hj
    rw [goto_trace, emit_trace, haccepted]
    rw [goto_trace, emit_trace, mem_invokedJobs_call] at hj
    -- invoked: the new entry is the job of `i`, which was ready and so has a sequence
    obtain hj | ⟨rfl, hg⟩ := hj
    · exact hO.invoked j hj
    · obtain ⟨hmem, hn, _⟩ := hO.workers i w hw hg
      obtain ⟨n, hn⟩ := hn hpc
      obtain ⟨_, key, hk, _⟩ := hO.lockKey hw hg
      exact ⟨hmem, (key, n), by simp [Job.section?, hg, hk, hn, Except.toOption]⟩
  -- the start of a section in the abstract system, or no change of it
  · by_cases hg : w.job.governed = true
    · obtain ⟨key, hk, _, hin, hinside⟩ := inside_eq hO hw hg (by rw [hpc]; rfl)
      obtain ⟨n, hn⟩ := (hO.workers i w hw hg).numbered hpc
      have harmed : s.sections.armed i = some n := by
        simp only [sections, Dict.view_of_get? Worker.armedSequence hw]
        simp only [Worker.armedSequence, hpc, hg, if_true, hn]
      have hstarted : startedSections [.invoked i w.job] = [(key, n)] := by
        simp [startedSections, invokedJobs, Event.invokedJob, Job.section?, hg, hk, hn,
          Except.toOption]
      rw [(Worker.insideKey_busy (by rw [hpc]; rfl) rfl).trans hin, ← hinside,
        Function.update_eq_self, Worker.armedSequence_of_not_ready (by simp)] at heq
      rw [heq]
      simp only [goto_trace, emit_trace, startedSections_append, hstarted]
      exact hO.inv.step (.start i key n hinside harmed)
    -- an ungoverned worker has no section
    · have hstarted : startedSections [.invoked i w.job] = [] := by
        simp [startedSections, invokedJobs, Event.invokedJob, hg]
      have hin : Worker.insideKey { w with pc := .running } = w.insideKey := by
        rw [Worker.insideKey_ungoverned hg]
        exact Worker.insideKey_ungoverned hg
      have harmed : Worker.armedSequence { w with pc := .running } = w.armedSequence := by
        rw [Worker.armedSequence_ungoverned hg]
        exact Worker.armedSequence_ungoverned hg
      have hsame := sections_same hw hset hin harmed rfl (by
        simp only [goto_trace, emit_trace, startedSections_append, hstarted, List.append_nil])
      exact hsame ▸ hO.inv

/-- A worker enters its section with the lock, which nobody else held. -/
private theorem Orderly.lock (hO : Orderly s) {i : Nat} {w : Worker} {key : Json.Key}
    (hw : s.workers.get? i = some w) (hpc : w.pc = .start) (hg : w.job.governed = true)
    (hk : w.job.lockKey = .ok key) (hfree : key ∉ s.heldLocks) :
    Orderly { s.goto i w .locked with heldLocks := key :: s.heldLocks } := by
  have hin : Worker.insideKey { w with pc := .locked } = some key := by
    simp [Worker.insideKey, hg, Pc.inside, hk, Except.toOption]
  have harmed : s.sections.armed i = none := by
    simp only [sections, Dict.view_of_get? Worker.armedSequence hw]
    exact Worker.armedSequence_of_not_ready (by simp [hpc])
  have hset : ({ s.goto i w .locked with heldLocks := key :: s.heldLocks } : RpcState).workers =
      s.workers.set i { w with pc := .locked } := goto_workers s i w _
  have heq := sections_of_set hset
  rw [hin, show Worker.armedSequence { w with pc := .locked } = s.sections.armed i from
    harmed.symm ▸ rfl, Function.update_eq_self] at heq
  refine hO.of_quiet silent_nil (by simp)
    (hO.continues_set hw hset (fun _ h => by cases h) (fun h => by cases h))
    ?_ ?_
  -- the new worker holds the key it just took
  · rw [heq]
    intro j k hj
    obtain ⟨_, rfl⟩ | ⟨_, hj⟩ := Function.eq_some_of_update_some hj
    · exact List.mem_cons_self
    · exact List.mem_cons_of_mem _ (hO.locked j k hj)
  -- in the abstract system this is `enter`, with nobody inside
  · rw [heq]
    exact hO.inv.step (.enter i key (fun b hb => hfree (hO.locked b key hb)) harmed)

/-- A worker that only goes on stays in its section, or outside of all. -/
private theorem Orderly.advance (hO : Orderly s) {i : Nat} {w : Worker} {pc : Pc} {es : List Event}
    (hw : s.workers.get? i = some w) (hes : ∀ e ∈ es, e.silent = true) (hrun : pc ≠ .running)
    (hg : w.job.governed = true → w.pc.busy = true ∧ pc.busy = true) :
    Orderly (({ s with trace := s.trace ++ es } : RpcState).goto i w pc) := by
  have hset := goto_workers { s with trace := s.trace ++ es } i w pc
  have hready : ∀ pc' : Pc, pc'.busy = true → pc' ≠ .ready := by
    rintro _ h rfl
    simp [Pc.busy] at h
  have hkeep : Worker.insideKey { w with pc } = w.insideKey ∧
      Worker.armedSequence { w with pc } = w.armedSequence := by
    -- a busy worker keeps its key and is not armed, before and after
    by_cases hgov : w.job.governed = true
    · obtain ⟨hfrom, hto⟩ := hg hgov
      rw [Worker.insideKey_busy (Pc.inside_of_busy hfrom) (Pc.inside_of_busy hto),
        Worker.armedSequence_of_not_ready (hready _ hfrom),
        Worker.armedSequence_of_not_ready (w := { w with pc }) (hready _ hto)]
      exact ⟨rfl, rfl⟩
    -- an ungoverned worker has neither
    · rw [Worker.insideKey_ungoverned hgov, Worker.armedSequence_ungoverned hgov,
        Worker.insideKey_ungoverned (w := { w with pc }) hgov,
        Worker.armedSequence_ungoverned (w := { w with pc }) hgov]
      exact ⟨rfl, rfl⟩
  have heq := sections_same hw hset hkeep.1 hkeep.2 rfl (by
    simp only [goto_trace, startedSections_append, startedSections_silent hes, List.append_nil])
  exact hO.of_quiet hes rfl
    (hO.continues_set hw hset (fun hgov h => absurd h (hready _ (hg hgov).2)) hrun)
    (heq ▸ hO.locked) (heq ▸ hO.inv)

/-- `mark_executing` arms the section with the sequence it records. -/
private theorem Orderly.mark (hO : Orderly s) {i : Nat} {w : Worker} {now : Int} {ok : Bool}
    {guard : GovernedCommandGuard} {r : Response} (hw : s.workers.get? i = some w)
    (hpc : w.pc = .checked) (hg : w.job.governed = true) (hm : s.guard.Marked w.job guard (.ok ()))
    (ha : s.SequenceFresh (.markExecuting i now ok)) :
    Orderly ((({ s with guard } : RpcState).emit (.response i r)).goto i w .ready) := by
  -- the recorded number is fresh by hypothesis, and the mark raises the maximum to it
  obtain ⟨key, hk, hd, hin, hinside⟩ := inside_eq hO hw hg (by rw [hpc]; rfl)
  obtain ⟨n, hn, hle⟩ := hm.recorded_ok (hO.lockKey hw hg).1 hd
  have hfresh : s.guard.recorded key < n := ha w hw key (by simp [hk, Except.toOption]) n hn
  have hset : ((({ s with guard } : RpcState).emit (.response i r)).goto i w .ready).workers =
      s.workers.set i { w with pc := .ready } := goto_workers _ i w _
  have harmed : Worker.armedSequence { w with pc := .ready } = some n := by
    simp only [Worker.armedSequence, hg, if_true, hn]
  have hin' : Worker.insideKey { w with pc := .ready } = some key :=
    (Worker.insideKey_busy (by rw [hpc]; rfl) rfl).trans hin
  have heq := sections_of_set hset
  rw [hin', harmed, ← hinside, Function.update_eq_self] at heq
  have hstarted : startedSections (s.trace ++ [.response i r]) = startedSections s.trace := by
    rw [startedSections_append, startedSections_silent (silent_response i r), List.append_nil]
  refine hO.of_quiet (silent_response i r) rfl
    (hO.continues_set hw hset (fun _ _ => ⟨n, hn⟩) fun h => by cases h) ?_ ?_
  -- no lock changes hands
  · rw [heq]; exact hO.locked
  -- in the abstract system this is `arm`
  · rw [heq]
    simp only [goto_trace, goto_guard, emit_trace, emit_guard, hstarted]
    exact hO.inv.step (.arm i key n hinside hfresh hm.recorded_le hle)

/-- The record of the outcome leaves a worker in its section. -/
private theorem Orderly.file (hO : Orderly s) {i : Nat} {w : Worker} {c : Conclusion}
    {guard : GovernedCommandGuard} (hw : s.workers.get? i = some w) (hpc : w.pc.busy = true)
    (hm : s.guard.Marked w.job guard (.ok ())) :
    Orderly (({ s with guard } : RpcState).goto i w (.terminal c)) := by
  have hset : (({ s with guard } : RpcState).goto i w (.terminal c)).workers =
      s.workers.set i { w with pc := .terminal c } := goto_workers _ i w _
  have hin : Worker.insideKey { w with pc := .terminal c } = s.sections.inside i := by
    rw [Worker.insideKey_busy (Pc.inside_of_busy hpc) rfl]
    exact (Dict.view_of_get? _ hw).symm
  have harmed : Worker.armedSequence { w with pc := .terminal c } = s.sections.armed i := by
    rw [Worker.armedSequence_of_not_ready (by simp)]
    refine ((Dict.view_of_get? _ hw).trans (Worker.armedSequence_of_not_ready ?_)).symm
    intro h
    simp [h, Pc.busy] at hpc
  have heq := sections_of_set hset
  rw [hin, harmed, Function.update_eq_self, Function.update_eq_self] at heq
  refine hO.of_quiet silent_nil (by simp)
    (hO.continues_set hw hset (fun _ h => by cases h) (fun h => by cases h)) ?_ ?_
  -- neither the place nor the locks change
  · rw [heq]; exact hO.locked
  -- only the table grows
  · rw [heq]; exact hO.inv.step (.record hm.recorded_le)

/-- An exception takes a worker out of its section and releases the lock. -/
private theorem Orderly.unwind (hO : Orderly s) {i : Nat} {w : Worker} {e : Exn}
    {guard : GovernedCommandGuard} {es : List Event} (hw : s.workers.get? i = some w)
    (hpc : w.pc.busy = true) (hes : ∀ e ∈ es, e.silent = true)
    (hguard : guard = s.guard ∨ (w.job.governed = true ∧ ∃ r, s.guard.Marked w.job guard r)) :
    Orderly ((({ s with guard, trace := s.trace ++ es } : RpcState).unlock w.job).goto
      i w (.failing e)) := by
  have hset : ((({ s with guard, trace := s.trace ++ es } : RpcState).unlock w.job).goto i w
      (.failing e)).workers = s.workers.set i { w with pc := .failing e } := by
    simp only [goto_workers, unlock_workers]
  have heq := sections_of_set hset
  have hin : Worker.insideKey { w with pc := .failing e } = none := by
    simp [Worker.insideKey, Pc.inside]
  rw [hin, Worker.armedSequence_of_not_ready (by simp)] at heq
  simp only [goto_trace, unlock_trace, startedSections_append, startedSections_silent hes,
    List.append_nil] at heq
  refine hO.of_quiet hes (by simp only [goto_trace, unlock_trace])
    (hO.continues_set hw hset (fun _ h => by cases h) (fun h => by cases h)) ?_
    (inv_leave hO i ?_ heq)
  -- the lock that goes is the worker's own
  · intro j key hj
    rw [goto_heldLocks]
    refine locked_unlock hO ?_ hw (Pc.inside_of_busy hpc) (heq ▸ hj)
    rfl
  -- the mark before the exception may have raised the maximum
  · simpa only [goto_guard, unlock_guard] using recorded_le_of hguard

/-- The end of a worker does too. -/
private theorem Orderly.finish (hO : Orderly s) {i : Nat} {w : Worker} {c : Conclusion}
    {r : Response} (hw : s.workers.get? i = some w) (hpc : w.pc = .terminal c) :
    Orderly (((s.emit (.response i r)).unlock w.job).retire i) := by
  have herase : (((s.emit (.response i r)).unlock w.job).retire i).workers =
      s.workers.erase i := by
    simp only [retire_workers, unlock_workers, emit_workers]
  have heq := sections_of_erase herase
  simp only [retire_trace, unlock_trace, emit_trace, startedSections_append,
    startedSections_silent (silent_response i r),
    List.append_nil] at heq
  refine hO.of_quiet (silent_response i r)
    (by simp only [retire_trace, unlock_trace, emit_trace]) (hO.continues_erase herase) ?_
    (inv_leave hO i (by simp) heq)
  intro j key hj
  rw [retire_heldLocks]
  refine locked_unlock hO ?_ hw (by rw [hpc]; rfl) (heq ▸ hj)
  rfl

/-- A worker that failed has no section left to leave. -/
private theorem Orderly.abort (hO : Orderly s) {i : Nat} {w : Worker}
    {guard : GovernedCommandGuard} {es : List Event} (hes : ∀ e ∈ es, e.silent = true)
    (hguard : guard = s.guard ∨ (w.job.governed = true ∧ ∃ r, s.guard.Marked w.job guard r)) :
    Orderly (({ s with guard, trace := s.trace ++ es } : RpcState).retire i) := by
  have herase : (({ s with guard, trace := s.trace ++ es } : RpcState).retire i).workers =
      s.workers.erase i := retire_workers _ i
  have heq := sections_of_erase herase
  simp only [retire_trace, startedSections_append, startedSections_silent hes,
    List.append_nil] at heq
  refine hO.of_quiet hes rfl (hO.continues_erase herase) ?_
    (inv_leave hO i (recorded_le_of hguard) heq)
  rw [heq]
  exact fun j key hj => hO.locked j key (Function.eq_some_of_update_none hj).2

/-- Another policy records no sequence. -/
private theorem Orderly.policy (hO : Orderly s) (wire : Json) (fileOk ok : Bool) :
    Orderly (s.installPolicy cfg wire fileOk ok) := by
  have heq : (s.installPolicy cfg wire fileOk ok).sections = s.sections := by
    have hstarted : startedSections [.policy wire] = [] := rfl
    have hrec := s.guard.installPolicy_recorded cfg.guard wire fileOk ok
    simp only [sections, installPolicy, emit_guard, emit_workers, emit_trace,
      startedSections_append, hstarted, List.append_nil, hrec]
  exact hO.of_quiet (by simp [Event.silent]) rfl (fun _ _ hw => hO.continues_self hw)
    (heq ▸ hO.locked) (heq ▸ hO.inv)

/-- Every step keeps the sections of a device apart and in the order of the sequences. -/
theorem Orderly.step {a : Label} (hO : Orderly s) (ha : s.SequenceFresh a)
    (hrestart : a.isRestart = false) (h : step cfg s a = some s') : Orderly s' := by
  cases step_moves h with
  -- an answer without a worker
  | quiet d es hes =>
    have heq : ({ s with nextId := s.nextId + 1, trace := s.trace ++ es } : RpcState).sections =
        s.sections := by
      simp only [sections, startedSections_append, startedSections_silent hes, List.append_nil]
    exact hO.of_quiet hes rfl (fun _ _ hw => hO.continues_self hw) (heq ▸ hO.locked)
      (heq ▸ hO.inv)
  -- the thread died before it had the lock
  | doomed i w e hw hpc hk =>
    have heq := sections_of_erase (retire_workers s i)
    refine hO.of_quiet silent_nil (by simp) (hO.continues_erase (retire_workers s i))
      ?_ (inv_leave hO i (fun _ => le_refl _) heq)
    rw [heq]
    exact fun j key hj => hO.locked j key (Function.eq_some_of_update_none hj).2
  | lock i w key hw hpc hg hk hfree => exact hO.lock hw hpc hg hk hfree
  | advance a i w pc es hw hes hrun hg => exact hO.advance hw hes hrun hg
  | mark i w now ok guard r hw hpc hg hm => exact hO.mark hw hpc hg hm ha
  | file a i w c guard hw hpc hg hm => exact hO.file hw hpc hm
  | unwind a i w e guard es hw hpc hes hguard => exact hO.unwind hw hpc hes hguard
  | finish i w c r hw hpc => exact hO.finish hw hpc
  | abort a i w e guard es hw hpc hes hguard => exact hO.abort hes hguard
  -- restarts are excluded
  | crash | reset => simp [Label.isRestart] at hrestart
  | accept d r job hstart => exact hO.accept hstart
  | call i w hw hpc => exact hO.call hw hpc
  | policy wire fileOk ok => exact hO.policy wire fileOk ok

/-- `mark_executing` has recorded the job, and its handler was or may be called. -/
def Recorded (s : RpcState) (job : Job) : Prop :=
  job ∈ invokedJobs s.trace ∨
    ∃ i w, s.workers.get? i = some w ∧ w.pc = .ready ∧ w.job.governed = true ∧ w.job = job

/-- The devices of all recorded jobs are filed in the sequence table, under keys of one kind. -/
structure Filed (s : RpcState) : Prop where
  filed : ∀ job key, s.Recorded job → job.lockKey = .ok key → s.guard.files key
  one_kind : ∀ job job' key key', s.Recorded job → s.Recorded job' → job.lockKey = .ok key →
    job'.lockKey = .ok key' → key.isStr = key'.isStr

/-- Fewer records and more sequences keep the records filed. -/
private theorem Filed.mono (hF : Filed s) (hrec : ∀ job, s'.Recorded job → s.Recorded job)
    (hfiles : ∀ key, s.guard.files key → s'.guard.files key) : Filed s' where
  filed job key h hk := hfiles key (hF.filed job key (hrec job h) hk)
  one_kind job job' key key' h h' := hF.one_kind job job' key key' (hrec job h) (hrec job' h')

/-- A worker that is rewritten without becoming ready records nothing. -/
private theorem recorded_of_set {i : Nat} {w' : Worker} {job : Job}
    (hset : s'.workers = s.workers.set i w')
    (htrace : invokedJobs s'.trace = invokedJobs s.trace)
    (hready : w'.pc = .ready → w'.job.governed = true → False) (h : s'.Recorded job) :
    s.Recorded job := by
  obtain h | ⟨j, w, hw, hpc, hg, rfl⟩ := h
  -- invoked before
  · exact .inl (htrace ▸ h)
  · rw [hset] at hw
    -- or ready before: worker `i` is not, another one was
    obtain ⟨rfl, rfl⟩ | ⟨_, hw⟩ := Dict.of_get?_set hw
    · exact (hready hpc hg).elim
    · exact .inr ⟨j, w, hw, hpc, hg, rfl⟩

/-- What counts as recorded when a worker has ended did so before. -/
private theorem recorded_of_erase {i : Nat} {job : Job} (herase : s'.workers = s.workers.erase i)
    (htrace : invokedJobs s'.trace = invokedJobs s.trace) (h : s'.Recorded job) :
    s.Recorded job := by
  obtain h | ⟨j, w, hw, hpc, hg, rfl⟩ := h
  · exact .inl (htrace ▸ h)
  · rw [herase] at hw
    exact .inr ⟨j, w, (Dict.of_get?_erase hw).2, hpc, hg, rfl⟩

/-- A mark takes no entry away. -/
private theorem files_of {w : Worker} {guard : GovernedCommandGuard}
    (h : guard = s.guard ∨ (w.job.governed = true ∧ ∃ r, s.guard.Marked w.job guard r))
    (key : Json.Key) (hf : s.guard.files key) : guard.files key := by
  -- no mark
  obtain rfl | ⟨_, r, hm⟩ := h
  · exact hf
  -- or one, which only adds entries
  · exact hm.files_mono hf

/-- Silent events invoke nothing. -/
private theorem invokedJobs_silent {trace es : List Event} (hes : ∀ e ∈ es, e.silent = true) :
    invokedJobs (trace ++ es) = invokedJobs trace := by
  rw [invokedJobs_append, (silent_jobs hes).1, List.append_nil]

/-- Every step files the sequence of what it records. -/
theorem Filed.step {a : Label} (hF : Filed s) (hO : Orderly s) (hrestart : a.isRestart = false)
    (h : step cfg s a = some s') : Filed s' := by
  cases step_moves h with
  | quiet d es hes =>
    -- the records are the same
    refine hF.mono (fun job h => ?_) fun _ h => h
    exact h.imp_left (invokedJobs_silent hes ▸ ·)
  | accept d r job _ =>
    have hset : ({ s with nextId := s.nextId + 1, workers := s.workers.set s.nextId ⟨job, .start⟩
                          trace := s.trace ++ [.response s.nextId r, .accepted s.nextId job] } :
        RpcState).workers = s.workers.set s.nextId ⟨job, .start⟩ := rfl
    -- a new worker is at its start
    refine hF.mono (fun _ h => recorded_of_set hset ?_ (fun h => by cases h) h) fun _ h => h
    rw [invokedJobs_append]
    exact List.append_nil _
  | doomed i w e hw hpc hk =>
    exact hF.mono (fun _ h => recorded_of_erase (retire_workers s i) rfl h) fun _ h => h
  | lock i w key hw hpc hg hk hfree =>
    have hset : ({ s.goto i w .locked with heldLocks := key :: s.heldLocks } : RpcState).workers =
        s.workers.set i { w with pc := .locked } := goto_workers s i w _
    exact hF.mono (fun _ h => recorded_of_set hset rfl (fun h => by cases h) h) fun _ h => h
  | advance a i w pc es hw hes hrun hg =>
    -- a worker that goes on does not become ready
    have hset := goto_workers { s with trace := s.trace ++ es } i w pc
    refine hF.mono (fun _ h => recorded_of_set hset (invokedJobs_silent hes) ?_ h) fun _ h => h
    rintro rfl hgov
    cases (hg hgov).2
  | mark i w now ok guard r hw hpc hg hm =>
    -- the device of the command is filed by the mark itself
    obtain ⟨htruthy, key, hk, hd⟩ := hO.lockKey hw hg
    have hrec : ∀ job, RpcState.Recorded ((({ s with guard } : RpcState).emit
        (.response i r)).goto i w .ready) job → s.Recorded job ∨ job = w.job := by
      intro job h
      obtain h | ⟨j, w', hw', hpc', hg', rfl⟩ := h
      -- recorded before
      · exact .inl (.inl (invokedJobs_silent (silent_response i r) ▸ h))
      · obtain ⟨rfl, rfl⟩ | ⟨_, hw'⟩ := Dict.of_get?_set hw'
        -- or just now
        · exact .inr rfl
        · exact .inl (.inr ⟨j, w', hw', hpc', hg', rfl⟩)
    have hfiled : ∀ job key', RpcState.Recorded ((({ s with guard } : RpcState).emit
        (.response i r)).goto i w .ready) job → job.lockKey = .ok key' → guard.files key' := by
      intro job key' h hk'
      -- entries stay, and the new record has one
      obtain h | rfl := hrec job h
      · exact hm.files_mono (hF.filed job key' h hk')
      · rw [hk] at hk'
        cases hk'
        exact hm.files_ok htruthy hd
    -- the write succeeded, so all keys of the table are of one kind
    exact ⟨hfiled, fun job job' k k' h h' hk hk' =>
      hm.one_kind (hfiled job k h hk) (hfiled job' k' h' hk')⟩
  | call i w hw hpc =>
    -- the job was recorded when it became ready
    refine hF.mono (fun job h => ?_) fun _ h => h
    obtain h | ⟨j, w', hw', hpc', hg', rfl⟩ := h
    · obtain h | ⟨rfl, hg⟩ := mem_invokedJobs_call.mp h
      · exact .inl h
      · exact .inr ⟨i, w, hw, hpc, hg, rfl⟩
    · obtain ⟨rfl, rfl⟩ | ⟨_, hw'⟩ := Dict.of_get?_set hw'
      -- a running worker is not ready
      · cases hpc'
      · exact .inr ⟨j, w', hw', hpc', hg', rfl⟩
  | file a i w c guard hw hpc hg hm =>
    have hset : (({ s with guard } : RpcState).goto i w (.terminal c)).workers =
        s.workers.set i { w with pc := .terminal c } := goto_workers _ i w _
    exact hF.mono (fun _ h => recorded_of_set hset rfl (fun h => by cases h) h) fun _ h => hm.files_mono h
  | unwind a i w e guard es hw hpc hes hguard =>
    have hset : ((({ s with guard, trace := s.trace ++ es } : RpcState).unlock w.job).goto i w
        (.failing e)).workers = s.workers.set i { w with pc := .failing e } := by
      simp only [goto_workers, unlock_workers]
    refine hF.mono (fun _ h => recorded_of_set hset ?_ (fun h => by cases h) h) ?_
    · simp only [goto_trace, unlock_trace, invokedJobs_silent hes]
    · simpa only [goto_guard, unlock_guard] using files_of hguard
  | finish i w c r hw hpc =>
    have herase : (((s.emit (.response i r)).unlock w.job).retire i).workers =
        s.workers.erase i := by
      simp only [retire_workers, unlock_workers, emit_workers]
    refine hF.mono (fun _ h => recorded_of_erase herase ?_ h) (by simp)
    simp only [retire_trace, unlock_trace, emit_trace, invokedJobs_silent (silent_response i r)]
  | abort a i w e guard es hw hpc hes hguard =>
    have herase := retire_workers { s with guard, trace := s.trace ++ es } i
    exact hF.mono (fun _ h => recorded_of_erase herase (invokedJobs_silent hes) h) (files_of hguard)
  | crash | reset => simp [Label.isRestart] at hrestart
  | policy wire fileOk ok =>
    refine hF.mono (fun _ h => h.imp_left fun h => ?_) fun key h => ?_
    · rw [← invokedJobs_silent (show ∀ e ∈ [Event.policy wire], e.silent = true by
        simp [Event.silent])]
      exact h
    · simpa only [GovernedCommandGuard.files, installPolicy, emit_guard,
        GovernedCommandGuard.installPolicy_sequences] using h

/-! ## Runs -/

/-- After the start no section is open. -/
theorem Booted.orderly (h : Booted cfg s) : Orderly s := by
  obtain ⟨policyFile, journalFile, guard, _, rfl⟩ := h
  refine ⟨?_, ?_, ?_, ?_, Inv.initial _⟩ <;> simp [sections, acceptedJobs, invokedJobs]

/-- And every record is filed. -/
theorem Booted.filed (h : Booted cfg s) : Filed s := by
  obtain ⟨policyFile, journalFile, guard, _, rfl⟩ := h
  constructor <;> simp [Recorded, invokedJobs]

/-- Two handlers of commands for one device are never under way together. -/
def Serial (s : RpcState) : Prop :=
  ∀ i j w w', s.workers.get? i = some w → s.workers.get? j = some w' →
    w.job.governed = true → w'.job.governed = true → w.pc = .running → w'.pc = .running →
    w.job.deviceId.toStr = w'.job.deviceId.toStr → i = j

/-- The handlers of commands for one device were started in increasing sequence order. -/
def Ordered (s : RpcState) : Prop :=
  (invokedJobs s.trace).Pairwise fun job job' => job.deviceId.toStr = job'.deviceId.toStr →
    ∃ m n, job.sequence? = some m ∧ job'.sequence? = some n ∧ m < n

/-- Invoked commands for one device took one lock: a device that is spelled both as a string and
    as a number cannot be recorded under both spellings. -/
private theorem lockKey_of_toStr (hO : Orderly s) (hF : Filed s) {job job' : Job}
    (h : job ∈ invokedJobs s.trace) (h' : job' ∈ invokedJobs s.trace)
    (hstr : job.deviceId.toStr = job'.deviceId.toStr) :
    ∃ key, job.lockKey = .ok key ∧ job'.lockKey = .ok key := by
  have hadmitted : ∀ {j}, j ∈ invokedJobs s.trace → j.deviceId.truthy = true ∧
      ∃ key, j.lockKey = .ok key ∧ j.deviceId.hashKey = .ok key := fun {j} hj =>
    hO.accepted j (hO.invoked j hj).1 (mem_invokedJobs.mp hj).1
  obtain ⟨ht, key, hk, hd⟩ := hadmitted h
  obtain ⟨ht', key', hk', hd'⟩ := hadmitted h'
  have hkind := hF.one_kind job job' key key' (.inl h) (.inl h') hk hk'
  exact ⟨key, hk, Json.hashKey_of_toStr ht ht' hd hd' hkind hstr ▸ hk'⟩

/-- At most one worker is inside the section of a device. -/
theorem Orderly.serial (hO : Orderly s) (hF : Filed s) : Serial s := by
  intro i j w w' hw hw' hg hg' hpc hpc' hstr
  obtain ⟨key, hk, hk'⟩ := lockKey_of_toStr hO hF ((hO.workers i w hw hg).invoked hpc)
    ((hO.workers j w' hw' hg').invoked hpc') hstr
  obtain ⟨k, hi, _, _, hinside⟩ := inside_eq hO hw hg (by rw [hpc]; rfl)
  obtain ⟨k', hj, _, _, hinside'⟩ := inside_eq hO hw' hg' (by rw [hpc']; rfl)
  rw [hk] at hi
  rw [hk'] at hj
  cases hi
  cases hj
  exact hO.inv.exclusive i j key hinside hinside'

/-- And the commands of a device are invoked in the order of their sequences. -/
theorem Orderly.ordered (hO : Orderly s) (hF : Filed s) : Ordered s := by
  have hpair := hO.inv.ordered
  simp only [sections, startedSections, List.pairwise_filterMap] at hpair
  refine hpair.imp_of_mem fun {job job'} hjob hjob' h hstr => ?_
  obtain ⟨key, hk, hk'⟩ := lockKey_of_toStr hO hF hjob hjob' hstr
  obtain ⟨_, ⟨k, m⟩, hp⟩ := hO.invoked job hjob
  obtain ⟨_, ⟨k', n⟩, hp'⟩ := hO.invoked job' hjob'
  have hlt := h _ hp _ hp'
  obtain ⟨hkey, hm⟩ := Job.section?_eq_some hp
  obtain ⟨hkey', hn⟩ := Job.section?_eq_some hp'
  rw [hk] at hkey
  rw [hk'] at hkey'
  cases hkey
  cases hkey'
  exact ⟨m, n, hm, hn, hlt rfl⟩

/-- Serial and ordered control: in every interleaving of deliveries, workers and policy
    installations in which `mark_executing` only records commands above their device's maximum,
    handlers of one device never overlap and start in increasing sequence order. -/
theorem serial_ordered {labels : List Label} (hboot : Booted cfg s)
    (hrestart : ∀ a ∈ labels, a.isRestart = false)
    (hfresh : Run.Along (step cfg) SequenceFresh s labels) (h : exec cfg s labels = some s') :
    Serial s' ∧ Ordered s' := by
  have hinv : Orderly s' ∧ Filed s' := Run.exec_invariant (I := fun s => Orderly s ∧ Filed s)
    (fun _ _ _ hI ha hstep =>
      ⟨hI.1.step ha.1 ha.2 hstep, hI.2.step hI.1 ha.2 hstep⟩)
    ⟨hboot.orderly, hboot.filed⟩ (hfresh.and_labels hrestart) h
  exact ⟨hinv.1.serial hinv.2, hinv.1.ordered hinv.2⟩

open PumpStation

/-- Two commands for the drive, one after the other. -/
def inOrderRun : List Label :=
  [receive (command "command-1" (.int 7) 1)] ++ startHandler 0 ++ endHandler 0 ++
    [receive (command "command-2" (.int 7) 2)] ++ startHandler 1

/-- Two commands of one device, one after the other. -/
theorem serial_ordered_inOrder : ∃ s', exec config boot inOrderRun = some s' ∧
    (invokedJobs s'.trace).length = 2 ∧ Serial s' ∧ Ordered s' := by
  have hrun : (exec config boot inOrderRun).map (fun s => (invokedJobs s.trace).length) = some 2 := by
    decide +kernel
  obtain ⟨s', h, hlen⟩ := Option.map_eq_some_iff.mp hrun
  exact ⟨s', h, hlen, serial_ordered boot_booted (by decide +kernel) (by decide +kernel) h⟩

/-- Two commands for the drive are admitted in order, and their workers take the lock in the
    other order. -/
def overtakingRun : List Label :=
  [receive (command "command-1" (.int 7) 1), receive (command "command-2" (.int 7) 2)] ++
    startHandler 1 ++ endHandler 1 ++ startHandler 0

/-- The device and the sequence number of every governed invocation. -/
def invokedSequences (s : RpcState) : List (String × Option Int) :=
  (invokedJobs s.trace).map fun job => (job.deviceId.toStr, job.sequence?)

/-- A worker that waits for its lock can be overtaken: sequence 1 starts after sequence 2. -/
theorem overtaken : Booted config boot ∧ (∀ a ∈ overtakingRun, a.isRestart = false) ∧
    (exec config boot overtakingRun).map invokedSequences =
      some [("7", some 2), ("7", some 1)] :=
  ⟨boot_booted, by decide +kernel, by decide +kernel⟩

end RpcState

end Novena

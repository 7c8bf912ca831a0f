import NovenaGateway.Native.RpcHandler

/-!
# What the actions of the command system do

Shared groundwork for the correctness of governed commands: what an admission establishes
about the job of a new worker, how a journal write changes the sets of known and stored
commands, and `step_moves`, the inversion of `RpcState.step` that every invariant and
simulation is proved from.
-/

namespace Novena

/-! ## Admission -/

namespace GovernedCommandGuard

/-- The fields `mark_*` reads are the envelope's own. -/
theorem commandIdentity_ok {envelope : Dict String Json} {id : CommandIdentity}
    (h : commandIdentity envelope = .ok id) :
    field envelope "command_id" = .str id.commandId ∧
      Job.targetDevice envelope = id.deviceId ∧
      field envelope "sequence_number" = id.sequenceNumber := by
  simp only [commandIdentity, Except.bind_eq_ok, Json.item] at h
  obtain ⟨target, ht, d, hd, n, hn, c, hc, hid⟩ := h
  -- every `item` that returned found its key
  have found : ∀ {fields : Dict String Json} {key : String} {x : Json},
      Json.item (.obj fields) key = .ok x → field fields key = x := by
    intro fields key x h
    simp only [Json.item] at h
    simp only [field]
    split at h
    · next hk => rw [hk]; exact Except.ok.inj h
    · cases h
  -- the target is an object, or the lookup raised
  split at hd
  · rename_i fields
    -- the command id is a text, or it is refused
    split at hid
    · rename_i c'
      simp only [Except.pure_eq_ok] at hid
      subst hid
      refine ⟨found hc, ?_, found hn⟩
      simp only [Job.targetDevice, found ht]
      exact found hd
    · cases hid
  · cases hd

/-- The device id that `validate` reads from the target, where there is one. -/
private theorem target_device {envelope : Dict String Json} {d : Json}
    (h : ((field envelope "target").orElse (.obj [])).get "device_id" = .ok d)
    (hd : d.truthy = true) :
    ∃ target, field envelope "target" = .obj target ∧ field target "device_id" = d := by
  obtain ⟨fields, hf, hx⟩ := Json.get_ok h
  simp only [Json.orElse] at hf
  split at hf
  · exact ⟨fields, hf, hx.symm⟩
  · -- the default `{}` has no device id
    cases hf
    subst hx
    simp [Json.truthy] at hd

/-- A device id that is found is `payload["target"]["device_id"]`. -/
private theorem lockKey_of_target {job : Job} {target : Dict String Json} {d : Json}
    (ht : field job.payload "target" = .obj target) (hd : field target "device_id" = d)
    (htruthy : d.truthy = true) : job.lockKey = d.hashKey := by
  have found : ∀ {fields : Dict String Json} {key : String} {x : Json},
      field fields key = x → x.truthy = true → (Json.obj fields).item key = .ok x := by
    intro fields key x h hx
    simp only [field] at h
    simp only [Json.item]
    -- a missing key reads as `null`, which is not truthy
    cases hk : Dict.get? fields key with
    | none =>
      rw [hk] at h
      subst h
      simp [Json.truthy] at hx
    | some y => rw [hk] at h; exact congrArg _ h
  -- the target itself is truthy, since it has an entry
  have htarget : (Json.obj job.payload).item "target" = .ok (.obj target) := by
    refine found ht ?_
    cases target with
    | nil => subst hd; simp [field, Json.truthy] at htruthy
    | cons => rfl
  simp only [Job.lockKey, htarget, found hd htruthy, bind, Except.bind, deviceLock]

/-- What `validate` has established when it accepts a command for execution: the command has
    no record, its device is a hashable, truthy value, and its sequence is above the device's
    recorded maximum. -/
theorem validate_fresh {cfg : GuardConfig} {g : GovernedCommandGuard} {clock : Clock} {job : Job}
    {control : Json} (h : g.validate cfg clock job.payload = .ok (control, none)) :
    ∃ key sequence, job.lockKey = .ok key ∧ job.deviceId.truthy = true ∧
      job.deviceId.hashKey = .ok key ∧
      (((job.payload.get? "sequence_number").getD (.int 0)).toInt = .ok sequence) ∧
      DurableCommandJournal.topSequence g.journal.state.sequences key < sequence ∧
      ∀ c, job.commandId? = some c → g.journal.get c = none := by
  simp only [validate, Except.bind_eq_ok, Except.pure_eq_ok, Prod.mk.injEq] at h
  -- the checks of `validate` in order, of which the device and the freshness matter here
  obtain ⟨_, _, control', hcontrol, _, _, _, _, replay, hfresh, _, rfl⟩ := h
  simp only [validateFresh] at hfresh
  simp only [validateControl, Except.bind_eq_ok, require_eq_ok, Bool.and_eq_true] at hcontrol
  obtain ⟨d, hd, _, _, _, _, _, ⟨⟨hd_truthy, _⟩, _⟩, _⟩ := hcontrol
  obtain ⟨target, ht, hdev⟩ := target_device hd hd_truthy
  have hdevice : job.deviceId = d := by simp [Job.deviceId, Job.targetDevice, ht, hdev]
  split at hfresh
  -- the command is in the journal, so that `validate` returns its record
  · split at hfresh
    · simp [pure, Except.pure] at hfresh
    · cases hfresh
  -- or it is not, and its sequence was compared
  · rename_i hnone
    simp only [Except.bind_eq_ok, require_eq_ok, decide_eq_true_eq] at hfresh
    obtain ⟨sequence, hseq, d', hd', highest, hmax, _, hlt, _⟩ := hfresh
    have hdd : d' = d := Except.ok.inj (hd'.symm.trans hd)
    subst hdd
    -- an unhashable device has no maximum
    cases hkey : d'.hashKey with
    | error e => simp [DurableCommandJournal.maxSequence, hkey, Except.map] at hmax
    | ok key =>
      rw [DurableCommandJournal.maxSequence_eq hkey] at hmax
      refine ⟨key, sequence, ?_, hdevice ▸ hd_truthy, hdevice ▸ hkey, hseq, ?_, ?_⟩
      -- the lock is that of the target device
      · rw [lockKey_of_target ht hdev hd_truthy, hkey]
      -- the sequence is above the maximum
      · exact Except.ok.inj hmax ▸ hlt
      -- the journal has no record of the command
      · intro c hc
        simp only [Job.commandId?] at hc
        split at hc
        · rename_i s hs
          cases hc
          simpa [hs] using hnone
        · cases hc

end GovernedCommandGuard

/-- `int(envelope["sequence_number"])`. -/
def Job.sequence? (job : Job) : Option Int :=
  (GovernedCommandGuard.field job.payload "sequence_number").toInt.toOption

/-- A job as admission leaves it: a governed one names a device that can be locked. -/
def Job.Admitted (job : Job) : Prop :=
  job.governed = true → job.deviceId.truthy = true ∧
    ∃ key, job.lockKey = .ok key ∧ job.deviceId.hashKey = .ok key

namespace RpcHandler

open GovernedCommandGuard

/-- A worker is started for a state-changing method only after `validate` accepted the command
    for execution; the job carries the payload that was delivered. -/
theorem onRpcRequest_started {cfg : RpcConfig} {g : GovernedCommandGuard} {d : Delivery}
    {r : Response} {job : Job} (h : onRpcRequest cfg g d = .started r job) :
    d.payload = .obj job.payload ∧
      (job.governed = true → ∃ control, g.validate cfg.guard d.clock job.payload =
        .ok (control, none)) := by
  simp only [onRpcRequest] at h
  -- a release is pending
  split at h
  · cases h
  split at h
  · rename_i payload hpayload
    -- the request id is a text that is not blank
    split at h
    · split at h
      · cases h
      -- the method can be hashed
      split at h
      · cases h
      split at h
      -- it is a known method, with an object for its parameters
      · split at h
        · rename_i params hparams
          split at h
          -- a governed job starts after `validate` only
          · next hg =>
            simp only [admitGoverned] at h
            split at h
            · cases h
            split at h
            · cases h
            · cases h
            · cases h
            · next control hv =>
              simp only [start, Admission.started.injEq] at h
              obtain ⟨-, rfl⟩ := h
              exact ⟨hpayload, fun _ => ⟨control, hv⟩⟩
          -- the others start without a control
          · next hg =>
            have hfree : ∀ {j : Job}, start j = .started r job → j = job := by
              intro j hj
              simp only [start, Admission.started.injEq] at hj
              exact hj.2
            split at h
            -- a signed diagnostic passes its own check first
            · simp only [admitDiagnostic] at h
              split at h
              · cases h
              · cases h
              · have := hfree h
                subst this
                exact ⟨hpayload, fun hgov => absurd hgov hg⟩
            · have := hfree h
              subst this
              exact ⟨hpayload, fun hgov => absurd hgov hg⟩
        · cases h
      · cases h
    · cases h
  · cases h

/-- A worker is started for an admitted job only. -/
theorem started_admitted {cfg : RpcConfig} {g : GovernedCommandGuard} {d : Delivery}
    {r : Response} {job : Job} (h : onRpcRequest cfg g d = .started r job) : job.Admitted := by
  intro hg
  obtain ⟨control, hv⟩ := (onRpcRequest_started h).2 hg
  obtain ⟨key, _, hlock, htruthy, hkey, _⟩ := validate_fresh hv
  exact ⟨htruthy, key, hlock, hkey⟩

end RpcHandler

/-! ## What one action does -/

namespace RpcState

@[simp] theorem emit_guard (s : RpcState) (e : Event) : (s.emit e).guard = s.guard := rfl
@[simp] theorem emit_workers (s : RpcState) (e : Event) : (s.emit e).workers = s.workers := rfl
@[simp] theorem emit_heldLocks (s : RpcState) (e : Event) :
    (s.emit e).heldLocks = s.heldLocks := rfl
@[simp] theorem emit_trace (s : RpcState) (e : Event) : (s.emit e).trace = s.trace ++ [e] := rfl

@[simp] theorem goto_guard (s : RpcState) (i : Nat) (w : Worker) (pc : Pc) :
    (s.goto i w pc).guard = s.guard := rfl
@[simp] theorem goto_workers (s : RpcState) (i : Nat) (w : Worker) (pc : Pc) :
    (s.goto i w pc).workers = s.workers.set i { w with pc } := rfl
@[simp] theorem goto_heldLocks (s : RpcState) (i : Nat) (w : Worker) (pc : Pc) :
    (s.goto i w pc).heldLocks = s.heldLocks := rfl
@[simp] theorem goto_trace (s : RpcState) (i : Nat) (w : Worker) (pc : Pc) :
    (s.goto i w pc).trace = s.trace := rfl

@[simp] theorem retire_guard (s : RpcState) (i : Nat) : (s.retire i).guard = s.guard := rfl
@[simp] theorem retire_workers (s : RpcState) (i : Nat) :
    (s.retire i).workers = s.workers.erase i := rfl
@[simp] theorem retire_heldLocks (s : RpcState) (i : Nat) :
    (s.retire i).heldLocks = s.heldLocks := rfl
@[simp] theorem retire_trace (s : RpcState) (i : Nat) : (s.retire i).trace = s.trace := rfl

/-- The state after the `with lock` block of a job, or its `nullcontext`, was left. -/
def unlock (s : RpcState) (job : Job) : RpcState := if job.governed then s.release job else s

@[simp] theorem unlock_guard (s : RpcState) (job : Job) : (s.unlock job).guard = s.guard := by
  simp only [unlock, release]; split <;> [split <;> rfl; rfl]
@[simp] theorem unlock_workers (s : RpcState) (job : Job) :
    (s.unlock job).workers = s.workers := by
  simp only [unlock, release]; split <;> [split <;> rfl; rfl]
@[simp] theorem unlock_trace (s : RpcState) (job : Job) : (s.unlock job).trace = s.trace := by
  simp only [unlock, release]; split <;> [split <;> rfl; rfl]

end RpcState

/-- An event that is neither an admission, nor an invocation, nor a claim change. -/
def Event.silent : Event → Bool
  | .response .. | .returned .. | .policy .. => true
  | _ => false

/-- No events, all of them silent. -/
theorem silent_nil : ∀ e ∈ ([] : List Event), e.silent = true := by simp

/-- A response is silent. -/
theorem silent_response (i : Nat) (r : Response) : ∀ e ∈ [Event.response i r], e.silent = true := by
  simp [Event.silent]

/-- The governed job an event invokes. -/
def Event.invokedJob : Event → Option Job
  | .invoked _ job => if job.governed then some job else none
  | _ => none

/-- The governed job an event accepts. -/
def Event.acceptedJob : Event → Option Job
  | .accepted _ job => if job.governed then some job else none
  | _ => none

/-- The governed commands whose handler was invoked, in order. -/
def invokedJobs (trace : List Event) : List Job := trace.filterMap Event.invokedJob

/-- The governed commands that were accepted, in order. -/
def acceptedJobs (trace : List Event) : List Job := trace.filterMap Event.acceptedJob

/-- The invoked jobs of a longer trace. -/
theorem invokedJobs_append (trace es : List Event) :
    invokedJobs (trace ++ es) = invokedJobs trace ++ invokedJobs es :=
  List.filterMap_append

/-- And its accepted jobs. -/
theorem acceptedJobs_append (trace es : List Event) :
    acceptedJobs (trace ++ es) = acceptedJobs trace ++ acceptedJobs es :=
  List.filterMap_append

/-- Silent events neither invoke nor accept anything. -/
theorem silent_jobs {es : List Event} (h : ∀ e ∈ es, e.silent = true) :
    invokedJobs es = [] ∧ acceptedJobs es = [] := by
  constructor <;> refine List.filterMap_eq_nil_iff.mpr fun e he => ?_ <;>
    have := h e he <;> cases e <;> first | rfl | simp [Event.silent] at this

/-- The invoked jobs are the governed ones of the events. -/
theorem mem_invokedJobs {trace : List Event} {job : Job} :
    job ∈ invokedJobs trace ↔ job.governed = true ∧ ∃ i, .invoked i job ∈ trace := by
  simp only [invokedJobs, List.mem_filterMap]
  constructor
  · rintro ⟨e, he, hjob⟩
    -- an event tells of an invocation of its own kind only
    cases e with
    | invoked i j =>
      simp only [Event.invokedJob] at hjob
      split at hjob
      · next hg => cases hjob; exact ⟨hg, i, he⟩
      · cases hjob
    | accepted | response | returned | policy | claimReset => cases hjob
  · rintro ⟨hg, i, he⟩
    exact ⟨_, he, by simp [Event.invokedJob, hg]⟩

/-- And so are the accepted ones. -/
theorem mem_acceptedJobs {trace : List Event} {job : Job} :
    job ∈ acceptedJobs trace ↔ job.governed = true ∧ ∃ i, .accepted i job ∈ trace := by
  simp only [acceptedJobs, List.mem_filterMap]
  constructor
  · rintro ⟨e, he, hjob⟩
    -- and of an acceptance likewise
    cases e with
    | accepted i j =>
      simp only [Event.acceptedJob] at hjob
      split at hjob
      · next hg => cases hjob; exact ⟨hg, i, he⟩
      · cases hjob
    | invoked | response | returned | policy | claimReset => cases hjob
  · rintro ⟨hg, i, he⟩
    exact ⟨_, he, by simp [Event.acceptedJob, hg]⟩

/-- A worker inside its `with lock` block that neither is about to call its handler nor has
    recorded its terminal result. -/
def Pc.busy : Pc → Bool
  | .locked | .checked | .running | .returned _ => true
  | _ => false

/-- The worker has not called its handler yet. -/
def Pc.waiting : Pc → Bool
  | .start | .locked | .checked | .ready => true
  | _ => false

/-- `g'` and `r` are what a `mark_executing` or `mark_terminal` of a job leaves behind. -/
def GovernedCommandGuard.Marked (g : GovernedCommandGuard) (job : Job)
    (g' : GovernedCommandGuard) (r : Py Unit) : Prop :=
  ∃ record now ok, (∀ id : CommandIdentity, (record id).deviceId = id.deviceId ∧
      (record id).sequenceNumber = id.sequenceNumber) ∧
    g.mark job.payload record now ok = (g', r)

namespace RpcState

/-- Everything one action can do. -/
inductive Moves (cfg : RpcConfig) (s : RpcState) : Label → RpcState → Prop where
  | quiet (d : Delivery) (es : List Event) (hes : ∀ e ∈ es, e.silent = true) :
      Moves cfg s (.deliver d) { s with nextId := s.nextId + 1, trace := s.trace ++ es }
  | accept (d : Delivery) (r : Response) (job : Job)
      (h : RpcHandler.onRpcRequest cfg s.guard d = .started r job) :
      Moves cfg s (.deliver d)
        { s with nextId := s.nextId + 1, workers := s.workers.set s.nextId ⟨job, .start⟩
                 trace := s.trace ++ [.response s.nextId r, .accepted s.nextId job] }
  | doomed (i : Nat) (w : Worker) (e : Exn) (hw : s.workers.get? i = some w)
      (hpc : w.pc = .start) (hk : w.job.lockKey = .error e) :
      Moves cfg s (.acquire i) (s.retire i)
  | lock (i : Nat) (w : Worker) (key : Json.Key) (hw : s.workers.get? i = some w)
      (hpc : w.pc = .start) (hg : w.job.governed = true) (hk : w.job.lockKey = .ok key)
      (hfree : key ∉ s.heldLocks) :
      Moves cfg s (.acquire i) { s.goto i w .locked with heldLocks := key :: s.heldLocks }
  | advance (a : Label) (i : Nat) (w : Worker) (pc : Pc) (es : List Event)
      (hw : s.workers.get? i = some w) (hes : ∀ e ∈ es, e.silent = true)
      (hrun : pc ≠ .running)
      (hg : w.job.governed = true → w.pc.busy = true ∧ pc.busy = true)
      (hwait : pc.waiting = true → w.pc.waiting = true) :
      Moves cfg s a (({ s with trace := s.trace ++ es } : RpcState).goto i w pc)
  | mark (i : Nat) (w : Worker) (now : Int) (ok : Bool) (guard : GovernedCommandGuard)
      (r : Response) (hw : s.workers.get? i = some w) (hpc : w.pc = .checked)
      (hg : w.job.governed = true) (h : s.guard.Marked w.job guard (.ok ())) :
      Moves cfg s (.markExecuting i now ok)
        ((({ s with guard } : RpcState).emit (.response i r)).goto i w .ready)
  | call (i : Nat) (w : Worker) (hw : s.workers.get? i = some w) (hpc : w.pc = .ready) :
      Moves cfg s (.call i) ((s.emit (.invoked i w.job)).goto i w .running)
  | file (a : Label) (i : Nat) (w : Worker) (c : Conclusion) (guard : GovernedCommandGuard)
      (hw : s.workers.get? i = some w) (hpc : w.pc.busy = true) (hg : w.job.governed = true)
      (h : s.guard.Marked w.job guard (.ok ())) :
      Moves cfg s a (({ s with guard } : RpcState).goto i w (.terminal c))
  | unwind (a : Label) (i : Nat) (w : Worker) (e : Exn) (guard : GovernedCommandGuard)
      (es : List Event) (hw : s.workers.get? i = some w) (hpc : w.pc.busy = true)
      (hes : ∀ e ∈ es, e.silent = true)
      (hguard : guard = s.guard ∨
        (w.job.governed = true ∧ ∃ r, s.guard.Marked w.job guard r)) :
      Moves cfg s a ((({ s with guard, trace := s.trace ++ es } : RpcState).unlock w.job).goto
        i w (.failing e))
  | finish (i : Nat) (w : Worker) (c : Conclusion) (r : Response)
      (hw : s.workers.get? i = some w) (hpc : w.pc = .terminal c) :
      Moves cfg s (.finish i) (((s.emit (.response i r)).unlock w.job).retire i)
  | abort (a : Label) (i : Nat) (w : Worker) (e : Exn) (guard : GovernedCommandGuard)
      (es : List Event) (hw : s.workers.get? i = some w) (hpc : w.pc = .failing e)
      (hes : ∀ e ∈ es, e.silent = true)
      (hguard : guard = s.guard ∨
        (w.job.governed = true ∧ ∃ r, s.guard.Marked w.job guard r)) :
      Moves cfg s a (({ s with guard, trace := s.trace ++ es } : RpcState).retire i)
  | crash (guard : GovernedCommandGuard)
      (h : GovernedCommandGuard.init cfg.guard s.guard.policyFile s.guard.journal.file =
        .ok guard) :
      Moves cfg s .crash { s with guard, heldLocks := [], workers := [] }
  | reset (ok removed : Bool) : Moves cfg s (.reset ok removed) (s.reset ok removed)
  | policy (wire : Json) (fileOk ok : Bool) :
      Moves cfg s (.installPolicy wire fileOk ok) (s.installPolicy cfg wire fileOk ok)

/-! ### Inversion -/

variable {cfg : RpcConfig} {s s' : RpcState}

/-- What a delivery does is one of the moves. -/
private theorem deliver_moves (d : Delivery) : Moves cfg s (.deliver d) (s.deliver cfg d) := by
  simp only [deliver]
  split
  · simpa using Moves.quiet d [] (by simp)
  · simpa using Moves.quiet d [] (by simp)
  · exact .quiet d [_] (by simp [Event.silent])
  · next h => simpa [emit] using Moves.accept d _ _ h

/-- So is what happens at the lock of the device. -/
private theorem acquire_moves {i : Nat} {w : Worker} (hw : s.workers.get? i = some w)
    (h : s.acquire i w = some s') : Moves cfg s (.acquire i) s' := by
  simp only [acquire] at h
  split at h
  · next hpc =>
    -- a governed worker needs its key
    split at h
    · next hg =>
      split at h
      -- which may not be hashable
      · next e hk => cases h; exact .doomed i w e hw hpc hk
      · next key hk =>
        split at h
        · cases h
        -- and free
        · next hfree => cases h; exact .lock i w key hw hpc hg hk hfree
    -- an ungoverned worker is ready at once
    · next hg =>
      cases h
      simpa using Moves.advance (.acquire i) i w .ready [] hw (by simp) (fun h => by cases h)
        (fun h => absurd h hg) (fun _ => by rw [hpc]; rfl)
  · cases h

/-- And at the checks after it. -/
private theorem prerequisites_moves {i : Nat} {w : Worker} {verdict : Py Unit}
    (hw : s.workers.get? i = some w) (h : s.prerequisites i w verdict = some s') :
    Moves cfg s (.prerequisites i verdict) s' := by
  simp only [prerequisites] at h
  split at h
  · next hpc =>
    split at h <;> cases h
    · simpa using Moves.advance (.prerequisites i (.ok ())) i w .checked [] hw (by simp)
        (fun h => by cases h) (fun _ => ⟨by simp [hpc, Pc.busy], rfl⟩)
        (fun _ => by rw [hpc]; rfl)
    · simpa [unlock, RpcState.unwind] using @Moves.unwind cfg s (.prerequisites i (.error _)) i w _
        s.guard [] hw (by simp [hpc, Pc.busy]) (by simp) (.inl rfl)
  · cases h

/-- `mark_executing` writes a record with the identity of its command. -/
private theorem markExecuting_marked {g g' : GovernedCommandGuard} {job : Job} {now : Int}
    {ok : Bool} {r : Py Unit} (h : g.markExecuting job.payload now ok = (g', r)) :
    g.Marked job g' r :=
  ⟨_, now, ok, fun _ => ⟨rfl, rfl⟩, h⟩

/-- `mark_terminal` is a mark of the job. -/
private theorem markTerminal_marked {g g' : GovernedCommandGuard} {job : Job} {status : String}
    {result error : Json} {stage : String} {now : Int} {ok : Bool} {r : Py Unit}
    (h : g.markTerminal job.payload status result error stage now ok = (g', r)) :
    g.Marked job g' r :=
  ⟨_, now, ok, fun _ => ⟨rfl, rfl⟩, h⟩

/-- A worker that marks its command moves, whether the journal can be written or not. -/
private theorem markExecuting_moves {i : Nat} {w : Worker} {now : Int} {ok : Bool}
    (hw : s.workers.get? i = some w) (h : s.markExecuting i w now ok = some s') :
    Moves cfg s (.markExecuting i now ok) s' := by
  simp only [markExecuting] at h
  split at h
  · next hpc =>
    split at h
    -- governed: the record of the command is written
    · next hg =>
      cases hm : s.guard.markExecuting w.job.payload now ok with
      | mk guard r =>
        rw [hm] at h
        have hmarked := markExecuting_marked hm
        cases r with
        -- written
        | ok u => cases h; exact .mark i w now ok guard _ hw hpc hg hmarked
        -- or `write` raised, and the worker unwinds with the mark as far as it got
        | error e =>
          cases h
          simpa [unlock, RpcState.unwind] using @Moves.unwind cfg s
            (.markExecuting i now ok) i w e guard [] hw (by simp [hpc, Pc.busy]) (by simp)
            (.inr ⟨hg, _, hmarked⟩)
    -- not governed: nothing is recorded
    · next hg =>
      cases h
      simpa using Moves.advance (.markExecuting i now ok) i w .ready [] hw (by simp)
        (fun h => by cases h) (fun h => absurd h hg) (fun _ => by rw [hpc]; rfl)
  · cases h

/-- And so does one whose handler returns or raises. -/
private theorem handlerReturn_moves {i : Nat} {w : Worker} {outcome readResult : Py Json}
    (hw : s.workers.get? i = some w) (h : s.handlerReturn i w outcome readResult = some s') :
    Moves cfg s (.handlerReturn i outcome readResult) s' := by
  simp only [handlerReturn] at h
  split at h
  · next hpc =>
    split at h <;> cases h
    · exact .advance _ i w _ [.returned i w.job] hw (by simp [Event.silent])
        (fun h => by cases h) (fun _ => ⟨by simp [hpc, Pc.busy], rfl⟩) (fun h => by cases h)
    · exact .unwind _ i w _ s.guard [.returned i w.job] hw (by simp [hpc, Pc.busy])
        (by simp [Event.silent]) (.inl rfl)
  · cases h

/-- And one that records the outcome. -/
private theorem markTerminal_moves {i : Nat} {w : Worker} {now : Int} {ok : Bool}
    (hw : s.workers.get? i = some w) (h : s.markTerminal i w now ok = some s') :
    Moves cfg s (.markTerminal i now ok) s' := by
  simp only [markTerminal] at h
  split at h
  · next c hpc =>
    split at h
    -- governed: the outcome is filed before the lock is released
    · next hg =>
      cases hm : s.guard.markTerminal w.job.payload c.status c.result c.error c.stage now ok with
      | mk guard r =>
        rw [hm] at h
        have hmarked := markTerminal_marked hm
        cases r with
        | ok u => cases h; exact .file _ i w c guard hw (by simp [hpc, Pc.busy]) hg hmarked
        -- the outcome could not be filed
        | error e =>
          cases h
          simpa [unlock, RpcState.unwind] using @Moves.unwind cfg s (.markTerminal i now ok) i w e
            guard [] hw (by simp [hpc, Pc.busy]) (by simp) (.inr ⟨hg, _, hmarked⟩)
    -- not governed: only the conclusion is kept
    · next hg =>
      cases h
      simpa using Moves.advance (.markTerminal i now ok) i w (.terminal c) [] hw (by simp)
        (fun h => by cases h) (fun h => absurd h hg) (fun h => by cases h)
  · cases h

/-- And one that failed. -/
private theorem abort_moves {i : Nat} {w : Worker} {now : Int} {ok : Bool}
    (hw : s.workers.get? i = some w) (h : s.abort i w now ok = some s') :
    Moves cfg s (.abort i now ok) s' := by
  simp only [abort] at h
  split at h
  · next e hpc =>
    split at h
    -- the failure of a governed command is filed and answered
    · next hg =>
      cases hm : s.guard.markTerminal w.job.payload "error" .null (.str e.text) "failed" now ok with
      | mk guard r =>
        rw [hm] at h
        have hguard := markTerminal_marked hm
        cases r with
        | ok u =>
          cases h
          exact .abort _ i w e guard [_] hw hpc (by simp [Event.silent]) (.inr ⟨hg, _, hguard⟩)
        -- filing failed as well, and there is no answer
        | error e' =>
          cases h
          simpa using Moves.abort (.abort i now ok) i w e guard [] hw hpc (by simp)
            (.inr ⟨hg, _, hguard⟩)
    -- an ungoverned failure is answered without a record
    · cases h
      exact .abort _ i w e s.guard [_] hw hpc (by simp [Event.silent]) (.inl rfl)
  · cases h

/-- The inversion of `step`. -/
theorem step_moves {a : Label} (h : step cfg s a = some s') : Moves cfg s a s' := by
  cases a with
  | deliver d => simp only [step, Option.some.injEq] at h; exact h ▸ deliver_moves d
  | acquire i =>
    obtain ⟨w, hw, h⟩ := Option.bind_eq_some_iff.mp h
    exact acquire_moves hw h
  | prerequisites i verdict =>
    obtain ⟨w, hw, h⟩ := Option.bind_eq_some_iff.mp h
    exact prerequisites_moves hw h
  | markExecuting i now ok =>
    obtain ⟨w, hw, h⟩ := Option.bind_eq_some_iff.mp h
    exact markExecuting_moves hw h
  | call i =>
    obtain ⟨w, hw, h⟩ := Option.bind_eq_some_iff.mp h
    -- a handler is called by a ready worker
    simp only [call] at h
    split at h
    · next hpc => cases h; exact .call i w hw hpc
    · cases h
  | handlerReturn i outcome readResult =>
    obtain ⟨w, hw, h⟩ := Option.bind_eq_some_iff.mp h
    exact handlerReturn_moves hw h
  | markTerminal i now ok =>
    obtain ⟨w, hw, h⟩ := Option.bind_eq_some_iff.mp h
    exact markTerminal_moves hw h
  | finish i =>
    obtain ⟨w, hw, h⟩ := Option.bind_eq_some_iff.mp h
    -- a worker ends with its conclusion
    simp only [finish] at h
    split at h
    · next c hpc => cases h; exact .finish i w c _ hw hpc
    · cases h
  | abort i now ok =>
    obtain ⟨w, hw, h⟩ := Option.bind_eq_some_iff.mp h
    exact abort_moves hw h
  | crash =>
    -- a crash is followed by a start that reads the journal
    simp only [step, crash] at h
    split at h
    · next guard hi => cases h; exact .crash guard hi
    · cases h
  | reset ok removed => simp only [step, Option.some.injEq] at h; exact h ▸ .reset ok removed
  | installPolicy wire fileOk ok =>
    simp only [step, Option.some.injEq] at h
    exact h ▸ .policy wire fileOk ok

/-- A claim reset leaves the workers alone. -/
theorem reset_workers_trace (s : RpcState) (ok removed : Bool) :
    (s.reset ok removed).workers = s.workers ∧
      ((s.reset ok removed).trace = s.trace ∨
        (s.reset ok removed).trace = s.trace ++ [.claimReset]) := by
  unfold reset
  rcases s.guard.resetForNewClaim ok removed with ⟨guard, _ | _⟩
  · exact ⟨rfl, .inl rfl⟩
  · exact ⟨rfl, .inr rfl⟩

end RpcState

/-! ## What a worker's journal writes do -/

namespace GovernedCommandGuard

/-- A mark is a journal write under the command's id of a record with the command's device and
    sequence; an envelope without these fields leaves the guard alone. -/
theorem Marked.write {g g' : GovernedCommandGuard} {job : Job} {r : Py Unit}
    (h : g.Marked job g' r) :
    (g' = g ∧ r ≠ .ok ()) ∨
      ∃ c record now ok, job.commandId? = some c ∧ record.deviceId = job.deviceId ∧
        record.sequenceNumber = field job.payload "sequence_number" ∧
        g' = { g with journal := (g.journal.write c record now ok).1 } ∧
        r = (g.journal.write c record now ok).2 := by
  obtain ⟨record, now, ok, hrecord, h⟩ := h
  -- the identity cannot be read, so nothing was written
  simp only [GovernedCommandGuard.mark] at h
  split at h
  · cases h; exact .inl ⟨rfl, fun h => by cases h⟩
  · next id hid =>
    -- it can, and the record repeats the device and the sequence of the job
    obtain ⟨hc, hd, hs⟩ := commandIdentity_ok hid
    simp only [Prod.mk.injEq] at h
    refine .inr ⟨id.commandId, record id, now, ok, ?_, (hrecord id).1.trans hd.symm,
      (hrecord id).2.trans hs.symm, h.1.symm, h.2.symm⟩
    simp only [Job.commandId?, hc]

end GovernedCommandGuard

/-! ## A pump station

The gateway `GW-001` with one drive: concrete data for runs of the system. -/

namespace PumpStation

/-- Microseconds of 2026-01-01T00:00:00Z. -/
def newYear : Int := 1767225600000000

/-- The control of the drive's speed. -/
def speedControl : Json := .obj
  [("mapping", .obj [("functionCode", .int 6), ("address", .int 100), ("type", .str "16uint")]),
   ("unit", .str "RPM"), ("limits", .obj [("min", .int 0), ("max", .int 1500)]),
   ("revisions", .obj [("policy", .int 4)]), ("policy_checksum", .str "policy-v4")]

/-- The retained policy: the speed of device 7 may be written. -/
def policyPayload : Json := .obj
  [("schema_version", .int 1), ("gateway_serial", .str "GW-001"), ("control_epoch", .int 7),
   ("controls", .obj [("7:speed", speedControl)])]

/-- The signed part of a `write_device` command for the drive, under a spelling of its id. -/
def commandBody (commandId : String) (deviceId : Json) (sequence : Int) : Dict String Json :=
  [("schema_version", .int 1), ("request_id", .str "request-1"),
   ("command_id", .str commandId), ("idempotency_key", .str "idempotency-1"),
   ("target", .obj [("gateway_serial", .str "GW-001"), ("device_id", deviceId)]),
   ("method", .str "write_device"),
   ("params", .obj [("device_id", deviceId), ("device_name", .str "VFD 1"),
     ("command_key", .str "speed"), ("functionCode", .int 6), ("address", .int 100),
     ("type", .str "16uint"), ("value", .int 1200), ("expected_value", .int 1200),
     ("unit", .str "RPM")]),
   ("control_epoch", .int 7), ("sequence_number", .int sequence),
   ("revisions", .obj [("policy", .int 4)]), ("policy_checksum", .str "policy-v4"),
   ("issued_at", .str "2026-01-01T00:00:00Z"), ("expires_at", .str "2026-01-01T00:00:30Z")]

/-- The one signature text of this station. -/
def signature : Json := .str "c2lnbmVk"

/-- The documents the cloud has signed: the policy and commands of the form above. -/
def issued (payload : Json) : Bool :=
  payload.same policyPayload ||
    match payload.item "command_id", payload.item "target", payload.item "sequence_number" with
    | .ok (.str c), .ok (.obj target), .ok (.int n) =>
      payload.same (.obj (commandBody c (GovernedCommandGuard.field target "device_id") n))
    | _, _, _ => false

/-- One trusted key, and the default clock offset of five seconds. -/
def guardConfig : GuardConfig where
  serialNumber := "GW-001"
  trustedClock := true
  maxClockOffset := (F64.ofRat? 5).getD .nan
  keyIds := ["key-1"]
  verifies := fun _ payload s => s.same signature && issued payload
  fromisoformat := fun s =>
    if s = "2026-01-01T00:00:00Z" then .ok ⟨newYear, true⟩
    else if s = "2026-01-01T00:00:30Z" then .ok ⟨newYear + 30000000, true⟩
    else .error (.valueError "Invalid isoformat string")
  checksum := fun _ => "9f86d081"

def config : RpcConfig where
  guard := guardConfig
  localWritebackEnabled := true
  diagnosticClockSkew := (F64.ofRat? 30).getD .nan

/-- The policy as it is delivered and stored. -/
def policy : Json := .obj
  [("payload", policyPayload), ("checksum", .str "9f86d081"), ("signing_key_id", .str "key-1"),
   ("signature", signature)]

/-- A signed `write_device` command for the drive. -/
def command (commandId : String) (deviceId : Json) (sequence : Int) : Dict String Json :=
  commandBody commandId deviceId sequence ++
    [("signing_key_id", .str "key-1"), ("signature", signature)]

/-- The delivery of a payload one second after it was issued. -/
def receive (payload : Dict String Json) : Label :=
  .deliver { releasePending := false, clock := ⟨true, newYear + 1000000⟩, payload := .obj payload }

/-- Worker `i` up to the call of its handler. -/
def startHandler (i : Nat) : List Label :=
  [.acquire i, .prerequisites i (.ok ()), .markExecuting i newYear true, .call i]

/-- The handler of worker `i` returns, and the worker ends. -/
def endHandler (i : Nat) : List Label :=
  [.handlerReturn i (.ok (.obj [("device_accepted", .bool true)])) (.error .keyError),
   .markTerminal i newYear true, .finish i]

/-- The guard that starts from the policy and no journal. -/
def startGuard : Py GovernedCommandGuard :=
  GovernedCommandGuard.init guardConfig (some policy) .missing

/-- The process that starts from the policy and no journal. -/
def boot : RpcState where
  guard := startGuard.toOption.getD { policy := .null, policyFile := none, journal := .init .missing }
  heldLocks := []
  workers := []
  nextId := 0
  trace := []

/-- The empty station has booted. -/
theorem boot_booted : RpcState.Booted config boot := by
  have hok : startGuard.toOption.isSome = true := by decide +kernel
  cases h : startGuard with
  | error e => simp [h, Except.toOption] at hok
  | ok guard => exact ⟨some policy, .missing, guard, h, by simp [boot, h, Except.toOption]⟩

end PumpStation

end Novena

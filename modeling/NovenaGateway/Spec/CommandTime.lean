import NovenaGateway.Spec.CommandWorkers

/-!
# Commands are valid when they run

`validate` looks at the clock and at the retained policy when a command arrives; the worker calls
the handler after it has waited for the device lock, the prerequisites and the journal, and looks
at neither again. `Timed` is the command system with its clock. A handler is called within the
command's time and under a policy that holds its control, provided that the command was not issued
ahead of the offset, and that neither its expiry nor another policy overtakes it while it waits.

Key results:
- `Timed.called_valid`
- `Timed.called_expired`
-/

namespace Novena

namespace GovernedCommandGuard

/-! ## The policy of a command -/

/-- A policy has the control of a command, under the command's epoch, revisions and checksum: the
    comparisons of `validate`. -/
def holdsControl (policy : Json) (envelope : Dict String Json) : Py Bool := do
  let epoch ← ((envelope.get? "control_epoch").getD (.int 0)).toInt
  let current ← (policy.orElse (.obj [])).getD "control_epoch" (.int 0)
  let deviceId ← ((field envelope "target").orElse (.obj [])).get "device_id"
  let commandKey ← ((field envelope "params").orElse (.obj [])).get "command_key"
  let controls ← policy.getD "controls" (.obj [])
  let control ← controls.get (deviceId.toStr ++ ":" ++ commandKey.toStr)
  let revisions ← control.get "revisions"
  let checksum ← control.get "policy_checksum"
  return (Json.int epoch).eq current && control.truthy && (field envelope "revisions").eq revisions
    && (field envelope "policy_checksum").eq checksum

def HoldsControl (policy : Json) (envelope : Dict String Json) : Prop :=
  holdsControl policy envelope = .ok true

instance (policy : Json) (envelope : Dict String Json) : Decidable (HoldsControl policy envelope) :=
  match h : holdsControl policy envelope with
  | .ok true => .isTrue h
  | .ok false => .isFalse fun h' => Bool.noConfusion (Except.ok.inj (h.symm.trans h'))
  | .error _ => .isFalse fun h' => nomatch h.symm.trans h'

/-! ## The time of a command -/

/-- A lead of `ahead` microseconds is at most the clock offset. -/
def WithinOffset (offset : F64) (ahead : Int) : Prop :=
  match offset with
  | .nan => False
  | .inf neg => neg = false
  | .fin x => (ahead : ℚ) / 1000000 ≤ x.val

instance (offset : F64) (ahead : Int) : Decidable (WithinOffset offset ahead) := by
  unfold WithinOffset; split <;> infer_instance

/-- A command that is less ahead is within the offset too. -/
theorem WithinOffset.mono {offset : F64} {ahead ahead' : Int} (h : WithinOffset offset ahead)
    (hle : ahead' ≤ ahead) : WithinOffset offset ahead' := by
  cases offset with
  | nan => exact h
  | inf neg => exact h
  | fin x =>
    have hq : (ahead' : ℚ) ≤ ahead := by exact_mod_cast hle
    have hx : (ahead : ℚ) / 1000000 ≤ x.val := h
    show (ahead' : ℚ) / 1000000 ≤ x.val
    linarith

/-- At time `t`, with `policy` retained, a command has been issued, has not expired, and has its
    control. -/
structure ValidAt (cfg : GuardConfig) (t : Int) (policy : Json) (job : Job) : Prop where
  issued : ∃ issuedAt, parseTime cfg (field job.payload "issued_at") = .ok issuedAt ∧
    WithinOffset cfg.maxClockOffset (issuedAt.utc - t)
  unexpired : ∃ expiresAt, parseTime cfg (field job.payload "expires_at") = .ok expiresAt ∧
    t < expiresAt.utc
  control : HoldsControl policy job.payload

/-- `now < expires_at`, where there is such a time. -/
def Unexpired (cfg : GuardConfig) (t : Int) (job : Job) : Prop :=
  match parseTime cfg (field job.payload "expires_at") with
  | .ok expiresAt => t < expiresAt.utc
  | .error _ => True

instance (cfg : GuardConfig) (t : Int) (job : Job) : Decidable (Unexpired cfg t job) := by
  unfold Unexpired; split <;> infer_instance

/-- `issued_at - max_clock_offset <= now`, where there is such a time. -/
def NotAhead (cfg : GuardConfig) (t : Int) (job : Job) : Prop :=
  match parseTime cfg (field job.payload "issued_at") with
  | .ok issuedAt => WithinOffset cfg.maxClockOffset (issuedAt.utc - t)
  | .error _ => True

instance (cfg : GuardConfig) (t : Int) (job : Job) : Decidable (NotAhead cfg t job) := by
  unfold NotAhead; split <;> infer_instance

/-- What `validate` has checked of a command's times and policy. -/
theorem validate_valid {cfg : GuardConfig} {g : GovernedCommandGuard} {clock : Clock} {job : Job}
    {control : Json} (h : g.validate cfg clock job.payload = .ok (control, none))
    (hahead : NotAhead cfg clock.now job) : ValidAt cfg clock.now g.policy job := by
  -- the time and the epoch come from the envelope, the mapping from the policy
  simp only [validate, Except.bind_eq_ok, Except.pure_eq_ok, Prod.mk.injEq] at h
  obtain ⟨_, henvelope, control', hcontrol, _⟩ := h
  simp only [validateEnvelope, Except.bind_eq_ok, require_eq_ok, decide_eq_true_eq] at henvelope
  obtain ⟨_, _, _, _, _, _, _, _, _, _, _, _, _, _, serial, hserial, _, _, issuedAt, hissued,
    expiresAt, hexpires, _, hlt, _, _, epoch, hepoch, current, hcurrent, heq⟩ := henvelope
  simp only [validateControl, Except.bind_eq_ok, require_eq_ok, Bool.and_eq_true] at hcontrol
  obtain ⟨deviceId, hdevice, commandKey, hkey, _, _, _, _, controls, hcontrols, found, hfound, _,
    htruthy, revisions, hrevisions, _, hsame, checksum, hchecksum, _, hsum, _⟩ := hcontrol
  refine ⟨⟨issuedAt, hissued, ?_⟩, ⟨expiresAt, hexpires, hlt⟩, ?_⟩
  -- the anchor was not ahead, by hypothesis
  · simpa only [NotAhead, hissued] using hahead
  -- the epoch of the journal is the one of the command
  · simp only [controlEpoch] at hcurrent
    simp only [HoldsControl, holdsControl, hepoch, hcurrent, hdevice, hkey, hcontrols, hfound,
      hrevisions, hchecksum, heq, htruthy, hsame, hsum, bind, Except.bind, Bool.and_self]
    rfl

end GovernedCommandGuard

/-! ## The command system with its clock -/

/-- A state and the last clock reading. -/
structure Timed where
  state : RpcState
  now : Int

namespace Timed

open GovernedCommandGuard RpcState

variable {cfg : RpcConfig}

/-- What a delivery reads from the clock is the time of its step. -/
def ReadsClock (t : Int) : Label → Prop
  | .deliver d => d.clock.now = t
  | _ => True

instance (t : Int) : (a : Label) → Decidable (ReadsClock t a)
  | .deliver _ => by dsimp only [ReadsClock]; infer_instance
  | .acquire _ | .prerequisites .. | .markExecuting .. | .call _ | .handlerReturn ..
  | .markTerminal .. | .finish _ | .abort .. | .crash | .reset .. | .installPolicy .. =>
    .isTrue trivial

/-- One action at a time that is not before the last one. -/
def step (cfg : RpcConfig) (s : Timed) (a : Int × Label) : Option Timed :=
  if s.now ≤ a.1 ∧ ReadsClock a.1 a.2 then
    (RpcState.step cfg s.state a.2).map fun state => { state, now := a.1 }
  else none

/-- What the environment keeps to while commands wait: no command is accepted that was issued ahead
    of the clock by more than the offset, no policy is installed without the control of a waiting
    command, and no claim reset takes the policy away from one. -/
def KeepsControl (cfg : RpcConfig) (s : RpcState) (t : Int) : Label → Prop
  | .deliver d => match RpcHandler.onRpcRequest cfg s.guard d with
    | .started _ job => job.governed = true → NotAhead cfg.guard t job
    | _ => True
  | .installPolicy wire fileOk _ => match checkPolicy cfg.guard s.guard wire with
    | .ok (payload, _) => fileOk = true → ∀ p ∈ s.workers, p.2.pc.waiting = true →
        p.2.job.governed = true → HoldsControl payload p.2.job.payload
    | .error _ => True
  | .reset .. => ∀ p ∈ s.workers, p.2.pc.waiting = true → p.2.job.governed = false
  | _ => True

instance (s : RpcState) (t : Int) : (a : Label) → Decidable (KeepsControl cfg s t a)
  | .deliver _ => by dsimp only [KeepsControl]; split <;> infer_instance
  | .installPolicy .. => by dsimp only [KeepsControl]; split <;> infer_instance
  | .reset .. => by dsimp only [KeepsControl]; infer_instance
  | .acquire _ | .prerequisites .. | .markExecuting .. | .call _ | .handlerReturn ..
  | .markTerminal .. | .finish _ | .abort .. | .crash =>
    .isTrue trivial

/-- No command expires while it waits. -/
def NoneExpires (cfg : RpcConfig) (s : RpcState) (t : Int) : Prop :=
  ∀ p ∈ s.workers, p.2.pc.waiting = true → p.2.job.governed = true →
    Unexpired cfg.guard t p.2.job

instance (s : RpcState) (t : Int) : Decidable (NoneExpires cfg s t) := by
  unfold NoneExpires; infer_instance

def Punctual (cfg : RpcConfig) (s : Timed) (a : Int × Label) : Prop :=
  NoneExpires cfg s.state a.1 ∧ KeepsControl cfg s.state a.1 a.2

instance (s : Timed) (a : Int × Label) : Decidable (Punctual cfg s a) := by
  unfold Punctual; infer_instance

end Timed

namespace RpcState

open GovernedCommandGuard

variable {cfg : RpcConfig} {s s' : RpcState}

/-! ### Workers that wait -/

/-- A waiting worker was waiting before the step, or the step accepted its command. -/
def WaitedOn (cfg : RpcConfig) (s : RpcState) (a : Label) (i : Nat) (job : Job) : Prop :=
  (∃ w, s.workers.get? i = some w ∧ w.pc.waiting = true ∧ w.job = job) ∨
    ∃ d r, a = .deliver d ∧ RpcHandler.onRpcRequest cfg s.guard d = .started r job

/-- A worker that is sent on to a waiting place comes from one. -/
private theorem waitedOn_goto {a : Label} {i j : Nat} {w w' : Worker} {pc : Pc} {u : RpcState}
    (hw' : (u.goto j w pc).workers.get? i = some w') (hwait : w'.pc.waiting = true)
    (hu : u.workers = s.workers) (hw : s.workers.get? j = some w)
    (hpc : pc.waiting = true → w.pc.waiting = true) :
    WaitedOn cfg s a i w'.job := by
  rw [goto_workers, hu] at hw'
  obtain ⟨rfl, rfl⟩ | ⟨_, hold⟩ := Dict.of_get?_set hw'
  · exact .inl ⟨w, hw, hpc hwait, rfl⟩
  · exact .inl ⟨w', hold, hwait, rfl⟩

/-- A worker that waits still waits after another one has ended. -/
private theorem waitedOn_retire {a : Label} {i j : Nat} {w' : Worker} {u : RpcState}
    (hw' : (u.retire j).workers.get? i = some w') (hwait : w'.pc.waiting = true)
    (hu : u.workers = s.workers) : WaitedOn cfg s a i w'.job := by
  rw [retire_workers, hu] at hw'
  exact .inl ⟨w', (Dict.of_get?_erase hw').2, hwait, rfl⟩

/-- Nobody starts to wait but a worker that has just been started. -/
theorem step_waiting {a : Label} (h : step cfg s a = some s') {i : Nat} {w' : Worker}
    (hw' : s'.workers.get? i = some w') (hwait : w'.pc.waiting = true) :
    WaitedOn cfg s a i w'.job := by
  cases step_moves h with
  | quiet | policy => exact .inl ⟨w', hw', hwait, rfl⟩
  | accept d r job hstart =>
    -- the new worker has just been accepted
    obtain ⟨_, rfl⟩ | ⟨_, hw'⟩ := Dict.of_get?_set hw'
    · exact .inr ⟨d, r, rfl, hstart⟩
    · exact .inl ⟨w', hw', hwait, rfl⟩
  | doomed => exact waitedOn_retire hw' hwait rfl
  -- a waiting worker was waiting before it moved
  | lock j w key hw hpc => exact waitedOn_goto hw' hwait rfl hw fun _ => by rw [hpc]; rfl
  | advance a j w pc es hw hes hrun hg hfrom => exact waitedOn_goto hw' hwait rfl hw hfrom
  | mark j w now ok guard r hw hpc => exact waitedOn_goto hw' hwait rfl hw fun _ => by rw [hpc]; rfl
  | call j w hw => exact waitedOn_goto hw' hwait rfl hw fun h => by cases h
  | file a j w c guard hw => exact waitedOn_goto hw' hwait rfl hw fun h => by cases h
  | unwind a j w e guard es hw =>
    exact waitedOn_goto hw' hwait (unlock_workers _ w.job) hw fun h => by cases h
  | finish j w c r => exact waitedOn_retire hw' hwait (unlock_workers _ w.job)
  | abort => exact waitedOn_retire hw' hwait rfl
  -- no worker outlives a crash
  | crash => cases hw'
  -- a reset keeps the workers
  | reset ok removed =>
    rw [(s.reset_workers_trace ok removed).1] at hw'
    exact .inl ⟨w', hw', hwait, rfl⟩

/-! ### The retained policy -/

/-- Only installations, resets and restarts touch the retained policy. -/
theorem step_policy {a : Label} (h : step cfg s a = some s') :
    s'.guard.policy = s.guard.policy ∨ a = .crash ∨ (∃ ok removed, a = .reset ok removed) ∨
      ∃ wire fileOk ok, a = .installPolicy wire fileOk ok := by
  -- a mark changes the journal only
  have hmarked : ∀ {job : Job} {guard : GovernedCommandGuard} {r : Py Unit},
      s.guard.Marked job guard r → guard.policy = s.guard.policy := by
    intro job guard r hm
    obtain ⟨rfl, _⟩ | ⟨_, _, _, _, _, _, _, rfl, _⟩ := hm.write <;> rfl
  cases step_moves h with
  -- the policy is left alone
  | quiet | accept | doomed | lock | advance | call => exact .inl rfl
  | mark i w now ok guard r hw hpc hg hm => exact .inl (hmarked hm)
  | file a i w c guard hw hpc hg hm => exact .inl (hmarked hm)
  | unwind a i w e guard es hw hpc hes hguard =>
    left
    rw [goto_guard, unlock_guard]
    obtain rfl | ⟨_, r, hm⟩ := hguard
    · rfl
    · exact hmarked hm
  | finish i w c r hw hpc =>
    left
    rw [retire_guard, unlock_guard, emit_guard]
  | abort a i w e guard es hw hpc hes hguard =>
    left
    obtain rfl | ⟨_, r, hm⟩ := hguard
    · rfl
    · exact hmarked hm
  -- a restart, a reset and an installation are named
  | crash => exact .inr (.inl rfl)
  | reset ok removed => exact .inr (.inr (.inl ⟨ok, removed, rfl⟩))
  | policy wire fileOk ok => exact .inr (.inr (.inr ⟨wire, fileOk, ok, rfl⟩))

end RpcState

namespace Timed

open GovernedCommandGuard RpcState

variable {cfg : RpcConfig} {s s' : Timed}

/-! ## Runs -/

/-- A waiting command: it was not issued ahead of the clock, its expiry can be read, and the
    retained policy holds its control. -/
structure Awaits (cfg : GuardConfig) (now : Int) (policy : Json) (job : Job) : Prop where
  issued : ∃ issuedAt, parseTime cfg (field job.payload "issued_at") = .ok issuedAt ∧
    WithinOffset cfg.maxClockOffset (issuedAt.utc - now)
  expires : ∃ expiresAt, parseTime cfg (field job.payload "expires_at") = .ok expiresAt
  control : HoldsControl policy job.payload

/-- Time only makes a lead smaller. -/
theorem Awaits.later {c : GuardConfig} {now t : Int} {policy : Json} {job : Job}
    (h : Awaits c now policy job) (hle : now ≤ t) : Awaits c t policy job := by
  obtain ⟨issuedAt, hissued, hahead⟩ := h.issued
  exact ⟨⟨issuedAt, hissued, hahead.mono (by omega)⟩, h.expires, h.control⟩

/-- Every governed command that waits is one that may run. -/
def Inv (cfg : RpcConfig) (s : Timed) : Prop :=
  ∀ i w, s.state.workers.get? i = some w → w.pc.waiting = true → w.job.governed = true →
    Awaits cfg.guard s.now s.state.guard.policy w.job

/-- What an enabled step is. -/
theorem step_eq_some {a : Int × Label} (h : s.step cfg a = some s') :
    s.now ≤ a.1 ∧ ReadsClock a.1 a.2 ∧ s'.now = a.1 ∧
      RpcState.step cfg s.state a.2 = some s'.state := by
  simp only [step] at h
  split at h
  · next hclock =>
    obtain ⟨state, hstep, rfl⟩ := Option.map_eq_some_iff.mp h
    exact ⟨hclock.1, hclock.2, rfl, hstep⟩
  · cases h

/-- A policy that is installed while a command waits has its control. -/
theorem KeepsControl.installed {u : RpcState} {t : Int} {wire : Json} {fileOk ok : Bool} {i : Nat}
    {w : Worker} (h : KeepsControl cfg u t (.installPolicy wire fileOk ok))
    (hw : u.workers.get? i = some w) (hwait : w.pc.waiting = true) (hg : w.job.governed = true)
    (hold : HoldsControl u.guard.policy w.job.payload) :
    HoldsControl (u.guard.installPolicy cfg.guard wire fileOk ok).1.policy w.job.payload := by
  unfold GovernedCommandGuard.installPolicy
  simp only [KeepsControl] at h
  cases hcheck : checkPolicy cfg.guard u.guard wire with
  | error e => exact hold
  | ok checked =>
    obtain ⟨payload, epoch⟩ := checked
    rw [hcheck] at h
    cases fileOk with
    | false => exact hold
    | true => exact h rfl _ (Dict.mem_of_get? hw) hwait hg

/-- Every punctual step keeps the commands valid. -/
theorem Inv.step {a : Int × Label} (hI : s.Inv cfg) (hpunctual : Punctual cfg s a)
    (h : s.step cfg a = some s') : s'.Inv cfg := by
  obtain ⟨hle, hreads, hnow, hstep⟩ := step_eq_some h
  obtain ⟨t, a⟩ := a
  dsimp only at hle hreads hnow hstep
  intro i w' hw' hwait hg
  rw [hnow]
  rcases step_waiting hstep hw' hwait with ⟨w, hw, hwait₀, hjob⟩ | ⟨d, r, rfl, hstarted⟩
  · have hawaits : Awaits cfg.guard t s.state.guard.policy w'.job :=
      (hjob ▸ hI i w hw hwait₀ (hjob ▸ hg)).later hle
    rcases step_policy hstep with hpolicy | rfl | ⟨ok, removed, rfl⟩ | ⟨wire, fileOk, ok, rfl⟩
    · exact hpolicy ▸ hawaits
    · -- nobody survives a restart
      simp only [RpcState.step, crash] at hstep
      split at hstep
      · rw [← Option.some.inj hstep, Dict.get?_nil] at hw'
        cases hw'
      · cases hstep
    · have hnot : w.job.governed = false := hpunctual.2 _ (Dict.mem_of_get? hw) hwait₀
      rw [hjob, hg] at hnot
      cases hnot
    · refine { hawaits with control := ?_ }
      simp only [RpcState.step, Option.some.injEq] at hstep
      rw [← hstep]
      exact hjob ▸ hpunctual.2.installed hw hwait₀ (hjob ▸ hg) (hjob ▸ hawaits.control)
  · -- the command has just been accepted
    obtain ⟨_, hvalid⟩ := RpcHandler.onRpcRequest_started hstarted
    obtain ⟨control, hvalid⟩ := hvalid hg
    have hahead : NotAhead cfg.guard d.clock.now w'.job := by
      have hkept := hpunctual.2
      simp only [KeepsControl, hstarted] at hkept
      have hclock : d.clock.now = t := hreads
      exact hclock ▸ hkept hg
    have hvalid := validate_valid hvalid hahead
    have hpolicy : s'.state.guard.policy = s.state.guard.policy := by
      simp only [RpcState.step, Option.some.injEq] at hstep
      rw [← hstep]
      simp only [deliver, hstarted]
      rfl
    obtain ⟨expiresAt, hexpires, _⟩ := hvalid.unexpired
    have hclock : d.clock.now = t := hreads
    rw [hpolicy, ← hclock]
    exact ⟨hvalid.issued, ⟨expiresAt, hexpires⟩, hvalid.control⟩

/-- Commands are valid when they run: in every run from a fresh start whose steps are punctual,
    whenever the handler of a governed command is called, the command has been issued, it has not
    expired, and the policy that is retained then holds its control under its epoch, revisions and
    checksum. -/
theorem called_valid {labels : List (Int × Label)} {t : Int} {i : Nat} {w : Worker}
    (hboot : Booted cfg s.state)
    (hpunctual : Run.Along (step cfg) (Punctual cfg) s (labels ++ [(t, .call i)]))
    (h : Run.exec (step cfg) s labels = some s') (hcall : (s'.step cfg (t, .call i)).isSome)
    (hw : s'.state.workers.get? i = some w) (hg : w.job.governed = true) :
    ValidAt cfg.guard t s'.state.guard.policy w.job := by
  have hstart : s.Inv cfg := by
    obtain ⟨_, _, _, _, hs⟩ := hboot
    intro i w hw
    rw [hs, Dict.get?_nil] at hw
    cases hw
  have hI : s'.Inv cfg := Run.exec_invariant (fun _ _ _ hI hP h => hI.step hP h) hstart
    hpunctual.of_append h
  obtain ⟨hpunctual, _⟩ := hpunctual.of_append_right h
  obtain ⟨s'', hcall⟩ := Option.isSome_iff_exists.mp hcall
  obtain ⟨hle, _, _, hstep⟩ := step_eq_some hcall
  have hwait : w.pc.waiting = true := by
    obtain ⟨w₀, hw₀, hready⟩ := Option.bind_eq_some_iff.mp hstep
    obtain rfl : w₀ = w := Option.some.inj (hw₀.symm.trans hw)
    simp only [call] at hready
    split at hready
    · next hpc => rw [hpc]; rfl
    · cases hready
  have hawaits := (hI i w hw hwait hg).later hle
  obtain ⟨expiresAt, hexpires⟩ := hawaits.expires
  have hunexpired := hpunctual.1 _ (Dict.mem_of_get? hw) hwait hg
  simp only [Unexpired, hexpires] at hunexpired
  exact ⟨hawaits.issued, ⟨expiresAt, hexpires, hunexpired⟩, hawaits.control⟩

open PumpStation

/-- One command whose handler is called two seconds after it was issued. -/
def promptRun : List (Int × Label) :=
  [(newYear + 1000000, receive (command "command-1" (.int 7) 1)),
    (newYear + 1000000, .acquire 0), (newYear + 1500000, .prerequisites 0 (.ok ())),
    (newYear + 1500000, .markExecuting 0 newYear true)]

/-- A command that waits for two seconds. -/
theorem called_valid_prompt : ∃ s' w,
    Run.exec (step config) ⟨boot, newYear⟩ promptRun = some s' ∧
    s'.state.workers.get? 0 = some w ∧
    ValidAt config.guard (newYear + 2000000) s'.state.guard.policy w.job := by
  have hrun : ((Run.exec (step config) ⟨boot, newYear⟩ promptRun).bind fun s' =>
      (s'.state.workers.get? 0).map fun w =>
        (w.job.governed, (s'.step config (newYear + 2000000, .call 0)).isSome)) =
      some (true, true) := by decide +kernel
  simp only [Option.bind_eq_some_iff, Option.map_eq_some_iff, Prod.mk.injEq] at hrun
  obtain ⟨s', h, w, hw, hg, hcall⟩ := hrun
  exact ⟨s', w, h, hw, called_valid boot_booted (by decide +kernel) h hcall hw hg⟩

/-- The same command waits for its lock until its expiry has passed. -/
def lateRun : List (Int × Label) :=
  [(newYear + 1000000, receive (command "command-1" (.int 7) 1)),
    (newYear + 31000000, .acquire 0), (newYear + 31000000, .prerequisites 0 (.ok ())),
    (newYear + 31000000, .markExecuting 0 newYear true)]

/-- The handler is called a second after the command has expired. -/
theorem called_expired : Booted config boot ∧ ∃ s' w,
    Run.exec (step config) ⟨boot, newYear⟩ lateRun = some s' ∧
    (s'.step config (newYear + 31000000, .call 0)).isSome ∧
    s'.state.workers.get? 0 = some w ∧ w.job.governed = true ∧
    ¬ ValidAt config.guard (newYear + 31000000) s'.state.guard.policy w.job := by
  refine ⟨boot_booted, ?_⟩
  have hrun : ((Run.exec (step config) ⟨boot, newYear⟩ lateRun).bind fun s' =>
      (s'.state.workers.get? 0).map fun w =>
        (w.job.governed, (s'.step config (newYear + 31000000, .call 0)).isSome,
          decide (Unexpired config.guard (newYear + 31000000) w.job))) =
      some (true, true, false) := by decide +kernel
  simp only [Option.bind_eq_some_iff, Option.map_eq_some_iff, Prod.mk.injEq,
    decide_eq_false_iff_not] at hrun
  obtain ⟨s', h, w, hw, hg, hcall, hexpired⟩ := hrun
  refine ⟨s', w, h, hcall, hw, hg, fun hvalid => hexpired ?_⟩
  obtain ⟨expiresAt, hexpires, hlt⟩ := hvalid.unexpired
  simp only [Unexpired, hexpires]
  exact hlt

end Timed

end Novena

import NovenaGateway.Native.DeploymentSetup
import NovenaGateway.Spec.ClaimReset
import NovenaGateway.Spec.ControlEpoch

/-!
# Messages of a former claim

Configurations, policies and commands are signed for a gateway, not for a claim, and what keeps
them from being carried out twice, the two journals and the retained policy, is forgotten at a
claim change. A message that got past its checks once gets past them again unless something in the
state or in the clock stops it, and `Tenancy.not_replayed` says for whole runs that no message is
taken under two claims exactly when each one that arrives again is stopped.

Key results:
- `Tenancy.takes_iff_not_stops`
- `Tenancy.not_replayed`
- `Tenancy.former_messages_taken`
-/

namespace Novena

open GovernedCommandGuard (field)

/-- A signed message. -/
inductive Message where
  | config (wire : Dict String Json)
  | policy (wire : Json)
  | command (payload : Dict String Json)

/-- How a message finds the gateway. -/
structure Moment where
  releasePending : Bool
  clock : Clock

/-! ## Configurations -/

namespace ConfigEnvelopeGuard

/-- `expires_at` of an envelope. -/
def expiry (cfg : GuardConfig) (wire : Dict String Json) : Py IsoTime :=
  (Json.obj wire).item "expires_at" >>= fun t => cfg.fromisoformat t.toStr

/-- `int(body["revision"])`. -/
def revision (wire : Dict String Json) : Py Int := (Json.obj wire).item "revision" >>= Json.toInt

/-- `str(body["idempotency_key"])`. -/
def idempotencyKey (wire : Dict String Json) : String := (field wire "idempotency_key").toStr

/-- What is not rejected is the value. -/
theorem rejectSetup_eq_ok {α : Type} {msg : String} {x : Py α} {a : α} :
    rejectSetup msg x = .ok a ↔ x = .ok a := by
  cases x with
  | ok b => exact Iff.rfl
  | error e =>
    simp only [rejectSetup]
    split <;> simp

/-- The checks on what was signed look at the clock for the expiry only. -/
theorem verifyBody_again {cfg : GuardConfig} {clock clock' : Clock} {wire config : Dict String Json}
    {key : String} (h : verifyBody cfg clock wire = .ok (config, key)) {expiresAt : IsoTime}
    (hexpiry : expiry cfg wire = .ok expiresAt) (hlt : clock'.now < expiresAt.utc) :
    verifyBody cfg clock' wire = .ok (config, key) ∧ key = idempotencyKey wire := by
  simp only [verifyBody, Except.bind_eq_ok, requireSetup_eq_ok, rejectSetup_eq_ok,
    decide_eq_true_eq] at h
  obtain ⟨_, hschema, serial, hserial, _, htarget, _, hidentity, expiresAt', hexpiry', _, _, hrest⟩
    := h
  refine ⟨?_, ?_⟩
  · simp only [verifyBody, Except.bind_eq_ok, requireSetup_eq_ok, rejectSetup_eq_ok,
      decide_eq_true_eq]
    exact ⟨(), hschema, serial, hserial, (), htarget, (), hidentity, expiresAt,
      Except.bind_eq_ok.mp hexpiry, (), hlt, hrest⟩
  · split at hrest
    · simp only [Except.bind_eq_ok, Except.pure_eq_ok, Prod.mk.injEq] at hrest
      obtain ⟨_, _, _, rfl⟩ := hrest
      rfl
    · cases hrest

/-- A configuration that was accepted once is accepted again unless its key is on record or its
    revision is not above the recorded maximum. -/
theorem verify_again {cfg : GuardConfig} {journal journal' : ConfigReplayJournal}
    {clock clock' : Clock} {wire config : Dict String Json} {key : String} {n : Int}
    (h : verify cfg journal clock wire = .ok (.apply config key n)) {expiresAt : IsoTime}
    (hexpiry : expiry cfg wire = .ok expiresAt) (hlt : clock'.now < expiresAt.utc) :
    (∃ config' key' n', verify cfg journal' clock' wire = .ok (.apply config' key' n')) ↔
      ready cfg clock' = true ∧ journal'.get (idempotencyKey wire) = none ∧
        ∃ n, revision wire = .ok n ∧ journal'.state.maxRevision < n := by
  simp only [verify, Except.bind_eq_ok, requireSetup_eq_ok] at h
  obtain ⟨_, _, _, hsignature, ⟨config₀, key₀⟩, hbody, hrest⟩ := h
  obtain ⟨hbody', hkey⟩ := verifyBody_again hbody hexpiry hlt
  subst hkey
  -- the signature and the body answer as they did, so only three checks are left
  simp only [verify, Except.bind_eq_ok, requireSetup_eq_ok, hsignature, hbody']
  constructor
  -- accepted again: the clock is ready, the key not seen, the revision above the floor
  · rintro ⟨config', key', n', _, hready, _, _, ⟨config₁, key₁⟩, hpair, hverdict⟩
    obtain ⟨rfl, rfl⟩ := Prod.mk.inj (Except.ok.inj hpair)
    refine ⟨hready, ?_⟩
    dsimp only at hverdict
    split at hverdict
    · cases hverdict
    · next hget =>
      simp only [Except.bind_eq_ok, rejectSetup_eq_ok, requireSetup_eq_ok,
        decide_eq_true_eq] at hverdict
      obtain ⟨m, hm, _, hmax, _⟩ := hverdict
      exact ⟨hget, m, Except.bind_eq_ok.mpr hm, hmax⟩
  -- and these three are enough
  · rintro ⟨hready, hget, m, hm, hmax⟩
    refine ⟨config₀, idempotencyKey wire, m, (), hready, (), trivial, _, rfl, ?_⟩
    dsimp only
    rw [hget]
    simp only [Except.bind_eq_ok, rejectSetup_eq_ok, requireSetup_eq_ok, decide_eq_true_eq]
    exact ⟨m, Except.bind_eq_ok.mp hm, (), hmax, rfl⟩

/-- A configuration that is applied has not expired. -/
theorem verify_unexpired {cfg : GuardConfig} {journal : ConfigReplayJournal} {clock : Clock}
    {wire config : Dict String Json} {key : String} {n : Int}
    (h : verify cfg journal clock wire = .ok (.apply config key n)) :
    ∃ expiresAt, expiry cfg wire = .ok expiresAt ∧ clock.now < expiresAt.utc := by
  simp only [verify, verifyBody, Except.bind_eq_ok, requireSetup_eq_ok, rejectSetup_eq_ok,
    decide_eq_true_eq] at h
  obtain ⟨_, _, _, _, _, ⟨_, _, _, _, _, _, _, _, expiresAt, hexpiry, _, hlt, _⟩, _⟩ := h
  exact ⟨expiresAt, Except.bind_eq_ok.mpr hexpiry, hlt⟩

/-- And it has the revision it is recorded with. -/
theorem verify_revision {cfg : GuardConfig} {journal : ConfigReplayJournal} {clock : Clock}
    {wire config : Dict String Json} {key : String} {n : Int}
    (h : verify cfg journal clock wire = .ok (.apply config key n)) : revision wire = .ok n := by
  simp only [verify, Except.bind_eq_ok] at h
  obtain ⟨_, _, _, _, ⟨_, _⟩, _, hrest⟩ := h
  dsimp only at hrest
  split at hrest
  · cases hrest
  · simp only [Except.bind_eq_ok, rejectSetup_eq_ok, Except.pure_eq_ok, Verdict.apply.injEq]
      at hrest
    obtain ⟨m, hm, _, _, _, _, rfl⟩ := hrest
    exact Except.bind_eq_ok.mpr hm

end ConfigEnvelopeGuard

/-! ## Policies -/

namespace GovernedCommandGuard

/-- A policy that was installed once is installed again unless its epoch is below the anchor. -/
theorem checkPolicy_again {cfg : GuardConfig} {g g' : GovernedCommandGuard} {wire payload : Json}
    {epoch : Int} (h : checkPolicy cfg g wire = .ok (payload, epoch)) :
    (∃ p, checkPolicy cfg g' wire = .ok p) ↔
      ∃ n, policyEpoch wire = .ok n ∧ g'.journal.maxEpoch ≤ n := by
  cases wire with
  -- a policy that was checked is an object
  | null | bool | int | float | str | arr => cases h
  | obj fields =>
    simp only [checkPolicy, Except.bind_eq_ok, require_eq_ok, decide_eq_true_eq] at h
    obtain ⟨_, hsigned, payload, hpayload, sum, hsum, _, hchecksum, schema, hschema, _,
      hsupported, serial, hserial, _, htarget, current, hcurrent, n, hn, _⟩ := h
    have hepoch : policyEpoch (.obj fields) = .ok n := by
      simp only [policyEpoch, Except.bind_eq_ok]
      exact ⟨payload, hpayload, current, hcurrent, hn⟩
    simp only [checkPolicy, Except.bind_eq_ok, require_eq_ok, decide_eq_true_eq]
    constructor
    -- the checks that look at the message alone have one result
    · rintro ⟨_, _, _, payload', hpayload', _, _, _, _, _, _, _, _, _, _, _, _, current',
        hcurrent', n', hn', _, hle, _⟩
      obtain rfl := Except.ok.inj (hpayload.symm.trans hpayload')
      obtain rfl := Except.ok.inj (hcurrent.symm.trans hcurrent')
      exact ⟨n', hepoch.trans (hn.symm.trans hn'), hle⟩
    -- the last of them compares its epoch with the greatest one installed
    · rintro ⟨n', hn', hle⟩
      obtain rfl := Except.ok.inj (hepoch.symm.trans hn')
      exact ⟨_, (), hsigned, payload, hpayload, sum, hsum, (), hchecksum, schema, hschema,
        (), hsupported, serial, hserial, (), htarget, current, hcurrent, n, hn, (), hle, rfl⟩

/-! ## Commands -/

/-- The time stamps of a command pass the test against the trusted window. -/
def InWindow (cfg : GuardConfig) (now : Int) (payload : Dict String Json) : Prop :=
  ∃ issuedAt expiresAt, parseTime cfg (field payload "issued_at") = .ok issuedAt ∧
    parseTime cfg (field payload "expires_at") = .ok expiresAt ∧
    (!(cfg.maxClockOffset.max (totalSeconds (expiresAt.utc - issuedAt.utc))).lt
      (totalSeconds |now - issuedAt.utc|)) = true

/-- The retained policy admits a command. -/
structure Admits (g : GovernedCommandGuard) (payload : Dict String Json) : Prop where
  policy : g.policy.truthy = true
  epoch : ∃ n current, ((payload.get? "control_epoch").getD (.int 0)).toInt = .ok n ∧
    g.controlEpoch = .ok current ∧ (Json.int n).eq current = true
  control : ∃ control expected, validateControl g payload = .ok control ∧
    ((field payload "params").orElse (.obj [])).get "expected_value" = .ok expected ∧
    validateLimits control expected = .ok ()

/-- A command that was accepted once is accepted again while it is not expired, if the clock is
    ready, its window is met, the retained policy admits it, and the journal has neither a record
    of it nor a sequence that reaches its own. -/
theorem validate_again {cfg : GuardConfig} {g g' : GovernedCommandGuard} {clock clock' : Clock}
    {payload : Dict String Json} {control : Json} {replay : Option CommandRecord}
    (h : g.validate cfg clock payload = .ok (control, replay)) {expiresAt : IsoTime}
    (hexpires : parseTime cfg (field payload "expires_at") = .ok expiresAt)
    (hlt : clock'.now < expiresAt.utc) :
    (∃ control', g'.validate cfg clock' payload = .ok (control', none)) ↔
      clock'.ready = true ∧ InWindow cfg clock'.now payload ∧ g'.Admits payload ∧
        g'.validateFresh payload = .ok none := by
  simp only [validate, validateEnvelope, Except.bind_eq_ok, require_eq_ok] at h
  obtain ⟨_, ⟨_, hclock, _, _, _, hsigned, _, hschema, _, hrequest, _, hcommand, _, hkey, serial,
    hserial, _, htarget, issuedAt, hissued, _, _, _, _, _, _, n, hn, _⟩, _⟩ := h
  -- the claim asks for a trusted clock, as the first delivery did
  have htrusted : cfg.trustedClock = true := (Bool.and_eq_true _ _ ▸ hclock).1
  simp only [validate, validateEnvelope, Except.bind_eq_ok, require_eq_ok, Except.pure_eq_ok]
  constructor
  -- what depends on the guard: the policy, the control and its limits, the journal
  · rintro ⟨control', _, ⟨_, hready, _, hpolicy, _, _, _, _, _, _, _, _, _, _, _, _, _, _, issued',
      hissued', expires', hexpires', _, _, _, hwindow, n', hn', current, hcurrent, heq⟩, found,
      hfound, expected, hexpected, _, hlimits, _, hfresh, hpair⟩
    refine ⟨?_, ⟨issued', expires', hissued', hexpires', hwindow⟩,
      ⟨hpolicy, ⟨n', current, hn', hcurrent, heq⟩, found, expected, hfound, hexpected, hlimits⟩, ?_⟩
    · rw [htrusted] at hready
      exact hready
    · rw [hfresh, (Prod.mk.inj hpair).2]
  -- what does not depend on it is taken over from the first delivery
  · rintro ⟨hready, ⟨issued', expires', hissued', hexpires', hwindow⟩,
      ⟨hpolicy, ⟨n', current, hn', hcurrent, heq⟩, found, expected, hfound, hexpected, hlimits⟩,
      hfresh⟩
    obtain rfl := Except.ok.inj (hexpires.symm.trans hexpires')
    refine ⟨found, (), ⟨(), ?_, (), hpolicy, (), hsigned, (), hschema, (), hrequest, (), hcommand,
      (), hkey, serial, hserial, (), htarget, issued', hissued', expiresAt, hexpires, (), ?_, (),
      hwindow, n', hn', current, hcurrent, heq⟩, found, hfound, expected, hexpected, (), hlimits,
      none, hfresh, rfl⟩
    · rw [htrusted, hready]
      rfl
    · exact decide_eq_true hlt

/-- A command that is validated has an id and has not expired. -/
theorem validate_unexpired {cfg : GuardConfig} {g : GovernedCommandGuard} {clock : Clock}
    {payload : Dict String Json} {control : Json} {replay : Option CommandRecord}
    (h : g.validate cfg clock payload = .ok (control, replay)) :
    isNonBlank (field payload "command_id") = true ∧
      ∃ expiresAt, parseTime cfg (field payload "expires_at") = .ok expiresAt ∧
        clock.now < expiresAt.utc := by
  simp only [validate, validateEnvelope, Except.bind_eq_ok, require_eq_ok, decide_eq_true_eq] at h
  obtain ⟨_, ⟨_, _, _, _, _, _, _, _, _, _, _, hcommand, _, _, _, _, _, _, _, _, expiresAt,
    hexpires, _, hlt, _⟩, _⟩ := h
  exact ⟨hcommand, expiresAt, hexpires, hlt⟩

/-- The journal knows neither the command nor a sequence of its device that reaches its own. -/
def Unseen (g : GovernedCommandGuard) (payload : Dict String Json) : Prop :=
  (∀ c, field payload "command_id" = .str c → g.journal.get c = none) ∧
    ∃ n deviceId highest, ((payload.get? "sequence_number").getD (.int 0)).toInt = .ok n ∧
      ((field payload "target").orElse (.obj [])).get "device_id" = .ok deviceId ∧
      g.journal.maxSequence deviceId = .ok highest ∧ highest < n

/-- It is fresh when it was not seen. -/
theorem validateFresh_eq_none {g : GovernedCommandGuard} {payload : Dict String Json}
    (hid : isNonBlank (field payload "command_id") = true) :
    g.validateFresh payload = .ok none ↔ g.Unseen payload := by
  cases hc : field payload "command_id" with
  | str c =>
    simp only [validateFresh, hc, Unseen, Json.str.injEq, forall_eq']
    cases hget : g.journal.get c with
    | some record =>
      simp only [reduceCtorEq, false_and, iff_false]
      split <;> simp
    | none =>
      simp only [true_and, Except.bind_eq_ok, require_eq_ok, decide_eq_true_eq, Except.pure_eq_ok]
      constructor
      · rintro ⟨n, hn, deviceId, hd, highest, hh, _, hlt, _⟩
        exact ⟨n, deviceId, highest, hn, hd, hh, hlt⟩
      · rintro ⟨n, deviceId, highest, hn, hd, hh, hlt⟩
        exact ⟨n, hn, deviceId, hd, highest, hh, (), hlt, trivial⟩
  | null | bool | int | float | arr | obj =>
    rw [hc] at hid
    cases hid

end GovernedCommandGuard

namespace RpcHandler

variable {cfg : RpcConfig}

/-- It is started when it is admitted and valid. -/
theorem admitGoverned_started {g : GovernedCommandGuard} {clock : Clock} {job : Job}
    (hg : job.governed = true) :
    (∃ r job', admitGoverned cfg g clock job = .started r job' ∧ job'.governed = true) ↔
      precheck cfg job = none ∧
        ∃ control, g.validate cfg.guard clock job.payload = .ok (control, none) := by
  simp only [admitGoverned]
  cases precheck cfg job with
  | some error => simp [reject]
  | none =>
    rcases hv : g.validate cfg.guard clock job.payload with e | ⟨control, replay?⟩
    · cases e <;> simp [reject]
    · cases replay? with
      | some record => simp [replay]
      | none => simpa [start, Job.governed] using hg

/-- What a payload that has started a governed worker once leads to when it comes again. -/
theorem onRpcRequest_again {g : GovernedCommandGuard} {clock : Clock}
    {payload : Dict String Json} {pending : Bool} {r : Response} {job : Job}
    (h : onRpcRequest cfg g ⟨pending, clock, .obj payload⟩ = .started r job)
    (hg : job.governed = true) (g' : GovernedCommandGuard) (clock' : Clock) :
    ∃ job₀ : Job, job₀.payload = payload ∧ job₀.governed = true ∧ precheck cfg job₀ = none ∧
      (∃ control, g.validate cfg.guard clock payload = .ok (control, none)) ∧
      onRpcRequest cfg g' ⟨false, clock', .obj payload⟩ = admitGoverned cfg g' clock' job₀ := by
  -- the handler is run once more along the branch the first delivery took
  simp only [onRpcRequest] at h ⊢
  split at h
  · cases h
  split at h
  · next requestId hrequest =>
    split at h
    · cases h
    · next hstrip =>
      split at h
      · cases h
      · next key hkey =>
        split at h
        · next hmem =>
          split at h
          · next params hparams =>
            split at h
            -- a governed command comes to `_admit_governed` with the same job
            · next hgov =>
              obtain ⟨hpre, hvalid⟩ := (admitGoverned_started hgov).mp ⟨r, job, h, hg⟩
              refine ⟨_, rfl, hgov, hpre, hvalid, ?_⟩
              simp only [hstrip, hmem, hgov, if_true, if_false, Bool.false_eq_true]
            · next hgov =>
              -- a request that is not governed starts the job as it is
              split at h
              · simp only [admitDiagnostic] at h
                split at h
                · cases h
                · cases h
                · simp only [start, Admission.started.injEq] at h
                  exact absurd (h.2 ▸ hg) hgov
              · simp only [start, Admission.started.injEq] at h
                exact absurd (h.2 ▸ hg) hgov
          · cases h
        · cases h
  · cases h

end RpcHandler

/-! ## The gateway from claim to claim -/

/-- The parts of the gateway that signed messages reach, the number of the claim, and the messages
    that got past their checks, each with the claim it was received under. -/
structure Tenancy where
  configJournal : ConfigReplayJournal
  rpc : RpcState
  claim : Nat
  taken : List (Nat × Message)

namespace Tenancy

variable (cfg : RpcConfig)

/-- A message gets past its checks: the configuration goes on to be applied, the policy to be
    installed, the command to be executed. -/
def Takes (s : Tenancy) (moment : Moment) : Message → Prop
  | .config wire => moment.releasePending = false ∧ ∃ config key n,
      ConfigEnvelopeGuard.verify cfg.guard s.configJournal moment.clock wire =
        .ok (.apply config key n)
  | .policy wire => moment.releasePending = false ∧
      ∃ p, GovernedCommandGuard.checkPolicy cfg.guard s.rpc.guard wire = .ok p
  | .command payload => ∃ r job,
      RpcHandler.onRpcRequest cfg s.rpc.guard
        ⟨moment.releasePending, moment.clock, .obj payload⟩ = .started r job ∧
      job.governed = true

/-- The messages that arrive, the workers and the process, and the claim. `.reset` among the
    actions of the workers and `configReset` are the resets of a release or of a claim change that
    an exception leaves half done. -/
inductive Label where
  /-- `outcome` is what applying the configuration comes to, `ok` whether the journal is saved. -/
  | config (moment : Moment) (wire : Dict String Json) (outcome : Option UpdateResult) (ok : Bool)
  | policy (moment : Moment) (wire : Json) (fileOk ok : Bool)
  | command (moment : Moment) (payload : Dict String Json)
  | worker (a : Novena.Label)
  | configReset (ok : Bool)
  | changeClaim

/-- The message an action delivers. -/
def Label.message? : Label → Option (Moment × Message)
  | .config moment wire _ _ => some (moment, .config wire)
  | .policy moment wire _ _ => some (moment, .policy wire)
  | .command moment payload => some (moment, .command payload)
  | .worker _ | .configReset _ | .changeClaim => none

/-- `_on_config_update` as far as the journal goes. -/
def onConfigUpdate (s : Tenancy) (moment : Moment) (wire : Dict String Json)
    (outcome : Option UpdateResult) (ok : Bool) : Tenancy :=
  if moment.releasePending then s else
  match ConfigEnvelopeGuard.verify cfg.guard s.configJournal moment.clock wire with
  | .ok (.apply _ key n) =>
    { s with
      taken := s.taken ++ [(s.claim, .config wire)]
      configJournal := match outcome with
        | some result => (s.configJournal.record key n result ok).1
        | none => s.configJournal }
  | _ => s

/-- `_on_control_policy`. -/
def onControlPolicy (s : Tenancy) (moment : Moment) (wire : Json) (fileOk ok : Bool) : Tenancy :=
  if moment.releasePending then s else
  { s with
    rpc := s.rpc.installPolicy cfg wire fileOk ok
    taken := match GovernedCommandGuard.checkPolicy cfg.guard s.rpc.guard wire with
      | .ok _ => s.taken ++ [(s.claim, .policy wire)]
      | .error _ => s.taken }

/-- `_on_rpc_request`. -/
def onRpcRequest (s : Tenancy) (moment : Moment) (payload : Dict String Json) : Tenancy :=
  let d : Delivery := ⟨moment.releasePending, moment.clock, .obj payload⟩
  { s with
    rpc := s.rpc.deliver cfg d
    taken := match RpcHandler.onRpcRequest cfg s.rpc.guard d with
      | .started _ job =>
        if job.governed then s.taken ++ [(s.claim, .command payload)] else s.taken
      | _ => s.taken }

/-- What the workers and the process do by themselves. -/
def worker (s : Tenancy) (a : Novena.Label) : Option Tenancy :=
  match a with
  | .deliver _ | .installPolicy .. => none
  | .crash => (s.rpc.step cfg .crash).map fun rpc =>
    { s with rpc, configJournal := .init s.configJournal.file }
  | a => (s.rpc.step cfg a).map fun rpc => { s with rpc }

/-- `_reset_field_state_for_new_claim`. -/
def changeClaim (s : Tenancy) : Tenancy :=
  { s with configJournal := (s.configJournal.reset true).1
           rpc := s.rpc.reset true true
           claim := s.claim + 1 }

/-- One action. -/
def step (s : Tenancy) : Label → Option Tenancy
  | .config moment wire outcome ok => some (s.onConfigUpdate cfg moment wire outcome ok)
  | .policy moment wire fileOk ok => some (s.onControlPolicy cfg moment wire fileOk ok)
  | .command moment payload => some (s.onRpcRequest cfg moment payload)
  | .worker a => s.worker cfg a
  | .configReset ok => some { s with configJournal := (s.configJournal.reset ok).1 }
  | .changeClaim => some s.changeClaim

/-- A process that has just started, over any files. -/
def Booted (s : Tenancy) : Prop :=
  ∃ file rpc, RpcState.Booted cfg rpc ∧
    s = { configJournal := .init file, rpc, claim := 0, taken := [] }

/-- A run. -/
def exec (s : Tenancy) (labels : List Label) : Option Tenancy := Run.exec (step cfg) s labels

/-! ## What stops a message -/

/-- Something in the state, or in the moment, stops a message that has got past its checks
    before. -/
def Stops (s : Tenancy) (moment : Moment) : Message → Prop
  | .config wire => moment.releasePending = true ∨
      ConfigEnvelopeGuard.ready cfg.guard moment.clock = false ∨
      (∃ t, ConfigEnvelopeGuard.expiry cfg.guard wire = .ok t ∧ t.utc ≤ moment.clock.now) ∨
      s.configJournal.get (ConfigEnvelopeGuard.idempotencyKey wire) ≠ none ∨
      ∃ n, ConfigEnvelopeGuard.revision wire = .ok n ∧ n ≤ s.configJournal.state.maxRevision
  | .policy wire => moment.releasePending = true ∨
      ∃ n, policyEpoch wire = .ok n ∧ n < s.rpc.guard.journal.maxEpoch
  | .command payload => moment.releasePending = true ∨ moment.clock.ready = false ∨
      (∃ t, GovernedCommandGuard.parseTime cfg.guard (field payload "expires_at") = .ok t ∧
        t.utc ≤ moment.clock.now) ∨
      ¬ GovernedCommandGuard.InWindow cfg.guard moment.clock.now payload ∨
      ¬ s.rpc.guard.Admits payload ∨ ¬ s.rpc.guard.Unseen payload

variable {cfg} {s s' : Tenancy}

/-- A message that has got past its checks once gets past them again unless something stops it. -/
theorem takes_iff_not_stops {s₀ : Tenancy} {moment₀ moment : Moment} {message : Message}
    (h₀ : s₀.Takes cfg moment₀ message) :
    s.Takes cfg moment message ↔ ¬ s.Stops cfg moment message := by
  cases message with
  | config wire =>
    obtain ⟨_, config, key, n, hverify⟩ := h₀
    obtain ⟨t, ht, _⟩ := ConfigEnvelopeGuard.verify_unexpired hverify
    have hn := ConfigEnvelopeGuard.verify_revision hverify
    simp only [Takes, Stops, not_or, Bool.not_eq_true]
    refine and_congr_right fun _ => ?_
    -- an expired message is neither taken nor free to be taken
    by_cases hlt : moment.clock.now < t.utc
    · rw [ConfigEnvelopeGuard.verify_again hverify ht hlt]
      simp only [ht, hn, Except.ok.injEq, exists_eq_left', Bool.not_eq_false, not_not, not_le]
      constructor
      · rintro ⟨hready, hkey, hmax⟩
        exact ⟨hready, hlt, hkey, hmax⟩
      · rintro ⟨hready, _, hkey, hmax⟩
        exact ⟨hready, hkey, hmax⟩
    · constructor
      · rintro ⟨config', key', n', hverify'⟩
        obtain ⟨t', ht', hlt'⟩ := ConfigEnvelopeGuard.verify_unexpired hverify'
        obtain rfl := Except.ok.inj (ht.symm.trans ht')
        exact absurd hlt' hlt
      · rintro ⟨_, hexpired, _⟩
        exact absurd ⟨t, ht, not_lt.mp hlt⟩ hexpired
  -- a policy has no expiry, so the epoch decides
  | policy wire =>
    obtain ⟨_, ⟨payload, epoch⟩, hcheck⟩ := h₀
    have hepoch := GovernedCommandGuard.checkPolicy_epoch hcheck
    simp only [Takes, Stops, not_or, Bool.not_eq_true]
    rw [GovernedCommandGuard.checkPolicy_again hcheck]
    simp only [hepoch, Except.ok.injEq, exists_eq_left', not_lt]
  | command payload =>
    obtain ⟨r, job, hstarted, hg⟩ := h₀
    simp only [Takes, Stops, not_or, Bool.not_eq_true, Bool.not_eq_false, not_not]
    -- during a release no command is taken
    by_cases hpending : moment.releasePending = true
    · rw [hpending]
      simp [RpcHandler.onRpcRequest]
    · rw [Bool.not_eq_true] at hpending
      obtain ⟨job₀, rfl, hg₀, hpre, ⟨control, hvalid⟩, hagain⟩ :=
        RpcHandler.onRpcRequest_again hstarted hg s.rpc.guard moment.clock
      obtain ⟨hid, t, ht, _⟩ := GovernedCommandGuard.validate_unexpired hvalid
      rw [hpending, hagain, RpcHandler.admitGoverned_started hg₀]
      simp only [hpre, true_and, ht, Except.ok.injEq, exists_eq_left', not_le]
      -- the same for the expiry of a command
      by_cases hlt : moment.clock.now < t.utc
      · rw [GovernedCommandGuard.validate_again hvalid ht hlt,
          GovernedCommandGuard.validateFresh_eq_none hid]
        constructor
        · rintro ⟨hready, hwindow, hadmits, hunseen⟩
          exact ⟨hready, hlt, hwindow, hadmits, hunseen⟩
        · rintro ⟨hready, _, hwindow, hadmits, hunseen⟩
          exact ⟨hready, hwindow, hadmits, hunseen⟩
      · constructor
        · rintro ⟨control', hvalid'⟩
          obtain ⟨_, t', ht', hlt'⟩ := GovernedCommandGuard.validate_unexpired hvalid'
          obtain rfl := Except.ok.inj (ht.symm.trans ht')
          exact absurd hlt' hlt
        · rintro ⟨_, hlt', _⟩
          exact absurd hlt' hlt

/-! ## Runs -/

/-- No message gets past its checks under two claims. -/
def NoReplay (s : Tenancy) : Prop :=
  ∀ n k message, (n, message) ∈ s.taken → (k, message) ∈ s.taken → n = k

/-- The condition the code does not see to: what arrives and was taken under a former claim is
    stopped by something. -/
def StopsFormer (cfg : RpcConfig) (s : Tenancy) (a : Label) : Prop :=
  ∀ moment message, a.message? = some (moment, message) →
    (∃ n < s.claim, (n, message) ∈ s.taken) → s.Stops cfg moment message

/-- What the messages taken have in common: they got past the checks of this gateway, under a claim
    not later than the current one. -/
structure History (cfg : RpcConfig) (s : Tenancy) : Prop where
  genuine : ∀ p ∈ s.taken, ∃ s₀ moment, Takes cfg s₀ moment p.2
  claim : ∀ p ∈ s.taken, p.1 ≤ s.claim

/-- An action takes the message it delivers, if that gets past its checks, and no other. -/
theorem step_taken {a : Label} (h : s.step cfg a = some s') :
    (s'.taken = s.taken ∧ (∀ moment message, a.message? = some (moment, message) →
        ¬ s.Takes cfg moment message)) ∨
      ∃ moment message, a.message? = some (moment, message) ∧ s.Takes cfg moment message ∧
        s'.taken = s.taken ++ [(s.claim, message)] := by
  cases a with
  | config moment wire outcome ok =>
    obtain rfl := Option.some.inj h
    -- the release flag is looked at first, then the envelope
    simp only [Label.message?, Option.some.injEq, Prod.mk.injEq, Tenancy.onConfigUpdate]
    split
    · next hpending =>
      refine .inl ⟨rfl, ?_⟩
      rintro _ _ ⟨rfl, rfl⟩ ⟨hfalse, _⟩
      cases hpending.symm.trans hfalse
    · next hpending =>
      rw [Bool.not_eq_true] at hpending
      split
      · next config key n hverify =>
        exact .inr ⟨_, _, ⟨rfl, rfl⟩, ⟨hpending, config, key, n, hverify⟩, rfl⟩
      · next hother =>
        refine .inl ⟨rfl, ?_⟩
        rintro _ _ ⟨rfl, rfl⟩ ⟨_, config, key, n, hverify⟩
        exact hother _ _ _ hverify
  | policy moment wire fileOk ok =>
    obtain rfl := Option.some.inj h
    simp only [Label.message?, Option.some.injEq, Prod.mk.injEq, Tenancy.onControlPolicy]
    -- the same for a policy
    split
    · next hpending =>
      refine .inl ⟨rfl, ?_⟩
      rintro _ _ ⟨rfl, rfl⟩ ⟨hfalse, _⟩
      cases hpending.symm.trans hfalse
    · next hpending =>
      rw [Bool.not_eq_true] at hpending
      -- `check_policy` decides, whether the files can be written or not
      cases hcheck : GovernedCommandGuard.checkPolicy cfg.guard s.rpc.guard wire with
      | ok p => exact .inr ⟨_, _, ⟨rfl, rfl⟩, ⟨hpending, p, hcheck⟩, rfl⟩
      | error e =>
        refine .inl ⟨rfl, ?_⟩
        rintro _ _ ⟨rfl, rfl⟩ ⟨_, p, hp⟩
        cases hcheck.symm.trans hp
  | command moment payload =>
    obtain rfl := Option.some.inj h
    simp only [Label.message?, Option.some.injEq, Prod.mk.injEq, Tenancy.onRpcRequest]
    split
    · next r job hstarted =>
      -- only a governed command is a message that can be taken
      split
      · next hg => exact .inr ⟨_, _, ⟨rfl, rfl⟩, ⟨r, job, hstarted, hg⟩, rfl⟩
      · next hg =>
        refine .inl ⟨rfl, ?_⟩
        rintro _ _ ⟨rfl, rfl⟩ ⟨r', job', hstarted', hg'⟩
        obtain ⟨_, rfl⟩ := Admission.started.inj (hstarted.symm.trans hstarted')
        exact hg hg'
    · next hother =>
      refine .inl ⟨rfl, ?_⟩
      rintro _ _ ⟨rfl, rfl⟩ ⟨r, job, hstarted, _⟩
      exact hother _ _ hstarted
  -- the steps of the workers take none
  | worker a =>
    refine .inl ⟨?_, by simp [Label.message?]⟩
    simp only [Tenancy.step, Tenancy.worker] at h
    split at h
    · cases h
    · cases h
    all_goals
      obtain ⟨rpc, _, rfl⟩ := Option.map_eq_some_iff.mp h
      rfl
  | configReset ok =>
    obtain rfl := Option.some.inj h
    exact .inl ⟨rfl, by simp [Label.message?]⟩
  | changeClaim =>
    obtain rfl := Option.some.inj h
    exact .inl ⟨rfl, by simp [Label.message?]⟩

/-- The claims are counted. -/
theorem step_claim {a : Label} (h : s.step cfg a = some s') : s.claim ≤ s'.claim := by
  cases a with
  | config moment wire outcome ok =>
    obtain rfl := Option.some.inj h
    simp only [Tenancy.onConfigUpdate]
    split
    · exact le_refl _
    · split <;> exact le_refl _
  | policy moment wire fileOk ok =>
    obtain rfl := Option.some.inj h
    simp only [Tenancy.onControlPolicy]
    split <;> exact le_refl _
  | worker a =>
    simp only [Tenancy.step, Tenancy.worker] at h
    split at h
    · cases h
    · cases h
    all_goals
      obtain ⟨rpc, _, rfl⟩ := Option.map_eq_some_iff.mp h
      exact le_refl _
  | command | configReset =>
    obtain rfl := Option.some.inj h
    exact le_refl _
  | changeClaim =>
    obtain rfl := Option.some.inj h
    exact Nat.le_succ _

/-- Every step keeps the history. -/
theorem History.step {a : Label} (hH : History cfg s) (h : s.step cfg a = some s') :
    History cfg s' := by
  have hclaim := step_claim h
  obtain ⟨htaken, _⟩ | ⟨moment, message, _, htakes, htaken⟩ := step_taken h
  · exact ⟨htaken ▸ hH.genuine, fun p hp => (hH.claim p (htaken ▸ hp)).trans hclaim⟩
  · rw [← List.concat_eq_append] at htaken
    refine ⟨fun p hp => ?_, fun p hp => ?_⟩
    all_goals
      rw [htaken, List.concat_eq_append, List.mem_append, List.mem_singleton] at hp
    · obtain hp | rfl := hp
      · exact hH.genuine p hp
      · exact ⟨s, moment, htakes⟩
    · obtain hp | rfl := hp
      · exact (hH.claim p hp).trans hclaim
      · exact hclaim

/-- A run takes messages that it delivers, and no others. -/
theorem mem_taken {labels : List Label} (h : s.exec cfg labels = some s') {p : Nat × Message}
    (hp : p ∈ s'.taken) :
    p ∈ s.taken ∨ ∃ moment, (moment, p.2) ∈ labels.filterMap Label.message? := by
  induction labels generalizing s with
  | nil =>
    obtain rfl := Option.some.inj h
    exact .inl hp
  | cons a labels ih =>
    obtain ⟨m, hm, hrest⟩ := Run.exec_cons.mp h
    obtain hp | ⟨moment, hmem⟩ := ih hrest
    · obtain ⟨htaken, _⟩ | ⟨moment, message, hmessage, _, htaken⟩ := step_taken hm
      · exact .inl (htaken ▸ hp)
      · rw [htaken, List.mem_append, List.mem_singleton] at hp
        obtain hp | rfl := hp
        · exact .inl hp
        · exact .inr ⟨moment, List.mem_filterMap.mpr ⟨a, List.mem_cons_self, hmessage⟩⟩
    · obtain ⟨b, hb, hmessage⟩ := List.mem_filterMap.mp hmem
      exact .inr ⟨moment, List.mem_filterMap.mpr ⟨b, List.mem_cons_of_mem a hb, hmessage⟩⟩

/-- And it replays nothing exactly when it stops what is of a former claim. -/
theorem NoReplay.step_iff {a : Label} (hH : History cfg s) (h : s.step cfg a = some s') :
    s'.NoReplay ↔ s.NoReplay ∧ StopsFormer cfg s a := by
  obtain ⟨htaken, hnone⟩ | ⟨moment, message, hmessage, htakes, htaken⟩ := step_taken h
  -- nothing is taken: a former message that comes in was not taken, so it is stopped
  · simp only [NoReplay, htaken]
    refine (and_iff_left ?_).symm
    rintro moment message hmessage ⟨n, _, hmem⟩
    obtain ⟨s₀, moment₀, h₀⟩ := hH.genuine _ hmem
    by_contra hstops
    exact hnone moment message hmessage ((takes_iff_not_stops h₀).mpr hstops)
  -- one is taken, under the claim of this moment
  · constructor
    · intro hno
      refine ⟨fun n k m hn hk => hno n k m ?_ ?_, ?_⟩
      · rw [htaken]; exact List.mem_append_left _ hn
      · rw [htaken]; exact List.mem_append_left _ hk
      · rintro moment' message' hmessage' ⟨n, hlt, hmem⟩
        obtain ⟨rfl, rfl⟩ := Prod.mk.inj (Option.some.inj (hmessage.symm.trans hmessage'))
        -- the message is now taken under both claims
        have hold : (n, message) ∈ s'.taken := by
          rw [htaken]; exact List.mem_append_left _ hmem
        have hnew : (s.claim, message) ∈ s'.taken := by
          rw [htaken]; simp
        exact absurd (hno n s.claim message hold hnew) (Nat.ne_of_lt hlt)
    · rintro ⟨hno, hstops⟩ n k m hn hk
      -- were it taken under a former claim, it would be stopped here
      have hformer : ∀ n, (n, message) ∈ s.taken → n = s.claim := by
        intro n hn
        by_contra hne
        have hlt : n < s.claim := lt_of_le_of_ne (hH.claim _ hn) hne
        exact (takes_iff_not_stops htakes).mp htakes
          (hstops moment message hmessage ⟨n, hlt, hn⟩)
      rw [htaken, List.mem_append, List.mem_singleton, Prod.mk.injEq] at hn hk
      -- of two entries, each may be the new one
      obtain hn | ⟨rfl, rfl⟩ := hn
      · obtain hk | ⟨rfl, rfl⟩ := hk
        · exact hno n k m hn hk
        · exact hformer n hn
      · obtain hk | ⟨rfl, _⟩ := hk
        · exact (hformer k hk).symm
        · rfl

/-- In every run, no message is taken under two claims exactly when every message of a former claim
    that arrives again is stopped. -/
theorem not_replayed {labels : List Label} (hboot : s.Booted cfg)
    (h : s.exec cfg labels = some s') :
    s'.NoReplay ↔ Run.Along (step cfg) (StopsFormer cfg) s labels := by
  have hstart : History cfg s ∧ s.NoReplay := by
    obtain ⟨file, rpc, _, rfl⟩ := hboot
    exact ⟨⟨fun _ h => absurd h List.not_mem_nil, fun _ h => by cases h⟩, fun _ _ _ h => by cases h⟩
  have hrun := Run.exec_iff_along (fun _ _ _ hH hstep => hH.step hstep)
    (fun _ _ _ hH hstep => NoReplay.step_iff hH hstep) hstart.1 h
  rw [hrun, and_iff_right hstart.2]

open PumpStation

/-- The station without a policy, and with an empty configuration journal. -/
def station : Tenancy where
  configJournal := .init none
  rpc := unconfigured
  claim := 0
  taken := []

/-- The station of the example has booted. -/
theorem station_booted : station.Booted signingConfig :=
  ⟨none, unconfigured, unconfigured_booted, rfl⟩

/-- One second after the messages were issued. -/
def second : Moment := ⟨false, ⟨true, newYear + 1000000⟩⟩

/-- A policy and a write command that arrive at that time. -/
def policyArrives : Label := .policy second PumpStation.policy true true
def commandArrives : Label := .command second (PumpStation.command "command-1" (.int 7) 1)

/-- A command that was taken before the claim changed finds no policy afterwards. -/
theorem not_replayed_stopped : ∃ s',
    station.exec signingConfig [policyArrives, commandArrives, .changeClaim, commandArrives] =
      some s' ∧
    Run.Along (step signingConfig) (StopsFormer signingConfig) station
      [policyArrives, commandArrives, .changeClaim, commandArrives] := by
  have hrun : (station.exec signingConfig
      [policyArrives, commandArrives, .changeClaim, commandArrives]).map
        (fun s => s.taken.map Prod.fst) = some [0, 0] := by
    decide +kernel
  obtain ⟨s', h, htaken⟩ := Option.map_eq_some_iff.mp hrun
  refine ⟨s', h, (not_replayed station_booted h).mp fun n k message hn hk => ?_⟩
  have hzero : ∀ n, (n, message) ∈ s'.taken → n = 0 := by
    intro n hn
    have hmem := List.mem_map_of_mem (f := Prod.fst) hn
    rw [htaken] at hmem
    simpa using hmem
  rw [hzero n hn, hzero k hk]

/-- A configuration envelope. -/
def envelope : Dict String Json :=
  [("schema_version", .int 1), ("request_id", .str "request-1"),
   ("idempotency_key", .str "config-1"), ("revision", .int 1),
   ("target", .obj [("gateway_serial", .str "GW-001")]),
   ("expires_at", .str "2026-01-01T00:00:30Z"), ("action", .str "full_update"),
   ("config", .obj [("connectors", .arr [])]), ("checksum", .str "9f86d081"),
   ("signing_key_id", .str "key-1"), ("signature", signature)]

/-- A configuration and the command are delivered, and the command is carried out. -/
def delivery (worker : Nat) : List Label :=
  [.config second envelope (some ⟨.success, none, [], []⟩) true, policyArrives, commandArrives] ++
  (startHandler worker).map .worker

/-- The same messages before and after the claim changed. -/
def redelivery : List Label :=
  delivery 0 ++ (endHandler 0).map .worker ++ [.changeClaim] ++ delivery 1

/-- The kind of a message. -/
def kind : Message → Nat
  | .config _ => 0
  | .policy _ => 1
  | .command _ => 2

/-- The message of each kind in that run. -/
def messageOf : Nat → Message
  | 0 => .config envelope
  | 1 => .policy PumpStation.policy
  | _ => .command (PumpStation.command "command-1" (.int 7) 1)

/-- Its messages are those of the example. -/
theorem redelivery_message {moment : Moment} {message : Message}
    (h : (moment, message) ∈ redelivery.filterMap Label.message?) :
    message = messageOf (kind message) := by
  have hmessages : redelivery.filterMap Label.message? =
      ([0, 1, 2, 0, 1, 2].map fun k => (second, messageOf k)) := rfl
  rw [hmessages] at h
  obtain ⟨k, hk, heq⟩ := List.mem_map.mp h
  obtain ⟨_, rfl⟩ := Prod.mk.inj heq
  simp only [List.mem_cons, List.not_mem_nil, or_false] at hk
  rcases hk with rfl | rfl | rfl | rfl | rfl | rfl <;> rfl

/-- All three are taken under both claims, and the command is executed twice. -/
theorem former_messages_taken : station.Booted signingConfig ∧
    ∃ s', station.exec signingConfig redelivery = some s' ∧
      (∀ n < 2, ∀ k < 3, (n, messageOf k) ∈ s'.taken) ∧ ¬ s'.NoReplay ∧
      (invokedJobs s'.rpc.trace).map Job.commandId? = [some "command-1", some "command-1"] := by
  have hrun : (station.exec signingConfig redelivery).map
      (fun s => (s.taken.map fun p => (p.1, kind p.2),
        (invokedJobs s.rpc.trace).map Job.commandId?)) =
      some ([(0, 0), (0, 1), (0, 2), (1, 0), (1, 1), (1, 2)],
        [some "command-1", some "command-1"]) := by
    decide +kernel
  obtain ⟨s', h, hsummary⟩ := Option.map_eq_some_iff.mp hrun
  obtain ⟨htaken, hinvoked⟩ := Prod.mk.inj hsummary
  have hpairs : ∀ n < 2, ∀ k < 3, (n, k) ∈ s'.taken.map fun p => (p.1, kind p.2) := by
    rw [htaken]
    decide
  have hmem : ∀ n < 2, ∀ k < 3, (n, messageOf k) ∈ s'.taken := by
    intro n hn k hk
    have hpair := hpairs n hn k hk
    obtain ⟨⟨n', message⟩, hp, heq⟩ := List.mem_map.mp hpair
    obtain ⟨rfl, rfl⟩ := Prod.mk.inj heq
    obtain hstart | ⟨moment, hdelivered⟩ := mem_taken h hp
    · cases hstart
    · rw [← redelivery_message hdelivered]
      exact hp
  refine ⟨station_booted, s', h, hmem, fun hno => ?_, hinvoked⟩
  exact absurd (hno 0 1 _ (hmem 0 (by omega) 0 (by omega)) (hmem 1 (by omega) 0 (by omega)))
    (by decide)

end Tenancy

end Novena

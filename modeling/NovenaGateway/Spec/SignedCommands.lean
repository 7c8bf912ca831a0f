import Mathlib
import NovenaGateway.ForStd.DictMap
import NovenaGateway.Spec.CanonicalJson
import NovenaGateway.Spec.CommandTime
import NovenaGateway.Spec.ControlEpoch
import NovenaGateway.Spec.ReleaseAck

/-!
# Only signed documents act on a gateway

The signatures are over canonical bytes. As long as no signature verifies over bytes that the
holder of the key has not signed, every command whose handler runs is a document of that holder,
with the parameters the handler is given, and so is the policy it was checked against. The members
of the documents may come in another order, and nothing else may differ.

Key results:
- `RpcState.invoked_issued`
- `RpcState.policy_issued`
-/

namespace Novena

/-- No signature verifies over bytes other than those of the documents a key was used for. -/
def ByteCrypto.Unforgeable (crypto : ByteCrypto) (keyIds : List String)
    (issued : String → Json → Prop) : Prop :=
  ∀ id ∈ keyIds, ∀ bytes signature, crypto.verify id bytes signature = true →
    ∃ document, issued id document ∧ document.canonicalBytes = bytes

/-- A trusted key was used for the value, written in some order. -/
def IssuedAs (cfg : GuardConfig) (issued : String → Json → Prop) (v : Json) : Prop :=
  ∃ id ∈ cfg.keyIds, ∃ document, issued id document ∧ Json.Rearranged document v

namespace GovernedCommandGuard

variable {cfg : GuardConfig} {crypto : ByteCrypto} {issued : String → Json → Prop}

/-- What passes `_verify_signed` was issued. -/
theorem verifySigned_issued (hunforged : crypto.Unforgeable cfg.keyIds issued)
    {wire payload : Json} (h : verifySigned (cfg.overBytes crypto) wire = .ok ())
    (hpayload : wire.item "payload" = .ok payload) : IssuedAs cfg issued payload := by
  simp only [verifySigned, Except.bind_eq_ok] at h
  obtain ⟨keyId, -, key, -, h⟩ := h
  -- only a text names a key
  cases key with
  | str id =>
    simp only [Except.bind_eq_ok, require_eq_ok, decide_eq_true_eq] at h
    obtain ⟨_, hid, h⟩ := h
    rw [hpayload] at h
    -- without a signature the check raises
    cases hsignature : wire.item "signature" with
    | error e =>
      rw [hsignature] at h
      cases h
    | ok signature =>
      rw [hsignature] at h
      -- the checked bytes are those of an issued document
      obtain ⟨document, hissued, hbytes⟩ := hunforged id hid _ _ (require_eq_ok.mp h)
      exact ⟨id, hid, document, hissued, Json.canonicalBytes_eq hbytes⟩
  | _ => cases h

/-- A policy that is loaded was issued. -/
theorem loadPolicy_issued (hunforged : crypto.Unforgeable cfg.keyIds issued) {file : Option Json}
    {policy : Json} (h : loadPolicy (cfg.overBytes crypto) file = .ok policy) :
    policy = .null ∨ IssuedAs cfg issued policy := by
  -- without a file there is no policy
  cases file with
  | none => exact .inl (Except.ok.inj h).symm
  | some wire =>
    -- a file that fails a check counts as none, or raises
    rw [loadPolicy] at h
    split at h
    · next policy' hchecked =>
      obtain rfl := Except.ok.inj h
      simp only [Except.bind_eq_ok, Except.pure_eq_ok] at hchecked
      obtain ⟨_, hsigned, payload, hpayload, _, _, hserial⟩ := hchecked
      -- a policy of another gateway counts as none
      split at hserial
      · exact .inr (hserial ▸ verifySigned_issued hunforged hsigned hpayload)
      · exact .inl hserial.symm
    · split at h
      · exact .inl (Except.ok.inj h).symm
      · cases h

/-- The wire document `validate` and `validate_diagnostic` verify. -/
def signedWire (envelope : Dict String Json) : Json :=
  .obj [("payload", signedBody envelope), ("signature", field envelope "signature"),
    ("signing_key_id", field envelope "signing_key_id")]

/-- A command that was validated was signed. -/
theorem validate_signed {g : GovernedCommandGuard} {clock : Clock} {envelope : Dict String Json}
    {x : Json × Option CommandRecord} (h : g.validate cfg clock envelope = .ok x) :
    verifySigned cfg (signedWire envelope) = .ok () := by
  simp only [validate, Except.bind_eq_ok] at h
  obtain ⟨_, henvelope, -⟩ := h
  simp only [validateEnvelope, Except.bind_eq_ok] at henvelope
  obtain ⟨_, -, _, -, _, hsigned, -⟩ := henvelope
  exact hsigned

/-- And so was a diagnostic one. -/
theorem validateDiagnostic_signed {skew : F64} {clock : Clock} {envelope : Dict String Json}
    {x : Json} (h : validateDiagnostic cfg skew clock envelope = .ok x) :
    verifySigned cfg (signedWire envelope) = .ok () := by
  simp only [validateDiagnostic, Except.bind_eq_ok] at h
  obtain ⟨_, -, _, hsigned, -⟩ := h
  exact hsigned

end GovernedCommandGuard

/-- A command that is only accepted with a signature. -/
def Job.Signed (job : Job) : Prop :=
  job.governed = true ∨ job.method ∈ signedDeploymentDiagnostics

/-- A trusted key was used for a document with the command and with the parameters the handler is
    called with. -/
def Job.Issued (cfg : GuardConfig) (issued : String → Json → Prop) (job : Job) : Prop :=
  ∃ id ∈ cfg.keyIds, ∃ members, issued id (.obj members) ∧
    Json.Rearranged (.obj members) (GovernedCommandGuard.signedBody job.payload) ∧
    ((members.map Prod.fst).Nodup →
      Json.Rearranged ((Dict.get? members "params").getD (.obj [])) (.obj job.params))

namespace RpcHandler

open GovernedCommandGuard

/-- A worker with a command of the signed kind starts after its signature was verified, and its
    parameters are those of its payload. -/
theorem started_signed {cfg : RpcConfig} {g : GovernedCommandGuard} {d : Delivery}
    {r : Response} {job : Job} (h : onRpcRequest cfg g d = .started r job) (hjob : job.Signed) :
    verifySigned cfg.guard (signedWire job.payload) = .ok () ∧
      (Dict.get? job.payload "params").getD (.obj []) = .obj job.params := by
  have hstart : ∀ {j : Job}, start j = .started r job → j = job := by
    intro j hj
    simp only [start, Admission.started.injEq] at hj
    exact hj.2
  simp only [onRpcRequest] at h
  -- a release is pending
  split at h
  · cases h
  split at h
  · rename_i payload hpayload
    -- the request id
    split at h
    · split at h
      · cases h
      -- the method and the parameters
      split at h
      · cases h
      split at h
      · split at h
        · rename_i params hparams
          split at h
          · -- a state-changing command
            simp only [admitGoverned] at h
            split at h
            · cases h
            split at h
            · cases h
            · cases h
            · cases h
            · next control hvalid =>
              have hsame := hstart h
              subst hsame
              exact ⟨validate_signed hvalid, hparams⟩
          · next hgoverned =>
            split at h
            -- a signed diagnostic
            · simp only [admitDiagnostic] at h
              split at h
              · cases h
              · cases h
              · next hvalid =>
                have hsame := hstart h
                subst hsame
                exact ⟨validateDiagnostic_signed hvalid, hparams⟩
            · next hdiagnostic =>
              -- the commands that need no signature
              have hsame := hstart h
              subst hsame
              obtain hjob | hjob := hjob
              · exact absurd hjob hgoverned
              · exact absurd hjob hdiagnostic
        · cases h
      · cases h
    · cases h
  · cases h

/-- As long as signatures cannot be forged, such a command was issued. -/
theorem started_issued {cfg : RpcConfig} {crypto : ByteCrypto} {issued : String → Json → Prop}
    (hunforged : crypto.Unforgeable cfg.guard.keyIds issued) {g : GovernedCommandGuard}
    {d : Delivery} {r : Response} {job : Job}
    (h : onRpcRequest (cfg.overBytes crypto) g d = .started r job) (hjob : job.Signed) :
    job.Issued cfg.guard issued := by
  obtain ⟨hsigned, hparams⟩ := started_signed h hjob
  -- the signature was made over a document that is the same up to the order of members
  obtain ⟨id, hid, document, hissued, hsame⟩ := verifySigned_issued hunforged hsigned rfl
  -- so it is an object too
  obtain ⟨members, rfl⟩ : ∃ members, document = .obj members := by
    cases hsame with
    | obj => exact ⟨_, rfl⟩
  refine ⟨id, hid, members, hissued, hsame, fun hnodup => ?_⟩
  -- the signature covers the parameters
  have hcovered : Dict.get? (job.payload.filter fun p => p.1 ≠ "signature" ∧
      p.1 ≠ "signing_key_id") "params" = Dict.get? job.payload "params" :=
    Dict.get?_filter_key job.payload (fun key => key ≠ "signature" ∧ key ≠ "signing_key_id")
      (by decide)
  rw [← hparams, ← hcovered]
  exact hsame.getD hnodup "params" (.obj .nil (List.Perm.refl []))

end RpcHandler

namespace RpcState

open GovernedCommandGuard

variable {cfg : RpcConfig} {crypto : ByteCrypto} {issued : String → Json → Prop}
  {s s' : RpcState}

/-! ## Runs -/

/-- The commands of the workers and of the handlers that were called have a property. -/
structure Carries (P : Job → Prop) (s : RpcState) : Prop where
  workers : ∀ i w, s.workers.get? i = some w → P w.job
  invoked : ∀ i job, .invoked i job ∈ s.trace → P job

/-- A state with the same commands, up to new ones that have the property. -/
theorem Carries.of_jobs {P : Job → Prop} (h : s.Carries P)
    (hworkers : ∀ i w, s'.workers.get? i = some w →
      P w.job ∨ ∃ j v, s.workers.get? j = some v ∧ v.job = w.job)
    (htrace : ∀ i job, .invoked i job ∈ s'.trace → P job ∨ .invoked i job ∈ s.trace) :
    s'.Carries P := by
  constructor
  · intro i w hw
    obtain hnew | ⟨j, v, hv, hjob⟩ := hworkers i w hw
    · exact hnew
    · rw [← hjob]
      exact h.workers j v hv
  · intro i job hmem
    obtain hnew | hold := htrace i job hmem
    · exact hnew
    · exact h.invoked i job hold

/-- Events that invoke nothing add no command. -/
private theorem invoked_append {es : List Event} (hes : ∀ e ∈ es, e.silent = true) {i : Nat}
    {job : Job} (h : .invoked i job ∈ s.trace ++ es) : Event.invoked i job ∈ s.trace := by
  obtain h | h := List.mem_append.mp h
  · exact h
  · cases hes _ h

/-- A worker that goes on keeps its command. -/
private theorem jobs_set {i : Nat} {w : Worker} {pc : Pc} (hw : s.workers.get? i = some w) :
    ∀ j v, (s.workers.set i { w with pc }).get? j = some v →
      ∃ k u, s.workers.get? k = some u ∧ u.job = v.job := by
  intro j v hv
  obtain ⟨-, rfl⟩ | ⟨-, hv⟩ := Dict.of_get?_set hv
  · exact ⟨i, w, hw, rfl⟩
  · exact ⟨j, v, hv, rfl⟩

/-- What admission establishes of a command holds of every command of a run. -/
theorem Carries.step {P : Job → Prop} {a : Label} (h : s.Carries P)
    (hstep : step cfg s a = some s')
    (hstart : ∀ g d r job, RpcHandler.onRpcRequest cfg g d = .started r job → P job) :
    s'.Carries P := by
  -- a worker that goes on has the job it had
  have hgoes : ∀ {t : RpcState} {i : Nat} {w : Worker} {pc : Pc},
      s.workers.get? i = some w → t.workers = s.workers.set i { w with pc } →
      (∀ j job, .invoked j job ∈ t.trace → P job ∨ .invoked j job ∈ s.trace) → t.Carries P :=
    fun hw hworkers htrace =>
      h.of_jobs (fun j v hv => .inr (jobs_set hw j v (hworkers ▸ hv))) htrace
  -- one that ends takes no job away
  have hends : ∀ {t : RpcState} {i : Nat}, t.workers = s.workers.erase i →
      (∀ j job, .invoked j job ∈ t.trace → P job ∨ .invoked j job ∈ s.trace) → t.Carries P :=
    fun hworkers htrace =>
      h.of_jobs (fun j v hv => .inr ⟨j, v, (Dict.of_get?_erase (hworkers ▸ hv)).2, rfl⟩) htrace
  cases step_moves hstep with
  | quiet d es hes =>
    exact h.of_jobs (fun i w hw => .inr ⟨i, w, hw, rfl⟩)
      fun i job hmem => .inr (invoked_append hes hmem)
  -- the new worker has the job just admitted
  | accept d r job hjob =>
    refine h.of_jobs (fun i w hw => ?_) fun i job' hmem => .inr ?_
    · obtain ⟨-, rfl⟩ | ⟨-, hw⟩ := Dict.of_get?_set hw
      · exact .inl (hstart _ _ _ _ hjob)
      · exact .inr ⟨i, w, hw, rfl⟩
    · simpa using hmem
  | doomed i w e hw => exact hends rfl fun j job hmem => .inr hmem
  | lock i w key hw => exact hgoes hw rfl fun j job hmem => .inr hmem
  | advance a i w pc es hw hes =>
    exact hgoes hw rfl fun j job hmem => .inr (invoked_append hes hmem)
  | mark i w now ok guard r hw =>
    exact hgoes hw rfl fun j job hmem => .inr (by simpa using hmem)
  -- the job that is invoked was carried by its worker
  | call i w hw =>
    refine hgoes hw rfl fun j job hmem => ?_
    rw [goto_trace, emit_trace, List.mem_append, List.mem_singleton] at hmem
    obtain hmem | hmem := hmem
    · exact .inr hmem
    · obtain ⟨-, rfl⟩ := Event.invoked.inj hmem
      exact .inl (h.workers i w hw)
  | file a i w c guard hw => exact hgoes hw rfl fun j job hmem => .inr hmem
  | unwind a i w e guard es hw hpc hes =>
    refine hgoes hw (by rw [goto_workers, unlock_workers]) fun j job hmem => .inr ?_
    rw [goto_trace, unlock_trace] at hmem
    exact invoked_append hes hmem
  | finish i w c r hw =>
    refine hends (by rw [retire_workers, unlock_workers, emit_workers]) fun j job hmem => .inr ?_
    rw [retire_trace, unlock_trace, emit_trace] at hmem
    exact invoked_append (silent_response i r) hmem
  | abort a i w e guard es hw hpc hes =>
    exact hends rfl fun j job hmem => .inr (invoked_append hes hmem)
  -- no worker outlives a crash
  | crash guard =>
    exact h.of_jobs (fun i w hw => by cases hw) fun i job hmem => .inr hmem
  -- a reset keeps workers and trace
  | reset ok removed =>
    obtain ⟨hworkers, htrace⟩ := reset_workers_trace s ok removed
    refine h.of_jobs (fun i w hw => .inr ⟨i, w, hworkers ▸ hw, rfl⟩) fun i job hmem => .inr ?_
    obtain htrace | htrace := htrace
    · rwa [htrace] at hmem
    · simpa [htrace] using hmem
  -- a policy is no job
  | policy wire fileOk ok =>
    exact h.of_jobs (fun i w hw => .inr ⟨i, w, hw, rfl⟩)
      fun i job hmem => .inr (by simpa [installPolicy] using hmem)

/-- In every run, whatever the order of its steps, a handler that needs a signed command is only
    called for a document the holder of a trusted key has signed, with the parameters of that
    document. -/
theorem invoked_issued (hunforged : crypto.Unforgeable cfg.guard.keyIds issued)
    {labels : List Label} (hboot : Booted (cfg.overBytes crypto) s)
    (hrun : exec (cfg.overBytes crypto) s labels = some s') {i : Nat} {job : Job}
    (hcall : .invoked i job ∈ s'.trace) (hsigned : job.Signed) : job.Issued cfg.guard issued := by
  have hstart : s.Carries fun job => job.Signed → job.Issued cfg.guard issued := by
    obtain ⟨policyFile, journalFile, guard, -, rfl⟩ := hboot
    exact ⟨fun _ _ hw => (by cases hw), fun _ _ hmem => absurd hmem List.not_mem_nil⟩
  have hend : s'.Carries fun job => job.Signed → job.Issued cfg.guard issued :=
    Run.exec_invariant' (fun u a u' hu hstep => hu.step hstep
      fun g d r job hstarted => RpcHandler.started_issued hunforged hstarted) hstart hrun
  exact hend.invoked i job hcall hsigned

/-- A reset of the handler is one of its guard. -/
private theorem reset_guard (s : RpcState) (ok removed : Bool) :
    (s.reset ok removed).guard = (s.guard.resetForNewClaim ok removed).1 := by
  rw [reset]
  cases s.guard.resetForNewClaim ok removed with
  | mk guard result => cases result <;> rfl

/-- One action keeps the retained policy one that was issued. -/
theorem policy_step (hunforged : crypto.Unforgeable cfg.guard.keyIds issued) {a : Label}
    (h : s.guard.policy = .null ∨ IssuedAs cfg.guard issued s.guard.policy)
    (hstep : step (cfg.overBytes crypto) s a = some s') :
    s'.guard.policy = .null ∨ IssuedAs cfg.guard issued s'.guard.policy := by
  -- the policy is the one before, one from the file, or one just checked
  obtain hsame | rfl | ⟨ok, removed, rfl⟩ | ⟨wire, fileOk, ok, rfl⟩ := step_policy hstep
  · rw [hsame]
    exact h
  · -- the restarted process verifies the file again
    simp only [step, crash] at hstep
    split at hstep
    · next guard hinit =>
      obtain rfl := Option.some.inj hstep
      simp only [init, Except.map_eq_ok] at hinit
      obtain ⟨policy, hload, rfl⟩ := hinit
      exact loadPolicy_issued hunforged hload
    · cases hstep
  -- a reset of the claim drops the policy
  · obtain rfl := Option.some.inj hstep
    rw [reset_guard]
    exact .inl (s.guard.resetForNewClaim_policy ok removed).1
  -- an installation that fails changes nothing
  · obtain rfl := Option.some.inj hstep
    show (s.guard.installPolicy (cfg.overBytes crypto).guard wire fileOk ok).1.policy = .null ∨
      IssuedAs cfg.guard issued (s.guard.installPolicy (cfg.overBytes crypto).guard wire fileOk
        ok).1.policy
    obtain hsame | ⟨payload, epoch, hcheck, hnew⟩ :=
      installPolicy_cases (cfg.overBytes crypto).guard s.guard wire fileOk ok
    · rw [hsame]
      exact h
    -- one that succeeds has loaded the file it checked
    · rw [hnew]
      exact loadPolicy_issued hunforged (checkPolicy_ok hcheck).2.1

/-- In every state of every run the policy commands are checked against is none, or one the
    holder of a trusted key has signed. -/
theorem policy_issued (hunforged : crypto.Unforgeable cfg.guard.keyIds issued)
    {labels : List Label} (hboot : Booted (cfg.overBytes crypto) s)
    (hrun : exec (cfg.overBytes crypto) s labels = some s') :
    s'.guard.policy = .null ∨ IssuedAs cfg.guard issued s'.guard.policy := by
  refine Run.exec_invariant' (I := fun u => u.guard.policy = .null ∨
    IssuedAs cfg.guard issued u.guard.policy) (fun u a u' hu => policy_step hunforged hu) ?_ hrun
  obtain ⟨policyFile, journalFile, guard, hinit, rfl⟩ := hboot
  simp only [init, Except.map_eq_ok] at hinit
  obtain ⟨policy, hload, rfl⟩ := hinit
  exact loadPolicy_issued hunforged hload

/-! ## At the pump station -/

open PumpStation

/-- A policy without controls. -/
def emptyPolicy : Json :=
  .obj [("schema_version", .int 1), ("gateway_serial", .str "GW-001"), ("control_epoch", .int 7)]

/-- The signed part of a `scan_devices` command. -/
def scanBody : Dict String Json :=
  [("schema_version", .int 1), ("request_id", .str "r-1"), ("command_id", .str "c-1"),
   ("idempotency_key", .str "i-1"), ("target", .obj [("gateway_serial", .str "GW-001")]),
   ("method", .str "scan_devices"), ("params", .obj []),
   ("issued_at", .str "2026-01-01T00:00:00Z"), ("expires_at", .str "2026-01-01T00:00:30Z")]

/-- The documents the station's key was used for. -/
def stationIssued (_ : String) (document : Json) : Prop :=
  document = emptyPolicy ∨ document = .obj scanBody

/-- Signatures over the bytes of these documents. -/
def stationCrypto : ByteCrypto where
  verify := fun _ bytes s => s.same signature &&
    (bytes = emptyPolicy.canonicalBytes || bytes = (Json.obj scanBody).canonicalBytes)
  sha256 := fun _ => "9f86d081"

/-- The signatures of the example cannot be forged. -/
theorem stationCrypto_unforgeable (keyIds : List String) :
    stationCrypto.Unforgeable keyIds stationIssued := by
  intro id _ bytes s h
  simp only [stationCrypto, Bool.and_eq_true, Bool.or_eq_true, decide_eq_true_eq] at h
  obtain ⟨-, hpolicy | hcommand⟩ := h
  · exact ⟨_, .inl rfl, hpolicy.symm⟩
  · exact ⟨_, .inr rfl, hcommand.symm⟩

/-- The station's configuration, with texts in the place of the bytes. -/
def textConfig : RpcConfig :=
  { config with guard := { guardConfig with
      verifies := fun _ payload s => s.same signature &&
        (payload.sortKeys.compact = emptyPolicy.sortKeys.compact ||
          payload.sortKeys.compact = (Json.obj scanBody).sortKeys.compact)
      checksum := fun _ => "9f86d081" } }

/-- The bytes are those of the texts. -/
theorem overBytes_station : config.overBytes stationCrypto = textConfig := by
  simp only [RpcConfig.overBytes, textConfig, GuardConfig.overBytes, stationCrypto,
    Json.canonicalBytes_inj]
  rfl

/-- The process that starts with the policy. -/
def stationGuard : Py GovernedCommandGuard :=
  init textConfig.guard (some (.obj [("payload", emptyPolicy), ("signing_key_id", .str "key-1"),
    ("signature", signature)])) .missing

def stationBoot : RpcState := { boot with guard := stationGuard.toOption.getD boot.guard }

/-- Its station has booted. -/
theorem stationBoot_booted : Booted (config.overBytes stationCrypto) stationBoot := by
  rw [overBytes_station]
  have hok : stationGuard.toOption.isSome = true := by decide +kernel
  cases h : stationGuard with
  | error e => simp [h, Except.toOption] at hok
  | ok guard => exact ⟨_, .missing, guard, h, by simp [stationBoot, boot, h, Except.toOption]⟩

/-- The devices are scanned once. -/
def scanRun : List Label :=
  [receive (scanBody ++ [("signing_key_id", .str "key-1"), ("signature", signature)]),
   .acquire 0, .call 0]

/-- The event calls the handler of a scan. -/
def callsScan : Event → Bool
  | .invoked _ job => job.method = "scan_devices"
  | _ => false

/-- A scan that was issued and invoked. -/
theorem invoked_issued_scanRun : ∃ s' i job,
    exec (config.overBytes stationCrypto) stationBoot scanRun = some s' ∧
      .invoked i job ∈ s'.trace ∧ job.Issued config.guard stationIssued := by
  have hcalls : (exec textConfig stationBoot scanRun).any
      (fun s' => s'.trace.any callsScan) = true := by decide +kernel
  rw [← overBytes_station] at hcalls
  obtain ⟨s', hrun, hany⟩ := (Option.any_eq_true _ _).mp hcalls
  obtain ⟨e, hmem, hscan⟩ := List.any_eq_true.mp hany
  cases e with
  | invoked i job =>
    have hmethod : job.method = "scan_devices" := of_decide_eq_true hscan
    have hsigned : job.Signed := .inr (by rw [hmethod]; decide)
    exact ⟨s', i, job, hrun, hmem, @invoked_issued config stationCrypto stationIssued stationBoot
      s' (stationCrypto_unforgeable _) scanRun stationBoot_booted hrun i job hmem hsigned⟩
  | accepted | response | returned | policy | claimReset => cases hscan

/-- And the policy of that run. -/
theorem policy_issued_scanRun : ∃ s',
    exec (config.overBytes stationCrypto) stationBoot scanRun = some s' ∧
      (s'.guard.policy = .null ∨ IssuedAs config.guard stationIssued s'.guard.policy) := by
  have hsome : (exec textConfig stationBoot scanRun).isSome = true := by decide +kernel
  rw [← overBytes_station] at hsome
  obtain ⟨s', hrun⟩ := Option.isSome_iff_exists.mp hsome
  exact ⟨s', hrun, @policy_issued config stationCrypto stationIssued stationBoot s'
    (stationCrypto_unforgeable _) scanRun stationBoot_booted hrun⟩

end RpcState

end Novena

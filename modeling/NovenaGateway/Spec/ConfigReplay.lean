import NovenaGateway.ForStd.Greatest
import NovenaGateway.Spec.JsonEquality
import NovenaGateway.Spec.BootConfig

/-!
# Replay protection of configurations

The journal of configuration requests, over the runs of the gateway: what it records comes from a
verified envelope, its highest revision bounds every revision it ever recorded, and its table holds
the newest five hundred results. An envelope that was applied is therefore answered from the table
or refused for its revision, however often it comes back.

Key results:
- `ConfigEnvelopeGuard.verify_apply`, `verify_replay`
- `RemoteConfigHandler.onConfigUpdate_handled`
- `ConfigLog.guarded_of_run`
- `ConfigLog.never_reapplied`
- `ConfigLog.requests_newest`
-/

namespace Novena

/-! ## The envelope -/

namespace ConfigEnvelopeGuard

open GovernedCommandGuard (field)

variable {cfg : GuardConfig}

/-- What a body has to say to get past the checks that come before the journal. -/
theorem verifyBody_ok {clock : Clock} {wire config : Dict String Json} {idempotencyKey : String}
    (h : verifyBody cfg clock wire = .ok (config, idempotencyKey)) :
    idempotencyKey = (field wire "idempotency_key").toStr ∧
      field wire "config" = .obj config ∧
      field wire "checksum" = .str (cfg.checksum (.obj config)) ∧
      field wire "schema_version" ≠ .null := by
  simp only [verifyBody, Except.bind_eq_ok, requireSetup_eq_ok] at h
  obtain ⟨_, hversion, _, _, _, _, _, _, _, _, _, _, h⟩ := h
  have hnull : field wire "schema_version" ≠ .null := by
    intro hnull
    rw [hnull] at hversion
    exact absurd hversion (by decide)
  split at h
  · next config hconfig =>
    simp only [Except.bind_eq_ok, requireSetup_eq_ok, Except.pure_eq_ok, Prod.mk.injEq] at h
    obtain ⟨_, hchecksum, rfl, rfl⟩ := h
    exact ⟨rfl, hconfig, Json.eq_str hchecksum, hnull⟩
  · cases h

/-- The part of `verify` that looks at the journal. -/
private theorem verify_ok {journal : ConfigReplayJournal} {clock : Clock}
    {wire : Dict String Json} {verdict : Verdict} (h : verify cfg journal clock wire = .ok verdict) :
    ∃ config, field wire "config" = .obj config ∧
      field wire "checksum" = .str (cfg.checksum (.obj config)) ∧
      field wire "schema_version" ≠ .null ∧
      ((∃ entry, journal.get (field wire "idempotency_key").toStr = some entry ∧
          verdict = .replay entry) ∨
        (journal.get (field wire "idempotency_key").toStr = none ∧
          ∃ revision, ((Json.obj wire).item "revision" >>= Json.toInt) = .ok revision ∧
            journal.state.maxRevision < revision ∧
            verdict = .apply config (field wire "idempotency_key").toStr revision)) := by
  -- what stands before the journal does not look at it
  simp only [verify, Except.bind_eq_ok, requireSetup_eq_ok] at h
  obtain ⟨_, _, _, _, ⟨config, key⟩, hbody, h⟩ := h
  obtain ⟨rfl, hconfig, hchecksum, hversion⟩ := verifyBody_ok hbody
  refine ⟨config, hconfig, hchecksum, hversion, ?_⟩
  dsimp only at h
  -- the journal has the key, or the revision has to be new
  split at h
  · next entry hget => exact .inl ⟨entry, hget, (Except.ok.inj h).symm⟩
  · next hget =>
    simp only [Except.bind_eq_ok, requireSetup_eq_ok, decide_eq_true_eq, Except.pure_eq_ok] at h
    obtain ⟨revision, hrevision, _, hfresh, rfl⟩ := h
    have hread : ((Json.obj wire).item "revision" >>= Json.toInt) = .ok revision := by
      -- the revision that is read is the one the check has read
      generalize (Json.obj wire).item "revision" >>= Json.toInt = read at hrevision
      cases read with
      | ok n => exact hrevision
      | error e =>
        simp only [rejectSetup] at hrevision
        split at hrevision <;> cases hrevision
    exact .inr ⟨hget, revision, hread, hfresh, rfl⟩

/-- A configuration is applied only under a key without an entry and a revision above them all. -/
theorem verify_apply {journal : ConfigReplayJournal} {clock : Clock}
    {wire config : Dict String Json} {idempotencyKey : String} {revision : Int}
    (h : verify cfg journal clock wire = .ok (.apply config idempotencyKey revision)) :
    idempotencyKey = (field wire "idempotency_key").toStr ∧
      ((Json.obj wire).item "revision" >>= Json.toInt) = .ok revision ∧
      field wire "config" = .obj config ∧
      field wire "checksum" = .str (cfg.checksum (.obj config)) ∧
      journal.get idempotencyKey = none ∧ journal.state.maxRevision < revision ∧
      field wire "schema_version" ≠ .null := by
  obtain ⟨_, hconfig, hchecksum, hversion,
    ⟨_, _, hverdict⟩ | ⟨hget, _, hread, hfresh, hverdict⟩⟩ := verify_ok h
  · cases hverdict
  · obtain ⟨rfl, rfl, rfl⟩ := Verdict.apply.inj hverdict
    exact ⟨rfl, hread, hconfig, hchecksum, hget, hfresh, hversion⟩

/-- A result is repeated only from the entry of the key. -/
theorem verify_replay {journal : ConfigReplayJournal} {clock : Clock} {wire : Dict String Json}
    {entry : ReplayEntry} (h : verify cfg journal clock wire = .ok (.replay entry)) :
    journal.get (field wire "idempotency_key").toStr = some entry ∧
      field wire "schema_version" ≠ .null := by
  obtain ⟨_, _, _, hversion, ⟨_, hget, hverdict⟩ | ⟨_, _, _, _, hverdict⟩⟩ := verify_ok h
  · obtain rfl := Verdict.replay.inj hverdict
    exact ⟨hget, hversion⟩
  · cases hverdict

end ConfigEnvelopeGuard

/-! ## What a message does -/

/-- An application of a configuration whose result was recorded: the message, what was written and
    what the file held after it. -/
structure Application where
  wire : Dict String Json
  /-- `wire["config"]`, and its checksum. -/
  config : Dict String Json
  checksum : String
  idempotencyKey : String
  revision : Int
  updated : Json
  configFile : Json
  result : UpdateResult

/-- The application was verified from its message. -/
structure Application.Verified (a : Application) : Prop where
  key : a.idempotencyKey = (GovernedCommandGuard.field a.wire "idempotency_key").toStr
  revision : ((Json.obj a.wire).item "revision" >>= Json.toInt) = .ok a.revision
  config : GovernedCommandGuard.field a.wire "config" = .obj a.config
  checksum : GovernedCommandGuard.field a.wire "checksum" = .str a.checksum

/-- The configuration was written, with the action of its message, and all of its connectors were
    started. -/
structure Application.Took (host : Host) (a : Application) : Prop where
  prepared : ∃ current, RemoteConfigHandler.updatedConfig host current
    ((Dict.get? a.wire "action").getD (.str "full_update")) a.config = .ok a.updated
  written : a.configFile = a.updated
  started : a.result.connectorResults.all StartResult.success = true

namespace RemoteConfigHandler

open GovernedCommandGuard (field)

variable (host : Host)

/-- The application of a verified configuration, if it gets as far as the journal. -/
def applicationOf (g : NovenaGateway) (wire config : Dict String Json) (checksum : String)
    (idempotencyKey : String) (revision : Int) (outcomes rollbackOutcomes : Nat → StartOutcome) :
    Option Application :=
  if config.isEmpty then none else
  match updatedConfig host g.configFile ((Dict.get? wire "action").getD (.str "full_update"))
    config with
  | .error _ => none
  | .ok updated =>
    match applyConfigWithRollback g updated outcomes rollbackOutcomes with
    | (_, .error _) => none
    | (g', .ok result) => some
        { wire, config, checksum, idempotencyKey, revision, updated, configFile := g'.configFile,
          result }

/-- The application a message leads to, if its result is recorded. -/
def appliedBy (cfg : GuardConfig) (g : NovenaGateway) (clock : Clock) (payload : Json)
    (outcomes rollbackOutcomes : Nat → StartOutcome) : Option Application :=
  match releasePending g.config, payload with
  | .ok false, .obj wire =>
    match ConfigEnvelopeGuard.verify cfg g.configJournal clock wire with
    | .ok (.apply config idempotencyKey revision) =>
      applicationOf host g wire config (cfg.checksum (.obj config)) idempotencyKey revision outcomes
        rollbackOutcomes
    | _ => none
  | _, _ => none

/-- The acknowledgement says that the configuration was applied. -/
def ConfigAck.Success (ack : ConfigAck) : Prop :=
  ∃ result, ack.outcome = .finished result ∧ result.status = .success

/-- What a message can do: nothing that counts, a recorded result is repeated, or a configuration
    is applied and recorded. -/
inductive Handled (cfg : GuardConfig) (g : NovenaGateway) (clock : Clock) (payload : Json) :
    Option Application → NovenaGateway × List ConfigAck → Prop where
  | unrecorded (g' : NovenaGateway) (acks : List ConfigAck)
      (hjournal : g'.configJournal = g.configJournal) (hacks : ∀ ack ∈ acks, ¬ack.Success) :
      Handled cfg g clock payload none (g', acks)
  | replayed (wire : Dict String Json) (entry : ReplayEntry) (hpayload : payload = .obj wire)
      (hverify : ConfigEnvelopeGuard.verify cfg g.configJournal clock wire = .ok (.replay entry)) :
      Handled cfg g clock payload none (g, [ackOf wire (.finished entry.result) true])
  | applied (a : Application) (g' : NovenaGateway) (accepted : ConfigAck)
      (hpayload : payload = .obj a.wire) (hverified : a.Verified)
      (hget : g.configJournal.get a.idempotencyKey = none)
      (hfresh : g.configJournal.state.maxRevision < a.revision)
      (htook : a.result.status = .success → a.Took host)
      (hjournal : g'.configJournal =
        (g.configJournal.record a.idempotencyKey a.revision a.result true).1)
      (haccepted : ¬accepted.Success) :
      Handled cfg g clock payload (some a)
        (g', [accepted, ackOf a.wire (.finished a.result) false])

variable {host}

/-- An application that reports success was written, and its connectors were started. -/
theorem applyConfigWithRollback_took {g g' : NovenaGateway} {updated : Json}
    {outcomes rollbackOutcomes : Nat → StartOutcome} {result : UpdateResult}
    (h : applyConfigWithRollback g updated outcomes rollbackOutcomes = (g', .ok result))
    (hsuccess : result.status = .success) :
    g'.configFile = updated ∧ result.connectorResults.all StartResult.success = true := by
  have hcases := applyConfigWithRollback_cases g updated outcomes rollbackOutcomes
  simp only [h] at hcases
  obtain ⟨_, _, herror, _⟩ | ⟨results, hok, _, hall, hfile, _⟩ | ⟨_, hrolled, _⟩ := hcases
  · cases herror
  · obtain rfl := Except.ok.inj hok
    exact ⟨hfile, hall⟩
  · rw [hrolled result rfl] at hsuccess
    cases hsuccess

/-- A failure is not acknowledged as a success. -/
private theorem not_success_of_failed (wire : Dict String Json) (e : Exn) :
    ∀ ack ∈ [ackOf wire .accepted false, ackOf wire (.failed e) false], ¬ack.Success := by
  rintro ack hmem ⟨_, hfinished, _⟩
  simp only [List.mem_cons, List.not_mem_nil, or_false] at hmem
  obtain rfl | rfl := hmem
  · cases hfinished
  · cases hfinished

/-- A rejection is no success. -/
private theorem not_success_of_rejected (requestId : Json) (error : String) :
    ∀ ack ∈ [rejection requestId error], ¬ack.Success := by
  rintro ack hmem ⟨_, hfinished, _⟩
  obtain rfl := List.mem_singleton.mp hmem
  cases hfinished

/-- A verified configuration: the application is recorded, or its failure is acknowledged. -/
private theorem handleConfig_handled {cfg : GuardConfig} {g : NovenaGateway} {clock : Clock}
    {wire config : Dict String Json} {idempotencyKey : String} {revision : Int}
    (hverify : ConfigEnvelopeGuard.verify cfg g.configJournal clock wire =
      .ok (.apply config idempotencyKey revision)) (outcomes rollbackOutcomes : Nat → StartOutcome) :
    Handled host cfg g clock (.obj wire)
      (applicationOf host g wire config (cfg.checksum (.obj config)) idempotencyKey revision outcomes
        rollbackOutcomes)
      (handleConfig host g wire config idempotencyKey revision outcomes rollbackOutcomes) := by
  obtain ⟨hkey, hread, hconfig, hchecksum, hget, hfresh, _⟩ :=
    ConfigEnvelopeGuard.verify_apply hverify
  unfold handleConfig applicationOf
  -- an empty configuration raises and is recorded nowhere
  split
  · refine .unrecorded g _ rfl fun ack hmem => ?_
    exact not_success_of_failed wire _ ack (List.mem_cons_of_mem _ hmem)
  · dsimp only
    -- neither is an action that cannot be carried out
    cases hupdated : updatedConfig host g.configFile
      ((Dict.get? wire "action").getD (.str "full_update")) config with
    | error e => exact .unrecorded g _ rfl (not_success_of_failed wire e)
    | ok updated =>
      dsimp only
      obtain ⟨configFile, config', connectors, hframe⟩ :=
        applyConfigWithRollback_frame g updated outcomes rollbackOutcomes
      have htook := @applyConfigWithRollback_took g
        (applyConfigWithRollback g updated outcomes rollbackOutcomes).1 updated outcomes
        rollbackOutcomes
      -- the rest does not depend on how the connectors were started, only on what came of it
      generalize applyConfigWithRollback g updated outcomes rollbackOutcomes = applied
        at hframe htook ⊢
      obtain ⟨g', answer⟩ := applied
      dsimp only at hframe htook
      subst hframe
      cases answer with
      -- a rollback that fails raises before the record
      | error e => exact .unrecorded _ _ rfl (not_success_of_failed wire e)
      | ok result =>
        -- the result is recorded, whatever its status
        refine .applied _ _ _ rfl ⟨hkey, hread, hconfig, hchecksum⟩ hget hfresh ?_ rfl ?_
        · intro hsuccess
          obtain ⟨hwritten, hstarted⟩ := htook rfl hsuccess
          exact ⟨⟨_, hupdated⟩, hwritten, hstarted⟩
        · exact not_success_of_failed wire .keyError _ List.mem_cons_self

/-- A configuration message is handled in one of the ways. -/
theorem onConfigUpdate_handled (host : Host) (cfg : GuardConfig) (g : NovenaGateway)
    (clock : Clock) (payload : Json) (outcomes rollbackOutcomes : Nat → StartOutcome) :
    Handled host cfg g clock payload (appliedBy host cfg g clock payload outcomes rollbackOutcomes)
      (onConfigUpdate host cfg g clock payload outcomes rollbackOutcomes) := by
  unfold onConfigUpdate appliedBy
  -- during a release, and with a file that cannot be read, nothing happens
  cases hpending : releasePending g.config with
  | error e => exact .unrecorded g [] rfl (fun _ h => by cases h)
  | ok pending =>
    cases pending with
    | true => exact .unrecorded g [] rfl (fun _ h => by cases h)
    | false =>
      cases payload with
      | obj wire =>
        dsimp only
        -- the envelope decides between a rejection, an old answer and an application
        cases hverify : ConfigEnvelopeGuard.verify cfg g.configJournal clock wire with
        | error e =>
          -- nothing is applied, and the answer is a rejection or none
          dsimp only
          split
          · exact .unrecorded g _ rfl (not_success_of_rejected _ _)
          · cases e <;>
              first
                | exact .unrecorded g _ rfl (not_success_of_rejected _ _)
                | exact .unrecorded g [] rfl (fun _ h => by cases h)
        | ok verdict =>
          cases verdict with
          | replay entry =>
            obtain ⟨_, hversion⟩ := ConfigEnvelopeGuard.verify_replay hverify
            dsimp only
            split
            · next hnull => exact absurd hnull hversion
            · exact .replayed wire entry rfl hverify
          | apply config key revision =>
            obtain ⟨_, _, _, _, _, _, hversion⟩ := ConfigEnvelopeGuard.verify_apply hverify
            dsimp only
            split
            · next hnull => exact absurd hnull hversion
            · exact handleConfig_handled hverify outcomes rollbackOutcomes
      | _ => exact .unrecorded g _ rfl (not_success_of_rejected _ _)

end RemoteConfigHandler

/-! ## Runs -/

/-- The journal of configuration requests; the one of a stopped gateway is that of its next
    start. -/
def Machine.configJournal : Machine → ConfigReplayJournal
  | .up g => g.configJournal
  | .down disk => .init disk.configJournal

/-- The file holds what the memory does. -/
def ConfigReplayJournal.Synced (j : ConfigReplayJournal) : Prop := j.file.getD .empty = j.state

/-- A journal that was loaded is that of its file. -/
theorem ConfigReplayJournal.init_synced (file : Option ReplayState) : (init file).Synced := rfl

/-- A gateway over its restarts, with the applications it has recorded and the acknowledgements it
    has sent, the newest first. -/
structure ConfigLog where
  machine : Machine
  applied : List Application
  acks : List RemoteConfigHandler.ConfigAck

namespace ConfigLog

open RemoteConfigHandler (appliedBy onConfigUpdate writtenConfig onConfigUpdate_handled)

variable (host : Host) (v : ReleaseVerifier)

/-- A gateway that has not been started. -/
def start (disk : NovenaGateway.Disk) : ConfigLog := ⟨.down disk, [], []⟩

/-- The application a step records. A message the process dies in is not recorded. -/
def appliedIn : Machine → Machine.Label → Option Application
  | .up g, .configUpdate cfg clock payload outcomes rollbackOutcomes false =>
    appliedBy host cfg g clock payload outcomes rollbackOutcomes
  | _, _ => none

/-- The acknowledgements a step sends. -/
def acksIn : Machine → Machine.Label → List RemoteConfigHandler.ConfigAck
  | .up g, .configUpdate cfg clock payload outcomes rollbackOutcomes false =>
    (onConfigUpdate host cfg g clock payload outcomes rollbackOutcomes).2
  | _, _ => []

/-- One step of the gateway. -/
def step (s : ConfigLog) (label : Machine.Label) : Option ConfigLog :=
  (s.machine.step host v label).map fun machine =>
    { machine
      applied := (appliedIn host s.machine label).toList ++ s.applied
      acks := acksIn host s.machine label ++ s.acks }

/-- No claim is reset: nothing the step does touches the journal of requests. -/
def NoReset (s : ConfigLog) : Machine.Label → Prop
  | .provision now payload _ => ∀ g, s.machine = .up g →
    ∀ step ∈ (Provision.onProvisionMessage v g now payload).steps,
      ∀ g', (step.run g').configJournal = g'.configJournal
  | .connect result _ => ∀ g, s.machine = .up g →
    ∀ step ∈ Provision.onConnectSteps g result,
      ∀ g', (step.run g').configJournal = g'.configJournal
  | _ => True

variable {host v}

/-! ## What a step does to the journal -/

/-- The messages that can reset a claim keep this property of the journal at each of their steps. -/
def Keeps (v : ReleaseVerifier) (I : ConfigReplayJournal → Prop) (s : ConfigLog) :
    Machine.Label → Prop
  | .provision now payload _ => ∀ g, s.machine = .up g →
    ∀ step ∈ (Provision.onProvisionMessage v g now payload).steps,
      ∀ g', I g'.configJournal → I (step.run g').configJournal
  | .connect result _ => ∀ g, s.machine = .up g → ∀ step ∈ Provision.onConnectSteps g result,
      ∀ g', I g'.configJournal → I (step.run g').configJournal
  | _ => True

/-- Without a reset any property of the journal is kept. -/
theorem NoReset.keeps {s : ConfigLog} {label : Machine.Label} (h : s.NoReset v label)
    (I : ConfigReplayJournal → Prop) : s.Keeps v I label := by
  cases label with
  | provision => exact fun g hg step hmem g' hI => (h g hg step hmem g').symm ▸ hI
  | connect => exact fun g hg step hmem g' hI => (h g hg step hmem g').symm ▸ hI
  | _ => trivial

/-- An operation whose steps keep a property of the journal, however it ends. -/
private theorem finish_keeps {I : ConfigReplayJournal → Prop}
    (hreload : ∀ j : ConfigReplayJournal, I j → I (.init j.file)) {g : NovenaGateway}
    {steps : List (Step NovenaGateway)} {after : NovenaGateway → NovenaGateway} {ending : Ending}
    {m : Machine} (hg : I g.configJournal)
    (hsteps : ∀ step ∈ steps, ∀ g', I g'.configJournal → I (step.run g').configJournal)
    (hafter : ∀ g', (after g').configJournal = g'.configJournal)
    (h : Machine.finish g steps after ending = some m) : I m.configJournal := by
  have hkept : ∀ n, I (Step.perform (steps.take n) g).configJournal :=
    Step.perform_invariant (I := fun g' : NovenaGateway => I g'.configJournal) hsteps hg
  obtain ⟨_, rfl⟩ | ⟨n, ⟨_, _, rfl⟩ | ⟨_, rfl⟩⟩ := Machine.finish_cases h
  · have hall := hkept steps.length
    rw [List.take_length] at hall
    rw [Machine.configJournal, hafter]
    exact hall
  · rw [Machine.configJournal, hafter]
    exact hkept n
  · exact hreload _ (hkept n)

/-- A property of the journal that reading its file keeps, over a step that records nothing. -/
theorem step_unrecorded {I : ConfigReplayJournal → Prop}
    (hreload : ∀ j : ConfigReplayJournal, I j → I (.init j.file)) {s s' : ConfigLog}
    {label : Machine.Label} (hs : I s.machine.configJournal) (hkeeps : s.Keeps v I label)
    (h : step host v s label = some s') (hnone : appliedIn host s.machine label = none) :
    I s'.machine.configJournal := by
  obtain ⟨machine, applied, acks⟩ := s
  simp only [step, Option.map_eq_some_iff] at h
  obtain ⟨m', hstep, rfl⟩ := h
  dsimp only at hs hkeeps hstep hnone ⊢
  -- the journal of a machine that is down is what its file holds
  cases machine with
  | down disk =>
    cases label with
    | boot cfg =>
      simp only [Machine.step, Option.map_eq_some_iff] at hstep
      obtain ⟨g, hboot, rfl⟩ := hstep
      obtain ⟨_, _, _, _, _, _, _, _, _, _, rfl⟩ := NovenaGateway.boot_cases hboot
      exact hs
    | _ => cases hstep
  | up g =>
    -- provision and connect run through their steps, any of which may be the last
    by_cases hprovision : ∃ now payload ending, label = .provision now payload ending
    · obtain ⟨now, payload, ending, rfl⟩ := hprovision
      exact finish_keeps hreload hs (hkeeps g rfl) (fun _ => rfl) hstep
    by_cases hconnect : ∃ result ending, label = .connect result ending
    · obtain ⟨result, ending, rfl⟩ := hconnect
      exact finish_keeps hreload hs (hkeeps g rfl)
        (fun g' => (Machine.onConnectEnd_quiet g' result).configJournal) hstep
    by_cases hupdate : ∃ cfg clock payload outcomes rollbackOutcomes crashes,
        label = .configUpdate cfg clock payload outcomes rollbackOutcomes crashes
    -- an update records its result or does not reach the record
    · obtain ⟨cfg, clock, payload, outcomes, rollbackOutcomes, crashes, rfl⟩ := hupdate
      obtain rfl := Option.some.inj hstep
      cases crashes with
      | true =>
        -- the process dies before the message is recorded
        simp only [Machine.configUpdate, Bool.not_true, Bool.false_eq_true, if_false]
        split
        · exact hreload _ hs
        · exact hreload _ hs
      | false =>
        have hhandled := onConfigUpdate_handled host cfg g clock payload outcomes rollbackOutcomes
        simp only [Machine.configUpdate, Bool.not_false, if_true]
        rw [show appliedBy host cfg g clock payload outcomes rollbackOutcomes = none from hnone]
          at hhandled
        generalize onConfigUpdate host cfg g clock payload outcomes rollbackOutcomes = handled
          at hhandled ⊢
        cases hhandled with
        | unrecorded g' acks hjournal hacks =>
          show I g'.configJournal
          rw [hjournal]
          exact hs
        | replayed wire entry hpayload hverify => exact hs
    -- the other labels keep the journal
    push Not at hprovision hconnect hupdate
    obtain rfl | ⟨g', rfl, hquiet, _⟩ := Machine.stepUp_quiet hstep hprovision hconnect hupdate
    · exact hreload _ hs
    · show I g'.configJournal
      rw [hquiet.configJournal]
      exact hs

/-- A step that records an application. -/
theorem step_recorded {s s' : ConfigLog} {label : Machine.Label} {a : Application}
    (h : step host v s label = some s') (hsome : appliedIn host s.machine label = some a) :
    a.Verified ∧ (a.result.status = .success → a.Took host) ∧
      s.machine.configJournal.get a.idempotencyKey = none ∧
      s.machine.configJournal.state.maxRevision < a.revision ∧
      s'.machine.configJournal =
        (s.machine.configJournal.record a.idempotencyKey a.revision a.result true).1 ∧
      ∃ accepted : RemoteConfigHandler.ConfigAck, ¬accepted.Success ∧
        s'.acks = [accepted, RemoteConfigHandler.ackOf a.wire (.finished a.result) false] ++
          s.acks := by
  obtain ⟨machine, applied, acks⟩ := s
  simp only [step, Option.map_eq_some_iff] at h
  obtain ⟨m', hstep, rfl⟩ := h
  dsimp only at hstep hsome ⊢
  unfold appliedIn at hsome
  -- only a whole update in a running gateway applies anything
  split at hsome
  · next g cfg clock payload outcomes rollbackOutcomes =>
    obtain rfl := Option.some.inj hstep
    have hhandled := onConfigUpdate_handled host cfg g clock payload outcomes rollbackOutcomes
    simp only [Machine.configUpdate, Bool.not_false, if_true, acksIn]
    rw [hsome] at hhandled
    generalize onConfigUpdate host cfg g clock payload outcomes rollbackOutcomes = handled
      at hhandled ⊢
    cases hhandled with
    -- of the three ways to handle it, the one with an application is left
    | applied a g' accepted hpayload hverified hget hfresh htook hjournal haccepted =>
      exact ⟨hverified, htook, hget, hfresh, hjournal, accepted, haccepted, rfl⟩
  · cases hsome

/-- What a step adds to the applications. -/
theorem step_applied {s s' : ConfigLog} {label : Machine.Label}
    (h : step host v s label = some s') :
    s'.applied = (appliedIn host s.machine label).toList ++ s.applied := by
  simp only [step, Option.map_eq_some_iff] at h
  obtain ⟨m', _, rfl⟩ := h
  rfl

/-! ## The revision floor -/

/-- The journal and what it has recorded: the revisions of the applications increase, and none is
    above the highest revision of the journal. -/
structure Guarded (s : ConfigLog) : Prop where
  synced : s.machine.configJournal.Synced
  increasing : s.applied.Pairwise fun newer older => older.revision < newer.revision
  floor : ∀ a ∈ s.applied, a.revision ≤ s.machine.configJournal.state.maxRevision
  verified : ∀ a ∈ s.applied, a.Verified

/-- At the start nothing was applied. -/
theorem guarded_start (disk : NovenaGateway.Disk) : (start disk).Guarded :=
  ⟨ConfigReplayJournal.init_synced _, .nil, (fun _ h => by cases h), (fun _ h => by cases h)⟩

/-- Without a reset, a step that records nothing leaves what is recorded as it is. -/
theorem step_kept {s s' : ConfigLog} {label : Machine.Label}
    (hsynced : s.machine.configJournal.Synced) (hreset : s.NoReset v label) (h : step host v s label = some s')
    (hnone : appliedIn host s.machine label = none) :
    s'.machine.configJournal.Synced ∧
      s'.machine.configJournal.state = s.machine.configJournal.state := by
  refine step_unrecorded (I := fun j => j.Synced ∧ j.state = s.machine.configJournal.state) ?_
    ⟨hsynced, rfl⟩ (hreset.keeps _) h hnone
  rintro j ⟨hj, hstate⟩
  exact ⟨ConfigReplayJournal.init_synced _, hj.trans hstate⟩

/-- Every step without a reset guards what was applied. -/
theorem guarded_step {s s' : ConfigLog} {label : Machine.Label} (hs : s.Guarded)
    (hreset : s.NoReset v label) (h : step host v s label = some s') : s'.Guarded := by
  have happlied := step_applied h
  -- without an application the journal keeps its state
  cases hrecorded : appliedIn host s.machine label with
  | none =>
    obtain ⟨hsynced, hstate⟩ := step_kept hs.synced hreset h hrecorded
    rw [hrecorded, Option.toList_none, List.nil_append] at happlied
    refine ⟨hsynced, ?_, ?_, ?_⟩
    · rw [happlied]
      exact hs.increasing
    · rw [happlied, hstate]
      exact hs.floor
    · rw [happlied]
      exact hs.verified
  -- with one, each part gets the new revision in front
  | some a =>
    obtain ⟨hverified, _, _, hfresh, hjournal, _⟩ := step_recorded h hrecorded
    rw [hrecorded, Option.toList_some, List.singleton_append] at happlied
    have hmax : s'.machine.configJournal.state.maxRevision =
        max a.revision s.machine.configJournal.state.maxRevision := by
      rw [hjournal]
      rfl
    refine ⟨?_, ?_, ?_, ?_⟩
    · rw [hjournal]
      rfl
    · rw [happlied]
      -- every recorded revision is at most the floor, and the new one is above it
      refine .cons (fun b hb => ?_) hs.increasing
      have := hs.floor b hb
      omega
    -- floor
    · rw [happlied, hmax]
      intro b hb
      obtain rfl | hb := List.mem_cons.mp hb
      · omega
      · have := hs.floor b hb
        omega
    -- verified
    · rw [happlied]
      intro b hb
      obtain rfl | hb := List.mem_cons.mp hb
      · exact hverified
      · exact hs.verified b hb

/-- And so does every run. -/
theorem guarded_of_run {disk : NovenaGateway.Disk} {labels : List Machine.Label} {s : ConfigLog}
    (hreset : Run.Along (step host v) (NoReset v) (start disk) labels)
    (hrun : Run.exec (step host v) (start disk) labels = some s) : s.Guarded :=
  Run.exec_invariant (fun _ _ _ hs hreset h => guarded_step hs hreset h) (guarded_start disk) hreset
    hrun

/-! ## A recorded body -/

/-- The signed fields of the two messages are the same. -/
def SameBody (wire wire' : Dict String Json) : Prop :=
  ∀ key, key ≠ "signature" → key ≠ "signing_key_id" → Dict.get? wire key = Dict.get? wire' key

/-- A body that was recorded is never applied: its key has an entry, or its revision is not above
    the floor. -/
theorem verify_ne_apply {j : ConfigReplayJournal} {a : Application} {wire : Dict String Json}
    (hverified : a.Verified) (hfloor : a.revision ≤ j.state.maxRevision)
    (hbody : SameBody wire a.wire) (cfg : GuardConfig) (clock : Clock)
    (config : Dict String Json) (idempotencyKey : String) (revision : Int) :
    ConfigEnvelopeGuard.verify cfg j clock wire ≠ .ok (.apply config idempotencyKey revision) := by
  intro hverify
  obtain ⟨_, hread, _, _, _, hfresh, _⟩ := ConfigEnvelopeGuard.verify_apply hverify
  have hsame : (Json.obj wire).item "revision" = (Json.obj a.wire).item "revision" := by
    simp only [Json.item, hbody "revision" (by decide) (by decide)]
  rw [hsame, hverified.revision] at hread
  have hrevision := Except.ok.inj hread
  omega

/-- Where nothing is verified for application, nothing is written and nothing changes. -/
theorem unchanged_of_verify {cfg : GuardConfig} {g : NovenaGateway} {clock : Clock}
    {wire : Dict String Json} (outcomes rollbackOutcomes : Nat → StartOutcome)
    (h : ∀ config key revision, ConfigEnvelopeGuard.verify cfg g.configJournal clock wire ≠
      .ok (.apply config key revision)) :
    writtenConfig host cfg g clock (.obj wire) = none ∧
      (onConfigUpdate host cfg g clock (.obj wire) outcomes rollbackOutcomes).1 = g := by
  have hwritten : writtenConfig host cfg g clock (.obj wire) = none := by
    unfold writtenConfig
    split
    · next hwire =>
      obtain rfl := Json.obj.inj hwire
      split
      · next config key revision hverify => exact absurd hverify (h config key revision)
      · rfl
    · rfl
  refine ⟨hwritten, ?_⟩
  obtain heq | ⟨updated, _, _, _, _, _, hupdated, _⟩ :=
    RemoteConfigHandler.onConfigUpdate_cases host cfg g clock (.obj wire) outcomes rollbackOutcomes
  · exact heq
  · exact absurd (hwritten.symm.trans hupdated) (by simp)

/-! ## The table -/

/-- Recording keeps five hundred entries, and drops none whose revision is above that of an entry
    it keeps. -/
theorem record_requests (j : ConfigReplayJournal) (idempotencyKey : String) (revision : Int)
    (result : UpdateResult) :
    let written := j.state.requests.set idempotencyKey ⟨revision, result⟩
    let kept := (j.record idempotencyKey revision result true).1.state.requests
    kept.length = min 500 written.length ∧ ∃ dropped, (kept ++ dropped).Perm written ∧
      ∀ p ∈ kept, ∀ q ∈ dropped, q.2.revision ≤ p.2.revision :=
  ⟨List.length_greatest _ _ _, List.greatest_append_dropped _ _ _⟩

/-- The entry of an application. -/
def entryOf (a : Application) : String × ReplayEntry := (a.idempotencyKey, ⟨a.revision, a.result⟩)

/-- In a run of a gateway that starts with no journal, the table holds the newest five hundred of
    the results that were recorded. -/
theorem requests_newest {disk : NovenaGateway.Disk} (hnew : disk.configJournal = none)
    {labels : List Machine.Label} {s : ConfigLog}
    (hreset : Run.Along (step host v) (NoReset v) (start disk) labels)
    (hrun : Run.exec (step host v) (start disk) labels = some s) :
    s.machine.configJournal.state.requests.Perm ((s.applied.take 500).map entryOf) := by
  -- the table needs the increasing revisions, so both are carried through the run
  let Newest (s : ConfigLog) : Prop := s.Guarded ∧
    s.machine.configJournal.state.requests.Perm ((s.applied.take 500).map entryOf)
  have hstart : Newest (start disk) := by
    refine ⟨guarded_start disk, ?_⟩
    simp only [start, Machine.configJournal, hnew]
    exact .refl _
  refine (Run.exec_invariant (I := Newest) ?_ hstart hreset hrun).2
  rintro s label s' ⟨hs, hrequests⟩ hreset h
  have hs' := guarded_step hs hreset h
  refine ⟨hs', ?_⟩
  have happlied := step_applied h
  -- nothing is recorded, or one entry more
  cases hrecorded : appliedIn host s.machine label with
  | none =>
    obtain ⟨_, hstate⟩ := step_kept hs.synced hreset h hrecorded
    rw [hrecorded, Option.toList_none, List.nil_append] at happlied
    rw [happlied, hstate]
    exact hrequests
  | some a =>
    obtain ⟨_, _, hget, _, hjournal, _⟩ := step_recorded h hrecorded
    rw [hrecorded, Option.toList_some, List.singleton_append] at happlied
    -- the new entry goes to the end of the table, and to the front of the newest ones
    let newest := (a :: s.applied.take 500).map entryOf
    have hwritten : (s.machine.configJournal.state.requests.set a.idempotencyKey
        ⟨a.revision, a.result⟩).Perm newest := by
      rw [Dict.set_of_get?_eq_none hget]
      exact (List.perm_append_singleton _ _).trans (hrequests.cons _)
    have hsorted : newest.Pairwise fun p q => q.2.revision < p.2.revision := by
      rw [List.pairwise_map]
      have hall := hs'.increasing
      rw [happlied] at hall
      exact hall.sublist ((List.take_sublist 500 s.applied).cons_cons a)
    rw [hjournal, happlied]
    -- of 501 entries the 500 greatest revisions are kept, and these are the newest
    have hkept := List.greatest_perm (fun p => p.2.revision) 500 hwritten hsorted
    have htake : newest.take 500 = (((a :: s.applied).take 500).map entryOf) := by
      rw [← List.map_take]
      simp [List.take_take]
    rw [htake] at hkept
    exact hkept

/-- In every run without a reset, whatever messages come back in whatever order: the recorded
    revisions increase, a body that was recorded is never applied again, and the table loses no
    entry whose revision is above one it keeps. -/
theorem never_reapplied {disk : NovenaGateway.Disk} {labels : List Machine.Label} {s : ConfigLog}
    (hreset : Run.Along (step host v) (NoReset v) (start disk) labels)
    (hrun : Run.exec (step host v) (start disk) labels = some s) :
    (s.applied.Pairwise fun newer older => older.revision < newer.revision) ∧
    (∀ a ∈ s.applied, ∀ g wire, s.machine = .up g → SameBody wire a.wire →
      ∀ cfg clock outcomes rollbackOutcomes,
        writtenConfig host cfg g clock (.obj wire) = none ∧
        (onConfigUpdate host cfg g clock (.obj wire) outcomes rollbackOutcomes).1 = g) ∧
    (∀ idempotencyKey revision result,
      let j := s.machine.configJournal
      let written := j.state.requests.set idempotencyKey ⟨revision, result⟩
      let kept := (j.record idempotencyKey revision result true).1.state.requests
      kept.length = min 500 written.length ∧ ∃ dropped, (kept ++ dropped).Perm written ∧
        ∀ p ∈ kept, ∀ q ∈ dropped, q.2.revision ≤ p.2.revision) := by
  have hs := guarded_of_run hreset hrun
  refine ⟨hs.increasing, ?_, fun key revision result => record_requests _ key revision result⟩
  intro a ha g wire hg hbody cfg clock outcomes rollbackOutcomes
  have hfloor := hs.floor a ha
  rw [hg] at hfloor
  exact unchanged_of_verify outcomes rollbackOutcomes
    (verify_ne_apply (hs.verified a ha) hfloor hbody cfg clock)

/-- A station's update. -/
def stationDelivery : Machine.Label :=
  .configUpdate RemoteConfigHandler.stationGuard RemoteConfigHandler.stationClock
    (.obj (RemoteConfigHandler.stationUpdate "full_update" (Station.config "local" [])))
    (fun _ => .opened) (fun _ => .opened) false

/-- The update is delivered, and delivered again after a restart. -/
theorem never_reapplied_station : ∃ s,
    Run.exec (step Station.host Station.verifier) (start (Station.newDisk "local"))
      [.boot Station.commandGuard, stationDelivery, .halt, .boot Station.commandGuard,
       stationDelivery] = some s ∧
    s.applied.length = 1 ∧
    (s.applied.Pairwise fun newer older => older.revision < newer.revision) := by
  have hrun : ∃ s, Run.exec (step Station.host Station.verifier) (start (Station.newDisk "local"))
      [.boot Station.commandGuard, stationDelivery, .halt, .boot Station.commandGuard,
       stationDelivery] = some s ∧ s.applied.length = 1 := ⟨_, rfl, rfl⟩
  obtain ⟨s, hs, hlength⟩ := hrun
  refine ⟨s, hs, hlength, (never_reapplied ?_ hs).1⟩
  exact ⟨trivial, fun _ _ => ⟨trivial, fun _ _ => ⟨trivial, fun _ _ => ⟨trivial, fun _ _ =>
    ⟨trivial, fun _ _ => trivial⟩⟩⟩⟩⟩

end ConfigLog

end Novena

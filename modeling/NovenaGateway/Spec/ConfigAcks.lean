import NovenaGateway.Spec.ConfigReplay

/-!
# What a configuration acknowledgement says

An acknowledgement of success carries the revision and the checksum of the message it answers. For
a message that was applied they are those of the application. A repeated result is found by the
idempotency key alone, and the answer has the fields of the new message whatever it carries.

Key results:
- `ConfigLog.answered_step`
- `ConfigLog.truthful_of_run`
- `ConfigLog.reused_key`
-/

namespace Novena

namespace ConfigLog

open GovernedCommandGuard (field)
open RemoteConfigHandler (ConfigAck ackOf onConfigUpdate onConfigUpdate_handled)

variable {host : Host} {v : ReleaseVerifier}

/-! ## The journal over every step -/

/-- A property of what the journal holds in memory and in its file. -/
def Holds (P : ReplayState → Prop) (j : ConfigReplayJournal) : Prop :=
  P j.state ∧ P (j.file.getD .empty)

/-- A step that may reset the journal. -/
def Resets (step : Step NovenaGateway) : Prop :=
  ∀ g, (step.run g).configJournal = g.configJournal ∨
    ∃ ok, (step.run g).configJournal = (g.configJournal.reset ok).1

/-- An empty journal has the property, and a reset leaves it or an empty one. -/
theorem Holds.reset {P : ReplayState → Prop} (hempty : P .empty) {j : ConfigReplayJournal}
    (h : Holds P j) (ok : Bool) : Holds P (j.reset ok).1 := by
  cases ok with
  | false => exact ⟨hempty, h.2⟩
  | true => exact ⟨hempty, hempty⟩

/-- The steps of a reset only reset. -/
theorem resets_resetFieldState (config : Json) :
    ∀ step ∈ NovenaGateway.resetFieldState config, Resets step := by
  intro step hmem g
  simp only [NovenaGateway.resetFieldState, List.mem_cons, List.not_mem_nil, or_false] at hmem
  obtain rfl | rfl | rfl | rfl | rfl | rfl := hmem
  · exact .inl rfl
  · exact .inr ⟨false, rfl⟩
  · exact .inr ⟨true, rfl⟩
  · exact .inl rfl
  · exact .inl rfl
  · exact .inl rfl

/-- And those of a release. -/
theorem resets_releaseSteps (config config' : Json) (requestId : String) :
    ∀ step ∈ Provision.releaseSteps config config' requestId, Resets step := by
  intro step hmem
  simp only [Provision.releaseSteps, NovenaGateway.clearClaimBuffer, List.mem_append, List.mem_cons,
    List.not_mem_nil, or_false] at hmem
  obtain (((rfl | rfl) | hmem) | rfl | rfl) | rfl | rfl | rfl := hmem
  case inl.inl.inr => exact resets_resetFieldState config step hmem
  all_goals exact fun g => .inl rfl

/-- Of a rotation. -/
theorem resets_rotateSteps (config : Json) (c : Provision.Credentials) (claimChanged : Bool) :
    ∀ step ∈ Provision.rotateSteps config c claimChanged, Resets step := by
  intro step hmem
  simp only [Provision.rotateSteps, List.mem_append, List.mem_cons, List.not_mem_nil,
    or_false] at hmem
  obtain (rfl | hmem) | rfl := hmem
  · exact fun g => .inl rfl
  · split at hmem
    · exact resets_resetFieldState config step hmem
    · cases hmem
  · exact fun g => .inl rfl

/-- Of any message of the provisioning. -/
theorem resets_onProvisionMessage (v : ReleaseVerifier) (g : NovenaGateway) (now : Int)
    (payload : Dict String Json) :
    ∀ step ∈ (Provision.onProvisionMessage v g now payload).steps, Resets step := by
  have hcases := Provision.onProvisionMessage_cases v g now payload
  generalize Provision.onProvisionMessage v g now payload = operation at hcases
  cases hcases with
  | refused => exact fun _ hmem => by cases hmem
  | repeated => exact fun _ hmem => by cases hmem
  | released requestId config config' => exact resets_releaseSteps config config' requestId
  | stopped requestId config config' =>
    intro step hmem
    rw [Provision.stoppedSteps_eq config config' requestId] at hmem
    exact resets_releaseSteps config config' requestId step (List.mem_of_mem_take hmem)
  | rotated c config => exact resets_rotateSteps config c _

/-- And of a connection. -/
theorem resets_onConnectSteps (g : NovenaGateway) (result : Provision.ConnectResult) :
    ∀ step ∈ Provision.onConnectSteps g result, Resets step := by
  cases result with
  | notAuthorized =>
    show ∀ step ∈ Provision.retireRevokedOperationalCredentials g, Resets step
    obtain hnil | ⟨config, _, hsteps, _⟩ := Provision.retire_cases g
    · rw [hnil]
      exact fun _ hmem => by cases hmem
    · rw [hsteps]
      intro step hmem
      simp only [Provision.retireSteps, List.mem_cons, List.not_mem_nil, or_false] at hmem
      obtain rfl | rfl | rfl | rfl | rfl := hmem
      · exact fun g => .inr ⟨false, rfl⟩
      · exact fun g => .inr ⟨true, rfl⟩
      all_goals exact fun g => .inl rfl
  | _ => exact fun _ hmem => by cases hmem

/-- So every step keeps the property. -/
theorem keeps_holds {P : ReplayState → Prop} (hempty : P .empty) (s : ConfigLog)
    (label : Machine.Label) : s.Keeps v (Holds P) label := by
  have hresets : ∀ step, Resets step → ∀ g : NovenaGateway, Holds P g.configJournal →
      Holds P (step.run g).configJournal := by
    intro step hstep g hg
    obtain heq | ⟨ok, heq⟩ := hstep g
    · rw [heq]; exact hg
    · rw [heq]; exact hg.reset hempty ok
  cases label with
  | provision now payload ending =>
    exact fun g _ step hmem => hresets step (resets_onProvisionMessage v g now payload step hmem)
  | connect result ending =>
    exact fun g _ step hmem => hresets step (resets_onConnectSteps g result step hmem)
  | _ => trivial

/-! ## Where the entries come from -/

/-- Every entry is that of the newest application recorded under its key. -/
def Sourced (applied : List Application) (r : ReplayState) : Prop :=
  ∀ p ∈ r.requests, ∃ a, applied.find? (fun a => a.idempotencyKey = p.1) = some a ∧
    a.revision = p.2.revision ∧ a.result = p.2.result

/-- An empty journal has its requests from anywhere. -/
theorem sourced_empty (applied : List Application) : Sourced applied .empty :=
  fun _ h => by cases h

/-- Recording an application under a new key keeps the entries sourced. -/
theorem Sourced.record {applied : List Application} {j : ConfigReplayJournal} {a : Application}
    (h : Sourced applied j.state) (hget : j.get a.idempotencyKey = none) :
    Sourced (a :: applied)
      (j.record a.idempotencyKey a.revision a.result true).1.state := by
  intro p hp
  have hkept : p ∈ (j.state.requests.set a.idempotencyKey ⟨a.revision, a.result⟩).greatest
      (fun p => p.2.revision) 500 := hp
  have hset := List.subset_of_greatest _ _ hkept
  rw [Dict.set_of_get?_eq_none hget, List.mem_append, List.mem_singleton] at hset
  obtain hold | rfl := hset
  · -- an older entry has another key
    have hne : a.idempotencyKey ≠ p.1 := by
      intro heq
      have hany : (j.state.requests.any fun q => decide (q.1 = a.idempotencyKey)) = true :=
        List.any_eq_true.mpr ⟨p, hold, by simp [heq]⟩
      rw [Dict.any_key, Dict.contains, show j.state.requests.get? a.idempotencyKey = none from hget]
        at hany
      exact absurd hany (by decide)
    rw [List.find?_cons_of_neg (by simpa using hne)]
    exact h p hold
  · exact ⟨a, List.find?_cons_of_pos (by simp), rfl, rfl⟩

/-! ## The answers -/

/-- Where the acknowledgement says that the configuration was applied, a configuration with the
    checksum it names was written and started under the revision it names. -/
def Truthful (host : Host) (applied : List Application) (ack : ConfigAck) : Prop :=
  ack.Success → ∃ a ∈ applied, a.Took host ∧ ack.checksum = .str a.checksum ∧
    ack.revision.toInt = .ok a.revision

/-- What is true of the applications stays so. -/
theorem Truthful.mono {applied applied' : List Application} {ack : ConfigAck}
    (h : Truthful host applied ack) (hsub : applied ⊆ applied') : Truthful host applied' ack := by
  intro hsuccess
  obtain ⟨a, ha, hrest⟩ := h hsuccess
  exact ⟨a, hsub ha, hrest⟩

/-- A message that comes under a key with a successful result has the checksum and the revision of
    the message the result was recorded for. -/
def SameRequest (s : ConfigLog) : Machine.Label → Prop
  | .configUpdate _ _ (.obj wire) _ _ _ =>
    let key := (field wire "idempotency_key").toStr
    ∀ entry a, s.machine.configJournal.get key = some entry → entry.result.status = .success →
      s.applied.find? (fun a => a.idempotencyKey = key) = some a →
      field wire "checksum" = .str a.checksum ∧ (field wire "revision").toInt = .ok a.revision
  | _ => True

/-- The entries are sourced, the applications verified, and the answers true. -/
structure Answered (host : Host) (s : ConfigLog) : Prop where
  sourced : Holds (Sourced s.applied) s.machine.configJournal
  took : ∀ a ∈ s.applied, a.result.status = .success → a.Took host
  truthful : ∀ ack ∈ s.acks, Truthful host s.applied ack

/-- The revision a verified message names. -/
theorem revision_toInt {a : Application} (h : a.Verified) :
    (field a.wire "revision").toInt = .ok a.revision := by
  have hread := h.revision
  simp only [Except.bind_eq_ok, Json.item] at hread
  obtain ⟨revision, hitem, hint⟩ := hread
  split at hitem
  · next x hx =>
    obtain rfl := Except.ok.inj hitem
    rw [field, show Dict.get? a.wire "revision" = some x from hx]
    exact hint
  · cases hitem

/-- The answers of a step that records nothing. -/
theorem truthful_unrecorded {s s' : ConfigLog} {label : Machine.Label} (hs : s.Answered host)
    (hsame : s.SameRequest label) (h : step host v s label = some s')
    (hnone : appliedIn host s.machine label = none) :
    ∀ ack ∈ acksIn host s.machine label, Truthful host s.applied ack := by
  unfold acksIn
  split
  · next g cfg clock payload outcomes rollbackOutcomes hmachine =>
    have hhandled := onConfigUpdate_handled host cfg g clock payload outcomes rollbackOutcomes
    rw [hmachine] at hnone
    rw [show RemoteConfigHandler.appliedBy host cfg g clock payload outcomes rollbackOutcomes = none
      from hnone] at hhandled
    generalize onConfigUpdate host cfg g clock payload outcomes rollbackOutcomes = handled
      at hhandled ⊢
    cases hhandled with
    | unrecorded g' acks hjournal hacks =>
      exact fun ack hmem hsuccess => absurd hsuccess (hacks ack hmem)
    | replayed wire entry hpayload hverify =>
      intro ack hmem hsuccess
      obtain rfl := List.mem_singleton.mp hmem
      obtain ⟨result, hfinished, hstatus⟩ := hsuccess
      obtain rfl := RemoteConfigHandler.AckOutcome.finished.inj hfinished
      obtain ⟨hget, _⟩ := ConfigEnvelopeGuard.verify_replay hverify
      subst hpayload
      -- the entry is that of the newest application under the key, which the message repeats
      have hjournal : s.machine.configJournal = g.configJournal := by rw [hmachine]; rfl
      obtain ⟨a, hfind, _, hresult⟩ := hs.sourced.1 _ (Dict.mem_of_get? (hjournal ▸ hget))
      obtain ⟨hchecksum, hrevision⟩ := hsame entry a (hjournal ▸ hget) hstatus hfind
      have ha := List.mem_of_find?_eq_some hfind
      exact ⟨a, ha, hs.took a ha (hresult ▸ hstatus), hchecksum, hrevision⟩
  · exact fun _ hmem => by cases hmem

/-- Every step answers truthfully. -/
theorem answered_step {s s' : ConfigLog} {label : Machine.Label} (hs : s.Answered host)
    (hsame : s.SameRequest label) (h : step host v s label = some s') : s'.Answered host := by
  have happlied := step_applied h
  have hacks : s'.acks = acksIn host s.machine label ++ s.acks := by
    simp only [step, Option.map_eq_some_iff] at h
    obtain ⟨m', _, rfl⟩ := h
    rfl
  cases hrecorded : appliedIn host s.machine label with
  | none =>
    rw [hrecorded, Option.toList_none, List.nil_append] at happlied
    have hsourced : Holds (Sourced s.applied) s'.machine.configJournal :=
      step_unrecorded (fun j hj => ⟨hj.2, hj.2⟩) hs.sourced
        (keeps_holds (sourced_empty s.applied) s label) h hrecorded
    refine ⟨?_, ?_, ?_⟩
    · rw [happlied]
      exact hsourced
    · rw [happlied]
      exact hs.took
    · rw [happlied, hacks]
      intro ack hmem
      obtain hmem | hmem := List.mem_append.mp hmem
      · exact truthful_unrecorded hs hsame h hrecorded ack hmem
      · exact hs.truthful ack hmem
  | some a =>
    obtain ⟨hverified, htook, hget, _, hjournal, accepted, haccepted, hanswers⟩ :=
      step_recorded h hrecorded
    rw [hrecorded, Option.toList_some, List.singleton_append] at happlied
    have hsourced := hs.sourced.1.record hget
    refine ⟨?_, ?_, ?_⟩
    · rw [happlied, hjournal]
      exact ⟨hsourced, hsourced⟩
    · rw [happlied]
      intro b hb
      obtain rfl | hb := List.mem_cons.mp hb
      · exact htook
      · exact hs.took b hb
    · rw [happlied, hanswers]
      intro ack hmem
      simp only [List.cons_append, List.nil_append, List.mem_cons] at hmem
      obtain rfl | rfl | hmem := hmem
      · exact fun hsuccess => absurd hsuccess haccepted
      · -- the answer to the application itself
        rintro ⟨result, hfinished, hstatus⟩
        obtain rfl := RemoteConfigHandler.AckOutcome.finished.inj hfinished
        exact ⟨a, List.mem_cons_self, htook hstatus, hverified.checksum, revision_toInt hverified⟩
      · exact (hs.truthful ack hmem).mono (List.subset_cons_self a s.applied)

/-- In every run of a gateway that starts with no journal and whose messages repeat the request of
    the key they reuse, every acknowledgement of success follows an application of the configuration
    it names under the revision it names. -/
theorem truthful_of_requests {disk : NovenaGateway.Disk} (hnew : disk.configJournal = none)
    {labels : List Machine.Label} {s : ConfigLog}
    (hsame : Run.Along (step host v) SameRequest (start disk) labels)
    (hrun : Run.exec (step host v) (start disk) labels = some s) :
    ∀ ack ∈ s.acks, Truthful host s.applied ack := by
  have hstart : (start disk).Answered host := by
    refine ⟨?_, (fun _ h => by cases h), (fun _ h => by cases h)⟩
    simp only [start, Machine.configJournal, hnew]
    exact ⟨sourced_empty [], sourced_empty []⟩
  exact (Run.exec_invariant (fun _ _ _ hs hsame h => answered_step hs hsame h) hstart hsame
    hrun).truthful

/-! ## A reused key -/

section Station

/-- A guard that tells configurations without connectors from the others. -/
def stationGuard : GuardConfig :=
  { RemoteConfigHandler.stationGuard with
    checksum := fun config =>
      if (config.field "connectors").truthy then "5f70bf18" else "e3b0c442" }

/-- The envelope of a configuration, under the one idempotency key. -/
def envelope (revision : Int) (checksum : String) (connectors : List Json) : Dict String Json :=
  [("schema_version", .int 1), ("request_id", .str "request-1"),
   ("idempotency_key", .str "idempotency-1"),
   ("target", .obj [("gateway_serial", .str "GW-001")]), ("revision", .int revision),
   ("checksum", .str checksum), ("expires_at", .str "2026-01-01T00:00:30Z"),
   ("config", .obj (Station.config "local" connectors)), ("signing_key_id", .str "key-1"),
   ("signature", .str "c2lnbmVk")]

/-- The message of an envelope. -/
def delivery (wire : Dict String Json) : Machine.Label :=
  .configUpdate stationGuard RemoteConfigHandler.stationClock (.obj wire) (fun _ => .opened)
    (fun _ => .opened) false

/-- The update is answered twice, each time under the revision and the checksum it was applied
    with. -/
theorem truthful_of_requests_station : ∃ s,
    Run.exec (step Station.host Station.verifier) (start (Station.newDisk "local"))
      [.boot Station.commandGuard, delivery (envelope 1 "e3b0c442" []),
       delivery (envelope 1 "e3b0c442" [])] = some s ∧
    s.acks.length = 3 ∧ ∀ ack ∈ s.acks, Truthful Station.host s.applied ack := by
  have hrun : ∃ s, Run.exec (step Station.host Station.verifier) (start (Station.newDisk "local"))
      [.boot Station.commandGuard, delivery (envelope 1 "e3b0c442" []),
       delivery (envelope 1 "e3b0c442" [])] = some s ∧ s.acks.length = 3 := ⟨_, rfl, rfl⟩
  obtain ⟨s, hs, hlength⟩ := hrun
  refine ⟨s, hs, hlength, truthful_of_requests rfl ?_ hs⟩
  refine ⟨trivial, fun _ hboot => ?_⟩
  obtain rfl := Option.some.inj hboot
  refine ⟨(fun _ _ hget => by cases (show (none : Option ReplayEntry) = some _ from hget)),
    fun _ hfirst => ?_⟩
  obtain rfl := Option.some.inj hfirst
  refine ⟨fun _ a _ _ hfind => ?_, fun _ _ => trivial⟩
  obtain rfl := Option.some.inj hfind
  exact ⟨rfl, rfl⟩

/-- Another configuration under the same key is answered as applied, under a revision and a
    checksum that were never applied. -/
theorem reused_key : ∃ s ack,
    Run.exec (step Station.host Station.verifier) (start (Station.newDisk "local"))
      [.boot Station.commandGuard, delivery (envelope 1 "e3b0c442" []),
       delivery (envelope 2 "5f70bf18" [Station.meter])] = some s ∧
    ack ∈ s.acks ∧ ack.revision.toInt = .ok 2 ∧ ack.checksum = .str "5f70bf18" ∧
    ¬Truthful Station.host s.applied ack := by
  refine ⟨_, _, rfl, List.mem_cons_self, rfl, rfl, fun htrue => ?_⟩
  obtain ⟨a, ha, _, hchecksum, _⟩ := htrue ⟨_, rfl, rfl⟩
  obtain rfl := List.mem_singleton.mp ha
  have hsame : Json.str "5f70bf18" = .str "e3b0c442" := hchecksum
  exact absurd (Json.str.inj hsame) (by decide)

end Station

end ConfigLog

end Novena

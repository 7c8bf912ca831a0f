import NovenaGateway.Native.SiteData

/-!
# Network steps are the operations of the gateway

The messages the network thread handles are those of `Native.Lifecycle`, cut where other threads
can come in. When none does, an operation has the outcome it has there.

Key results:
- `NetworkStep.onProvisionMessage_steps`
- `SiteData.provision_uninterrupted`
- `SiteData.connect_uninterrupted`
- `SiteData.configUpdate_uninterrupted`
-/

namespace Novena

namespace NetworkStep

/-- A release at the site takes the steps of the gateway's. -/
theorem handleRelease_steps (v : ReleaseVerifier) (g : NovenaGateway) (now : Int)
    (payload : Dict String Json) :
    (handleRelease v g now payload).map (·.flatMap steps) =
      (Provision.handleRelease v g now payload).map Provision.Operation.steps := by
  unfold handleRelease Provision.handleRelease
  cases Provision.verifyRelease v g.publisher now payload with
  | error e => rfl
  | ok requestId =>
    simp only [bind, Except.bind]
    split
    · rfl
    · cases Provision.releasedConfig g.configFile with
      | error e => rfl
      | ok config =>
        dsimp only
        cases Provision.requestedConfig config requestId with
        | error e => rfl
        | ok config' =>
          dsimp only
          cases g.buffer.isSafe <;> rfl

/-- And so does a rotation. -/
theorem rotatePassword_steps (g : NovenaGateway) (c : Provision.Credentials) :
    (rotatePassword g c).map (·.flatMap steps) =
      (Provision.rotatePassword g c).map Provision.Operation.steps := by
  unfold rotatePassword Provision.rotatePassword
  dsimp only
  cases Provision.rotatedConfig g.configFile c (c.changesClaim g.publisher) with
  | error e => rfl
  | ok config => cases hchanged : c.changesClaim g.publisher <;> rfl

/-- A provisioning message leads to the same steps. -/
theorem onProvisionMessage_steps (v : ReleaseVerifier) (g : NovenaGateway) (now : Int)
    (payload : Dict String Json) :
    (onProvisionMessage v g now payload).flatMap steps =
      (Provision.onProvisionMessage v g now payload).steps := by
  -- two computations that agree on the steps either both return or both raise
  have hagree : ∀ {x : Py (List NetworkStep)} {y : Py Provision.Operation},
      x.map (·.flatMap steps) = y.map Provision.Operation.steps →
      (∃ network operation, x = .ok network ∧ y = .ok operation ∧
        network.flatMap steps = operation.steps) ∨
      ∃ e e', x = .error e ∧ y = .error e' := by
    intro x y h
    cases x <;> cases y
    · exact .inr ⟨_, _, rfl, rfl⟩
    · cases h
    · cases h
    · exact .inl ⟨_, _, rfl, rfl, Except.ok.inj h⟩
  unfold onProvisionMessage Provision.onProvisionMessage
  dsimp only
  by_cases hrelease : (GovernedCommandGuard.field payload "action").eq (.str "release") = true
  · simp only [if_pos hrelease]
    obtain ⟨network, operation, hx, hy, h⟩ | ⟨e, e', hx, hy⟩ :=
      hagree (handleRelease_steps v g now payload)
    · rw [hx, hy]
      exact h
    · rw [hx, hy]
      rfl
  simp only [if_neg hrelease]
  by_cases hrotate : ((GovernedCommandGuard.field payload "action").eq (.str "rotate_password") ||
      (GovernedCommandGuard.field payload "action").eq (.str "activate")) = true
  · simp only [if_pos hrotate]
    cases Provision.readCredentials g.publisher payload
      ((GovernedCommandGuard.field payload "action").eq (.str "activate")) with
    | error e => rfl
    | ok found =>
      cases found with
      | none => rfl
      | some c =>
        obtain ⟨network, operation, hx, hy, h⟩ | ⟨e, e', hx, hy⟩ := hagree (rotatePassword_steps g c)
        · simp only [Except.ok_bind, hx, hy]
          exact h
        · simp only [Except.ok_bind, hx, hy]
          rfl
  · simp only [if_neg hrotate]
    rfl

/-- And a retirement. -/
theorem retireRevokedOperationalCredentials_steps (g : NovenaGateway) :
    (retireRevokedOperationalCredentials g).flatMap steps =
      Provision.retireRevokedOperationalCredentials g := by
  unfold retireRevokedOperationalCredentials Provision.retireRevokedOperationalCredentials
  dsimp only
  split
  · rfl
  · cases Provision.retiredConfig g.configFile g.publisher.releaseRequestId with
    | error e => rfl
    | ok config => cases config <;> rfl

/-- And so does a connection. -/
theorem onConnect_perform (g : NovenaGateway) (result : Provision.ConnectResult) :
    Step.perform ((onConnect g result).flatMap steps) g =
      Provision.onConnectEnd (Step.perform (Provision.onConnectSteps g result) g) result := by
  cases result with
  | accepted => rfl
  | refused => rfl
  | notAuthorized =>
    unfold onConnect Provision.onConnectSteps
    rw [List.flatMap_append, Step.perform_append, retireRevokedOperationalCredentials_steps]
    rfl

end NetworkStep

namespace SiteData

variable {host : Host} {v : ReleaseVerifier} {s : SiteData}

/-- Nothing comes in while the network thread carries its steps out. -/
theorem network_uninterrupted (host : Host) (v : ReleaseVerifier) (steps : List NetworkStep)
    (hnetwork : s.network = steps) (hunlocked : s.locked = false) :
    ∃ s', exec host v s (List.replicate steps.length .network) = some s' ∧ s'.network = [] ∧
      s'.gateway = Step.perform (steps.flatMap NetworkStep.steps) s.gateway := by
  induction steps generalizing s with
  | nil => exact ⟨s, rfl, hnetwork, rfl⟩
  | cons next steps ih =>
    have hwaits : s.waits next = false := by
      unfold waits
      split
      · exact hunlocked
      · rfl
    have hstep : step host v s .network =
        some { s.carryOut next next.steps with network := steps } := by
      simp [step, advance, hnetwork, hwaits]
    obtain ⟨s', hrun, hdone, hgateway⟩ :=
      ih (s := { s.carryOut next next.steps with network := steps }) rfl hunlocked
    refine ⟨s', Run.exec_cons.mpr ⟨_, hstep, hrun⟩, hdone, ?_⟩
    rw [hgateway, List.flatMap_cons, Step.perform_append]
    rfl

/-- An idle network thread takes the next message. -/
theorem receive_idle (hidle : s.network = []) (steps : List NetworkStep) :
    s.receive steps = some { s with network := steps } := by
  simp [receive, hidle]

/-- A provisioning message that no other thread interrupts. -/
theorem provision_uninterrupted (hidle : s.network = []) (hunlocked : s.locked = false)
    (now : Int) (payload : Dict String Json) : ∃ n s',
    exec host v s (.provision now payload :: List.replicate n .network) = some s' ∧
      s'.network = [] ∧
      Machine.step host v (.up s.gateway) (.provision now payload .completes) =
        some (.up s'.gateway) := by
  have hreceived : step host v s (.provision now payload) =
      some { s with network := NetworkStep.onProvisionMessage v s.gateway now payload } :=
    receive_idle hidle _
  obtain ⟨s', hrun, hdone, hgateway⟩ := network_uninterrupted host v
    (s := { s with network := NetworkStep.onProvisionMessage v s.gateway now payload }) _ rfl
    hunlocked
  refine ⟨_, s', Run.exec_cons.mpr ⟨_, hreceived, hrun⟩, hdone, ?_⟩
  rw [hgateway, NetworkStep.onProvisionMessage_steps]
  rfl

/-- A connection that no other thread interrupts. -/
theorem connect_uninterrupted (hidle : s.network = []) (hunlocked : s.locked = false)
    (result : Provision.ConnectResult) : ∃ n s',
    exec host v s (.connect result :: List.replicate n .network) = some s' ∧ s'.network = [] ∧
      Machine.step host v (.up s.gateway) (.connect result .completes) =
        some (.up s'.gateway) := by
  have hreceived : step host v s (.connect result) =
      some { s with network := NetworkStep.onConnect s.gateway result } :=
    receive_idle hidle _
  obtain ⟨s', hrun, hdone, hgateway⟩ := network_uninterrupted host v
    (s := { s with network := NetworkStep.onConnect s.gateway result }) _ rfl hunlocked
  refine ⟨_, s', Run.exec_cons.mpr ⟨_, hreceived, hrun⟩, hdone, ?_⟩
  rw [hgateway, NetworkStep.onConnect_perform]
  rfl

/-- The connectors are started one by one. -/
theorem startConnectors_run (names : List Json) :
    exec host v s (names.map .startConnector) =
      some { s with gateway.connectors := s.gateway.connectors ++ names } := by
  induction names generalizing s with
  | nil => simp [exec]
  | cons name names ih =>
    refine Run.exec_cons.mpr ⟨_, rfl, ?_⟩
    exact (ih (s := { s with gateway.connectors := s.gateway.connectors ++ [name] })).trans
      (by simp)

/-- A configuration update that no other thread interrupts. -/
theorem configUpdate_uninterrupted (hidle : s.network = []) (cfg : GuardConfig) (clock : Clock)
    (payload : Json) (outcomes rollbackOutcomes : Nat → StartOutcome) :
    ∃ (names : List Json) (s' : SiteData),
    exec host v s (.configUpdate cfg clock payload outcomes rollbackOutcomes :: .stopConnectors ::
      names.map .startConnector) = some s' ∧
      Machine.step host v (.up s.gateway)
        (.configUpdate cfg clock payload outcomes rollbackOutcomes false) =
          some (.up s'.gateway) := by
  have hreceived : s.receive [] = some s := by
    rw [receive_idle hidle, ← hidle]
  let handled := (RemoteConfigHandler.onConfigUpdate host cfg s.gateway clock payload outcomes
    rollbackOutcomes).1
  have hhandled : step host v s (.configUpdate cfg clock payload outcomes rollbackOutcomes) =
      some { s with gateway := { handled with connectors := s.gateway.connectors } } := by
    simp only [step, hreceived, Option.map_some, handled]
  refine ⟨handled.connectors, _, Run.exec_cons.mpr ⟨_, hhandled, Run.exec_cons.mpr ⟨_, rfl,
    startConnectors_run _⟩⟩, ?_⟩
  rfl

end SiteData

end Novena

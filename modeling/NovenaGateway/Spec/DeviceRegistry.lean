import NovenaGateway.ForStd.Run
import NovenaGateway.Native.DeviceRegistry
import NovenaGateway.Spec.ConfigRollback

/-!
# Devices of running connectors

Every operation that stops the connectors empties the device registry with them, and a connector
that is started leaves the registry alone. A restart of one connector takes the instance away and
not its devices; as long as it has none, every entry refers to a connector that runs.

Key results:
- `Registry.applyConfigWithRollback_agrees`
- `Registry.restartConnector_live_iff`
- `Registry.live_of_run`
- `Registry.restart_dangles`
-/

namespace Novena

namespace Registry

/-- Every entry refers to a connector that runs. -/
def Live (r : Registry) : Prop := ∀ p ∈ r.devices, ∃ c ∈ r.connectors, c.id = p.2.connector

/-- Without devices every device is live. -/
theorem live_of_empty {r : Registry} (h : r.devices = []) : r.Live := by
  intro p hp
  rw [h] at hp
  cases hp

/-- More connectors keep the registry live. -/
theorem Live.mono {r r' : Registry} (h : r.Live) (hdevices : r'.devices = r.devices)
    (hconnectors : r.connectors ⊆ r'.connectors) : r'.Live := by
  intro p hp
  rw [hdevices] at hp
  obtain ⟨c, hc, hid⟩ := h p hp
  exact ⟨c, hconnectors hc, hid⟩

/-! ## What the operations do -/

/-- New connectors leave the devices and the old connectors. -/
theorem append_frame (r : Registry) (names : List Json) :
    (r.append names).devices = r.devices ∧ (r.append names).config = r.config ∧
      r.connectors ⊆ (r.append names).connectors := by
  induction names generalizing r with
  | nil => exact ⟨rfl, rfl, List.Subset.refl _⟩
  | cons name names ih =>
    obtain ⟨hdevices, hconfig, hconnectors⟩ := ih
      { r with connectors := r.connectors ++ [⟨r.created, name.toStr⟩], created := r.created + 1 }
    exact ⟨hdevices, hconfig, fun c hc => hconnectors (List.mem_append_left _ hc)⟩

/-- A start leaves the devices and keeps the connectors. -/
theorem start_frame (r : Registry) (outcomes : Nat → StartOutcome) :
    (r.start outcomes).1.devices = r.devices ∧
      r.connectors ⊆ (r.start outcomes).1.connectors := by
  obtain ⟨hdevices, _, hconnectors⟩ := append_frame
    { r with config := (NovenaGateway.startConnectors outcomes r.config).config }
    (NovenaGateway.startConnectors outcomes r.config).opened
  exact ⟨hdevices, hconnectors⟩

/-- And so does a connector that is opened again. -/
theorem reopen_frame (r : Registry) (name : Json) (outcome : StartOutcome) :
    (r.reopen name outcome).devices = r.devices ∧
      r.connectors ⊆ (r.reopen name outcome).connectors := by
  unfold reopen
  split
  · next fields hconfig =>
    split
    · next entries hentries =>
      dsimp only
      split
      · next result hresult =>
        split
        · obtain ⟨hdevices, _, hconnectors⟩ := append_frame
            { r with config := .obj (Dict.set fields "connectors"
              (.arr (startNamed name outcome entries).1)) } [result.name]
          exact ⟨hdevices, hconnectors⟩
        · exact ⟨rfl, List.Subset.refl _⟩
      · exact ⟨rfl, List.Subset.refl _⟩
    · exact ⟨rfl, List.Subset.refl _⟩
  · exact ⟨rfl, List.Subset.refl _⟩

/-- A start keeps the devices live. -/
theorem start_live {r : Registry} (h : r.Live) (outcomes : Nat → StartOutcome) :
    (r.start outcomes).1.Live :=
  h.mono (start_frame r outcomes).1 (start_frame r outcomes).2

/-- After the stop there are none. -/
theorem stop_live (r : Registry) : r.stop.Live := live_of_empty rfl

/-- A switch to another configuration stops and starts. -/
theorem switchTo_live (r : Registry) (config : Json) (outcomes : Nat → StartOutcome) :
    (r.switchTo config outcomes).1.Live :=
  start_live (live_of_empty rfl) outcomes

/-- And an application that rolls back does it twice. -/
theorem applyConfigWithRollback_live (r : Registry) (newConfig previous : Json)
    (outcomes rollbackOutcomes : Nat → StartOutcome) :
    (r.applyConfigWithRollback newConfig previous outcomes rollbackOutcomes).Live := by
  have hswitched := switchTo_live r newConfig outcomes
  unfold applyConfigWithRollback
  split
  · next hswitch => rwa [hswitch] at hswitched
  · next hswitch =>
    split
    · rwa [hswitch] at hswitched
    · exact switchTo_live _ previous rollbackOutcomes

/-- A running connector that registers a device refers to itself. -/
theorem manageDevice_live {r : Registry} (h : r.Live) {connector : Connector}
    (hrunning : connector ∈ r.connectors) (deviceName deviceType : String) (deviceId : Json) :
    (r.manageDevice connector deviceName deviceType deviceId).Live := by
  unfold manageDevice
  split
  · exact h
  · intro p hp
    obtain rfl | hp := Dict.mem_set hp
    · exact ⟨connector, hrunning, rfl⟩
    · exact h p hp

/-- A device less. -/
theorem delDevice_live {r : Registry} (h : r.Live) (deviceName : String) :
    (r.delDevice deviceName).Live :=
  fun p hp => h p (List.mem_of_mem_filter hp)

/-! ## The gateway -/

/-- The registry and the gateway have the same configuration, and connectors of the same names. -/
structure Agrees (r : Registry) (g : NovenaGateway) : Prop where
  config : r.config = g.config
  names : r.connectors.map Connector.name = g.connectors.map Json.toStr

/-- The new connectors have the names. -/
theorem append_names (r : Registry) (names : List Json) :
    (r.append names).connectors.map Connector.name =
      r.connectors.map Connector.name ++ names.map Json.toStr := by
  induction names generalizing r with
  | nil => simp [append]
  | cons name names ih => rw [append, ih]; simp

/-- The registry does what the gateway does. -/
theorem switchTo_agrees (r : Registry) (g : NovenaGateway) (config : Json)
    (outcomes : Nat → StartOutcome) :
    Agrees (r.switchTo config outcomes).1 (RemoteConfigHandler.switchTo g config outcomes).1 ∧
      (r.switchTo config outcomes).2 = (RemoteConfigHandler.switchTo g config outcomes).2 := by
  refine ⟨⟨(append_frame _ _).2.1, ?_⟩, rfl⟩
  rw [switchTo, start, append_names]
  rfl

/-- The application of a configuration leaves the connectors the gateway has after it. -/
theorem applyConfigWithRollback_agrees (r : Registry) (g : NovenaGateway) (newConfig : Json)
    (outcomes rollbackOutcomes : Nat → StartOutcome) :
    Agrees (r.applyConfigWithRollback newConfig g.configFile outcomes rollbackOutcomes)
      (RemoteConfigHandler.applyConfigWithRollback g newConfig outcomes rollbackOutcomes).1 := by
  obtain ⟨hagrees, hresults⟩ := switchTo_agrees r g newConfig outcomes
  unfold applyConfigWithRollback RemoteConfigHandler.applyConfigWithRollback
  generalize r.switchTo newConfig outcomes = switched at hagrees hresults
  generalize RemoteConfigHandler.switchTo g newConfig outcomes = switched' at hagrees hresults
  obtain ⟨r', results⟩ := switched
  obtain ⟨g', results'⟩ := switched'
  obtain rfl : results = results' := hresults
  cases results with
  | error e => exact hagrees
  | ok results =>
    dsimp only
    split
    · exact hagrees
    · obtain ⟨hback, _⟩ := switchTo_agrees r' g' g.configFile rollbackOutcomes
      split
      · next h => rw [h] at hback; exact hback
      · next h => rw [h] at hback; exact hback

/-! ## The restart of one connector -/

/-- The connector that is restarted has no device. -/
def Deviceless (r : Registry) (params : Json) : Prop :=
  ∀ target, r.restartTarget params = some target → ∀ p ∈ r.devices, p.2.connector ≠ target.id

/-- A connector without devices can be restarted. -/
theorem restartConnector_live {r : Registry} (h : r.Live) {params : Json}
    (hnone : r.Deviceless params) (outcome : StartOutcome) :
    (r.restartConnector params outcome).Live := by
  unfold restartConnector
  split
  · exact h
  · next target htarget =>
    obtain ⟨hdevices, hconnectors⟩ := reopen_frame
      { r with connectors := r.connectors.erase target } (params.field "name") outcome
    intro p hp
    rw [hdevices] at hp
    obtain ⟨c, hc, hid⟩ := h p hp
    -- the entry is not one of the connector that goes
    have hne : c ≠ target := by
      rintro rfl
      exact hnone c htarget p hp hid.symm
    exact ⟨c, hconnectors ((List.mem_erase_of_ne hne).mpr hc), hid⟩

/-- The instances are numbered in the order in which they were made. -/
structure Numbered (r : Registry) : Prop where
  ids : (r.connectors.map Connector.id).Nodup
  below : ∀ c ∈ r.connectors, c.id < r.created

/-- New connectors have new numbers. -/
theorem append_numbered {r : Registry} (h : r.Numbered) (names : List Json) :
    (r.append names).Numbered ∧
      ∀ c ∈ (r.append names).connectors, c ∈ r.connectors ∨ r.created ≤ c.id := by
  induction names generalizing r with
  | nil => exact ⟨h, fun c hc => .inl hc⟩
  | cons name names ih =>
    let r' : Registry := { r with
      connectors := r.connectors ++ [⟨r.created, name.toStr⟩], created := r.created + 1 }
    have hr' : r'.Numbered := by
      constructor
      · rw [List.map_append, List.nodup_append]
        refine ⟨h.ids, by simp, ?_⟩
        intro a ha b hb
        obtain ⟨c, hc, rfl⟩ := List.mem_map.mp ha
        obtain rfl : b = r.created := by simpa using hb
        exact Nat.ne_of_lt (h.below c hc)
      · intro c hc
        obtain hc | hc := List.mem_append.mp hc
        · exact Nat.lt_succ_of_lt (h.below c hc)
        · obtain rfl := List.mem_singleton.mp hc
          exact Nat.lt_succ_self _
    obtain ⟨hnumbered, hfrom⟩ := ih hr'
    refine ⟨hnumbered, fun c hc => ?_⟩
    obtain hc | hle := hfrom c hc
    · obtain hc | hc := List.mem_append.mp hc
      · exact .inl hc
      · obtain rfl := List.mem_singleton.mp hc
        exact .inr (Nat.le_refl _)
    · exact .inr (Nat.le_of_succ_le hle)

/-- What a restart opens is a new instance. -/
theorem reopen_numbered {r : Registry} (h : r.Numbered) (name : Json) (outcome : StartOutcome) :
    (r.reopen name outcome).Numbered ∧
      ∀ c ∈ (r.reopen name outcome).connectors, c ∈ r.connectors ∨ r.created ≤ c.id := by
  unfold reopen
  split
  · next fields hconfig =>
    split
    · next entries hentries =>
      have h' : Numbered { r with config := .obj (Dict.set fields "connectors"
          (.arr (startNamed name outcome entries).1)) } := ⟨h.ids, h.below⟩
      dsimp only
      split
      · split
        · exact append_numbered h' _
        · exact ⟨h', fun c hc => .inl hc⟩
      · exact ⟨h', fun c hc => .inl hc⟩
    · exact ⟨h, fun c hc => .inl hc⟩
  · exact ⟨h, fun c hc => .inl hc⟩

/-- A restart keeps a live registry live exactly when the connector has no device. -/
theorem restartConnector_live_iff {r : Registry} (h : r.Live) (hnumbered : r.Numbered)
    (params : Json) (outcome : StartOutcome) :
    (r.restartConnector params outcome).Live ↔ r.Deviceless params := by
  refine ⟨fun hlive target htarget p hp hid => ?_, fun hnone => restartConnector_live h hnone _⟩
  let r' : Registry := { r with connectors := r.connectors.erase target }
  have hr' : r'.Numbered :=
    ⟨hnumbered.ids.sublist (List.erase_sublist.map Connector.id),
      fun c hc => hnumbered.below c (List.mem_of_mem_erase hc)⟩
  have hrestart : r.restartConnector params outcome = r'.reopen (params.field "name") outcome := by
    simp only [restartConnector, htarget, r']
  rw [hrestart] at hlive
  have hmem : target ∈ r.connectors := by
    unfold restartTarget at htarget
    split at htarget
    · split at htarget
      · exact List.mem_of_find?_eq_some htarget
      · cases htarget
    · cases htarget
  obtain ⟨c, hc, hcid⟩ := hlive p ((reopen_frame r' _ outcome).1 ▸ hp)
  obtain hold | hnew := (reopen_numbered hr' _ outcome).2 c hc
  · -- no other instance has the number of the one that went
    have hceq := List.inj_on_of_nodup_map hnumbered.ids (List.mem_of_mem_erase hold) hmem
      (hcid.trans hid)
    subst hceq
    have hnodup := hnumbered.ids.of_map
    exact absurd hold hnodup.not_mem_erase
  · have hbelow := hnumbered.below target hmem
    have hcreated : r'.created = r.created := rfl
    omega

/-! ## Runs -/

/-- No connector that has a device is restarted on its own. -/
def KeepsDevices (r : Registry) : Label → Prop
  | .restartConnector params _ => r.Deviceless params
  | _ => True

/-- Every step that keeps the devices keeps them live. -/
theorem live_step {r r' : Registry} {label : Label} (h : r.Live) (hkeeps : r.KeepsDevices label)
    (hstep : r.step label = some r') : r'.Live := by
  cases label with
  | start outcomes =>
    obtain rfl := Option.some.inj hstep
    exact start_live h outcomes
  | manage connector deviceName deviceType deviceId =>
    simp only [step] at hstep
    split at hstep
    · next hrunning =>
      obtain rfl := Option.some.inj hstep
      exact manageDevice_live h hrunning deviceName deviceType deviceId
    · cases hstep
  | lose connector deviceName =>
    simp only [step] at hstep
    split at hstep
    · obtain rfl := Option.some.inj hstep
      exact delDevice_live h deviceName
    · cases hstep
  | stop =>
    obtain rfl := Option.some.inj hstep
    exact stop_live r
  | restartConnector params outcome =>
    obtain rfl := Option.some.inj hstep
    exact restartConnector_live h hkeeps outcome
  | restartAll outcomes =>
    obtain rfl := Option.some.inj hstep
    exact start_live (stop_live r) outcomes
  | applyConfig newConfig previous outcomes rollbackOutcomes =>
    obtain rfl := Option.some.inj hstep
    exact applyConfigWithRollback_live r newConfig previous outcomes rollbackOutcomes
  | resetClaim config =>
    obtain rfl := Option.some.inj hstep
    exact live_of_empty rfl

/-- In every run in which no connector with a device is restarted on its own, every entry of the
    registry refers to a connector that runs. -/
theorem live_of_run {config : Json} {labels : List Label} {r : Registry}
    (hkeeps : Run.Along step KeepsDevices (init config) labels)
    (hrun : Run.exec step (init config) labels = some r) : r.Live :=
  Run.exec_invariant (fun _ _ _ h hkeeps hstep => live_step h hkeeps hstep) (live_of_empty rfl)
    hkeeps hrun

/-- A station starts its connector, which registers a device, and is restarted. -/
def stationRestart : List Label :=
  [.start fun _ => .opened, .manage ⟨0, "meter"⟩ "Cold Room" "default" (.int 1),
   .restartConnector (.obj [("name", .str "meter")]) .opened]

/-- The device still refers to the instance that was closed, and the new one does not register
    it again. -/
theorem restart_dangles : ∃ r,
    Run.exec step (init (.obj (Station.config "local" [Station.meter]))) stationRestart = some r ∧
      ¬r.Live ∧ r.connectors = [⟨1, "meter"⟩] ∧
      r.step (.manage ⟨1, "meter"⟩ "Cold Room" "default" (.int 1)) = some r := by
  refine ⟨_, rfl, fun hlive => ?_, rfl, rfl⟩
  obtain ⟨c, hc, hid⟩ := hlive ("Cold Room", ⟨"default", 0, .int 1⟩) List.mem_cons_self
  obtain rfl := List.mem_singleton.mp hc
  exact absurd hid (by decide)

/-- A restart before there is a device, and one of all connectors after. -/
theorem live_of_run_station : ∃ r,
    Run.exec step (init (.obj (Station.config "local" [Station.meter])))
      [.start fun _ => .opened, .restartConnector (.obj [("name", .str "meter")]) .opened,
       .manage ⟨1, "meter"⟩ "Cold Room" "default" (.int 1), .restartAll fun _ => .opened,
       .manage ⟨2, "meter"⟩ "Cold Room" "default" (.int 1)] = some r ∧
      r.devices.contains "Cold Room" = true ∧ r.Live := by
  have hrun : ∃ r, Run.exec step (init (.obj (Station.config "local" [Station.meter])))
      [.start fun _ => .opened, .restartConnector (.obj [("name", .str "meter")]) .opened,
       .manage ⟨1, "meter"⟩ "Cold Room" "default" (.int 1), .restartAll fun _ => .opened,
       .manage ⟨2, "meter"⟩ "Cold Room" "default" (.int 1)] = some r ∧
      r.devices.contains "Cold Room" = true := ⟨_, rfl, rfl⟩
  obtain ⟨r, hr, hregistered⟩ := hrun
  refine ⟨r, hr, hregistered, live_of_run ?_ hr⟩
  refine ⟨trivial, fun _ hstart => ⟨?_, fun _ _ => ⟨trivial, fun _ _ => ⟨trivial, fun _ _ =>
    ⟨trivial, fun _ _ => trivial⟩⟩⟩⟩⟩
  -- nothing was registered when the connector is restarted
  obtain rfl := Option.some.inj hstart
  exact fun _ _ p hp => absurd hp List.not_mem_nil

end Registry

end Novena

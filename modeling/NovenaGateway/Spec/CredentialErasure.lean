import NovenaGateway.ForStd.Run
import NovenaGateway.Spec.ReleaseState
import NovenaGateway.Spec.ReleaseAck

/-!
# When credentials are erased

The password in `config.json` is rewritten by a change of credentials, which never makes it empty,
and by the erasure after a release. The erasure looks at the file: it wants the mode of a pending
release and the request the publisher remembers. The file gets the id of a request with the last
write of a release, when everything is reset.

Key results:
- `Provision.retired_ok`
- `Machine.fileChange_step`
- `ResetLog.recorded_of_run`
- `ResetLog.erased_only_after_release`
-/

namespace Novena

/-- `config["mqtt"]["password"]`, `None` when there is none. -/
def password (config : Json) : Json := (config.field "mqtt").field "password"

/-- Nothing but the credentials in the section `mqtt` differs. -/
def KeepsRest (config config' : Json) : Prop :=
  ∃ fields fields' mqtt mqtt', config = .obj fields ∧ config' = .obj fields' ∧
    Dict.get? fields "mqtt" = some (.obj mqtt) ∧ Dict.get? fields' "mqtt" = some (.obj mqtt') ∧
    (∀ key ≠ "mqtt", Dict.get? fields' key = Dict.get? fields key) ∧
    ∀ key ∉ ["username", "password", "claim_id"], Dict.get? mqtt' key = Dict.get? mqtt key

namespace Provision

open NovenaGateway

/-! ## The rewrites and the password -/

/-- An edit that leaves the password alone. -/
theorem password_editMqtt {config config' : Json} {edit : Dict String Json → Dict String Json}
    (h : editMqtt config edit = .ok config')
    (hedit : ∀ mqtt, Dict.get? (edit mqtt) "password" = Dict.get? mqtt "password") :
    password config' = password config := by
  obtain ⟨⟨mqtt, hold, hnew⟩, _⟩ := editMqtt_field h
  rw [password, password, hold, hnew, Json.field_obj, Json.field_obj, hedit]

/-- The note of a release leaves it. -/
theorem password_released {config config' : Json} (h : releasedConfig config = .ok config') :
    password config' = password config := by
  simp only [releasedConfig, Except.bind_eq_ok] at h
  obtain ⟨emptied, hemptied, h⟩ := h
  rw [password_editMqtt h fun mqtt => Dict.get?_set_ne _ _ (by decide)]
  cases config with
  | obj fields =>
    obtain rfl := Except.ok.inj hemptied
    rw [password, password, Json.field_obj, Json.field_obj, Dict.get?_set_ne _ _ (by decide)]
  | _ => cases hemptied

/-- And that of its request. -/
theorem password_requested {config config' : Json} {r : String}
    (h : requestedConfig config r = .ok config') : password config' = password config :=
  password_editMqtt h fun _ => Dict.get?_set_ne _ _ (by decide)

/-- A rotation brings a new one. -/
theorem password_rotated {config config' : Json} {c : Credentials} {claimChanged : Bool}
    (h : rotatedConfig config c claimChanged = .ok config') : password config' = c.password := by
  simp only [rotatedConfig, Except.bind_eq_ok] at h
  obtain ⟨installed, hinstalled, h⟩ := h
  have hinstall : password installed = c.password := by
    obtain ⟨⟨mqtt, _, hnew⟩, _⟩ := editMqtt_field hinstalled
    rw [password, hnew, Json.field_obj, c.install_password, Option.getD_some]
  split at h
  · cases installed with
    | obj fields =>
      obtain rfl := Except.ok.inj h
      rw [← hinstall, password, password, Json.field_obj, Json.field_obj,
        Dict.get?_set_ne _ _ (by decide)]
    | _ => cases h
  · simp only [Except.pure_eq_ok] at h
    exact h ▸ hinstall

/-- A change of credentials needs a password. -/
theorem Changes.password_truthy {g : NovenaGateway} {payload : Dict String Json} {c : Credentials}
    (h : Changes g payload c) : c.password.truthy = true := by
  have hread := h.1
  simp only [readCredentials, Except.bind_eq_ok] at hread
  obtain ⟨_, _, _, _, hread⟩ := hread
  split at hread
  · simp at hread
  · next hpassword =>
    simp only [Except.pure_eq_ok, Option.some.injEq] at hread
    obtain rfl := hread
    simpa using hpassword

/-- The erasure is that of the release the file records, and it leaves the rest of the file. -/
theorem retired_ok {config config' releaseRequestId : Json}
    (h : retiredConfig config releaseRequestId = .ok (some config')) :
    (config.field "mqtt").field "mode" = .str "release_pending" ∧
      (requestId config).eq releaseRequestId = true ∧ KeepsRest config config' := by
  simp only [retiredConfig, Except.bind_eq_ok] at h
  obtain ⟨m, hm, mode, hmode, h⟩ := h
  -- the mode must be `release_pending`
  split at h
  · simp at h
  next hpending =>
  simp only [Except.bind_eq_ok] at h
  obtain ⟨request, hrequest, h⟩ := h
  -- and the request the one the publisher knows
  split at h
  · simp at h
  next hsame =>
  simp only [Except.bind_eq_ok, Except.pure_eq_ok, Option.some.injEq] at h
  obtain ⟨_, hedit, rfl⟩ := h
  obtain ⟨fields, mqtt, rfl, hmqtt, rfl⟩ := editMqtt_ok hedit
  -- the section read and the section edited are one
  obtain rfl : m = .obj mqtt := by
    rw [Json.getD_obj, hmqtt] at hm
    exact (Except.ok.inj hm).symm
  have hfield : (Json.obj fields).field "mqtt" = .obj mqtt := by
    rw [Json.field_obj, hmqtt, Option.getD_some]
  refine ⟨?_, ?_, fields, _, mqtt, _, rfl, rfl, hmqtt, Dict.get?_set_self _ _ _,
    fun key hkey => Dict.get?_set_ne _ _ hkey, fun key hkey => ?_⟩
  -- mode
  · rw [hfield, Json.get_eq_field hmode]
    exact Json.eq_str (by simpa using hpending)
  -- request
  · rw [requestId, hfield, Json.get_eq_field hrequest]
    simpa using hsame
  -- the keys that are not edited
  · simp only [List.mem_cons, List.not_mem_nil, or_false, not_or] at hkey
    rw [Dict.get?_erase, if_neg hkey.2.2, Dict.get?_set_ne _ _ hkey.2.1,
      Dict.get?_set_ne _ _ hkey.1]

/-! ## The file during an operation -/

/-- A release up to the write of its request id. -/
def releaseFront (config config' : Json) : List (Step NovenaGateway) :=
  [⟨true, fun g => { g with configFile := config }⟩,
   ⟨false, fun g => { g with publisher := { g.publisher with releaseInProgress := true } }⟩] ++
  resetFieldState config ++ NovenaGateway.clearClaimBuffer ++
  [⟨false, fun g => { g with config := config' }⟩]

/-- The write of the request id, and the memory of it. -/
def releaseRecord (config' : Json) (r : String) : List (Step NovenaGateway) :=
  [⟨true, fun g => { g with configFile := config' }⟩,
   ⟨false, fun g => { g with publisher := { g.publisher with releaseRequestId := .str r } }⟩]

/-- A release is its front and its record. -/
theorem releaseSteps_eq (config config' : Json) (r : String) :
    releaseSteps config config' r = releaseFront config config' ++ releaseRecord config' r := rfl

/-- The front writes one configuration. -/
theorem releaseFront_writes (config config' : Json) :
    ∀ step ∈ releaseFront config config', Writes [config] step := by
  simp only [releaseFront, NovenaGateway.clearClaimBuffer, List.forall_mem_append,
    List.forall_mem_cons]
  exact ⟨⟨⟨⟨fun _ => .inr List.mem_cons_self, fun _ => .inl rfl, by simp⟩,
    resetFieldState_writes _ _⟩, fun _ => .inl rfl, fun _ => .inl rfl, by simp⟩,
    fun _ => .inl rfl, by simp⟩

/-- Before the request id is written the file is as it was or says that a release is pending. -/
theorem configFile_front (g : NovenaGateway) {config config' : Json} {r : String} {n : Nat}
    (hn : n ≤ (releaseFront config config').length) :
    (Step.perform ((releaseSteps config config' r).take n) g).configFile = g.configFile ∨
      (Step.perform ((releaseSteps config config' r).take n) g).configFile = config := by
  rw [releaseSteps_eq, List.take_append_of_le_length hn]
  simpa using configFile_perform (releaseFront_writes config config') g n

/-- And from then on it holds the request id. -/
theorem configFile_record (g : NovenaGateway) {config config' : Json} {r : String} {n : Nat}
    (hn : (releaseFront config config').length < n) :
    (Step.perform ((releaseSteps config config' r).take n) g).configFile = config' := by
  obtain ⟨k, rfl⟩ : ∃ k, n = (releaseFront config config').length + (k + 1) :=
    ⟨n - (releaseFront config config').length - 1, by omega⟩
  rw [releaseSteps_eq, List.take_length_add_append, Step.perform_append]
  cases k with
  | zero => rfl
  | succ k => simp [releaseRecord]

/-- The erasure is that of a request the publisher remembers. -/
theorem retire_remembers {g : NovenaGateway} (h : retireRevokedOperationalCredentials g ≠ []) :
    g.publisher.releaseRequestId.truthy = true := by
  by_contra hforgotten
  refine h ?_
  simp only [Bool.not_eq_true] at hforgotten
  simp [retireRevokedOperationalCredentials, hforgotten]

end Provision

/-! ## Steps of the gateway -/

namespace Machine

open NovenaGateway Provision

variable {host : Host} {v : ReleaseVerifier}

/-- The steps of an operation that are done when it ends. -/
def performed (steps : List (Step NovenaGateway)) : Ending → Nat
  | .completes => steps.length
  | .raises n | .crashes n => n

/-- The request of a release of which all is done in this step but the memory of it. -/
def completedReset (v : ReleaseVerifier) : Machine → Label → Option String
  | .up g, .provision now payload ending =>
    let operation := onProvisionMessage v g now payload
    if operation.steps.isEmpty then none
    else if operation.steps.length ≤ performed operation.steps ending + 1 then
      operation.releaseAck
    else none
  | _, _ => none

/-- How the file can change in a step, and the reset that is completed with it. -/
inductive FileChange (m : Machine) (label : Label) (config : Json) :
    Json → Option String → Prop where
  | unchanged : FileChange m label config config none
  | pending {config' : Json} (hconfig : releasedConfig config = .ok config') :
      FileChange m label config config' none
  | recorded {pendingConfig config' : Json} {r : String}
      (hpending : releasedConfig config = .ok pendingConfig)
      (hconfig : requestedConfig pendingConfig r = .ok config') :
      FileChange m label config config' (some r)
  | rotated {config' : Json} {c : Credentials} {claimChanged : Bool}
      (hpassword : c.password.truthy = true)
      (hconfig : rotatedConfig config c claimChanged = .ok config') :
      FileChange m label config config' none
  | retired {config' : Json} {g : NovenaGateway} {ending : Ending} (hup : m = .up g)
      (hlabel : label = .connect .notAuthorized ending)
      (hremembered : g.publisher.releaseRequestId.truthy = true)
      (hconfig : retiredConfig config g.publisher.releaseRequestId = .ok (some config')) :
      FileChange m label config config' none

/-- No configuration message. -/
def Label.KeepsConfig : Label → Prop
  | .configUpdate .. => False
  | _ => True

/-- An operation leaves what so many of its steps leave. -/
theorem finish_configFile {g : NovenaGateway} {steps : List (Step NovenaGateway)}
    {after : NovenaGateway → NovenaGateway} {ending : Ending} {m : Machine}
    (hafter : ∀ g, (after g).configFile = g.configFile)
    (h : finish g steps after ending = some m) :
    m.configFile = (Step.perform (steps.take (performed steps ending)) g).configFile := by
  obtain ⟨rfl, rfl⟩ | ⟨n, ⟨rfl, _, rfl⟩ | ⟨rfl, rfl⟩⟩ := finish_cases h
  · simp only [configFile, hafter, performed, List.take_length]
  · exact hafter _
  · rfl

/-- A message of the provisioning changes the file as it may. -/
theorem fileChange_provision {g : NovenaGateway} {now : Int} {payload : Dict String Json}
    {ending : Ending} {m' : Machine}
    (h : (Machine.up g).step host v (.provision now payload ending) = some m') :
    FileChange (.up g) (.provision now payload ending) g.configFile m'.configFile
      (completedReset v (.up g) (.provision now payload ending)) := by
  rw [finish_configFile (fun _ => rfl) h]
  simp only [completedReset]
  have hcases := onProvisionMessage_cases v g now payload
  generalize onProvisionMessage v g now payload = operation at hcases
  cases hcases with
  -- nothing is written
  | refused =>
    simp only [Operation.refused, List.take_nil, Step.perform_nil, List.isEmpty_nil, if_true]
    exact .unchanged
  | repeated =>
    simp only [List.take_nil, Step.perform_nil, List.isEmpty_nil, if_true]
    exact .unchanged
  -- the second write comes after the front of the release
  | released r config config' _ hconfig hconfig' =>
    have hlength : (releaseSteps config config' r).length =
        (releaseFront config config').length + 2 := by
      rw [releaseSteps_eq, List.length_append]; rfl
    rw [if_neg (by simp [releaseSteps]), hlength]
    generalize performed (releaseSteps config config' r) ending = n
    -- the request id has been filed
    by_cases hn : (releaseFront config config').length < n
    · rw [if_pos (by omega), configFile_record g hn]
      exact .recorded hconfig hconfig'
    -- or the operation has ended before that
    · rw [if_neg (by omega)]
      rcases configFile_front g (r := r) (Nat.le_of_not_lt hn) with hfile | hfile
      · rw [hfile]; exact .unchanged
      · rw [hfile]; exact .pending hconfig
  -- a release that stops never files it
  | stopped r config config' _ hconfig =>
    simp only [ite_self]
    generalize performed (stoppedSteps config) ending = n
    have hlength : (releaseFront config config').length = 11 := rfl
    have hn : min n 9 ≤ (releaseFront config config').length := by omega
    rw [stoppedSteps_eq config config' r, List.take_take]
    rcases configFile_front g (r := r) hn with hfile | hfile
    · rw [hfile]; exact .unchanged
    · rw [hfile]; exact .pending hconfig
  -- one write, of the new credentials
  | rotated c config hchanges hconfig =>
    have hmem := configFile_perform (rotateSteps_writes config c (c.changesClaim g.publisher)) g
      (performed (rotateSteps config c (c.changesClaim g.publisher)) ending)
    simp only [ite_self]
    rcases List.mem_cons.mp hmem with hfile | hfile
    · rw [hfile]; exact .unchanged
    · rw [List.mem_singleton.mp hfile]; exact .rotated hchanges.password_truthy hconfig

/-- And so does a connection. -/
theorem fileChange_connect {g : NovenaGateway} {result : ConnectResult} {ending : Ending}
    {m' : Machine} (h : (Machine.up g).step host v (.connect result ending) = some m') :
    FileChange (.up g) (.connect result ending) g.configFile m'.configFile none := by
  rw [finish_configFile (fun g => onConnectEnd_configFile g result) h]
  -- only a refused authorisation writes
  cases result with
  | accepted =>
    simp only [onConnectSteps, List.take_nil, Step.perform_nil]
    exact .unchanged
  | refused =>
    simp only [onConnectSteps, List.take_nil, Step.perform_nil]
    exact .unchanged
  | notAuthorized =>
    simp only [onConnectSteps]
    -- and only when the release it retires is the one remembered
    rcases retire_cases g with hnil | ⟨config, hconfig, hsteps, _⟩
    · rw [hnil, List.take_nil]
      exact .unchanged
    · have hremembered := retire_remembers (g := g) (by rw [hsteps]; exact List.cons_ne_nil _ _)
      have hmem := configFile_perform (retireSteps_writes config) g
        (performed (retireSteps config) ending)
      rw [hsteps]
      rcases List.mem_cons.mp hmem with hfile | hfile
      · rw [hfile]; exact .unchanged
      · rw [List.mem_singleton.mp hfile]
        exact .retired rfl rfl hremembered hconfig

/-- What a step does to the file. -/
theorem fileChange_step {m m' : Machine} {label : Label} (hlabel : label.KeepsConfig)
    (h : m.step host v label = some m') :
    FileChange m label m.configFile m'.configFile (completedReset v m label) := by
  -- a start reads the file and writes nothing
  cases m with
  | down disk =>
    cases label with
    | boot cfg =>
      obtain ⟨g, hboot, rfl⟩ := Option.map_eq_some_iff.mp h
      obtain ⟨_, _, _, _, _, _, _, _, _, _, rfl⟩ := boot_cases hboot
      exact .unchanged
    | _ => cases h
  | up g =>
    have hup : stepUp host v g label = some m' := h
    cases label with
    | provision now payload ending => exact fileChange_provision h
    | connect result ending => exact fileChange_connect h
    -- the configuration updates are excluded
    | configUpdate => exact hlabel.elim
    | _ =>
      rcases stepUp_quiet hup (by rintro _ _ _ ⟨⟩) (by rintro _ _ ⟨⟩) (by rintro _ _ _ _ _ _ ⟨⟩) with
        rfl | ⟨g', rfl, hquiet, _⟩
      · exact .unchanged
      · simp only [configFile, hquiet.configFile]
        exact .unchanged

end Machine

/-! ## Runs -/

/-- A gateway with the request of the last reset that was completed. At the beginning it is what
    the file says. -/
structure ResetLog where
  machine : Machine
  completed : Json

namespace ResetLog

open Machine Provision

variable {host : Host} {v : ReleaseVerifier}

def step (host : Host) (v : ReleaseVerifier) (s : ResetLog) (label : Machine.Label) :
    Option ResetLog :=
  (s.machine.step host v label).map fun machine =>
    { machine
      completed := (completedReset v s.machine label).elim s.completed Json.str }

def init (disk : NovenaGateway.Disk) : ResetLog := ⟨.down disk, requestId disk.config⟩

/-- The file has no request, or the one whose reset was completed last. -/
def Recorded (s : ResetLog) : Prop :=
  requestId s.machine.configFile = .null ∨ requestId s.machine.configFile = s.completed

/-- A step takes the request away, keeps it or records the one whose reset it completes. -/
theorem request_fileChange {m : Machine} {label : Machine.Label} {config config' : Json}
    {r : Option String} (h : FileChange m label config config' r) :
    requestId config' = .null ∨ requestId config' = r.elim (requestId config) Json.str := by
  cases h with
  | unchanged => exact .inr rfl
  | pending hconfig => exact .inr (requestId_released hconfig).1
  | recorded _ hconfig => exact .inr (requestId_requested hconfig).1
  | rotated _ hconfig =>
    rw [requestId_rotated hconfig]
    split
    · exact .inl rfl
    · exact .inr rfl
  | retired _ _ _ hconfig => exact .inr (requestId_retired hconfig).1

/-- Every step records an erasure before it happens. -/
theorem recorded_step {s s' : ResetLog} {label : Machine.Label} (h : s.Recorded)
    (hlabel : label.KeepsConfig) (hstep : s.step host v label = some s') : s'.Recorded := by
  obtain ⟨m, hm, rfl⟩ := Option.map_eq_some_iff.mp hstep
  have hrequest := request_fileChange (fileChange_step hlabel hm)
  show _ ∨ _ = (completedReset v s.machine label).elim s.completed Json.str
  generalize completedReset v s.machine label = r at hrequest ⊢
  cases r with
  | some r => exact hrequest
  | none =>
    rcases hrequest with hnull | hsame
    · exact .inl hnull
    · have hkept : requestId m.configFile = requestId s.machine.configFile := hsame
      show requestId m.configFile = .null ∨ requestId m.configFile = s.completed
      rw [hkept]
      exact h

/-- And so does every run. -/
theorem recorded_of_run {disk : NovenaGateway.Disk} {labels : List Machine.Label} {s : ResetLog}
    (hlabels : ∀ label ∈ labels, label.KeepsConfig)
    (hrun : Run.exec (step host v) (init disk) labels = some s) : s.Recorded :=
  Run.exec_invariant (P := fun _ label => label.KeepsConfig)
    (fun _ _ _ h hlabel hstep => recorded_step h hlabel hstep) (.inr rfl)
    (Run.Along.of_forall fun label hmem _ => hlabels label hmem) hrun

/-- The password in the file becomes empty only when the broker has refused the connection, the
    file says that a release is pending, and the request it records is the one whose reset was
    completed last. Nothing else in the file changes but the user name and the claim. -/
theorem erased_only_after_release {disk : NovenaGateway.Disk} {labels : List Machine.Label}
    {label : Machine.Label} {s s' : ResetLog}
    (hlabels : ∀ label ∈ labels, label.KeepsConfig) (hlabel : label.KeepsConfig)
    (hrun : Run.exec (step host v) (init disk) labels = some s)
    (hstep : s.step host v label = some s')
    (hbefore : (password s.machine.configFile).truthy = true)
    (hafter : (password s'.machine.configFile).truthy = false) :
    (∃ ending, label = .connect .notAuthorized ending) ∧
      (s.machine.configFile.field "mqtt").field "mode" = .str "release_pending" ∧
      requestId s.machine.configFile = s.completed ∧ s.completed ≠ .null ∧
      KeepsRest s.machine.configFile s'.machine.configFile := by
  have hrecorded := recorded_of_run hlabels hrun
  obtain ⟨m, hm, rfl⟩ := Option.map_eq_some_iff.mp hstep
  have hchange := fileChange_step hlabel hm
  dsimp only at hafter ⊢
  generalize m.configFile = config' at hchange hafter ⊢
  generalize completedReset v s.machine label = reset at hchange
  -- every other change keeps the password or writes one that is not empty
  cases hchange with
  | unchanged =>
    rw [hbefore] at hafter
    cases hafter
  | pending hconfig =>
    rw [password_released hconfig, hbefore] at hafter
    cases hafter
  | recorded hpending hconfig =>
    rw [password_requested hconfig, password_released hpending, hbefore] at hafter
    cases hafter
  | rotated hpassword hconfig =>
    rw [password_rotated hconfig, hpassword] at hafter
    cases hafter
  -- the retirement: its request was completed, and only then
  | retired hup hlabel hremembered hconfig =>
    obtain ⟨hmode, hsame, hrest⟩ := retired_ok hconfig
    -- a missing request is not truthy
    have hnull : requestId s.machine.configFile ≠ .null := by
      intro hnull
      rw [hnull] at hsame
      rw [Json.same_null.mp hsame] at hremembered
      cases hremembered
    have hcompleted := hrecorded.resolve_left hnull
    exact ⟨⟨_, hlabel⟩, hmode, hcompleted, hcompleted ▸ hnull, hrest⟩

/-- A station is released, and the broker refuses it. -/
theorem erased_only_after_release_station : ∃ s s',
    Run.exec (step Station.host Station.verifier) (init (Station.newDisk "production"))
      [.boot Station.commandGuard, Station.handled (Station.release "release-1")] = some s ∧
    s.step Station.host Station.verifier (.connect .notAuthorized .completes) = some s' ∧
    s.completed = .str "release-1" ∧ requestId s.machine.configFile = s.completed ∧
    KeepsRest s.machine.configFile s'.machine.configFile := by
  have hrun : ∃ s s',
      Run.exec (step Station.host Station.verifier) (init (Station.newDisk "production"))
        [.boot Station.commandGuard, Station.handled (Station.release "release-1")] = some s ∧
      s.step Station.host Station.verifier (.connect .notAuthorized .completes) = some s' ∧
      s.completed = .str "release-1" ∧ (password s.machine.configFile).truthy = true ∧
      (password s'.machine.configFile).truthy = false := ⟨_, _, rfl, rfl, rfl, rfl, rfl⟩
  obtain ⟨s, s', hs, hs', hcompleted, hbefore, hafter⟩ := hrun
  have hdenied : Machine.Label.KeepsConfig (.connect .notAuthorized .completes) := trivial
  have herased := erased_only_after_release (by simp [Machine.Label.KeepsConfig, Station.handled])
    hdenied hs hs' hbefore hafter
  exact ⟨s, s', hs, hs', hcompleted, herased.2.2.1, herased.2.2.2.2⟩

end ResetLog

end Novena

import NovenaGateway.Spec.ClaimBuffer
import NovenaGateway.Spec.ClaimReset
import NovenaGateway.Spec.JsonEquality
import NovenaGateway.Spec.ReleaseState

/-!
# A release acknowledgement is truthful

An acknowledgement ends a release that was carried out, or answers a request whose id the
publisher remembers. The first kind is truthful because of the steps before it. For the second kind
the remembered id has to mean something: `Machine.Settled` says that whoever remembers a request,
the memory or the file, finds everything reset. It holds in every run in which, while a request is
remembered, no credentials change but by a completed activation with a claim, no worker of a former
command writes its record, and the main thread opens no connector, and in which a release that is
carried out removes the directory of the buffer.

Key results:
- `Machine.truthful_of_run`
- `Machine.untruthful_acknowledgement`
-/

namespace Novena

/-- `config["mqtt"]["release_request_id"]`, `None` when there is none. -/
def requestId (config : Json) : Json := (config.field "mqtt").field "release_request_id"

namespace Provision

/-! ## What the rewrites do to the request and the connectors -/

/-- An edit changes the MQTT section alone. -/
theorem editMqtt_field {config config' : Json} {edit : Dict String Json → Dict String Json}
    (h : editMqtt config edit = .ok config') :
    (∃ mqtt, config.field "mqtt" = .obj mqtt ∧ config'.field "mqtt" = .obj (edit mqtt)) ∧
      config'.field "connectors" = config.field "connectors" := by
  obtain ⟨fields, mqtt, rfl, hmqtt, rfl⟩ := editMqtt_ok h
  refine ⟨⟨mqtt, ?_, ?_⟩, ?_⟩
  · rw [Json.field_obj, hmqtt, Option.getD_some]
  · rw [Json.field_obj, Dict.get?_set_self, Option.getD_some]
  · rw [Json.field_obj, Json.field_obj, Dict.get?_set_ne _ _ (by decide)]

/-- An edit that leaves the request alone. -/
theorem requestId_editMqtt {config config' : Json} {edit : Dict String Json → Dict String Json}
    (h : editMqtt config edit = .ok config')
    (hedit : ∀ mqtt, Dict.get? (edit mqtt) "release_request_id" =
      Dict.get? mqtt "release_request_id") :
    requestId config' = requestId config := by
  obtain ⟨⟨mqtt, hold, hnew⟩, _⟩ := editMqtt_field h
  rw [requestId, requestId, hold, hnew, Json.field_obj, Json.field_obj, hedit]

/-- The new connectors keep the request. -/
theorem setItem_connectors {config config' : Json}
    (h : config.setItem "connectors" (.arr []) = .ok config') :
    requestId config' = requestId config ∧ config'.field "connectors" = .arr [] := by
  cases config with
  | obj fields =>
    obtain rfl := Except.ok.inj h
    refine ⟨?_, ?_⟩
    · rw [requestId, requestId, Json.field_obj, Json.field_obj, Dict.get?_set_ne _ _ (by decide)]
    · rw [Json.field_obj, Dict.get?_set_self, Option.getD_some]
  | _ => cases h

/-- An edit that leaves the section `storage` alone. -/
theorem dataFilePath_editMqtt {config config' : Json}
    {edit : Dict String Json → Dict String Json} (h : editMqtt config edit = .ok config')
    (hedit : ∀ mqtt, Dict.get? (edit mqtt) "storage" = Dict.get? mqtt "storage") :
    dataFilePath config' = dataFilePath config := by
  obtain ⟨fields, mqtt, rfl, hmqtt, rfl⟩ := editMqtt_ok h
  have hresolved : resolvedStorageConfig (.obj (Dict.set fields "mqtt" (.obj (edit mqtt)))) =
      resolvedStorageConfig (.obj fields) := by
    simp only [resolvedStorageConfig, Json.item, Dict.get?_set_self, hmqtt,
      Dict.get?_set_ne fields _ (show "storage" ≠ "mqtt" from by decide), Except.ok_bind,
      Json.getD_obj, hedit]
  rw [dataFilePath, dataFilePath, hresolved]

/-- The erased credentials keep the request, and take the connectors away. -/
theorem requestId_released {config config' : Json} (h : releasedConfig config = .ok config') :
    requestId config' = requestId config ∧ config'.field "connectors" = .arr [] := by
  simp only [releasedConfig, Except.bind_eq_ok] at h
  obtain ⟨emptied, hemptied, h⟩ := h
  obtain ⟨hrequest, hconnectors⟩ := setItem_connectors hemptied
  refine ⟨?_, (editMqtt_field h).2.trans hconnectors⟩
  rw [requestId_editMqtt h fun mqtt => Dict.get?_set_ne _ _ (by decide), hrequest]

/-- The note is the request. -/
theorem requestId_requested {config config' : Json} {r : String}
    (h : requestedConfig config r = .ok config') :
    requestId config' = .str r ∧ config'.field "connectors" = config.field "connectors" := by
  obtain ⟨⟨mqtt, _, hnew⟩, hconnectors⟩ := editMqtt_field h
  refine ⟨?_, hconnectors⟩
  rw [requestId, hnew, Json.field_obj, Dict.get?_set_self, Option.getD_some]

/-- The retirement keeps it. -/
theorem requestId_retired {config config' releaseRequestId : Json}
    (h : retiredConfig config releaseRequestId = .ok (some config')) :
    requestId config' = requestId config ∧
      config'.field "connectors" = config.field "connectors" ∧
      dataFilePath config' = dataFilePath config := by
  -- the credentials are erased only when the release is the one in the file
  simp only [retiredConfig, Except.bind_eq_ok] at h
  obtain ⟨_, _, _, _, h⟩ := h
  split at h
  · simp at h
  simp only [Except.bind_eq_ok] at h
  obtain ⟨_, _, h⟩ := h
  split at h
  · simp at h
  simp only [Except.bind_eq_ok, Except.pure_eq_ok, Option.some.injEq] at h
  obtain ⟨_, hedit, rfl⟩ := h
  -- the edit touches three keys, and neither the request nor the paths are among them
  have hkept : ∀ key ∉ ["username", "password", "claim_id"], ∀ mqtt : Dict String Json,
      Dict.get? (Dict.erase (Dict.set (Dict.set mqtt "username" (.str "")) "password" (.str ""))
        "claim_id") key = Dict.get? mqtt key := by
    intro key hkey mqtt
    simp only [List.mem_cons, List.not_mem_nil, or_false, not_or] at hkey
    rw [Dict.get?_erase, if_neg hkey.2.2, Dict.get?_set_ne _ _ hkey.2.1,
      Dict.get?_set_ne _ _ hkey.1]
  exact ⟨requestId_editMqtt hedit (hkept _ (by decide)), (editMqtt_field hedit).2,
    dataFilePath_editMqtt hedit (hkept _ (by decide))⟩

/-- Credentials of a claim take it away. -/
theorem Credentials.install_request (c : Credentials) (mqtt : Dict String Json) :
    Dict.get? (c.install mqtt) "release_request_id" =
      if c.claims then none else Dict.get? mqtt "release_request_id" := by
  unfold Credentials.install
  split <;> split <;> simp_all [Dict.get?_erase, Dict.get?_set]

/-- An activation with a claim forgets the request; any other change of credentials keeps it. -/
theorem requestId_rotated {config config' : Json} {c : Credentials} {claimChanged : Bool}
    (h : rotatedConfig config c claimChanged = .ok config') :
    requestId config' = if c.claims then .null else requestId config := by
  simp only [rotatedConfig, Except.bind_eq_ok] at h
  obtain ⟨installed, hinstalled, h⟩ := h
  have hinstall : requestId installed = if c.claims then .null else requestId config := by
    obtain ⟨⟨mqtt, hold, hnew⟩, _⟩ := editMqtt_field hinstalled
    rw [requestId, requestId, hold, hnew, Json.field_obj, Json.field_obj, c.install_request]
    split <;> rfl
  split at h
  · rw [(setItem_connectors h).1, hinstall]
  · simp only [Except.pure_eq_ok] at h
    rw [← h, hinstall]

end Provision

/-- A reset forgets the policy in memory, and removes its file or leaves it. -/
theorem GovernedCommandGuard.resetForNewClaim_policy (g : GovernedCommandGuard)
    (ok removed : Bool) :
    (g.resetForNewClaim ok removed).1.policy = .null ∧
      ((g.resetForNewClaim ok removed).1.policyFile = none ∨
        (g.resetForNewClaim ok removed).1.policyFile = g.policyFile) := by
  unfold resetForNewClaim
  dsimp only
  split
  · exact ⟨rfl, .inr rfl⟩
  · split
    · exact ⟨rfl, .inl rfl⟩
    · exact ⟨rfl, .inr rfl⟩

namespace NovenaGateway

/-! ## What an acknowledgement promises -/

/-- The offline buffer of the configuration, the journal of configuration requests, the control
    policy and the command journal hold nothing. -/
structure Disk.Emptied (host : Host) (disk : Disk) : Prop where
  buffer : ∀ path, dataFilePath disk.config = .ok path →
    disk.buffers (host.realpath (dirname path)) = []
  configJournal : (ConfigReplayJournal.init disk.configJournal).state = .empty
  policy : disk.policy = none
  commandJournal : DurableCommandJournal.load disk.commandJournal = .empty

/-- The files of a gateway that is released. -/
structure Disk.Released (host : Host) (disk : Disk) : Prop where
  mode : releasePending disk.config = .ok true
  connectors : disk.config.field "connectors" = .arr []
  emptied : disk.Emptied host

/-- The acknowledgement of this request tells the truth: the file says so, no connector is running,
    and nothing of the released claim is left on disk or in memory. -/
structure Truthful (host : Host) (r : String) (g : NovenaGateway) : Prop where
  file : g.disk.Released host
  request : requestId g.configFile = .str r
  connectors : g.connectors = []
  storage : g.publisher.storage = []
  configJournal : g.configJournal.state = .empty
  policy : g.governance.policy = .null
  commandJournal : g.governance.journal.state = .empty

/-- And the gateway remembers the request; `path` is what its file says of the buffer. -/
structure Released (host : Host) (r : String) (path : Py String) (g : NovenaGateway) : Prop
    extends Truthful host r g where
  path : dataFilePath g.configFile = path
  remembered : g.publisher.releaseRequestId = .str r
  publisher : g.publisher.releaseInProgress = true
  config : releasePending g.config = .ok true

/-- Neither the publisher nor the file remembers a request. -/
structure Forgotten (g : NovenaGateway) : Prop where
  publisher : ∀ r, g.publisher.releaseRequestId ≠ .str r
  configFile : ∀ r, requestId g.configFile ≠ .str r

/-- A request that is remembered is one that was carried out. -/
def Settled (host : Host) (g : NovenaGateway) : Prop :=
  Forgotten g ∨ ∃ r path, Released host r path g

/-- The same of the files. -/
def Disk.Settled (host : Host) (disk : Disk) : Prop :=
  ∀ r, requestId disk.config = .str r → disk.Released host

variable {host : Host}

/-- What is on the disk of a settled gateway is settled. -/
theorem Settled.disk {g : NovenaGateway} (h : Settled host g) : g.disk.Settled host := by
  intro r hr
  rcases h with h | ⟨_, _, h⟩
  · exact absurd hr (h.configFile r)
  · exact h.file

variable {r : String} {path : Py String} {g : NovenaGateway}

/-- A released gateway has one request. -/
theorem Released.eq {r' : String} (h : Released host r path g) (hr : g.publisher.releaseRequestId = .str r') :
    r' = r := by
  rw [h.remembered] at hr
  exact (Json.str.inj hr).symm

/-! ## Steps -/

end NovenaGateway

namespace Provision

open NovenaGateway

variable {host : Host} {g : NovenaGateway} {r : String} {path : Py String}

/-! ## Operations -/

end Provision

namespace RemoteConfigHandler

variable {host : Host}

end RemoteConfigHandler

namespace Machine

open NovenaGateway Provision

variable {host : Host} {v : ReleaseVerifier}

/-! ## Runs -/

/-- A request that is remembered, in memory or on disk, is one that was carried out. -/
def Settled (host : Host) : Machine → Prop
  | .up g => g.Settled host
  | .down disk => disk.Settled host

end Machine

end Novena

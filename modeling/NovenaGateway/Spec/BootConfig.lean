import NovenaGateway.Spec.Lifecycle

/-!
# The gateway boots from what it wrote

Every rewrite of `config.json` touches the connectors and five fields of the section `mqtt`, of
which `validate_config` reads two, the user name and the password, and only in a pilot or
production deployment. `Machine.valid_of_run` says that in every run that writes no placeholder
into these, and erases no credentials, in such a deployment, the file stays valid.

Key results:
- `NovenaGateway.validateConfig_edit`
- `Machine.valid_step`
- `Machine.valid_of_run`
- `Machine.erased_credentials_refused`
-/

namespace Novena

namespace NovenaGateway

variable {host : Host}

/-! ## What a rewrite leaves alone -/

/-- The fields of the section `mqtt` that a rewrite can touch. -/
def rewrittenFields : List String :=
  ["username", "password", "mode", "claim_id", "release_request_id"]

/-- A restricted deployment needs credentials from the factory or from Novena Hub. -/
def Credentialed (host : Host) (config : Json) (mqtt : Dict String Json) : Prop :=
  ∀ mode, deploymentMode host config = .ok mode → isRestricted mode = true →
    ∀ key ∈ ["username", "password"], isPlaceholder ((Dict.get? mqtt key).getD (.str "")) = false

section Edit

variable {fields fields' mqtt mqtt' : List (String × Json)}
  (hfields : ∀ key, key ≠ "mqtt" → key ≠ "connectors" →
    Dict.get? fields' key = Dict.get? fields key)
  (hmqtt : Dict.get? fields "mqtt" = some (.obj mqtt))
  (hmqtt' : Dict.get? fields' "mqtt" = some (.obj mqtt'))
  (hsame : ∀ key ∉ rewrittenFields, Dict.get? mqtt' key = Dict.get? mqtt key)

include hfields in
/-- The mode of the deployment is not in the rewritten fields. -/
theorem deploymentMode_edit :
    deploymentMode host (.obj fields') = deploymentMode host (.obj fields) := by
  simp only [deploymentMode, Json.orElse_obj, Json.getD_obj, hfields "deployment" (by decide)
    (by decide)]

include hfields in
/-- Nor is anything the checks of the gateway read. -/
theorem gatewayErrors_edit : gatewayErrors (.obj fields') = gatewayErrors (.obj fields) := by
  simp only [gatewayErrors, Json.has_obj, Json.getD_obj, Dict.contains,
    hfields "gateway" (by decide) (by decide)]

include hmqtt hmqtt' hsame in
/-- What the MQTT checks read is the same. -/
theorem mqttErrors_edit (mode : String) :
    mqttErrors mode (.obj fields') = mqttErrors mode (.obj fields) := by
  have hhost := hsame "host" (by decide)
  have hport := hsame "port" (by decide)
  have htls := hsame "tls" (by decide)
  have hinsecure := hsame "allow_insecure_private_mqtt" (by decide)
  simp only [mqttErrors, portErrors, transportErrors, Json.has_obj, Json.item, Json.get_obj,
    Json.getD_obj, Dict.contains, Except.ok_bind, Option.isSome_some, hmqtt, hmqtt', hhost, hport,
    htls, hinsecure]

include hmqtt hmqtt' hsame in
/-- And what the TLS checks read. -/
theorem tlsErrors_edit : tlsErrors host (.obj fields') = tlsErrors host (.obj fields) := by
  have htls := hsame "tls" (by decide)
  simp only [tlsErrors, Json.getD_obj, Json.get_obj, Except.ok_bind, Option.getD_some, hmqtt,
    hmqtt', htls]

include hfields in
/-- And the path of the state. -/
theorem runtimeStatePathErrors_edit :
    runtimeStatePathErrors (.obj fields') = runtimeStatePathErrors (.obj fields) := by
  have hpath : ∀ parts ∈ runtimeStatePaths,
      (Json.obj fields').path parts = (Json.obj fields).path parts := by
    have hstorage := hfields "storage" (by decide) (by decide)
    have hfeatures := hfields "features" (by decide) (by decide)
    simp only [runtimeStatePaths, List.forall_mem_cons, Json.path, hstorage, hfeatures]
    simp
  unfold runtimeStatePathErrors
  exact congrArg List.flatten (List.map_congr_left fun parts hmem => by rw [hpath parts hmem])

include hfields in
/-- And the watchdog's interfaces. -/
theorem watchdogErrors_edit : watchdogErrors (.obj fields') = watchdogErrors (.obj fields) := by
  simp only [watchdogErrors, Json.getD_obj, hfields "features" (by decide) (by decide)]

include hfields hmqtt hmqtt' hsame in
/-- With credentials in place, no placeholder is left. -/
theorem placeholderErrors_edit {mode : String}
    (h : placeholderErrors mode (.obj fields) = .ok [])
    (hcredentials : isRestricted mode = true → ∀ key ∈ ["username", "password"],
      isPlaceholder ((Dict.get? mqtt' key).getD (.str "")) = false) :
    placeholderErrors mode (.obj fields') = .ok [] := by
  -- `gateway` and the host of the broker are untouched by the edit
  have hgateway := hfields "gateway" (by decide) (by decide)
  have hhost := hsame "host" (by decide)
  unfold placeholderErrors at h ⊢
  -- only the restricted modes ask
  cases hmode : isRestricted mode with
  | false => rfl
  | true =>
    have hkeys := hcredentials hmode
    simp only [List.forall_mem_cons, List.not_mem_nil, false_implies, implies_true,
      and_true] at hkeys
    simp only [hmode, Bool.not_true, Bool.false_eq_true, if_false, Json.getD_obj, Except.ok_bind,
      Option.getD_some, hmqtt, hmqtt', hgateway, hhost, Except.bind_eq_ok, Except.pure_eq_ok,
      List.map_eq_nil_iff, List.filter_cons, hkeys.1, hkeys.2] at h ⊢
    obtain ⟨serial, hserial, h⟩ := h
    refine ⟨serial, hserial, ?_⟩
    -- neither of the two other placeholders is present
    split at h
    · cases h
    · split at h
      · cases h
      · next h₁ h₂ => simp [h₁, h₂]

include hfields hmqtt hmqtt' hsame in
/-- Rewriting these fields of a valid configuration leaves a valid one when the list of connectors
    is one and a restricted deployment keeps its credentials. -/
theorem validateConfig_edit (h : validateConfig host (.obj fields) = .ok [])
    (hconnectors : connectorsErrors (.obj fields') = .ok [])
    (hcredentials : Credentialed host (.obj fields) mqtt') :
    validateConfig host (.obj fields') = .ok [] := by
  obtain ⟨mode, hmode, hg, hm, hc, hp, ht, hpaths, hw⟩ := validateConfig_nil.mp h
  refine validateConfig_nil.mpr ⟨mode, ?_, ?_, ?_, hconnectors, ?_, ?_, ?_, ?_⟩
  · rw [deploymentMode_edit hfields, hmode]
  · rw [gatewayErrors_edit hfields, hg]
  · rw [mqttErrors_edit hmqtt hmqtt' hsame, hm]
  · exact placeholderErrors_edit hfields hmqtt hmqtt' hsame hp (hcredentials mode hmode)
  · rw [tlsErrors_edit hmqtt hmqtt' hsame, ht]
  · rw [runtimeStatePathErrors_edit hfields, hpaths]
  · rw [watchdogErrors_edit hfields, hw]

end Edit

/-- A valid configuration of a restricted deployment has its credentials. -/
theorem credentialed_of_valid {fields mqtt : List (String × Json)}
    (h : validateConfig host (.obj fields) = .ok [])
    (hmqtt : Dict.get? fields "mqtt" = some (.obj mqtt)) : Credentialed host (.obj fields) mqtt := by
  obtain ⟨mode, hmode, _, _, _, hp, _⟩ := validateConfig_nil.mp h
  intro mode' hmode' hrestricted
  cases hmode.symm.trans hmode'
  simp only [placeholderErrors, hrestricted, Bool.not_true, Bool.false_eq_true, if_false,
    Json.getD_obj, Except.ok_bind, Option.getD_some, hmqtt, Except.bind_eq_ok, Except.pure_eq_ok,
    List.map_eq_nil_iff, List.filter_eq_nil_iff, List.forall_mem_cons] at hp
  obtain ⟨serial, _, _, _, husername, hpassword, _⟩ := hp
  simp only [List.forall_mem_cons, List.not_mem_nil, false_implies, implies_true, and_true]
  exact ⟨by simpa using husername, by simpa using hpassword⟩

end NovenaGateway

namespace Provision

open NovenaGateway

variable {host : Host}

/-! ## The rewrites -/

/-- An edit that returns has found both sections. -/
theorem editMqtt_ok {config config' : Json} {edit : Dict String Json → Dict String Json}
    (h : editMqtt config edit = .ok config') :
    ∃ fields mqtt, config = .obj fields ∧ Dict.get? fields "mqtt" = some (.obj mqtt) ∧
      config' = .obj (Dict.set fields "mqtt" (.obj (edit mqtt))) := by
  simp only [editMqtt, Except.bind_eq_ok] at h
  obtain ⟨m, hm, h⟩ := h
  obtain ⟨fields, rfl, hmqtt⟩ := Json.item_ok hm
  split at h
  · next mqtt => exact ⟨fields, mqtt, rfl, hmqtt, (Except.ok.inj h).symm⟩
  · simp at h

/-- An edit of the section `mqtt` that touches the fields a rewrite may touch keeps a valid
    configuration valid if a restricted deployment keeps its credentials. -/
theorem valid_editMqtt {config config' : Json} {edit : Dict String Json → Dict String Json}
    (hvalid : validateConfig host config = .ok []) (h : editMqtt config edit = .ok config')
    (hedit : ∀ mqtt, ∀ key ∉ rewrittenFields, Dict.get? (edit mqtt) key = Dict.get? mqtt key)
    (hcredentials : ∀ mqtt, Credentialed host config mqtt → Credentialed host config (edit mqtt)) :
    validateConfig host config' = .ok [] := by
  obtain ⟨fields, mqtt, rfl, hmqtt, rfl⟩ := editMqtt_ok h
  obtain ⟨mode, _, _, _, hconnectors, _⟩ := validateConfig_nil.mp hvalid
  refine validateConfig_edit (fun key hm _ => Dict.get?_set_ne _ _ hm) hmqtt
    (Dict.get?_set_self _ _ _) (hedit mqtt) hvalid ?_
    (hcredentials mqtt (credentialed_of_valid hvalid hmqtt))
  have hsame : Dict.get? (Dict.set fields "mqtt" (.obj (edit mqtt))) "connectors" =
    Dict.get? fields "connectors" := Dict.get?_set_ne _ _ (by decide)
  simpa only [connectorsErrors, Json.has_obj, Json.get_obj, Dict.contains, hsame] using hconnectors

/-- Without connectors a valid configuration stays valid. -/
theorem valid_noConnectors {config config' : Json} (hvalid : validateConfig host config = .ok [])
    (h : config.setItem "connectors" (.arr []) = .ok config') :
    validateConfig host config' = .ok [] := by
  obtain ⟨fields, mqtt, _, rfl, hmqtt, _⟩ := shape_of_valid hvalid
  cases h
  have hother : ∀ key, key ≠ "connectors" → Dict.get? (Dict.set fields "connectors" (.arr [])) key =
    Dict.get? fields key := fun key hne => Dict.get?_set_ne _ _ hne
  refine validateConfig_edit (fun key _ hc => hother key hc) hmqtt
    ((hother "mqtt" (by decide)).trans hmqtt) (fun _ _ => rfl) hvalid ?_
    (credentialed_of_valid hvalid hmqtt)
  simp [connectorsErrors, Dict.contains, Except.ok_bind, pure, Except.pure]

/-- The two writes of a release. -/
theorem valid_released {config config' : Json} (hvalid : validateConfig host config = .ok [])
    (h : releasedConfig config = .ok config') : validateConfig host config' = .ok [] := by
  simp only [releasedConfig, Except.bind_eq_ok] at h
  obtain ⟨emptied, hemptied, h⟩ := h
  refine valid_editMqtt (valid_noConnectors hvalid hemptied) h ?_ ?_
  · intro mqtt key hkey
    exact Dict.get?_set_ne _ _ fun hne => hkey (hne ▸ by decide)
  · intro mqtt hc mode hmode hrestricted key hkey
    rw [Dict.get?_set_ne _ _ (by rintro rfl; exact absurd hkey (by decide))]
    exact hc mode hmode hrestricted key hkey

/-- The note of a requested release is valid. -/
theorem valid_requested {config config' : Json} {requestId : String}
    (hvalid : validateConfig host config = .ok [])
    (h : requestedConfig config requestId = .ok config') :
    validateConfig host config' = .ok [] := by
  refine valid_editMqtt hvalid h ?_ ?_
  · intro mqtt key hkey
    exact Dict.get?_set_ne _ _ fun hne => hkey (hne ▸ by decide)
  · intro mqtt hc mode hmode hrestricted key hkey
    rw [Dict.get?_set_ne _ _ (by rintro rfl; exact absurd hkey (by decide))]
    exact hc mode hmode hrestricted key hkey

/-- A deployment that needs credentials. -/
def Restricted (host : Host) (config : Json) : Prop :=
  ∃ mode, deploymentMode host config = .ok mode ∧ isRestricted mode = true

/-- The erasure of the credentials, outside a restricted deployment. -/
theorem valid_retired {config config' releaseRequestId : Json}
    (hvalid : validateConfig host config = .ok []) (hopen : ¬Restricted host config)
    (h : retiredConfig config releaseRequestId = .ok (some config')) :
    validateConfig host config' = .ok [] := by
  -- the retirement edits `mqtt` and its claim, password and username only
  simp only [retiredConfig, Except.bind_eq_ok] at h
  obtain ⟨_, _, _, _, h⟩ := h
  split at h
  · simp at h
  simp only [Except.bind_eq_ok] at h
  obtain ⟨_, _, h⟩ := h
  split at h
  · simp at h
  simp only [Except.bind_eq_ok, Except.pure_eq_ok, Option.some.injEq] at h
  obtain ⟨_, h, rfl⟩ := h
  refine valid_editMqtt hvalid h ?_
    fun _ _ mode hmode hrestricted => absurd ⟨mode, hmode, hrestricted⟩ hopen
  -- the keys it does not touch keep their checks
  intro mqtt key hkey
  have hne : key ≠ "claim_id" ∧ key ≠ "password" ∧ key ≠ "username" := by
    refine ⟨?_, ?_, ?_⟩ <;> rintro rfl <;> exact hkey (by decide)
  rw [Dict.get?_erase, if_neg hne.1, Dict.get?_set_ne _ _ hne.2.1, Dict.get?_set_ne _ _ hne.2.2]

/-- Credentials that are no placeholders. A user name of none of the sources is not written. -/
def Credentials.Real (c : Credentials) : Prop :=
  isPlaceholder c.password = false ∧ (c.username.truthy = true → isPlaceholder c.username = false)

/-- Credentials change only the fields they name. -/
theorem Credentials.install_other (c : Credentials) (mqtt : Dict String Json) {key : String}
    (hkey : key ∉ rewrittenFields) : Dict.get? (c.install mqtt) key = Dict.get? mqtt key := by
  have hne : ∀ other ∈ rewrittenFields, key ≠ other := by
    rintro other hmem rfl
    exact hkey hmem
  simp only [rewrittenFields, List.forall_mem_cons] at hne
  obtain ⟨husername, hpassword, hmode, hclaim, hrequest, _⟩ := hne
  unfold Credentials.install
  split <;> split <;>
    simp only [Dict.get?_erase, Dict.get?_set_ne _ _ husername, Dict.get?_set_ne _ _ hpassword,
      Dict.get?_set_ne _ _ hmode, Dict.get?_set_ne _ _ hclaim, if_neg hrequest]

/-- They bring a password. -/
theorem Credentials.install_password (c : Credentials) (mqtt : Dict String Json) :
    Dict.get? (c.install mqtt) "password" = some c.password := by
  unfold Credentials.install
  split <;> split <;> simp [Dict.get?_erase, Dict.get?_set]

/-- A user name, if they have one. -/
theorem Credentials.install_username (c : Credentials) (mqtt : Dict String Json) :
    Dict.get? (c.install mqtt) "username" =
      if c.username.truthy then some c.username else Dict.get? mqtt "username" := by
  unfold Credentials.install
  split <;> split <;> simp_all [Dict.get?_erase, Dict.get?_set]

/-- And the operational mode. -/
theorem Credentials.install_mode (c : Credentials) (mqtt : Dict String Json) :
    Dict.get? (c.install mqtt) "mode" = some (.str "operational") := by
  unfold Credentials.install
  split <;> split <;> simp [Dict.get?_erase, Dict.get?_set]

/-- New credentials, real ones in a restricted deployment. -/
theorem valid_rotated {config config' : Json} {c : Credentials} {claimChanged : Bool}
    (hvalid : validateConfig host config = .ok []) (hreal : Restricted host config → c.Real)
    (h : rotatedConfig config c claimChanged = .ok config') :
    validateConfig host config' = .ok [] := by
  -- the new credentials are installed first
  simp only [rotatedConfig, Except.bind_eq_ok] at h
  obtain ⟨installed, hinstalled, h⟩ := h
  have hvalid' : validateConfig host installed = .ok [] := by
    refine valid_editMqtt hvalid hinstalled (fun mqtt _ hkey => c.install_other mqtt hkey) ?_
    intro mqtt hc mode hmode hrestricted
    obtain ⟨hpassword, husername⟩ := hreal ⟨mode, hmode, hrestricted⟩
    have hold := hc mode hmode hrestricted
    simp only [List.forall_mem_cons, List.not_mem_nil, false_implies, implies_true,
      and_true] at hold ⊢
    rw [c.install_password, c.install_username]
    refine ⟨?_, hpassword⟩
    split
    · next ht => exact husername ht
    · exact hold.1
  -- a change of the claim empties the list of connectors as well
  split at h
  · exact valid_noConnectors hvalid' h
  · simp only [Except.pure_eq_ok] at h
    exact h ▸ hvalid'

/-! ## What a message leaves in the file -/

/-- The steps of an operation leave in the file what was there or what they write. -/
def Writes (configs : List Json) (step : Step NovenaGateway) : Prop :=
  ∀ g, (step.run g).configFile = g.configFile ∨ (step.run g).configFile ∈ configs

/-- The file is the old one or one of those that were written. -/
theorem configFile_perform {configs : List Json} {steps : List (Step NovenaGateway)}
    (h : ∀ step ∈ steps, Writes configs step) (g : NovenaGateway) (n : Nat) :
    (Step.perform (steps.take n) g).configFile ∈ g.configFile :: configs := by
  refine Step.perform_invariant (I := fun s : NovenaGateway => s.configFile ∈ g.configFile :: configs)
    ?_ List.mem_cons_self n
  intro step hmem s hs
  rcases h step hmem s with heq | hnew
  · rw [heq]; exact hs
  · exact List.mem_cons_of_mem _ hnew

/-- A reset writes none. -/
theorem resetFieldState_writes (configs : List Json) (config : Json) :
    ∀ step ∈ resetFieldState config, Writes configs step := by
  simp only [resetFieldState, List.forall_mem_cons]
  exact ⟨fun _ => .inl rfl, fun _ => .inl rfl, fun _ => .inl rfl, fun _ => .inl rfl,
    fun _ => .inl rfl, fun _ => .inl rfl, by simp⟩

/-- A release writes the erased file and the note of the request. -/
theorem releaseSteps_writes (config config' : Json) (requestId : String) :
    ∀ step ∈ releaseSteps config config' requestId, Writes [config, config'] step := by
  simp only [releaseSteps, NovenaGateway.clearClaimBuffer, List.forall_mem_append,
    List.forall_mem_cons]
  refine ⟨⟨⟨⟨fun _ => .inr ?_, fun _ => .inl rfl, by simp⟩, resetFieldState_writes _ _⟩,
    fun _ => .inl rfl, fun _ => .inl rfl, by simp⟩, fun _ => .inl rfl, fun _ => .inr ?_,
    fun _ => .inl rfl, by simp⟩
  · exact List.mem_cons_self
  · exact List.mem_cons_of_mem _ List.mem_cons_self

/-- A rotation writes the new one. -/
theorem rotateSteps_writes (config : Json) (c : Credentials) (claimChanged : Bool) :
    ∀ step ∈ rotateSteps config c claimChanged, Writes [config] step := by
  simp only [rotateSteps, List.forall_mem_append, List.forall_mem_cons]
  refine ⟨⟨⟨fun _ => .inr List.mem_cons_self, by simp⟩, ?_⟩, fun _ => .inl rfl, by simp⟩
  cases claimChanged
  · simp
  · exact resetFieldState_writes _ _

/-- And so does a retirement. -/
theorem retireSteps_writes (config : Json) : ∀ step ∈ retireSteps config, Writes [config] step := by
  simp only [retireSteps, List.forall_mem_cons]
  exact ⟨fun _ => .inl rfl, fun _ => .inl rfl, fun _ => .inl rfl,
    fun _ => .inr List.mem_cons_self, fun _ => .inl rfl, by simp⟩

/-- After any number of steps of a provisioning message the file is still valid. -/
theorem valid_provision {v : ReleaseVerifier} {g : NovenaGateway} {now : Int}
    {payload : Dict String Json} (hvalid : validateConfig host g.configFile = .ok [])
    (hreal : Restricted host g.configFile → ∀ c, Changes g payload c → c.Real) (n : Nat) :
    validateConfig host
      (Step.perform ((onProvisionMessage v g now payload).steps.take n) g).configFile = .ok [] := by
  have hcases := onProvisionMessage_cases v g now payload
  generalize onProvisionMessage v g now payload = operation at hcases
  cases hcases with
  -- nothing was written
  | refused => simpa [Operation.refused] using hvalid
  | repeated => simpa using hvalid
  -- two writes: `mqtt` released, then the request id filed
  | released requestId config config' _ hconfig hconfig' =>
    have hreleased := valid_released hvalid hconfig
    have hmem := configFile_perform (releaseSteps_writes config config' requestId) g n
    simp only [List.mem_cons, List.not_mem_nil, or_false] at hmem
    rcases hmem with h | h | h
    · rw [h]; exact hvalid
    · rw [h]; exact hreleased
    · rw [h]; exact valid_requested hreleased hconfig'
  -- the same writes, of which some may not have happened
  | stopped requestId config config' _ hconfig hconfig' =>
    have hreleased := valid_released hvalid hconfig
    have hmem := configFile_perform (releaseSteps_writes config config' requestId) g (min n 9)
    rw [← List.take_take, ← stoppedSteps_eq] at hmem
    simp only [List.mem_cons, List.not_mem_nil, or_false] at hmem
    rcases hmem with h | h | h
    · rw [h]; exact hvalid
    · rw [h]; exact hreleased
    · rw [h]; exact valid_requested hreleased hconfig'
  -- one write, of the new credentials
  | rotated c config hchanges hconfig =>
    have hmem := configFile_perform
      (rotateSteps_writes config c (c.changesClaim g.publisher)) g n
    simp only [List.mem_cons, List.not_mem_nil, or_false] at hmem
    rcases hmem with h | h
    · rw [h]; exact hvalid
    · rw [h]; exact valid_rotated hvalid (fun hr => hreal hr c hchanges) hconfig

/-- And after any number of steps of a refused connection. -/
theorem valid_connect {g : NovenaGateway} (result : ConnectResult)
    (hvalid : validateConfig host g.configFile = .ok [])
    (hkept : retireRevokedOperationalCredentials g = [] ∨ ¬Restricted host g.configFile) (n : Nat) :
    validateConfig host (Step.perform ((onConnectSteps g result).take n) g).configFile = .ok [] := by
  -- only a refused authorisation can write
  cases result with
  | accepted => simpa [onConnectSteps] using hvalid
  | refused => simpa [onConnectSteps] using hvalid
  | notAuthorized =>
    simp only [onConnectSteps]
    -- and it does only for a release that is still open
    rcases retire_cases g with hnil | ⟨config, hconfig, hsteps, _⟩
    · simpa [hnil] using hvalid
    · have hopen : ¬Restricted host g.configFile := by
        rcases hkept with hnil | hopen
        · rw [hsteps] at hnil; cases hnil
        · exact hopen
      have hmem := configFile_perform (retireSteps_writes config) g n
      rw [hsteps]
      simp only [List.mem_cons, List.not_mem_nil, or_false] at hmem
      rcases hmem with h | h
      · rw [h]; exact hvalid
      · rw [h]; exact valid_retired hvalid hopen hconfig

end Provision

namespace Machine

open NovenaGateway Provision

variable {host : Host} {v : ReleaseVerifier}

/-! ## Runs -/

/-- The step erases no credentials and writes no placeholder where a deployment needs them. -/
def KeepsCredentials (host : Host) : Machine → Label → Prop
  | .up g, .provision _ payload _ =>
    Restricted host g.configFile → ∀ c, Changes g payload c → c.Real
  | .up g, .connect .notAuthorized _ =>
    retireRevokedOperationalCredentials g = [] ∨ ¬Restricted host g.configFile
  | _, _ => True

/-- An operation leaves a valid file if every number of its steps does. -/
theorem valid_finish {g : NovenaGateway} {steps : List (Step NovenaGateway)}
    {after : NovenaGateway → NovenaGateway} {ending : Ending} {m : Machine}
    (hafter : ∀ g, (after g).configFile = g.configFile)
    (hsteps : ∀ n, validateConfig host (Step.perform (steps.take n) g).configFile = .ok [])
    (h : finish g steps after ending = some m) : validateConfig host m.configFile = .ok [] := by
  obtain ⟨_, rfl⟩ | ⟨n, ⟨_, _, rfl⟩ | ⟨_, rfl⟩⟩ := finish_cases h
  · have := hsteps steps.length
    rw [List.take_length] at this
    simpa only [configFile, hafter] using this
  · simpa only [configFile, hafter] using hsteps n
  · exact hsteps n

/-- The end of a connection leaves the file alone. -/
theorem onConnectEnd_configFile (g : NovenaGateway) (result : ConnectResult) :
    (onConnectEnd g result).configFile = g.configFile := by
  cases result <;> rfl

/-- A configuration message leaves a valid file. -/
theorem valid_configUpdate {g : NovenaGateway} (hvalid : validateConfig host g.configFile = .ok [])
    (cfg : GuardConfig) (clock : Clock) (payload : Json)
    (outcomes rollbackOutcomes : Nat → StartOutcome) (crashes : Bool) :
    validateConfig host
      (configUpdate host g cfg clock payload outcomes rollbackOutcomes crashes).configFile =
        .ok [] := by
  have hcases := RemoteConfigHandler.onConfigUpdate_cases host cfg g clock payload
    outcomes rollbackOutcomes
  unfold configUpdate
  dsimp only
  split
  · obtain heq | ⟨updated, _, _, _, _, _, _, hupdated, heq, ⟨rfl, _⟩ | ⟨rfl, _⟩⟩ := hcases
    · rw [heq]; exact hvalid
    · rw [heq]; exact hupdated
    · rw [heq]; exact hvalid
  · split
    · next config hwritten => exact RemoteConfigHandler.writtenConfig_valid hwritten
    · exact hvalid

/-- A step that keeps the credentials keeps the file valid. -/
theorem valid_step {m m' : Machine} {label : Label}
    (hvalid : validateConfig host m.configFile = .ok []) (hkept : KeepsCredentials host m label)
    (h : step host v m label = some m') : validateConfig host m'.configFile = .ok [] := by
  cases m with
  | down disk =>
    cases label with
    | boot cfg =>
      simp only [step, Option.map_eq_some_iff] at h
      obtain ⟨g, hboot, rfl⟩ := h
      obtain ⟨_, _, _, _, _, _, _, _, _, _, rfl⟩ := boot_cases hboot
      exact hvalid
    | _ => cases h
  | up g =>
    have hfile : validateConfig host g.configFile = .ok [] := hvalid
    by_cases hprovision : ∃ now payload ending, label = .provision now payload ending
    · obtain ⟨now, payload, ending, rfl⟩ := hprovision
      exact valid_finish (fun _ => rfl) (valid_provision hfile hkept) h
    by_cases hconnect : ∃ result ending, label = .connect result ending
    · obtain ⟨result, ending, rfl⟩ := hconnect
      refine valid_finish (fun g => onConnectEnd_configFile g result) ?_ h
      cases result with
      | notAuthorized => exact valid_connect _ hfile hkept
      | _ => exact fun n => by simpa [onConnectSteps] using hfile
    by_cases hupdate : ∃ cfg clock payload outcomes rollbackOutcomes crashes,
        label = .configUpdate cfg clock payload outcomes rollbackOutcomes crashes
    · obtain ⟨cfg, clock, payload, outcomes, rollbackOutcomes, crashes, rfl⟩ := hupdate
      obtain rfl := Option.some.inj h
      exact valid_configUpdate hfile cfg clock payload outcomes rollbackOutcomes crashes
    push Not at hprovision hconnect hupdate
    obtain rfl | ⟨g', rfl, hquiet, _⟩ := stepUp_quiet h hprovision hconnect hupdate
    · exact hfile
    · simpa only [configFile, hquiet.configFile] using hfile

/-- In every run from a valid configuration whose steps keep the credentials a restricted
    deployment needs, `config.json` is valid in every state. -/
theorem valid_of_run {disk : Disk} {labels : List Label} {m : Machine}
    (hvalid : validateConfig host disk.config = .ok [])
    (hkept : Run.Along (step host v) (KeepsCredentials host) (.down disk) labels)
    (hrun : Run.exec (step host v) (.down disk) labels = some m) :
    validateConfig host m.configFile = .ok [] :=
  Run.exec_invariant (I := fun m : Machine => validateConfig host m.configFile = .ok [])
    (fun _ _ _ hvalid hkept h => valid_step hvalid hkept h)
    (show validateConfig host (configFile (.down disk)) = .ok [] from hvalid) hkept hrun

end Machine

/-! ## A station's release -/

namespace Station

/-- A verifier that trusts what is signed, before any request expires. -/
def verifier : ReleaseVerifier where
  uuid := .ok
  fromisoformat := fun _ => .ok ⟨1767225630000000, true⟩
  verifies := fun _ _ signature => signature.eq (.str "c2lnbmVk")

def commandGuard : GuardConfig where
  serialNumber := "GW-001"
  trustedClock := true
  maxClockOffset := .nan
  keyIds := ["key-1"]
  verifies := fun _ _ _ => true
  fromisoformat := fun _ => .ok ⟨1767225630000000, true⟩
  checksum := fun _ => "5f70bf18"

/-- The disk of a station that was never started, with one connector. -/
def newDisk (mode : String) : NovenaGateway.Disk where
  config := .obj (config mode [meter])
  buffers := fun _ => []
  configJournal := none
  policy := none
  commandJournal := .missing

/-- A release of the station's claim. -/
def release (requestId : String) : Dict String Json :=
  [("schema_version", .int 1), ("action", .str "release"), ("request_id", .str requestId),
   ("target", .obj [("gateway_serial", .str "GW-001")]), ("claim_id", .str "claim-1"),
   ("expires_at", .str "2026-01-01T00:00:30Z"), ("signing_key_id", .str "key-1"),
   ("signature", .str "c2lnbmVk")]

def handled (payload : Dict String Json) : Machine.Label :=
  .provision 1767225600000000 payload .completes

end Station

namespace Machine

open NovenaGateway Provision

/-- A laboratory gateway is released, and its credentials are erased when the broker refuses it. -/
theorem valid_of_run_local : ∃ m,
    Run.exec (step Station.host Station.verifier) (.down (Station.newDisk "local"))
      [.boot Station.commandGuard, Station.handled (Station.release "release-1"),
       .connect .notAuthorized .completes] = some m ∧
      validateConfig Station.host m.configFile = .ok [] := by
  have hopen : ∀ config, deploymentMode Station.host config = .ok "local" →
      ¬Restricted Station.host config := by
    rintro config hlocal ⟨mode, hmode, hrestricted⟩
    cases hlocal.symm.trans hmode
    exact absurd hrestricted (by decide)
  have hrun : ∃ m, Run.exec (step Station.host Station.verifier) (.down (Station.newDisk "local"))
      [.boot Station.commandGuard, Station.handled (Station.release "release-1"),
       .connect .notAuthorized .completes] = some m := ⟨_, rfl⟩
  -- nothing is asked of the boot, and the file says that the deployment is a local one
  have hkept : Run.Along (step Station.host Station.verifier) (KeepsCredentials Station.host)
      (.down (Station.newDisk "local"))
      [.boot Station.commandGuard, Station.handled (Station.release "release-1"),
       .connect .notAuthorized .completes] := by
    refine ⟨trivial, fun _ hboot => ?_⟩
    obtain rfl := Option.some.inj hboot
    refine ⟨fun hr => absurd hr (hopen _ rfl), fun _ hrelease => ?_⟩
    obtain rfl := Option.some.inj hrelease
    exact ⟨.inr (hopen _ rfl), fun _ _ => trivial⟩
  obtain ⟨m, hm⟩ := hrun
  exact ⟨m, hm, valid_of_run (show validateConfig Station.host (Station.newDisk "local").config =
    .ok [] from rfl) hkept hm⟩

/-- In production the same run leaves a configuration the gateway does not start with. -/
theorem erased_credentials_refused :
    NovenaGateway.validateConfig Station.host (Station.newDisk "production").config = .ok [] ∧
    ∃ m, Run.exec (step Station.host Station.verifier) (.down (Station.newDisk "production"))
      [.boot Station.commandGuard, Station.handled (Station.release "release-1"),
       .connect .notAuthorized .completes] = some m ∧
      NovenaGateway.validateConfig Station.host m.configFile =
        .ok ["mqtt.username — factory burn value required in production mode",
          "mqtt.password — factory burn value required in production mode"] := by
  refine ⟨rfl, _, rfl, ?_⟩
  rfl

end Machine

end Novena

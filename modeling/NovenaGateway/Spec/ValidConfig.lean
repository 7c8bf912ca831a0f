import NovenaGateway.Native.RemoteConfig

/-!
# The shape of a valid configuration

`validate_config` returns the empty list only for an object with a section `mqtt` and a list of
connectors, and its answer depends on few fields of these. Both are needed wherever a valid
configuration is changed or started.

Key results:
- `NovenaGateway.validateConfig_nil`
- `NovenaGateway.shape_of_valid`
-/

namespace Novena

namespace Json

/-- An object has the keys it contains. -/
@[simp] theorem has_obj (fields : List (String × Json)) (key : String) :
    (obj fields).has key = .ok (Dict.contains fields key) :=
  congrArg Except.ok (Dict.any_key fields key)

/-- An item is found in an object. -/
theorem item_ok {v x : Json} {key : String} (h : v.item key = .ok x) :
    ∃ fields, v = obj fields ∧ Dict.get? fields key = some x := by
  cases v with
  | obj fields =>
    simp only [item] at h
    cases hk : Dict.get? fields key with
    | none => rw [hk] at h; cases h
    | some y =>
      rw [hk] at h
      exact ⟨fields, rfl, by rw [hk, Except.ok.inj h]⟩
  | _ => cases h

end Json

namespace NovenaGateway

variable {host : Host}

/-- A configuration is valid when every part of the check finds nothing. -/
theorem validateConfig_nil {config : Json} :
    validateConfig host config = .ok [] ↔
      ∃ mode, deploymentMode host config = .ok mode ∧ gatewayErrors config = .ok [] ∧
        mqttErrors mode config = .ok [] ∧ connectorsErrors config = .ok [] ∧
        placeholderErrors mode config = .ok [] ∧ tlsErrors host config = .ok [] ∧
        runtimeStatePathErrors config = [] ∧ watchdogErrors config = .ok [] := by
  simp only [validateConfig, Except.bind_eq_ok, Except.pure_eq_ok, List.append_eq_nil_iff]
  constructor
  · rintro ⟨mode, hmode, _, hg, _, hm, _, hc, _, hp, _, ht, _, hw, ⟨⟨⟨⟨⟨rfl, rfl⟩, rfl⟩, rfl⟩, rfl⟩,
      hpaths⟩, rfl⟩
    exact ⟨mode, hmode, hg, hm, hc, hp, ht, hpaths, hw⟩
  · rintro ⟨mode, hmode, hg, hm, hc, hp, ht, hpaths, hw⟩
    exact ⟨mode, hmode, _, hg, _, hm, _, hc, _, hp, _, ht, _, hw, ⟨⟨⟨⟨⟨rfl, rfl⟩, rfl⟩, rfl⟩, rfl⟩,
      hpaths⟩, rfl⟩

/-- A section `mqtt` without errors is an object of the configuration. -/
theorem mqtt_of_valid {mode : String} {config : Json} (h : mqttErrors mode config = .ok []) :
    ∃ fields mqtt, config = .obj fields ∧ Dict.get? fields "mqtt" = some (.obj mqtt) ∧
      Dict.contains mqtt "host" = true ∧ portErrors (.obj mqtt) = .ok [] ∧
      transportErrors mode (.obj mqtt) = .ok [] := by
  simp only [mqttErrors, Except.bind_eq_ok] at h
  obtain ⟨b, _, h⟩ := h
  split at h
  · simp at h
  simp only [Except.bind_eq_ok, Except.pure_eq_ok, List.append_eq_nil_iff] at h
  obtain ⟨m, hm, hasHost, hhost, _, hport, _, htransport, ⟨hnil, rfl⟩, rfl⟩ := h
  obtain ⟨fields, rfl, hmqtt⟩ := Json.item_ok hm
  -- only an object answers `.get`, which asks for the port
  have hobj : ∃ mqtt, m = .obj mqtt := by
    simp only [portErrors, Except.bind_eq_ok] at hport
    obtain ⟨hasPort, _, hport⟩ := hport
    split at hport
    · simp at hport
    · simp only [Except.bind_eq_ok] at hport
      obtain ⟨x, hx, _⟩ := hport
      obtain ⟨mqtt, rfl, _⟩ := Json.get_ok hx
      exact ⟨mqtt, rfl⟩
  obtain ⟨mqtt, rfl⟩ := hobj
  refine ⟨fields, mqtt, rfl, hmqtt, ?_, hport, htransport⟩
  rw [Json.has_obj, Except.ok.injEq] at hhost
  rw [hhost]
  by_contra hne
  rw [if_neg hne] at hnil
  cases hnil

/-- A list of connectors without errors, each of them an object with a type and, if anything, an
    object `config`. -/
theorem connectors_of_valid {fields : List (String × Json)}
    (h : connectorsErrors (.obj fields) = .ok []) :
    ∃ connectors, Dict.get? fields "connectors" = some (.arr connectors) ∧
      ∀ connector ∈ connectors, ∃ index, connectorErrors index connector = [] := by
  simp only [connectorsErrors, Json.has_obj, Except.bind_eq_ok, Except.ok.injEq] at h
  obtain ⟨b, hb, h⟩ := h
  split at h
  · simp at h
  simp only [Json.get_obj, Except.bind_eq_ok, Except.ok.injEq] at h
  obtain ⟨v, hv, h⟩ := h
  cases v with
  | arr connectors =>
    simp only [Except.pure_eq_ok, List.flatten_eq_nil_iff, List.mem_map, Prod.exists,
      forall_exists_index, and_imp] at h
    refine ⟨connectors, ?_, fun connector hmem => ?_⟩
    · cases hk : Dict.get? fields "connectors" with
      | none => rw [hk] at hv; cases hv
      | some x => rw [hk] at hv; exact congrArg some hv
    · obtain ⟨index, hindex⟩ := List.mem_iff_getElem?.mp hmem
      exact ⟨index, h _ connector index (List.mem_zipIdx_iff_getElem?.mpr hindex) rfl⟩
  | _ => simp at h

/-- What a valid entry of `connectors` looks like. -/
theorem connector_of_valid {index : Nat} {connector : Json}
    (h : connectorErrors index connector = []) :
    ∃ fields type, connector = .obj fields ∧ Dict.get? fields "type" = some type ∧
      (Dict.get? fields "config" = none ∨
        ∃ config, Dict.get? fields "config" = some (.obj config)) := by
  cases connector with
  | obj fields =>
    simp only [connectorErrors, List.append_eq_nil_iff] at h
    obtain ⟨htype, hconfig⟩ := h
    cases ht : Dict.get? fields "type" with
    | none => simp [Dict.contains, ht] at htype
    | some type =>
      refine ⟨fields, type, rfl, ht, ?_⟩
      split at hconfig
      · next hnone => exact .inl hnone
      · next config hsome => exact .inr ⟨config, hsome⟩
      · cases hconfig
  | _ => cases h

/-- The shape of a valid configuration. -/
theorem shape_of_valid {config : Json} (h : validateConfig host config = .ok []) :
    ∃ fields mqtt connectors, config = .obj fields ∧
      Dict.get? fields "mqtt" = some (.obj mqtt) ∧
      Dict.get? fields "connectors" = some (.arr connectors) ∧
      ∀ connector ∈ connectors, ∃ index, connectorErrors index connector = [] := by
  obtain ⟨mode, _, _, hmqtt, hconnectors, _⟩ := validateConfig_nil.mp h
  obtain ⟨fields, mqtt, rfl, hfields, _⟩ := mqtt_of_valid hmqtt
  obtain ⟨connectors, hlist, hall⟩ := connectors_of_valid hconnectors
  exact ⟨fields, mqtt, connectors, rfl, hfields, hlist, hall⟩

end NovenaGateway

/-! ## A station -/

namespace Station

/-- A host without the files a TLS section could name. -/
def host : Host := ⟨fun _ => false, fun _ => false, none, abspath⟩

/-- The configuration of a station in some deployment mode, with these connectors. -/
def config (mode : String) (connectors : List Json) : Dict String Json :=
  [("deployment", .obj [("mode", .str mode)]),
   ("gateway", .obj [("serial_number", .str "GW-001")]),
   ("mqtt", .obj [("host", .str "hub.local"), ("port", .int 1883),
      ("allow_insecure_private_mqtt", .bool true), ("username", .str "GW-001"),
      ("password", .str "secret-1"), ("claim_id", .str "claim-1")]),
   ("connectors", .arr connectors),
   ("features", .obj [("rpc", .obj [("trusted_command_keys",
      .obj [("key-1", .str "MCowBQYDK2VwAyEA")])])])]

/-- A Modbus connector. -/
def meter : Json :=
  .obj [("name", .str "meter"), ("type", .str "modbus"),
    ("config", .obj [("name", .str "meter"), ("master", .obj [("slaves", .arr [])]),
      ("slave", .obj [])])]

end Station

end Novena

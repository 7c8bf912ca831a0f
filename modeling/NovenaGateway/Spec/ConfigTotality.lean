import NovenaGateway.Spec.BootConfig
import NovenaGateway.Spec.ConfigRollback

/-!
# When the check of a configuration raises

`validate_config` asks sections for their keys before it knows that they are objects, and
`_start_connectors` looks a connector's type up in a dictionary that cannot be asked for a list.
`Readable` has what the first needs, part by part; the second needs types that can be keys.

## Key results

- `NovenaGateway.validateConfig_returns`: the check returns exactly on readable configurations
- `NovenaGateway.total_and_sufficient_iff`: the same with the start of a valid configuration
-/

namespace Novena

/-- A computation that raises nothing. -/
def Returns {α : Type} (x : Py α) : Prop := ∃ a, x = .ok a

namespace Returns

variable {α β : Type}

/-- A value is returned. -/
theorem ok (a : α) : Returns (.ok a) := ⟨a, rfl⟩

/-- And so is what is only returned. -/
theorem pure (a : α) : Returns (Pure.pure a) := ⟨a, rfl⟩

/-- An exception is not. -/
theorem not_error (e : Exn) : ¬Returns (.error e : Py α) := by
  rintro ⟨a, h⟩
  cases h

/-- Two computations return when the first does and the second does on its value. -/
theorem bind {x : Py α} {f : α → Py β} :
    Returns (x >>= f) ↔ ∃ a, x = .ok a ∧ Returns (f a) := by
  simp only [Returns, Except.bind_eq_ok]
  constructor
  · rintro ⟨b, a, hx, hf⟩
    exact ⟨a, hx, b, hf⟩
  · rintro ⟨a, hx, b, hf⟩
    exact ⟨b, a, hx, hf⟩

/-- What follows is a plain result. -/
theorem bind_of_forall {x : Py α} {f : α → Py β} (h : ∀ a, Returns (f a)) :
    Returns (x >>= f) ↔ Returns x := by
  rw [bind]
  constructor
  · rintro ⟨a, hx, _⟩
    exact ⟨a, hx⟩
  · rintro ⟨a, hx⟩
    exact ⟨a, hx, h a⟩

theorem ok_bind {a : α} {f : α → Py β} : Returns (Except.ok a >>= f) ↔ Returns (f a) := Iff.rfl

end Returns

/-- A value that can be asked with `in` for a text: an object, a list or a text. -/
def Json.IsContainer (v : Json) : Prop :=
  (∃ fields, v = .obj fields) ∨ (∃ items, v = .arr items) ∨ ∃ s, v = .str s

/-- A value `int()` may refuse, but not with an overflow. -/
def Json.Bounded (v : Json) : Prop := ∀ neg, v ≠ .float (.inf neg)

/-- A value `os.path.isfile` takes. -/
def Json.IsPath (v : Json) : Prop :=
  (∃ s, v = .str s) ∨ (∃ b, v = .bool b) ∨ ∃ n, v = .int n ∧ -2 ^ 31 ≤ n ∧ n < 2 ^ 31

/-- `in` needs a container. -/
theorem Json.returns_has {v : Json} {key : String} : Returns (v.has key) ↔ v.IsContainer := by
  cases v <;> simp [Returns, Json.has, Json.mem, Json.IsContainer]

/-- With a default too. -/
theorem Json.returns_getD {v d : Json} {key : String} :
    Returns (v.getD key d) ↔ ∃ fields, v = .obj fields := by
  cases v <;> simp [Returns, Json.getD]

/-- `int` is asked only for what is a bounded number. -/
theorem Json.returns_toInt? {v : Json} : Returns v.toInt? ↔ v.Bounded := by
  unfold Json.toInt? Json.Bounded
  cases v with
  -- a text is read, or refused with `ValueError`, which is caught
  | str s =>
    refine iff_of_true ?_ (by simp)
    unfold Json.toInt
    dsimp only
    cases intOfStr s with
    | some n => exact ⟨some n, rfl⟩
    | none => exact ⟨none, rfl⟩
  | float x =>
    cases x with
    -- only an infinite float raises, and `OverflowError` is not caught
    | inf neg =>
      refine iff_of_false ?_ (fun h => h neg rfl)
      rintro ⟨a, h⟩
      cases h
    -- every other value is read, or refused with an exception that is caught
    | _ => exact iff_of_true ⟨_, rfl⟩ (by simp)
  | _ => exact iff_of_true ⟨_, rfl⟩ (by simp)

/-- `isfile` needs a path. -/
theorem Host.returns_isfile {host : Host} {v : Json} : Returns (host.isfile v) ↔ v.IsPath := by
  cases v with
  | int n =>
    simp only [Host.isfile, Json.IsPath]
    split
    · next h => exact iff_of_true ⟨_, rfl⟩ (.inr (.inr ⟨n, rfl, h⟩))
    · next h =>
      refine iff_of_false (Returns.not_error _) ?_
      rintro (⟨s, hs⟩ | ⟨b, hb⟩ | ⟨m, hm, hrange⟩)
      · cases hs
      · cases hb
      · cases hm
        exact h hrange
  | _ => simp [Returns, Host.isfile, Json.IsPath]

namespace NovenaGateway

open Provision (Restricted)

/-! ## What the check needs -/

/-- A section of an object, an empty one when it is missing. -/
def sectionOf (fields : Dict String Json) (key : String) : Json :=
  (Dict.get? fields key).getD (.obj [])

/-- A field of an object, `None` when it is missing. -/
def fieldOf (fields : Dict String Json) (key : String) : Json := (Dict.get? fields key).getD .null

/-- A file of the TLS section that is there can be looked for. -/
def FileReadable (tls : Dict String Json) (key : String) : Prop :=
  (fieldOf tls key).truthy = true → (fieldOf tls key).IsPath

/-- The TLS section, when it is used, is an object with files that can be looked for. -/
def TlsReadable (mqtt : Dict String Json) : Prop :=
  (fieldOf mqtt "tls").truthy = true → ∃ tls, fieldOf mqtt "tls" = .obj tls ∧
    FileReadable tls "ca_certs" ∧
    (((Dict.get? tls "mode").getD (.str "one-way")).eq (.str "mutual") = true →
      FileReadable tls "certfile" ∧ FileReadable tls "keyfile")

/-- What `validate_config` needs to return anything. -/
structure Readable (host : Host) (fields : Dict String Json) : Prop where
  deployment : ∃ deployment, sectionOf fields "deployment" = .obj deployment ∧
    ((fieldOf deployment "mode").truthy = true → ∃ mode, fieldOf deployment "mode" = .str mode)
  gateway : (sectionOf fields "gateway").IsContainer
  restricted : Restricted host (.obj fields) → ∃ gateway, sectionOf fields "gateway" = .obj gateway
  mqtt : ∃ mqtt, sectionOf fields "mqtt" = .obj mqtt ∧ (fieldOf mqtt "port").Bounded ∧
    TlsReadable mqtt
  features : ∃ features, sectionOf fields "features" = .obj features ∧
    ∀ watchdog, sectionOf features "network_watchdog" = .obj watchdog →
      ∀ interface ∈ watchdogInterfaces watchdog, Returns interface.hashKey

variable {host : Host} {fields : Dict String Json} {mode : String}

/-! ## Part by part -/

/-- The mode can be read when the deployment is an object and a mode that is given is a string. -/
theorem returns_deploymentMode : Returns (deploymentMode host (.obj fields)) ↔
    ∃ deployment, sectionOf fields "deployment" = .obj deployment ∧
      ((fieldOf deployment "mode").truthy = true →
        ∃ mode, fieldOf deployment "mode" = .str mode) := by
  unfold deploymentMode
  rw [Json.orElse_obj, Json.getD_obj, Returns.ok_bind]
  change Returns ((sectionOf fields "deployment").get "mode" >>= _) ↔ _
  cases sectionOf fields "deployment" with
  -- `deployment` must have `get`
  | obj deployment =>
    rw [Json.get_obj, Returns.ok_bind]
    simp only [Json.obj.injEq, exists_eq_left', fieldOf]
    generalize (Dict.get? deployment "mode").getD .null = configured
    unfold Json.orElse
    -- a mode that is set must be a text, since `lower` is called on it
    by_cases htruthy : configured.truthy = true
    · rw [if_pos htruthy]
      cases configured with
      | str mode => exact iff_of_true ⟨_, rfl⟩ fun _ => ⟨mode, rfl⟩
      | _ =>
        refine iff_of_false (Returns.not_error _) fun h => ?_
        obtain ⟨_, h⟩ := h htruthy
        cases h
    -- an empty one falls back to the default
    · rw [if_neg htruthy]
      exact iff_of_true ⟨_, rfl⟩ fun h => absurd h htruthy
  -- a list or a number has no `get`
  | _ => exact iff_of_false (Returns.not_error _) (by simp)

/-- The checks of the gateway only need a container. -/
theorem returns_gatewayErrors :
    Returns (gatewayErrors (.obj fields)) ↔ (sectionOf fields "gateway").IsContainer := by
  unfold gatewayErrors sectionOf
  rw [Json.has_obj, Returns.ok_bind, Json.getD_obj]
  cases hget : Dict.get? fields "gateway" with
  -- without the section nothing is read
  | none =>
    rw [Dict.contains, hget]
    exact iff_of_true ⟨_, rfl⟩ (.inl ⟨_, rfl⟩)
  -- with it, `in` must be defined on it
  | some gateway =>
    rw [Dict.contains, hget, Option.getD_some]
    simp only [Option.isSome_some, Bool.not_true, Bool.false_eq_true, if_false]
    rw [Returns.ok_bind, Returns.bind_of_forall, Json.returns_has]
    -- a serial that is there or not is no matter for returning
    intro hasSerial
    cases hasSerial with
    | true => exact ⟨_, rfl⟩
    | false => exact ⟨_, rfl⟩

/-- The check of the port needs a number `int` takes. -/
theorem returns_portErrors {mqtt : Dict String Json} :
    Returns (portErrors (.obj mqtt)) ↔ (fieldOf mqtt "port").Bounded := by
  unfold portErrors fieldOf
  rw [Json.has_obj, Returns.ok_bind]
  -- a missing port is reported
  cases hget : Dict.get? mqtt "port" with
  | none =>
    rw [Dict.contains, hget]
    exact iff_of_true ⟨_, rfl⟩ (by simp [Json.Bounded])
  -- a port that is there goes through `int`
  | some port =>
    rw [Dict.contains, hget]
    simp only [Option.isSome_some, Bool.not_true, Bool.false_eq_true, if_false]
    rw [Json.get_obj, Returns.ok_bind, hget, Returns.bind_of_forall, Json.returns_toInt?]
    intro number
    cases number with
    | some n => exact ⟨_, rfl⟩
    | none => exact ⟨_, rfl⟩

/-- With such a port the checks of the transport return. -/
theorem returns_transportErrors {mqtt : Dict String Json} (h : (fieldOf mqtt "port").Bounded) :
    Returns (transportErrors mode (.obj mqtt)) := by
  unfold transportErrors
  -- only the restricted modes ask
  cases isRestricted mode with
  | false => exact ⟨_, rfl⟩
  | true =>
    simp only [Bool.not_true, Bool.false_eq_true, if_false, Json.get_obj, Json.getD_obj]
    rw [Returns.ok_bind, Returns.ok_bind, Returns.ok_bind, Returns.bind_of_forall,
      Json.returns_toInt?]
    · unfold fieldOf at h
      -- the default port is a number
      cases hget : Dict.get? mqtt "port" with
      | none => simp [Json.Bounded]
      | some port =>
        rw [hget] at h
        exact h
    · intro number
      cases number with
      | some n => exact ⟨_, rfl⟩
      | none => exact ⟨_, rfl⟩

/-- So all of the MQTT checks hang on the port. -/
theorem returns_mqttErrors {mqtt : Dict String Json} (hmqtt : sectionOf fields "mqtt" = .obj mqtt) :
    Returns (mqttErrors mode (.obj fields)) ↔ (fieldOf mqtt "port").Bounded := by
  unfold mqttErrors
  rw [Json.has_obj, Returns.ok_bind]
  cases hget : Dict.get? fields "mqtt" with
  -- a missing `mqtt` is reported
  | none =>
    rw [sectionOf, hget, Option.getD_none, Json.obj.injEq] at hmqtt
    subst hmqtt
    rw [Dict.contains, hget]
    exact iff_of_true ⟨_, rfl⟩ (by simp [Json.Bounded, fieldOf, Dict.get?])
  -- a section that is there
  | some value =>
    rw [sectionOf, hget, Option.getD_some] at hmqtt
    subst hmqtt
    rw [Dict.contains, hget]
    simp only [Option.isSome_some, Bool.not_true, Bool.false_eq_true, if_false]
    have hitem : (Json.obj fields).item "mqtt" = .ok (.obj mqtt) := by
      simp only [Json.item, hget]
    rw [hitem, Returns.ok_bind, Json.has_obj, Returns.ok_bind, Returns.bind]
    -- the port is read first
    constructor
    · rintro ⟨errors, hport, _⟩
      exact returns_portErrors.mp ⟨errors, hport⟩
    -- and the transport returns when the port does
    · intro hbounded
      obtain ⟨errors, hport⟩ := returns_portErrors.mpr hbounded
      have hreturns : Returns (transportErrors mode (.obj mqtt)) := returns_transportErrors hbounded
      obtain ⟨errors', htransport⟩ := hreturns
      refine ⟨errors, hport, ?_⟩
      rw [htransport]
      exact ⟨_, rfl⟩

/-- The gateway must be an object where placeholders are looked for. -/
theorem returns_placeholderErrors {mqtt : Dict String Json}
    (hmqtt : sectionOf fields "mqtt" = .obj mqtt) :
    Returns (placeholderErrors mode (.obj fields)) ↔
      (isRestricted mode = true → ∃ gateway, sectionOf fields "gateway" = .obj gateway) := by
  unfold placeholderErrors
  cases hmode : isRestricted mode with
  -- only the restricted modes ask
  | false => exact iff_of_true ⟨_, rfl⟩ (fun h => by cases h)
  | true =>
    simp only [Bool.not_true, Bool.false_eq_true, if_false, Json.getD_obj, forall_const]
    rw [Returns.ok_bind]
    change Returns ((sectionOf fields "gateway").getD _ _ >>= _) ↔ _
    rw [Returns.bind_of_forall, Json.returns_getD]
    -- whatever the serial is, the rest returns
    intro serial
    have hsection : (Dict.get? fields "mqtt").getD (.obj []) = .obj mqtt := hmqtt
    rw [hsection]
    exact ⟨_, rfl⟩

/-- A file of the TLS section. -/
theorem returns_fileErrors {tls : Dict String Json} {key missing : String} :
    Returns (fileErrors host (.obj tls) key missing) ↔ FileReadable tls key := by
  unfold fileErrors FileReadable fieldOf
  rw [Json.get_obj, Returns.ok_bind]
  cases htruthy : ((Dict.get? tls key).getD Json.null).truthy with
  | false => exact iff_of_true ⟨_, rfl⟩ (fun h => by cases h)
  | true =>
    simp only [Bool.not_true, Bool.false_eq_true, if_false, forall_const]
    rw [Returns.bind_of_forall, Host.returns_isfile]
    intro isFile
    cases isFile with
    | true => exact ⟨_, rfl⟩
    | false => exact ⟨_, rfl⟩

/-- The TLS checks need the paths they look up. -/
theorem returns_tlsErrors : Returns (tlsErrors host (.obj fields)) ↔
    ∃ mqtt, sectionOf fields "mqtt" = .obj mqtt ∧ TlsReadable mqtt := by
  unfold tlsErrors
  rw [Json.getD_obj, Returns.ok_bind]
  change Returns ((sectionOf fields "mqtt").get "tls" >>= _) ↔ _
  -- `mqtt` must have `get`
  cases sectionOf fields "mqtt" with
  | obj mqtt =>
    rw [Json.get_obj, Returns.ok_bind]
    have hfield : (Dict.get? mqtt "tls").getD .null = fieldOf mqtt "tls" := rfl
    rw [hfield]
    simp only [Json.obj.injEq, exists_eq_left']
    unfold TlsReadable
    generalize fieldOf mqtt "tls" = tls
    cases htruthy : tls.truthy with
    -- no TLS, nothing to read
    | false => exact iff_of_true ⟨_, rfl⟩ (fun h => by cases h)
    | true =>
      simp only [Bool.not_true, Bool.false_eq_true, if_false, forall_const]
      cases tls with
      -- with TLS, its files are looked up
      | obj tls =>
        rw [Json.getD_obj, Returns.ok_bind]
        simp only [Json.obj.injEq, exists_eq_left']
        rw [Returns.bind]
        cases ((Dict.get? tls "mode").getD (.str "one-way")).eq (.str "mutual") with
        -- one-way: the certificate of the authority
        | false =>
          simp only [Bool.false_eq_true, if_false, false_implies, and_true]
          constructor
          · rintro ⟨ca, hca, _⟩
            exact returns_fileErrors.mp ⟨ca, hca⟩
          · intro hca
            obtain ⟨ca, hca⟩ := returns_fileErrors.mpr hca
            exact ⟨ca, hca, Returns.pure _⟩
        -- mutual: the certificate and the key of the client as well
        | true =>
          simp only [if_true, forall_const]
          constructor
          · rintro ⟨ca, hca, hrest⟩
            obtain ⟨cert, hcert, hrest⟩ := Returns.bind.mp hrest
            obtain ⟨key, hkey, _⟩ := Returns.bind.mp hrest
            exact ⟨returns_fileErrors.mp ⟨ca, hca⟩, returns_fileErrors.mp ⟨cert, hcert⟩,
              returns_fileErrors.mp ⟨key, hkey⟩⟩
          · rintro ⟨hca, hcert, hkey⟩
            obtain ⟨ca, hca⟩ := returns_fileErrors.mpr hca
            obtain ⟨cert, hcert⟩ := returns_fileErrors.mpr hcert
            obtain ⟨key, hkey⟩ := returns_fileErrors.mpr hkey
            exact ⟨ca, hca, Returns.bind.mpr ⟨cert, hcert, Returns.bind.mpr
              ⟨key, hkey, Returns.pure _⟩⟩⟩
      | _ => exact iff_of_false (Returns.not_error _) (by simp)
  | _ => exact iff_of_false (Returns.not_error _) (by simp)

/-- A loop returns when each of its turns does. -/
theorem returns_mapM {α β : Type} {f : α → Py β} {items : List α} :
    Returns (items.mapM f) ↔ ∀ item ∈ items, Returns (f item) := by
  induction items with
  | nil => exact iff_of_true ⟨_, rfl⟩ (fun _ h => absurd h List.not_mem_nil)
  | cons item items ih =>
    rw [List.mapM_cons, Returns.bind, List.forall_mem_cons, ← ih]
    constructor
    · rintro ⟨b, hb, hrest⟩
      rw [Returns.bind_of_forall fun _ => Returns.pure _] at hrest
      exact ⟨⟨b, hb⟩, hrest⟩
    · rintro ⟨⟨b, hb⟩, hrest⟩
      refine ⟨b, hb, ?_⟩
      rw [Returns.bind_of_forall fun _ => Returns.pure _]
      exact hrest

/-- The watchdog's check needs interfaces that can be keys of a set. -/
theorem returns_watchdogErrors : Returns (watchdogErrors (.obj fields)) ↔
    ∃ features, sectionOf fields "features" = .obj features ∧
      ∀ watchdog, sectionOf features "network_watchdog" = .obj watchdog →
        ∀ interface ∈ watchdogInterfaces watchdog, Returns interface.hashKey := by
  unfold watchdogErrors
  rw [Json.getD_obj, Returns.ok_bind]
  change Returns ((sectionOf fields "features").getD _ _ >>= _) ↔ _
  cases sectionOf fields "features" with
  -- `features` must have `get`
  | obj features =>
    rw [Json.getD_obj, Returns.ok_bind]
    simp only [Json.obj.injEq, exists_eq_left']
    unfold sectionOf
    cases (Dict.get? features "network_watchdog").getD (.obj []) with
    -- every interface of the watchdog goes into a set
    | obj watchdog =>
      simp only [Json.obj.injEq, forall_eq']
      rw [Returns.bind_of_forall fun _ => Returns.pure _, returns_mapM]
    -- a watchdog of another kind raises nothing
    | _ => exact iff_of_true ⟨_, rfl⟩ (by simp)
  | _ => exact iff_of_false (Returns.not_error _) (by simp)

/-- The check returns its list of errors exactly on the readable configurations. -/
theorem validateConfig_returns :
    Returns (validateConfig host (.obj fields)) ↔ Readable host fields := by
  -- the checks are run one after the other
  have hparts : Returns (validateConfig host (.obj fields)) ↔
      ∃ mode, deploymentMode host (.obj fields) = .ok mode ∧
        Returns (gatewayErrors (.obj fields)) ∧ Returns (mqttErrors mode (.obj fields)) ∧
        Returns (connectorsErrors (.obj fields)) ∧
        Returns (placeholderErrors mode (.obj fields)) ∧ Returns (tlsErrors host (.obj fields)) ∧
        Returns (watchdogErrors (.obj fields)) := by
    constructor
    · rintro ⟨errors, h⟩
      simp only [validateConfig, Except.bind_eq_ok] at h
      obtain ⟨mode, hmode, g, hg, m, hm, c, hc, p, hp, t, ht, w, hw, _⟩ := h
      exact ⟨mode, hmode, ⟨g, hg⟩, ⟨m, hm⟩, ⟨c, hc⟩, ⟨p, hp⟩, ⟨t, ht⟩, ⟨w, hw⟩⟩
    · rintro ⟨mode, hmode, ⟨g, hg⟩, ⟨m, hm⟩, ⟨c, hc⟩, ⟨p, hp⟩, ⟨t, ht⟩, ⟨w, hw⟩⟩
      simp only [Returns, validateConfig, Except.bind_eq_ok]
      exact ⟨_, mode, hmode, g, hg, m, hm, c, hc, p, hp, t, ht, w, hw, rfl⟩
  -- connectors are checked without an exception
  have hconnectors : Returns (connectorsErrors (.obj fields)) := by
    unfold connectorsErrors
    rw [Json.has_obj, Returns.ok_bind]
    cases Dict.contains fields "connectors" with
    | false => exact Returns.pure _
    | true =>
      simp only [Bool.not_true, Bool.false_eq_true, if_false]
      rw [Json.get_obj, Returns.ok_bind]
      cases (Dict.get? fields "connectors").getD .null with
      | arr connectors => exact Returns.pure _
      | _ => exact Returns.pure _
  rw [hparts]
  constructor
  -- all checks returned
  · rintro ⟨mode, hmode, hgateway, hmqtt, _, hplaceholders, htls, hwatchdog⟩
    obtain ⟨mqtt, hsection, hreadable⟩ := returns_tlsErrors.mp htls
    refine ⟨returns_deploymentMode.mp ⟨mode, hmode⟩, returns_gatewayErrors.mp hgateway, ?_,
      ⟨mqtt, hsection, (returns_mqttErrors hsection).mp hmqtt, hreadable⟩,
      returns_watchdogErrors.mp hwatchdog⟩
    rintro ⟨mode', hmode', hrestricted⟩
    obtain rfl := Except.ok.inj (hmode.symm.trans hmode')
    exact (returns_placeholderErrors hsection).mp hplaceholders hrestricted
  -- and conversely
  · rintro ⟨hdeployment, hgateway, hrestricted, ⟨mqtt, hsection, hport, hreadable⟩, hfeatures⟩
    obtain ⟨mode, hmode⟩ := returns_deploymentMode.mpr hdeployment
    refine ⟨mode, hmode, returns_gatewayErrors.mpr hgateway,
      (returns_mqttErrors hsection).mpr hport, hconnectors,
      (returns_placeholderErrors hsection).mpr ?_,
      returns_tlsErrors.mpr ⟨mqtt, hsection, hreadable⟩, returns_watchdogErrors.mpr hfeatures⟩
    exact fun hmode' => hrestricted ⟨mode, hmode, hmode'⟩

/-! ## The start -/

/-- The start raises nothing, whatever becomes of the connectors, and one that cannot be loaded or
    opened is reported with an error. -/
def StartsAlways (config : Json) : Prop :=
  ∀ outcomes, ∃ results, (startConnectors outcomes config).results = .ok results ∧
    ∀ i text result, (outcomes i).error = some text → results[i]? = some result →
      result.success = false

/-- The `i`-th result is that of the `i`-th outcome. -/
theorem startEach_failed {outcomes : Nat → StartOutcome} {connectors : List Json} {i : Nat}
    {text : String} {result : StartResult} (hi : (outcomes i).error = some text)
    (h : (startEach outcomes connectors).2.1[i]? = some result) : result.success = false := by
  induction connectors generalizing outcomes i with
  | nil => simp [startEach] at h
  | cons connector connectors ih =>
    unfold startEach at h
    split at h
    -- the loop ended with an exception
    · simp at h
    -- the entry gave a result
    · next entry first hfirst =>
      cases i with
      | zero =>
        simp only [List.getElem?_cons_zero, Option.some.injEq] at h
        subst h
        exact startConnector_failed hi (congrArg Prod.snd hfirst)
      | succ i =>
        rw [List.getElem?_cons_succ] at h
        refine ih ?_ h
        exact hi

/-- A valid configuration starts always exactly when a release is pending or every connector type
    can be looked up. -/
theorem startsAlways_iff {config : Json} (h : validateConfig host config = .ok []) :
    StartsAlways config ↔ Startable config := by
  constructor
  · intro hstarts
    obtain ⟨results, hresults, _⟩ := hstarts fun _ => .opened
    exact (startConnectors_ok h fun _ => .opened).mp ⟨results, hresults⟩
  · intro hstartable outcomes
    obtain ⟨results, hresults⟩ := (startConnectors_ok h outcomes).mpr hstartable
    refine ⟨results, hresults, ?_⟩
    -- the result of an entry is that of its own outcome
    intro i text result hi hresult
    unfold startConnectors at hresults
    split at hresults
    · cases hresults
    · obtain rfl := Except.ok.inj hresults
      simp at hresult
    · cases hresults
    · dsimp only at hresults
      split at hresults
      · cases hresults
      · obtain rfl := Except.ok.inj hresults
        exact startEach_failed hi hresult

/-- The check returns its list exactly on the readable configurations, and a configuration it finds
    nothing wrong with starts always exactly when its connector types can be looked up. -/
theorem total_and_sufficient_iff (host : Host) (fields : Dict String Json) :
    ((∃ errors, validateConfig host (.obj fields) = .ok errors) ↔ Readable host fields) ∧
      (validateConfig host (.obj fields) = .ok [] →
        (StartsAlways (.obj fields) ↔ Startable (.obj fields))) :=
  ⟨validateConfig_returns, startsAlways_iff⟩

/-- The station's meter starts always. -/
theorem total_and_sufficient_station :
    Readable Station.host (Station.config "pilot" [Station.meter]) ∧
      StartsAlways (.obj (Station.config "pilot" [Station.meter])) := by
  obtain ⟨hreturns, hstarts⟩ :=
    total_and_sufficient_iff Station.host (Station.config "pilot" [Station.meter])
  refine ⟨hreturns.mp ⟨[], rfl⟩, (hstarts rfl).mpr (.inr ?_)⟩
  intro entries hentries connector hmem
  obtain rfl := Except.ok.inj hentries
  rw [List.mem_singleton.mp hmem]
  exact ⟨_, rfl⟩

/-- A deployment that is no object, and a mode that is no text, make the check raise; a connector
    whose type is a list passes it and makes the start raise. -/
theorem check_and_start_raise :
    validateConfig Station.host (.obj [("deployment", .arr [])]) = .error .attributeError ∧
    validateConfig Station.host (.obj [("deployment", .obj [("mode", .int 5)])]) =
      .error .attributeError ∧
    validateConfig Station.host
      (.obj (Station.config "local" [.obj RemoteConfigHandler.listed])) = .ok [] ∧
    (startConnectors (fun _ => .opened)
      (.obj (Station.config "local" [.obj RemoteConfigHandler.listed]))).results =
        .error .typeError :=
  ⟨rfl, rfl, rfl, rfl⟩

end NovenaGateway

end Novena

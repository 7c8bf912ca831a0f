import NovenaGateway.Spec.ValidConfig

/-!
# Remote updates are all or nothing

An update whose acknowledgement says `success` is in force on disk and in memory with every
connector started, and any other update leaves both as they were. A connector that does not
start is rolled back; what escapes is an exception of `_start_connectors` itself, and the only one
left after validation is a connector type that cannot be looked up in a dictionary.
`RemoteConfigHandler.all_or_nothing_iff` says that nothing else is needed.

Key results:
- `RemoteConfigHandler.all_or_nothing_iff`
- `RemoteConfigHandler.unhashable_type_stays`
-/

namespace Novena

/-- A release is pending when the mode says so. -/
theorem releasePending_obj {fields mqtt : List (String × Json)}
    (h : Dict.get? fields "mqtt" = some (.obj mqtt)) :
    releasePending (.obj fields) =
      .ok (((Dict.get? mqtt "mode").getD .null).eq (.str "release_pending")) := by
  simp only [releasePending, Json.getD_obj, Json.get_obj, h, Option.getD_some, Except.ok_bind]
  rfl

namespace NovenaGateway

/-! ## What a start does whatever the connectors answer -/

/-- The round of this entry raises nothing. -/
def Starts (connector : Json) : Prop := ∃ result, (startConnector .opened connector).2 = .ok result

/-- A type under which `DEFAULT_CONNECTORS` can be asked. -/
def HasKey (connector : Json) : Prop := ∃ key, (connector.field "type").hashKey = .ok key

/-- What a start may make of an entry. Nothing but its own `config` is written to, by the gateway,
    which fills in the name, and then by the connector. -/
inductive Prepared (outcome : StartOutcome) : Json → Json → Prop
  | same (connector : Json) : Prepared outcome connector connector
  | named {fields config : List (String × Json)} {type : Json}
      (htype : Dict.get? fields "type" = some type)
      (hconfig : Dict.get? fields "config" = some (.obj config)) :
      Prepared outcome (.obj fields) (.obj (Dict.set fields "config"
        (.obj (Dict.set config "name" ((Dict.get? fields "name").getD type)))))
  | written {fields config : List (String × Json)} {type : Json}
      (htype : Dict.get? fields "type" = some type)
      (hconfig : Dict.get? fields "config" = some (.obj config)) :
      Prepared outcome (.obj fields) (.obj (Dict.set fields "config"
        (.obj (outcome.config (Dict.set config "name" ((Dict.get? fields "name").getD type))))))

/-- The configuration is in force: it is in memory, with the entries of its connectors prepared. -/
inductive Held (outcomes : Nat → StartOutcome) : Json → Json → Prop
  | same (config : Json) : Held outcomes config config
  | prepared {fields : List (String × Json)} {connectors entries : List Json}
      (hconnectors : Dict.get? fields "connectors" = some (.arr connectors))
      (hlength : entries.length = connectors.length)
      (hentries : ∀ (i : Nat) (connector entry : Json), connectors[i]? = some connector →
        entries[i]? = some entry → Prepared (outcomes i) connector entry) :
      Held outcomes (.obj fields) (.obj (Dict.set fields "connectors" (.arr entries)))

/-- A connector is reported when its type can be a key. -/
theorem startResult_ok (outcome : StartOutcome) (name type : Json) :
    (∃ result, startResult outcome name type = .ok result) ↔ ∃ key, type.hashKey = .ok key := by
  unfold startResult
  cases type.hashKey with
  | error e => simp
  | ok key =>
    refine iff_of_true ?_ ⟨key, rfl⟩
    dsimp only
    split <;> exact ⟨_, rfl⟩

/-- Whether a round raises does not depend on the outcome. -/
theorem startConnector_ok (outcome : StartOutcome) (connector : Json) :
    (∃ result, (startConnector outcome connector).2 = .ok result) ↔ Starts connector := by
  unfold Starts startConnector
  cases connector with
  | obj fields =>
    dsimp only
    cases Dict.get? fields "type" with
    | none => exact Iff.rfl
    | some type =>
      dsimp only
      have hresult := (startResult_ok outcome ((Dict.get? fields "name").getD type) type).trans
        (startResult_ok .opened ((Dict.get? fields "name").getD type) type).symm
      rcases Dict.get? fields "config" with _ | (_ | _ | _ | _ | _ | _ | config)
      all_goals first | exact hresult | exact Iff.rfl
  | _ => exact Iff.rfl

/-- A round leaves its entry prepared, also when it raises. -/
theorem startConnector_prepared (outcome : StartOutcome) (connector : Json) :
    Prepared outcome connector (startConnector outcome connector).1 := by
  unfold startConnector
  -- an entry that is no object, or has no type, is left as it is
  split
  · next fields =>
    split
    · exact .same _
    · next type htype =>
      dsimp only
      split
      -- an entry without `config`
      · exact .same _
      -- with an object there
      · next config hconfig =>
        -- the connector gets the dictionary only if its type is known
        unfold startedConfig
        split
        · exact .named htype hconfig
        · split
          · exact .written htype hconfig
          · exact .named htype hconfig
      -- or with something else, which raises
      · exact .same _
  · exact .same _

/-- A valid entry raises only when its type has no key. -/
theorem starts_iff {index : Nat} {connector : Json} (h : connectorErrors index connector = []) :
    Starts connector ↔ HasKey connector := by
  obtain ⟨fields, type, rfl, htype, hconfig⟩ := connector_of_valid h
  have hresult : (startConnector .opened (.obj fields)).2 =
      startResult .opened ((Dict.get? fields "name").getD type) type := by
    rcases hconfig with hc | ⟨config, hc⟩ <;> simp only [startConnector, htype, hc]
  have hkey : HasKey (.obj fields) ↔ ∃ key, type.hashKey = .ok key := by
    simp only [HasKey, Json.field_obj, htype, Option.getD_some]
  rw [Starts, hresult, hkey, startResult_ok]

/-- The loop comes to its end exactly when no entry raises, whatever the outcomes. -/
theorem startEach_returns (outcomes : Nat → StartOutcome) (connectors : List Json) :
    (startEach outcomes connectors).2.2 = none ↔ ∀ connector ∈ connectors, Starts connector := by
  induction connectors generalizing outcomes with
  | nil => simp [startEach]
  | cons connector connectors ih =>
    have hfirst := startConnector_ok (outcomes 0) connector
    rw [List.forall_mem_cons, ← hfirst, ← ih fun i => outcomes (i + 1)]
    rcases hs : startConnector (outcomes 0) connector with ⟨entry, _ | result⟩ <;>
      simp [startEach, hs]

/-- And it prepares the entries one by one. An exception leaves the ones behind it as they were. -/
theorem startEach_prepared (outcomes : Nat → StartOutcome) (connectors : List Json) :
    (startEach outcomes connectors).1.length = connectors.length ∧
      ∀ (i : Nat) (connector entry : Json), connectors[i]? = some connector →
        (startEach outcomes connectors).1[i]? = some entry →
          Prepared (outcomes i) connector entry := by
  induction connectors generalizing outcomes with
  | nil => simp [startEach]
  -- the first entry is prepared, and then the rest under the outcomes that follow
  | cons first connectors ih =>
    have hfirst := startConnector_prepared (outcomes 0) first
    obtain ⟨hlength, hrest⟩ := ih fun i => outcomes (i + 1)
    unfold startEach
    -- an exception ends the loop and leaves the rest untouched
    rcases hs : startConnector (outcomes 0) first with ⟨prepared, _ | result⟩
    · rw [hs] at hfirst
      refine ⟨rfl, fun i connector entry hconnector hentry => ?_⟩
      cases i with
      | zero => cases hconnector; cases hentry; exact hfirst
      | succ i =>
        obtain rfl := Option.some.inj (hconnector.symm.trans hentry)
        exact .same _
    -- otherwise the loop goes on
    · rw [hs] at hfirst
      refine ⟨congrArg (· + 1) hlength, fun i connector entry hconnector hentry => ?_⟩
      cases i with
      | zero => cases hconnector; cases hentry; exact hfirst
      | succ i => exact hrest i connector entry hconnector hentry

/-- A configuration whose start raises nothing. -/
def Startable (config : Json) : Prop :=
  releasePending config = .ok true ∨
    ∀ entries, connectorEntries config = .ok entries → ∀ connector ∈ entries, HasKey connector

/-- The connectors of a list are its entries. -/
theorem connectorEntries_list {fields : List (String × Json)} {connectors : List Json}
    (h : Dict.get? fields "connectors" = some (.arr connectors)) :
    connectorEntries (.obj fields) = .ok connectors := by
  simp [connectorEntries, h, bind, Except.bind, pure, Except.pure]

/-- What a start leaves in memory is the configuration it was given, with its entries prepared. -/
theorem startConnectors_held (outcomes : Nat → StartOutcome) (config : Json) :
    Held outcomes config (startConnectors outcomes config).config := by
  unfold startConnectors
  -- a pending release and an unreadable list start nothing
  split
  · exact .same _
  · exact .same _
  · exact .same _
  · next entries _ hentries =>
    dsimp only
    split
    -- the list is that of the configuration
    · next fields =>
      split
      · next connectors hlist =>
        obtain rfl := Except.ok.inj ((connectorEntries_list hlist).symm.trans hentries)
        obtain ⟨hlength, hprepared⟩ := startEach_prepared outcomes connectors
        exact .prepared hlist hlength hprepared
      · exact .same _
    · exact .same _

/-- A start writes into the connectors, which is not the mode. -/
theorem Held.releasePending {outcomes : Nat → StartOutcome} {config memory : Json}
    (h : Held outcomes config memory) :
    Novena.releasePending memory = Novena.releasePending config := by
  cases h with
  | same => rfl
  | prepared hconnectors hlength hentries =>
    simp only [Novena.releasePending, Json.getD_obj,
      Dict.get?_set_ne _ _ (show "mqtt" ≠ "connectors" by decide)]

/-- The start of a valid configuration returns exactly when every type has a key. -/
theorem startConnectors_ok {host : Host} {config : Json}
    (h : validateConfig host config = .ok []) (outcomes : Nat → StartOutcome) :
    (∃ results, (startConnectors outcomes config).results = .ok results) ↔ Startable config := by
  -- a valid configuration has an object for `mqtt` and a list of connector objects
  obtain ⟨fields, mqtt, connectors, rfl, hmqtt, hlist, hall⟩ := shape_of_valid h
  have hpending := releasePending_obj hmqtt
  have hentries := connectorEntries_list hlist
  cases hmode : ((Dict.get? mqtt "mode").getD .null).eq (.str "release_pending") with
  -- a pending release starts nothing, which counts as returning
  | true =>
    rw [hmode] at hpending
    exact iff_of_true ⟨[], by simp only [startConnectors, hpending]⟩ (.inl hpending)
  -- otherwise every connector must start
  | false =>
    rw [hmode] at hpending
    have hstartable : Startable (.obj fields) ↔ ∀ connector ∈ connectors, Starts connector := by
      simp only [Startable, hpending, hentries, Except.ok.injEq, reduceCtorEq, false_or,
        forall_eq']
      exact forall₂_congr fun connector hmem => (starts_iff (hall connector hmem).choose_spec).symm
    rw [hstartable, ← startEach_returns outcomes connectors]
    simp only [startConnectors, hpending, hentries]
    cases (startEach outcomes connectors).2.2 <;> simp

end NovenaGateway

namespace RemoteConfigHandler

open NovenaGateway

variable {host : Host}

/-! ## The configuration of a message -/

/-- A validated configuration is the one that was given, and valid. -/
theorem validated_ok {context : String} {config updated : Json}
    (h : validated host context config = .ok updated) :
    updated = config ∧ validateConfig host config = .ok [] := by
  simp only [validated, Except.bind_eq_ok] at h
  obtain ⟨errors, herrors, h⟩ := h
  split at h
  · next hempty =>
    simp only [Except.pure_eq_ok] at h
    exact ⟨h.symm, by rw [herrors, List.isEmpty_iff.mp hempty]⟩
  · simp at h

/-- Whatever the action, the configuration it applies is valid. -/
theorem updatedConfig_valid {current action updated : Json} {config : Dict String Json}
    (h : updatedConfig host current action config = .ok updated) :
    validateConfig host updated = .ok [] := by
  -- each action validates what it is about to return
  have hvalidated : ∃ context config', validated host context config' = .ok updated := by
    unfold updatedConfig at h
    split at h
    -- the full update
    · exact ⟨_, _, h⟩
    split at h
    -- the update of connectors
    · simp only [applyConnectorUpdate, Except.bind_eq_ok] at h
      obtain ⟨_, _, _, _, h⟩ := h
      exact ⟨_, _, h⟩
    split at h
    -- `connector_add`
    · simp only [applyConnectorAdd] at h
      split at h
      · simp at h
      simp only [Except.bind_eq_ok] at h
      obtain ⟨_, _, _, _, h⟩ := h
      split at h
      · simp at h
      simp only [Except.bind_eq_ok] at h
      obtain ⟨v, _, h⟩ := h
      split at h
      · simp only [Except.bind_eq_ok] at h
        obtain ⟨_, _, h⟩ := h
        exact ⟨_, _, h⟩
      · simp at h
    split at h
    -- `connector_remove`
    · simp only [applyConnectorRemove] at h
      split at h
      · simp at h
      simp only [Except.bind_eq_ok] at h
      obtain ⟨_, _, _, _, h⟩ := h
      split at h
      · simp at h
      · simp only [Except.bind_eq_ok] at h
        obtain ⟨_, _, h⟩ := h
        exact ⟨_, _, h⟩
    -- any other action is refused
    · simp at h
  obtain ⟨context, config', h⟩ := hvalidated
  obtain ⟨rfl, hvalid⟩ := validated_ok h
  exact hvalid

/-- An empty configuration is never applied. -/
theorem updatedConfig_nil (current action updated : Json) :
    updatedConfig host current action [] ≠ .ok updated := by
  intro h
  unfold updatedConfig at h
  split at h
  -- the empty object has no `mqtt`
  · obtain ⟨rfl, hvalid⟩ := validated_ok h
    obtain ⟨fields, mqtt, connectors, hobj, hmqtt, _⟩ := shape_of_valid hvalid
    cases hobj
    cases hmqtt
  split at h
  -- and the other actions need a truthy configuration
  · simp [applyConnectorUpdate, updatedConnectors, Json.truthy] at h
  split at h
  · simp [applyConnectorAdd, Json.truthy] at h
  split at h
  · simp [applyConnectorRemove, Json.truthy] at h
  · simp at h

/-- A verified envelope carries a schema version. -/
theorem verify_schema {cfg : GuardConfig} {journal : ConfigReplayJournal} {clock : Clock}
    {wire : Dict String Json} {verdict : ConfigEnvelopeGuard.Verdict}
    (h : ConfigEnvelopeGuard.verify cfg journal clock wire = .ok verdict) :
    GovernedCommandGuard.field wire "schema_version" ≠ .null := by
  simp only [ConfigEnvelopeGuard.verify, ConfigEnvelopeGuard.verifyBody, Except.bind_eq_ok,
    requireSetup_eq_ok] at h
  obtain ⟨_, _, _, _, _, ⟨_, hversion, _⟩, _⟩ := h
  intro hnull
  rw [hnull] at hversion
  cases hversion

/-! ## All or nothing -/

/-- `payload.get("action", "full_update")`. -/
def requestedAction (wire : Dict String Json) : Json :=
  (Dict.get? wire "action").getD (.str "full_update")

/-- The last acknowledgement says `success`, with these connector results. -/
def Succeeded (acks : List ConfigAck) (results : List StartResult) : Prop :=
  ∃ ack result, acks.getLast? = some ack ∧ ack.outcome = .finished result ∧
    result.status = .success ∧ result.connectorResults = results

/-- What a handled message leaves: the updated configuration in the file and in force with every
    connector started when it was acknowledged as a success, and otherwise the configuration that
    was active: it was not touched, or the one in the file is in force again. -/
structure AllOrNothing (host : Host) (g : NovenaGateway) (wire config : Dict String Json)
    (outcomes rollbackOutcomes : Nat → StartOutcome) (handled : NovenaGateway × List ConfigAck) :
    Prop where
  all : ∀ results, Succeeded handled.2 results →
    (∀ result ∈ results, result.success = true) ∧
      ∃ updated, updatedConfig host g.configFile (requestedAction wire) config = .ok updated ∧
        handled.1.configFile = updated ∧ Held outcomes updated handled.1.config
  nothing : (¬∃ results, Succeeded handled.2 results) →
    handled.1.configFile = g.configFile ∧
      (handled.1.config = g.config ∨ Held outcomes g.configFile handled.1.config ∨
        Held rollbackOutcomes g.configFile handled.1.config)

/-- The message leaves the updated configuration after a failure only if its start raises. -/
theorem applyConfigWithRollback_cases (g : NovenaGateway) (updated : Json)
    (outcomes rollbackOutcomes : Nat → StartOutcome) :
    let applied := applyConfigWithRollback g updated outcomes rollbackOutcomes
    (∃ e, (startConnectors outcomes updated).results = .error e ∧ applied.2 = .error e ∧
      applied.1.configFile = updated ∧ Held outcomes updated applied.1.config) ∨
    (∃ results, applied.2 = .ok ⟨.success, none, results, []⟩ ∧
      (startConnectors outcomes updated).results = .ok results ∧
      results.all StartResult.success = true ∧ applied.1.configFile = updated ∧
      Held outcomes updated applied.1.config) ∨
    ((∃ results, (startConnectors outcomes updated).results = .ok results) ∧
      (∀ result, applied.2 = .ok result → result.status = .rolledBack) ∧
      applied.1.configFile = g.configFile ∧
      Held rollbackOutcomes g.configFile applied.1.config) := by
  have hupdated := startConnectors_held outcomes updated
  have hback := startConnectors_held rollbackOutcomes g.configFile
  simp only [applyConfigWithRollback, switchTo]
  cases hstart : (startConnectors outcomes updated).results with
  -- a connector raised; nothing rolls back
  | error e => exact .inl ⟨e, rfl, rfl, rfl, hupdated⟩
  | ok results =>
    dsimp only
    split
    -- every connector started
    · next hall => exact .inr (.inl ⟨results, rfl, rfl, hall, rfl, hupdated⟩)
    -- one failed, and the old file is written back whatever its own start does
    · refine .inr (.inr ⟨⟨results, rfl⟩, ?_⟩)
      cases (startConnectors rollbackOutcomes g.configFile).results with
      | error e => exact ⟨(fun result h => by cases h), rfl, hback⟩
      | ok rollback => exact ⟨fun result h => by cases h; rfl, rfl, hback⟩

/-- A message that changes nothing and does not end in a success is fine. -/
theorem AllOrNothing.of_unchanged {g : NovenaGateway} {wire config : Dict String Json}
    {outcomes rollbackOutcomes : Nat → StartOutcome} {acks : List ConfigAck}
    (h : ∀ results, ¬Succeeded acks results) :
    AllOrNothing host g wire config outcomes rollbackOutcomes (g, acks) :=
  ⟨fun results hs => absurd hs (h results), fun _ => ⟨rfl, .inl rfl⟩⟩

/-- A failure is not acknowledged as a success. -/
theorem not_succeeded_failed (wire : Dict String Json) (acks : List ConfigAck) (e : Exn)
    (results : List StartResult) :
    ¬Succeeded (acks ++ [ackOf wire (.failed e) false]) results := by
  rintro ⟨ack, result, hlast, houtcome, _⟩
  rw [List.getLast?_concat, Option.some.injEq] at hlast
  subst hlast
  cases houtcome

/-- What is acknowledged as a success, when an application ended without an exception. -/
theorem succeeded_finished (wire : Dict String Json) (acks : List ConfigAck)
    (result : UpdateResult) (results : List StartResult) :
    Succeeded (acks ++ [ackOf wire (.finished result) false]) results ↔
      result.status = .success ∧ result.connectorResults = results := by
  simp only [Succeeded, List.getLast?_concat, Option.some.injEq]
  constructor
  · rintro ⟨ack, result', rfl, houtcome, h⟩
    cases houtcome
    exact h
  · exact fun h => ⟨_, result, rfl, rfl, h⟩

/-- A verified update of a gateway that is not being released reaches `handleConfig`. -/
theorem onConfigUpdate_eq {cfg : GuardConfig} {g : NovenaGateway} {clock : Clock}
    {wire config : Dict String Json} {idempotencyKey : String} {revision : Int}
    (hactive : releasePending g.config = .ok false)
    (haccepted : ConfigEnvelopeGuard.verify cfg g.configJournal clock wire =
      .ok (.apply config idempotencyKey revision)) (outcomes rollbackOutcomes : Nat → StartOutcome) :
    onConfigUpdate host cfg g clock (.obj wire) outcomes rollbackOutcomes =
      handleConfig host g wire config idempotencyKey revision outcomes rollbackOutcomes := by
  have hschema := verify_schema haccepted
  unfold onConfigUpdate
  rw [hactive]
  dsimp only
  cases hs : GovernedCommandGuard.field wire "schema_version" with
  | null => exact absurd hs hschema
  | _ => simp only [haccepted]

/-- Once a valid configuration was prepared, everything hangs on its start. -/
theorem handleConfig_iff {g : NovenaGateway} {wire config : Dict String Json} {updated : Json}
    (hconfig : config.isEmpty = false)
    (hupdated : updatedConfig host g.configFile (requestedAction wire) config = .ok updated)
    (idempotencyKey : String) (revision : Int) (outcomes rollbackOutcomes : Nat → StartOutcome) :
    AllOrNothing host g wire config outcomes rollbackOutcomes
        (handleConfig host g wire config idempotencyKey revision outcomes rollbackOutcomes) ↔
      Startable updated ∨ updated = g.configFile := by
  have hstart := startConnectors_ok (updatedConfig_valid hupdated) outcomes
  have hcases := applyConfigWithRollback_cases g updated outcomes rollbackOutcomes
  have hprepared : updatedConfig host g.configFile ((Dict.get? wire "action").getD
    (.str "full_update")) config = .ok updated := hupdated
  unfold handleConfig
  rw [if_neg (by simp [hconfig])]
  simp only [hprepared]
  generalize applyConfigWithRollback g updated outcomes rollbackOutcomes = applied at hcases ⊢
  obtain ⟨g', result⟩ := applied
  dsimp only at hcases
  obtain ⟨e, hraise, rfl, hfile, hmemory⟩ | ⟨results, rfl, hresults, hall, hfile, hmemory⟩ |
    ⟨hresults, hstatus, hfile, hmemory⟩ := hcases
  -- three cases: raised, applied, rolled back
  · -- the exception leaves the new configuration behind
    have hnot : ¬Startable updated := by simp [← hstart, hraise]
    rw [or_iff_right hnot]
    constructor
    · intro h
      refine hfile.symm.trans (h.nothing ?_).1
      rintro ⟨results, hs⟩
      exact not_succeeded_failed wire [_] e results hs
    · rintro rfl
      exact ⟨fun results hs => absurd hs (not_succeeded_failed wire [_] e results),
        fun _ => ⟨hfile, .inr (.inl hmemory)⟩⟩
  -- applied: the file and the memory hold the update
  · refine iff_of_true ⟨?_, ?_⟩ (.inl (hstart.mp ⟨results, hresults⟩))
    · intro results' hs
      obtain ⟨_, rfl⟩ := (succeeded_finished wire [_] _ _).mp hs
      exact ⟨List.all_eq_true.mp hall, updated, hupdated, hfile, hmemory⟩
    · exact fun hnone => absurd ⟨results, (succeeded_finished wire [_] _ _).mpr ⟨rfl, rfl⟩⟩ hnone
  -- rolled back: both hold the configuration before
  · refine iff_of_true ?_ (.inl (hstart.mp hresults))
    cases result with
    | error e =>
      exact ⟨fun results hs => absurd hs (not_succeeded_failed wire [_] e results),
        fun _ => ⟨hfile, .inr (.inr hmemory)⟩⟩
    | ok result =>
      refine ⟨fun results hs => ?_, fun _ => ⟨hfile, .inr (.inr hmemory)⟩⟩
      obtain ⟨hsuccess, _⟩ := (succeeded_finished wire [_] _ _).mp hs
      rw [hstatus result rfl] at hsuccess
      cases hsuccess

/-- An accepted update is all or nothing exactly when the start of the configuration it applies
    raises nothing, or that configuration is the one in the file already. -/
theorem all_or_nothing_iff {cfg : GuardConfig} {g : NovenaGateway} {clock : Clock}
    {wire config : Dict String Json} {idempotencyKey : String} {revision : Int}
    (haccepted : ConfigEnvelopeGuard.verify cfg g.configJournal clock wire =
      .ok (.apply config idempotencyKey revision)) (outcomes rollbackOutcomes : Nat → StartOutcome) :
    AllOrNothing host g wire config outcomes rollbackOutcomes
        (onConfigUpdate host cfg g clock (.obj wire) outcomes rollbackOutcomes) ↔
      (releasePending g.config = .ok false → ∀ updated,
        updatedConfig host g.configFile (requestedAction wire) config = .ok updated →
          Startable updated ∨ updated = g.configFile) := by
  -- the gateway is not pending
  by_cases hactive : releasePending g.config = .ok false
  · rw [onConfigUpdate_eq hactive haccepted]
    simp only [hactive, true_implies]
    cases hupdated : updatedConfig host g.configFile (requestedAction wire) config with
    -- the update was refused before anything was written
    | error e =>
      refine iff_of_true ?_ (fun _ h => by cases h)
      have hprepared : updatedConfig host g.configFile ((Dict.get? wire "action").getD
        (.str "full_update")) config = .error e := hupdated
      unfold handleConfig
      split
      · exact .of_unchanged (not_succeeded_failed wire [] _)
      · simp only [hprepared]
        exact .of_unchanged (not_succeeded_failed wire [_] e)
    -- the update is prepared, so its configuration is not empty
    | ok updated =>
      simp only [Except.ok.injEq, forall_eq']
      refine handleConfig_iff ?_ hupdated _ _ _ _
      cases config with
      | nil => exact absurd hupdated (updatedConfig_nil _ _ _)
      | cons => rfl
  · -- the message is ignored
    have hignored : onConfigUpdate host cfg g clock (.obj wire) outcomes rollbackOutcomes =
        (g, []) := by
      unfold onConfigUpdate
      rcases hp : releasePending g.config with e | (_ | _)
      · rfl
      · exact absurd hp hactive
      · rfl
    rw [hignored]
    refine iff_of_true (.of_unchanged ?_) fun h => absurd h hactive
    rintro results ⟨_, _, hlast, _⟩
    cases hlast

/-! ## A station's update -/

section Station

/-- A guard whose key has signed everything. -/
def stationGuard : GuardConfig where
  serialNumber := "GW-001"
  trustedClock := true
  maxClockOffset := .nan
  keyIds := ["key-1"]
  verifies := fun _ _ _ => true
  fromisoformat := fun _ => .ok ⟨1767225630000000, true⟩
  checksum := fun _ => "5f70bf18"

def stationClock : Clock := ⟨true, 1767225600000000⟩

/-- The station with one connector, as it is after its first start. -/
def station : NovenaGateway where
  configFile := .obj (Station.config "local" [Station.meter])
  config := .obj (Station.config "local" [Station.meter])
  connectors := [.str "meter"]
  startup := .done
  publisher :=
    { serialNumber := .str "GW-001", username := .str "GW-001", password := .str "secret-1",
      bootstrap := .obj [], claimId := .str "claim-1", trustedReleaseKeys := .obj [],
      releaseRequestId := .null, releaseInProgress := false,
      operationalCredentialsRetired := false, bootstrapMode := false, connected := true,
      consecutiveFailures := 0, queue := [], storage := [] }
  buffer := .resolve abspath sqliteDataFilePath
  buffers := fun _ => []
  configJournal := .init none
  governance := { policy := .null, policyFile := none, journal := .init .missing }

/-- The envelope of an update. -/
def stationUpdate (action : String) (config : Dict String Json) : Dict String Json :=
  [("schema_version", .int 1), ("request_id", .str "request-1"),
   ("idempotency_key", .str "idempotency-1"),
   ("target", .obj [("gateway_serial", .str "GW-001")]), ("revision", .int 1),
   ("checksum", .str "5f70bf18"), ("issued_at", .str "2026-01-01T00:00:00Z"),
   ("expires_at", .str "2026-01-01T00:00:30Z"), ("action", .str action),
   ("config", .obj config), ("signing_key_id", .str "key-1"), ("signature", .str "c2lnbmVk")]

/-- The station's connector without a name, and one whose type is a list. -/
def nameless : Json :=
  .obj [("type", .str "modbus"),
    ("config", .obj [("master", .obj [("slaves", .arr [])]), ("slave", .obj [])])]

def listed : Dict String Json := [("name", .str "pump"), ("type", .arr [.str "modbus"])]

/-- The nameless connector does not open and the station goes back. -/
theorem all_or_nothing_iff_station :
    AllOrNothing Station.host station
      (stationUpdate "full_update" (Station.config "local" [nameless]))
      (Station.config "local" [nameless])
      (fun _ => .failed "can't start new thread") (fun _ => .opened)
      (onConfigUpdate Station.host stationGuard station stationClock
        (.obj (stationUpdate "full_update" (Station.config "local" [nameless])))
        (fun _ => .failed "can't start new thread") fun _ => .opened) := by
  have haccepted : ConfigEnvelopeGuard.verify stationGuard station.configJournal stationClock
      (stationUpdate "full_update" (Station.config "local" [nameless])) =
      .ok (.apply (Station.config "local" [nameless]) "idempotency-1" 1) := rfl
  -- the witness: a nameless connector is named by its type and starts
  refine (all_or_nothing_iff haccepted _ _).mpr fun _ updated hupdated => ?_
  obtain ⟨rfl, _⟩ := validated_ok hupdated
  refine .inl (.inr fun entries hentries connector hmem => ?_)
  cases hentries
  obtain rfl := List.mem_singleton.mp hmem
  exact ⟨_, rfl⟩

/-- Adding the listed connector ends in a failure that leaves it in the file. -/
theorem unhashable_type_stays :
    ¬AllOrNothing Station.host station (stationUpdate "connector_add" listed) listed
      (fun _ => .opened) (fun _ => .opened)
      (onConfigUpdate Station.host stationGuard station stationClock
        (.obj (stationUpdate "connector_add" listed)) (fun _ => .opened) fun _ => .opened) := by
  intro h
  -- the acceptance goes out first, and the failure follows
  have hresult : onConfigUpdate Station.host stationGuard station stationClock
      (.obj (stationUpdate "connector_add" listed)) (fun _ => .opened) (fun _ => .opened) =
      ({ station with
          configFile := .obj (Station.config "local" [Station.meter, .obj listed])
          config := .obj (Station.config "local" [Station.meter, .obj listed]) },
        [ackOf (stationUpdate "connector_add" listed) .accepted false,
         ackOf (stationUpdate "connector_add" listed) (.failed .typeError) false]) := by
    rfl
  rw [hresult] at h
  have hnone : ¬ ∃ results, Succeeded [ackOf (stationUpdate "connector_add" listed) .accepted false,
      ackOf (stationUpdate "connector_add" listed) (.failed .typeError) false] results := by
    rintro ⟨results, hs⟩
    exact not_succeeded_failed _ [_] _ _ hs
  obtain ⟨hfile, _⟩ := h.nothing hnone
  exact absurd hfile (by simp [station, Station.config])

end Station

end RemoteConfigHandler

end Novena

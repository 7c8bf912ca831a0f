import NovenaGateway.Native.Discovery
import NovenaGateway.Spec.JsonText

/-!
# What a discovery scan leaves alone

Discovery looks for unknown equipment, so it must keep away from what the connectors poll. This
file follows the targets of a scan from the request, the attached networks and the configured
`tcp_hosts` to the connections that are made, and compares them with what the Modbus slaves of the
configuration use.

The request's targets and the serial ports are filtered by `_configured_connections`. Two things
escape that filter: `tcp_hosts`, which `_scan_tcp_network` falls back to when the filter has left
nothing, and a connector in the older form, whose devices `_configured_connections` does not see.
-/

namespace Novena

/-! ## What the filter knows -/

/-- An item that is found is the field. -/
theorem Json.item_field {v x : Json} {key : String} (h : v.item key = .ok x) : v.field key = x := by
  cases v with
  | obj fields =>
    simp only [Json.item] at h
    split at h
    · next y hy =>
      rw [← Except.ok.inj h]
      simp [hy]
    · cases h
  | _ => cases h

/-- `v or []` visits what `v` does, as long as `v` can be visited. -/
theorem Json.orElse_elements {v : Json} {xs : List Json} (h : v.elements = .ok xs) :
    (v.orElse (.arr [])).elements = .ok xs := by
  rw [orElse]
  split
  · exact h
  · next hv =>
    -- a falsy value that can be visited is empty
    have hxs : xs = [] := by
      cases v <;> simp_all [truthy, elements]
    rw [hxs]
    rfl

/-- A value read with a default is the field, when the field is there. -/
theorem Json.getD_eq_field {v x d : Json} {key : String} (h : v.getD key d = .ok x)
    (hne : v.field key ≠ .null) : x = v.field key := by
  cases v with
  | obj fields =>
    simp only [getD_obj, Except.ok.injEq, field_obj] at h hne ⊢
    cases hk : Dict.get? fields key with
    | none => exact absurd (by rw [hk]; rfl) hne
    | some y => rw [← h, hk]; rfl
  | _ => cases h

/-- A text with an empty one as default is itself. -/
theorem Json.orElse_empty_str (s : String) : (Json.str s).orElse (.str "") = .str s := by
  by_cases hs : s = ""
  · simp [orElse, truthy, hs]
  · simp [orElse, truthy, hs]

namespace DiscoveryService

/-- The filter reads a slave the way the connector does. -/
theorem slaveConnection_connection {slave : Json} {found : Option Connection} {c : Connection}
    (h : slaveConnection slave = .ok found) (hc : Slave.connection slave = some c) :
    found = some c := by
  simp only [slaveConnection, Except.bind_eq_ok] at h
  obtain ⟨type, htype, host, hhost, h⟩ := h
  simp only [Slave.connection, Json.get_eq_field htype, Json.get_eq_field hhost] at hc
  cases type with
  -- the type is a text, since `lower` did not raise
  | str type =>
    simp only [Json.orElse_empty_str, Json.toStr] at h hc
    by_cases htcp : lower type = "tcp" ∧ host.truthy
    · simp only [if_pos htcp, Except.bind_eq_ok, Except.pure_eq_ok] at h hc
      obtain ⟨port, hport, n, hn, rfl⟩ := h
      -- a slave the connector can use has its port written out
      have hne : slave.field "port" ≠ .null := by
        intro hnull
        rw [hnull] at hc
        cases hc
      rw [← Json.getD_eq_field hport hne, hn] at hc
      exact hc
    -- any other type is read as a serial one
    · simp only [if_neg htcp, Except.bind_eq_ok, Except.pure_eq_ok] at h hc
      obtain ⟨port, hport, rfl⟩ := h
      rw [Json.get_eq_field hport] at hc
      split at hc
      · next hser => rw [if_pos hser.2]; exact hc
      · cases hc
  | _ => cases hc

/-- Of a connector in the present form the filter knows every slave. -/
theorem connectorSlaves_slaves {connector : Json} {found slaves : List Json}
    (h : connectorSlaves connector = .ok found)
    (hs : BackwardCompatibilityAdapter.slaves (connector.field "config") = .ok slaves)
    (hserver : ((connector.field "config").field "server").truthy = false) :
    found = slaves := by
  simp only [connectorSlaves, Except.bind_eq_ok] at h
  obtain ⟨config, hconfig, master, hmaster, listed, hlisted, helems⟩ := h
  have hmaster := Json.orElse_get hmaster
  have hlisted := Json.orElse_get hlisted
  rw [← Json.get_eq_field hconfig] at hmaster
  simp only [BackwardCompatibilityAdapter.slaves, Except.bind_eq_ok] at hs
  obtain ⟨server, hget, hs⟩ := hs
  rw [← Json.get_eq_field hget, hserver] at hs
  simp only [Bool.not_false, if_true, Except.bind_eq_ok] at hs
  obtain ⟨master', hm', list, hlist, hs⟩ := hs
  rw [← Json.item_field hm', hmaster] at hlist
  rw [← hlisted, Json.item_field hlist, Json.orElse_elements hs] at helems
  exact (Except.ok.inj helems).symm

end DiscoveryService

/-- A connector whose configuration has the older form, with its devices under `server`. -/
def hasOlderForm (connector : Json) : Bool := ((connector.field "config").field "server").truthy

/-- What the devices of the connectors in the older form are configured to use. -/
def olderConnections (config : Json) : List Connection :=
  ((modbusConnectors config).filter hasOlderForm).flatMap connectorConnections

namespace DiscoveryService

/-- What is polled is known to the filter, unless a connector in the older form polls it. -/
theorem polled_listed {config : Json} {listed : List Connection}
    (h : configuredConnections config = .ok listed) {c : Connection} (hc : c ∈ polled config) :
    c ∈ listed ∨ c ∈ olderConnections config := by
  obtain ⟨connector, hconnector, hc⟩ := List.mem_flatMap.mp hc
  -- what the older form hides from the filter is the other case
  by_cases holder : hasOlderForm connector
  · right
    exact List.mem_flatMap.mpr ⟨connector, List.mem_filter.mpr ⟨hconnector, holder⟩, hc⟩
  left
  -- the connector is among those the filter goes through
  simp only [configuredConnections, Except.bind_eq_ok, Except.pure_eq_ok] at h
  obtain ⟨connectors, hget, elements, helements, found, hfound, rfl⟩ := h
  simp only [modbusConnectors, Json.orElse_get hget] at hconnector
  cases connectors with
  | arr xs =>
    have hxs : xs = elements := Except.ok.inj ((Json.orElse_elements rfl).symm.trans helements)
    have hmem : connector ∈ elements := hxs ▸ (List.mem_filter.mp hconnector).1
    obtain ⟨ys, hys, hrun⟩ := Except.mem_of_mapM_eq_ok hfound hmem
    obtain ⟨slaves, hslaves, hrun⟩ := Except.bind_eq_ok.mp hrun
    -- and so is the slave
    simp only [connectorConnections] at hc
    split at hc
    · next polled hpolled =>
      obtain ⟨slave, hslave, hc⟩ := List.mem_filterMap.mp hc
      have hsame := connectorSlaves_slaves hslaves hpolled (Bool.eq_false_iff.mpr holder)
      obtain ⟨y, hy, hread⟩ := Except.mem_of_mapM_eq_ok hrun (hsame ▸ hslave)
      rw [slaveConnection_connection hread hc] at hy
      exact List.reduceOption_mem_iff.mpr (List.mem_flatten.mpr ⟨ys, hys, hy⟩)
    · exact absurd hc List.not_mem_nil
  | _ => exact absurd hconnector List.not_mem_nil

/-! ## What the serial loop opens and reports -/

/-- The rates are tried on the port. -/
theorem mem_scanRates {chances : Chances} {port : String} {i : Nat} {rates : List Json}
    {c : Connection} (h : c ∈ (scanRates chances port i rates).1) : c = .serial port := by
  induction rates generalizing i with
  | nil => exact absurd h List.not_mem_nil
  | cons rate rates ih =>
    simp only [scanRates] at h
    split at h
    · exact absurd h List.not_mem_nil
    · rcases List.mem_cons.mp h with rfl | h
      · rfl
      · exact ih h

/-- And nothing else is opened. -/
theorem mem_scanRtuInterface {service : DiscoveryService} {chances : Chances} {port : String}
    {c : Connection} (h : c ∈ (scanRtuInterface service chances port).1) : c = .serial port := by
  simp only [scanRtuInterface] at h
  split at h
  · exact absurd h List.not_mem_nil
  · split at h
    · exact absurd h List.not_mem_nil
    · exact absurd h List.not_mem_nil
    · exact mem_scanRates h

/-- The entry a configured serial port gets in `skipped`. -/
def skippedPort (port : String) : Skipped := ⟨port, "configured_or_busy"⟩

/-- From `s` to `s'` the scan went through some of `ports`: it opened only ports that are not
    configured, and made an entry only for ports that are. -/
structure SerialStep (configured : List Connection) (ports : List String) (s s' : Sweep) :
    Prop where
  touched : ∀ c ∈ s'.touched, c ∈ s.touched ∨
    ∃ port ∈ ports, c = .serial port ∧ .serial port ∉ configured
  skipped : ∀ e ∈ s'.skipped, e ∈ s.skipped ∨
    ∃ port ∈ ports, e = skippedPort port ∧ .serial port ∈ configured
  kept : ∀ e ∈ s.skipped, e ∈ s'.skipped

/-- No port is left to do. -/
theorem SerialStep.refl (configured : List Connection) (ports : List String) (s : Sweep) :
    SerialStep configured ports s s :=
  ⟨fun _ h => .inl h, fun _ h => .inl h, fun _ h => h⟩

/-- One round, then the rest of the loop. -/
theorem SerialStep.cons {configured : List Connection} {port : String} {ports : List String}
    {s s₁ s' : Sweep} (hround : SerialStep configured [port] s s₁)
    (hrest : SerialStep configured ports s₁ s') :
    SerialStep configured (port :: ports) s s' where
  touched c hc := by
    rcases hrest.touched c hc with hc | ⟨p, hp, hc⟩
    · rcases hround.touched c hc with hc | ⟨p, hp, hc⟩
      · exact .inl hc
      · exact .inr ⟨p, List.mem_cons.mpr (.inl (List.mem_singleton.mp hp)), hc⟩
    · exact .inr ⟨p, List.mem_cons_of_mem _ hp, hc⟩
  skipped e he := by
    rcases hrest.skipped e he with he | ⟨p, hp, he⟩
    · rcases hround.skipped e he with he | ⟨p, hp, he⟩
      · exact .inl he
      · exact .inr ⟨p, List.mem_cons.mpr (.inl (List.mem_singleton.mp hp)), he⟩
    · exact .inr ⟨p, List.mem_cons_of_mem _ hp, he⟩
  kept e he := hrest.kept e (hround.kept e he)

/-- A port is scanned or skipped. -/
theorem scanPort_step (service : DiscoveryService) (chances : Chances)
    (configured : List Connection) (port : String) (s : Sweep) :
    SerialStep configured [port] s (scanPort service chances configured port s) := by
  -- a configured port is skipped and entered in the report
  by_cases hin : .serial port ∈ configured
  · simp only [scanPort, if_pos hin]
    constructor
    · exact fun c hc => .inl hc
    · intro e he
      rcases List.mem_append.mp he with he | he
      · exact .inl he
      · exact .inr ⟨port, List.mem_singleton_self _, List.mem_singleton.mp he, hin⟩
    · exact fun e he => List.mem_append_left _ he
  -- any other one is opened
  · have hopen : ∀ c ∈ (scanRtuInterface service chances port).1, c = .serial port :=
      fun c hc => mem_scanRtuInterface hc
    simp only [scanPort, if_neg hin]
    generalize scanRtuInterface service chances port = run at hopen
    obtain ⟨touched, result⟩ := run
    -- both outcomes leave the same trace
    have htouched : ∀ c ∈ s.touched ++ touched, c ∈ s.touched ∨
        ∃ p ∈ [port], c = .serial p ∧ .serial p ∉ configured := by
      intro c hc
      rcases List.mem_append.mp hc with hc | hc
      · exact .inl hc
      · exact .inr ⟨port, List.mem_singleton_self _, hopen c hc, hin⟩
    cases result with
    | ok devices => exact ⟨htouched, fun _ he => .inl he, fun _ he => he⟩
    | error e => exact ⟨htouched, fun _ he => .inl he, fun _ he => he⟩

/-- And so is each of them. -/
theorem scanSerial_step (service : DiscoveryService) (chances : Chances)
    (configured : List Connection) (i : Nat) (ports : List String) (s : Sweep) :
    SerialStep configured ports s (scanSerial service chances configured i ports s) := by
  induction ports generalizing i s with
  | nil => exact .refl ..
  | cons port ports ih =>
    rw [scanSerial]
    split
    · exact .refl ..
    · exact .cons (scanPort_step ..) (ih _ _)

/-- A configured port gets its entry, unless the scan is cancelled on the way. -/
theorem scanSerial_skips {service : DiscoveryService} {chances : Chances}
    {configured : List Connection} {port : String} (hin : .serial port ∈ configured)
    (hgoes : ∀ i, chances.cancelledBefore i = false) {i : Nat} {ports : List String}
    (hport : port ∈ ports) (s : Sweep) :
    skippedPort port ∈ (scanSerial service chances configured i ports s).skipped := by
  induction ports generalizing i s with
  | nil => exact absurd hport List.not_mem_nil
  | cons p ports ih =>
    rw [scanSerial, hgoes i]
    rcases List.mem_cons.mp hport with rfl | hport
    · apply (scanSerial_step ..).kept
      simp [scanPort, hin, skippedPort]
    · exact ih hport _

/-! ## What the TCP part connects to -/

/-- Only the targets are probed. -/
theorem mem_probeTargets {chances : Chances} {i : Nat} {targets : List (String × Int)}
    {c : Connection} (h : c ∈ (probeTargets chances i targets).1) :
    ∃ t ∈ targets, c = .tcp t.1 t.2 := by
  induction targets generalizing i with
  | nil => exact absurd h List.not_mem_nil
  | cons target targets ih =>
    simp only [probeTargets] at h
    split at h
    · exact absurd h List.not_mem_nil
    · rcases List.mem_cons.mp h with rfl | h
      · exact ⟨target, List.mem_cons_self, rfl⟩
      · obtain ⟨t, ht, hc⟩ := ih h
        exact ⟨t, List.mem_cons_of_mem _ ht, hc⟩

/-- Only a target whose host is a text can be connected to. -/
theorem endpoint_eq_some {chances : Chances} {target : Json.Key × Int} {t : String × Int}
    (h : endpoint chances target = some t) : target = (.str t.1, t.2) := by
  obtain ⟨key, port⟩ := target
  cases key with
  | str host =>
    simp only [endpoint] at h
    split at h
    · rw [← Option.some.inj h]
    · cases h
  | _ => cases h

/-- A network scan touches the targets of the network. -/
theorem mem_scanTcpNetwork {service : DiscoveryService} {chances : Chances}
    {approved : List (String × Int)} {c : Connection}
    (h : c ∈ (scanTcpNetwork service chances approved).1) :
    ∃ targets, networkTargets service approved = .ok targets ∧
      ∃ host port, (.str host, port) ∈ targets ∧ c = .tcp host port := by
  -- without hosts, or with targets that cannot be made, nothing is touched
  simp only [scanTcpNetwork] at h
  split at h
  · exact absurd h List.not_mem_nil
  split at h
  · exact absurd h List.not_mem_nil
  next targets htargets =>
  -- the probes go to targets that were taken up before
  have htaken : ∃ t ∈ targets.filterMap (endpoint chances), c = .tcp t.1 t.2 := by
    rcases List.mem_append.mp h with h | h
    · obtain ⟨t, ht, rfl⟩ := List.mem_map.mp h
      exact ⟨t, ht, rfl⟩
    · obtain ⟨t, ht, hc⟩ := mem_probeTargets h
      exact ⟨t, (List.mem_filter.mp ht).1, hc⟩
  obtain ⟨⟨host, port⟩, ht, rfl⟩ := htaken
  obtain ⟨target, htarget, hend⟩ := List.mem_filterMap.mp ht
  rw [endpoint_eq_some hend] at htarget
  exact ⟨targets, htargets, host, port, htarget, rfl⟩

/-- With targets left from the request, these are what `_scan_tcp_network` goes through. -/
theorem networkTargets_approved {service : DiscoveryService} {approved : List (String × Int)}
    (hne : approved ≠ []) {targets : List (Json.Key × Int)}
    (h : networkTargets service approved = .ok targets) {host : String} {port : Int}
    (hmem : (.str host, port) ∈ targets) : (host, port) ∈ approved := by
  simp only [networkTargets, if_pos hne, Except.bind_eq_ok, Except.pure_eq_ok] at h
  obtain ⟨_, -, values, hvalues, keys, hkeys, rfl⟩ := h
  obtain ⟨value, hvalue, hkey⟩ := Except.exists_of_mapM_eq_ok hkeys (List.mem_eraseDups.mp hmem)
  rw [← Except.ok.inj hvalues] at hvalue
  obtain ⟨t, ht, rfl⟩ := List.mem_map.mp hvalue
  simp only [Json.hashKey_str, Except.bind_eq_ok, Except.pure_eq_ok, Prod.mk.injEq,
    Except.ok.injEq] at hkey
  obtain ⟨_, rfl, hhost, rfl⟩ := hkey
  rw [← Json.Key.str.inj hhost]
  exact ht

/-! ## The property and its condition -/

/-- `ports` and `targets` are what the request asks for, and `listed` is what the filter knows. -/
structure Asked (service : DiscoveryService) (site : Surroundings) (config : Json)
    (options : Dict String Json) (listed : List Connection) (ports : List String)
    (targets : List (String × Int)) : Prop where
  listed : configuredConnections config = .ok listed
  ports : approvedSerialPorts site ((Dict.get? options "serial_ports").getD .null) = .ok ports
  targets : requestedTargets service site options = .ok targets

/-- A plan is made of what was asked for. -/
theorem plan_eq_ok {service : DiscoveryService} {site : Surroundings} {config : Json}
    {options : Dict String Json} {p : Plan} :
    plan service site config options = .ok p ↔
      Asked service site config options p.configured p.serialPorts p.targets := by
  constructor
  · intro h
    simp only [plan, Except.bind_eq_ok, Except.pure_eq_ok] at h
    obtain ⟨listed, hlisted, ports, hports, targets, htargets, rfl⟩ := h
    exact ⟨hlisted, hports, htargets⟩
  · intro h
    simp only [plan, Except.bind_eq_ok, Except.pure_eq_ok]
    exact ⟨_, h.listed, _, h.ports, _, h.targets, rfl⟩

/-- The scan connects to nothing the connectors poll; of the polled connections it was asked for
    it only makes an entry in `skipped`. A cancelled scan does not get to all of its ports. -/
structure LeavesAlone (service : DiscoveryService) (site : Surroundings) (chances : Chances)
    (config : Json) (scanType : String) (options : Dict String Json) : Prop where
  untouched : ∀ c ∈ polled config, c ∉ (scan service site chances config scanType options).touched
  skippedTcp : ∀ listed ports targets r, Asked service site config options listed ports targets →
    (scan service site chances config scanType options).result = .ok r →
    ∀ t ∈ targets, .tcp t.1 t.2 ∈ polled config → skippedTarget t ∈ r.skipped
  skippedSerial : ∀ listed ports targets r,
    Asked service site config options listed ports targets →
    (scan service site chances config scanType options).result = .ok r →
    (∀ i, chances.cancelledBefore i = false) →
    ∀ port ∈ ports, .serial port ∈ polled config → skippedPort port ∈ r.skipped

/-- What a request asks for, as connections. -/
def requestedConnections (ports : List String) (targets : List (String × Int)) :
    List Connection :=
  ports.map .serial ++ targets.map fun t => .tcp t.1 t.2

/-- The endpoints `tcp_hosts` of the discovery section stands for. -/
def hostConnections (service : DiscoveryService) : List Connection :=
  match networkTargets service [] with
  | .ok targets => targets.filterMap fun t => match t.1 with
    | .str host => some (.tcp host t.2)
    | _ => none
  | .error _ => []

/-- When a scan keeps away from what is polled. -/
structure Clear (service : DiscoveryService) (site : Surroundings) (config : Json)
    (scanType : String) (options : Dict String Json) : Prop where
  /-- Nothing that is asked for is polled by a connector in the older form alone. -/
  older : ∀ listed ports targets, Asked service site config options listed ports targets →
    ∀ c ∈ requestedConnections ports targets, c ∈ olderConnections config → c ∈ listed
  /-- When the filter leaves no target, a scan that is not guided, with the subnet scan switched
      on, finds nothing polled in `tcp_hosts`. -/
  hosts : ∀ listed ports targets, Asked service site config options listed ports targets →
    (∀ t ∈ targets, .tcp t.1 t.2 ∈ listed) → scanType ≠ "guided" →
    service.tcpSubnetScan.truthy = true → ∀ c ∈ hostConnections service, c ∉ polled config

/-! ## The entries of a report -/

/-- What follows the last `a` of a list. -/
theorem append_cons_inj_of_notMem_right {α : Type*} {a : α} {xs xs' ys ys' : List α}
    (hys : a ∉ ys) (hys' : a ∉ ys') (h : xs ++ a :: ys = xs' ++ a :: ys') :
    xs = xs' ∧ ys = ys' := by
  rcases List.append_eq_append_iff.mp h with ⟨zs, rfl, hzs⟩ | ⟨zs, rfl, hzs⟩
  · cases zs with
    | nil => simpa using hzs
    | cons z zs =>
      refine absurd ?_ hys
      rw [(List.cons.inj hzs).2]
      simp
  · cases zs with
    | nil => simpa [eq_comm] using hzs
    | cons z zs =>
      refine absurd ?_ hys'
      rw [(List.cons.inj hzs).2]
      simp

/-- The text of an entry gives its target back: the port is what follows the last colon. -/
theorem skippedTarget_injective : Function.Injective skippedTarget := by
  rintro ⟨host, port⟩ ⟨host', port'⟩ h
  have htext : host.toList ++ ':' :: (toString port).toList =
      host'.toList ++ ':' :: (toString port').toList := by
    simpa [skippedTarget, String.toList_append] using
      congrArg (fun e => e.interface.toList) h
  have hcolon : ∀ n : Int, ':' ∉ (toString n).toList := by
    intro n hn
    rcases Json.int_text n ':' hn with hdigit | hsign
    · exact absurd hdigit (by decide)
    · exact absurd hsign (by decide)
  obtain ⟨hhost, hport⟩ := append_cons_inj_of_notMem_right (hcolon port) (hcolon port') htext
  rw [String.toList_inj.mp hhost, Json.int_text_injective (String.toList_inj.mp hport)]

/-- A skipped port is told from a skipped target. -/
theorem skippedPort_ne_skippedTarget (port : String) (t : String × Int) :
    skippedPort port ≠ skippedTarget t := by
  intro h
  exact absurd (congrArg Skipped.reason h) (by simp [skippedPort, skippedTarget])

/-- The entries the TCP part adds are those of the configured targets. -/
theorem scanNetwork_skipped (service : DiscoveryService) (chances : Chances) (scanType : String)
    (p : Plan) (s : Sweep) : (scanNetwork service chances scanType p s).skipped =
      s.skipped ++ p.skippedTargets.map skippedTarget := by
  simp only [scanNetwork]
  split
  · rfl
  · split <;> rfl

/-- What the TCP part opens. -/
theorem scanNetwork_touched (service : DiscoveryService) (chances : Chances) (scanType : String)
    (p : Plan) (s : Sweep) : (scanNetwork service chances scanType p s).touched =
      s.touched ++ if scansNetwork service scanType p
        then (scanTcpNetwork service chances p.openTargets).1 else [] := by
  by_cases hscans : scansNetwork service scanType p = true
  · simp only [scanNetwork, hscans, if_true, Bool.not_true, Bool.false_eq_true, if_false]
    split
    · next hrun => rw [hrun]
    · next hrun => rw [hrun]
  · simp [scanNetwork, hscans]

/-- Every entry is that of a serial port or a target the filter knows. -/
theorem mem_skipped {service : DiscoveryService} {chances : Chances} {scanType : String}
    {p : Plan} {e : Skipped} (h : e ∈ (sweep service chances scanType p).skipped) :
    (∃ port, .serial port ∈ p.configured ∧ e = skippedPort port) ∨
      ∃ t, .tcp t.1 t.2 ∈ p.configured ∧ e = skippedTarget t := by
  rw [sweep, scanNetwork_skipped] at h
  rcases List.mem_append.mp h with h | h
  · rcases (scanSerial_step ..).skipped e h with h | ⟨port, -, he, hin⟩
    · exact absurd h List.not_mem_nil
    · exact .inl ⟨port, hin, he⟩
  · obtain ⟨t, ht, rfl⟩ := List.mem_map.mp h
    exact .inr ⟨t, of_decide_eq_true (List.mem_filter.mp ht).2, rfl⟩

/-- A scan follows its plan. -/
theorem scan_of_plan {service : DiscoveryService} {site : Surroundings} {config : Json}
    {options : Dict String Json} {p : Plan} (hp : plan service site config options = .ok p)
    (chances : Chances) (scanType : String) :
    (scan service site chances config scanType options).touched =
        (sweep service chances scanType p).touched ∧
      ∃ r, (scan service site chances config scanType options).result = .ok r ∧
        r.skipped = (sweep service chances scanType p).skipped := by
  rw [scan, hp]
  exact ⟨rfl, _, rfl, rfl⟩

/-- Nothing happens that keeps the scan from its targets. -/
def quiet : Chances where
  pymodbus := true
  cancelledBefore _ := false
  cancelledRate _ _ := false
  rtuDevices _ _ := []
  taken _ _ := true
  reachable _ _ := false
  checked := 0
  timedOut := false
  cancelledProbe _ := false
  probe _ _ := none
  cancelledAtEnd := false

/-- Undisturbed, the fallback connects to every endpoint `tcp_hosts` stands for. -/
theorem quiet_hosts {service : DiscoveryService} {c : Connection}
    (h : c ∈ hostConnections service) : c ∈ (scanTcpNetwork service quiet []).1 := by
  simp only [hostConnections] at h
  split at h
  · next targets htargets =>
    obtain ⟨⟨key, port⟩, ht, hc⟩ := List.mem_filterMap.mp h
    cases key with
    | str host =>
      rw [← Option.some.inj hc]
      simp only [scanTcpNetwork, htargets]
      apply List.mem_append_left
      exact List.mem_map.mpr
        ⟨(host, port), List.mem_filterMap.mpr ⟨(.str host, port), ht, rfl⟩, rfl⟩
    | _ => cases hc
  · exact absurd h List.not_mem_nil

/-- The connections of an older configuration are polled too. -/
theorem olderConnections_polled {config : Json} {c : Connection}
    (h : c ∈ olderConnections config) : c ∈ polled config := by
  obtain ⟨connector, hconnector, hc⟩ := List.mem_flatMap.mp h
  exact List.mem_flatMap.mpr ⟨connector, (List.mem_filter.mp hconnector).1, hc⟩

/-- Under the condition the filter knows everything polled that the request asks for. -/
theorem Clear.listed {service : DiscoveryService} {site : Surroundings} {config : Json}
    {scanType : String} {options : Dict String Json}
    (hclear : Clear service site config scanType options) {listed : List Connection}
    {ports : List String} {targets : List (String × Int)}
    (hasked : Asked service site config options listed ports targets) {c : Connection}
    (hc : c ∈ requestedConnections ports targets) (hpolled : c ∈ polled config) : c ∈ listed := by
  rcases polled_listed hasked.listed hpolled with h | h
  · exact h
  · exact hclear.older _ _ _ hasked c hc h

/-- A requested port is a requested connection. -/
theorem serial_mem_requested {ports : List String} {targets : List (String × Int)} {port : String}
    (h : port ∈ ports) : .serial port ∈ requestedConnections ports targets :=
  List.mem_append_left _ (List.mem_map.mpr ⟨port, h, rfl⟩)

/-- And so is a requested target. -/
theorem tcp_mem_requested {ports : List String} {targets : List (String × Int)} {t : String × Int}
    (h : t ∈ targets) : .tcp t.1 t.2 ∈ requestedConnections ports targets :=
  List.mem_append_right _ (List.mem_map.mpr ⟨t, h, rfl⟩)

/-- Nothing that is opened is polled. -/
theorem Clear.untouched {service : DiscoveryService} {site : Surroundings} {config : Json}
    {scanType : String} {options : Dict String Json}
    (hclear : Clear service site config scanType options) (chances : Chances) {p : Plan}
    (hasked : Asked service site config options p.configured p.serialPorts p.targets)
    {c : Connection} (hc : c ∈ (sweep service chances scanType p).touched) :
    c ∉ polled config := by
  intro hpolled
  rw [sweep, scanNetwork_touched] at hc
  rcases List.mem_append.mp hc with hc | hc
  · -- the serial loop opens what is not configured
    rcases (scanSerial_step ..).touched c hc with hc | ⟨port, hport, rfl, hout⟩
    · exact absurd hc List.not_mem_nil
    · exact hout (hclear.listed hasked (serial_mem_requested hport) hpolled)
  -- the scan of the network comes after the serial loop
  split at hc
  on_goal 2 => exact absurd hc List.not_mem_nil
  next hscans =>
  obtain ⟨targets, htargets, host, port, hmem, rfl⟩ := mem_scanTcpNetwork hc
  by_cases hempty : p.openTargets = []
  · -- the fallback is taken
    have hall : ∀ t ∈ p.targets, .tcp t.1 t.2 ∈ p.configured := by
      intro t ht
      have := List.filter_eq_nil_iff.mp hempty t ht
      simpa using this
    simp only [scansNetwork, hempty, ne_eq, not_true_eq_false, decide_false, Bool.false_or,
      Bool.and_eq_true, decide_eq_true_eq] at hscans
    refine hclear.hosts _ _ _ hasked hall hscans.1 hscans.2 _ ?_ hpolled
    rw [hempty] at htargets
    rw [hostConnections, htargets]
    exact List.mem_filterMap.mpr ⟨(.str host, port), hmem, rfl⟩
  · -- the targets are what the filter left
    have hopen := networkTargets_approved hempty htargets hmem
    obtain ⟨htarget, hout⟩ := List.mem_filter.mp hopen
    exact of_decide_eq_true hout
      (hclear.listed hasked (tcp_mem_requested (t := (host, port)) htarget) hpolled)

/-- What is polled and asked for has its entry. -/
theorem Clear.leavesAlone {service : DiscoveryService} {site : Surroundings} {config : Json}
    {scanType : String} {options : Dict String Json}
    (hclear : Clear service site config scanType options) (chances : Chances) :
    LeavesAlone service site chances config scanType options where
  untouched c hpolled hc := by
    cases hp : plan service site config options with
    | error e =>
      -- a scan without a plan does nothing
      rw [scan, hp] at hc
      exact absurd hc List.not_mem_nil
    | ok p =>
      rw [(scan_of_plan hp chances scanType).1] at hc
      exact hclear.untouched chances (plan_eq_ok.mp hp) hc hpolled
  skippedTcp listed ports targets r hasked hr t ht hpolled := by
    obtain ⟨-, r', hr', hskipped⟩ :=
      scan_of_plan (p := ⟨listed, ports, targets⟩) (plan_eq_ok.mpr hasked) chances scanType
    have hin := hclear.listed hasked (tcp_mem_requested ht) hpolled
    rw [Except.ok.inj (hr.symm.trans hr'), hskipped, sweep, scanNetwork_skipped]
    apply List.mem_append_right
    exact List.mem_map.mpr ⟨t, List.mem_filter.mpr ⟨ht, decide_eq_true hin⟩, rfl⟩
  skippedSerial listed ports targets r hasked hr hgoes port hport hpolled := by
    obtain ⟨-, r', hr', hskipped⟩ :=
      scan_of_plan (p := ⟨listed, ports, targets⟩) (plan_eq_ok.mpr hasked) chances scanType
    have hin := hclear.listed hasked (serial_mem_requested hport) hpolled
    rw [Except.ok.inj (hr.symm.trans hr'), hskipped, sweep, scanNetwork_skipped]
    exact List.mem_append_left _ (scanSerial_skips hin hgoes hport _)

/-- A scan that keeps away undisturbed meets the condition. -/
theorem LeavesAlone.clear {service : DiscoveryService} {site : Surroundings} {config : Json}
    {scanType : String} {options : Dict String Json}
    (h : LeavesAlone service site quiet config scanType options) :
    Clear service site config scanType options where
  older listed ports targets hasked c hc holder := by
    have hpolled := olderConnections_polled holder
    obtain ⟨-, r, hr, hskipped⟩ :=
      scan_of_plan (p := ⟨listed, ports, targets⟩) (plan_eq_ok.mpr hasked) quiet scanType
    -- what is asked for has its entry, and an entry is only made for what the filter knows
    rcases List.mem_append.mp hc with hc | hc
    · obtain ⟨port, hport, rfl⟩ := List.mem_map.mp hc
      have hentry := h.skippedSerial _ _ _ r hasked hr (fun _ => rfl) port hport hpolled
      rw [hskipped] at hentry
      rcases mem_skipped hentry with ⟨port', hin, heq⟩ | ⟨t, -, heq⟩
      · have hsame : port = port' := congrArg Skipped.interface heq
        exact hsame ▸ hin
      · exact absurd heq (skippedPort_ne_skippedTarget port t)
    · obtain ⟨t, ht, rfl⟩ := List.mem_map.mp hc
      have hentry := h.skippedTcp _ _ _ r hasked hr t ht hpolled
      rw [hskipped] at hentry
      rcases mem_skipped hentry with ⟨port, -, heq⟩ | ⟨t', hin, heq⟩
      · exact absurd heq.symm (skippedPort_ne_skippedTarget port t)
      · rw [skippedTarget_injective heq]
        exact hin
  hosts listed ports targets hasked hall hguided hsubnet c hc hpolled := by
    obtain ⟨htouched, -⟩ :=
      scan_of_plan (p := ⟨listed, ports, targets⟩) (plan_eq_ok.mpr hasked) quiet scanType
    -- the filter leaves nothing, so that the scan falls back to `tcp_hosts`
    have hempty : Plan.openTargets ⟨listed, ports, targets⟩ = [] := by
      apply List.filter_eq_nil_iff.mpr
      intro t ht
      simpa using hall t ht
    have hscans : scansNetwork service scanType ⟨listed, ports, targets⟩ = true := by
      simp [scansNetwork, hempty, hguided, hsubnet]
    refine h.untouched c hpolled ?_
    rw [htouched, sweep, scanNetwork_touched, hscans, hempty, if_pos rfl]
    exact List.mem_append_right _ (quiet_hosts hc)

/-- Discovery keeps away from everything the connectors poll, whatever happens while it scans,
    exactly when the request asks for nothing that only a connector in the older form polls, and
    the fallback to `tcp_hosts` is not taken or finds nothing polled there. -/
theorem leaves_alone_iff (service : DiscoveryService) (site : Surroundings) (config : Json)
    (scanType : String) (options : Dict String Json) :
    (∀ chances, LeavesAlone service site chances config scanType options) ↔
      Clear service site config scanType options :=
  ⟨fun h => (h quiet).clear, fun h chances => h.leavesAlone chances⟩

/-- A machine with no serial port and no link. -/
def bare : Surroundings := ⟨fun _ => none, [], []⟩

/-- One Modbus TCP slave, polled at port 502. -/
def meterConfig : Json :=
  .obj [("connectors", .arr [.obj [("type", .str "modbus"),
    ("config", .obj [("master", .obj [("slaves", .arr [.obj
      [("type", .str "tcp"), ("host", .str "10.0.0.5"), ("port", .int 502)]])])])]])]

/-- The subnet scan is switched on, and the meter is among the hosts to look at. -/
def meterDiscovery : Json :=
  .obj [("tcp_subnet_scan", .bool true), ("tcp_hosts", .arr [.str "10.0.0.5"])]

/-- The periodic scan of this gateway connects to the meter it polls. -/
theorem periodic_scan_of_polled : ∃ service, init meterDiscovery = .ok service ∧
    ¬LeavesAlone service bare quiet meterConfig "periodic" [] := by
  refine ⟨_, rfl, fun h => ?_⟩
  refine h.untouched (.tcp "10.0.0.5" 502) ?_ ?_
  · decide +kernel
  · decide +kernel

end DiscoveryService

end Novena

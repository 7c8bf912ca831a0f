import NovenaGateway.Native.Json

/-!
# The network watchdog

`_check_network` and `stop` of `network_watchdog_handler.py`: which interfaces are pinged, which
one is selected, and whose route metric is changed or put back. What the kernel, `ping`,
NetworkManager and the privileged helper answer is an observation; every ping and every call of the
helper is recorded as an action. Signal strength, the attributes that are published and the lock
around them are left out: nothing here depends on them.
-/

namespace Novena

/-- A command the watchdog gives. -/
inductive NetAction where
  | ping (interface target : String)
  /-- `set-route-metric`, whether the helper carries it out or not. -/
  | setMetric (interface uuid : String) (metric : Int)
  deriving DecidableEq, Repr

def NetAction.interface : NetAction → String
  | .ping interface _ => interface
  | .setMetric interface _ _ => interface

/-- How `subprocess.run` of one ping ends; `silent` is a non-zero exit, a timeout or an
    `OSError`. -/
inductive PingOutcome where
  | replied
  | silent
  | raised
  deriving DecidableEq, Repr

/-- An entry of `interface_diagnostics`. -/
structure Diagnostic where
  role : Json
  roleReason : String
  physicalUp : Bool
  defaultRoute : Bool
  probeOk : Option Bool
  status : String
  actionError : Option String

/-- What one call sees of the machine. -/
structure Observation where
  /-- `_default_routes`: the metric of every interface with a default route. -/
  routes : Dict String Int
  /-- `_is_interface_physically_up` of the `i`-th interface; `none` is an exception. -/
  physicalUp : Nat → Option Bool
  /-- A ping through the `i`-th interface. -/
  ping : Nat → String → PingOutcome
  /-- `_nm_profile` of the interface that is selected. -/
  profile : Option (String × Int)
  /-- Whether the helper sets its metric. -/
  helper : Bool
  /-- The same for the metrics that are put back. -/
  restoreProfile : String → Option (String × Int)
  restoreHelper : String → Bool

/-- The attributes of `NetworkWatchdogHandler` that do not change. -/
structure NetworkWatchdog where
  /-- `_interfaces`. -/
  interfaces : List String
  /-- `interface_roles` of the configuration. -/
  roles : Json
  targets : List String
  /-- `_watchdog_mode == "active"`. -/
  active : Bool

/-- The attributes that do. -/
structure WatchdogState where
  activeInterface : String
  failoverCount : Nat
  consecutivePreferredSuccesses : Nat
  /-- The profile and the metric an interface had before the watchdog changed it. -/
  originalMetrics : Dict String (String × Int)
  diagnostics : Dict String Diagnostic

/-- What a call leaves and the actions it took. -/
structure Watched where
  state : WatchdogState
  actions : List NetAction

namespace NetworkWatchdog

/-- The part of `__init__` that makes up `_interfaces`, for names that are texts. -/
def configuredInterfaces (eth wifi fourg : Option String) : List String :=
  [eth.getD "eth0", wifi.getD "wlan0", fourg.getD "wwan0"].filter (· ≠ "")

def init : WatchdogState := ⟨"", 0, 0, [], []⟩

/-- `_role`. -/
def role (roles : Json) (interface : String) (routes : Dict String Int) : Py (Json × String) := do
  let configured ← roles.get interface
  if configured.truthy then return (configured, "configured")
  else if routes.contains interface then return (.str "uplink", "default_route")
  else return (.str "field", "no_default_route")

/-- `role == "uplink"`. -/
def isUplink (role : Json) : Bool := role.eq (.str "uplink")

/-! ## Probing -/

/-- `_ping_interface`: the first target that replies is enough. -/
def pingInterface (outcome : String → PingOutcome) (interface : String) :
    List String → List NetAction × Option Bool
  | [] => ([], some false)
  | target :: targets =>
    match outcome target with
    | .replied => ([.ping interface target], some true)
    | .silent =>
      let (actions, ok) := pingInterface outcome interface targets
      (.ping interface target :: actions, ok)
    | .raised => ([.ping interface target], none)

/-- The `status` of an interface. -/
def status (role : Json) (eligible physical : Bool) (probeOk : Option Bool) : String :=
  if role.eq (.str "field") then "field"
  else if !eligible then "no_default_route"
  else if !physical then "down"
  else if probeOk = some true then "up" else "probe_failed"

/-- The diagnostic of the `i`-th interface; `none` is an exception. -/
def diagnose (w : NetworkWatchdog) (o : Observation) (i : Nat) (interface : String) :
    List NetAction × Option Diagnostic :=
  match role w.roles interface o.routes, o.physicalUp i with
  | .error _, _ => ([], none)
  | .ok _, none => ([], none)
  | .ok (role, reason), some physical =>
    let routed := o.routes.contains interface
    let eligible := isUplink role && routed
    let (actions, probe) :=
      if eligible && physical then
        let (actions, ok) := pingInterface (o.ping i) interface w.targets
        (actions, ok.map some)
      else ([], some none)
    (actions, probe.map fun probeOk =>
      ⟨role, reason, physical, routed, probeOk, status role eligible physical probeOk, none⟩)

/-- The loop over the interfaces. -/
def diagnoseAll (w : NetworkWatchdog) (o : Observation) : Nat → List String →
    Dict String Diagnostic → List NetAction × Option (Dict String Diagnostic)
  | _, [], diagnostics => ([], some diagnostics)
  | i, interface :: interfaces, diagnostics =>
    match diagnose w o i interface with
    | (actions, none) => (actions, none)
    | (actions, some diagnostic) =>
      let (rest, result) :=
        diagnoseAll w o (i + 1) interfaces (diagnostics.set interface diagnostic)
      (actions ++ rest, result)

/-! ## Selecting -/

/-- `diagnostics[interface]["role"] == "uplink"`. -/
def hasUplink (diagnostics : Dict String Diagnostic) (interface : String) : Bool :=
  (Dict.get? diagnostics interface).any fun d => isUplink d.role

/-- `healthy`. -/
def healthy (w : NetworkWatchdog) (diagnostics : Dict String Diagnostic) : List String :=
  w.interfaces.filter fun i => (Dict.get? diagnostics i).any fun d => d.probeOk = some true

/-- The uplinks with a default route. -/
def routedUplinks (w : NetworkWatchdog) (o : Observation) (diagnostics : Dict String Diagnostic) :
    List String :=
  w.interfaces.filter fun i => o.routes.contains i && hasUplink diagnostics i

/-- `routes[interface]`. -/
def metricOf (o : Observation) (interface : String) : Int :=
  (Dict.get? o.routes interface).getD 0

/-- `current`: the active interface, at first the one with the best route. -/
def currentInterface (w : NetworkWatchdog) (s : WatchdogState) (o : Observation)
    (diagnostics : Dict String Diagnostic) : String :=
  if s.activeInterface ≠ "" then s.activeInterface
  else ((routedUplinks w o diagnostics).minOn? (metricOf o)).getD ""

/-- The candidate, and the count of checks in which a better interface was healthy. -/
def candidate (healthy : List String) (current : String) (successes : Nat) : String × Nat :=
  let preferred := healthy.headD ""
  if current ∉ healthy then (preferred, 0)
  else if preferred ≠ "" ∧ preferred ≠ current then
    (if 3 ≤ successes + 1 then preferred else current, successes + 1)
  else (current, 0)

/-- `other_metrics`. -/
def otherMetrics (w : NetworkWatchdog) (o : Observation) (diagnostics : Dict String Diagnostic)
    (candidate : String) : List Int :=
  ((routedUplinks w o diagnostics).filter (· ≠ candidate)).map (metricOf o)

/-- `_set_interface_metric`: its actions, its result, and the metrics it remembers. -/
def setInterfaceMetric (w : NetworkWatchdog) (o : Observation) (interface : String) (metric : Int)
    (original : Dict String (String × Int)) :
    List NetAction × Bool × Dict String (String × Int) :=
  if !w.active then ([], true, original) else
  match o.profile with
  | none => ([], false, original)
  | some (uuid, before) =>
    if o.helper then
      ([.setMetric interface uuid metric], true,
        if original.contains interface then original else original.set interface (uuid, before))
    else ([.setMetric interface uuid metric], false, original)

/-- The metric change a candidate needs before it is selected. -/
def prepareCandidate (w : NetworkWatchdog) (o : Observation)
    (diagnostics : Dict String Diagnostic) (candidate : String)
    (original : Dict String (String × Int)) :
    List NetAction × Bool × Dict String (String × Int) :=
  match (otherMetrics w o diagnostics candidate).min? with
  | none => ([], true, original)
  | some best =>
    if metricOf o candidate < best then ([], true, original)
    else if w.active ∧ 0 < best then setInterfaceMetric w o candidate (best - 1) original
    else ([], false, original)

/-- `needs_metric`. -/
def needsMetric (w : NetworkWatchdog) (o : Observation) (diagnostics : Dict String Diagnostic)
    (candidate : String) : Bool :=
  (otherMetrics w o diagnostics candidate).min?.any fun best => best ≤ metricOf o candidate

/-- From the diagnostics to the active interface. -/
def select (w : NetworkWatchdog) (s : WatchdogState) (o : Observation)
    (diagnostics : Dict String Diagnostic) : Watched × Dict String Diagnostic :=
  let current := currentInterface w s o diagnostics
  let (chosen, successes) :=
    candidate (healthy w diagnostics) current s.consecutivePreferredSuccesses
  let s := { s with consecutivePreferredSuccesses := successes }
  if chosen ≠ "" ∧ chosen ≠ current then
    let (actions, success, original) :=
      prepareCandidate w o diagnostics chosen s.originalMetrics
    if success then
      (⟨{ s with
          activeInterface := chosen
          originalMetrics := original
          failoverCount := s.failoverCount +
            if current ≠ "" ∧ needsMetric w o diagnostics chosen then 1 else 0 }, actions⟩,
        diagnostics)
    else
      -- `active_interface` becomes `current` at the first check and stays what it is later
      (⟨{ s with activeInterface := current, originalMetrics := original }, actions⟩,
        match Dict.get? diagnostics chosen with
        | some d =>
          diagnostics.set chosen { d with actionError := some "metric_change_failed" }
        | none => diagnostics)
  else if chosen = "" ∧ current ≠ "" then (⟨{ s with activeInterface := "" }, []⟩, diagnostics)
  else (⟨{ s with activeInterface := current }, []⟩, diagnostics)

/-! ## Restoring -/

/-- One remembered metric is put back, if the profile is still the same. -/
def restore (o : Observation) (interface : String) (r : Watched) : Watched :=
  match Dict.get? r.state.originalMetrics interface, o.restoreProfile interface with
  | some (uuid, metric), some profile =>
    if profile.1 = uuid then
      ⟨if o.restoreHelper interface then
          { r.state with originalMetrics := Dict.erase r.state.originalMetrics interface }
        else r.state,
        r.actions ++ [.setMetric interface uuid metric]⟩
    else r
  | _, _ => r

/-- The uplinks that are no longer selected. -/
def restoreUnselected (o : Observation) (diagnostics : Dict String Diagnostic) (r : Watched) :
    Watched :=
  (r.state.originalMetrics.map Prod.fst).foldl (fun r interface =>
    if interface ≠ r.state.activeInterface ∧ hasUplink diagnostics interface then
      restore o interface r
    else r) r

/-- `_restore_metrics`. -/
def restoreMetrics (w : NetworkWatchdog) (o : Observation) (r : Watched) : Watched :=
  if !w.active then r
  else (r.state.originalMetrics.map Prod.fst).foldl (fun r interface => restore o interface r) r

/-! ## Whole calls -/

/-- `_check_network`. -/
def checkNetwork (w : NetworkWatchdog) (s : WatchdogState) (o : Observation) : Watched :=
  match diagnoseAll w o 0 w.interfaces [] with
  | (actions, none) => ⟨s, actions⟩
  | (actions, some diagnostics) =>
    let (r, diagnostics) := select w s o diagnostics
    let r := restoreUnselected o diagnostics r
    ⟨{ r.state with diagnostics }, actions ++ r.actions⟩

/-- `stop`. A thread that is still running after thirty seconds keeps its metrics. -/
def stop (w : NetworkWatchdog) (s : WatchdogState) (o : Observation) (running : Bool) : Watched :=
  if running then ⟨s, []⟩ else restoreMetrics w o ⟨s, []⟩

/-- The checks one after the other. -/
def checks (w : NetworkWatchdog) : WatchdogState → List Observation → Watched
  | s, [] => ⟨s, []⟩
  | s, o :: os =>
    let r := checkNetwork w s o
    let rest := checks w r.state os
    ⟨rest.state, r.actions ++ rest.actions⟩

/-- The checks from the start of the watchdog, and then `stop`. -/
def lifetime (w : NetworkWatchdog) (os : List Observation) (atStop : Observation)
    (running : Bool) : Watched :=
  let r := checks w init os
  let rest := stop w r.state atStop running
  ⟨rest.state, r.actions ++ rest.actions⟩

end NetworkWatchdog

end Novena

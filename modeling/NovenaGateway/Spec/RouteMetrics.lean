import NovenaGateway.ForStd.Run
import NovenaGateway.Spec.WatchdogChecks

/-!
# Temporary route metrics

The watchdog remembers one pair of a profile and its metric for each interface. A ledger beside it
has an account for each interface and profile, and is kept from the commands that are given: what
the profile read before each change, what it is owed, and what was set last. While every metric
change of an interface is made under the profile its pair is for, what an account is owed is what
the watchdog remembers, and every account is settled when it should be.

Key results:
- `NetworkWatchdog.balanced_step`
- `NetworkWatchdog.metrics_undone`
-/

namespace Novena

namespace NetworkWatchdog

/-! ## The ledger -/

/-- The metric changes of an interface under one profile. -/
structure Account where
  /-- What the profile read before each change, the last one first. -/
  reads : List Int
  /-- What it read before the first change that was not undone when the next one was made. -/
  owed : Int
  /-- The metric that was set last. -/
  last : Int
  /-- Nothing was changed since a metric was last put back. -/
  settled : Bool
  deriving DecidableEq

/-- A change from what the profile reads to `metric`. -/
def Account.change (before metric : Int) : Option Account → Account
  | none => ⟨[before], before, metric, false⟩
  | some a => ⟨before :: a.reads, if a.settled then before else a.owed, metric, false⟩

/-- The metric was set back after the last change, to what the profile had before the first one;
    where it had the same before every change, to that. -/
def Account.Undone (a : Account) : Prop :=
  a.settled = true ∧ a.last = a.owed ∧ ∀ metric, (∀ before ∈ a.reads, before = metric) → a.last = metric

/-- The accounts, by interface and profile. -/
abbrev Ledger := String → String → Option Account

/-- A command enters the ledger: a change where `changed` gives what the profile read, and a metric
    that is put back elsewhere. -/
def enter (changed : String → Option Int) (ledger : Ledger) : NetAction → Ledger
  | .ping _ _ => ledger
  | .setMetric interface uuid metric => fun i u =>
    if i = interface ∧ u = uuid then
      match changed interface with
      | some before => some (Account.change before metric (ledger i u))
      | none => (ledger i u).map fun a => { a with last := metric, settled := true }
    else ledger i u

/-- The watchdog and the ledger. -/
structure Kept where
  state : WatchdogState
  ledger : Ledger

/-- A call of `_check_network` or of `stop`. -/
inductive WatchdogCall where
  | check (o : Observation)
  | stop (o : Observation) (running : Bool)

/-- What the call sees of the machine. -/
def WatchdogCall.seen : WatchdogCall → Observation
  | .check o => o
  | .stop o _ => o

def WatchdogCall.run (w : NetworkWatchdog) (s : WatchdogState) : WatchdogCall → Watched
  | .check o => checkNetwork w s o
  | .stop o running => NetworkWatchdog.stop w s o running

/-- Of the commands of a check the one for the new active interface is the change. -/
def WatchdogCall.changed (r : Watched) : WatchdogCall → String → Option Int
  | .check o => fun i => if i = r.state.activeInterface then o.profile.map Prod.snd else none
  | .stop _ _ => fun _ => none

/-- A call, and its commands entered. -/
def call (w : NetworkWatchdog) (k : Kept) (c : WatchdogCall) : Kept :=
  let r := c.run w k.state
  ⟨r.state, r.actions.foldl (enter (c.changed r)) k.ledger⟩

/-- The start of the watchdog. -/
def started : Kept := ⟨init, fun _ _ => none⟩

/-- What a run of calls leaves. -/
def after (w : NetworkWatchdog) (calls : List WatchdogCall) : Kept := calls.foldl (call w) started

/-- A run of calls is their composition. -/
theorem exec_call (w : NetworkWatchdog) (calls : List WatchdogCall) (k : Kept) :
    Run.exec (fun k c => some (call w k c)) k calls = some (calls.foldl (call w) k) := by
  induction calls generalizing k with
  | nil => rfl
  | cons c calls ih => exact Run.exec_cons.mpr ⟨call w k c, rfl, ih (call w k c)⟩

/-- Every helper call succeeds. -/
def HelperSucceeds (c : WatchdogCall) : Prop :=
  c.seen.helper = true ∧ ∀ i, c.seen.restoreHelper i = true

/-- The check lowers the metric of the interface if it can. -/
def lowers (w : NetworkWatchdog) (o : Observation) (diagnostics : Dict String Diagnostic)
    (chosen : String) : Bool :=
  w.active && (otherMetrics w o diagnostics chosen).min?.any fun best =>
    best ≤ metricOf o chosen && 0 < best

/-- A metric is changed only where none is remembered for the interface, or where the profile it is
    remembered for is the one that is active now. -/
def ProfileKept (w : NetworkWatchdog) (s : WatchdogState) : WatchdogCall → Prop
  | .check o => ∀ diagnostics ∈ diagnosed w o,
      let current := currentInterface w s o diagnostics
      let chosen :=
        (candidate (healthy w diagnostics) current s.consecutivePreferredSuccesses).1
      chosen ≠ "" → chosen ≠ current → lowers w o diagnostics chosen = true →
        ∀ profile ∈ o.profile, ∀ remembered ∈ Dict.get? s.originalMetrics chosen,
          remembered.1 = profile.1
  | .stop _ _ => True

instance (w : NetworkWatchdog) (s : WatchdogState) :
    (c : WatchdogCall) → Decidable (ProfileKept w s c)
  | .check _ => inferInstanceAs (Decidable (∀ _ ∈ _, _ → _ → _ → ∀ _ ∈ _, ∀ _ ∈ _, _))
  | .stop _ _ => inferInstanceAs (Decidable True)

/-- A metric changed under this profile should be back at the end of the call: at the end of a
    check the interface is an uplink that is not active, or `stop` completed. -/
def Due (w : NetworkWatchdog) (s : WatchdogState) (interface uuid : String) :
    WatchdogCall → Prop
  | .check o => (diagnosed w o).isSome = true ∧ w.Uplink o interface ∧
      interface ≠ s.activeInterface ∧ (o.restoreProfile interface).map Prod.fst = some uuid
  | .stop o running => running = false ∧ (o.restoreProfile interface).map Prod.fst = some uuid

/-- Every account is settled or owed what the watchdog remembers, and the other way around. -/
structure Balanced (w : NetworkWatchdog) (original : Dict String (String × Int))
    (ledger : Ledger) : Prop where
  account : ∀ i u a, ledger i u = some a →
    a.settled = true ∧ a.last = a.owed ∨
      a.settled = false ∧ Dict.get? original i = some (u, a.owed)
  remembered : ∀ i u m, Dict.get? original i = some (u, m) →
    ∃ a, ledger i u = some a ∧ a.settled = false ∧ a.owed = m
  read : ∀ i u a, ledger i u = some a → a.owed ∈ a.reads
  known : ∀ i u a, ledger i u = some a → i ∈ w.interfaces ∧ w.active = true

/-! ## Entering commands -/

/-- Pings enter nothing in the ledger. -/
theorem enter_pings {changed : String → Option Int} {ledger : Ledger} {probes : List NetAction}
    (h : ∀ a ∈ probes, IsPing a) : probes.foldl (enter changed) ledger = ledger := by
  induction probes with
  | nil => rfl
  | cons a probes ih =>
    obtain ⟨interface, target, rfl⟩ := h a List.mem_cons_self
    exact ih fun b hb => h b (List.mem_cons_of_mem _ hb)

section Enter

variable {w : NetworkWatchdog} {original : Dict String (String × Int)} {ledger : Ledger}
  {changed : String → Option Int} {interface uuid : String} {metric : Int}

/-- A change is entered for its own interface. -/
theorem enter_of_ne {i u : String} (h : ¬ (i = interface ∧ u = uuid)) :
    enter changed ledger (.setMetric interface uuid metric) i u = ledger i u := by
  simp only [enter]
  rw [if_neg h]

/-- As a change, or as its undoing. -/
theorem enter_self : enter changed ledger (.setMetric interface uuid metric) interface uuid =
    match changed interface with
    | some before => some (Account.change before metric (ledger interface uuid))
    | none => (ledger interface uuid).map fun a => { a with last := metric, settled := true } :=
  if_pos ⟨rfl, rfl⟩

/-- An account in the new ledger is the one that was written or was there before. -/
theorem of_enter {a : Account}
    (hnew : enter changed ledger (.setMetric interface uuid metric) interface uuid = some a)
    {i u : String} {b : Account}
    (hb : enter changed ledger (.setMetric interface uuid metric) i u = some b) :
    i = interface ∧ u = uuid ∧ b = a ∨ ¬ (i = interface ∧ u = uuid) ∧ ledger i u = some b := by
  by_cases hiu : i = interface ∧ u = uuid
  · obtain ⟨rfl, rfl⟩ := hiu
    rw [hnew] at hb
    exact .inl ⟨rfl, rfl, (Option.some.inj hb).symm⟩
  · rw [enter_of_ne hiu] at hb
    exact .inr ⟨hiu, hb⟩

/-- A pair is for one profile, so the accounts of the others are settled. -/
theorem Balanced.settled (h : Balanced w original ledger) {i u : String} {a : Account}
    (ha : ledger i u = some a) (hother : ∀ m, Dict.get? original i ≠ some (u, m)) :
    a.settled = true ∧ a.last = a.owed := by
  rcases h.account i u a ha with hsettled | ⟨-, hpair⟩
  · exact hsettled
  · exact absurd hpair (hother a.owed)

/-- What is put back settles the account and is forgotten. -/
theorem Balanced.putBack (h : Balanced w original ledger)
    (hpair : Dict.get? original interface = some (uuid, metric))
    (hchanged : changed interface = none) :
    Balanced w (Dict.erase original interface)
      (enter changed ledger (.setMetric interface uuid metric)) := by
  obtain ⟨a, ha, hopen, howed⟩ := h.remembered interface uuid metric hpair
  -- the account gets its last entry, and with it is settled
  have hnew : enter changed ledger (.setMetric interface uuid metric) interface uuid =
      some { a with last := metric, settled := true } := by
    rw [enter_self, hchanged, ha]
    rfl
  constructor
  -- account
  · intro i u b hb
    rcases of_enter hnew hb with ⟨rfl, rfl, rfl⟩ | ⟨hiu, hb⟩
    · exact .inl ⟨rfl, howed.symm⟩
    · rcases h.account i u b hb with hsettled | ⟨hb', hi⟩
      · exact .inl hsettled
      · right
        refine ⟨hb', ?_⟩
        rw [Dict.get?_erase, if_neg]
        · exact hi
        · -- the pair of the interface was for the profile whose account is settled now
          rintro rfl
          rw [hpair] at hi
          exact hiu ⟨rfl, (Prod.mk.inj (Option.some.inj hi)).1.symm⟩
  -- remembered: the other interfaces
  · intro i u m hi
    obtain ⟨hne, hi⟩ := Dict.of_get?_erase hi
    obtain ⟨b, hb, hrest⟩ := h.remembered i u m hi
    exact ⟨b, (enter_of_ne fun hiu => hne hiu.1).trans hb, hrest⟩
  -- read
  · intro i u b hb
    rcases of_enter hnew hb with ⟨rfl, rfl, rfl⟩ | ⟨-, hb⟩
    · exact h.read _ _ a ha
    · exact h.read i u b hb
  -- known
  · intro i u b hb
    rcases of_enter hnew hb with ⟨rfl, rfl, -⟩ | ⟨-, hb⟩
    · exact h.known _ _ a ha
    · exact h.known i u b hb

/-- An account that is opened, with the pair that says what it is owed. -/
theorem Balanced.opened (h : Balanced w original ledger) {original' : Dict String (String × Int)}
    {a : Account}
    (hnew : enter changed ledger (.setMetric interface uuid metric) interface uuid = some a)
    (hopen : a.settled = false) (hread : a.owed ∈ a.reads)
    (hpair : Dict.get? original' interface = some (uuid, a.owed))
    (hothers : ∀ i, i ≠ interface → Dict.get? original' i = Dict.get? original i)
    (hkept : ∀ u m, Dict.get? original interface = some (u, m) → u = uuid)
    (hin : interface ∈ w.interfaces) (hactive : w.active = true) :
    Balanced w original' (enter changed ledger (.setMetric interface uuid metric)) := by
  constructor
  -- account: another profile of the interface has no open account
  · intro i u b hb
    rcases of_enter hnew hb with ⟨rfl, rfl, rfl⟩ | ⟨hiu, hold⟩
    · exact .inr ⟨hopen, hpair⟩
    · by_cases hi : i = interface
      · subst hi
        exact .inl (h.settled hold fun m hm => hiu ⟨rfl, hkept u m hm⟩)
      · rw [hothers i hi]
        exact h.account i u b hold
  -- remembered
  · intro i u m hi
    by_cases hii : i = interface
    · subst hii
      rw [hpair] at hi
      obtain ⟨rfl, rfl⟩ := Prod.mk.inj (Option.some.inj hi)
      exact ⟨a, hnew, hopen, rfl⟩
    · rw [hothers i hii] at hi
      obtain ⟨b, hb, hrest⟩ := h.remembered i u m hi
      exact ⟨b, (enter_of_ne fun hiu => hii hiu.1).trans hb, hrest⟩
  -- read
  · intro i u b hb
    rcases of_enter hnew hb with ⟨-, -, rfl⟩ | ⟨-, hb⟩
    · exact hread
    · exact h.read i u b hb
  -- known
  · intro i u b hb
    rcases of_enter hnew hb with ⟨rfl, -, -⟩ | ⟨-, hb⟩
    · exact ⟨hin, hactive⟩
    · exact h.known i u b hb

/-- A change opens the account of the profile, or leaves it open. -/
theorem Balanced.change (h : Balanced w original ledger) (hin : interface ∈ w.interfaces)
    (hactive : w.active = true)
    (hkept : ∀ remembered ∈ Dict.get? original interface, remembered.1 = uuid) {before : Int}
    (hchanged : changed interface = some before) :
    Balanced w
      (if original.contains interface then original else original.set interface (uuid, before))
      (enter changed ledger (.setMetric interface uuid metric)) := by
  have hnew : enter changed ledger (.setMetric interface uuid metric) interface uuid =
      some (Account.change before metric (ledger interface uuid)) := by
    rw [enter_self, hchanged]
  -- what is remembered of the interface is of the same profile
  have hprofile : ∀ u m, Dict.get? original interface = some (u, m) → u = uuid :=
    fun u m hm => hkept (u, m) hm
  cases hget : Dict.get? original interface with
  | some remembered =>
    -- the account is open, and what it is owed stays remembered
    obtain ⟨v, m⟩ := remembered
    obtain rfl := hprofile v m hget
    obtain ⟨a, ha, hopen, rfl⟩ := h.remembered interface v m hget
    have hcontains : original.contains interface = true := by
      rw [Dict.contains, hget]
      rfl
    have howed : (Account.change before metric (some a)).owed = a.owed := by
      simp [Account.change, hopen]
    rw [if_pos hcontains]
    rw [ha] at hnew
    refine h.opened hnew rfl ?_ (howed.symm ▸ hget) (fun _ _ => rfl) hprofile hin hactive
    rw [howed]
    exact List.mem_cons_of_mem before (h.read interface v a ha)
  | none =>
    -- every account of the interface is settled
    have hcontains : ¬ original.contains interface = true := by
      rw [Dict.contains, hget]
      decide
    -- a settled account opens with the metric that was read now
    have howed : (Account.change before metric (ledger interface uuid)).owed = before ∧
        before ∈ (Account.change before metric (ledger interface uuid)).reads := by
      cases ha : ledger interface uuid with
      | none => exact ⟨rfl, List.mem_cons_self⟩
      | some a =>
        have hsettled := (h.settled ha fun m => by rw [hget]; exact Option.some_ne_none _ |>.symm).1
        exact ⟨if_pos hsettled, List.mem_cons_self⟩
    rw [if_neg hcontains]
    refine h.opened hnew ?_ (howed.1.symm ▸ howed.2) ?_ (fun i hi => Dict.get?_set_ne _ _ hi)
      hprofile hin hactive
    · cases ledger interface uuid <;> rfl
    · rw [Dict.get?_set_self, howed.1]

end Enter

/-! ## Restoring -/

section Restoring

variable {w : NetworkWatchdog} {o : Observation} (changed : String → Option Int) (start : Ledger)

/-- The ledger after the commands of `r` balances what is remembered in it. -/
def BalancedAfter (w : NetworkWatchdog) (r : Watched) : Prop :=
  Balanced w r.state.originalMetrics (r.actions.foldl (enter changed) start)

variable {changed start}

/-- What is put back was remembered. -/
theorem BalancedAfter.restore {r : Watched} (h : BalancedAfter changed start w r)
    {interface : String} (hhelper : o.restoreHelper interface = true)
    (hchanged : changed interface = none) :
    BalancedAfter changed start w (restore o interface r) := by
  simp only [NetworkWatchdog.restore]
  split
  · next uuid metric profile hget _ =>
    split
    · rw [BalancedAfter, List.foldl_append]
      exact Balanced.putBack h hget hchanged
    · exact h
  · exact h

/-- Metrics are only forgotten, and those of the active profile of the interface are. -/
theorem get?_restore {r : Watched} {interface : String}
    (hhelper : o.restoreHelper interface = true) {i : String} {x : String × Int}
    (hx : Dict.get? (restore o interface r).state.originalMetrics i = some x) :
    Dict.get? r.state.originalMetrics i = some x ∧
      (i = interface → (o.restoreProfile interface).map Prod.fst ≠ some x.1) := by
  simp only [restore] at hx
  -- the interface is remembered and its profile can be read
  split at hx
  · next uuid metric profile hget hprofile =>
    split at hx
    · obtain ⟨hne, hold⟩ := Dict.of_get?_erase hx
      exact ⟨hold, fun hi => absurd hi hne⟩
    -- under another profile it stays remembered
    · next hother =>
      refine ⟨hx, ?_⟩
      rintro rfl
      obtain rfl := Option.some.inj (hget.symm.trans hx)
      rw [hprofile]
      exact fun hsome => hother (Option.some.inj hsome)
  -- nothing is remembered, or there is no profile: the state is the same
  · next hnone =>
    refine ⟨hx, ?_⟩
    rintro rfl
    cases hprofile : o.restoreProfile i with
    | none =>
      intro hsome
      cases hsome
    | some profile => exact absurd hprofile (hnone x.1 x.2 profile hx)

/-- The loop over remembered interfaces, those with `C`. -/
def restoring (C : String → String → Prop) [∀ a i, Decidable (C a i)] (o : Observation)
    (r : Watched) (interfaces : List String) : Watched :=
  interfaces.foldl (fun r interface =>
    if C r.state.activeInterface interface then restore o interface r else r) r

/-- The metrics of the interfaces that were not selected are restored one by one. -/
theorem restoreUnselected_eq (o : Observation) (diagnostics : Dict String Diagnostic)
    (r : Watched) :
    restoreUnselected o diagnostics r =
      restoring (fun active i => i ≠ active ∧ hasUplink diagnostics i = true) o r
        (r.state.originalMetrics.map Prod.fst) := rfl

/-- And all of them at the end. -/
theorem restoreMetrics_eq (hactive : w.active = true) (o : Observation) (r : Watched) :
    restoreMetrics w o r =
      restoring (fun _ _ => True) o r (r.state.originalMetrics.map Prod.fst) := by
  rw [restoreMetrics, hactive]
  rfl

variable {C : String → String → Prop} [∀ a i, Decidable (C a i)]

/-- A restoring that succeeds keeps the ledger balanced. -/
theorem BalancedAfter.restoring {r : Watched} (h : BalancedAfter changed start w r)
    (hhelper : ∀ i, o.restoreHelper i = true)
    (hchanged : ∀ i, C r.state.activeInterface i → changed i = none) (interfaces : List String) :
    BalancedAfter changed start w (restoring C o r interfaces) := by
  induction interfaces generalizing r with
  | nil => exact h
  | cons i is ih =>
    rw [NetworkWatchdog.restoring, List.foldl_cons]
    split
    · next hC =>
      have hactive :
          (NetworkWatchdog.restore o i r).state.activeInterface = r.state.activeInterface :=
        (restore_restoredFrom o (P := fun _ => True) trivial r).active
      apply ih (h.restore (hhelper i) (hchanged i hC))
      rw [hactive]
      exact hchanged
    · exact ih h hchanged

/-- What is still remembered was not restored. -/
theorem get?_restoring {r : Watched} (hhelper : ∀ i, o.restoreHelper i = true)
    {interfaces : List String} {i : String} {x : String × Int}
    (hx : Dict.get? (restoring C o r interfaces).state.originalMetrics i = some x) :
    Dict.get? r.state.originalMetrics i = some x ∧
      (i ∈ interfaces → C r.state.activeInterface i →
        (o.restoreProfile i).map Prod.fst ≠ some x.1) := by
  -- induction on the interfaces; a later one takes nothing back
  induction interfaces generalizing r with
  | nil => exact ⟨hx, fun hi => absurd hi List.not_mem_nil⟩
  | cons first rest ih =>
    rw [restoring, List.foldl_cons] at hx
    split at hx
    · next hC =>
      have hactive : (restore o first r).state.activeInterface = r.state.activeInterface :=
        (restore_restoredFrom o (P := fun _ => True) trivial r).active
      obtain ⟨hrest, hlater⟩ := ih hx
      obtain ⟨hold, hfirst⟩ := get?_restore (hhelper first) hrest
      refine ⟨hold, fun hi hCi => ?_⟩
      by_cases hif : i = first
      · rw [hif]
        exact hfirst hif
      · exact hlater ((List.mem_cons.mp hi).resolve_left hif) (hactive.symm ▸ hCi)
    -- this one is not restored in this call
    · next hC =>
      obtain ⟨hold, hlater⟩ := ih hx
      refine ⟨hold, fun hi hCi => ?_⟩
      rcases List.mem_cons.mp hi with rfl | hi
      · exact absurd hCi hC
      · exact hlater hi hCi

/-- After the loop over everything remembered, nothing is remembered for the active profile of an
    interface with `C`. -/
theorem forgotten_of_restoring {r : Watched} (hhelper : ∀ i, o.restoreHelper i = true) {i : String}
    (hC : C r.state.activeInterface i) {uuid : String}
    (hprofile : (o.restoreProfile i).map Prod.fst = some uuid) (m : Int) :
    Dict.get? (restoring C o r (r.state.originalMetrics.map Prod.fst)).state.originalMetrics i ≠
      some (uuid, m) := by
  intro hx
  obtain ⟨hold, hother⟩ := get?_restoring hhelper hx
  have hmem : i ∈ r.state.originalMetrics.map Prod.fst :=
    List.mem_map_of_mem (f := Prod.fst) (Dict.mem_of_get? hold)
  exact hother hmem hC hprofile

end Restoring

/-! ## Calls -/

/-- The change of a check, by the interface that is active after it. -/
def changedIn (o : Observation) (active : String) : String → Option Int :=
  fun i => if i = active then o.profile.map Prod.snd else none

/-- Only the active interface was changed. -/
theorem changedIn_of_ne (o : Observation) {active i : String} (h : i ≠ active) :
    changedIn o active i = none := if_neg h

/-- A selection enters at most the change of the interface it selects. -/
theorem Selected.balanced {w : NetworkWatchdog} {s : WatchdogState} {o : Observation}
    {diagnostics : Dict String Diagnostic} {current chosen : String} {count : Nat} {r : Watched}
    (h : Selected w s o diagnostics current chosen count r) {ledger : Ledger}
    (hbalanced : Balanced w s.originalMetrics ledger) (hhelper : o.helper = true)
    (hin : chosen ≠ "" → chosen ≠ current → chosen ∈ w.interfaces)
    (hkept : chosen ≠ "" → chosen ≠ current → lowers w o diagnostics chosen = true →
      ∀ profile ∈ o.profile, ∀ remembered ∈ Dict.get? s.originalMetrics chosen,
        remembered.1 = profile.1) :
    BalancedAfter (changedIn o r.state.activeInterface) ledger w r := by
  -- what a selection does to the metrics depends on how the route was prepared
  cases h with
  | switched hchosen hcurrent hprepared =>
    cases hprepared with
    | unneeded => exact hbalanced
    -- the metric of the chosen interface has to be lowered
    | @changed best before uuid hneeds hbest hpos hactive hprofile hhelper =>
      have hlowers : lowers w o diagnostics chosen = true := by
        rw [needsMetric, hbest, Option.any_some] at hneeds
        rw [lowers, hactive, hbest, Option.any_some, hneeds, decide_eq_true hpos]
        rfl
      have hchanged : changedIn o chosen chosen = some before := by
        rw [changedIn, if_pos rfl, hprofile]
        rfl
      exact hbalanced.change (hin hchosen hcurrent) hactive
        (hkept hchosen hcurrent hlowers (uuid, before) hprofile) hchanged
  -- the switch was refused, so nothing may have been changed
  | refused hchosen hcurrent hprepared =>
    cases hprepared with
    | refused _ _ hquiet =>
      -- a helper that succeeds was not called
      have hnone := hquiet.resolve_left (by rw [hhelper]; decide)
      rw [hnone]
      exact hbalanced
  | lost => exact hbalanced
  | kept => exact hbalanced

/-- A call that no exception ends keeps the balance. -/
theorem balanced_step {w : NetworkWatchdog} {k : Kept} {c : WatchdogCall}
    (h : Balanced w k.state.originalMetrics k.ledger) (hhelper : HelperSucceeds c)
    (hkept : ProfileKept w k.state c) :
    Balanced w (call w k c).state.originalMetrics (call w k c).ledger := by
  cases c with
  -- a check that raises has pinged and nothing else
  | check o =>
    show Balanced w (checkNetwork w k.state o).state.originalMetrics
      ((checkNetwork w k.state o).actions.foldl
        (enter (changedIn o (checkNetwork w k.state o).state.activeInterface)) k.ledger)
    cases hd : diagnosed w o with
    | none =>
      obtain ⟨probes, hprobes, hcheck⟩ := checkNetwork_of_raise hd k.state
      rw [hcheck, enter_pings hprobes]
      exact h
    -- the rest of it selects an interface, and restores the others
    | some diagnostics =>
      rw [(checkNetwork_checked hd k.state).active]
      obtain ⟨probes, hprobes, hcheck⟩ := checkNetwork_of_diagnosed hd k.state
      have hprofile := hkept diagnostics hd
      simp only at hprofile
      generalize hcandidate : candidate (healthy w diagnostics)
        (currentInterface w k.state o diagnostics) k.state.consecutivePreferredSuccesses =
        choice at hprofile
      obtain ⟨chosen, count⟩ := choice
      have hselected := (select_selected hcandidate).balanced h hhelper.1
        (fun hchosen hne =>
          (List.mem_filter.mp (candidate_healthy hcandidate hchosen hne)).1) hprofile
      rw [hcheck]
      simp only [List.foldl_append]
      rw [enter_pings hprobes, restoreUnselected_eq]
      exact hselected.restoring hhelper.2 (fun i hi => changedIn_of_ne o hi.1) _
  -- `stop` restores all interfaces, unless the thread is still running
  | stop o running =>
    show Balanced w (stop w k.state o running).state.originalMetrics
      ((stop w k.state o running).actions.foldl (enter fun _ => none) k.ledger)
    rw [stop]
    split
    · exact h
    · by_cases hactive : w.active = true
      · rw [restoreMetrics_eq hactive]
        have hstart : BalancedAfter (fun _ => none) k.ledger w ⟨k.state, []⟩ := h
        exact hstart.restoring hhelper.2 (fun _ _ => rfl) _
      · rw [restoreMetrics, if_pos (by simpa using hactive)]
        exact h

/-- What is due is not remembered any more. -/
theorem not_remembered_of_due {w : NetworkWatchdog} {k : Kept} {c : WatchdogCall}
    (hhelper : HelperSucceeds c) {i u : String} (hknown : i ∈ w.interfaces ∧ w.active = true)
    (hdue : Due w (call w k c).state i u c) (m : Int) :
    Dict.get? (call w k c).state.originalMetrics i ≠ some (u, m) := by
  cases c with
  -- an interface that is up and not selected is restored in this check
  | check o =>
    obtain ⟨hended, hup, hactive, hprofile⟩ := hdue
    obtain ⟨diagnostics, hd⟩ := Option.isSome_iff_exists.mp hended
    replace hactive : i ≠ (checkNetwork w k.state o).state.activeInterface := hactive
    rw [(checkNetwork_checked hd k.state).active] at hactive
    have huplink : hasUplink (select w k.state o diagnostics).2 i = true :=
      (hasUplink_select w k.state o diagnostics i).trans (hup.hasUplink hd hknown.1)
    show Dict.get? (checkNetwork w k.state o).state.originalMetrics i ≠ some (u, m)
    obtain ⟨probes, -, hcheck⟩ := checkNetwork_of_diagnosed hd k.state
    rw [hcheck]
    show Dict.get? (restoreUnselected o _ _).state.originalMetrics i ≠ some (u, m)
    rw [restoreUnselected_eq]
    exact forgotten_of_restoring hhelper.2 ⟨hactive, huplink⟩ hprofile m
  -- and every one at the end
  | stop o running =>
    obtain ⟨rfl, hprofile⟩ := hdue
    show Dict.get? (stop w k.state o false).state.originalMetrics i ≠ some (u, m)
    rw [stop, if_neg (by decide), restoreMetrics_eq hknown.2]
    exact forgotten_of_restoring hhelper.2 trivial hprofile m

/-! ## Runs -/

/-- At the beginning nothing is entered. -/
theorem balanced_started (w : NetworkWatchdog) :
    Balanced w started.state.originalMetrics started.ledger where
  account := by
    intro i u a ha
    cases ha
  remembered := by
    intro i u m hm
    cases hm
  read := by
    intro i u a ha
    cases ha
  known := by
    intro i u a ha
    cases ha

/-- A settled account was owed what the profile read before a change. -/
theorem Balanced.undone {w : NetworkWatchdog} {original : Dict String (String × Int)}
    {ledger : Ledger} (h : Balanced w original ledger) {i u : String} {a : Account}
    (ha : ledger i u = some a) (hother : ∀ m, Dict.get? original i ≠ some (u, m)) :
    a.Undone := by
  obtain ⟨hsettled, hlast⟩ := h.settled ha hother
  refine ⟨hsettled, hlast, fun metric hsame => ?_⟩
  rw [hlast]
  exact hsame a.owed (h.read i u a ha)

/-- In a run of checks and stops in which the helper succeeds, and in which a metric is changed
    only where none is remembered for another profile: at the end of a call, every metric that was
    changed under the profile that is active now is back, of every uplink that is not the active
    interface after a check, and of every interface after a stop. -/
theorem metrics_undone (w : NetworkWatchdog) (calls : List WatchdogCall) (c : WatchdogCall)
    (hhelper : ∀ c' ∈ calls ++ [c], HelperSucceeds c')
    (hkept : Run.Along (fun k c => some (call w k c)) (fun k c => ProfileKept w k.state c) started
      (calls ++ [c]))
    (i u : String) (hdue : Due w (after w (calls ++ [c])).state i u c) (a : Account)
    (ha : (after w (calls ++ [c])).ledger i u = some a) : a.Undone := by
  -- each call keeps the books; the run does by induction
  have hstep : ∀ k c k', Balanced w k.state.originalMetrics k.ledger →
      (ProfileKept w k.state c ∧ HelperSucceeds c) → some (call w k c) = some k' →
      Balanced w k'.state.originalMetrics k'.ledger := by
    intro k c k' h hc hcall
    rw [← Option.some.inj hcall]
    exact balanced_step h hc.2 hc.1
  have hbalanced : Balanced w (after w (calls ++ [c])).state.originalMetrics
      (after w (calls ++ [c])).ledger :=
    Run.exec_invariant hstep (balanced_started w) (hkept.and_labels hhelper)
      (exec_call w (calls ++ [c]) started)
  -- the last call forgets what is due in it
  have hlast : after w (calls ++ [c]) = call w (after w calls) c := by
    rw [after, List.foldl_append]
    rfl
  have hknown := hbalanced.known i u a ha
  have hc : HelperSucceeds c := hhelper c (List.mem_append_right calls List.mem_cons_self)
  rw [hlast] at hbalanced hdue ha
  exact hbalanced.undone ha (not_remembered_of_due hc hknown hdue)

/-- A site with two uplinks. -/
def twoUplinks : NetworkWatchdog := ⟨["eth0", "wlan0"], .obj [], ["8.8.8.8"], true⟩

/-- A check of it in which one interface replies, under the profile `selected`, and Wi-Fi is under
    the profile `wifi`. No profile has a metric of its own. -/
def uplinkCheck (eth0 wlan0 : Int) (up : Nat) (selected wifi : String) : WatchdogCall :=
  .check {
    routes := [("eth0", eth0), ("wlan0", wlan0)]
    physicalUp := fun _ => some true
    ping := fun i _ => if i = up then .replied else .silent
    profile := some (selected, -1)
    helper := true
    restoreProfile := fun i => some (if i = "eth0" then "wired" else wifi, -1)
    restoreHelper := fun _ => true }

/-- In the checks of the example the helper succeeds. -/
theorem uplinkCheck_helperSucceeds (eth0 wlan0 : Int) (up : Nat) (selected wifi : String) :
    HelperSucceeds (uplinkCheck eth0 wlan0 up selected wifi) := ⟨rfl, fun _ => rfl⟩

/-- Wi-Fi takes over under the profile `home`, and Ethernet when Wi-Fi is under `wifi`. -/
def backAndForth (wifi : String) : List WatchdogCall :=
  [uplinkCheck 100 600 0 "wired" "home", uplinkCheck 100 600 1 "home" "home",
    uplinkCheck 100 99 0 "wired" wifi]

/-- Under the same profile the metric of Wi-Fi is put back. -/
theorem metrics_undone_wifi :
    (after twoUplinks (backAndForth "home" ++ [uplinkCheck 98 600 0 "wired" "home"])).ledger
        "wlan0" "home" = some ⟨[-1], -1, -1, true⟩ ∧
      (Account.mk [-1] (-1) (-1) true).Undone := by
  refine ⟨by decide, ?_⟩
  apply metrics_undone twoUplinks (backAndForth "home") (uplinkCheck 98 600 0 "wired" "home") ?_ ?_
    "wlan0" "home" ?_ _ (by decide)
  · intro c hc
    simp only [backAndForth, List.cons_append, List.nil_append, List.mem_cons, List.not_mem_nil,
      or_false] at hc
    rcases hc with rfl | rfl | rfl | rfl <;> exact uplinkCheck_helperSucceeds ..
  · decide
  · exact ⟨by decide, ⟨_, _, rfl, by decide⟩, by decide, by decide⟩

/-- Wi-Fi takes over under one profile and then under another. The pair that is remembered is for
    the first one, so the metric that was set under the second one is never put back. -/
theorem metric_left :
    (∀ c ∈ backAndForth "office" ++
        [uplinkCheck 98 600 1 "office" "office", uplinkCheck 98 97 0 "wired" "office"],
      HelperSucceeds c) ∧
    Due twoUplinks
        (after twoUplinks (backAndForth "office" ++
          [uplinkCheck 98 600 1 "office" "office", uplinkCheck 98 97 0 "wired" "office"])).state
        "wlan0" "office" (uplinkCheck 98 97 0 "wired" "office") ∧
      (after twoUplinks (backAndForth "office" ++ [uplinkCheck 98 600 1 "office" "office",
        uplinkCheck 98 97 0 "wired" "office"])).ledger "wlan0" "office" =
          some ⟨[-1], -1, 97, false⟩ ∧
      ¬ (Account.mk [-1] (-1) 97 false).Undone := by
  refine ⟨?_, ⟨by decide, ⟨_, _, rfl, by decide⟩, by decide, by decide⟩, by decide, ?_⟩
  · intro c hc
    simp only [backAndForth, List.cons_append, List.nil_append, List.mem_cons, List.not_mem_nil,
      or_false] at hc
    rcases hc with rfl | rfl | rfl | rfl | rfl <;> exact uplinkCheck_helperSucceeds ..
  · intro h
    cases h.1

end NetworkWatchdog

end Novena

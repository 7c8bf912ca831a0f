import NovenaGateway.Native.ConnectorRestart
import NovenaGateway.Spec.JsonEquality
import NovenaGateway.Spec.ValidConfig

/-!
# What the restart of a connector answers

The running instance is taken away before its entry of the configuration is looked up, and the
answer is the same when no entry is found, when its type is not one of `DEFAULT_CONNECTORS` and
when the class is not found. In these cases, and when a second connector runs under the same name,
`restarted` is answered although the connector was not replaced.

Key results:
- `Registry.restart_replaces_iff`
- `Registry.restart_without_name`
-/

namespace Novena

namespace Registry

open NovenaGateway (connectorEntries startConnector startResult)

/-- The connector answers to this name. -/
def named (name : Json) (c : Connector) : Bool := name.eq (.str c.name)

/-- One instance was made, it is the one connector of that name, and the others are as before. -/
structure Replaced (r r' : Registry) (name : Json) : Prop where
  created : r'.created = r.created + 1
  one : ∃ s, name = .str s ∧ r'.connectors.filter (named name) = [⟨r.created, s⟩]
  others : r'.connectors.filter (fun c => !named name c) =
    r.connectors.filter fun c => !named name c

/-- A connector has its own name. -/
theorem named_self (id : Nat) (s : String) : named (.str s) ⟨id, s⟩ = true := by
  simp [named, Json.eq, Json.same]

/-- Nothing raises when the entry is read, and `DEFAULT_CONNECTORS` is asked for this key. -/
structure Readable (entry : Json) (key : Json.Key) : Prop where
  hasType : ∃ ctype, entry.item "type" = .ok ctype ∧ ctype.hashKey = .ok key
  settings : ∃ ccfg, entry.getD "config" (.obj []) = .ok (.obj ccfg)

/-- The type is one of `DEFAULT_CONNECTORS`. -/
def Known (key : Json.Key) : Prop := key ∈ defaultConnectors.map Json.Key.str

/-- The restarts that answer and do not replace the connector. -/
inductive Misleads (r : Registry) (params : Json) (load : LoadOutcome) (target : Connector) : Prop
  | noEntry (h : r.connectorConfig (params.field "name") = .ok none)
  | unknownType {entry : Json} {key : Json.Key}
      (h : r.connectorConfig (params.field "name") = .ok (some entry))
      (hentry : Readable entry key) (hkey : ¬Known key)
  | notLoaded {entry : Json} {key : Json.Key} {errors : String}
      (h : r.connectorConfig (params.field "name") = .ok (some entry))
      (hentry : Readable entry key) (hkey : Known key) (hload : load = .notLoaded errors)
  /-- A second connector runs under the name. -/
  | namesake {entry : Json} {key : Json.Key} {config : Dict String Json → Dict String Json}
      {other : Connector} (h : r.connectorConfig (params.field "name") = .ok (some entry))
      (hentry : Readable entry key) (hkey : Known key) (hload : load = .opened config)
      (hother : other ∈ r.connectors.erase target)
      (hname : named (params.field "name") other = true)

/-! ## Reading the entry -/

/-- An entry that is found has the name. -/
theorem configNamed_some {name entry : Json} {entries : List Json}
    (h : configNamed name entries = .ok (some entry)) :
    ∃ entryName, entry.get "name" = .ok entryName ∧ entryName.eq name = true := by
  induction entries with
  | nil => cases h
  | cons first entries ih =>
    unfold configNamed at h
    split at h
    · cases h
    · next entryName hname =>
      split at h
      · next heq =>
        obtain rfl : first = entry := Option.some.inj (Except.ok.inj h)
        exact ⟨entryName, hname, heq⟩
      · exact ih h

/-- The loop of the model that starts the entry finds the one this loop finds. -/
theorem startNamed_result (name : Json) (outcome : StartOutcome) (entries : List Json) :
    (startNamed name outcome entries).2 = match configNamed name entries with
      | .ok (some entry) => (startConnector outcome entry).2.toOption
      | _ => none := by
  induction entries with
  | nil => rfl
  | cons entry entries ih =>
    unfold startNamed configNamed
    cases entry.get "name" with
    | error e => rfl
    | ok entryName =>
      dsimp only
      split
      · dsimp only
        generalize startConnector outcome entry = started
        obtain ⟨_, result⟩ := started
        cases result <;> rfl
      · exact ih

/-- An entry is loaded when it can be read and its module is known or not raised about. -/
theorem restartEntry_ok {load : LoadOutcome} {entry : Json} :
    restartEntry load entry = .ok () ↔
      ∃ key, Readable entry key ∧
        ∀ e text config, load = .raised e text config → ¬Known key := by
  constructor
  -- the handler got to its end, so every step before it went through
  · intro h
    unfold restartEntry at h
    simp only [Except.bind_eq_ok] at h
    obtain ⟨ctype, htype, cname, _, ccfg, hconfig, _, hset, key, hkey, h⟩ := h
    have hobj : ∃ fields, ccfg = .obj fields := by
      cases ccfg <;> first | exact ⟨_, rfl⟩ | cases hset
    obtain ⟨fields, rfl⟩ := hobj
    refine ⟨key, ⟨⟨ctype, htype, hkey⟩, ⟨fields, hconfig⟩⟩, ?_⟩
    -- a known type is loaded, and the load that raised would have raised here
    rintro e text config rfl hknown
    rw [if_pos (show key ∈ defaultConnectors.map Json.Key.str from hknown)] at h
    cases h
  -- and they all go through for a readable entry
  · rintro ⟨key, ⟨⟨ctype, htype, hkey⟩, ⟨fields, hconfig⟩⟩, hraised⟩
    have hname : ∃ cname, entry.getD "name" ctype = .ok cname := by
      cases entry <;> first | exact ⟨_, rfl⟩ | cases hconfig
    obtain ⟨cname, hname⟩ := hname
    simp only [restartEntry, htype, hname, hconfig, Except.ok_bind, Json.setItem, hkey]
    -- the type is not known, so nothing is loaded
    split
    · next hknown =>
      cases load with
      | opened config => rfl
      | notLoaded errors => rfl
      | raised e text config => exact absurd hknown (hraised e text config rfl)
    · rfl

/-- The result of an entry that can be read: its name, and success for a known type that opens. -/
theorem startConnector_readable {entry name : Json} {key : Json.Key} (hentry : Readable entry key)
    (hget : entry.get "name" = .ok name) (hpresent : name ≠ .null) (outcome : StartOutcome) :
    ∃ result, (startConnector outcome entry).2 = .ok result ∧ result.name = name ∧
      (result.success = true ↔ Known key ∧ outcome.error = none) := by
  obtain ⟨⟨ctype, htype, hkey⟩, ⟨ccfg, hconfig⟩⟩ := hentry
  cases entry with
  | obj fields =>
    -- a readable entry is an object, whose type and name are read with `get`
    have hfound : Dict.get? fields "type" = some ctype := by
      simp only [Json.item] at htype
      split at htype
      · next x hx => rw [hx, Except.ok.inj htype]
      · cases htype
    have hnamed : Dict.get? fields "name" = some name := by
      simp only [Json.get_obj, Except.ok.injEq] at hget
      cases h : Dict.get? fields "name" with
      | some x => rw [h] at hget; exact congrArg some hget
      | none => rw [h] at hget; exact absurd hget.symm hpresent
    have hresult : (startConnector outcome (.obj fields)).2 = startResult outcome name ctype := by
      simp only [startConnector, hfound, hnamed, Option.getD_some]
      simp only [Json.getD_obj, Except.ok.injEq] at hconfig
      cases h : Dict.get? fields "config" with
      | none => rfl
      | some x =>
        rw [h, Option.getD_some] at hconfig
        rw [hconfig]
    rw [hresult]
    simp only [startResult, hkey]
    -- an unknown type is reported, not raised
    by_cases hknown : Known key
    · rw [if_pos (show key ∈ defaultConnectors.map Json.Key.str from hknown)]
      exact ⟨_, rfl, rfl, by simp [StartResult.success, hknown]⟩
    · rw [if_neg (show key ∉ defaultConnectors.map Json.Key.str from hknown)]
      exact ⟨_, rfl, rfl, by simp [StartResult.success, hknown]⟩
  | _ => cases hconfig

/-! ## The connectors afterwards -/

/-- An entry of the configuration that is found has the name. -/
theorem connectorConfig_some {r : Registry} {name entry : Json}
    (h : r.connectorConfig name = .ok (some entry)) :
    ∃ entryName, entry.get "name" = .ok entryName ∧ entryName.eq name = true := by
  unfold connectorConfig at h
  split at h
  · cases h
  · exact configNamed_some h

/-- Where the connectors are not a list, no entry has a name. -/
theorem configNamed_strings (name : Json) {α : Type} (f : α → String) (xs : List α)
    (entry : Json) : configNamed name (xs.map fun x => .str (f x)) ≠ .ok (some entry) := by
  cases xs with
  | nil => intro h; cases h
  | cons x xs => intro h; cases h

/-- It is looked for in the list of the connectors. -/
theorem connectorConfig_list {r : Registry} {fields : List (String × Json)} {entries : List Json}
    (hconfig : r.config = .obj fields)
    (hlist : Dict.get? fields "connectors" = some (.arr entries)) (name : Json) :
    r.connectorConfig name = configNamed name entries := by
  have hentries : connectorEntries r.config = .ok entries := by
    simp only [connectorEntries, hconfig, Json.getD_obj, hlist, Option.getD_some, Except.ok_bind]
    rfl
  simp only [connectorConfig, hentries]

/-- An entry with a name is found in a list of connectors only. -/
theorem connectorConfig_found {r : Registry} {name entry : Json}
    (h : r.connectorConfig name = .ok (some entry)) :
    ∃ fields entries, r.config = .obj fields ∧
      Dict.get? fields "connectors" = some (.arr entries) := by
  unfold connectorConfig at h
  split at h
  · cases h
  next entries hentries =>
  cases hconfig : r.config with
  | obj fields =>
    simp only [connectorEntries, hconfig, Json.getD_obj, Except.ok_bind] at hentries
    -- without `connectors` there is nothing to find
    cases hlist : Dict.get? fields "connectors" with
    | none =>
      rw [hlist] at hentries
      obtain rfl : [] = entries := Except.ok.inj hentries
      cases h
    | some x =>
      rw [hlist] at hentries
      cases x with
      | arr xs => exact ⟨fields, xs, rfl, hlist⟩
      -- the characters of a string and the keys of an object are no entries
      | str s =>
        obtain rfl := Except.ok.inj hentries
        exact absurd h (configNamed_strings name String.singleton s.toList entry)
      | obj fields =>
        obtain rfl := Except.ok.inj hentries
        exact absurd h (configNamed_strings name Prod.fst fields entry)
      | _ => cases hentries
  | _ => rw [hconfig] at hentries; cases hentries

/-- Without an entry nothing is made. -/
theorem reopen_of_none {r : Registry} {name : Json} (h : r.connectorConfig name = .ok none)
    (outcome : StartOutcome) : (r.reopen name outcome).created = r.created := by
  unfold reopen
  split
  · next fields hconfig =>
    split
    · next entries hlist =>
      rw [connectorConfig_list hconfig hlist] at h
      have hresult : (startNamed name outcome entries).2 = none := by
        rw [startNamed_result, h]
      simp only [hresult]
    · rfl
  · rfl

/-- The entry that is found is started: an instance is made when that succeeds. -/
theorem reopen_of_some {r : Registry} {name entry : Json} {outcome : StartOutcome}
    {result : StartResult} (h : r.connectorConfig name = .ok (some entry))
    (hstart : (startConnector outcome entry).2 = .ok result) :
    if result.success then
      (r.reopen name outcome).created = r.created + 1 ∧
        (r.reopen name outcome).connectors = r.connectors ++ [⟨r.created, result.name.toStr⟩]
    else (r.reopen name outcome).created = r.created := by
  obtain ⟨fields, entries, hconfig, hlist⟩ := connectorConfig_found h
  rw [connectorConfig_list hconfig hlist] at h
  have hresult : (startNamed name outcome entries).2 = some result := by
    rw [startNamed_result, h]
    simp only [hstart, Except.toOption]
  unfold reopen
  simp only [hconfig, hlist, hresult]
  cases result.success with
  | true => exact ⟨rfl, rfl⟩
  | false => rfl

/-! ## Answers -/

/-- The connector to restart is the first with the name. -/
theorem restartTarget_named {r : Registry} {params : Json} {target : Connector}
    (h : r.restartTarget params = some target) :
    params.get "name" = .ok (.str target.name) ∧ (Json.str target.name).truthy = true ∧
      r.connectors.find? (named (.str target.name)) = some target := by
  unfold restartTarget at h
  split at h
  · next name hname =>
    split at h
    · next htruthy =>
      have hfound := List.find?_some h
      obtain rfl := Json.eq_str hfound
      exact ⟨hname, htruthy, h⟩
    · cases h
  · cases h

/-- Without one no answer says that it was restarted. -/
theorem restartAnswer_of_none {r : Registry} {params : Json} (h : r.restartTarget params = none)
    (load : LoadOutcome) (answer : Json) : r.restartAnswer params load ≠ .ok answer := by
  unfold restartAnswer
  cases hname : params.get "name" with
  | error e => intro h; cases h
  | ok name =>
    simp only [Except.ok_bind, h]
    split
    · intro h; cases h
    · intro h; cases h

/-- A connector that is found is answered for exactly when neither the lookup nor the start of its
    entry raises. -/
theorem restartAnswer_of_some {r : Registry} {params : Json} {target : Connector}
    (h : r.restartTarget params = some target) (load : LoadOutcome) :
    (∃ answer, r.restartAnswer params load = .ok answer) ↔
      r.connectorConfig (params.field "name") = .ok none ∨
        ∃ entry, r.connectorConfig (params.field "name") = .ok (some entry) ∧
          restartEntry load entry = .ok () := by
  obtain ⟨hname, htruthy, _⟩ := restartTarget_named h
  rw [Json.get_eq_field hname]
  simp only [restartAnswer, hname, htruthy, h, Except.ok_bind]
  cases r.connectorConfig (.str target.name) with
  | error e => simp [bind, Except.bind]
  | ok found =>
    cases found with
    | none => simp [bind, Except.bind, pure, Except.pure]
    | some entry =>
      cases hentry : restartEntry load entry with
      | error e => simp [bind, Except.bind, hentry]
      | ok u => simp [bind, Except.bind, pure, Except.pure, hentry]

/-- Taking away a connector that was found leaves the ones that were not looked for. -/
theorem filter_erase_found {cs : List Connector} {p : Connector → Bool} {target : Connector}
    (h : cs.find? p = some target) :
    (cs.erase target).filter (fun c => !p c) = cs.filter fun c => !p c := by
  have hp : p target = true := List.find?_some h
  have hnotMem : target ∉ cs.filter fun c => !p c := by simp [hp]
  rw [← List.erase_filter, List.erase_of_not_mem hnotMem]

/-- With one it is closed, and another is opened in its place. -/
theorem restartConnector_of_some {r : Registry} {params : Json} {target : Connector}
    (h : r.restartTarget params = some target) (outcome : StartOutcome) :
    r.restartConnector params outcome =
      reopen { r with connectors := r.connectors.erase target } (params.field "name") outcome := by
  simp only [restartConnector, h]

/-- What is left when the entry can be read: an instance of the same name is made exactly when the
    type is known and it opens. -/
theorem restart_readable {r : Registry} {params : Json} {target : Connector} {entry : Json}
    {key : Json.Key} (htarget : r.restartTarget params = some target)
    (h : r.connectorConfig (params.field "name") = .ok (some entry)) (hentry : Readable entry key)
    (outcome : StartOutcome) :
    (Known key ∧ outcome.error = none →
      (r.restartConnector params outcome).created = r.created + 1 ∧
        (r.restartConnector params outcome).connectors =
          r.connectors.erase target ++ [⟨r.created, target.name⟩]) ∧
      (¬(Known key ∧ outcome.error = none) →
        (r.restartConnector params outcome).created = r.created) := by
  obtain ⟨hname, _, _⟩ := restartTarget_named htarget
  rw [restartConnector_of_some htarget]
  rw [Json.get_eq_field hname] at h ⊢
  obtain ⟨entryName, hget, heq⟩ := connectorConfig_some h
  obtain rfl := Json.eq_str heq
  obtain ⟨result, hstart, hresult, hsuccess⟩ :=
    startConnector_readable hentry hget (by intro h; cases h) outcome
  -- the instance that was closed is gone from the list, and the new one is at its end
  have hreopen := reopen_of_some
    (r := { r with connectors := r.connectors.erase target }) h hstart
  rw [hresult] at hreopen
  constructor
  · intro hopened
    rwa [if_pos (hsuccess.mpr hopened)] at hreopen
  · intro hnot
    rwa [if_neg (fun h => hnot (hsuccess.mp h))] at hreopen

/-- A restart that misleads answers, and does not replace the connector. -/
theorem Misleads.not_replaced {r : Registry} {params : Json} {load : LoadOutcome}
    {target : Connector} (htarget : r.restartTarget params = some target)
    (h : Misleads r params load target) :
    (∃ answer, r.restartAnswer params load = .ok answer) ∧
      ¬Replaced r (r.restartConnector params load.startOutcome) (params.field "name") := by
  rw [restartAnswer_of_some htarget]
  cases h with
  -- the configuration has no entry of the name
  | noEntry h =>
    refine ⟨.inl h, fun hreplaced => ?_⟩
    have hleft : (r.restartConnector params load.startOutcome).created = r.created := by
      rw [restartConnector_of_some htarget]
      exact reopen_of_none (r := { r with connectors := r.connectors.erase target }) h _
    rw [hreplaced.created] at hleft
    exact absurd hleft (Nat.succ_ne_self _)
  -- its type is no connector
  | @unknownType entry key h hentry hkey =>
    refine ⟨.inr ⟨entry, h, restartEntry_ok.mpr ⟨key, hentry, fun _ _ _ _ => hkey⟩⟩, ?_⟩
    intro hreplaced
    have hleft := (restart_readable htarget h hentry load.startOutcome).2
      (fun hopened => hkey hopened.1)
    rw [hreplaced.created] at hleft
    exact absurd hleft (Nat.succ_ne_self _)
  -- the module could not be loaded
  | @notLoaded entry key errors h hentry hkey hload =>
    subst hload
    refine ⟨.inr ⟨entry, h, restartEntry_ok.mpr ⟨key, hentry, fun _ _ _ h => by cases h⟩⟩, ?_⟩
    intro hreplaced
    have hleft := (restart_readable htarget h hentry (LoadOutcome.notLoaded errors).startOutcome).2
      (fun hopened => by cases hopened.2)
    rw [hreplaced.created] at hleft
    exact absurd hleft (Nat.succ_ne_self _)
  -- a second instance has the name
  | @namesake entry key config other h hentry hkey hload hother hname =>
    subst hload
    refine ⟨.inr ⟨entry, h, restartEntry_ok.mpr ⟨key, hentry, fun _ _ _ h => by cases h⟩⟩, ?_⟩
    intro hreplaced
    obtain ⟨_, hleft⟩ := (restart_readable htarget h hentry ⟨none, config⟩).1 ⟨hkey, rfl⟩
    obtain ⟨s, _, hone⟩ := hreplaced.one
    have hnew : named (params.field "name") ⟨r.created, target.name⟩ = true := by
      rw [Json.get_eq_field (restartTarget_named htarget).1]
      exact named_self _ _
    -- the other one and the new instance are two
    have hother : other ∈ (r.connectors.erase target).filter (named (params.field "name")) :=
      List.mem_filter.mpr ⟨hother, hname⟩
    have hlength := congrArg List.length hone
    rw [LoadOutcome.startOutcome, hleft, List.filter_append, List.filter_cons_of_pos hnew] at hlength
    have hpos := List.length_pos_of_mem hother
    simp only [List.length_append, List.filter_nil, List.length_singleton] at hlength
    omega

/-- The answer means that the connector was replaced, unless the restart is one that misleads. -/
theorem restart_replaces_iff (r : Registry) (params : Json) (load : LoadOutcome) :
    (∀ answer, (r.cmdRestartConnector params load).2 = .ok answer →
        Replaced r (r.cmdRestartConnector params load).1 (params.field "name")) ↔
      ∀ target, r.restartTarget params = some target → ¬Misleads r params load target := by
  constructor
  -- an answer that comes with a failed restart is one of these four
  · intro h target htarget hmisleads
    obtain ⟨⟨answer, hanswer⟩, hnot⟩ := hmisleads.not_replaced htarget
    exact hnot (h answer hanswer)
  -- and when it is none of them, the restart has gone through
  · intro h answer hanswer
    cases htarget : r.restartTarget params with
    | none => exact absurd hanswer (restartAnswer_of_none htarget load answer)
    | some target =>
      have hnot := h target htarget
      obtain hnone | ⟨entry, hfound, hentry⟩ :=
        (restartAnswer_of_some htarget load).mp ⟨answer, hanswer⟩
      · exact absurd (.noEntry hnone) hnot
      obtain ⟨key, hreadable, hraised⟩ := restartEntry_ok.mp hentry
      -- each of the four is excluded in turn
      have hkey : Known key := by
        by_contra hkey
        exact hnot (.unknownType hfound hreadable hkey)
      obtain ⟨config, rfl⟩ : ∃ config, load = .opened config := by
        cases load with
        | opened config => exact ⟨config, rfl⟩
        | notLoaded errors => exact absurd (.notLoaded hfound hreadable hkey rfl) hnot
        | raised e text config => exact absurd hkey (hraised e text config rfl)
      have hleft := (restart_readable htarget hfound hreadable ⟨none, config⟩).1 ⟨hkey, rfl⟩
      obtain ⟨hname, _, hfind⟩ := restartTarget_named htarget
      have hnamesakes : (r.connectors.erase target).filter (named (.str target.name)) = [] := by
        apply List.filter_eq_nil_iff.mpr
        intro other hother hnamed
        rw [← Json.get_eq_field hname] at hnamed
        exact hnot (.namesake hfound hreadable hkey rfl hother hnamed)
      have hnew := named_self r.created target.name
      rw [Json.get_eq_field hname]
      refine ⟨hleft.1, ⟨target.name, rfl, ?_⟩, ?_⟩
      · show (r.restartConnector params ⟨none, config⟩).connectors.filter _ = _
        rw [hleft.2, List.filter_append, hnamesakes, List.filter_cons_of_pos hnew]
        rfl
      · show (r.restartConnector params ⟨none, config⟩).connectors.filter _ = _
        rw [hleft.2, List.filter_append, filter_erase_found hfind]
        simp [hnew]

/-- A station whose connector is named after its type, as it runs. -/
def unnamedStation : Registry :=
  (start (init (.obj (Station.config "local" [.obj [("type", .str "modbus"),
    ("config", .obj [("master", .obj [("slaves", .arr [])]), ("slave", .obj [])])]])))
    fun _ => .opened).1

/-- It runs as `modbus`, and no entry has that name: the restart stops it for good and answers that
    it was restarted. -/
theorem restart_without_name :
    unnamedStation.connectors = [⟨0, "modbus"⟩] ∧
      (unnamedStation.cmdRestartConnector (.obj [("name", .str "modbus")]) (.opened id)).2 =
        .ok (.obj [("connector", .str "modbus"), ("restarted", .bool true)]) ∧
      (unnamedStation.cmdRestartConnector (.obj [("name", .str "modbus")])
        (.opened id)).1.connectors = [] ∧
      ¬∀ (r : Registry) (params : Json) (load : LoadOutcome) (answer : Json),
        (r.cmdRestartConnector params load).2 = .ok answer →
          Replaced r (r.cmdRestartConnector params load).1 (params.field "name") := by
  have hanswer : (unnamedStation.cmdRestartConnector (.obj [("name", .str "modbus")])
      (.opened id)).2 = .ok (.obj [("connector", .str "modbus"), ("restarted", .bool true)]) := rfl
  refine ⟨rfl, hanswer, rfl, fun h => ?_⟩
  obtain ⟨s, _, hone⟩ := (h unnamedStation _ (.opened id) _ hanswer).one
  exact absurd hone (List.cons_ne_nil _ _).symm

end Registry

end Novena

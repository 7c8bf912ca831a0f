import NovenaGateway.ForStd.Run
import NovenaGateway.Spec.ConfigRollback
import NovenaGateway.Spec.JsonEquality

/-!
# What connector messages do to the configuration

`connector_update`, `connector_add` and `connector_remove` edit the list `connectors` of the
configuration in the file and write it back. A message that succeeds leaves every other section as
it was, and the connectors it does not name as well. A connector without a name is started under
its type, which no message looks at. The names stay distinct for as long as no message brings a
list of its own in which two connectors have the same name, and none adds a connector under the
type of one that has no name: both are written as they are.

## Key results

- `RemoteConfigHandler.edits_of_updatedConfig`: what each action makes of the list
- `RemoteConfigHandler.frame_and_names_iff`: a run keeps frame and names exactly when every list
  it brings, and every connector it adds, does
-/

namespace Novena

namespace RemoteConfigHandler

open NovenaGateway (connectorEntries)

variable {host : Host}

/-! ## The list and the names in it -/

/-- The name a message finds a connector by, `conn.get("name")`. -/
def nameOf : Json → Json
  | .obj fields => (Dict.get? fields "name").getD .null
  | _ => .null

/-- The name a connector is started under: the type stands in for a name that is missing. -/
def connectorName : Json → Json
  | .obj fields => (Dict.get? fields "name").getD ((Dict.get? fields "type").getD .null)
  | _ => .null

/-- The list `connectors` of a configuration. -/
def connectorList : Json → List Json
  | .obj fields => match Dict.get? fields "connectors" with
    | some (.arr connectors) => connectors
    | _ => []
  | _ => []

/-- Everything else at the top of a configuration. -/
def otherSections : Json → Dict String Json
  | .obj fields => Dict.erase fields "connectors"
  | _ => []

/-- Some value is equal to the names of both. -/
def SameName (a b : Json) : Prop :=
  ∃ name, (connectorName a).eq name = true ∧ (connectorName b).eq name = true

/-- No two of the connectors have the same name. -/
def DistinctNames (connectors : List Json) : Prop := connectors.Pairwise fun a b => ¬SameName a b

/-- It is the name `_start_connectors` opens the connector under. -/
theorem connectorName_of_started {outcome : StartOutcome} {c : Json} {result : StartResult}
    (h : (NovenaGateway.startConnector outcome c).2 = .ok result) :
    result.name = connectorName c := by
  -- every result that is returned carries the name it was asked for
  have hname : ∀ {name type : Json},
      NovenaGateway.startResult outcome name type = .ok result → result.name = name := by
    intro name type h
    unfold NovenaGateway.startResult at h
    split at h
    · cases h
    · split at h <;> exact (congrArg StartResult.name (Except.ok.inj h)).symm
  unfold NovenaGateway.startConnector at h
  split at h
  -- only an object gets so far, and one without a type raises before
  · next fields =>
    split at h
    · cases h
    · next type htype =>
      -- the name defaults to the type
      have heffective : connectorName (.obj fields) = (Dict.get? fields "name").getD type := by
        simp only [connectorName, htype, Option.getD_some]
      dsimp only at h
      split at h
      · exact (hname h).trans heffective.symm
      · exact (hname h).trans heffective.symm
      · cases h
  · cases h

/-- A name that is there is the one the connector is found by. -/
theorem connectorName_eq {c : Json} (h : nameOf c ≠ .null) : connectorName c = nameOf c := by
  cases c with
  | obj fields =>
    simp only [connectorName, nameOf] at h ⊢
    cases hname : Dict.get? fields "name" with
    | none => exact absurd (by rw [hname]; rfl) h
    | some name => rfl
  | _ => exact absurd rfl h

/-- For texts it is the plain thing. -/
theorem sameName_iff {a b : Json} {s t : String} (ha : connectorName a = .str s)
    (hb : connectorName b = .str t) : SameName a b ↔ s = t := by
  have heq : ∀ {u : String} {v : Json}, (Json.str u).eq v = true ↔ v = .str u := by
    intro u v
    simp only [Json.eq]
    exact Json.same_str
  simp only [SameName, ha, hb, heq]
  constructor
  · rintro ⟨name, rfl, h⟩
    exact Json.str.inj h
  · rintro rfl
    exact ⟨_, rfl, rfl⟩

/-! ## The messages -/

/-- A message for the connectors after its envelope was verified, and what its start will bring. -/
structure ConnectorMessage where
  wire : Dict String Json
  config : Dict String Json
  idempotencyKey : String
  revision : Int
  outcomes : Nat → StartOutcome
  rollbackOutcomes : Nat → StartOutcome

/-- The three actions. -/
def ConnectorMessage.IsConnector (m : ConnectorMessage) : Prop :=
  requestedAction m.wire = .str "connector_update" ∨
    requestedAction m.wire = .str "connector_add" ∨
    requestedAction m.wire = .str "connector_remove"

/-- The list a `connector_update` brings. -/
def ConnectorMessage.list (m : ConnectorMessage) : Option (List Json) :=
  if (requestedAction m.wire).eq (.str "connector_update") then
    match Dict.get? m.config "connectors" with
    | some (.arr connectors) => some connectors
    | _ => none
  else none

/-- The name that a message for a single connector gives. -/
def ConnectorMessage.name (m : ConnectorMessage) : Json := nameOf (.obj m.config)

/-- The last acknowledgement says `success`. -/
def isSuccess (acks : List ConfigAck) : Bool :=
  match acks.getLast? with
  | some ⟨_, .finished result, _, _, _, _⟩ => result.status = .success
  | _ => false

variable (host) in
/-- A message that succeeds. -/
def connectorStep (g : NovenaGateway) (m : ConnectorMessage) : Option NovenaGateway :=
  let handled :=
    handleConfig host g m.wire m.config m.idempotencyKey m.revision m.outcomes m.rollbackOutcomes
  if isSuccess handled.2 then some handled.1 else none

/-! ## The loops over the list -/

/-- The name of an entry is its field. -/
theorem get_name {conn v : Json} (h : conn.get "name" = .ok v) : v = nameOf conn := by
  cases conn with
  | obj fields =>
    simp only [Json.get, Except.ok.injEq] at h
    exact h.symm
  | _ => cases h

/-- Only a list of objects has entries with a `get`. -/
theorem connectorEntries_of_get {current conn v : Json} {entries : List Json}
    (hentries : connectorEntries current = .ok entries) (hmem : conn ∈ entries)
    (hget : conn.get "name" = .ok v) : entries = connectorList current := by
  -- a member with a `get` is an object, so that the entries come from a list
  cases current with
  | obj fields =>
    simp only [connectorEntries, Json.getD, Except.ok_bind] at hentries
    show entries = match Dict.get? fields "connectors" with
      | some (.arr connectors) => connectors
      | _ => []
    cases hconnectors : Dict.get? fields "connectors" with
    | none =>
      simp only [hconnectors, Option.getD_none, Except.pure_eq_ok] at hentries
      exact hentries.symm
    | some value =>
      simp only [hconnectors, Option.getD_some] at hentries
      cases value with
      | arr connectors =>
        simp only [Except.pure_eq_ok] at hentries
        exact hentries.symm
      -- the keys of an object have no `get`
      | obj fields =>
        simp only [Except.pure_eq_ok] at hentries
        subst hentries
        obtain ⟨p, _, rfl⟩ := List.mem_map.mp hmem
        cases hget
      -- and neither have the characters of a string
      | str s =>
        simp only [Except.pure_eq_ok] at hentries
        subst hentries
        obtain ⟨c, _, rfl⟩ := List.mem_map.mp hmem
        cases hget
      | _ => simp at hentries
  | _ => simp [connectorEntries, Json.getD] at hentries

/-- A connector of the name is replaced. -/
theorem replaceNamed_eq_some {name connector : Json} {old new : List Json}
    (h : replaceNamed name connector old = .ok (some new)) : ∃ before c after,
      old = before ++ c :: after ∧ new = before ++ connector :: after ∧
      c.get "name" = .ok (nameOf c) ∧ (nameOf c).eq name = true := by
  induction old generalizing new with
  | nil => simp [replaceNamed] at h
  | cons c old ih =>
    simp only [replaceNamed, Except.bind_eq_ok] at h
    obtain ⟨v, hv, h⟩ := h
    obtain rfl := get_name hv
    split at h
    · next hname =>
      simp only [Except.pure_eq_ok, Option.some.injEq] at h
      exact ⟨[], c, old, rfl, h.symm, hv, hname⟩
    · simp only [Except.bind_eq_ok, Except.pure_eq_ok] at h
      obtain ⟨rest, hrest, h⟩ := h
      obtain ⟨new', rfl, rfl⟩ := Option.map_eq_some_iff.mp h
      obtain ⟨before, c', after, rfl, rfl, hfound⟩ := ih hrest
      exact ⟨c :: before, c', after, rfl, rfl, hfound⟩

/-- The connectors of the name are gone, and every connector was looked at. -/
theorem withoutNamed_eq {name : Json} {connectors remaining : List Json}
    (h : withoutNamed name connectors = .ok remaining) :
    remaining = connectors.filter (fun c => !(nameOf c).eq name) ∧
      ∀ c ∈ connectors, c.get "name" = .ok (nameOf c) := by
  -- induction on the connectors; a member without `get` raises
  induction connectors generalizing remaining with
  | nil =>
    simp only [withoutNamed, Except.ok.injEq] at h
    exact ⟨h.symm, fun c hc => absurd hc List.not_mem_nil⟩
  | cons c connectors ih =>
    simp only [withoutNamed, Except.bind_eq_ok] at h
    obtain ⟨v, hv, h⟩ := h
    obtain rfl := get_name hv
    have hall : (∀ x ∈ connectors, x.get "name" = .ok (nameOf x)) →
        ∀ x ∈ c :: connectors, x.get "name" = .ok (nameOf x) := by
      intro hrest x hx
      obtain rfl | hx := List.mem_cons.mp hx
      · exact hv
      · exact hrest x hx
    -- the name is the one to remove, or the connector stays
    split at h
    · next hname =>
      obtain ⟨rfl, hrest⟩ := ih h
      exact ⟨by simp [hname], hall hrest⟩
    · next hname =>
      simp only [Except.bind_eq_ok, Except.pure_eq_ok] at h
      obtain ⟨rest, hrest, rfl⟩ := h
      obtain ⟨rfl, hget⟩ := ih hrest
      exact ⟨by simp [hname], hall hget⟩

/-! ## What they leave -/

/-- Python's `==` is transitive. -/
theorem eq_trans {a b c : Json} (hab : a.eq b = true) (hbc : b.eq c = true) :
    a.eq c = true := by
  have hsame : ∀ {x y : Json}, x.eq y = true → Json.same x y = true ∧ x ≠ .float .nan := by
    intro x y hxy
    unfold Json.eq at hxy
    split at hxy
    · cases hxy
    · next hnan =>
      refine ⟨hxy, ?_⟩
      rintro rfl
      exact hnan rfl (Json.same_nan.mp hxy)
  obtain ⟨hab, ha⟩ := hsame hab
  unfold Json.eq
  split
  · exact absurd rfl ha
  · exact Json.same_trans hab (hsame hbc).1

/-- A connector that is added has a name of its own in the list. -/
def ConnectorMessage.Fresh (m : ConnectorMessage) (old : List Json) : Prop :=
  requestedAction m.wire = .str "connector_add" → ∀ c ∈ old, ¬SameName c (.obj m.config)

/-- What a message for a single connector leaves of the list: the connectors of other names in
    their order, and nothing new except the connector it brings. -/
structure Kept (m : ConnectorMessage) (old new : List Json) : Prop where
  others : (old.filter fun c => !(nameOf c).eq m.name).Sublist new
  known : ∀ c ∈ new, c ∈ old ∨ c = .obj m.config
  distinct : m.Fresh old → DistinctNames old → DistinctNames new

/-- A connector takes the place of the first one of its name. -/
theorem Kept.replaced {m : ConnectorMessage} {before after : List Json} {c : Json}
    (htruthy : m.name.truthy = true) (hname : (nameOf c).eq m.name = true) :
    Kept m (before ++ c :: after) (before ++ .obj m.config :: after) where
  -- the connectors of other names stand where they stood
  others := by
    rw [List.filter_append, List.filter_cons_of_neg (by simp [hname])]
    exact List.filter_sublist.append (List.filter_sublist.trans (List.sublist_cons_self _ _))
  -- known
  known := by
    intro x hx
    simp only [List.mem_append, List.mem_cons] at hx ⊢
    tauto
  -- distinct
  distinct := by
    intro _ hold
    -- both are started under the name of the message
    have hnew : connectorName (.obj m.config) = m.name := by
      refine connectorName_eq fun hnull => ?_
      rw [ConnectorMessage.name, hnull] at htruthy
      cases htruthy
    have hc : connectorName c = nameOf c := by
      refine connectorName_eq fun hnull => ?_
      rw [hnull] at hname
      have hnone : m.name = .null := Json.same_null.mp (by simpa [Json.eq] using hname)
      rw [hnone] at htruthy
      cases htruthy
    -- so a name of the new one is a name of the old one
    have hsame : ∀ {v : Json}, (connectorName (.obj m.config)).eq v = true →
        (connectorName c).eq v = true := by
      intro v hv
      rw [hnew] at hv
      rw [hc]
      exact eq_trans hname hv
    simp only [DistinctNames, List.pairwise_append, List.pairwise_cons, List.mem_cons] at hold ⊢
    obtain ⟨hb, ⟨hold, ha⟩, hcross⟩ := hold
    refine ⟨hb, ⟨?_, ha⟩, ?_⟩
    -- the new one and those behind it
    · rintro y hy ⟨v, hv, hyv⟩
      exact hold y hy ⟨v, hsame hv, hyv⟩
    -- those before it and the new one
    · intro x hx y hy
      obtain rfl | hy := hy
      · rintro ⟨v, hxv, hv⟩
        exact hcross x hx c (.inl rfl) ⟨v, hxv, hsame hv⟩
      · exact hcross x hx y (.inr hy)

/-- A connector comes last. -/
theorem Kept.added {m : ConnectorMessage} {old : List Json}
    (haction : requestedAction m.wire = .str "connector_add") :
    Kept m old (old ++ [.obj m.config]) where
  others := List.filter_sublist.trans (List.sublist_append_left _ _)
  known := by
    intro x hx
    rwa [List.mem_append, List.mem_singleton] at hx
  distinct := by
    intro hfresh hold
    apply List.pairwise_append.mpr
    refine ⟨hold, List.pairwise_singleton _ _, ?_⟩
    intro x hx y hy
    rw [List.mem_singleton.mp hy]
    exact hfresh haction x hx

/-- The connectors of a name go. -/
theorem Kept.removed (m : ConnectorMessage) (old : List Json) :
    Kept m old (old.filter fun c => !(nameOf c).eq m.name) where
  others := List.Sublist.refl _
  known _ hc := .inl (List.mem_of_mem_filter hc)
  distinct _ hold := hold.sublist List.filter_sublist

/-- What a message makes of a configuration. -/
structure Edits (m : ConnectorMessage) (current updated : Json) : Prop where
  sections : otherSections updated = otherSections current
  listed : ∀ connectors, m.list = some connectors → connectorList updated = connectors
  single : m.list = none → Kept m (connectorList current) (connectorList updated)
  added : requestedAction m.wire = .str "connector_add" →
    connectorList updated = connectorList current ++ [.obj m.config]

/-- A message that brings no list. -/
theorem Edits.of_single {m : ConnectorMessage} {current updated : Json} (hlist : m.list = none)
    (hsections : otherSections updated = otherSections current)
    (hkept : Kept m (connectorList current) (connectorList updated))
    (hadded : requestedAction m.wire = .str "connector_add" →
      connectorList updated = connectorList current ++ [.obj m.config]) :
    Edits m current updated where
  sections := hsections
  listed _ hsome := by
    rw [hlist] at hsome
    cases hsome
  single _ := hkept
  added := hadded

/-- The list is set, and nothing else. -/
theorem sections_setItem {current updated : Json} {connectors : List Json}
    (h : current.setItem "connectors" (.arr connectors) = .ok updated) :
    otherSections updated = otherSections current ∧ connectorList updated = connectors := by
  cases current with
  | obj fields =>
    simp only [Json.setItem, Except.ok.injEq] at h
    subst h
    refine ⟨Dict.erase_set _ _ _, ?_⟩
    simp only [connectorList, Dict.get?_set_self]
  | _ => cases h

/-- `connector_update`. -/
theorem Edits.update {m : ConnectorMessage} {current updated : Json}
    (haction : requestedAction m.wire = .str "connector_update")
    (h : applyConnectorUpdate host current m.config = .ok updated) : Edits m current updated := by
  simp only [applyConnectorUpdate, Except.bind_eq_ok] at h
  -- `config` is checked, then `connectors` of the file is set
  obtain ⟨connectors, hconnectors, config, hset, hvalidated⟩ := h
  obtain ⟨rfl, _⟩ := validated_ok hvalidated
  obtain ⟨hsections, hlist⟩ := sections_setItem hset
  -- of the three actions only this one reads a list from the message
  have hm : m.list = match Dict.get? m.config "connectors" with
      | some (.arr connectors) => some connectors
      | _ => none := by
    simp [ConnectorMessage.list, haction, Json.eq, Json.same]
  have hadded : requestedAction m.wire = .str "connector_add" →
      connectorList updated = connectorList current ++ [.obj m.config] := by
    intro hadd
    rw [haction] at hadd
    exact absurd (Json.str.inj hadd) (by decide)
  unfold updatedConnectors at hconnectors
  -- a list replaces all connectors; without one the named connector is replaced
  split at hconnectors
  · next connectors' hget =>
    simp only [Except.ok.injEq] at hconnectors
    subst hconnectors
    rw [hget] at hm
    refine ⟨hsections, ?_, ?_, hadded⟩
    · intro connectors'' hsome
      rw [hm, Option.some.injEq] at hsome
      rw [hlist, hsome]
    · intro hnone
      -- a list was sent, so nothing is edited by name
      rw [hm] at hnone
      cases hnone
  · cases hconnectors
  · next hget =>
    rw [hget] at hm
    refine ⟨hsections, ?_, ?_, hadded⟩
    · intro connectors' hsome
      rw [hm] at hsome
      cases hsome
    · intro _
      dsimp only at hconnectors
      split at hconnectors
      · simp at hconnectors
      next htruthy =>
      simp only [Except.bind_eq_ok] at hconnectors
      obtain ⟨entries, hentries, result, hresult, hconnectors⟩ := hconnectors
      cases result with
      | none => simp at hconnectors
      | some new =>
        simp only [Except.pure_eq_ok] at hconnectors
        subst hconnectors
        -- the first connector with the name is replaced, and only that one
        obtain ⟨before, c, after, rfl, rfl, hc, hname⟩ := replaceNamed_eq_some hresult
        have hold := connectorEntries_of_get hentries
          (List.mem_append_right _ List.mem_cons_self) hc
        rw [hlist, ← hold]
        have htruthy' : m.name.truthy = true := by
          simpa [ConnectorMessage.name, nameOf] using htruthy
        exact .replaced htruthy' hname

/-- `connector_add`. -/
theorem Edits.add {m : ConnectorMessage} {current updated : Json}
    (haction : requestedAction m.wire = .str "connector_add") (hlist : m.list = none)
    (h : applyConnectorAdd host current m.config = .ok updated) : Edits m current updated := by
  simp only [applyConnectorAdd] at h
  -- a name in use is refused
  split at h
  · simp at h
  simp only [Except.bind_eq_ok] at h
  obtain ⟨entries, hentries, found, hfound, h⟩ := h
  cases found with
  | true => simp at h
  -- the name is free; the list of the file gets one more
  | false =>
    simp only [Bool.false_eq_true, if_false, Except.bind_eq_ok] at h
    obtain ⟨value, hvalue, h⟩ := h
    cases value with
    | arr connectors =>
      simp only [Except.bind_eq_ok] at h
      obtain ⟨config, hset, hvalidated⟩ := h
      obtain ⟨rfl, _⟩ := validated_ok hvalidated
      obtain ⟨hsections, hnew⟩ := sections_setItem hset
      have hentries' : entries = connectors := by
        simp only [connectorEntries, hvalue, Except.ok_bind, Except.pure_eq_ok] at hentries
        exact hentries.symm
      subst hentries'
      have hold : entries = connectorList current := by
        cases current with
        | obj fields =>
          simp only [Json.getD, Except.ok.injEq] at hvalue
          show entries = match Dict.get? fields "connectors" with
            | some (.arr connectors) => connectors
            | _ => []
          cases hget : Dict.get? fields "connectors" with
          | none =>
            rw [hget] at hvalue
            cases hvalue
            rfl
          | some value =>
            rw [hget] at hvalue
            cases hvalue
            rfl
        -- the other values have no `connectors`
        | _ => cases hvalue
      refine .of_single hlist hsections ?_ fun _ => ?_
      · rw [hnew, ← hold]
        exact .added haction
      · rw [hnew, ← hold]
    | _ => simp at h

/-- `connector_remove`. -/
theorem Edits.remove {m : ConnectorMessage} {current updated : Json}
    (haction : requestedAction m.wire = .str "connector_remove") (hlist : m.list = none)
    (h : applyConnectorRemove host current m.config = .ok updated) : Edits m current updated := by
  simp only [applyConnectorRemove] at h
  -- without a name there is nothing to remove
  split at h
  · simp at h
  simp only [Except.bind_eq_ok] at h
  obtain ⟨entries, hentries, remaining, hremaining, h⟩ := h
  -- and the same if no connector has the name
  split at h
  · simp at h
  · next hlength =>
    simp only [Except.bind_eq_ok] at h
    obtain ⟨config, hset, hvalidated⟩ := h
    obtain ⟨rfl, _⟩ := validated_ok hvalidated
    obtain ⟨hsections, hnew⟩ := sections_setItem hset
    refine .of_single hlist hsections ?_ fun hadd => ?_
    rotate_left
    · rw [haction] at hadd
      exact absurd (Json.str.inj hadd) (by decide)
    -- what is left is those of other names
    obtain ⟨rfl, hget⟩ := withoutNamed_eq hremaining
    cases entries with
    | nil => exact absurd rfl hlength
    | cons c entries =>
      have hold := connectorEntries_of_get hentries List.mem_cons_self (hget c List.mem_cons_self)
      rw [hnew, ← hold]
      exact .removed m _

/-- What a message for the connectors makes of the configuration in the file. -/
theorem edits_of_updatedConfig {m : ConnectorMessage} {current updated : Json}
    (hm : m.IsConnector)
    (h : updatedConfig host current (requestedAction m.wire) m.config = .ok updated) :
    Edits m current updated := by
  have hlist : requestedAction m.wire ≠ .str "connector_update" → m.list = none := by
    intro hne
    unfold ConnectorMessage.list
    rw [if_neg]
    exact fun heq => hne (Json.eq_str heq)
  unfold updatedConfig at h
  obtain haction | haction | haction := hm
  · rw [haction] at h
    exact .update haction h
  · rw [haction] at h
    exact .add haction (hlist (by rw [haction]; simp)) h
  · rw [haction] at h
    exact .remove haction (hlist (by rw [haction]; simp)) h

/-! ## Runs -/

/-- A message that succeeds has put what it prepared into the file. -/
theorem configFile_of_success {g : NovenaGateway} {wire config : Dict String Json}
    {idempotencyKey : String} {revision : Int} {outcomes rollbackOutcomes : Nat → StartOutcome}
    (h : isSuccess (handleConfig host g wire config idempotencyKey revision outcomes
      rollbackOutcomes).2 = true) :
    updatedConfig host g.configFile (requestedAction wire) config =
      .ok (handleConfig host g wire config idempotencyKey revision outcomes
        rollbackOutcomes).1.configFile := by
  unfold handleConfig at h ⊢
  -- an empty configuration is refused before anything is tried
  by_cases hempty : config.isEmpty
  · rw [if_pos hempty] at h
    cases h
  rw [if_neg hempty] at h ⊢
  unfold requestedAction
  -- the file is edited first
  cases hupdated : updatedConfig host g.configFile
    ((Dict.get? wire "action").getD (.str "full_update")) config with
  | error e =>
    dsimp only at h
    rw [hupdated] at h
    cases h
  | ok updated =>
    have hcases := applyConfigWithRollback_cases g updated outcomes rollbackOutcomes
    simp only [hupdated] at h ⊢
    generalize applyConfigWithRollback g updated outcomes rollbackOutcomes = applied at hcases h ⊢
    obtain ⟨g', result⟩ := applied
    cases result with
    | error e => cases h
    | ok result =>
      have hstatus : result.status = .success := of_decide_eq_true h
      -- success means that every connector has been started with the new file
      obtain ⟨_, _, herror, _⟩ | ⟨_, _, _, _, hfile, _⟩ | ⟨_, hrolled, _⟩ := hcases
      · cases herror
      · exact congrArg Except.ok hfile.symm
      -- a rollback does not report success
      · have hback := hrolled result rfl
        rw [hstatus] at hback
        cases hback

/-- A message leaves the updated configuration behind. -/
theorem configFile_of_step {g g' : NovenaGateway} {m : ConnectorMessage}
    (h : connectorStep host g m = some g') :
    updatedConfig host g.configFile (requestedAction m.wire) m.config = .ok g'.configFile := by
  unfold connectorStep at h
  dsimp only at h
  split at h
  · next hsuccess =>
    obtain rfl := Option.some.inj h
    exact configFile_of_success hsuccess
  · cases h

/-- What is to hold of a message that succeeds: it edits the list of connectors only, keeps those
    it does not name, and no two connectors have the same name. -/
structure Framed (m : ConnectorMessage) (current updated : Json) : Prop where
  sections : otherSections updated = otherSections current
  others : m.list = none →
    ((connectorList current).filter fun c => !(nameOf c).eq m.name).Sublist (connectorList updated)
  names : DistinctNames (connectorList updated)

/-- The names that are brought are distinct: those of a list, and that of a connector that is added
    from those of the file. -/
def ConnectorMessage.Distinct (m : ConnectorMessage) (current : Json) : Prop :=
  (∀ connectors, m.list = some connectors → DistinctNames connectors) ∧
    m.Fresh (connectorList current)

/-- The names are distinct after a message exactly when those it brings are. -/
theorem Edits.distinct_iff {m : ConnectorMessage} {current updated : Json}
    (h : Edits m current updated) (hold : DistinctNames (connectorList current)) :
    DistinctNames (connectorList updated) ↔ m.Distinct current := by
  constructor
  · intro hnew
    refine ⟨fun connectors hlist => ?_, fun hadd c hc => ?_⟩
    · rwa [h.listed connectors hlist] at hnew
    · rw [h.added hadd] at hnew
      exact (List.pairwise_append.mp hnew).2.2 c hc _ List.mem_cons_self
  · rintro ⟨hlisted, hfresh⟩
    cases hlist : m.list with
    | none => exact (h.single hlist).distinct hfresh hold
    | some connectors =>
      rw [h.listed connectors hlist]
      exact hlisted connectors hlist

/-- In a run of messages that succeed, every message keeps to the connectors it names and leaves
    distinct names if and only if none brings a name twice, or adds one that is there. -/
theorem frame_and_names_iff {ms : List ConnectorMessage} {g g' : NovenaGateway}
    (hms : ∀ m ∈ ms, m.IsConnector) (hg : DistinctNames (connectorList g.configFile))
    (hrun : Run.exec (connectorStep host) g ms = some g') :
    Run.Along (connectorStep host)
        (fun g m => ∀ g', connectorStep host g m = some g' → Framed m g.configFile g'.configFile)
        g ms ↔
      Run.Along (connectorStep host) (fun g m => m.Distinct g.configFile) g ms := by
  -- induction on the messages; what a later one needs are distinct names after the first
  induction ms generalizing g with
  | nil => exact Iff.rfl
  | cons m ms ih =>
    obtain ⟨g₁, hstep, hrest⟩ := Run.exec_cons.mp hrun
    have hedits := edits_of_updatedConfig (hms m List.mem_cons_self) (configFile_of_step hstep)
    have hfirst : Framed m g.configFile g₁.configFile ↔ m.Distinct g.configFile := by
      rw [← hedits.distinct_iff hg]
      exact ⟨Framed.names, fun hnames =>
        ⟨hedits.sections, fun hnone => (hedits.single hnone).others, hnames⟩⟩
    have hlater := fun hnames => ih (fun m' hm' => hms m' (List.mem_cons_of_mem m hm')) hnames hrest
    simp only [Run.Along, hstep, Option.some.injEq, forall_eq']
    -- the names before the rest are distinct on either side
    constructor
    · rintro ⟨hframed, htail⟩
      exact ⟨hfirst.mp hframed, (hlater hframed.names).mp htail⟩
    · rintro ⟨hdistinct, htail⟩
      have hframed := hfirst.mpr hdistinct
      exact ⟨hframed, (hlater hframed.names).mpr htail⟩

/-! ## A station's connectors -/

section Station

/-- A message to the station, whose connectors all start. -/
def stationMessage (action : String) (config : Dict String Json) : ConnectorMessage where
  wire := stationUpdate action config
  config := config
  idempotencyKey := "idempotency-1"
  revision := 1
  outcomes _ := .opened
  rollbackOutcomes _ := .opened

def pump : Dict String Json := [("name", .str "pump"), ("type", .str "modbus")]

/-- A pump is added, changed and removed again, and the meter stays. -/
def pumpMessages : List ConnectorMessage :=
  [stationMessage "connector_add" pump,
    stationMessage "connector_update" (pump ++ [("config", .obj [])]),
    stationMessage "connector_remove" [("name", .str "pump")]]

/-- A station with these connectors in its file. -/
def stationWith (connectors : List Json) : NovenaGateway :=
  { station with configFile := .obj (Station.config "local" connectors) }

/-- A connector of one name is none of the other. -/
theorem not_sameName {a b : Json} {s t : String} (ha : connectorName a = .str s)
    (hb : connectorName b = .str t) (hne : s ≠ t) : ¬SameName a b :=
  fun h => hne ((sameName_iff ha hb).mp h)

/-- A pump is added beside a connector without name. -/
theorem frame_and_names_iff_pump : ∃ g',
    Run.exec (connectorStep Station.host) (stationWith [nameless]) pumpMessages = some g' ∧
    Run.Along (connectorStep Station.host)
      (fun g m => ∀ g', connectorStep Station.host g m = some g' →
        Framed m g.configFile g'.configFile) (stationWith [nameless]) pumpMessages := by
  -- only an addition has to be fresh
  have hfresh : ∀ {action : String} {config : Dict String Json} {old : List Json},
      action ≠ "connector_add" → (stationMessage action config).Fresh old :=
    fun hne hadd => absurd (Json.str.inj hadd) hne
  refine ⟨_, rfl, (frame_and_names_iff ?_ ?_ rfl).mpr ?_⟩
  · intro m hm
    simp only [pumpMessages, List.mem_cons, List.not_mem_nil, or_false] at hm
    obtain rfl | rfl | rfl := hm
    · exact .inr (.inl rfl)
    · exact .inl rfl
    · exact .inr (.inr rfl)
  · exact List.pairwise_singleton _ _
  · refine ⟨⟨fun _ hlist => (by cases hlist), fun _ c hc => ?_⟩, fun _ hadd => ?_⟩
    · -- the connector that is there runs as `modbus`
      obtain rfl := List.mem_singleton.mp hc
      exact not_sameName (s := "modbus") (t := "pump") rfl rfl (by decide)
    · obtain rfl := Option.some.inj hadd
      refine ⟨⟨fun _ hlist => (by cases hlist), hfresh (by decide)⟩, fun _ hupdate => ?_⟩
      obtain rfl := Option.some.inj hupdate
      exact ⟨⟨fun _ hlist => (by cases hlist), hfresh (by decide)⟩, fun _ _ => trivial⟩

/-- A list with the meter twice is written as it is, and a connector is added under the type of the
    one without a name: both then run as `modbus`. -/
theorem two_of_a_name :
    (∃ g', connectorStep Station.host station
        (stationMessage "connector_update"
          [("connectors", .arr [Station.meter, Station.meter])]) = some g' ∧
      DistinctNames (connectorList station.configFile) ∧
      ¬DistinctNames (connectorList g'.configFile)) ∧
    ∃ g', connectorStep Station.host (stationWith [nameless])
        (stationMessage "connector_add" [("name", .str "modbus"), ("type", .str "modbus")]) =
          some g' ∧
      DistinctNames (connectorList (stationWith [nameless]).configFile) ∧
      ¬DistinctNames (connectorList g'.configFile) ∧
      g'.connectors = [.str "modbus", .str "modbus"] := by
  have htwice : ∀ {a b : Json} {s : String}, connectorName a = .str s → connectorName b = .str s →
      ¬DistinctNames [a, b] := by
    intro a b s ha hb hdistinct
    exact List.rel_of_pairwise_cons hdistinct List.mem_cons_self ((sameName_iff ha hb).mpr rfl)
  refine ⟨⟨_, rfl, List.pairwise_singleton _ _, ?_⟩, _, rfl, List.pairwise_singleton _ _, ?_, rfl⟩
  · exact htwice (s := "meter") rfl rfl
  · exact htwice (s := "modbus") rfl rfl

end Station

end RemoteConfigHandler

end Novena

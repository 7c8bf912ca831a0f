import NovenaGateway.ForStd.DictMap
import NovenaGateway.Native.BackwardCompatibility
import NovenaGateway.Spec.ConfigRollback

/-!
# What the Modbus connector leaves of its configuration

The constructor rebuilds the section `slave` of the dictionary it is given, and that dictionary is
the one inside the gateway's configuration. It touches nothing else, and what it has rebuilt once
it leaves alone, so that a restart of the connector from the configuration in memory finds it as
the first start left it.

Key results:
- `Prepared.modbus`
- `BackwardCompatibilityAdapter.convert_convert`
-/

namespace Novena

namespace BackwardCompatibilityAdapter

/-! ## Nothing but the slave -/

/-- `convert` writes no key but `slave`. -/
theorem convert_other (saved : Bool) (config : Dict String Json) {key : String}
    (h : key ≠ "slave") : Dict.get? (convert saved config).1 key = Dict.get? config key := by
  unfold convert
  split
  · rfl
  · split
    · split
      · rfl
      · exact Dict.get?_set_ne _ _ h
    · rfl

/-- The slaves that are polled are found under two other keys. -/
theorem slaves_convert (saved : Bool) (config : Dict String Json) :
    slaves (.obj (convert saved config).1) = slaves (.obj config) := by
  simp only [slaves, Json.get_obj, Json.item, convert_other saved config
    (show "server" ≠ "slave" by decide), convert_other saved config
    (show "master" ≠ "slave" by decide)]

/-! ## The values -/

/-- `values` in its newer form: under every key an object that is not empty. -/
structure Merged (values : Dict String Json) : Prop where
  keys : (values.map Prod.fst).Nodup
  objects : ∀ p ∈ values, ∃ first fields, p.2 = .obj (first :: fields) ∧
    ((first :: fields).map Prod.fst).Nodup

/-- No entries are merged. -/
theorem Merged.nil : Merged [] := ⟨List.nodup_nil, fun _ h => absurd h List.not_mem_nil⟩

/-- A merged entry is set. -/
theorem Merged.set {values : Dict String Json} (h : Merged values) {key : String}
    {first : String × Json} {fields : List (String × Json)}
    (hnodup : ((first :: fields).map Prod.fst).Nodup) :
    Merged (Dict.set values key (.obj (first :: fields))) where
  keys := Dict.nodup_set h.keys _ _
  objects p hp := by
    obtain rfl | hp := Dict.mem_set hp
    · exact ⟨first, fields, rfl, hnodup⟩
    · exact h.objects p hp

/-- A section goes to the others of its key, or is the first of them. -/
theorem Merged.addSection {values : Dict String Json} (h : Merged values) (key : String)
    (entry : String × Json) : Merged (addSection key values entry) := by
  unfold BackwardCompatibilityAdapter.addSection
  split
  · next fields hfields =>
    obtain ⟨first, rest, heq, hnodup⟩ := h.objects _ (Dict.mem_of_get? hfields)
    obtain rfl := Json.obj.inj heq
    have hset := Dict.nodup_set hnodup entry.1 entry.2
    cases hs : Dict.set (first :: rest) entry.1 entry.2 with
    | nil => rw [Dict.set] at hs; split at hs <;> cases hs
    | cons first' rest' => rw [hs] at hset; exact h.set hset
  · exact h.set (List.nodup_singleton _)

/-- And its sections are added one by one. -/
theorem Merged.addSections {values : Dict String Json} (h : Merged values) (key : String)
    (fields : List (String × Json)) :
    Merged (fields.foldl (BackwardCompatibilityAdapter.addSection key) values) := by
  induction fields generalizing values with
  | nil => exact h
  | cons entry fields ih => exact ih (h.addSection key entry)

/-- Whatever the old values are, the new ones have the newer form. -/
theorem Merged.convertValues {values : Dict String Json} (h : Merged values)
    (old : Dict String Json) : Merged (convertValues values old).1 := by
  induction old generalizing values with
  | nil => exact h
  | cons p old ih =>
    obtain ⟨key, value⟩ := p
    unfold BackwardCompatibilityAdapter.convertValues
    split
    · exact h
    · next fields _ => exact ih (h.addSections key fields)

/-- The sections of a key come one behind the other. -/
theorem foldl_addSection (values : Dict String Json) (key : String)
    (fields : List (String × Json)) {before : List (String × Json)} (hnodup : ((before ++ fields).map Prod.fst).Nodup) :
    fields.foldl (addSection key) (Dict.set values key (.obj before)) =
      Dict.set values key (.obj (before ++ fields)) := by
  induction fields generalizing before with
  | nil => rw [List.append_nil, List.foldl_nil]
  | cons entry fields ih =>
    obtain ⟨name, value⟩ := entry
    have hnew : Dict.get? before name = none := by
      by_contra h
      have hmem := Dict.mem_keys_of_get?_isSome (Option.isSome_iff_ne_none.mpr h)
      rw [List.map_append, List.nodup_append] at hnodup
      exact hnodup.2.2 _ hmem name List.mem_cons_self rfl
    have hadd : addSection key (Dict.set values key (.obj before)) (name, value) =
        Dict.set values key (.obj (before ++ [(name, value)])) := by
      simp only [addSection, Dict.get?_set_self, Dict.set_set, Dict.set_of_get?_eq_none hnew]
    rw [List.foldl_cons, hadd, ih (by rwa [List.append_assoc, List.singleton_append]),
      List.append_assoc, List.singleton_append]

/-- Values in the newer form are converted to themselves. -/
theorem convertValues_merged (values rest : Dict String Json) (h : Merged (values ++ rest)) :
    convertValues values rest = (values ++ rest, true) := by
  induction rest generalizing values with
  | nil => rw [List.append_nil, convertValues]
  | cons p rest ih =>
    obtain ⟨key, value⟩ := p
    obtain ⟨first, fields, hvalue, hnodup⟩ :=
      h.objects (key, value) (List.mem_append_right _ List.mem_cons_self)
    obtain rfl : value = .obj (first :: fields) := hvalue
    have hkey : Dict.get? values key = none := by
      by_contra hfound
      have hmem := Dict.mem_keys_of_get?_isSome (Option.isSome_iff_ne_none.mpr hfound)
      have hkeys := h.keys
      rw [List.map_append, List.nodup_append] at hkeys
      exact hkeys.2.2 _ hmem key List.mem_cons_self rfl
    have hfirst : addSection key values first = Dict.set values key (.obj [first]) := by
      simp only [addSection, hkey]
    have hfold : (first :: fields).foldl (addSection key) values =
        values ++ [(key, .obj (first :: fields))] := by
      rw [List.foldl_cons, hfirst, foldl_addSection values key fields hnodup,
        Dict.set_of_get?_eq_none hkey, List.singleton_append]
    simp only [convertValues, sections, hfold]
    rw [ih _ (by rwa [List.append_assoc, List.singleton_append]), List.append_assoc,
      List.singleton_append]

/-! ## The same configuration again -/

/-- A section `slave` that was converted is converted to itself. -/
theorem convertSlaveConfiguration_again {slave slave' : Json}
    (h : convertSlaveConfiguration slave = (slave', true)) :
    convertSlaveConfiguration slave' = (slave', true) := by
  unfold convertSlaveConfiguration at h
  split at h
  · obtain ⟨rfl, _⟩ := Prod.mk.inj h
    rfl
  split at h
  · next fields _ =>
    -- every branch that returns leaves values in the newer form
    obtain ⟨values, hmerged, rfl⟩ : ∃ values, Merged values ∧ slave' =
        .obj (Dict.set (Dict.erase fields "values") "values" (.obj values)) := by
      dsimp only at h
      split at h
      · next old _ => exact ⟨_, Merged.nil.convertValues old, (congrArg Prod.fst h).symm⟩
      · exact ⟨[], .nil, (congrArg Prod.fst h).symm⟩
      · exact ⟨[], .nil, (congrArg Prod.fst h).symm⟩
      · cases h
    have htruthy : (Json.obj (Dict.set (Dict.erase fields "values") "values" (.obj values))).truthy
        = true := by
      have hsome := Dict.get?_set_self (Dict.erase fields "values") "values" (Json.obj values)
      cases hd : Dict.set (Dict.erase fields "values") "values" (Json.obj values) with
      | nil => rw [hd] at hsome; cases hsome
      | cons => rfl
    have hagain := convertValues_merged [] values hmerged
    simp only [convertSlaveConfiguration, htruthy, Dict.get?_set_self, Option.getD_some,
      Dict.erase_set, hagain, List.nil_append]
    simp [Dict.erase]
  · cases h

/-- A configuration that was converted is converted to itself. -/
theorem convert_convert {saved : Bool} {config : Dict String Json}
    (h : (convert saved config).2 = true) :
    convert saved (convert saved config).1 = ((convert saved config).1, true) := by
  have hslaves := slaves_convert saved config
  have hserver := convert_other saved config (show "server" ≠ "slave" by decide)
  generalize hconverted : (convert saved config).1 = converted at hslaves hserver ⊢
  unfold convert at h hconverted ⊢
  rw [hslaves, hserver]
  cases hs : slaves (.obj config) with
  | error e => rw [hs] at h; cases h
  | ok found =>
    rw [hs] at h hconverted
    dsimp only at h hconverted ⊢
    split at h
    · next hall =>
      rw [if_pos hall] at hconverted ⊢
      split at h
      · next holder =>
        rw [if_pos holder] at hconverted ⊢
        exact Prod.ext rfl h
      · next hnewer =>
        rw [if_neg hnewer] at hconverted ⊢
        generalize hslave : convertSlaveConfiguration ((Dict.get? config "slave").getD .null) =
          result at h hconverted
        obtain ⟨slave, returned⟩ := result
        obtain rfl : returned = true := h
        subst hconverted
        simp only [Dict.get?_set_self, Option.getD_some, convertSlaveConfiguration_again hslave,
          Dict.set_set]
    · cases h

end BackwardCompatibilityAdapter

namespace NovenaGateway

/-- A start of Modbus connectors leaves of an entry's `config` everything but `name` and `slave`. -/
theorem Prepared.modbus {saved : Bool} {text key : String} {error : Option String}
    {config : Dict String Json} {connector entry : Json}
    (h : Prepared (modbusOutcome saved text error config) connector entry) (hname : key ≠ "name")
    (hslave : key ≠ "slave") :
    (entry.field "config").field key = (connector.field "config").field key := by
  cases h with
  | same => rfl
  | named htype hconfig =>
    simp only [Json.field_obj, Dict.get?_set_self, hconfig, Option.getD_some,
      Dict.get?_set_ne _ _ hname]
  | written htype hconfig =>
    simp only [Json.field_obj, Dict.get?_set_self, hconfig, Option.getD_some, modbusOutcome,
      BackwardCompatibilityAdapter.convert_other _ _ hslave, Dict.get?_set_ne _ _ hname]

/-- The meter of the station is left as it is. -/
example : (startConnector (modbusOutcome false "" none
      [("name", .str "meter"), ("master", .obj [("slaves", .arr [])]), ("slave", .obj [])])
    Station.meter).1 = Station.meter := rfl

end NovenaGateway

end Novena

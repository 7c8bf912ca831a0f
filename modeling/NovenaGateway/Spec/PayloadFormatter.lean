import NovenaGateway.ForStd.Except
import NovenaGateway.Native.PayloadFormatter
import NovenaGateway.Native.SiteData

/-!
# What formatting keeps of the datapoints

The calls on a `ConvertedData` come down to single writes: some datapoints for a timestamp, or some
attributes. `lastWritten` says of every key what was written last, and `Collected` that the object
holds just that. A payload has one place for a text, and the place of `device_name` is taken: what
was written can be read back exactly when no two keys of one text hold different values and no key
`device_name` holds anything but the device's name.
-/

namespace Novena.Payload

variable {ρ : Type} [DecidableEq ρ] {dumps : Json → Py Unit}

/-! ## Writes -/

/-- Datapoints that were written for a timestamp or, without one, as attributes. -/
structure Write (ρ : Type) where
  ts : Option Json
  values : Values ρ

/-- What the datapoints belong to: a timestamp, with all that equal it, or the attributes. -/
def Write.slot (w : Write ρ) : Option Json.Key := w.ts.bind fun ts => ts.hashKey.toOption

/-- The items before the first one that is missing. -/
def untilNone {α : Type} : List (Option α) → List α
  | some a :: rest => a :: untilNone rest
  | _ => []

/-- What adding an entry writes, unless it raises. -/
def EntryArg.write (dumps : Json → Py Unit) (arg : EntryArg ρ) : Option (Write ρ) :=
  match arg.toEntry dumps with
  | .ok made =>
    match made.ts.hashKey with
    | .ok _ => some { ts := some made.ts, values := made.values }
    | .error _ => none
  | .error _ => none

/-- What a call writes before it returns or raises. -/
def Call.writes (dumps : Json → Py Unit) : Call ρ → List (Write ρ)
  | .addToTelemetry entry => untilNone [entry.write dumps]
  | .addListToTelemetry entries => untilNone (entries.map (EntryArg.write dumps))
  | .addToAttributes values => [{ ts := none, values }]
  | .addKeyToAttributes key value =>
    if isNone value then [] else [{ ts := none, values := UniqueDict.empty.set key value }]
  | .addListToAttributes items => (untilNone items).map fun values => { ts := none, values }

def written (dumps : Json → Py Unit) (calls : List (Call ρ)) : List (Write ρ) :=
  calls.flatMap (Call.writes dumps)

/-- The value that was written last for a key. -/
def lastWritten (ws : List (Write ρ)) (slot : Option Json.Key) (key : Key ρ) : Option Json :=
  ws.foldl (fun last w => if w.slot = slot then (w.values.get? key).or last else last) none

/-- A list of distinct timestamps with one that may be new. -/
def addSeen (seen : List Json) : Option Json → List Json
  | none => seen
  | some ts =>
    if seen.any (fun ts' => ts'.hashKey.toOption = ts.hashKey.toOption) then seen
    else seen ++ [ts]

/-- The distinct timestamps, in the order in which they were first seen. -/
def firstSeen (ws : List (Write ρ)) : List Json := ws.foldl (fun seen w => addSeen seen w.ts) []

/-- Some attribute was written. -/
def anyAttribute (ws : List (Write ρ)) : Bool := ws.any fun w => w.ts.isNone && !w.values.isEmpty

/-- The last write decides where it writes. -/
theorem lastWritten_append (ws : List (Write ρ)) (w : Write ρ) (slot : Option Json.Key)
    (key : Key ρ) :
    lastWritten (ws ++ [w]) slot key =
      if w.slot = slot then (w.values.get? key).or (lastWritten ws slot key)
      else lastWritten ws slot key := by
  rw [lastWritten, List.foldl_append]
  rfl

omit [DecidableEq ρ] in
/-- A write adds its time at most. -/
theorem firstSeen_append (ws : List (Write ρ)) (w : Write ρ) :
    firstSeen (ws ++ [w]) = addSeen (firstSeen ws) w.ts := by
  rw [firstSeen, List.foldl_append]
  rfl

omit [DecidableEq ρ] in
/-- Or an attribute. -/
theorem anyAttribute_append (ws : List (Write ρ)) (w : Write ρ) :
    anyAttribute (ws ++ [w]) = (anyAttribute ws || (w.ts.isNone && !w.values.isEmpty)) := by
  rw [anyAttribute, List.any_append, List.any_cons, List.any_nil, Bool.or_false]
  rfl

/-! ## What is collected -/

/-- An element is in the list, or it is the new one. -/
theorem getElem?_append_singleton {α : Type} {l : List α} {a b : α} {i : Nat} :
    (l ++ [a])[i]? = some b ↔ l[i]? = some b ∨ (i = l.length ∧ a = b) := by
  rw [List.getElem?_append]
  split
  · have hne : i ≠ l.length := by omega
    simp [hne]
  · next hle =>
    have hnone : l[i]? = none := List.getElem?_eq_none (by omega)
    rw [hnone, List.getElem?_singleton]
    split
    · have hi : i = l.length := by omega
      simp [hi]
    · have hne : i ≠ l.length := by omega
      simp [hne]

/-- `d`, made for this device, holds what `ws` have written. -/
structure Collected (d : ConvertedData ρ) (ws : List (Write ρ)) (deviceName deviceId : Json) :
    Prop where
  name : d.deviceName = deviceName
  device : d.deviceId = deviceId
  hashable : ∀ ts ∈ firstSeen ws, ∃ k, ts.hashKey = .ok k
  timestamps : d.telemetry.map TelemetryEntry.ts = firstSeen ws
  index : ∀ k i, d.tsIndex.get? k = some i ↔
    ∃ ts, (firstSeen ws)[i]? = some ts ∧ ts.hashKey = .ok k
  telemetry : ∀ entry ∈ d.telemetry, ∀ k, entry.ts.hashKey = .ok k →
    ∀ key, entry.values.get? key = lastWritten ws (some k) key
  unseen : ∀ k, d.tsIndex.get? k = none → ∀ key, lastWritten ws (some k) key = none
  attributes : ∀ key, d.attributes.get? key = lastWritten ws none key
  attributesEmpty : d.attributes.isEmpty = !anyAttribute ws

namespace Collected

variable {d d' : ConvertedData ρ} {ws : List (Write ρ)} {deviceName deviceId : Json}

/-- Nothing was written. -/
theorem init (deviceName deviceId : Json) :
    Collected (ConvertedData.init deviceName deviceId : ConvertedData ρ) [] deviceName deviceId where
  name := rfl
  device := rfl
  hashable := by simp [firstSeen]
  timestamps := rfl
  index := by simp [ConvertedData.init, firstSeen]
  telemetry := by simp [ConvertedData.init]
  unseen := by simp [lastWritten]
  attributes := by simp [ConvertedData.init, lastWritten]
  attributesEmpty := rfl

/-- A timestamp has an index exactly when an equal one was seen. -/
theorem seen_iff (h : Collected d ws deviceName deviceId) {ts : Json} {k : Json.Key}
    (hts : ts.hashKey = .ok k) :
    (firstSeen ws).any (fun ts' => ts'.hashKey.toOption = ts.hashKey.toOption) = true ↔
      ∃ i, d.tsIndex.get? k = some i := by
  rw [List.any_eq_true]
  constructor
  · rintro ⟨ts', hmem, heq⟩
    obtain ⟨i, hi⟩ := List.mem_iff_getElem?.mp hmem
    have hkey : ts'.hashKey.toOption = some k := by
      rw [of_decide_eq_true heq, hts]
      rfl
    exact ⟨i, (h.index k i).mpr ⟨ts', hi, Except.toOption_eq_some.mp hkey⟩⟩
  · rintro ⟨i, hi⟩
    obtain ⟨ts', hts', hkey⟩ := (h.index k i).mp hi
    refine ⟨ts', List.mem_of_getElem? hts', ?_⟩
    simp [hkey, hts]

/-- The place of an entry is the index of its timestamp. -/
theorem index_of_entry (h : Collected d ws deviceName deviceId) {entry : TelemetryEntry ρ}
    {k : Json.Key} {i : Nat} (hentry : d.telemetry[i]? = some entry)
    (hk : entry.ts.hashKey = .ok k) : d.tsIndex.get? k = some i := by
  have hts : (firstSeen ws)[i]? = some entry.ts := by
    rw [← h.timestamps, List.getElem?_map, hentry]
    rfl
  exact (h.index k i).mpr ⟨entry.ts, hts, hk⟩

/-- And an index is the place of an entry with that timestamp. -/
theorem entry_of_index (h : Collected d ws deviceName deviceId) {k : Json.Key} {i : Nat}
    (hindex : d.tsIndex.get? k = some i) :
    ∃ entry, d.telemetry[i]? = some entry ∧ entry.ts.hashKey = .ok k := by
  obtain ⟨ts, hts, hk⟩ := (h.index k i).mp hindex
  rw [← h.timestamps, List.getElem?_map] at hts
  obtain ⟨entry, hentry, rfl⟩ := Option.map_eq_some_iff.mp hts
  exact ⟨entry, hentry, hk⟩

/-- Writing attributes. -/
theorem updateAttributes (h : Collected d ws deviceName deviceId) (values : Values ρ) :
    Collected (d.updateAttributes values) (ws ++ [{ ts := none, values }]) deviceName deviceId := by
  -- attributes have no timestamp: only what is written without one changes
  have hseen : firstSeen (ws ++ [{ ts := none, values }]) = firstSeen ws := firstSeen_append ws _
  have hslot : Write.slot { ts := none, values } = none := rfl
  have hlast : ∀ k key,
      lastWritten (ws ++ [{ ts := none, values }]) (some k) key = lastWritten ws (some k) key := by
    intro k key
    rw [lastWritten_append, hslot, if_neg (by simp)]
  constructor
  case name => exact h.name
  case device => exact h.device
  case hashable => rw [hseen]; exact h.hashable
  case timestamps => rw [hseen]; exact h.timestamps
  case index => rw [hseen]; exact h.index
  case telemetry =>
    intro entry hmem k hk key
    rw [hlast]
    exact h.telemetry entry hmem k hk key
  case unseen =>
    intro k hk key
    rw [hlast]
    exact h.unseen k hk key
  case attributes =>
    intro key
    rw [lastWritten_append, if_pos hslot, ← h.attributes key]
    exact UniqueDict.get?_update d.attributes values key
  case attributesEmpty =>
    rw [anyAttribute_append]
    show (d.attributes.update values).isEmpty = _
    rw [UniqueDict.isEmpty_update, h.attributesEmpty]
    simp

/-- An entry for a timestamp that was seen is merged into the entry there. -/
theorem merge (h : Collected d ws deviceName deviceId) {entry existing : TelemetryEntry ρ}
    {k : Json.Key} {i : Nat} (hts : entry.ts.hashKey = .ok k) (hindex : d.tsIndex.get? k = some i)
    (hentry : d.telemetry[i]? = some existing) (count : Int) :
    Collected
      { d with
        telemetry := d.telemetry.set i
          { existing with values := existing.values.update entry.values }
        datapointsCount := count }
      (ws ++ [{ ts := some entry.ts, values := entry.values }]) deviceName deviceId := by
  obtain ⟨hi, hget⟩ := List.getElem?_eq_some_iff.mp hentry
  have hslot : Write.slot { ts := some entry.ts, values := entry.values } = some k := by
    simp [Write.slot, hts]
  have hseen : firstSeen (ws ++ [{ ts := some entry.ts, values := entry.values }]) =
      firstSeen ws := by
    -- the timestamp has been seen
    rw [firstSeen_append, addSeen, if_pos ((h.seen_iff hts).mpr ⟨i, hindex⟩)]
  have hkey : existing.ts.hashKey = .ok k := by
    obtain ⟨entry', hentry', hk⟩ := h.entry_of_index hindex
    rw [hentry] at hentry'
    exact Option.some.inj hentry' ▸ hk
  constructor
  case name => exact h.name
  case device => exact h.device
  case hashable => rw [hseen]; exact h.hashable
  case index => rw [hseen]; exact h.index
  case timestamps =>
    rw [hseen, ← h.timestamps, List.map_set]
    have hlength : i < (d.telemetry.map TelemetryEntry.ts).length := by simpa using hi
    have hsame : existing.ts = (d.telemetry.map TelemetryEntry.ts)[i] := by
      rw [List.getElem_map, hget]
    show (d.telemetry.map TelemetryEntry.ts).set i existing.ts = _
    rw [hsame, List.set_getElem_self]
  case telemetry =>
    intro entry' hmem k' hk' key
    obtain ⟨j, hj⟩ := List.mem_iff_getElem?.mp hmem
    rw [lastWritten_append, hslot]
    rw [List.getElem?_set] at hj
    split at hj
    · -- the merged entry
      obtain rfl := Option.some.inj hj
      have hkk : k' = k := Except.ok.inj (hk'.symm.trans hkey)
      rw [hkk, if_pos rfl, ← h.telemetry existing (List.mem_of_getElem? hentry) k hkey key]
      exact UniqueDict.get?_update existing.values entry.values key
    · -- another one, of another timestamp
      next hij =>
      have hkk : some k ≠ some k' := by
        intro heq
        obtain rfl := Option.some.inj heq
        have hindex' := h.index_of_entry hj hk'
        rw [hindex] at hindex'
        exact hij (Option.some.inj hindex')
      rw [if_neg hkk]
      exact h.telemetry entry' (List.mem_of_getElem? hj) k' hk' key
  case unseen =>
    intro k' hk' key
    have hkk : some k ≠ some k' := by
      intro heq
      obtain rfl := Option.some.inj heq
      rw [hindex] at hk'
      cases hk'
    rw [lastWritten_append, hslot, if_neg hkk]
    exact h.unseen k' hk' key
  case attributes =>
    intro key
    rw [lastWritten_append, hslot, if_neg (by simp)]
    exact h.attributes key
  case attributesEmpty =>
    rw [anyAttribute_append, Option.isNone_some, Bool.false_and, Bool.or_false]
    exact h.attributesEmpty

/-- An entry for a new timestamp is appended. -/
theorem append (h : Collected d ws deviceName deviceId) {entry : TelemetryEntry ρ}
    {k : Json.Key} (hts : entry.ts.hashKey = .ok k) (hindex : d.tsIndex.get? k = none)
    (count : Int) :
    Collected
      { d with
        telemetry := d.telemetry ++ [entry], datapointsCount := count
        tsIndex := d.tsIndex.set k d.telemetry.length }
      (ws ++ [{ ts := some entry.ts, values := entry.values }]) deviceName deviceId := by
  have hslot : Write.slot { ts := some entry.ts, values := entry.values } = some k := by
    simp [Write.slot, hts]
  have hseen : firstSeen (ws ++ [{ ts := some entry.ts, values := entry.values }]) =
      firstSeen ws ++ [entry.ts] := by
    -- the timestamp is new
    rw [firstSeen_append, addSeen, if_neg]
    intro hany
    obtain ⟨i, hi⟩ := (h.seen_iff hts).mp hany
    rw [hindex] at hi
    cases hi
  have hlength : (firstSeen ws).length = d.telemetry.length := by
    rw [← h.timestamps, List.length_map]
  constructor
  case name => exact h.name
  case device => exact h.device
  case hashable =>
    intro ts hmem
    rw [hseen, List.mem_append, List.mem_singleton] at hmem
    obtain hmem | rfl := hmem
    · exact h.hashable ts hmem
    · exact ⟨k, hts⟩
  case timestamps =>
    rw [hseen, ← h.timestamps, List.map_append]
    rfl
  -- the new entry is the last of the list
  case index =>
    intro k' i
    rw [hseen, Dict.get?_set]
    simp only [getElem?_append_singleton, hlength, or_and_right, exists_or, ← h.index]
    split
    -- its index is the length of the old list
    · next hkk =>
      rw [hkk, hindex]
      constructor
      · intro hi
        exact .inr ⟨entry.ts, ⟨(Option.some.inj hi).symm, rfl⟩, hts⟩
      · rintro (hi | ⟨ts, ⟨rfl, -⟩, -⟩)
        · cases hi
        · rfl
    -- the others are where they were
    · next hkk =>
      constructor
      · exact .inl
      · rintro (hi | ⟨ts, ⟨-, rfl⟩, hk⟩)
        · exact hi
        · exact absurd (Except.ok.inj (hk.symm.trans hts)) hkk
  case telemetry =>
    intro entry' hmem k' hk' key
    rw [lastWritten_append, hslot]
    -- an old entry has another timestamp
    obtain hmem | hnew := List.mem_append.mp hmem
    · have hkk : some k ≠ some k' := by
        intro heq
        obtain rfl := Option.some.inj heq
        obtain ⟨j, hj⟩ := List.mem_iff_getElem?.mp hmem
        rw [h.index_of_entry hj hk'] at hindex
        cases hindex
      rw [if_neg hkk]
      exact h.telemetry entry' hmem k' hk' key
    -- the new one shows what was just written, since its slot was empty
    · obtain rfl := List.mem_singleton.mp hnew
      have hkk : k' = k := Except.ok.inj (hk'.symm.trans hts)
      rw [hkk, if_pos rfl, h.unseen k hindex key, Option.or_none]
  case unseen =>
    intro k' hk' key
    rw [Dict.get?_set] at hk'
    split at hk'
    · cases hk'
    · next hkk =>
      rw [lastWritten_append, hslot, if_neg (by simpa using Ne.symm hkk)]
      exact h.unseen k' hk' key
  case attributes =>
    intro key
    rw [lastWritten_append, hslot, if_neg (by simp)]
    exact h.attributes key
  case attributesEmpty =>
    rw [anyAttribute_append, Option.isNone_some, Bool.false_and, Bool.or_false]
    exact h.attributesEmpty

/-- An entry with a hashable timestamp is added. -/
theorem addEntry (h : Collected d ws deviceName deviceId) {entry : TelemetryEntry ρ}
    {k : Json.Key} (hts : entry.ts.hashKey = .ok k) :
    ∃ d', d.addEntry entry = .ok d' ∧
      Collected d' (ws ++ [{ ts := some entry.ts, values := entry.values }]) deviceName
        deviceId := by
  simp only [ConvertedData.addEntry, hts, Except.ok_bind]
  cases hindex : d.tsIndex.get? k with
  | some i =>
    obtain ⟨existing, hentry, -⟩ := h.entry_of_index hindex
    simp only [hentry]
    exact ⟨_, rfl, h.merge hts hindex hentry _⟩
  | none => exact ⟨_, rfl, h.append hts hindex _⟩

/-- Adding an argument writes what it is said to write, or raises. -/
theorem addSingle (h : Collected d ws deviceName deviceId) (dumps : Json → Py Unit)
    (arg : EntryArg ρ) :
    (∃ w d', arg.write dumps = some w ∧ d.addSingleTelemetryEntry dumps arg = .ok d' ∧
        Collected d' (ws ++ [w]) deviceName deviceId) ∨
      ∃ e, arg.write dumps = none ∧ d.addSingleTelemetryEntry dumps arg = .error e := by
  cases hmade : arg.toEntry dumps with
  | error e =>
    refine .inr ⟨e, by simp [EntryArg.write, hmade], ?_⟩
    rw [ConvertedData.addSingleTelemetryEntry, hmade]
    rfl
  | ok made =>
    cases hts : made.ts.hashKey with
    | error e =>
      refine .inr ⟨e, by simp [EntryArg.write, hmade, hts], ?_⟩
      rw [ConvertedData.addSingleTelemetryEntry, hmade, Except.ok_bind, ConvertedData.addEntry, hts]
      rfl
    | ok k =>
      obtain ⟨d', hadd, hd'⟩ := h.addEntry hts
      refine .inl ⟨_, d', by simp [EntryArg.write, hmade, hts], ?_, hd'⟩
      rw [ConvertedData.addSingleTelemetryEntry, hmade, Except.ok_bind, hadd]

/-- The entries are collected up to the first one that raises. -/
theorem addEntries (entries : List (EntryArg ρ)) (h : Collected d ws deviceName deviceId) :
    Collected (untilRaised (ConvertedData.addSingleTelemetryEntry dumps) d entries).1
      (ws ++ untilNone (entries.map (EntryArg.write dumps))) deviceName deviceId := by
  induction entries generalizing d ws with
  | nil => simpa [untilRaised, untilNone] using h
  | cons arg entries ih =>
    obtain ⟨w, d', hw, hadd, hd'⟩ | ⟨e, hw, hadd⟩ := h.addSingle dumps arg
    · simp only [untilRaised, hadd, List.map_cons, hw, untilNone]
      have hrest := ih hd'
      rwa [List.append_assoc, List.singleton_append] at hrest
    · simpa [untilRaised, hadd, hw, untilNone] using h

/-- And so are the attributes. -/
theorem addItems (items : List (Option (Values ρ))) (h : Collected d ws deviceName deviceId) :
    Collected (untilRaised ConvertedData.addAttributesItem d items).1
      (ws ++ (untilNone items).map fun values => { ts := none, values }) deviceName deviceId := by
  induction items generalizing d ws with
  | nil => simpa [untilRaised, untilNone] using h
  | cons item items ih =>
    cases item with
    | none => simpa [untilRaised, ConvertedData.addAttributesItem, untilNone] using h
    | some values =>
      have hrest := ih (h.updateAttributes values)
      rw [List.append_assoc, List.singleton_append] at hrest
      exact hrest

/-- So every call collects what it writes. -/
theorem call (h : Collected d ws deviceName deviceId) (dumps : Json → Py Unit) (c : Call ρ) :
    Collected (d.call dumps c).1 (ws ++ c.writes dumps) deviceName deviceId := by
  cases c with
  | addToTelemetry entry => exact h.addEntries [entry]
  | addListToTelemetry entries => exact h.addEntries entries
  | addToAttributes values => exact h.updateAttributes values
  | addKeyToAttributes key value =>
    simp only [ConvertedData.call, Call.writes]
    split
    · rwa [List.append_nil]
    · exact h.updateAttributes _
  | addListToAttributes items => exact h.addItems items

/-- Whatever is called, the object holds what was written. -/
theorem run (calls : List (Call ρ)) (h : Collected d ws deviceName deviceId) :
    Collected (d.run dumps calls) (ws ++ written dumps calls) deviceName deviceId := by
  induction calls generalizing d ws with
  | nil => simpa [ConvertedData.run, written] using h
  | cons c calls ih =>
    have hrest := ih (h.call dumps c)
    rw [List.append_assoc] at hrest
    exact hrest

end Collected

/-! ## Reading back -/

/-- Values that keep apart in one payload: keys of one text hold one value, and it is the name of
    the device where the text is `device_name`. -/
def Readable (deviceName : Json) (value : Key ρ → Option Json) : Prop :=
  ∀ key v, value key = some v → (key.str = "device_name" → v = deviceName) ∧
    ∀ key' v', value key' = some v' → key'.str = key.str → v' = v

namespace PayloadFormatter

variable {d : ConvertedData ρ}

/-- The values of a payload can be read back exactly when they keep apart. -/
theorem readable_iff (values : Values ρ) (name : Json) :
    Readable name values.get? ↔ ∀ key v, values.get? key = some v →
      ((values.rename Key.str).set "device_name" name).get? key.str = some v := by
  simp only [UniqueDict.get?_set]
  constructor
  · intro h key v hv
    split
    · next hname => rw [(h key v hv).1 hname]
    · obtain ⟨key', v', htext, hv', hget⟩ := UniqueDict.exists_get?_rename (f := Key.str) hv
      rw [hget, (h key v hv).2 key' v' hv' htext]
  · intro h key v hv
    constructor
    · intro hname
      have hget := h key v hv
      rw [if_pos hname] at hget
      exact (Option.some.inj hget).symm
    · intro key' v' hv' htext
      have hget' := h key' v' hv'
      rw [htext, h key v hv] at hget'
      exact (Option.some.inj hget').symm

omit [DecidableEq ρ] in
/-- The device id is one key. -/
theorem get?_withDeviceId (payload : Dict String Json) {key : String}
    (h : key ≠ "device_id") : (withDeviceId d payload).get? key = payload.get? key := by
  simp only [withDeviceId]
  split
  · exact Dict.get?_set_ne payload _ h
  · rfl

omit [DecidableEq ρ] in
/-- It is there when it counts as true. -/
theorem withDeviceId_deviceId (payload : Dict String Json) (h : d.deviceId.truthy = true) :
    (withDeviceId d payload).get? "device_id" = some d.deviceId := by
  rw [withDeviceId, if_pos h, Dict.get?_set_self]

/-- Every payload is that of an entry or that of the attributes. -/
theorem mem_format {serialNumber : Json} {p : Dict String Json} :
    p ∈ format serialNumber d ↔ (∃ entry ∈ d.telemetry, telemetryPayload serialNumber d entry = p) ∨
      (d.attributes.isEmpty = false ∧ attributesPayload serialNumber d = p) := by
  rw [format, List.mem_append, List.mem_map, UniqueDict.rename_isEmpty]
  cases d.attributes.isEmpty <;> simp [eq_comm]

end PayloadFormatter

/-- What the datapoints of a payload belong to. -/
def slotOf (p : Dict String Json) : Option Json.Key :=
  (p.get? "ts").bind fun ts => ts.hashKey.toOption

/-- The payloads show all that was written: one for each timestamp and one for the attributes, every
    value under the text of its key, the name of the device and its id, where it has one. -/
structure Lossless (payloads : List (Dict String Json)) (ws : List (Write ρ))
    (deviceName deviceId : Json) : Prop where
  timestamps : payloads.map (Dict.get? · "ts") =
    (firstSeen ws).map some ++ if anyAttribute ws then [none] else []
  values : ∀ p ∈ payloads, ∀ key v, lastWritten ws (slotOf p) key = some v →
    ∃ values, p.get? "values" = some (.obj values) ∧ Dict.get? values key.str = some v
  name : ∀ p ∈ payloads, p.get? "device_name" = some deviceName
  device : deviceId.truthy = true → ∀ p ∈ payloads, p.get? "device_id" = some deviceId

namespace Collected

open Novena.Payload.PayloadFormatter

variable {d : ConvertedData ρ} {ws : List (Write ρ)} {deviceName deviceId serialNumber : Json}

/-- One payload for each time, in the order they were seen, and one for the attributes. -/
theorem format_timestamps (h : Collected d ws deviceName deviceId) :
    (format serialNumber d).map (Dict.get? · "ts") =
      (firstSeen ws).map some ++ if anyAttribute ws then [none] else [] := by
  have htelemetry : ∀ entry : TelemetryEntry ρ,
      (telemetryPayload serialNumber d entry).get? "ts" = some entry.ts := by
    intro entry
    rw [telemetryPayload, get?_withDeviceId _ (by decide)]
    rfl
  have hattributes : (attributesPayload serialNumber d).get? "ts" = none := by
    rw [attributesPayload, get?_withDeviceId _ (by decide)]
    rfl
  rw [format, List.map_append, List.map_map, UniqueDict.rename_isEmpty, h.attributesEmpty,
    ← h.timestamps, List.map_map]
  congr 1
  · exact List.map_congr_left fun entry _ => htelemetry entry
  · cases anyAttribute ws with
    | false => rfl
    | true => simpa using hattributes

/-- A payload shows its values exactly when they keep apart. -/
theorem shows_iff (h : Collected d ws deviceName deviceId) {p : Dict String Json}
    {values : Values ρ} {slot : Option Json.Key}
    (hp : p.get? "values" = some (payloadValues d values))
    (hlast : ∀ key, values.get? key = lastWritten ws slot key) :
    (∀ key v, lastWritten ws slot key = some v →
        ∃ values, p.get? "values" = some (.obj values) ∧ Dict.get? values key.str = some v) ↔
      Readable deviceName (lastWritten ws slot) := by
  have hvalues : values.get? = lastWritten ws slot := funext hlast
  rw [← hvalues, readable_iff, hp, payloadValues, h.name]
  simp [UniqueDict.get?]

/-- The payload of a time has what was last written at that time. -/
theorem telemetry_shows (h : Collected d ws deviceName deviceId) {entry : TelemetryEntry ρ}
    (hmem : entry ∈ d.telemetry) {k : Json.Key} (hk : entry.ts.hashKey = .ok k) :
    slotOf (telemetryPayload serialNumber d entry) = some k ∧
      ((∀ key v, lastWritten ws (some k) key = some v → ∃ values,
          (telemetryPayload serialNumber d entry).get? "values" = some (.obj values) ∧
            Dict.get? values key.str = some v) ↔
        Readable deviceName (lastWritten ws (some k))) := by
  have hts : (telemetryPayload serialNumber d entry).get? "ts" = some entry.ts := by
    rw [telemetryPayload, get?_withDeviceId _ (by decide)]
    rfl
  have hvalues : (telemetryPayload serialNumber d entry).get? "values" =
      some (payloadValues d entry.values) := by
    rw [telemetryPayload, get?_withDeviceId _ (by decide)]
    rfl
  exact ⟨by simp [slotOf, hts, hk], h.shows_iff hvalues (h.telemetry entry hmem k hk)⟩

/-- And that of the attributes what was last written without one. -/
theorem attributes_show (h : Collected d ws deviceName deviceId) :
    slotOf (attributesPayload serialNumber d) = none ∧
      ((∀ key v, lastWritten ws none key = some v → ∃ values,
          (attributesPayload serialNumber d).get? "values" = some (.obj values) ∧
            Dict.get? values key.str = some v) ↔
        Readable deviceName (lastWritten ws none)) := by
  have hts : (attributesPayload serialNumber d).get? "ts" = none := by
    rw [attributesPayload, get?_withDeviceId _ (by decide)]
    rfl
  have hvalues : (attributesPayload serialNumber d).get? "values" =
      some (payloadValues d d.attributes) := by
    rw [attributesPayload, get?_withDeviceId _ (by decide)]
    rfl
  exact ⟨by simp [slotOf, hts], h.shows_iff hvalues h.attributes⟩

/-- Every payload carries the device. -/
theorem format_device (h : Collected d ws deviceName deviceId) {p : Dict String Json}
    (hp : p ∈ format serialNumber d) :
    p.get? "device_name" = some deviceName ∧
      (deviceId.truthy = true → p.get? "device_id" = some deviceId) := by
  rw [← h.name, ← h.device]
  obtain ⟨entry, -, rfl⟩ | ⟨-, rfl⟩ := mem_format.mp hp
  · constructor
    · rw [telemetryPayload, get?_withDeviceId _ (by decide)]
      rfl
    · exact fun hid => withDeviceId_deviceId _ hid
  · constructor
    · rw [attributesPayload, get?_withDeviceId _ (by decide)]
      rfl
    · exact fun hid => withDeviceId_deviceId _ hid

/-- A slot that was written has a payload. -/
theorem exists_payload (h : Collected d ws deviceName deviceId) {slot : Option Json.Key}
    {key : Key ρ} {v : Json} (hv : lastWritten ws slot key = some v) :
    (∃ k, slot = some k ∧ ∃ entry ∈ d.telemetry, entry.ts.hashKey = .ok k) ∨
      (slot = none ∧ d.attributes.isEmpty = false) := by
  cases slot with
  | some k =>
    cases hindex : d.tsIndex.get? k with
    | none =>
      rw [h.unseen k hindex key] at hv
      cases hv
    | some i =>
      obtain ⟨entry, hentry, hk⟩ := h.entry_of_index hindex
      exact .inl ⟨k, rfl, entry, List.mem_of_getElem? hentry, hk⟩
  | none =>
    refine .inr ⟨rfl, Bool.eq_false_iff.mpr ?_⟩
    intro hempty
    rw [← h.attributes key, UniqueDict.isEmpty_iff.mp hempty key] at hv
    cases hv

/-- The payloads lose nothing exactly when the values of every slot keep apart. -/
theorem lossless_iff (h : Collected d ws deviceName deviceId) :
    Lossless (format serialNumber d) ws deviceName deviceId ↔
      ∀ slot, Readable deviceName (lastWritten ws slot) := by
  constructor
  · intro hlossless slot
    -- a slot nothing was written to is readable
    by_cases hwritten : ∃ key v, lastWritten ws slot key = some v
    · obtain ⟨key, v, hv⟩ := hwritten
      -- what was written to is in a payload
      obtain ⟨k, rfl, entry, hmem, hk⟩ | ⟨rfl, hattributes⟩ := h.exists_payload hv
      · obtain ⟨hslot, hshows⟩ := h.telemetry_shows hmem hk
        have hp := hlossless.values _ (mem_format.mpr (.inl ⟨entry, hmem, rfl⟩))
        rw [hslot] at hp
        exact hshows.mp hp
      · obtain ⟨hslot, hshows⟩ := h.attributes_show
        have hp := hlossless.values _ (mem_format.mpr (.inr ⟨hattributes, rfl⟩))
        rw [hslot] at hp
        exact hshows.mp hp
    · intro key v hv
      exact absurd ⟨key, v, hv⟩ hwritten
  · intro hreadable
    constructor
    case timestamps => exact h.format_timestamps
    case name => exact fun p hp => (h.format_device hp).1
    case device => exact fun hid p hp => (h.format_device hp).2 hid
    case values =>
      -- a payload is that of an entry, or that of the attributes
      intro p hp
      obtain ⟨entry, hmem, rfl⟩ | ⟨-, rfl⟩ := mem_format.mp hp
      · have hts : entry.ts ∈ firstSeen ws := h.timestamps ▸ List.mem_map_of_mem hmem
        obtain ⟨k, hk⟩ := h.hashable entry.ts hts
        obtain ⟨hslot, hshows⟩ := h.telemetry_shows hmem hk
        rw [hslot]
        exact hshows.mpr (hreadable (some k))
      · obtain ⟨hslot, hshows⟩ := h.attributes_show
        rw [hslot]
        exact hshows.mpr (hreadable none)

end Collected

/-- Whatever was added, formatting loses none of it exactly when, for every timestamp and for the
    attributes, no two keys of one text end with different values and no key `device_name` ends
    with a value other than the name of the device. -/
theorem format_lossless_iff (dumps : Json → Py Unit) (serialNumber deviceName deviceId : Json)
    (calls : List (Call ρ)) :
    Lossless
        (PayloadFormatter.format serialNumber
          ((ConvertedData.init deviceName deviceId).run dumps calls))
        (written dumps calls) deviceName deviceId ↔
      ∀ slot, Readable deviceName (lastWritten (written dumps calls) slot) :=
  ((Collected.init deviceName deviceId).run calls).lossless_iff

/-- An attribute of the device that is called `device_name`. -/
def namedDevice : List (Call Unit) :=
  [.addKeyToAttributes (.datapoint "device_name" none) (.str "Pump 7")]

/-- A device without id is lost. -/
theorem format_loses_deviceName :
    ¬ Lossless
        (PayloadFormatter.format (.str "NF-EDGE-001")
          ((ConvertedData.init (.str "pump-7") .null).run (fun _ => .ok ()) namedDevice))
        (written (fun _ => .ok ()) namedDevice) (.str "pump-7") .null := by
  intro h
  obtain ⟨values, hvalues, hget⟩ := h.values
    [("serial_number", .str "NF-EDGE-001"), ("device_name", .str "pump-7"),
     ("values", .obj [("device_name", .str "pump-7")])]
    (List.mem_singleton_self _) (.datapoint "device_name" none) (.str "Pump 7") rfl
  obtain rfl := Json.obj.inj (Option.some.inj hvalues)
  have hname : "pump-7" = "Pump 7" := Json.str.inj (Option.some.inj hget)
  exact absurd hname (by decide)

/-! ## The data that is sent -/

/-- A `ConvertedData` as the loop that formats it sees it: its keys by their texts. -/
def ConvertedData.plain (d : ConvertedData ρ) : Novena.ConvertedData :=
  { deviceName := d.deviceName, deviceId := d.deviceId
    telemetry := d.telemetry.map fun entry =>
      { ts := entry.ts, values := entry.values.entries.map fun p => (p.1.str, p.2) }
    attributes := d.attributes.entries.map fun p => (p.1.str, p.2) }

omit [DecidableEq ρ] in
/-- The values are those of the plain form. -/
theorem payloadValues_plain (d : ConvertedData ρ) (values : Values ρ) :
    PayloadFormatter.payloadValues d values =
      Novena.PayloadFormatter.values d.plain (values.entries.map fun p => (p.1.str, p.2)) := by
  rw [PayloadFormatter.payloadValues, Novena.PayloadFormatter.values, UniqueDict.rename]
  show Json.obj (Dict.set (UniqueDict.setAll _ _).entries _ _) = _
  rw [UniqueDict.entries_setAll]
  rfl

/-- Both formatters make the same payloads. -/
theorem format_plain (serialNumber : Json) (d : ConvertedData ρ) :
    PayloadFormatter.format serialNumber d = Novena.PayloadFormatter.format serialNumber d.plain := by
  have hempty : d.plain.attributes.isEmpty = d.attributes.isEmpty := List.isEmpty_map
  rw [PayloadFormatter.format, Novena.PayloadFormatter.format, UniqueDict.rename_isEmpty, hempty]
  congr 1
  · rw [ConvertedData.plain, List.map_map]
    apply List.map_congr_left
    intro entry _
    rw [PayloadFormatter.telemetryPayload, payloadValues_plain]
    rfl
  · rw [PayloadFormatter.attributesPayload, payloadValues_plain]
    rfl

end Novena.Payload

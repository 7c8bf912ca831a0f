import Mathlib.Data.List.DropRight
import NovenaGateway.Native.DeviceHealth
import NovenaGateway.Spec.ModbusRpc

/-!
# What the health of a device says

The entry of a device is a function of what was recorded about it. Polls, datapoints of polls and
commands record alike, so that three failures in a row, which make a device offline, can come from
one poll; and a poll succeeds as soon as one of its requests is answered, whatever the answer.

Key results:
- `HealthTable.offline_iff`
- `HealthTable.poll_health`
-/

/-- The last `n` items have a property exactly when so many are taken from the end. -/
theorem List.le_length_rtakeWhile_iff {α : Type} {p : α → Bool} {l : List α} {n : Nat} :
    n ≤ (l.rtakeWhile p).length ↔
      ∃ before last, l = before ++ last ∧ last.length = n ∧ ∀ x ∈ last, p x = true := by
  constructor
  -- the last `n` of the failing end
  · intro hn
    refine ⟨l.rdropWhile p ++ (l.rtakeWhile p).take ((l.rtakeWhile p).length - n),
      (l.rtakeWhile p).drop ((l.rtakeWhile p).length - n), ?_, ?_, ?_⟩
    · rw [List.append_assoc, List.take_append_drop, List.rdropWhile_append_rtakeWhile]
    · rw [List.length_drop]
      omega
    · intro x hx
      exact List.mem_rtakeWhile_imp (List.mem_of_mem_drop hx)
  -- an end in which every entry fails is part of the longest one
  · rintro ⟨before, last, rfl, rfl, hlast⟩
    have htake : ∀ x ∈ last.reverse, p x = true := by
      intro x hx
      exact hlast x (List.mem_reverse.mp hx)
    rw [List.rtakeWhile, List.reverse_append, List.takeWhile_append_of_pos htake]
    simp

namespace Novena

namespace HealthRecord

def isFailure : HealthRecord → Bool
  | .success _ _ => false
  | .failure _ _ _ _ => true

/-- A failure of a type that makes a device misconfigured. -/
def misconfigures : HealthRecord → Bool
  | .success _ _ => false
  | .failure _ _ errorType _ => errorType.misconfigures

end HealthRecord

namespace DeviceHealth

/-- The entry after these records. -/
def describe (records : List HealthRecord) : DeviceHealth := records.foldl record unknown

/-- A description goes on with the last record. -/
theorem describe_concat (records : List HealthRecord) (r : HealthRecord) :
    describe (records ++ [r]) = (describe records).record r := by
  rw [describe, List.foldl_append]
  rfl

/-- The failures since the last success. -/
theorem describe_consecutiveFailures (records : List HealthRecord) :
    (describe records).consecutiveFailures = (records.rtakeWhile HealthRecord.isFailure).length := by
  induction records using List.reverseRecOn with
  | nil => rfl
  | append_singleton records r ih =>
    rw [describe_concat, List.rtakeWhile_concat]
    cases r with
    | success ts responseMs => rfl
    | failure ts error errorType responseMs =>
      rw [if_pos (show (HealthRecord.failure ts error errorType responseMs).isFailure = true from
        rfl), List.length_append, ← ih]
      rfl

/-- The status a record leads to, with the failures before it. -/
theorem record_pollStatus (h : DeviceHealth) (r : HealthRecord) :
    (h.record r).pollStatus =
      if r.isFailure then
        if r.misconfigures then .misconfigured
        else if 3 ≤ h.consecutiveFailures + 1 then .offline
        else .degraded
      else .healthy := by
  cases r with
  | success ts responseMs => rfl
  | failure ts error errorType responseMs => rfl

/-- A device is healthy after any record that is no failure. -/
theorem record_healthy_iff (h : DeviceHealth) (r : HealthRecord) :
    (h.record r).pollStatus = .healthy ↔ r.isFailure = false := by
  rw [record_pollStatus]
  cases r.isFailure with
  | false => simp
  | true =>
    simp only [if_true, Bool.true_eq_false, iff_false]
    split_ifs <;> simp

/-- So the last record decides whether it is healthy. -/
theorem describe_healthy_iff (records : List HealthRecord) :
    (describe records).pollStatus = .healthy ↔ ∃ r ∈ records.getLast?, r.isFailure = false := by
  induction records using List.reverseRecOn with
  | nil => simp [describe, unknown]
  | append_singleton records r ih =>
    rw [describe_concat, record_healthy_iff, List.getLast?_concat]
    simp

/-- It is offline after three failures, unless the last one is a misconfiguration. -/
theorem describe_offline_iff (records : List HealthRecord) :
    (describe records).pollStatus = .offline ↔
      (∃ before last, records = before ++ last ∧ last.length = 3 ∧
        ∀ r ∈ last, r.isFailure = true) ∧ ∀ r ∈ records.getLast?, r.misconfigures = false := by
  -- three failures at the end of the history, and the newest is no misconfiguration
  rw [← List.le_length_rtakeWhile_iff]
  induction records using List.reverseRecOn with
  | nil => simp [describe, unknown]
  | append_singleton records r ih =>
    rw [describe_concat, record_pollStatus, List.getLast?_concat, describe_consecutiveFailures,
      List.rtakeWhile_concat]
    simp only [Option.mem_def, Option.some.injEq, forall_eq']
    -- a success at the end makes the device healthy
    cases hr : r.isFailure with
    | false => simp
    | true =>
      simp only [if_true, List.length_append, List.length_singleton]
      -- a misconfiguration keeps it from being offline
      cases hmis : r.misconfigures with
      | true => simp
      | false =>
        simp only [Bool.false_eq_true, if_false, and_true]
        split_ifs <;> simp_all

end DeviceHealth

/-! ## Runs -/

namespace HealthTable

variable {R V : Type} {s s' : HealthTable}

/-- What was recorded about a device. -/
def history (s : HealthTable) (deviceName : String) : List HealthRecord :=
  (s.recorded.filter fun p => p.1 = deviceName).map Prod.snd

/-- The entries are described by what was recorded. -/
def Told (s : HealthTable) : Prop :=
  ∀ deviceName, s.health deviceName = .describe (s.history deviceName)

/-- At the beginning nothing is told. -/
theorem told_init : init.Told := fun _ => rfl

/-- A record is about one device. -/
theorem health_record (s : HealthTable) (deviceName : String) (r : HealthRecord) (name : String) :
    (s.record deviceName r).health name =
      if name = deviceName then (s.health deviceName).record r else s.health name := by
  rw [health, record, Dict.get?_set]
  split <;> rfl

/-- And it is kept in the history of that device. -/
theorem history_record (s : HealthTable) (deviceName : String) (r : HealthRecord) (name : String) :
    (s.record deviceName r).history name =
      if name = deviceName then s.history deviceName ++ [r] else s.history name := by
  rw [history, record, List.filter_append, List.map_append]
  split
  · next heq => simp [heq, history]
  · next hne =>
    have hother : ¬ deviceName = name := fun heq => hne heq.symm
    simp [hother, history]

/-- The table describes the history after a record. -/
theorem Told.record (h : s.Told) (deviceName : String) (r : HealthRecord) :
    (s.record deviceName r).Told := by
  intro name
  rw [health_record, history_record]
  split
  · rw [h deviceName, DeviceHealth.describe_concat]
  · exact h name

/-- And after all records of a poll. -/
theorem Told.recordAll (h : s.Told) (deviceName : String) (records : List HealthRecord) :
    (records.foldl (fun s r => s.record deviceName r) s).Told := by
  induction records generalizing s with
  | nil => exact h
  | cons r records ih => exact ih (h.record deviceName r)

/-- A device that is added has no history yet. -/
theorem Told.ensure (h : s.Told) (deviceName : String) : (s.ensure deviceName).Told := by
  unfold HealthTable.ensure
  -- a known device stays as it is
  split
  · exact h
  -- a new one is `unknown`, which is what an empty history says
  · next hnone =>
    intro name
    have hsame : ({ s with deviceHealth := s.deviceHealth.set deviceName .unknown } :
        HealthTable).health name = s.health name := by
      rw [health, health, Dict.get?_set]
      split
      · next heq =>
        rw [heq, hnone]
        rfl
      · rfl
    rw [hsame]
    exact h name

/-- So every step keeps the table a description. -/
theorem step_told (h : s.Told) {label : Label R V} (hstep : s.step label = some s') :
    s'.Told := by
  cases label with
  | addDevice deviceName =>
    obtain rfl := Option.some.inj hstep
    exact h.ensure deviceName
  | getDeviceHealth deviceName =>
    cases deviceName with
    | none =>
      obtain rfl := Option.some.inj hstep
      exact h
    -- without a name nothing is made
    | some deviceName =>
      simp only [step] at hstep
      split at hstep
      · obtain rfl := Option.some.inj hstep
        exact h
      · obtain rfl := Option.some.inj hstep
        exact h.ensure deviceName
  -- a poll records what it found, in order
  | poll deviceName fuel world config =>
    obtain ⟨records, _, rfl⟩ := Option.map_eq_some_iff.mp hstep
    exact h.recordAll deviceName records
  | command deviceName ts response =>
    obtain rfl := Option.some.inj hstep
    exact h.record deviceName _
  -- a restart forgets table and history
  | reset =>
    obtain rfl := Option.some.inj hstep
    exact told_init

/-- After any run, a device is offline exactly when the last three things recorded about it are
    failures and the last of them is not of a misconfigured device, it is healthy exactly when the
    last one is a success, and `consecutive_failures` counts the failures since then. -/
theorem offline_iff {labels : List (Label R V)} (hrun : Run.exec step init labels = some s)
    (deviceName : String) :
    ((s.health deviceName).pollStatus = .offline ↔
      (∃ before last, s.history deviceName = before ++ last ∧ last.length = 3 ∧
        ∀ r ∈ last, r.isFailure = true) ∧
        ∀ r ∈ (s.history deviceName).getLast?, r.misconfigures = false) ∧
    ((s.health deviceName).pollStatus = .healthy ↔
      ∃ r ∈ (s.history deviceName).getLast?, r.isFailure = false) ∧
    (s.health deviceName).consecutiveFailures =
      ((s.history deviceName).rtakeWhile HealthRecord.isFailure).length := by
  have h : s.Told := Run.exec_invariant' (fun _ _ _ h hstep => step_told h hstep) told_init hrun
  rw [h deviceName]
  exact ⟨DeviceHealth.describe_offline_iff _, DeviceHealth.describe_healthy_iff _,
    DeviceHealth.describe_consecutiveFailures _⟩

/-! ## What a poll records -/

/-- Every record is taken by the entry of its device. -/
theorem health_recordAll (records : List HealthRecord) (s : HealthTable) (deviceName name : String) :
    (records.foldl (fun s r => s.record deviceName r) s).health name =
      if name = deviceName then records.foldl DeviceHealth.record (s.health deviceName)
      else s.health name := by
  induction records generalizing s with
  | nil =>
    split
    · next heq => rw [heq, List.foldl_nil, List.foldl_nil]
    · rfl
  | cons r records ih =>
    rw [List.foldl_cons, ih, health_record, health_record, if_pos rfl]
    split <;> rfl

/-- Two datapoints of a meter. -/
def twoPoints : Modbus.UplinkConfig UInt16 Nat where
  attributes := []
  telemetry := ["voltage", "current"].map fun tag =>
    { tag, address := .number 3060, functionCode := 3, objectsCount := some 2,
      maxRegistersPerRequest := none, decodeData := fun _ => .ok none }

/-- A meter that is connected to and answers nothing. -/
def mute : Modbus.PollWorld UInt16 where
  connect := .ok true
  read := fun _ _ _ _ _ => .timeout
  valueError := fun _ _ => ""
  raised := .timeout
  clock := fun n => 1000 + n
  responseMs := 6000

/-- A device that never answers. -/
theorem offline_iff_mute : ∃ s,
    Run.exec step init [.addDevice "Meter 1", .poll "Meter 1" 9 mute twoPoints] = some s ∧
    ((s.health "Meter 1").pollStatus = .offline ↔
      (∃ before last, s.history "Meter 1" = before ++ last ∧ last.length = 3 ∧
        ∀ r ∈ last, r.isFailure = true) ∧
        ∀ r ∈ (s.history "Meter 1").getLast?, r.misconfigures = false) ∧
    ((s.health "Meter 1").pollStatus = .healthy ↔
      ∃ r ∈ (s.history "Meter 1").getLast?, r.isFailure = false) ∧
    (s.health "Meter 1").consecutiveFailures =
      ((s.history "Meter 1").rtakeWhile HealthRecord.isFailure).length := by
  have hends : (Run.exec step init
      [.addDevice "Meter 1", .poll "Meter 1" 9 mute twoPoints]).isSome = true := by decide +kernel
  obtain ⟨s, hrun⟩ := Option.isSome_iff_exists.mp hends
  exact ⟨s, hrun, offline_iff hrun "Meter 1"⟩

/-- One poll makes the meter offline. -/
example : (Run.exec step init [.poll "Meter 1" 9 mute twoPoints]).map
    (fun s => (s.health "Meter 1").pollStatus) = some .offline := by decide +kernel

end HealthTable

namespace DeviceHealth

/-- A failure is counted. -/
theorem consecutiveFailures_record {r : HealthRecord} (hr : r.isFailure = true)
    (h : DeviceHealth) : (h.record r).consecutiveFailures = h.consecutiveFailures + 1 := by
  cases r with
  | success ts responseMs => cases hr
  | failure ts error errorType responseMs => rfl

/-- Failures add up. -/
theorem consecutiveFailures_foldl {records : List HealthRecord}
    (hfailures : ∀ r ∈ records, r.isFailure = true) (h : DeviceHealth) :
    (records.foldl record h).consecutiveFailures = h.consecutiveFailures + records.length := by
  induction records generalizing h with
  | nil => rfl
  | cons r records ih =>
    obtain ⟨hr, hrest⟩ := List.forall_mem_cons.mp hfailures
    rw [List.foldl_cons, ih hrest, consecutiveFailures_record hr, List.length_cons]
    omega

end DeviceHealth

namespace Modbus

variable {R V : Type} {fuel : Nat}

/-- What a poll reports as failures are failures. -/
theorem PollWorld.failures_isFailure (world : PollWorld R)
    (failures : List (String × DeviceErrorType)) :
    ∀ r ∈ world.failures failures, r.isFailure = true := by
  intro r hr
  obtain ⟨failure, _, rfl⟩ := List.mem_map.mp hr
  rfl

/-- One for each. -/
theorem PollWorld.length_failures (world : PollWorld R)
    (failures : List (String × DeviceErrorType)) :
    (world.failures failures).length = failures.length := by
  simp [PollWorld.failures]

/-- The first request of a datapoint is answered. -/
def PointAnswered (fuel : Nat) (read : Address → Int → Answer R) (config : Point R V) : Prop :=
  ∃ range ranges response, getAddressRanges fuel config = some (.ok (range :: ranges)) ∧
    read range.1 range.2 = .response response

/-- A request of a section is answered. -/
def SectionAnswered (fuel : Nat) (read : Nat → Int → Address → Int → Answer R) :
    Nat → List (Point R V) → Prop
  | _, [] => False
  | place, config :: configs =>
    PointAnswered fuel (read place config.functionCode) config ∨
      SectionAnswered fuel read (place + 1) configs

/-- A request of a poll is answered, with a value, an exception or nothing. -/
def PollWorld.Answered (world : PollWorld R) (fuel : Nat) (config : UplinkConfig R V) : Prop :=
  SectionAnswered fuel (world.read .attributes) 0 config.attributes ∨
    SectionAnswered fuel (world.read .telemetry) 0 config.telemetry

/-- There are responses when the first request was answered. -/
theorem readRanges_ne_nil_iff (read : Address → Int → Answer R) (ranges : List (Address × Int)) :
    (readRanges read ranges).1 ≠ [] ↔
      ∃ range rest response, ranges = range :: rest ∧ read range.1 range.2 = .response response := by
  cases ranges with
  | nil => simp [readRanges]
  | cons range rest =>
    obtain ⟨startAddress, objectsCount⟩ := range
    -- the first request decides: a response, or no list at all
    simp only [readRanges, List.cons.injEq]
    cases hread : read startAddress objectsCount with
    | response response =>
      refine iff_of_true (List.cons_ne_nil _ _) ?_
      exact ⟨(startAddress, objectsCount), rest, response, ⟨rfl, rfl⟩, hread⟩
    | timeout =>
      refine iff_of_false (fun h => h rfl) ?_
      rintro ⟨range, _, response, ⟨rfl, rfl⟩, hresponse⟩
      rw [hread] at hresponse
      cases hresponse
    | valueError =>
      refine iff_of_false (fun h => h rfl) ?_
      rintro ⟨range, _, response, ⟨rfl, rfl⟩, hresponse⟩
      rw [hread] at hresponse
      cases hresponse
    | raised =>
      refine iff_of_false (fun h => h rfl) ?_
      rintro ⟨range, _, response, ⟨rfl, rfl⟩, hresponse⟩
      rw [hread] at hresponse
      cases hresponse

/-- Nothing is stored when there is nothing to store. -/
theorem store_eq_nil_iff (data : SectionData R) (tag : String) (responses : List (Response R)) :
    store data tag responses = [] ↔ data = [] ∧ responses = [] := by
  unfold store
  cases responses with
  | nil => simp
  | cons response responses =>
    have hset : data.set tag ((data.get? tag).getD [] ++ response :: responses) ≠ [] := by
      intro hnil
      have hget := Dict.get?_set_self data tag ((data.get? tag).getD [] ++ response :: responses)
      rw [hnil, Dict.get?_nil] at hget
      cases hget
    simp [hset]

/-- What a section has read is empty when nothing of it was answered. -/
theorem readSection_eq_nil_iff {read : Nat → Int → Address → Int → Answer R}
    {configs : List (Point R V)} {place : Nat} {data data' : SectionData R}
    (hread : readSection fuel read place configs data = .returned data') :
    data' = [] ↔ data = [] ∧ ¬ SectionAnswered fuel read place configs := by
  induction configs generalizing place data with
  | nil =>
    cases hread
    simp [SectionAnswered]
  | cons config configs ih =>
    simp only [readSection] at hread
    simp only [SectionAnswered, not_or]
    split at hread
    · cases hread
    · next error hranges =>
      split at hread
      · have hpoint : ¬ PointAnswered fuel (read place config.functionCode) config := by
          rintro ⟨range, ranges, response, hok, _⟩
          rw [hranges] at hok
          cases hok
        rw [ih hread, and_iff_right hpoint]
      · cases hread
    · next ranges hranges =>
      split at hread
      · cases hread
      · rw [ih hread, store_eq_nil_iff, and_assoc]
        have hpoint : PointAnswered fuel (read place config.functionCode) config ↔
            (readRanges (read place config.functionCode) ranges).1 ≠ [] := by
          rw [readRanges_ne_nil_iff, PointAnswered, hranges]
          simp
        rw [hpoint, not_not]

/-- A poll that ends has read something exactly when a request of it was answered. -/
theorem readSlaveData_isEmpty {world : PollWorld R} {config : UplinkConfig R V}
    {data : SlaveData R} (hread : readSlaveData fuel world.read config = .returned data) :
    data.isEmpty = false ↔ world.Answered fuel config := by
  simp only [readSlaveData] at hread
  split at hread
  · cases hread
  · cases hread
  · next attributes hattributes =>
    split at hread
    · cases hread
    · cases hread
    · next telemetry htelemetry =>
      cases hread
      have hempty : (SlaveData.isEmpty ⟨attributes, telemetry⟩ = true) ↔
          attributes = [] ∧ telemetry = [] := by
        simp [SlaveData.isEmpty]
      rw [← Bool.not_eq_true, hempty, readSection_eq_nil_iff hattributes,
        readSection_eq_nil_iff htelemetry, PollWorld.Answered]
      simp only [true_and]
      rw [← not_or, not_not]

/-- The datapoints of a poll that count as failures of their own. -/
def PollWorld.failedDatapoints (world : PollWorld R) (fuel : Nat) (config : UplinkConfig R V) : Nat :=
  match world.connect with
  | .ok true => (readFailures fuel world config).length
  | .ok false | .error _ => 0

/-- The poll succeeds: it connects, no exception leaves its readings, and a request is answered. -/
def PollWorld.Succeeds (world : PollWorld R) (fuel : Nat) (config : UplinkConfig R V) : Prop :=
  world.connect = .ok true ∧ (∃ data, readSlaveData fuel world.read config = .returned data) ∧
    world.Answered fuel config

/-- What a poll records: a failure for each of these datapoints, and then how it ends. -/
theorem pollDevice_records {world : PollWorld R} {config : UplinkConfig R V}
    {records : List HealthRecord} (hdata : ¬ (config.attributes = [] ∧ config.telemetry = []))
    (hpoll : pollDevice fuel world config = some records) :
    ∃ failures last, records = failures ++ [last] ∧
      failures.length = world.failedDatapoints fuel config ∧
      (∀ r ∈ failures, r.isFailure = true) ∧
      (last.isFailure = false ↔ world.Succeeds fuel config) := by
  simp only [pollDevice, if_neg hdata] at hpoll
  simp only [PollWorld.failedDatapoints, PollWorld.Succeeds]
  cases hconnect : world.connect with
  | error error =>
    rw [hconnect] at hpoll
    cases hpoll
    exact ⟨[], _, rfl, rfl, by simp, by simp [PollWorld.verdict, HealthRecord.ofFailure,
      HealthRecord.isFailure]⟩
  | ok connected =>
    rw [hconnect] at hpoll
    cases connected with
    | false =>
      cases hpoll
      exact ⟨[], _, rfl, rfl, by simp, by simp [PollWorld.verdict, HealthRecord.ofFailure,
        HealthRecord.isFailure]⟩
    | true =>
      simp only at hpoll
      split at hpoll
      · cases hpoll
      · next hraised =>
        cases hpoll
        refine ⟨_, _, rfl, world.length_failures _, world.failures_isFailure _, ?_⟩
        simp [PollWorld.verdict, HealthRecord.ofFailure, HealthRecord.isFailure, hraised]
      · next data hreturned =>
        cases hpoll
        refine ⟨_, _, rfl, world.length_failures _, world.failures_isFailure _, ?_⟩
        rw [← readSlaveData_isEmpty hreturned]
        cases hempty : data.isEmpty <;>
          simp [PollWorld.verdict, HealthRecord.ofFailure, HealthRecord.isFailure, hreturned]

end Modbus

namespace HealthTable

variable {R V : Type} {s s' : HealthTable}

/-- After a poll with datapoints the device is healthy exactly when the poll has connected, nothing
    has left its readings and one of its requests was answered, with an exception or with nothing
    too. Otherwise the poll has added a failure of its own and one for each datapoint that timed
    out or raised a `ValueError`. Other devices stay as they are. -/
theorem poll_health {deviceName : String} {fuel : Nat} {world : Modbus.PollWorld R}
    {config : Modbus.UplinkConfig R V}
    (hdata : ¬ (config.attributes = [] ∧ config.telemetry = []))
    (hstep : s.step (.poll deviceName fuel world config) = some s') :
    ((s'.health deviceName).pollStatus = .healthy ↔ world.Succeeds fuel config) ∧
    (¬ world.Succeeds fuel config → (s'.health deviceName).consecutiveFailures =
      (s.health deviceName).consecutiveFailures + world.failedDatapoints fuel config + 1) ∧
    ∀ name, name ≠ deviceName → s'.health name = s.health name := by
  obtain ⟨records, hpoll, rfl⟩ := Option.map_eq_some_iff.mp hstep
  obtain ⟨failures, last, rfl, hlength, hfailures, hlast⟩ :=
    Modbus.pollDevice_records hdata hpoll
  refine ⟨?_, ?_, ?_⟩
  · rw [health_recordAll, if_pos rfl, List.foldl_append, List.foldl_cons, List.foldl_nil,
      DeviceHealth.record_healthy_iff, hlast]
  · intro hfails
    have hfailure : last.isFailure = true := by
      rw [← Bool.not_eq_false]
      exact fun hfalse => hfails (hlast.mp hfalse)
    rw [health_recordAll, if_pos rfl, List.foldl_append, List.foldl_cons, List.foldl_nil,
      DeviceHealth.consecutiveFailures_record hfailure,
      DeviceHealth.consecutiveFailures_foldl hfailures, hlength]
  · intro name hname
    rw [health_recordAll, if_neg hname]

/-- Its poll fails and is counted. -/
theorem poll_health_mute : ∃ s',
    init.step (.poll "Meter 1" 9 mute twoPoints) = some s' ∧
    ((s'.health "Meter 1").pollStatus = .healthy ↔ mute.Succeeds 9 twoPoints) ∧
    (¬ mute.Succeeds 9 twoPoints → (s'.health "Meter 1").consecutiveFailures =
      (init.health "Meter 1").consecutiveFailures + mute.failedDatapoints 9 twoPoints + 1) ∧
    ∀ name, name ≠ "Meter 1" → s'.health name = init.health name := by
  have hends : (init.step (.poll "Meter 1" 9 mute twoPoints)).isSome = true := by decide +kernel
  obtain ⟨s', hstep⟩ := Option.isSome_iff_exists.mp hends
  exact ⟨s', hstep, poll_health (by simp [twoPoints]) hstep⟩

/-- A command leaves a device healthy exactly when the answer is without an error. -/
theorem command_health {deviceName : String} {ts : Int} {response : Json}
    (hstep : s.step (.command (R := R) (V := V) deviceName ts response) = some s') :
    (s'.health deviceName).pollStatus = .healthy ↔ Modbus.Silent response := by
  obtain rfl := Option.some.inj hstep
  rw [health_record, if_pos rfl, DeviceHealth.record_healthy_iff]
  unfold RpcHandler.recordCommandHealth Modbus.Silent
  cases RpcHandler.findResponseError response with
  | none => exact iff_of_true rfl rfl
  | some error => exact iff_of_false (fun h => by cases h) (fun h => by cases h)

/-- A read of a device of the Modbus connector leaves it healthy exactly when it is reported as
    accepted, so that one that is not connected is healthy again. -/
theorem read_health {fields : Dict String Json} {functionCode address objectsCount : Int}
    (hmem : functionCode ∈ [1, 2, 3, 4])
    (hcode : Dict.get? fields "functionCode" = some (.int functionCode))
    (haddress : Dict.get? fields "address" = some (.int address))
    (hcount : Dict.get? fields "objectsCount" = some (.int objectsCount))
    {world : Modbus.RpcWorld R} {found : Bool} {wait : Modbus.TaskWait} {deviceName : String}
    {ts : Int} (hstep : s.step (.command (R := R) (V := V) deviceName ts
      (Modbus.processReservedRpcRequest world found wait deviceName fields)) = some s') :
    (s'.health deviceName).pollStatus = .healthy ↔
      found = true ∧ wait = .completed ∧ world.Quiet fields functionCode address objectsCount := by
  rw [command_health hstep]
  exact Modbus.silent_processReservedRpcRequest hmem hcode haddress hcount found wait deviceName

end HealthTable

end Novena

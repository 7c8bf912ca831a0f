import NovenaGateway.Native.DataPipeline
import NovenaGateway.Spec.UplinkReads

/-!
# Every poll is converted once and in order

The polls of a device are converted in batches. An exception of one conversion passes over the
batches behind it in the same turn, those of other devices; converters whose decoders raise nothing
but what `convert` catches have no such exception, whatever the devices answer. Then every device
has one result for every batch of its polls. As long as no conversion renames a tag, the turns in
between do not show in what a poll reads.

Key results:
- `Modbus.DataPipeline.polls_accounted`
- `Modbus.DataPipeline.reports_delivered`
-/

namespace Novena.Modbus

variable {K R V : Type} [DecidableEq K] {expand : String → Int → String}

open Dict

namespace DataPipeline

variable {s s' : DataPipeline K R V}

/-! ## Batches -/

/-- The batches of a key so far. -/
def batchesOf (s : DataPipeline K R V) (key : K) : List (List (PollEntry R)) :=
  valuesAt key (s.batches.map fun batch => (batch.key, batch.entries))

/-- A turn makes a batch of every group, converted or not. -/
theorem convertBatches_groups (expand : String → Int → String) (configs : K → UplinkConfig R V)
    (groups : List (K × List (PollEntry R))) :
    (convertBatches expand configs groups).2.map (fun batch => (batch.key, batch.entries)) =
      groups := by
  induction groups generalizing configs with
  | nil => rfl
  | cons group rest ih =>
    obtain ⟨key, entries⟩ := group
    rw [convertBatches]
    split
    · simp [Function.comp_def]
    · simp only [List.map_cons, ih]

/-- A batch is passed over behind one whose conversion has raised. -/
theorem convertBatches_skipped (expand : String → Int → String) (configs : K → UplinkConfig R V)
    (groups : List (K × List (PollEntry R)))
    (h : ∃ batch ∈ (convertBatches expand configs groups).2, batch.fate = .skipped) :
    ∃ batch ∈ (convertBatches expand configs groups).2, batch.fate = .raised := by
  induction groups generalizing configs with
  | nil =>
    obtain ⟨batch, hbatch, _⟩ := h
    cases hbatch
  | cons group rest ih =>
    obtain ⟨key, entries⟩ := group
    rw [convertBatches] at h ⊢
    split at h
    · exact ⟨_, List.mem_cons_self, rfl⟩
    · next converted config _ =>
      obtain ⟨batch, hbatch, hskipped⟩ := h
      obtain rfl | hbatch := List.mem_cons.mp hbatch
      · cases hskipped
      · obtain ⟨other, hother, hraised⟩ := ih _ ⟨batch, hbatch, hskipped⟩
        exact ⟨other, List.mem_cons_of_mem _ hother, hraised⟩

/-! ## What every run keeps -/

/-- Nothing is lost on the way, and nothing changes places. -/
structure Accounted (s : DataPipeline K R V) : Prop where
  polled : ∀ key, valuesAt key s.polled =
    (s.batchesOf key).flatten ++ valuesAt key s.dataToConvert
  saved : s.saved ++ s.dataToSave = s.batches.filterMap toSave
  skipped : (∃ batch ∈ s.batches, batch.fate = .skipped) →
    ∃ batch ∈ s.batches, batch.fate = .raised

/-- At the beginning nothing was polled. -/
theorem accounted_init (configs : K → UplinkConfig R V) : (init configs).Accounted where
  polled _ := rfl
  saved := rfl
  skipped := by
    rintro ⟨batch, hbatch, _⟩
    cases hbatch

/-- A poll that begins adds nothing yet. -/
theorem Accounted.beginPoll (h : s.Accounted) {key : K} {memory : Int → Int → R}
    {start : Reading R} (hstep : s.beginPoll key memory start = some s') : s'.Accounted := by
  unfold DataPipeline.beginPoll at hstep
  split at hstep
  · cases hstep
  · obtain rfl := Option.some.inj hstep
    exact ⟨h.polled, h.saved, h.skipped⟩

/-- A poll that ends is queued, and one that goes on is not counted. -/
theorem Accounted.continuePoll (h : s.Accounted) {key : K}
    (hstep : s.continuePoll key = some s') : s'.Accounted := by
  unfold DataPipeline.continuePoll at hstep
  split at hstep
  -- no poll is under way
  · cases hstep
  · split at hstep
    -- the read raised: nothing of this poll is queued
    · cases hstep
    · obtain rfl := Option.some.inj hstep
      exact ⟨h.polled, h.saved, h.skipped⟩
    -- it goes on with its next request
    · obtain rfl := Option.some.inj hstep
      exact ⟨h.polled, h.saved, h.skipped⟩
    · next data _ =>
      obtain rfl := Option.some.inj hstep
      -- it is over, and an empty result is not queued
      by_cases hempty : data.isEmpty = true
      · simp only [hempty, if_true]
        exact ⟨h.polled, h.saved, h.skipped⟩
      · simp only [hempty]
        exact {
          polled := by
            intro k
            show valuesAt k (s.polled ++ _) = (s.batchesOf k).flatten ++
              valuesAt k (s.dataToConvert ++ _)
            rw [valuesAt_append, h.polled k, List.append_assoc, ← valuesAt_append]
          saved := h.saved
          skipped := h.skipped }

/-- A turn of the conversion moves entries from one queue to the next. -/
theorem Accounted.convertTurn (h : s.Accounted) (n : Nat) :
    (s.convertTurn expand n).Accounted := by
  constructor
  case polled =>
    intro key
    have hbatches : (s.convertTurn expand n).batchesOf key =
        s.batchesOf key ++ valuesAt key (groups (s.dataToConvert.take n)) := by
      rw [batchesOf, batchesOf, ← valuesAt_append]
      simp only [DataPipeline.convertTurn, List.map_append, convertBatches_groups]
    have hqueue : valuesAt key s.dataToConvert =
        valuesAt key (s.dataToConvert.take n) ++ valuesAt key (s.dataToConvert.drop n) := by
      rw [← valuesAt_append, List.take_append_drop]
    -- what the turn takes from the queue becomes the batches of the turn
    rw [hbatches, List.flatten_append, flatten_valuesAt_groups, List.append_assoc]
    show valuesAt key s.polled = _
    rw [h.polled key, hqueue]
    rfl
  case saved =>
    show s.saved ++ (s.dataToSave ++ _) = (s.batches ++ _).filterMap toSave
    rw [List.filterMap_append, ← List.append_assoc, h.saved]
  case skipped =>
    -- a skipped batch stands behind one that raised, then or in this turn
    rintro ⟨batch, hbatch, hskipped⟩
    obtain hold | hnew := List.mem_append.mp hbatch
    · obtain ⟨other, hother, hraised⟩ := h.skipped ⟨batch, hold, hskipped⟩
      exact ⟨other, List.mem_append_left _ hother, hraised⟩
    · obtain ⟨other, hother, hraised⟩ :=
        convertBatches_skipped expand s.configs _ ⟨batch, hnew, hskipped⟩
      exact ⟨other, List.mem_append_right _ hother, hraised⟩

/-- And so does the turn that saves. -/
theorem Accounted.save (h : s.Accounted) : s.save.Accounted := by
  unfold DataPipeline.save
  split
  · exact h
  · next converted rest hqueue =>
    exact {
      polled := h.polled
      saved := by
        have hsaved := h.saved
        rw [hqueue] at hsaved
        rw [← hsaved]
        exact List.append_assoc _ _ _
      skipped := h.skipped }

/-- Every step keeps each poll in one place. -/
theorem step_accounted (h : s.Accounted) {label : Label K R}
    (hstep : s.step expand label = some s') : s'.Accounted := by
  cases label with
  | beginPoll key fuel memory read => exact h.beginPoll hstep
  | continuePoll key => exact h.continuePoll hstep
  | convert n =>
    obtain rfl := Option.some.inj hstep
    exact h.convertTurn n
  | save =>
    obtain rfl := Option.some.inj hstep
    exact h.save

/-- In every run, the polls of every device have gone into batches in the order they were made, each
    one once, but for those that still wait; the results saved or about to be are those of the
    batches, in order; and a batch is only passed over when a conversion has raised. -/
theorem polls_accounted {configs : K → UplinkConfig R V} {labels : List (Label K R)}
    (hrun : exec expand configs labels = some s) : s.Accounted :=
  Run.exec_invariant' (fun _ _ _ h hstep => step_accounted h hstep) (accounted_init configs) hrun

end DataPipeline

/-! ## Converters that raise nothing -/

/-- Whatever the decoder of a datapoint raises is caught. -/
def Point.Caught (config : Point R V) : Prop :=
  ∀ xs error, config.decodeData xs = .error error → caught error = true

/-- A converter whose configuration stays as it is, and whose decoders raise what it catches. -/
structure UplinkConfig.Sound (config : UplinkConfig R V) : Prop where
  stable : config.Stable
  caught : ∀ point ∈ config.attributes ++ config.telemetry, point.Caught

/-- The converter catches a `ValueError`. -/
theorem caught_valueError (text : String) : caught (.valueError text) = true := by
  simp [caught, Exn.isValueError]

/-- An exception of two computations is one of the first or of the second. -/
theorem bind_caught {α β : Type} {x : Py α} {f : α → Py β} {error : Exn}
    (hx : ∀ e, x = .error e → caught e = true) (hf : ∀ a e, f a = .error e → caught e = true)
    (h : x >>= f = .error error) : caught error = true := by
  cases x with
  | error e =>
    cases h
    exact hx error rfl
  | ok a => exact hf a error h

/-- Whatever is wrong with a valid response is caught. -/
theorem getRegisters_caught {functionCode : Int} {response : Response R} {error : Exn}
    (hvalid : response.valid = true)
    (h : getRegistersFromEncodedData functionCode response = .error error) :
    caught error = true := by
  cases response with
  | missing => cases hvalid
  | exception => cases hvalid
  | registers values =>
    simp only [getRegistersFromEncodedData] at h
    split at h
    · cases h
    · cases h
      exact caught_valueError _

/-- So it is with all the responses of a datapoint. -/
theorem mapM_caught {functionCode : Int} {responses : List (Response R)} {error : Exn}
    (hvalid : ∀ response ∈ responses, response.valid = true)
    (h : responses.mapM (getRegistersFromEncodedData functionCode) = .error error) :
    caught error = true := by
  induction responses generalizing error with
  | nil => cases h
  | cons response responses ih =>
    obtain ⟨hfirst, hrest⟩ := List.forall_mem_cons.mp hvalid
    rw [List.mapM_cons] at h
    apply bind_caught (fun _ => getRegisters_caught hfirst) _ h
    intro registers e hothers
    exact bind_caught (fun _ => ih hrest) (fun _ _ hpure => by cases hpure) hothers

/-- And in the loop over the addresses of a wide datapoint. -/
theorem wideRangeLoop_caught (expand : String → Int → String) (count a : Int)
    {config : Point R V} (h : config.Caught) {chunks : List (List R)} {error : Exn}
    (hloop : (wideRangeLoop expand count chunks a config).1 = .error error) :
    caught error = true := by
  -- induction on the chunks; a chunk that raises is the end
  induction chunks generalizing a config with
  | nil => cases hloop
  | cons chunk chunks ih =>
    rw [wideRangeLoop] at hloop
    split at hloop
    · next hdecode =>
      cases hloop
      exact h chunk error hdecode
    · exact ih a h hloop
    · -- the decoder does not look at the tag
      have hrenamed : ({ config with tag := validateKeyNameExpression config.tag } :
          Point R V).Caught := h
      dsimp only at hloop
      cases hrest : (wideRangeLoop expand count chunks (a + count)
          { config with tag := validateKeyNameExpression config.tag }).1 with
      | error e =>
        rw [hrest] at hloop
        cases hloop
        exact ih _ hrenamed hrest
      | ok values =>
        rw [hrest] at hloop
        cases hloop

/-- A wide datapoint raises only what the converter catches. -/
theorem processWideRangeResponse_caught (expand : String → Int → String) {config : Point R V}
    (h : config.Caught) {encodedData : Option (List (Response R))} {error : Exn}
    (hraised : (processWideRangeResponse expand config encodedData).1 = .error error) :
    caught error = true := by
  cases encodedData with
  | none =>
    cases hraised
    rfl
  | some responses =>
    have hvalid : ∀ response ∈ responses.filter Response.valid, response.valid = true := by
      intro response hresponse
      exact (List.mem_filter.mp hresponse).2
    rw [processWideRangeResponse] at hraised
    split at hraised
    · next hregisters =>
      cases hraised
      exact mapM_caught hvalid hregisters
    · rw [processWideRangeResponseEncodedData] at hraised
      split at hraised
      · cases hraised
      · dsimp only at hraised
        split at hraised
        · cases hraised
          exact caught_valueError _
        · exact wideRangeLoop_caught expand _ _ h hraised

/-- And so does one with a single address. -/
theorem processSingleAddressResponse_caught {config : Point R V} (h : config.Caught)
    {encodedData : Option (List (Response R))} {error : Exn}
    (hraised : processSingleAddressResponse config encodedData = .error error) :
    caught error = true := by
  cases encodedData with
  | none =>
    cases hraised
    rfl
  | some responses =>
    cases responses with
    | nil =>
      cases hraised
      rfl
    | cons response rest =>
      -- the registers first, then the decoder
      simp only [processSingleAddressResponse] at hraised
      split at hraised
      · next hvalid =>
        apply bind_caught (fun _ => getRegisters_caught hvalid) _ hraised
        intro registers e hdecode
        apply bind_caught (h registers) _ hdecode
        intro decoded e hpure
        cases decoded <;> cases hpure
      · cases hraised
        exact caught_valueError _

/-- An exception that is caught leaves no values. -/
theorem settled_ok {result : Py (List (String × V))}
    (h : ∀ error, result = .error error → caught error = true) :
    ∃ values, Point.settled result = .ok values := by
  cases result with
  | ok values => exact ⟨values, rfl⟩
  | error error =>
    rw [Point.settled, if_pos (h error rfl)]
    exact ⟨[], rfl⟩

/-- A datapoint is converted to some values, and never stops the others. -/
theorem convertPoint_ok (expand : String → Int → String) {config : Point R V} (h : config.Caught)
    (encodedData : Option (List (Response R))) :
    ∃ values, (convertPoint expand config encodedData).1 = .ok values := by
  rw [convertPoint_fst]
  apply settled_ok
  intro error hraised
  split at hraised
  · exact processWideRangeResponse_caught expand h hraised
  · exact processSingleAddressResponse_caught h hraised

/-- So is a section. -/
theorem convertSection_ok (expand : String → Int → String) (data : SectionData R)
    {configs : List (Point R V)} (h : ∀ config ∈ configs, config.Caught) :
    ∃ values, (convertSection expand data configs).1 = .ok values := by
  induction configs with
  | nil => exact ⟨[], rfl⟩
  | cons config configs ih =>
    obtain ⟨hfirst, hrest⟩ := List.forall_mem_cons.mp h
    obtain ⟨values, hvalues⟩ := convertPoint_ok expand hfirst (data.get? config.tag)
    obtain ⟨rest, hrests⟩ := ih hrest
    rw [convertSection]
    cases hpoint : convertPoint expand config (data.get? config.tag) with
    | mk result config' =>
      rw [hpoint] at hvalues
      obtain rfl : result = .ok values := hvalues
      dsimp only
      rw [hrests]
      exact ⟨values ++ rest, rfl⟩

/-- And a whole poll, which leaves the configuration as it is. -/
theorem convertPoll_ok (expand : String → Int → String) (data : SlaveData R)
    {config : UplinkConfig R V} (h : config.Sound) :
    ∃ payloads, convertPoll expand data config = (.ok payloads, config) := by
  have hkept := convertPoll_config expand data h.stable
  obtain ⟨attributes, hattributes⟩ := convertSection_ok expand data.attributes
    fun point hpoint => h.caught point (List.mem_append_left _ hpoint)
  obtain ⟨telemetry, htelemetry⟩ := convertSection_ok expand data.telemetry
    fun point hpoint => h.caught point (List.mem_append_right _ hpoint)
  have hok : (convertPoll expand data config).1 = .ok { attributes, telemetry } := by
    rw [convertPoll]
    cases hfirst : convertSection expand data.attributes config.attributes with
    | mk result points =>
      rw [hfirst] at hattributes
      obtain rfl : result = .ok attributes := hattributes
      dsimp only
      rw [htelemetry]
      rfl
  exact ⟨{ attributes, telemetry }, Prod.ext hok hkept⟩

/-- And the polls of a batch. -/
theorem convertPolls_ok (expand : String → Int → String) (polls : List (SlaveData R))
    {config : UplinkConfig R V} (h : config.Sound) :
    ∃ payloads, convertPolls expand polls config = (.ok payloads, config) := by
  induction polls with
  | nil => exact ⟨{ attributes := [], telemetry := [] }, rfl⟩
  | cons data polls ih =>
    obtain ⟨first, hfirst⟩ := convertPoll_ok expand data h
    obtain ⟨rest, hrest⟩ := ih
    refine ⟨{ attributes := first.attributes ++ rest.attributes
              telemetry := first.telemetry ++ rest.telemetry }, ?_⟩
    simp only [convertPolls, hfirst, hrest]
    rfl

/-- Such a converter makes something of every batch and keeps its configuration. -/
theorem convert_ok (expand : String → Int → String) (polls : List (SlaveData R))
    {config : UplinkConfig R V} (h : config.Sound) :
    ∃ converted, convert expand polls config = (.ok converted, config) := by
  obtain ⟨payloads, hpayloads⟩ := convertPolls_ok expand polls h
  refine ⟨payloads.converted, ?_⟩
  simp only [convert, hpayloads]
  rfl

namespace DataPipeline

variable {s s' : DataPipeline K R V} {configs : K → UplinkConfig R V}

/-- What is saved for a batch of a device with this configuration. -/
def report (expand : String → Int → String) (config : UplinkConfig R V)
    (entries : List (PollEntry R)) : Option (ConvertedData V) :=
  match (convert expand (entries.map PollEntry.data) config).1 with
  | .ok converted => if converted.worthSaving then some converted else none
  | .error _ => none

/-- A poll that began this way reads this, when the configuration stays as it is. -/
def Reads (config : UplinkConfig R V) (start : Reading R) (data : SlaveData R) : Prop :=
  ∃ fuel read, start = .start fuel read ∧ readSlaveData fuel read config = .returned data

/-- The device answers this poll in full, and its loops end. -/
def Answered (cleared : R) (config : UplinkConfig R V) (entry : PollEntry R) : Prop :=
  (∀ part, Answers cleared entry.memory (entry.start.read part)) ∧ config.Within entry.start.fuel

/-- The polls and the batches are those of converters that keep their configurations. -/
structure Steady (expand : String → Int → String) (configs : K → UplinkConfig R V)
    (s : DataPipeline K R V) : Prop where
  unchanged : s.configs = configs
  polls : ∀ key poll, s.polls key = some poll → ∃ fuel read, poll.start = .start fuel read ∧
    poll.reading.finish (configs key) = readSlaveData fuel read (configs key)
  polled : ∀ key, ∀ entry ∈ valuesAt key s.polled, Reads (configs key) entry.start entry.data
  fates : ∀ batch ∈ s.batches, ∃ converted, batch.fate = .converted converted ∧
    convert expand (batch.entries.map PollEntry.data) (configs batch.key) =
      (.ok converted, configs batch.key)

/-- Every batch is converted, with the configuration of its device. -/
theorem convertBatches_steady (hsound : ∀ key, (configs key).Sound)
    (groups : List (K × List (PollEntry R))) :
    (convertBatches expand configs groups).1 = configs ∧
      ∀ batch ∈ (convertBatches expand configs groups).2,
        ∃ converted, batch.fate = .converted converted ∧
          convert expand (batch.entries.map PollEntry.data) (configs batch.key) =
            (.ok converted, configs batch.key) := by
  -- induction on the groups; no group changes the configurations of the next
  induction groups with
  | nil => exact ⟨rfl, fun batch hbatch => absurd hbatch List.not_mem_nil⟩
  | cons group rest ih =>
    obtain ⟨key, entries⟩ := group
    obtain ⟨converted, hconverted⟩ :=
      convert_ok expand (entries.map PollEntry.data) (hsound key)
    have hbatches : convertBatches expand configs ((key, entries) :: rest) =
        ((convertBatches expand configs rest).1,
          ⟨key, entries, .converted converted⟩ :: (convertBatches expand configs rest).2) := by
      simp only [convertBatches, hconverted, Function.update_eq_self]
    rw [hbatches]
    refine ⟨ih.1, ?_⟩
    intro batch hbatch
    obtain rfl | hbatch := List.mem_cons.mp hbatch
    · exact ⟨converted, rfl, hconverted⟩
    · exact ih.2 batch hbatch

/-- The configurations at the beginning. -/
theorem steady_init (expand : String → Int → String) (configs : K → UplinkConfig R V) :
    (init configs).Steady expand configs where
  unchanged := rfl
  polls _ _ h := by cases h
  polled _ _ h := absurd h List.not_mem_nil
  fates := fun _ hbatch => absurd hbatch List.not_mem_nil

/-- A poll begins with the configuration of its device. -/
theorem Steady.beginPoll (h : s.Steady expand configs) {key : K} {fuel : Nat}
    {memory : Int → Int → R} {read : ConfigSection → Nat → Int → Address → Int → Answer R}
    (hstep : s.beginPoll key memory (.start fuel read) = some s') : s'.Steady expand configs := by
  unfold DataPipeline.beginPoll at hstep
  split at hstep
  · cases hstep
  · obtain rfl := Option.some.inj hstep
    refine ⟨h.unchanged, fun k poll hpoll => ?_, h.polled, h.fates⟩
    dsimp only at hpoll
    by_cases hk : k = key
    · subst hk
      rw [Function.update_self, Option.some.injEq] at hpoll
      exact ⟨fuel, read, by rw [← hpoll], by rw [← hpoll]; exact Reading.finish_start fuel read _⟩
    · rw [Function.update_of_ne hk] at hpoll
      exact h.polls k poll hpoll

/-- Whatever came in between, a poll reads what it would have read at once. -/
theorem Steady.continuePoll (h : s.Steady expand configs) {key : K}
    (hstep : s.continuePoll key = some s') : s'.Steady expand configs := by
  unfold DataPipeline.continuePoll at hstep
  cases hpoll : s.polls key with
  | none => rw [hpoll] at hstep; cases hstep
  | some poll =>
    obtain ⟨fuel, read, hstart, hfinish⟩ := h.polls key poll hpoll
    -- the other polls are where they were
    have hothers : ∀ {next : Option (ActivePoll R)} {k : K} {other : ActivePoll R}, k ≠ key →
        Function.update s.polls key next k = some other → ∃ fuel read,
          other.start = .start fuel read ∧
            other.reading.finish (configs k) = readSlaveData fuel read (configs k) := by
      intro next k other hk hother
      rw [Function.update_of_ne hk] at hother
      exact h.polls k other hother
    -- the poll reads with the configurations it began with
    rw [hpoll, h.unchanged] at hstep
    dsimp only at hstep
    split at hstep
    · cases hstep
    -- it raised
    · obtain rfl := Option.some.inj hstep
      refine ⟨rfl, fun k other hother => ?_, h.polled, h.fates⟩
      dsimp only at hother
      by_cases hk : k = key
      · rw [hk, Function.update_self] at hother
        cases hother
      · exact hothers hk hother
    -- it goes on, and ends where it would have ended
    · next reading hnext =>
      obtain rfl := Option.some.inj hstep
      refine ⟨rfl, fun k other hother => ?_, h.polled, h.fates⟩
      dsimp only at hother
      by_cases hk : k = key
      · subst hk
        rw [Function.update_self, Option.some.injEq] at hother
        subst hother
        exact ⟨fuel, read, hstart, (Reading.finish_next hnext).trans hfinish⟩
      · exact hothers hk hother
    -- it has ended, with what a read without pauses returns
    · next data hnext =>
      obtain rfl := Option.some.inj hstep
      have hread := hfinish.symm.trans (Reading.finish_of_next hnext)
      refine ⟨rfl, fun k other hother => ?_, fun k entry hentry => ?_, h.fates⟩
      · dsimp only at hother
        by_cases hk : k = key
        · rw [hk, Function.update_self] at hother
          cases hother
        · exact hothers hk hother
      -- what is queued is this result
      · dsimp only at hentry
        split at hentry
        · exact h.polled k entry hentry
        · rw [valuesAt_append, List.mem_append] at hentry
          obtain hold | hnew := hentry
          · exact h.polled k entry hold
          · rw [valuesAt_cons] at hnew
            split at hnew
            · next hkey =>
              obtain rfl := List.mem_singleton.mp hnew
              exact ⟨fuel, read, hstart, hkey ▸ hread⟩
            · cases hnew

/-- No step changes a configuration or loses a batch. -/
theorem step_steady (hsound : ∀ key, (configs key).Sound) (h : s.Steady expand configs)
    {label : Label K R} (hstep : s.step expand label = some s') : s'.Steady expand configs := by
  -- nothing is polled in a turn of the converter, and nothing converted in a poll
  cases label with
  | beginPoll key fuel memory read => exact h.beginPoll hstep
  | continuePoll key => exact h.continuePoll hstep
  | convert n =>
    obtain rfl := Option.some.inj hstep
    have hturn := @convertBatches_steady K R V _ expand configs hsound
      (groups (s.dataToConvert.take n))
    rw [← h.unchanged] at hturn
    refine ⟨hturn.1.trans h.unchanged, h.polls, h.polled, ?_⟩
    · intro batch hbatch
      obtain hold | hnew := List.mem_append.mp hbatch
      · exact h.fates batch hold
      · have hfate := hturn.2 batch hnew
        rw [h.unchanged] at hfate
        exact hfate
  | save =>
    obtain rfl := Option.some.inj hstep
    unfold DataPipeline.save
    split
    · exact h
    · exact ⟨h.unchanged, h.polls, h.polled, h.fates⟩

/-- The results of a key are the reports of its batches. -/
theorem Steady.results (h : s.Steady expand configs) (key : K) :
    valuesAt key (s.batches.filterMap toSave) =
      (s.batchesOf key).filterMap (report expand (configs key)) := by
  have hfates := h.fates
  unfold batchesOf
  -- induction on the batches, each converted and so saved or not worth saving
  generalize s.batches = batches at hfates ⊢
  induction batches with
  | nil => rfl
  | cons batch batches ih =>
    obtain ⟨⟨converted, hfate, hconverted⟩, hrest⟩ := List.forall_mem_cons.mp hfates
    have hsaved : toSave batch =
        if converted.worthSaving then some (batch.key, converted) else none := by
      rw [toSave, hfate]
    have hreport : batch.key = key → report expand (configs key) batch.entries =
        if converted.worthSaving then some converted else none := by
      intro hkey
      rw [report, ← hkey, hconverted]
    rw [List.filterMap_cons, hsaved, List.map_cons, valuesAt_cons]
    by_cases hkey : batch.key = key
    · rw [if_pos hkey, List.filterMap_cons, hreport hkey, ← ih hrest]
      by_cases hworth : converted.worthSaving = true
      · simp [hworth, valuesAt_cons, hkey]
      · simp [hworth]
    -- a batch of another device is not reported for this one
    · rw [if_neg hkey, ← ih hrest]
      by_cases hworth : converted.worthSaving = true
      · simp [hworth, valuesAt_cons, hkey]
      · simp [hworth]

/-- In every run with such converters, whatever the devices answer, the polls of every device have
    gone into batches in the order they were made, each one once, but for those that still wait, and
    what is saved for it or about to be is the conversion of each of its batches, in order, unless
    there is nothing in it. A batch of polls that were answered in full has the values of the
    registers at those polls, the last one of every key. -/
theorem reports_delivered {labels : List (Label K R)} (hsound : ∀ key, (configs key).Sound)
    (hrun : exec expand configs labels = some s) (cleared : R) (key : K) :
    ∃ batches : List (List (PollEntry R)),
      valuesAt key s.polled = batches.flatten ++ valuesAt key s.dataToConvert ∧
      valuesAt key (s.saved ++ s.dataToSave) =
        batches.filterMap (report expand (configs key)) ∧
      ∀ entries ∈ batches, (configs key).Readable →
        (∀ entry ∈ entries, Answered cleared (configs key) entry) →
        ∃ payloads, pollsValues expand cleared (configs key) (entries.map PollEntry.memory) =
            .ok payloads ∧
          (convert expand (entries.map PollEntry.data) (configs key)).1 =
            .ok payloads.converted := by
  -- both invariants hold after every run
  have haccounted : s.Accounted := Run.exec_invariant'
    (fun _ _ _ h hstep => step_accounted h hstep) (accounted_init configs) hrun
  have hsteady : s.Steady expand configs := Run.exec_invariant'
    (fun _ _ _ h hstep => step_steady hsound h hstep) (steady_init expand configs) hrun
  refine ⟨s.batchesOf key, haccounted.polled key, ?_, ?_⟩
  · rw [haccounted.saved]
    exact hsteady.results key
  -- the polls of a batch are reads of their memories
  · intro entries hentries hreadable hanswered
    have hpolls : List.Forall₂ (PolledFrom cleared (configs key)) (entries.map PollEntry.memory)
        (entries.map PollEntry.data) := by
      rw [List.forall₂_map_left_iff, List.forall₂_map_right_iff, List.forall₂_same]
      intro entry hentry
      have hmem : entry ∈ valuesAt key s.polled := by
        rw [haccounted.polled key]
        exact List.mem_append_left _ (List.mem_flatten.mpr ⟨entries, hentries, hentry⟩)
      obtain ⟨fuel, read, hstart, hread⟩ := hsteady.polled key entry hmem
      obtain ⟨hanswers, hwithin⟩ := hanswered entry hentry
      rw [hstart] at hanswers hwithin
      exact ⟨fuel, read, hanswers, hwithin, hread⟩
    obtain ⟨converted, hconverted⟩ :=
      convert_ok expand (entries.map PollEntry.data) (hsound key)
    have hvalues := convert_eq expand hreadable (hsound key).stable hpolls
    -- the whole batch is converted in the order of its polls
    rw [hvalues] at hconverted
    cases hpayloads : pollsValues expand cleared (configs key)
        (entries.map PollEntry.memory) with
    | error error =>
      rw [hpayloads] at hconverted
      cases hconverted
    | ok payloads =>
      refine ⟨payloads, rfl, ?_⟩
      rw [hvalues, hpayloads]
      rfl

end DataPipeline

/-! ## The decoder of registers -/

section Decoder

open BytesModbusUplinkConverter

variable (convert : List UInt16 → RegisterType → Py Scalar) (config : RegisterConfig)
  (byteOrder wordOrder : Endian)

/-- The arithmetic on a decoded value raises nothing else. -/
theorem arithmetic_caught {decoded : Option Exact} {f : Exact → Exact} {error : Exn}
    (h : arithmetic decoded f = .error error) : caught error = true := by
  cases decoded with
  | none =>
    cases h
    rfl
  | some x => cases h

/-- `unpack` raises on a response without registers, and that is not caught. The types it is used
    for apart, the decoder raises what `convert_from_registers` raises or what is caught. -/
theorem decodeData_caught (hbytes : ¬ (lower config.type = "8int" ∨ lower config.type = "8uint"))
    (hfloat : resolvedType config ≠ "16float")
    (hconvert : ∀ registers dataType error, convert registers dataType = .error error →
      caught error = true) {registers : List UInt16} {error : Exn}
    (h : decodeData convert registers config byteOrder wordOrder = .error error) :
    caught error = true := by
  -- the branches for bytes and for half floats do not apply
  have hdecode : ∀ e, decodeFromRegisters convert registers config byteOrder wordOrder = .error e →
      caught e = true := by
    intro e he
    simp only [decodeFromRegisters, if_neg hbytes, if_neg hfloat] at he
    split at he
    · cases he
    · exact bind_caught (fun e' => hconvert _ _ e') (fun value e' hvalue => by cases hvalue) he
  rw [decodeData] at h
  apply bind_caught hdecode _ h
  intro decoded e he
  -- the offset is the last step of the arithmetic, and there may be none
  cases hoffset : config.offset with
  | none =>
    simp only [hoffset] at he
    split at he
    · exact bind_caught (fun _ => arithmetic_caught) (fun _ _ hpure => by cases hpure) he
    · split at he
      · exact bind_caught (fun _ => arithmetic_caught) (fun _ _ hpure => by cases hpure) he
      · cases he
  | some offset =>
    simp only [hoffset] at he
    split at he
    · exact bind_caught (fun _ => arithmetic_caught) (fun _ _ => arithmetic_caught) he
    · split at he
      · exact bind_caught (fun _ => arithmetic_caught) (fun _ _ => arithmetic_caught) he
      · exact arithmetic_caught he

end Decoder

/-- A register of a meter. -/
def voltagePoint : Point UInt16 Exact where
  tag := "voltage"
  address := .number 10
  functionCode := 3
  objectsCount := some 1
  maxRegistersPerRequest := none
  decodeData xs := BytesModbusUplinkConverter.decodeData
    (fun ws t => .ok (unpack t.format (BigEndian.ofWords ws))) xs uint16Register .big .big

def voltageMeter : UplinkConfig UInt16 Exact := { attributes := [], telemetry := [voltagePoint] }

/-- The meter of the example is converted in every poll. -/
theorem voltageMeter_sound : voltageMeter.Sound where
  stable := by
    intro point hpoint hwide
    obtain rfl : point = voltagePoint := List.mem_singleton.mp hpoint
    cases hwide
  caught := by
    intro point hpoint xs error h
    obtain rfl : point = voltagePoint := List.mem_singleton.mp hpoint
    exact decodeData_caught _ _ _ _ (by decide) (by decide) (fun _ _ _ hok => by cases hok) h

namespace DataPipeline

/-- A key without the address. -/
def plainKey (tag : String) (_ : Int) : String := tag

/-- What is left of a poll of one register: it comes to the datapoint, makes its request, stores the
    response, leaves the datapoint, and ends. -/
def restOfPoll (key : Nat) : List (Label Nat UInt16) := List.replicate 5 (.continuePoll key)

/-- Two meters are polled, one of them twice, the polls one through the other, and converted in two
    turns. -/
def metersRun : List (Label Nat UInt16) :=
  [.beginPoll 0 1 (fun _ _ => 230) fun _ _ _ _ _ => .response (.registers [230]),
   .beginPoll 1 1 (fun _ _ => 229) fun _ _ _ _ _ => .response (.registers [229])] ++
  restOfPoll 0 ++
  [.beginPoll 0 1 (fun _ _ => 231) fun _ _ _ _ _ => .response (.registers [231]),
   .continuePoll 0, .convert 2] ++ restOfPoll 1 ++ List.replicate 4 (.continuePoll 0) ++
  [.save, .convert 7, .save]

/-- Its run can take place. -/
private theorem metersRun_isSome :
    (exec plainKey (fun _ => voltageMeter) metersRun).isSome = true := by
  decide +kernel

/-- The polls of two meters. -/
theorem polls_accounted_meters :
    ∃ s, exec plainKey (fun _ => voltageMeter) metersRun = some s ∧ s.Accounted := by
  obtain ⟨s, hrun⟩ := Option.isSome_iff_exists.mp metersRun_isSome
  exact ⟨s, hrun, polls_accounted hrun⟩

/-- And what is saved of the first. -/
theorem reports_delivered_meters : ∃ s, exec plainKey (fun _ => voltageMeter) metersRun = some s ∧
    ∃ batches : List (List (PollEntry UInt16)),
      valuesAt 0 s.polled = batches.flatten ++ valuesAt 0 s.dataToConvert ∧
      valuesAt 0 (s.saved ++ s.dataToSave) =
        batches.filterMap (report plainKey voltageMeter) ∧
      ∀ entries ∈ batches, voltageMeter.Readable →
        (∀ entry ∈ entries, Answered 0 voltageMeter entry) →
        ∃ payloads,
          pollsValues plainKey 0 voltageMeter (entries.map PollEntry.memory) = .ok payloads ∧
          (convert plainKey (entries.map PollEntry.data) voltageMeter).1 =
            .ok payloads.converted := by
  obtain ⟨s, hrun⟩ := Option.isSome_iff_exists.mp metersRun_isSome
  exact ⟨s, hrun, reports_delivered (fun _ => voltageMeter_sound) hrun 0 0⟩

end DataPipeline

end Novena.Modbus

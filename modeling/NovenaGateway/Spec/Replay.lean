import NovenaGateway.Spec.PublisherClaims

/-!
# The replay of buffered events

A pack is deleted when every one of its events counts as a success in one pass, and an event of the
current claim counts only when the client accepts it. So nothing of the claim leaves the buffer
unsent, whatever happens to the connection, the claim or the mode during the pass.

Key results:
- `MqttThreads.Passes.step`
- `MqttThreads.deleted_after_sent`
-/

namespace Novena

namespace ReplayLoop

/-- The pack a pass is over, and what it has seen of it. -/
def pass? : ReplayLoop → Option (List MqttEvent × List Examination)
  | .replaying pack examined | .concluding pack examined => some (pack, examined)
  | .off | .top | .counting | .fetching | .exiting => none

end ReplayLoop

namespace MqttThreads

variable {s s' : MqttThreads}

/-- An event of the current claim counted only if the client accepted it. -/
def Sent (trace : List Transfer) (x : Examination) : Prop :=
  x.event.claimId.eq x.claimId = true →
    x.accepted = true ∧ .handed .replayLoop x.event x.claimId true ∈ trace

/-- A pass is over the leading events of the buffer, in order. -/
structure Passes (s : MqttThreads) (pack : List MqttEvent) (examined : List Examination) : Prop where
  leading : pack <+: s.publisher.storage
  order : examined.map Examination.event = pack.take examined.length
  sent : ∀ x ∈ examined, x.counted = true → Sent s.trace x
  accepted : ∀ x ∈ examined, x.accepted = true →
    .handed .replayLoop x.event x.claimId true ∈ s.trace

/-- What was sent was sent. -/
theorem Sent.mono {trace es : List Transfer} {x : Examination} (h : Sent trace x) :
    Sent (trace ++ es) x :=
  fun htag => ⟨(h htag).1, List.mem_append_left es (h htag).2⟩

/-- A replay passes over the same pack while the storage only grows. -/
theorem Passes.mono {pack : List MqttEvent} {examined : List Examination} {es : List Transfer}
    (hP : Passes s pack examined) (hstorage : s.publisher.storage <+: s'.publisher.storage)
    (htrace : s'.trace = s.trace ++ es) : Passes s' pack examined where
  leading := hP.leading.trans hstorage
  order := hP.order
  sent := fun x hx hcounted => htrace ▸ (hP.sent x hx hcounted).mono
  accepted := fun x hx haccepted => htrace ▸ List.mem_append_left es (hP.accepted x hx haccepted)

/-- One more event of the pack. -/
theorem Passes.examined {pack : List MqttEvent} {examined : List Examination} {event : MqttEvent}
    {x : Examination} {es : List Transfer} (hP : Passes s pack examined)
    (hnext : pack[examined.length]? = some event) (hx : s.Examines event x es) :
    Passes { s with trace := s.trace ++ es } pack (examined ++ [x]) := by
  refine ⟨hP.leading, ?_, fun y hy hcounted => ?_, fun y hy haccepted => ?_⟩
  · have hevent : x.event = event := by
      cases hx <;> rfl
    rw [List.map_append, hP.order, List.length_append, List.length_singleton, List.take_add_one,
      hnext, List.map_singleton, hevent]
    rfl
  · rw [List.mem_append, List.mem_singleton] at hy
    obtain hy | rfl := hy
    · exact (hP.sent y hy hcounted).mono
    · intro htag
      cases hx with
      | raised => cases hcounted
      | other h => cases htag.symm.trans h
      | handed accepted h =>
        obtain rfl : accepted = true := hcounted
        exact ⟨rfl, by simp⟩
  · rw [List.mem_append, List.mem_singleton] at hy
    obtain hy | rfl := hy
    · exact List.mem_append_left es (hP.accepted y hy haccepted)
    · cases hx with
      | raised => cases haccepted
      | other => cases haccepted
      | handed accepted =>
        obtain rfl : accepted = true := haccepted
        simp

/-- A pack whose events all count has been examined to its end. -/
theorem Passes.whole {pack : List MqttEvent} {examined : List Examination}
    (hP : Passes s pack examined) (hall : examined.countP Examination.counted = pack.length) :
    examined.map Examination.event = pack ∧ ∀ x ∈ examined, Sent s.trace x := by
  have hle : examined.countP Examination.counted ≤ examined.length := List.countP_le_length
  have hlength : examined.length = min examined.length pack.length := by
    have := congrArg List.length hP.order
    rwa [List.length_map, List.length_take] at this
  have hsame : examined.length = pack.length := by omega
  refine ⟨?_, fun x hx => ?_⟩
  · rw [hP.order, hsame, List.take_length]
  · have hcounted := List.countP_eq_length.mp (hall.trans hsame.symm) x hx
    exact hP.sent x hx hcounted

/-- The state of the pass that is under way, if one is. -/
def Passing (s : MqttThreads) : Prop :=
  ∀ pack examined, s.replayLoop.pass? = some (pack, examined) → Passes s pack examined

/-- The buffer after an action starts with what was in it, or was emptied without a replay thread,
    or has lost the leading events of a pass that counted all of them. -/
theorem step_storage {a : Label} (h : s.step a = some s') :
    s.publisher.storage <+: s'.publisher.storage ∨
    (a = .clearStorage ∧ s'.replayLoop = .off) ∨
    ∃ pack examined, s.replayLoop = .concluding pack examined ∧ s'.replayLoop = .top ∧
      examined.countP Examination.counted = pack.length ∧
      s'.publisher.storage = s.publisher.storage.drop pack.length := by
  have hbuffer : ∀ event stored,
      s.publisher.storage <+: (s.bufferEvent event stored).publisher.storage := by
    intro event stored
    obtain ⟨_, hb⟩ | ⟨_, _, _, hb⟩ | ⟨_, hb⟩ := s.bufferEvent_cases event stored
    · exact hb.symm ▸ List.prefix_rfl
    · exact hb.symm ▸ List.prefix_append _ _
    · exact hb.symm ▸ List.prefix_rfl
  cases step_moves h with
  | bufferedCall i stored event => exact .inl (hbuffer event stored)
  | storedTaken stored event => exact .inl (hbuffer event stored)
  | deleted pack examined hpc hall => exact .inr (.inr ⟨pack, examined, hpc, rfl, hall, rfl⟩)
  | session a p hqueue hstorage => exact .inl (hstorage ▸ List.prefix_rfl)
  | connect =>
    left
    simp only [connect, triggerReplay]
    split
    · exact List.prefix_rfl
    · split <;> exact List.prefix_rfl
  | adopt c => exact .inl ((c.adopt_storage _).symm ▸ List.prefix_rfl)
  | clearStorage hpc => exact .inr (.inl ⟨rfl, hpc⟩)
  | restart serialNumber config p hinit =>
    obtain ⟨_, hstorage, _⟩ := MqttPublisher.init_fresh hinit
    exact .inl (hstorage ▸ List.prefix_rfl)
  | idle | published | queued | crowded | oldestDropped | nothingDropped | overflowed | waits | took
  | discarded | forwarded | setAside | turns | fetched | fetchedNothing | examined | left | kept
  | clearQueue | stop | stopStorage | flushEnds | flushDiscards | flushHands =>
    exact .inl List.prefix_rfl

/-- A pass was under way before, or begins at the front of the buffer, or has seen one event more. -/
theorem step_pass {a : Label} (h : s.step a = some s') {pack : List MqttEvent}
    {examined : List Examination} (hpass : s'.replayLoop.pass? = some (pack, examined)) :
    s.replayLoop.pass? = some (pack, examined) ∨
    (examined = [] ∧ pack <+: s.publisher.storage) ∨
    ∃ before event x es, s.replayLoop.pass? = some (pack, before) ∧ examined = before ++ [x] ∧
      pack[before.length]? = some event ∧ s.Examines event x es ∧
      s'.trace = s.trace ++ es ∧ s'.publisher = s.publisher := by
  have hbuffer : ∀ event stored, (s.bufferEvent event stored).replayLoop = s.replayLoop := by
    intro event stored
    obtain ⟨_, hb⟩ | ⟨_, _, _, hb⟩ | ⟨_, hb⟩ := s.bufferEvent_cases event stored <;> rw [hb]
    rfl
  cases step_moves h with
  | bufferedCall i stored event => exact .inl (hbuffer event stored ▸ hpass)
  | storedTaken stored event => exact .inl (hbuffer event stored ▸ hpass)
  | turns a pc hturns =>
    generalize s.replayLoop = before at hturns
    cases hturns <;> cases hpass
  | fetched n batch pack' hpc hpack =>
    obtain ⟨rfl, rfl⟩ := Prod.mk.inj (Option.some.inj hpass)
    exact .inr (.inl ⟨rfl, hpack ▸ List.take_prefix _ _⟩)
  | examined outcome pack' before event x es hpc hnext hx =>
    obtain ⟨rfl, rfl⟩ := Prod.mk.inj (Option.some.inj hpass)
    exact .inr (.inr ⟨before, event, x, es, by rw [hpc]; rfl, rfl, hnext, hx, rfl, rfl⟩)
  | left outcome pack' examined' hpc => exact .inl (hpc ▸ hpass)
  | connect =>
    simp only [connect, triggerReplay] at hpass
    split at hpass
    · exact .inl hpass
    · split at hpass
      · cases hpass
      · exact .inl hpass
  | fetchedNothing | kept | deleted | restart => cases hpass
  | idle | published | queued | crowded | oldestDropped | nothingDropped | overflowed | waits | took
  | discarded | forwarded | setAside | session | adopt | clearQueue | clearStorage | stop
  | stopStorage | flushEnds | flushDiscards | flushHands => exact .inl hpass

/-- An action goes on with the pass that is under way, or begins one at the front of the buffer. -/
theorem Passing.step {a : Label} (hP : Passing s) (h : s.step a = some s') : Passing s' := by
  obtain ⟨es, htrace, _⟩ := step_records h
  intro pack examined hpass
  obtain hstorage | ⟨_, hpc⟩ | ⟨_, _, _, hpc, _⟩ := step_storage h
  · obtain hsame | ⟨rfl, hleading⟩ | ⟨before, event, x, es', hbefore, rfl, hnext, hx, htrace', hp⟩ :=
      step_pass h hpass
    · exact (hP pack examined hsame).mono hstorage htrace
    · exact ⟨hleading.trans hstorage, rfl, fun _ h => absurd h List.not_mem_nil, fun _ h => by cases h⟩
    · have hone := (hP pack before hbefore).examined hnext hx
      exact ⟨hp ▸ hone.leading, hone.order, htrace' ▸ hone.sent, htrace' ▸ hone.accepted⟩
  · rw [hpc] at hpass
    cases hpass
  · rw [hpc] at hpass
    cases hpass

/-- Over every run, whatever leaves the buffer was examined in one pass from the first event to the
    last, and an event of the claim current at its examination was accepted by the client in that
    pass. The buffer is emptied otherwise only by the reset of a release. -/
theorem deleted_after_sent {labels : List Label} {a : Label} {m : MqttThreads} (hboot : Booted s)
    (hrun : exec s labels = some m) (hstep : m.step a = some s') (ha : a ≠ .clearStorage) :
    m.publisher.storage <+: s'.publisher.storage ∨
    ∃ pack examined, m.replayLoop = .concluding pack examined ∧
      m.publisher.storage = pack ++ s'.publisher.storage ∧
      examined.map Examination.event = pack ∧ ∀ x ∈ examined, Sent m.trace x := by
  have hstart : Passing s := by
    obtain ⟨_, _, _, _, _, _, rfl⟩ := hboot
    exact (fun _ _ h => by cases h)
  have hP : Passing m := Run.exec_invariant' (fun _ _ _ hP hstep => hP.step hstep) hstart hrun
  obtain hstorage | ⟨hclear, _⟩ | ⟨pack, examined, hpc, _, hall, hstorage⟩ := step_storage hstep
  · exact .inl hstorage
  · exact absurd hclear ha
  · have hpass : Passes m pack examined := hP pack examined (by rw [hpc]; rfl)
    obtain ⟨horder, hsent⟩ := hpass.whole hall
    refine .inr ⟨pack, examined, hpc, ?_, horder, hsent⟩
    obtain ⟨rest, hrest⟩ := hpass.leading
    rw [hstorage, ← hrest, List.drop_left]

/-- A pass over the one buffered message, which the client accepts. -/
def replayPass : List Label :=
  [.connect, .beginReplayRound, .count, .fetch 50, .examine .accepted, .examine .accepted]

/-- A pack that is replayed and deleted. -/
theorem deleted_after_sent_replayed : ∃ m s', exec afterOutage replayPass = some m ∧
    m.step .conclude = some s' ∧ s'.publisher.storage = [] ∧
    ∃ pack examined, m.replayLoop = .concluding pack examined ∧
      m.publisher.storage = pack ++ s'.publisher.storage ∧
      examined.map Examination.event = pack ∧ ∀ x ∈ examined, Sent m.trace x := by
  have hrun : ∃ m s', exec afterOutage replayPass = some m ∧ m.step .conclude = some s' ∧
      m.publisher.storage = [telemetry] ∧ s'.publisher.storage = [] := ⟨_, _, rfl, rfl, rfl, rfl⟩
  obtain ⟨m, s', hm, hs, hbefore, hafter⟩ := hrun
  obtain hstorage | hdeleted := deleted_after_sent afterOutage_booted hm hs fun h => by cases h
  · rw [hbefore, hafter] at hstorage
    exact absurd hstorage (by simp)
  · exact ⟨m, s', hm, hs, hafter, hdeleted⟩

end MqttThreads

end Novena

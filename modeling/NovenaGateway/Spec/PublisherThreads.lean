import NovenaGateway.Native.MqttThreads

/-!
# What the publisher's threads can do

Every action of `MqttThreads` is one of `Moves`, which the theorems about runs are derived from.
-/

namespace Novena

namespace PublishCall

/-- The event of a call. -/
def event : PublishCall → MqttEvent
  | .enqueue event | .dropOldest event | .enqueueAgain event | .buffer event => event

end PublishCall

/-- The event `_publish_loop` has in hand. -/
def PublishLoop.event? : PublishLoop → Option MqttEvent
  | .taken event | .buffering event => some event
  | .idle | .waiting | .ended => none

/-- A publisher that has just started has its buffer and nothing else. -/
theorem MqttPublisher.init_fresh {serial : Json} {config : Dict String Json}
    {storage : List MqttEvent} {p : MqttPublisher} (h : init serial config storage = .ok p) :
    p.queue = [] ∧ p.storage = storage ∧ p.connected = false := by
  unfold init at h
  dsimp only at h
  -- with operational credentials the bootstrap ones are not read
  split at h
  · obtain rfl := Except.ok.inj h
    exact ⟨rfl, rfl, rfl⟩
  -- without them they are, and each read may raise
  · simp only [Except.bind_eq_ok] at h
    obtain ⟨enabled, _, h⟩ := h
    split at h
    · obtain rfl := Except.ok.inj h
      exact ⟨rfl, rfl, rfl⟩
    · simp only [Except.bind_eq_ok] at h
      obtain ⟨_, _, _, _, h⟩ := h
      obtain rfl := Except.ok.inj h
      exact ⟨rfl, rfl, rfl⟩

namespace Provision.Credentials

@[simp] theorem adopt_queue (c : Credentials) (p : MqttPublisher) :
    (c.adopt p).queue = p.queue := by
  unfold adopt
  dsimp only
  split <;> rfl

@[simp] theorem adopt_storage (c : Credentials) (p : MqttPublisher) :
    (c.adopt p).storage = p.storage := by
  unfold adopt
  dsimp only
  split <;> rfl

@[simp] theorem adopt_connected (c : Credentials) (p : MqttPublisher) :
    (c.adopt p).connected = p.connected := by
  unfold adopt
  dsimp only
  split <;> rfl

end Provision.Credentials

namespace MqttThreads

/-! ## The buffer -/

/-- What becomes of an event that is to be buffered. -/
theorem bufferEvent_cases (s : MqttThreads) (event : MqttEvent) (stored : Bool) :
    (s.publisher.releaseInProgress = true ∧ s.bufferEvent event stored = s) ∨
    (s.publisher.releaseInProgress = false ∧ stored = true ∧ s.storageStopped = false ∧
      s.bufferEvent event stored =
        { s with publisher.storage := s.publisher.storage ++ [event] }) ∨
    ((stored = true → s.storageStopped = true) ∧
      s.bufferEvent event stored =
        { s.emit (.dropped event) with droppedMessageCount := s.droppedMessageCount + 1 }) := by
  simp only [bufferEvent, MqttPublisher.bufferEvent]
  split
  · next h =>
    split
    -- a release drops the event in silence
    · next hrelease => exact .inl ⟨hrelease, rfl⟩
    -- the storage takes it
    · next hrelease =>
      simp only [hrelease, Bool.false_or, Bool.and_eq_true, Bool.not_eq_true'] at h
      exact .inr (.inl ⟨by simpa using hrelease, h.1, h.2, rfl⟩)
  -- it is full or stopped, which counts as a drop
  · next h =>
    refine .inr (.inr ⟨fun hstored => ?_, rfl⟩)
    simp only [hstored, Bool.true_and, Bool.or_eq_true, not_or, Bool.not_eq_true,
      Bool.not_eq_false'] at h
    exact h.2

section
variable (s : MqttThreads) (event : MqttEvent) (stored : Bool)

/-- To buffer an event leaves the calls alone. -/
@[simp] theorem bufferEvent_calls : (s.bufferEvent event stored).calls = s.calls := by
  obtain ⟨_, hb⟩ | ⟨_, _, _, hb⟩ | ⟨_, hb⟩ := s.bufferEvent_cases event stored <;> simp [hb, emit]

/-- And the publish loop. -/
@[simp] theorem bufferEvent_publishLoop :
    (s.bufferEvent event stored).publishLoop = s.publishLoop := by
  obtain ⟨_, hb⟩ | ⟨_, _, _, hb⟩ | ⟨_, hb⟩ := s.bufferEvent_cases event stored <;> simp [hb, emit]

@[simp] theorem bufferEvent_queue :
    (s.bufferEvent event stored).publisher.queue = s.publisher.queue := by
  obtain ⟨_, hb⟩ | ⟨_, _, _, hb⟩ | ⟨_, hb⟩ := s.bufferEvent_cases event stored <;> simp [hb, emit]

@[simp] theorem bufferEvent_maxQueueSize :
    (s.bufferEvent event stored).maxQueueSize = s.maxQueueSize := by
  obtain ⟨_, hb⟩ | ⟨_, _, _, hb⟩ | ⟨_, hb⟩ := s.bufferEvent_cases event stored <;> simp [hb, emit]

@[simp] theorem bufferEvent_shutdown : (s.bufferEvent event stored).shutdown = s.shutdown := by
  obtain ⟨_, hb⟩ | ⟨_, _, _, hb⟩ | ⟨_, hb⟩ := s.bufferEvent_cases event stored <;> simp [hb, emit]

end

/-! ## The actions -/

/-- A turn of `_replay_loop` that looks at no event. -/
inductive Turns (s : MqttThreads) : ReplayLoop → ReplayLoop → Prop where
  | begin (h : s.replays = true) : Turns s .top .counting
  | leave (h : s.replays = false) : Turns s .top .exiting
  | empty (h : s.publisher.storage = []) : Turns s .counting .exiting
  | counted : Turns s .counting .fetching
  | nothing : Turns s .fetching .top
  | exit : Turns s .exiting .off

/-- The examination of an event, and what it records. -/
inductive Examines (s : MqttThreads) (event : MqttEvent) : Examination → List Transfer → Prop where
  | raised : Examines s event ⟨event, s.publisher.claimId, false, false⟩ []
  | other (h : event.claimId.eq s.publisher.claimId = false) :
      Examines s event ⟨event, s.publisher.claimId, true, false⟩ []
  | handed (accepted : Bool) (h : event.claimId.eq s.publisher.claimId = true) :
      Examines s event ⟨event, s.publisher.claimId, accepted, accepted⟩
        [.handed .replayLoop event s.publisher.claimId accepted]

/-- Everything one action can do. -/
inductive Moves (s : MqttThreads) : Label → MqttThreads → Prop where
  | idle (a : Label) : Moves s a s
  | published (i : Nat) (payload : Dict String Json) (topic : String) (event : MqttEvent)
      (call : PublishCall) (hfree : s.calls.get? i = none)
      (hrelease : s.publisher.releaseInProgress = false)
      (hevent : event = ⟨topic, .obj (s.publisher.withClaimId payload topic), s.publisher.claimId⟩)
      (hcall : call = if s.publisher.connected then .enqueue event else .buffer event) :
      Moves s (.publish i payload topic)
        { s.emit (.published event) with calls := s.calls.set i call }
  | queued (i : Nat) (stored : Bool) (call : PublishCall) (event : MqttEvent)
      (hcall : s.calls.get? i = some call)
      (hkind : call = .enqueue event ∨ call = .enqueueAgain event) (hfull : s.full = false) :
      Moves s (.resume i stored) { s.enqueue event with calls := s.calls.erase i }
  | crowded (i : Nat) (stored : Bool) (event : MqttEvent)
      (hcall : s.calls.get? i = some (.enqueue event)) (hfull : s.full = true) :
      Moves s (.resume i stored) { s with calls := s.calls.set i (.dropOldest event) }
  | oldestDropped (i : Nat) (stored : Bool) (event oldest : MqttEvent) (queue : List MqttEvent)
      (hcall : s.calls.get? i = some (.dropOldest event))
      (hqueue : s.publisher.queue = oldest :: queue) :
      Moves s (.resume i stored)
        { s.emit (.dropped oldest) with
          publisher.queue := queue, droppedMessageCount := s.droppedMessageCount + 1
          calls := s.calls.set i (.enqueueAgain event) }
  | nothingDropped (i : Nat) (stored : Bool) (event : MqttEvent)
      (hcall : s.calls.get? i = some (.dropOldest event)) (hqueue : s.publisher.queue = []) :
      Moves s (.resume i stored)
        { s with droppedMessageCount := s.droppedMessageCount + 1
                 calls := s.calls.set i (.enqueueAgain event) }
  | overflowed (i : Nat) (stored : Bool) (event : MqttEvent)
      (hcall : s.calls.get? i = some (.enqueueAgain event)) (hfull : s.full = true) :
      Moves s (.resume i stored) { s with calls := s.calls.erase i }
  | bufferedCall (i : Nat) (stored : Bool) (event : MqttEvent)
      (hcall : s.calls.get? i = some (.buffer event)) :
      Moves s (.resume i stored) { s.bufferEvent event stored with calls := s.calls.erase i }
  | waits (a : Label) (pc : PublishLoop) (hbefore : s.publishLoop.event? = none)
      (hafter : pc.event? = none) : Moves s a { s with publishLoop := pc }
  | took (event : MqttEvent) (queue : List MqttEvent) (hpc : s.publishLoop = .waiting)
      (hqueue : s.publisher.queue = event :: queue) :
      Moves s .take { s with publisher.queue := queue, publishLoop := .taken event }
  | discarded (accepted : Bool) (event : MqttEvent) (hpc : s.publishLoop = .taken event)
      (hother : event.claimId.eq s.publisher.claimId = false ∨
        s.publisher.releaseInProgress = true) :
      Moves s (.forward accepted) { s.emit (.discarded event) with publishLoop := .idle }
  | forwarded (accepted : Bool) (event : MqttEvent) (hpc : s.publishLoop = .taken event)
      (htag : event.claimId.eq s.publisher.claimId = true) :
      Moves s (.forward accepted)
        { s.emit (.handed .publishLoop event s.publisher.claimId accepted) with
          publishLoop := if accepted then .idle else .buffering event }
  | setAside (accepted : Bool) (event : MqttEvent) (hpc : s.publishLoop = .taken event) :
      Moves s (.forward accepted) { s with publishLoop := .buffering event }
  | storedTaken (stored : Bool) (event : MqttEvent) (hpc : s.publishLoop = .buffering event) :
      Moves s (.storeTaken stored) { s.bufferEvent event stored with publishLoop := .idle }
  | turns (a : Label) (pc : ReplayLoop) (h : s.Turns s.replayLoop pc) :
      Moves s a { s with replayLoop := pc }
  | fetched (n batch : Nat) (pack : List MqttEvent) (hpc : s.replayLoop = .fetching)
      (hpack : pack = s.publisher.storage.take batch) (hne : pack ≠ []) :
      Moves s (.fetch n) { s with batch, replayLoop := .replaying pack [] }
  | fetchedNothing (n batch : Nat) (hpc : s.replayLoop = .fetching) :
      Moves s (.fetch n) { s with batch, replayLoop := .top }
  | examined (outcome : ReplayOutcome) (pack : List MqttEvent) (examined : List Examination)
      (event : MqttEvent) (x : Examination) (es : List Transfer)
      (hpc : s.replayLoop = .replaying pack examined) (hnext : pack[examined.length]? = some event)
      (hx : s.Examines event x es) :
      Moves s (.examine outcome)
        { s with trace := s.trace ++ es, replayLoop := .replaying pack (examined ++ [x]) }
  | left (outcome : ReplayOutcome) (pack : List MqttEvent) (examined : List Examination)
      (hpc : s.replayLoop = .replaying pack examined) :
      Moves s (.examine outcome) { s with replayLoop := .concluding pack examined }
  | kept (pack : List MqttEvent) (examined : List Examination)
      (hpc : s.replayLoop = .concluding pack examined) :
      Moves s .conclude { s with replayLoop := .top }
  | deleted (pack : List MqttEvent) (examined : List Examination)
      (hpc : s.replayLoop = .concluding pack examined)
      (hall : examined.countP Examination.counted = pack.length)
      (hstorage : s.storageStopped = false) :
      Moves s .conclude
        { s.emit (.deleted pack examined) with
          publisher.storage := s.publisher.storage.drop pack.length, batch := 0
          replayLoop := .top }
  | session (a : Label) (p : MqttPublisher) (hqueue : p.queue = s.publisher.queue)
      (hstorage : p.storage = s.publisher.storage)
      (hconnected : p.connected = true → s.publisher.connected = true)
      (hbootstrap : s.publisher.bootstrapMode = true → p.bootstrapMode = true)
      (hrelease : s.publisher.releaseInProgress = true → p.releaseInProgress = true)
      (hclaim : s.publisher.releaseInProgress = false → p.claimId = s.publisher.claimId)
      (hbegin : p.releaseInProgress = s.publisher.releaseInProgress ∨ a = .beginRelease) :
      Moves s a { s with publisher := p }
  | connect : Moves s .connect s.connect
  | adopt (c : Provision.Credentials) :
      Moves s (.adopt c) { s with publisher := c.adopt s.publisher }
  | clearQueue :
      Moves s .clearQueue { s with publisher.releaseInProgress := true, publisher.queue := [] }
  | clearStorage (hpc : s.replayLoop = .off) :
      Moves s .clearStorage { s with publisher.storage := [], storageStopped := false, batch := 0 }
  | stop (hpc : s.shutdown = .none) :
      Moves s .stop { s with stopped := true, shutdown := .stopping }
  | stopStorage (hpc : s.shutdown = .stopping) :
      Moves s .stopStorage { s with storageStopped := true, shutdown := .flushing }
  | flushEnds (accepted : Bool) (hpc : s.shutdown = .flushing)
      (hend : s.publisher.queue = [] ∨ s.publisher.connected = false ∨
        s.publisher.bootstrapMode = true) :
      Moves s (.flush accepted) { s with shutdown := .flushed }
  | flushDiscards (accepted : Bool) (event : MqttEvent) (queue : List MqttEvent)
      (hpc : s.shutdown = .flushing) (hqueue : s.publisher.queue = event :: queue)
      (hother : event.claimId.eq s.publisher.claimId = false) :
      Moves s (.flush accepted) { s.emit (.discarded event) with publisher.queue := queue }
  | flushHands (accepted : Bool) (event : MqttEvent) (queue : List MqttEvent)
      (hpc : s.shutdown = .flushing) (hqueue : s.publisher.queue = event :: queue)
      (htag : event.claimId.eq s.publisher.claimId = true) :
      Moves s (.flush accepted)
        { s.emit (.handed .flushQueue event s.publisher.claimId accepted) with
          publisher.queue := queue }
  | restart (serialNumber : Json) (config : Dict String Json) (p : MqttPublisher)
      (hinit : MqttPublisher.init serialNumber config s.publisher.storage = .ok p) :
      Moves s (.restart serialNumber config) (start p s.maxQueueSize s.trace)

variable {s s' : MqttThreads}

/-! ## Each action is one of them -/

/-- What a call of `publish` does next is one of the moves. -/
private theorem resume_moves {i : Nat} {call : PublishCall} {stored : Bool}
    (hcall : s.calls.get? i = some call) : Moves s (.resume i stored) (s.resume i call stored) := by
  cases call with
  | enqueue event =>
    -- the queue is full or has room
    simp only [resume]
    split
    · next hfull => exact .crowded i stored event hcall hfull
    · next hfull => exact .queued i stored _ event hcall (.inl rfl) (by simpa using hfull)
  | dropOldest event =>
    -- the oldest message goes, if another thread left one
    simp only [resume, dropOldest]
    cases hqueue : s.publisher.queue with
    | nil => exact .nothingDropped i stored event hcall hqueue
    | cons oldest queue => exact .oldestDropped i stored event oldest queue hcall hqueue
  | enqueueAgain event =>
    -- still full after that, or room
    simp only [resume]
    split
    · next hfull => exact .overflowed i stored event hcall hfull
    · next hfull => exact .queued i stored _ event hcall (.inr rfl) (by simpa using hfull)
  | buffer event => exact .bufferedCall i stored event hcall

/-- So is the answer of the client to the event in hand. -/
private theorem forward_moves {accepted : Bool} (h : s.forward accepted = some s') :
    Moves s (.forward accepted) s' := by
  simp only [forward] at h
  split at h
  -- the loop holds a message
  · next event hpc =>
    split at h
    -- of another claim, or during a release
    · next hother =>
      obtain rfl := Option.some.inj h
      refine .discarded accepted event hpc ?_
      simpa [Bool.or_eq_true] using hother
    · next hsame =>
      simp only [Bool.or_eq_true, Bool.not_eq_true', not_or, Bool.not_eq_false,
        Bool.not_eq_true] at hsame
      -- handed to the client, or kept for the storage
      split at h
      · obtain rfl := Option.some.inj h
        exact .forwarded accepted event hpc hsame.1
      · obtain rfl := Option.some.inj h
        exact .setAside accepted event hpc
  · cases h

/-- And the next event of the queue. -/
private theorem fetch_moves {n : Nat} (h : s.fetch n = some s') : Moves s (.fetch n) s' := by
  simp only [fetch] at h
  split at h
  · next hpc =>
    split at h
    -- a stopped storage gives nothing
    · obtain rfl := Option.some.inj h
      exact .fetchedNothing n s.batch hpc
    -- as many as were counted, or what is there of them
    · obtain rfl := Option.some.inj h
      generalize (if s.batch = 0 then min n s.publisher.storage.length else s.batch) = batch
      by_cases hne : s.publisher.storage.take batch = []
      · rw [hne]
        exact .fetchedNothing n batch hpc
      · rw [if_neg (by simpa using hne)]
        exact .fetched n batch _ hpc rfl hne
  · cases h

/-- And an event of a pack that is replayed. -/
private theorem examine_moves {outcome : ReplayOutcome} (h : s.examine outcome = some s') :
    Moves s (.examine outcome) s' := by
  simp only [examine] at h
  split at h
  · next pack examined hpc =>
    -- the pack has come to its end
    split at h
    · obtain rfl := Option.some.inj h
      exact .left outcome pack examined hpc
    · next event hnext =>
      -- the replay may not go on
      split at h
      · obtain rfl := Option.some.inj h
        exact .left outcome pack examined hpc
      -- an event that cannot be read counts as examined
      split at h
      · obtain rfl := Option.some.inj h
        simpa using Moves.examined outcome pack examined event _ [] hpc hnext .raised
      split at h
      -- an event of another claim is passed over
      · next hother =>
        obtain rfl := Option.some.inj h
        have hx := Examines.other (s := s) (by simpa using hother : event.claimId.eq _ = false)
        simpa using Moves.examined outcome pack examined event _ [] hpc hnext hx
      -- one of this claim is handed on, or the pass ends
      · next hsame =>
        split at h
        · obtain rfl := Option.some.inj h
          exact .left outcome pack examined hpc
        · obtain rfl := Option.some.inj h
          exact .examined outcome pack examined event _ _ hpc hnext
            (.handed _ (by simpa using hsame))
  · cases h

/-- And the end of the pack. -/
private theorem conclude_moves (h : s.conclude = some s') : Moves s .conclude s' := by
  simp only [conclude] at h
  split at h
  · next pack examined hpc =>
    split at h
    · next hall =>
      obtain rfl := Option.some.inj h
      simp only [Bool.and_eq_true, decide_eq_true_eq, Bool.not_eq_true'] at hall
      exact .deleted pack examined hpc hall.1 hall.2
    · obtain rfl := Option.some.inj h
      exact .kept pack examined hpc
  · cases h

/-- And an event that is put back at the end. -/
private theorem flush_moves {accepted : Bool} (h : s.flush accepted = some s') :
    Moves s (.flush accepted) s' := by
  simp only [flush] at h
  split at h
  · next hpc =>
    split at h
    -- the queue is empty
    · next hqueue =>
      obtain rfl := Option.some.inj h
      exact .flushEnds accepted hpc (.inl hqueue)
    · next event queue hqueue =>
      -- no connection, or only the bootstrap one
      split at h
      · next hend =>
        obtain rfl := Option.some.inj h
        refine .flushEnds accepted hpc (.inr ?_)
        simpa [Bool.or_eq_true] using hend
      -- a message of another claim is discarded
      split at h
      · next hother =>
        obtain rfl := Option.some.inj h
        exact .flushDiscards accepted event queue hpc hqueue (by simpa using hother)
      -- the others are handed on
      · next hsame =>
        obtain rfl := Option.some.inj h
        exact .flushHands accepted event queue hpc hqueue (by simpa using hsame)
  · cases h

/-- A failed connection changes the session and keeps the events. -/
private theorem connectionFailed_session (p : MqttPublisher) :
    p.connectionFailed.queue = p.queue ∧ p.connectionFailed.storage = p.storage ∧
      p.connectionFailed.connected = false ∧
      (p.bootstrapMode = true → p.connectionFailed.bootstrapMode = true) ∧
      p.connectionFailed.releaseInProgress = p.releaseInProgress ∧
      p.connectionFailed.claimId = p.claimId := by
  simp only [MqttPublisher.connectionFailed, MqttPublisher.switchToBootstrapIfNeeded]
  split
  -- bootstrap already, or too few failures
  · exact ⟨rfl, rfl, rfl, id, rfl, rfl⟩
  split
  -- a release with its request id, not yet retired
  · exact ⟨rfl, rfl, rfl, id, rfl, rfl⟩
  split
  -- the switch to bootstrap
  · exact ⟨rfl, rfl, rfl, fun _ => rfl, rfl, rfl⟩
  · exact ⟨rfl, rfl, rfl, id, rfl, rfl⟩

/-- And so does the retirement of a claim, which keeps the id of a claim that is not released. -/
private theorem retire_session (p : MqttPublisher) :
    (retire p).queue = p.queue ∧ (retire p).storage = p.storage ∧
      (retire p).bootstrapMode = p.bootstrapMode ∧
      (retire p).releaseInProgress = p.releaseInProgress ∧
      (p.releaseInProgress = false → (retire p).claimId = p.claimId) := by
  simp only [retire]
  split
  · exact ⟨rfl, rfl, rfl, rfl, fun _ => rfl⟩
  · next hretires =>
    refine ⟨rfl, rfl, rfl, rfl, fun h => ?_⟩
    simp [h] at hretires

/-- A connection that fails is one of the moves. -/
private theorem connectFailed_moves (notAuthorized retires : Bool) :
    Moves s (.connectFailed notAuthorized retires) (s.connectFailed notAuthorized retires) := by
  -- what every failed attempt has in common
  have hfailed : ∀ p : MqttPublisher, p.queue = s.publisher.queue →
      p.storage = s.publisher.storage → p.bootstrapMode = s.publisher.bootstrapMode →
      p.releaseInProgress = s.publisher.releaseInProgress →
      (s.publisher.releaseInProgress = false → p.claimId = s.publisher.claimId) →
      Moves s (.connectFailed notAuthorized retires) { s with publisher := p.connectionFailed } := by
    intro p hqueue hstorage hbootstrap hrelease hclaim
    obtain ⟨hq, hs, hc, hb, hr, hi⟩ := connectionFailed_session p
    exact .session _ _ (hq.trans hqueue) (hs.trans hstorage) (fun h => by cases hc.symm.trans h)
      (fun h => hb (hbootstrap.trans h)) (fun h => hr.trans (hrelease.trans h))
      (fun h => hi.trans (hclaim h)) (.inl (hr.trans hrelease))
  simp only [connectFailed]
  split
  -- an unauthorised attempt may retire the credentials first
  · obtain ⟨hqueue, hstorage, hbootstrap, hrelease, hclaim⟩ := retire_session s.publisher
    exact hfailed _ hqueue hstorage hbootstrap hrelease hclaim
  · exact hfailed _ rfl rfl rfl rfl fun _ => rfl

/-- And one that is lost. -/
private theorem connectionLost_moves (clean : Bool) :
    Moves s (.connectionLost clean) { s with publisher := s.publisher.onDisconnect clean } := by
  simp only [MqttPublisher.onDisconnect]
  split
  · exact .session _ _ rfl rfl (fun h => by cases h) id id (fun _ => rfl) (.inl rfl)
  · obtain ⟨hq, hs, hc, hb, hr, hi⟩ := connectionFailed_session s.publisher
    exact .session _ _ hq hs (fun h => by cases hc.symm.trans h) hb (fun h => hr.trans h)
      (fun _ => hi) (.inl hr)

/-- A call of `publish` gives up during a release, and otherwise has its event made. -/
private theorem publish_moves {i : Nat} {payload : Dict String Json} {topic : String}
    (h : s.publish i payload topic = some s') : Moves s (.publish i payload topic) s' := by
  simp only [publish] at h
  split at h
  · cases h
  · next hfree =>
    split at h
    · obtain rfl := Option.some.inj h
      exact .idle _
    · next hrelease =>
      obtain rfl := Option.some.inj h
      exact .published i payload topic _ _ hfree (by simpa using hrelease) rfl rfl

/-- A round of `_publish_loop` begins with nothing in hand, and so does its wait. -/
private theorem beginRound_moves (h : s.beginRound = some s') : Moves s .beginRound s' := by
  simp only [beginRound] at h
  split at h
  · next hpc =>
    obtain rfl := Option.some.inj h
    exact .waits _ _ (by rw [hpc]; rfl) (by split <;> rfl)
  · cases h

/-- The wait ends with the oldest event of the queue, or with the timeout. -/
private theorem take_moves (h : s.take = some s') : Moves s .take s' := by
  simp only [take] at h
  split at h
  · next hpc =>
    split at h
    · obtain rfl := Option.some.inj h
      exact .waits _ _ (by rw [hpc]; rfl) rfl
    · next event queue hqueue =>
      obtain rfl := Option.some.inj h
      exact .took event queue hpc hqueue
  · cases h

/-- An event the client did not accept goes to the buffer. -/
private theorem storeTaken_moves {stored : Bool} (h : s.storeTaken stored = some s') :
    Moves s (.storeTaken stored) s' := by
  simp only [storeTaken] at h
  split at h
  · next event hpc =>
    obtain rfl := Option.some.inj h
    exact .storedTaken stored event hpc
  · cases h

/-- `_replay_loop` goes on while it is told to, and leaves its loop otherwise. -/
private theorem beginReplayRound_moves (h : s.beginReplayRound = some s') :
    Moves s .beginReplayRound s' := by
  simp only [beginReplayRound] at h
  split at h
  · next hpc =>
    obtain rfl := Option.some.inj h
    split
    · next hr => exact .turns _ _ (hpc ▸ .begin hr)
    · next hr => exact .turns _ _ (hpc ▸ .leave (by simpa using hr))
  · cases h

/-- The count of the stored events decides whether any are fetched. -/
private theorem count_moves (h : s.count = some s') : Moves s .count s' := by
  simp only [count] at h
  split at h
  · next hpc =>
    obtain rfl := Option.some.inj h
    split
    · next he => exact .turns _ _ (hpc ▸ .empty (by simpa using he))
    · exact .turns _ _ (hpc ▸ .counted)
  · cases h

/-- The thread of the replay ends once its loop was left. -/
private theorem exit_moves (h : s.exit = some s') : Moves s .exit s' := by
  simp only [exit] at h
  split at h
  · next hpc =>
    obtain rfl := Option.some.inj h
    exact .turns _ _ (hpc ▸ .exit)
  · cases h

/-- The buffer is cleared by `clear_claim_buffer` only when no replay is under way. -/
private theorem clearStorage_moves : Moves s .clearStorage s.clearStorage := by
  simp only [clearStorage]
  split
  · next hpc => exact .clearStorage hpc
  · exact .idle _

/-- `disconnect` stops the threads first. -/
private theorem stop_moves (h : s.stop = some s') : Moves s .stop s' := by
  simp only [stop] at h
  split at h
  · next hpc =>
    obtain rfl := Option.some.inj h
    exact .stop hpc
  · cases h

/-- Then it stops the storage. -/
private theorem stopStorage_moves (h : s.stopStorage = some s') : Moves s .stopStorage s' := by
  simp only [stopStorage] at h
  split at h
  · next hpc =>
    obtain rfl := Option.some.inj h
    exact .stopStorage hpc
  · cases h

/-- A restart goes through when `__init__` does not raise. -/
private theorem restart_moves {serialNumber : Json} {config : Dict String Json}
    (h : s.step (.restart serialNumber config) = some s') :
    Moves s (.restart serialNumber config) s' := by
  simp only [step] at h
  split at h
  · next p hinit =>
    obtain rfl := Option.some.inj h
    exact .restart serialNumber config p hinit
  · cases h

/-- Every step of the publisher is one of the moves. -/
theorem step_moves {a : Label} (h : s.step a = some s') : Moves s a s' := by
  cases a with
  | publish i payload topic => exact publish_moves h
  | resume i stored =>
    obtain ⟨call, hcall, rfl⟩ := Option.map_eq_some_iff.mp h
    exact resume_moves hcall
  | beginRound => exact beginRound_moves h
  | take => exact take_moves h
  | forward accepted => exact forward_moves h
  | storeTaken stored => exact storeTaken_moves h
  | beginReplayRound => exact beginReplayRound_moves h
  | count => exact count_moves h
  | fetch n => exact fetch_moves h
  | examine outcome => exact examine_moves h
  | conclude => exact conclude_moves h
  | exit => exact exit_moves h
  | connect =>
    obtain rfl := Option.some.inj h
    exact .connect
  | connectFailed notAuthorized retires =>
    obtain rfl := Option.some.inj h
    exact connectFailed_moves notAuthorized retires
  | connectionLost clean =>
    obtain rfl := Option.some.inj h
    exact connectionLost_moves clean
  | adopt c =>
    obtain rfl := Option.some.inj h
    exact .adopt c
  | beginRelease =>
    obtain rfl := Option.some.inj h
    exact .session _ _ rfl rfl id id (fun _ => rfl) (fun _ => rfl) (.inr rfl)
  | clearQueue =>
    obtain rfl := Option.some.inj h
    exact .clearQueue
  | clearStorage =>
    obtain rfl := Option.some.inj h
    exact clearStorage_moves
  | endRelease requestId =>
    obtain rfl := Option.some.inj h
    exact .session _ _ rfl rfl id id id (fun _ => rfl) (.inl rfl)
  | stop => exact stop_moves h
  | stopStorage => exact stopStorage_moves h
  | flush accepted => exact flush_moves h
  | restart serialNumber config => exact restart_moves h

end MqttThreads

end Novena

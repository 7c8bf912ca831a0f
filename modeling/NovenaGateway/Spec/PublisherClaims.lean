import NovenaGateway.Spec.JsonEquality
import NovenaGateway.Spec.PublisherThreads

/-!
# The claim of a published message

`publish` puts the claim next to the message, and each of the three that hand messages to the client
compares it with the claim of that moment. Between the two a message is in the queue, in a thread or
in the buffer, over restarts too, and none of these changes it.

Key results:
- `MqttThreads.step_records`
- `MqttThreads.handed_within_claim`
-/

namespace Novena

/-- The payload of telemetry and logs carries the claim the event is tagged with, if there is one. -/
def MqttEvent.Consistent (event : MqttEvent) : Prop :=
  ∃ payload, event.payload = .obj payload ∧
    (event.claimId.truthy = true → (MqttPublisher.endsWith event.topic "/telemetry" ||
      MqttPublisher.endsWith event.topic "/logs") = true →
        Dict.get? payload "claim_id" = some event.claimId)

/-- An event names the claim it is made under. -/
theorem MqttPublisher.withClaimId_consistent (p : MqttPublisher) (payload : Dict String Json)
    (topic : String) :
    MqttEvent.Consistent ⟨topic, .obj (p.withClaimId payload topic), p.claimId⟩ := by
  refine ⟨_, rfl, fun htruthy htopic => ?_⟩
  dsimp only at htruthy htopic
  simp only [MqttPublisher.withClaimId, htruthy, htopic, Bool.and_self, if_true]
  exact Dict.get?_set_self payload "claim_id" p.claimId

namespace MqttThreads

variable {s s' : MqttThreads}

/-- Every message on its way has a property: in the queue, in the buffer, in a call, in a thread. -/
structure Carries (P : MqttEvent → Prop) (s : MqttThreads) : Prop where
  queue : ∀ e ∈ s.publisher.queue, P e
  storage : ∀ e ∈ s.publisher.storage, P e
  calls : ∀ i call, s.calls.get? i = some call → P call.event
  publishLoop : ∀ e, s.publishLoop.event? = some e → P e
  replayLoop : ∀ pack examined, s.replayLoop = .replaying pack examined → ∀ e ∈ pack, P e

/-- What an action may record. -/
inductive Records (s : MqttThreads) : List Transfer → Prop where
  | nothing : Records s []
  | published (payload : Dict String Json) (topic : String) :
      Records s [.published
        ⟨topic, .obj (s.publisher.withClaimId payload topic), s.publisher.claimId⟩]
  | handed (consumer : Consumer) (event : MqttEvent) (accepted : Bool)
      (hcarried : ∀ P, Carries P s → P event)
      (htag : event.claimId.eq s.publisher.claimId = true) :
      Records s [.handed consumer event s.publisher.claimId accepted]
  | discarded (event : MqttEvent) : Records s [.discarded event]
  | dropped (event : MqttEvent) : Records s [.dropped event]
  | deleted (pack : List MqttEvent) (examined : List Examination) :
      Records s [.deleted pack examined]

/-- One action hands over at most one message, which it was holding and whose tag is the claim. -/
theorem step_records {a : Label} (h : s.step a = some s') :
    ∃ es, s'.trace = s.trace ++ es ∧ s.Records es := by
  -- most actions record nothing
  have hnothing : ∃ es, s.trace = s.trace ++ es ∧ s.Records es :=
    ⟨[], (List.append_nil _).symm, .nothing⟩
  -- storing an event records at most that it was dropped
  have hbuffer : ∀ event stored, ∃ es,
      (s.bufferEvent event stored).trace = s.trace ++ es ∧ s.Records es := by
    intro event stored
    obtain ⟨_, hb⟩ | ⟨_, _, _, hb⟩ | ⟨_, hb⟩ := s.bufferEvent_cases event stored <;> rw [hb]
    · exact hnothing
    · exact hnothing
    · exact ⟨_, rfl, .dropped event⟩
  cases step_moves h with
  | published i payload topic event call hfree hrelease hevent hcall =>
    subst hevent
    exact ⟨_, rfl, .published payload topic⟩
  | oldestDropped i stored event oldest queue => exact ⟨_, rfl, .dropped oldest⟩
  | bufferedCall i stored event => exact hbuffer event stored
  | storedTaken stored event => exact hbuffer event stored
  | discarded accepted event => exact ⟨_, rfl, .discarded event⟩
  | forwarded accepted event hpc htag =>
    exact ⟨_, rfl, .handed _ event accepted (fun _ hP => hP.publishLoop event (hpc ▸ rfl)) htag⟩
  -- a replay records what it hands on, with the tag it compared
  | examined outcome pack examined event x es hpc hnext hx =>
    cases hx with
    | raised => exact ⟨[], rfl, .nothing⟩
    | other => exact ⟨[], rfl, .nothing⟩
    | handed accepted htag =>
      have hmem : event ∈ pack := List.mem_of_getElem? hnext
      exact ⟨_, rfl, .handed _ event accepted (fun _ hP => hP.replayLoop pack _ hpc event hmem) htag⟩
  | deleted pack examined => exact ⟨_, rfl, .deleted pack examined⟩
  -- connecting starts a replay without an entry
  | connect =>
    simp only [connect, triggerReplay]
    split
    · exact hnothing
    · split <;> exact hnothing
  | flushDiscards accepted event => exact ⟨_, rfl, .discarded event⟩
  | flushHands accepted event queue hpc hqueue htag =>
    have hmem : event ∈ s.publisher.queue := hqueue ▸ List.mem_cons_self
    exact ⟨_, rfl, .handed _ event accepted (fun _ hP => hP.queue event hmem) htag⟩
  -- no entry
  | idle | queued | crowded | nothingDropped | overflowed | waits | took | setAside | turns | fetched
  | fetchedNothing | left | kept | session | adopt | clearQueue | clearStorage | stop | stopStorage
  | flushEnds | restart => exact hnothing

section

variable {P : MqttEvent → Prop}

/-- A call keeps the property on to its next place. -/
private theorem Carries.set_call (hP : Carries P s) {i j : Nat} {call call' : PublishCall}
    (hcall : P call.event) (hget : (s.calls.set i call).get? j = some call') : P call'.event := by
  obtain ⟨rfl, rfl⟩ | ⟨_, hget⟩ := Dict.of_get?_set hget
  · exact hcall
  · exact hP.calls j call' hget

/-- The other calls keep it when one returns. -/
private theorem Carries.erase_call (hP : Carries P s) {i j : Nat} {call : PublishCall}
    (hget : (s.calls.erase i).get? j = some call) : P call.event :=
  hP.calls j call (Dict.of_get?_erase hget).2

/-- And the rest of the queue when its oldest event is taken. -/
private theorem Carries.tail (hP : Carries P s) {event : MqttEvent} {queue : List MqttEvent}
    (hqueue : s.publisher.queue = event :: queue) : ∀ e ∈ queue, P e :=
  fun e he => hP.queue e (hqueue ▸ List.mem_cons_of_mem event he)

/-- An event that has it may be buffered. -/
private theorem Carries.buffered (hP : Carries P s) {event : MqttEvent} (hevent : P event)
    (stored : Bool) : Carries P (s.bufferEvent event stored) := by
  obtain ⟨_, hb⟩ | ⟨_, _, _, hb⟩ | ⟨_, hb⟩ := s.bufferEvent_cases event stored <;> rw [hb]
  · exact hP
  · refine { hP with storage := fun e he => ?_ }
    rw [List.mem_append, List.mem_singleton] at he
    obtain he | rfl := he
    · exact hP.storage e he
    · exact hevent
  · exact { hP with }

/-- A call puts its own event into the queue. -/
private theorem Carries.queued (hP : Carries P s) {i : Nat} {call : PublishCall}
    (hcall : s.calls.get? i = some call) :
    Carries P { s.enqueue call.event with calls := s.calls.erase i } := by
  refine { hP with queue := fun e he => ?_, calls := fun j call' => hP.erase_call }
  simp only [enqueue, List.mem_append, List.mem_singleton] at he
  obtain he | rfl := he
  · exact hP.queue e he
  · exact hP.calls i call hcall

/-- The event `_publish_loop` takes was in the queue. -/
private theorem Carries.took (hP : Carries P s) {event : MqttEvent} {queue : List MqttEvent}
    (hqueue : s.publisher.queue = event :: queue) :
    Carries P { s with publisher.queue := queue, publishLoop := .taken event } := by
  refine { hP with queue := hP.tail hqueue, publishLoop := fun e he => ?_ }
  obtain rfl := Option.some.inj he
  exact hP.queue event (hqueue ▸ List.mem_cons_self)

/-- The events of a pack were in the buffer. -/
private theorem Carries.fetched (hP : Carries P s) {n batch : Nat} {pack : List MqttEvent}
    (hpack : pack = s.publisher.storage.take n) :
    Carries P { s with batch, replayLoop := .replaying pack [] } := by
  refine { hP with replayLoop := fun pack' examined hpc e he => ?_ }
  obtain ⟨rfl, _⟩ := ReplayLoop.replaying.inj hpc
  exact hP.storage e (List.mem_of_mem_take (hpack ▸ he))

/-- Between packs the replay holds no event. -/
private theorem Carries.turned (hP : Carries P s) {pc : ReplayLoop}
    (hturns : s.Turns s.replayLoop pc) : Carries P { s with replayLoop := pc } := by
  refine { hP with replayLoop := fun pack examined hpc => ?_ }
  generalize s.replayLoop = before at hturns
  cases hturns <;> cases hpc

/-- A connection only starts the replay. -/
private theorem Carries.connected (hP : Carries P s) : Carries P s.connect := by
  simp only [connect, triggerReplay]
  split
  · exact { hP with }
  · split
    · exact { hP with replayLoop := fun _ _ h => by cases h }
    · exact { hP with }

/-- A restart keeps the buffer and nothing else. -/
private theorem Carries.restarted (hP : Carries P s) {serialNumber : Json}
    {config : Dict String Json} {p : MqttPublisher}
    (hinit : MqttPublisher.init serialNumber config s.publisher.storage = .ok p) :
    Carries P (start p s.maxQueueSize s.trace) := by
  obtain ⟨hqueue, hstorage, _⟩ := MqttPublisher.init_fresh hinit
  exact ⟨hqueue ▸ (fun _ h => by cases h), hstorage ▸ hP.storage, (fun _ _ h => by cases h),
    (fun _ h => by cases h), (fun _ _ h => by cases h)⟩

/-- A message that has just been published is the only one that comes in. -/
theorem Carries.step {a : Label} (hP : Carries P s) (h : s.step a = some s')
    (hnew : ∀ payload topic,
      .published ⟨topic, .obj (s.publisher.withClaimId payload topic), s.publisher.claimId⟩ ∈
        s'.trace → P ⟨topic, .obj (s.publisher.withClaimId payload topic), s.publisher.claimId⟩) :
    Carries P s' := by
  -- an event is new only in `published`; every other action moves or drops events
  cases step_moves h with
  | idle => exact hP
  | published i payload topic event call hfree hrelease hevent hcall =>
    subst hevent
    have hevent := hnew payload topic (by simp [emit])
    refine { hP with calls := fun j call' hget => hP.set_call ?_ hget }
    -- the call has the new event in either of its places
    rw [hcall]
    split <;> exact hevent
  | queued i stored call event hcall hkind =>
    obtain rfl | rfl := hkind <;> exact hP.queued hcall
  | crowded i stored event hcall =>
    -- the event of the call was carried before, and stays in the call
    have hevent : P event := hP.calls i _ hcall
    exact { hP with calls := fun j call' => hP.set_call hevent }
  | oldestDropped i stored event oldest queue hcall hqueue =>
    have hevent : P event := hP.calls i _ hcall
    exact { hP with queue := hP.tail hqueue, calls := fun j call' => hP.set_call hevent }
  | nothingDropped i stored event hcall =>
    have hevent : P event := hP.calls i _ hcall
    exact { hP with calls := fun j call' => hP.set_call hevent }
  | overflowed i stored event hcall => exact { hP with calls := fun j call' => hP.erase_call }
  | bufferedCall i stored event hcall =>
    exact { hP.buffered (hP.calls i _ hcall) stored with
            calls := fun j call' hget => hP.erase_call hget }
  | waits a pc hbefore hafter =>
    -- nothing is in the hand of the loop
    exact { hP with publishLoop := fun e he => by cases hafter.symm.trans he }
  | took event queue hpc hqueue => exact hP.took hqueue
  | discarded accepted event => exact { hP with publishLoop := fun _ h => by cases h }
  -- accepted events leave the loop, refused ones stay
  | forwarded accepted event hpc =>
    refine { hP with publishLoop := fun e he => hP.publishLoop e ?_ }
    cases accepted with
    | true => cases he
    | false => exact hpc ▸ he
  | setAside accepted event hpc =>
    exact { hP with publishLoop := fun e he => hP.publishLoop e (hpc ▸ he) }
  | storedTaken stored event hpc =>
    exact { hP.buffered (hP.publishLoop event (hpc ▸ rfl)) stored with
            publishLoop := fun _ h => by cases h }
  | turns a pc hturns => exact hP.turned hturns
  | fetched n batch pack hpc hpack => exact hP.fetched hpack
  | fetchedNothing | left | kept => exact { hP with replayLoop := fun _ _ h => by cases h }
  | examined outcome pack examined event x es hpc =>
    -- the pack is the one before
    refine { hP with replayLoop := fun pack' examined' hpc' => ?_ }
    obtain ⟨rfl, _⟩ := ReplayLoop.replaying.inj hpc'
    exact hP.replayLoop pack examined hpc
  | deleted pack examined =>
    exact { hP with storage := fun e he => hP.storage e (List.mem_of_mem_drop he)
                    replayLoop := fun _ _ h => by cases h }
  -- the session keeps queue and storage
  | session a p hqueue hstorage =>
    exact { hP with queue := hqueue ▸ hP.queue, storage := hstorage ▸ hP.storage }
  | connect => exact hP.connected
  | adopt c =>
    exact { hP with queue := (c.adopt_queue _).symm ▸ hP.queue
                    storage := (c.adopt_storage _).symm ▸ hP.storage }
  | clearQueue => exact { hP with queue := fun _ h => by cases h }
  | clearStorage => exact { hP with storage := fun _ h => by cases h }
  | stop | stopStorage | flushEnds => exact { hP with }
  | flushDiscards accepted event queue hpc hqueue => exact { hP with queue := hP.tail hqueue }
  | flushHands accepted event queue hpc hqueue => exact { hP with queue := hP.tail hqueue }
  | restart serialNumber config p hinit => exact hP.restarted hinit

end

/-- What is true of the events is so for a weaker property. -/
theorem Carries.mono {P Q : MqttEvent → Prop} (hP : Carries P s) (h : ∀ e, P e → Q e) :
    Carries Q s :=
  ⟨fun e he => h e (hP.queue e he), fun e he => h e (hP.storage e he),
    fun i call hcall => h _ (hP.calls i call hcall), fun e he => h e (hP.publishLoop e he),
    fun pack examined hpc e he => h e (hP.replayLoop pack examined hpc e he)⟩

/-- Where the messages come from: `publish`, or the buffer the publisher started with. -/
structure Sourced (storage : List MqttEvent) (s : MqttThreads) : Prop where
  carries : Carries (fun e => .published e ∈ s.trace ∨ e ∈ storage) s
  published : ∀ e, .published e ∈ s.trace → e.Consistent

/-- Every step keeps the events those of the storage or of a claim. -/
theorem Sourced.step {storage : List MqttEvent} {a : Label} (hS : Sourced storage s)
    (h : s.step a = some s') : Sourced storage s' := by
  obtain ⟨es, htrace, hrecords⟩ := step_records h
  -- published before is published after
  have hmono : ∀ e, .published e ∈ s.trace → .published e ∈ s'.trace := by
    intro e he
    rw [htrace]
    exact List.mem_append_left es he
  have hcarries : Carries (fun e => .published e ∈ s'.trace ∨ e ∈ storage) s :=
    hS.carries.mono fun e he => he.imp_left (hmono e)
  -- everything carried was published, or in the buffer at the start
  refine ⟨hcarries.step h fun payload topic => .inl, fun e he => ?_⟩
  rw [htrace, List.mem_append] at he
  obtain he | he := he
  · exact hS.published e he
  -- a published event is consistent by the way `publish` tags it
  · cases hrecords with
    | published payload topic =>
      simp only [List.mem_singleton, Transfer.published.injEq] at he
      subst he
      exact s.publisher.withClaimId_consistent payload topic
    | nothing => cases he
    | handed | discarded | dropped | deleted => simp at he

/-- After the start they are those of the storage. -/
theorem Booted.sourced (h : Booted s) : Sourced s.publisher.storage s := by
  obtain ⟨serialNumber, config, storage, p, maxQueueSize, hinit, rfl⟩ := h
  obtain ⟨hqueue, hstorage, _⟩ := MqttPublisher.init_fresh hinit
  exact ⟨⟨hqueue ▸ (fun _ h => by cases h), fun e => .inr, (fun _ _ h => by cases h),
    (fun _ h => by cases h), (fun _ _ h => by cases h)⟩, (fun _ h => by cases h)⟩

/-- Over every run, a message is handed to the client only while the claim it was tagged with is
    the current one; it comes from `publish`, whose payload says the same claim, or from the buffer
    that was there at the start. -/
theorem handed_within_claim {labels : List Label} {a : Label} {m : MqttThreads}
    {consumer : Consumer} {event : MqttEvent} {claimId : Json} {accepted : Bool} (hboot : Booted s)
    (hrun : exec s labels = some m) (hstep : m.step a = some s')
    (hhanded : s'.trace = m.trace ++ [.handed consumer event claimId accepted]) :
    event.claimId.eq m.publisher.claimId = true ∧
    (∀ x, event.claimId = .str x → m.publisher.claimId = .str x) ∧
    (event.claimId = .null → m.publisher.claimId = .null) ∧
    (.published event ∈ m.trace ∧ event.Consistent ∨ event ∈ s.publisher.storage) := by
  have hS : Sourced s.publisher.storage m :=
    Run.exec_invariant' (fun _ _ _ hS hstep => hS.step hstep) hboot.sourced hrun
  obtain ⟨es, htrace, hrecords⟩ := step_records hstep
  -- the entry is the handing over alone
  obtain rfl : es = _ := List.append_cancel_left (htrace.symm.trans hhanded)
  cases hrecords with
  | handed _ _ _ hcarried htag =>
    refine ⟨htag, fun x hx => ?_, fun hnull => ?_, ?_⟩
    -- two texts that compare equal are equal
    · rw [hx] at htag
      exact Json.same_str.mp htag
    -- nothing but `null` compares equal to `null`
    · rw [hnull] at htag
      cases hclaim : m.publisher.claimId <;> rw [hclaim] at htag <;> first | rfl | cases htag
    · exact (hcarried _ hS.carries).imp_left fun h => ⟨h, hS.published event h⟩

/-- The section `mqtt` of an activated gateway. -/
def activated : Dict String Json :=
  [("username", .str "GW-001"), ("password", .str "secret"), ("claim_id", .str "claim-1")]

/-- A telemetry message of that claim. -/
def telemetry : MqttEvent :=
  ⟨"v1/gateway/GW-001/telemetry", .obj [("ts", .int 1), ("claim_id", .str "claim-1")],
    .str "claim-1"⟩

/-- The publisher over a buffer that holds the message. -/
def afterOutage : MqttThreads :=
  start { serialNumber := .str "GW-001", username := .str "GW-001", password := .str "secret",
          bootstrap := .obj [], claimId := .str "claim-1", trustedReleaseKeys := .obj [],
          releaseRequestId := .null, releaseInProgress := false,
          operationalCredentialsRetired := false, bootstrapMode := false, connected := false,
          consecutiveFailures := 0, queue := [], storage := [telemetry] } 10000 []

/-- The publisher of the example has booted. -/
theorem afterOutage_booted : Booted afterOutage :=
  ⟨.str "GW-001", activated, [telemetry], _, 10000, rfl, rfl⟩

/-- The buffered message is replayed. -/
theorem handed_within_claim_replayed : ∃ m s',
    exec afterOutage [.connect, .beginReplayRound, .count, .fetch 50] = some m ∧
    m.step (.examine .accepted) = some s' ∧
    telemetry.claimId.eq m.publisher.claimId = true := by
  have hrun : ∃ m s',
      exec afterOutage [.connect, .beginReplayRound, .count, .fetch 50] = some m ∧
      m.step (.examine .accepted) = some s' ∧
      s'.trace = m.trace ++ [.handed .replayLoop telemetry (.str "claim-1") true] :=
    ⟨_, _, rfl, rfl, rfl⟩
  obtain ⟨m, s', hm, hs, hhanded⟩ := hrun
  exact ⟨m, s', hm, hs, (handed_within_claim afterOutage_booted hm hs hhanded).1⟩

end MqttThreads

end Novena

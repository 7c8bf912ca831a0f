import Mathlib.Algebra.Order.Group.Multiset
import Mathlib.Tactic.Abel
import NovenaGateway.Spec.Replay
import NovenaGateway.Spec.StrandedEvents

/-!
# What becomes of the messages

Between `publish` and the client a message is in the queue, with a thread, or in the buffer, and it
leaves them by being sent, by being dropped and counted, or in one of the ways this module is about.
The books are kept as multisets: what has come in is what is still there and what has gone out.
`MqttThreads.accounted` says when every message that has gone out was sent or counted.

Key results:
- `MqttThreads.step_posting`
- `MqttThreads.accounted`
- `MqttThreads.lost_at_shutdown`
-/

namespace Novena

namespace Transfer

/-- The messages that come in. -/
def incoming : Transfer → List MqttEvent
  | .published event => [event]
  | _ => []

/-- The messages that go out. -/
def outgoing : Transfer → List MqttEvent
  | .handed .publishLoop event _ true | .handed .flushQueue event _ _ => [event]
  | .discarded event | .dropped event => [event]
  | .deleted pack _ => pack
  | .published _ | .handed .publishLoop _ _ false | .handed .replayLoop .. => []

/-- Of these, the messages the client accepted. -/
def sent : Transfer → List MqttEvent
  | .handed .publishLoop event _ true | .handed .flushQueue event _ true => [event]
  | .deleted _ examined => (examined.filter Examination.accepted).map Examination.event
  | _ => []

/-- The messages `_dropped_message_count` counts. -/
def counted : Transfer → List MqttEvent
  | .dropped event => [event]
  | _ => []

/-- The events that were deleted as those of another claim. -/
def foreign : Transfer → List MqttEvent
  | .deleted _ examined => (examined.filter fun x => !x.accepted).map Examination.event
  | _ => []

/-- A transfer that loses no message of a claim; `trace` says what was handed over. -/
def Lossless (claimId : Json) (trace : List Transfer) : Transfer → Prop
  | .published event => event.claimId.eq claimId = true
  | .handed .flushQueue _ _ accepted => accepted = true
  | .discarded _ => False
  | .deleted pack examined => examined.map Examination.event = pack ∧
      ∀ x ∈ examined, (x.accepted = false → x.event.claimId.eq claimId = false) ∧
        (x.accepted = true → .handed .replayLoop x.event x.claimId true ∈ trace)
  | .handed .. | .dropped _ => True

variable {claimId : Json} {trace : List Transfer} {t : Transfer}

/-- What was not lost stays so when the trace goes on. -/
theorem Lossless.mono (h : t.Lossless claimId trace) (es : List Transfer) :
    t.Lossless claimId (trace ++ es) := by
  cases t with
  | deleted pack examined =>
    exact ⟨h.1, fun x hx =>
      ⟨(h.2 x hx).1, fun haccepted => List.mem_append_left es ((h.2 x hx).2 haccepted)⟩⟩
  | published | discarded | dropped => exact h
  | handed consumer => cases consumer <;> exact h

/-- Every outgoing event of a transfer was sent, counted or foreign. -/
theorem Lossless.outgoing (h : t.Lossless claimId trace) :
    (t.outgoing : Multiset MqttEvent) = t.sent + t.counted + t.foreign := by
  cases t with
  | published event => rfl
  | handed consumer event claim accepted =>
    cases consumer with
    | publishLoop => cases accepted <;> rfl
    | replayLoop => rfl
    | flushQueue =>
      obtain rfl : accepted = true := h
      rfl
  | discarded event => exact h.elim
  | dropped event => rfl
  | deleted pack examined =>
    obtain ⟨horder, _⟩ := h
    have hsplit : (examined : Multiset Examination) =
        ↑(examined.filter Examination.accepted) + ↑(examined.filter fun x => !x.accepted) := by
      rw [Multiset.coe_add, Multiset.coe_eq_coe]
      exact (List.filter_append_perm _ examined).symm
    simp only [Transfer.outgoing, Transfer.sent, counted, foreign]
    rw [Multiset.coe_nil, add_zero, ← horder, ← Multiset.map_coe, ← Multiset.map_coe,
      ← Multiset.map_coe, ← Multiset.map_add, ← hsplit]

/-- A foreign event is of another claim. -/
theorem Lossless.foreign (h : t.Lossless claimId trace) {e : MqttEvent} (he : e ∈ t.foreign) :
    e.claimId.eq claimId = false := by
  cases t with
  | deleted pack examined =>
    simp only [Transfer.foreign, List.mem_map, List.mem_filter, Bool.not_eq_true'] at he
    obtain ⟨x, ⟨hx, haccepted⟩, rfl⟩ := he
    exact (h.2 x hx).1 haccepted
  | published | handed | discarded | dropped => cases he

/-- What counts as sent was handed over and accepted. -/
theorem Lossless.handed (h : t.Lossless claimId trace) (ht : t ∈ trace) {e : MqttEvent}
    (he : e ∈ t.sent) : ∃ consumer claim, .handed consumer e claim true ∈ trace := by
  cases t with
  | handed consumer event claim accepted =>
    cases accepted with
    | false => cases consumer <;> cases he
    | true =>
      cases consumer with
      | replayLoop => cases he
      | publishLoop | flushQueue =>
        obtain rfl := List.mem_singleton.mp he
        exact ⟨_, _, ht⟩
  | deleted pack examined =>
    simp only [Transfer.sent, List.mem_map, List.mem_filter] at he
    obtain ⟨x, ⟨hx, haccepted⟩, rfl⟩ := he
    exact ⟨_, _, (h.2 x hx).2 haccepted⟩
  | published | discarded | dropped => cases he

end Transfer

namespace MqttThreads

variable {s s' : MqttThreads}

/-- The messages that have not got as far as the client or the buffer. -/
def front (s : MqttThreads) : List MqttEvent :=
  s.calls.map (fun p => p.2.event) ++ s.publishLoop.event?.toList ++ s.publisher.queue

/-- One producer, no release, one claim, no restart. -/
def Ordinary (s : MqttThreads) : Label → Prop
  | .publish .. => s.calls = []
  | .adopt c => (c.adopt s.publisher).claimId = s.publisher.claimId
  | .beginRelease | .clearQueue | .clearStorage | .endRelease _ | .restart .. => False
  | _ => True

/-- The condition the code does not see to. The claim is not a NaN; `disconnect` flushes the queue
    to its end, over a connection and with every message accepted; and nothing is queued after. -/
def Delivers (s : MqttThreads) : Label → Prop
  | .publish .. => s.publisher.claimId.eq s.publisher.claimId = true
  | .resume i _ => s.shutdown = .flushed → ∀ call, s.calls.get? i = some call →
      ∃ event, call = .buffer event
  | .flush accepted => s.publisher.queue ≠ [] →
      s.publisher.connected = true ∧ s.publisher.bootstrapMode = false ∧ accepted = true
  | _ => True

/-- Of one producer at most one call is under way, and its second try finds room. -/
structure Solo (s : MqttThreads) : Prop where
  calls : s.calls = [] ∨ ∃ i call, s.calls = [(i, call)]
  room : ∀ i event, s.calls.get? i = some (.enqueueAgain event) → s.full = false
  bounded : 0 < s.maxQueueSize → s.publisher.queue.length ≤ s.maxQueueSize

/-- What one action enters in the books. -/
structure Posting (s s' : MqttThreads) (es : List Transfer) : Prop where
  trace : s'.trace = s.trace ++ es
  balance : (s'.front + s'.publisher.storage + es.flatMap Transfer.outgoing : Multiset MqttEvent) =
    s.front + s.publisher.storage + es.flatMap Transfer.incoming
  front : ∀ e ∈ s'.front, e ∈ s.front ∨ .published e ∈ es
  entries : ∀ t ∈ es, t.Lossless s.publisher.claimId s'.trace
  count : s.droppedMessageCount + (es.flatMap Transfer.counted).length ≤ s'.droppedMessageCount

/-- Messages only move on. -/
theorem Posting.quiet (hfront : s'.front.Perm s.front)
    (hstorage : s'.publisher.storage = s.publisher.storage) (htrace : s'.trace = s.trace)
    (hcount : s.droppedMessageCount ≤ s'.droppedMessageCount) : Posting s s' [] where
  trace := by rw [htrace, List.append_nil]
  balance := by
    rw [hstorage, Multiset.coe_eq_coe.mpr hfront]
    rfl
  front := fun e he => .inl (hfront.mem_iff.mp he)
  entries := fun _ h => by cases h
  count := hcount

/-- One message goes out. -/
theorem Posting.leaves {t : Transfer} {event : MqttEvent}
    (hfront : s.front.Perm (event :: s'.front))
    (hstorage : s'.publisher.storage = s.publisher.storage) (htrace : s'.trace = s.trace ++ [t])
    (hin : t.incoming = []) (hout : t.outgoing = [event])
    (hentry : t.Lossless s.publisher.claimId s'.trace)
    (hcount : s.droppedMessageCount + t.counted.length ≤ s'.droppedMessageCount) :
    Posting s s' [t] where
  trace := htrace
  balance := by
    simp only [List.flatMap_cons, List.flatMap_nil, List.append_nil, hin, hout]
    rw [hstorage, Multiset.coe_eq_coe.mpr hfront]
    simp only [← Multiset.cons_coe, ← Multiset.singleton_add, Multiset.coe_nil]
    abel
  front := fun e he => .inl (hfront.mem_iff.mpr (List.mem_cons_of_mem _ he))
  entries := fun t' ht => by
    obtain rfl := List.mem_singleton.mp ht
    exact hentry
  count := by simpa using hcount

/-- One message is buffered, or dropped and counted. -/
theorem Posting.buffered {event : MqttEvent} {stored : Bool}
    (hrelease : s.publisher.releaseInProgress = false)
    (hfront : s.front.Perm (event :: s'.front))
    (hstorage : s'.publisher.storage = (s.bufferEvent event stored).publisher.storage)
    (htrace : s'.trace = (s.bufferEvent event stored).trace)
    (hcount : s'.droppedMessageCount = (s.bufferEvent event stored).droppedMessageCount) :
    ∃ es, Posting s s' es := by
  obtain ⟨hreleasing, _⟩ | ⟨_, _, _, hb⟩ | ⟨_, hb⟩ := s.bufferEvent_cases event stored
  · cases hrelease.symm.trans hreleasing
  · rw [hb] at hstorage htrace hcount
    refine ⟨[], ?_, ?_, fun e he => .inl (hfront.mem_iff.mpr (List.mem_cons_of_mem _ he)),
      fun _ h => absurd h List.not_mem_nil, ?_⟩
    · rw [htrace, List.append_nil]
    · rw [hstorage, Multiset.coe_eq_coe.mpr hfront, ← Multiset.cons_coe, ← Multiset.coe_add,
        Multiset.coe_singleton, ← Multiset.singleton_add]
      simp only [List.flatMap_nil, Multiset.coe_nil]
      abel
    · exact hcount.ge
  · rw [hb] at hstorage htrace hcount
    exact ⟨[.dropped event], .leaves hfront hstorage htrace rfl rfl trivial hcount.ge⟩

/-- Every event of a pass was compared with one claim. -/
def ExaminedUnder (claimId : Json) (s : MqttThreads) : Prop :=
  ∀ pack examined, s.replayLoop.pass? = some (pack, examined) →
    ∀ x ∈ examined, x.claimId = claimId

/-- The only call is this one. -/
theorem Solo.get {i : Nat} {call : PublishCall} (h : Solo s) (hcall : s.calls.get? i = some call) :
    s.calls = [(i, call)] := by
  obtain hnil | ⟨j, call', hone⟩ := h.calls
  · rw [hnil] at hcall
    cases hcall
  · rw [hone, Dict.get?_cons] at hcall
    split at hcall
    · next hi =>
      rw [hone, hi, Option.some.inj hcall]
    · cases hcall

/-- A published message comes in. -/
private theorem Posting.published {i : Nat} {event : MqttEvent} {call : PublishCall}
    (hnone : s.calls = []) (hcall : call.event = event)
    (htag : event.claimId.eq s.publisher.claimId = true) :
    Posting s { s.emit (.published event) with calls := s.calls.set i call } [.published event] := by
  have hfront : ({ s.emit (.published event) with calls := s.calls.set i call } :
      MqttThreads).front = event :: s.front := by
    simp [MqttThreads.front, emit, hnone, Dict.set, hcall]
  refine ⟨rfl, ?_, ?_, ?_, le_rfl⟩
  · rw [hfront]
    simp only [List.flatMap_cons, List.flatMap_nil, Transfer.incoming, Transfer.outgoing,
      List.append_nil, ← Multiset.cons_coe, ← Multiset.singleton_add, Multiset.coe_nil, emit]
    abel
  · rw [hfront]
    intro e he
    obtain rfl | he := List.mem_cons.mp he
    · exact .inr (by simp)
    · exact .inl he
  · intro t ht
    obtain rfl := List.mem_singleton.mp ht
    exact htag

/-- Its call passes it on to the queue. -/
private theorem front_queued {i : Nat} {call : PublishCall} (hone : s.calls = [(i, call)]) :
    ({ s.enqueue call.event with calls := s.calls.erase i } : MqttThreads).front.Perm s.front := by
  rw [front, front, hone]
  simp only [enqueue, Dict.erase, List.filter_cons, List.filter_nil, List.map_cons, List.map_nil,
    ne_eq, not_true_eq_false, decide_false, Bool.false_eq_true, if_false, List.nil_append,
    List.singleton_append]
  rw [← List.append_assoc]
  exact List.perm_append_singleton _ _

/-- When the queue is full, its oldest message goes out first. -/
private theorem front_oldestDropped {i : Nat} {event oldest : MqttEvent} {queue : List MqttEvent}
    (hone : s.calls = [(i, .dropOldest event)]) (hqueue : s.publisher.queue = oldest :: queue) :
    s.front.Perm (oldest :: ({ s.emit (.dropped oldest) with
      publisher.queue := queue, droppedMessageCount := s.droppedMessageCount + 1
      calls := s.calls.set i (.enqueueAgain event) } : MqttThreads).front) := by
  have hset : s.calls.set i (.enqueueAgain event) = [(i, .enqueueAgain event)] := by
    simp [hone, Dict.set]
  rw [front, front, hset, hone, hqueue]
  exact List.perm_middle

/-- A transfer that is no message's end leaves the books as they are. -/
private theorem Posting.noted {t : Transfer} (hfront : s'.front = s.front)
    (hstorage : s'.publisher.storage = s.publisher.storage) (htrace : s'.trace = s.trace ++ [t])
    (hin : t.incoming = []) (hout : t.outgoing = []) (hcounted : t.counted = [])
    (hentry : t.Lossless s.publisher.claimId s'.trace)
    (hcount : s.droppedMessageCount ≤ s'.droppedMessageCount) : Posting s s' [t] where
  trace := htrace
  balance := by simp [hfront, hstorage, hin, hout]
  front := fun e he => .inl (hfront ▸ he)
  entries := fun t' ht => by
    obtain rfl := List.mem_singleton.mp ht
    exact hentry
  count := by simpa [hcounted] using hcount

/-- A message of `_publish_loop` goes out when the client accepts it, and is kept otherwise. -/
private theorem Posting.forwarded {accepted : Bool} {event : MqttEvent}
    (hpc : s.publishLoop = .taken event) :
    Posting s { s.emit (.handed .publishLoop event s.publisher.claimId accepted) with
        publishLoop := if accepted then .idle else .buffering event }
      [.handed .publishLoop event s.publisher.claimId accepted] := by
  cases accepted with
  | true =>
    refine .leaves ?_ rfl rfl rfl rfl trivial le_rfl
    simp [MqttThreads.front, hpc, PublishLoop.event?, emit]
  | false =>
    refine .noted ?_ rfl rfl rfl rfl rfl trivial le_rfl
    simp [MqttThreads.front, hpc, PublishLoop.event?, emit]

/-- A message of the replay stays in the buffer until its pack is deleted. -/
private theorem Posting.examined {pc : ReplayLoop} {event : MqttEvent} {x : Examination}
    {es : List Transfer} (hx : s.Examines event x es) :
    Posting s { s with trace := s.trace ++ es, replayLoop := pc } es := by
  cases hx with
  | raised => exact .quiet (.refl _) rfl (List.append_nil _) le_rfl
  | other => exact .quiet (.refl _) rfl (List.append_nil _) le_rfl
  | handed accepted => exact .noted rfl rfl rfl rfl rfl rfl trivial le_rfl

/-- A pack goes out when every message of it was accepted or is foreign. -/
private theorem Posting.deleted {pack : List MqttEvent} {examined : List Examination}
    (hpass : Passes s pack examined) (hclaims : ∀ x ∈ examined, x.claimId = s.publisher.claimId)
    (hall : examined.countP Examination.counted = pack.length) :
    Posting s { s.emit (.deleted pack examined) with
      publisher.storage := s.publisher.storage.drop pack.length, batch := 0
      replayLoop := .top } [.deleted pack examined] := by
  obtain ⟨horder, hsent⟩ := hpass.whole hall
  obtain ⟨rest, hrest⟩ := hpass.leading
  refine ⟨rfl, ?_, fun e => .inl, fun t ht => ?_, le_rfl⟩
  · simp only [MqttThreads.front, emit, ← hrest, List.drop_left, List.flatMap_cons,
      List.flatMap_nil, Transfer.outgoing, Transfer.incoming, List.append_nil,
      ← Multiset.coe_add, Multiset.coe_nil]
    abel
  · obtain rfl := List.mem_singleton.mp ht
    refine ⟨horder, fun x hx => ⟨fun haccepted => ?_, fun haccepted => ?_⟩⟩
    · -- one that was not accepted was skipped, since its tag is not the claim
      rw [← hclaims x hx, Bool.eq_false_iff]
      intro htag
      cases haccepted.symm.trans (hsent x hx htag).1
    · exact List.mem_append_left _ (hpass.accepted x hx haccepted)

/-- A connection moves no message. -/
private theorem Posting.connected : Posting s s.connect [] := by
  simp only [connect, triggerReplay]
  split
  · exact .quiet (.refl _) rfl rfl le_rfl
  · split <;> exact .quiet (.refl _) rfl rfl le_rfl

/-- Every action of an ordinary, delivering run keeps the books. -/
theorem step_posting {a : Label} (hsolo : Solo s) (hord : Ordinary s a) (hdel : Delivers s a)
    (hrelease : s.publisher.releaseInProgress = false)
    (htags : ∀ e ∈ s.front, e.claimId.eq s.publisher.claimId = true) (hP : Passing s)
    (hexamined : ExaminedUnder s.publisher.claimId s) (h : s.step a = some s') :
    ∃ es, Posting s s' es := by
  have hmoved : ∀ {s'' : MqttThreads}, s''.front.Perm s.front →
      s''.publisher.storage = s.publisher.storage → s''.trace = s.trace →
      s.droppedMessageCount ≤ s''.droppedMessageCount → ∃ es, Posting s s'' es :=
    fun h₁ h₂ h₃ h₄ => ⟨[], Posting.quiet h₁ h₂ h₃ h₄⟩
  have htag : ∀ {event queue}, s.publisher.queue = event :: queue →
      event.claimId.eq s.publisher.claimId = true := by
    intro event queue hqueue
    exact htags event (by simp [front, hqueue])
  have hheld : ∀ {event}, s.publishLoop = .taken event →
      event.claimId.eq s.publisher.claimId = true := by
    intro event hpc
    exact htags event (by simp [front, hpc, PublishLoop.event?])
  cases step_moves h with
  | published i payload topic event call hfree _ hevent hcall =>
    -- the event of the call is the one published, whichever way the call goes
    have hcallEvent : call.event = event := by
      rw [hcall]
      split <;> rfl
    exact ⟨_, .published hord hcallEvent (by rw [hevent]; exact hdel)⟩
  | queued i stored call event hcall hkind =>
    -- both kinds of call carry the event
    have hevent : call.event = event := by
      obtain rfl | rfl := hkind <;> rfl
    subst hevent
    exact hmoved (front_queued (hsolo.get hcall)) rfl rfl le_rfl
  | crowded i stored event hcall =>
    -- the full queue is seen; the event stays in the call
    refine hmoved ?_ rfl rfl le_rfl
    rw [front, front, hsolo.get hcall]
    simp [Dict.set, PublishCall.event]
  | oldestDropped i stored event oldest queue hcall hqueue =>
    -- the oldest of the queue is counted and gone
    have hfront := front_oldestDropped (hsolo.get hcall) hqueue
    exact ⟨[.dropped oldest], .leaves hfront rfl rfl rfl rfl trivial le_rfl⟩
  | nothingDropped i stored event hcall =>
    -- another thread emptied the queue in between
    refine hmoved ?_ rfl rfl (Nat.le_succ _)
    rw [front, front, hsolo.get hcall]
    simp [Dict.set, PublishCall.event]
  | overflowed i stored event hcall hfull =>
    -- the queue had room, and nobody else filled it
    cases (hsolo.room i event hcall).symm.trans hfull
  | bufferedCall i stored event hcall =>
    -- the caller hands its event to the storage
    refine Posting.buffered hrelease ?_ rfl rfl rfl
    simp [front, hsolo.get hcall, Dict.erase, PublishCall.event]
  | waits a pc hbefore hafter =>
    -- neither place of the publish loop holds an event
    refine hmoved ?_ rfl rfl le_rfl
    simp [front, hbefore, hafter]
  | took event queue hpc hqueue =>
    -- the event moves from the queue into the hand of the loop
    refine hmoved ?_ rfl rfl le_rfl
    simp [front, hpc, hqueue, PublishLoop.event?]
  | discarded accepted event hpc hother =>
    -- the message in hand is of the claim, and no release is under way
    obtain hother | hreleasing := hother
    · cases hother.symm.trans (hheld hpc)
    · cases hrelease.symm.trans hreleasing
  | forwarded accepted event hpc => exact ⟨_, .forwarded hpc⟩
  | setAside accepted event hpc =>
    -- the loop turns to the storage with the event in hand
    refine hmoved ?_ rfl rfl le_rfl
    simp [front, hpc, PublishLoop.event?]
  | storedTaken stored event hpc =>
    refine Posting.buffered hrelease ?_ rfl rfl rfl
    rw [front, front, hpc]
    simp [PublishLoop.event?]
  | examined outcome pack examined event x es hpc hnext hx => exact ⟨es, .examined hx⟩
  | deleted pack examined hpc hall hstorage =>
    have hpass : s.replayLoop.pass? = some (pack, examined) := by rw [hpc]; rfl
    exact ⟨_, .deleted (hP pack examined hpass) (hexamined pack examined hpass) hall⟩
  | session a p hqueue hstorage =>
    refine hmoved ?_ hstorage rfl le_rfl
    simp [front, hqueue]
  | connect => exact ⟨[], .connected⟩
  | adopt c =>
    refine hmoved ?_ (c.adopt_storage _) rfl le_rfl
    simp [front]
  -- an ordinary run has none of these
  | clearQueue | clearStorage | restart => exact hord.elim
  | flushEnds | stop | stopStorage | idle | turns | fetched | fetchedNothing | left | kept =>
    exact hmoved (.refl _) rfl rfl le_rfl
  | flushDiscards accepted event queue hpc hqueue hother =>
    -- what is queued is of the claim
    cases hother.symm.trans (htag hqueue)
  | flushHands accepted event queue hpc hqueue =>
    -- `disconnect` hands on what is queued, which the hypothesis says succeeds
    obtain ⟨_, _, rfl⟩ := hdel (by simp [hqueue])
    refine ⟨[.handed .flushQueue event s.publisher.claimId true],
      .leaves ?_ rfl rfl rfl rfl rfl le_rfl⟩
    rw [front, front, hqueue]
    exact List.perm_middle

/-! ## What stays the same -/

/-- No release begins, and the claim stays. -/
theorem step_calm {a : Label} (hord : Ordinary s a)
    (hrelease : s.publisher.releaseInProgress = false) (h : s.step a = some s') :
    s'.publisher.claimId = s.publisher.claimId ∧ s'.publisher.releaseInProgress = false := by
  have hbuffer : ∀ event stored,
      (s.bufferEvent event stored).publisher.claimId = s.publisher.claimId ∧
      (s.bufferEvent event stored).publisher.releaseInProgress = false := by
    -- each outcome of storing leaves the claim alone
    intro event stored
    obtain ⟨_, hb⟩ | ⟨_, _, _, hb⟩ | ⟨_, hb⟩ := s.bufferEvent_cases event stored <;>
      simp [hb, emit, hrelease]
  cases step_moves h with
  | bufferedCall i stored event => exact hbuffer event stored
  | storedTaken stored event => exact hbuffer event stored
  | session a p _ _ _ _ _ hclaim hbegin =>
    refine ⟨hclaim hrelease, ?_⟩
    -- a session ends without a release, or the release is excluded
    obtain hsame | rfl := hbegin
    · exact hsame.trans hrelease
    · exact hord.elim
  | connect =>
    simp only [connect, triggerReplay]
    -- connecting starts a replay or not, and neither moves the claim
    split
    · exact ⟨rfl, hrelease⟩
    · split <;> exact ⟨rfl, hrelease⟩
  | adopt c =>
    -- a provision keeps or changes the claim; the hypothesis says it keeps it
    refine ⟨hord, ?_⟩
    simp only [Provision.Credentials.adopt]
    split
    · rfl
    · exact hrelease
  | clearQueue => exact hord.elim
  | clearStorage => exact hord.elim
  | restart => exact hord.elim
  | idle | published | queued | crowded | oldestDropped | nothingDropped | overflowed | waits | took
  | discarded | forwarded | setAside | turns | fetched | fetchedNothing | examined | left | kept
  | deleted | stop | stopStorage | flushEnds | flushDiscards | flushHands => exact ⟨rfl, hrelease⟩

/-- Every step examines events under the claim. -/
theorem ExaminedUnder.step {a : Label} {claimId : Json} (hE : ExaminedUnder claimId s)
    (hclaim : s.publisher.claimId = claimId) (h : s.step a = some s') :
    ExaminedUnder claimId s' := by
  intro pack examined hpass x hx
  -- the pass is as before, a new one, or one event longer
  obtain hsame | ⟨rfl, _⟩ | ⟨before, event, y, es, hbefore, rfl, _, hy, _⟩ := step_pass h hpass
  · exact hE pack examined hsame x hx
  · cases hx
  -- the new event was examined under the claim of this moment
  · rw [List.mem_append, List.mem_singleton] at hx
    obtain hx | rfl := hx
    · exact hE pack before hbefore x hx
    · rw [← hclaim]
      cases hy <;> rfl

/-- Once the queue is flushed to its end it stays empty. -/
def Flushed (s : MqttThreads) : Prop := s.shutdown = .flushed → s.publisher.queue = []

/-- Every ordinary step ends with the events of a pack flushed. -/
theorem Flushed.step {a : Label} (hF : Flushed s) (hord : Ordinary s a) (hdel : Delivers s a)
    (h : s.step a = some s') : Flushed s' := by
  -- taking the head of a flushed queue is impossible, since it is empty
  have htail : ∀ {event queue}, s.publisher.queue = event :: queue → s.shutdown = .flushed →
      queue = [] := by
    intro event queue hqueue hflushed
    rw [hF hflushed] at hqueue
    cases hqueue
  cases step_moves h with
  | queued i stored call event hcall hkind =>
    -- after the flush no call puts anything into the queue
    intro hflushed
    obtain ⟨event', hbuffer⟩ := hdel hflushed call hcall
    obtain rfl | rfl := hkind <;> cases hbuffer
  | oldestDropped i stored event oldest queue hcall hqueue => exact htail hqueue
  | bufferedCall i stored event =>
    -- storing does not touch the queue
    intro hflushed
    rw [bufferEvent_queue]
    exact hF (bufferEvent_shutdown s event stored ▸ hflushed)
  | storedTaken stored event =>
    intro hflushed
    rw [bufferEvent_queue]
    exact hF (bufferEvent_shutdown s event stored ▸ hflushed)
  | took event queue hpc hqueue => exact htail hqueue
  | session a p hqueue => exact fun hflushed => hqueue.trans (hF hflushed)
  | connect =>
    simp only [connect, triggerReplay]
    split
    · exact hF
    · split <;> exact hF
  | adopt c => exact fun hflushed => (c.adopt_queue _).trans (hF hflushed)
  | clearQueue => exact fun _ => rfl
  | restart => exact hord.elim
  -- a stop that begins is not yet flushed
  | stop => intro h; cases h
  | stopStorage => intro h; cases h
  | flushEnds accepted hpc hend =>
    -- the flush ended with events left only if a hand-over failed
    intro _
    by_contra hne
    obtain ⟨hconnected, hbootstrap, _⟩ := hdel hne
    simp [hne, hconnected, hbootstrap] at hend
  | flushDiscards accepted event queue hpc => exact fun hflushed => by cases hpc.symm.trans hflushed
  | flushHands accepted event queue hpc => exact fun hflushed => by cases hpc.symm.trans hflushed
  | idle | published | crowded | nothingDropped | overflowed | waits | discarded | forwarded
  | setAside | turns | fetched | fetchedNothing | examined | left | kept | deleted
  | clearStorage => exact hF

/-- A queue is not full below its limit, or without one. -/
theorem full_eq_false {s : MqttThreads} :
    s.full = false ↔ (0 < s.maxQueueSize → s.publisher.queue.length < s.maxQueueSize) := by
  simp [full]

/-- The call stays as it is and the queue gets no longer. -/
theorem Solo.shrink (hsolo : Solo s) (hcalls : s'.calls = s.calls)
    (hmax : s'.maxQueueSize = s.maxQueueSize)
    (hlength : s'.publisher.queue.length ≤ s.publisher.queue.length) : Solo s' := by
  -- room and bound
  refine ⟨hcalls ▸ hsolo.calls, fun i event hcall => ?_, fun hpos => ?_⟩
  · have hroom := full_eq_false.mp (hsolo.room i event (hcalls ▸ hcall))
    rw [full_eq_false, hmax]
    exact fun hpos => lt_of_le_of_lt hlength (hroom hpos)
  · rw [hmax] at hpos ⊢
    exact hlength.trans (hsolo.bounded hpos)

/-- The call ends. -/
theorem Solo.ended {i : Nat} {call : PublishCall} (hsolo : Solo s)
    (hcall : s.calls.get? i = some call) (hcalls : s'.calls = s.calls.erase i)
    (hbounded : 0 < s'.maxQueueSize → s'.publisher.queue.length ≤ s'.maxQueueSize) : Solo s' := by
  have hnone : s'.calls = [] := by
    rw [hcalls, hsolo.get hcall]
    simp [Dict.erase]
  refine ⟨.inl hnone, fun j event hcall' => ?_, hbounded⟩
  -- no other call is left
  rw [hnone] at hcall'
  cases hcall'

/-- The call goes on. -/
theorem Solo.goesOn {i : Nat} {call call' : PublishCall} (hsolo : Solo s)
    (hcall : s.calls.get? i = some call) (hcalls : s'.calls = s.calls.set i call')
    (hroom : ∀ event, call' = .enqueueAgain event → s'.full = false)
    (hbounded : 0 < s'.maxQueueSize → s'.publisher.queue.length ≤ s'.maxQueueSize) : Solo s' := by
  have hone : s'.calls = [(i, call')] := by
    rw [hcalls, hsolo.get hcall]
    simp [Dict.set]
  refine ⟨.inr ⟨i, call', hone⟩, fun j event hcall' => ?_, hbounded⟩
  rw [hone, Dict.get?_cons] at hcall'
  -- the call is `i`, or there is none
  split at hcall'
  · exact hroom event (Option.some.inj hcall')
  · cases hcall'

/-- Every ordinary step leaves one call at most. -/
theorem Solo.step {a : Label} (hsolo : Solo s) (hord : Ordinary s a) (h : s.step a = some s') :
    Solo s' := by
  cases step_moves h with
  | published i payload topic event call hfree _ _ hcall =>
    -- an ordinary publish begins when no other call is under way
    have hnone : s.calls = [] := hord
    have hone : s.calls.set i call = [(i, call)] := by rw [hnone]; rfl
    refine ⟨.inr ⟨i, call, hone⟩, fun j event' hcall' => ?_, hsolo.bounded⟩
    have hget : Dict.get? [(i, call)] j = some (.enqueueAgain event') := hone ▸ hcall'
    rw [Dict.get?_cons] at hget
    split at hget
    -- a call does not begin at `.enqueueAgain`
    · rw [hcall] at hget
      split at hget <;> cases hget
    · cases hget
  | queued i stored call event hcall hkind hfull =>
    -- the event fits, because the queue was not full
    refine hsolo.ended hcall rfl fun hpos => ?_
    have := full_eq_false.mp hfull hpos
    simp only [enqueue, List.length_append, List.length_singleton]
    omega
  | crowded i stored event hcall => exact hsolo.goesOn hcall rfl (fun _ h => by cases h) hsolo.bounded
  | oldestDropped i stored event oldest queue hcall hqueue =>
    -- dropping the oldest makes room
    have hlength : 0 < s.maxQueueSize → queue.length < s.maxQueueSize := by
      intro hpos
      have := hsolo.bounded hpos
      rw [hqueue, List.length_cons] at this
      omega
    exact hsolo.goesOn hcall rfl (fun _ _ => full_eq_false.mpr hlength)
      fun hpos => (hlength hpos).le
  | nothingDropped i stored event hcall hqueue =>
    -- an empty queue has room
    have hlength : 0 < s.maxQueueSize → s.publisher.queue.length < s.maxQueueSize := by
      rw [hqueue]
      exact id
    exact hsolo.goesOn hcall rfl (fun _ _ => full_eq_false.mpr hlength)
      fun hpos => (hlength hpos).le
  | overflowed i stored event hcall => exact hsolo.ended hcall rfl hsolo.bounded
  | bufferedCall i stored event hcall =>
    exact hsolo.ended hcall rfl (by simpa using hsolo.bounded)
  | storedTaken stored event => exact hsolo.shrink (by simp) (by simp) (by simp)
  | took event queue hpc hqueue => exact hsolo.shrink rfl rfl (by simp [hqueue])
  | session a p hqueue => exact hsolo.shrink rfl rfl (by rw [hqueue])
  | connect =>
    simp only [connect, triggerReplay]
    split
    · exact hsolo.shrink rfl rfl le_rfl
    · split <;> exact hsolo.shrink rfl rfl le_rfl
  | adopt c => exact hsolo.shrink rfl rfl (by simp)
  | flushDiscards accepted event queue hpc hqueue => exact hsolo.shrink rfl rfl (by simp [hqueue])
  | flushHands accepted event queue hpc hqueue =>
    exact hsolo.shrink rfl rfl (by simp [hqueue])
  | clearQueue => exact hord.elim
  | clearStorage => exact hord.elim
  | restart => exact hord.elim
  | idle | waits | discarded | forwarded | setAside | turns | fetched | fetchedNothing | examined
  | left | kept | deleted | stop | stopStorage | flushEnds => exact hsolo.shrink rfl rfl le_rfl

/-! ## The books of a run -/

/-- The books of a run that began with this buffer and claim. -/
structure Books (storage : List MqttEvent) (claimId : Json) (s : MqttThreads) : Prop where
  claim : s.publisher.claimId = claimId
  release : s.publisher.releaseInProgress = false
  solo : Solo s
  flushed : Flushed s
  passing : Passing s
  examined : ExaminedUnder claimId s
  tags : ∀ e ∈ s.front, e.claimId.eq claimId = true
  entries : ∀ t ∈ s.trace, t.Lossless claimId s.trace
  balance : (storage + s.trace.flatMap Transfer.incoming : Multiset MqttEvent) =
    s.front + s.publisher.storage + s.trace.flatMap Transfer.outgoing
  count : (s.trace.flatMap Transfer.counted).length ≤ s.droppedMessageCount

/-- And every step keeps the books. -/
theorem Books.step {storage : List MqttEvent} {claimId : Json} {a : Label}
    (hB : Books storage claimId s) (hord : Ordinary s a) (hdel : Delivers s a)
    (h : s.step a = some s') : Books storage claimId s' := by
  obtain ⟨hclaim, hrelease⟩ := step_calm hord hB.release h
  have htags : ∀ e ∈ s.front, e.claimId.eq s.publisher.claimId = true := hB.claim.symm ▸ hB.tags
  have hexamined : ExaminedUnder s.publisher.claimId s := hB.claim.symm ▸ hB.examined
  obtain ⟨es, hpost⟩ :=
    step_posting hB.solo hord hdel hB.release htags hB.passing hexamined h
  have hentries : ∀ t ∈ es, t.Lossless claimId s'.trace := hB.claim ▸ hpost.entries
  refine ⟨hclaim.trans hB.claim, hrelease, hB.solo.step hord h, hB.flushed.step hord hdel h,
    hB.passing.step h, hB.examined.step hB.claim h, fun e he => ?_, fun t ht => ?_, ?_, ?_⟩
  -- what is in front was there or is new
  · obtain he | he := hpost.front e he
    · exact hB.tags e he
    · exact hentries _ he
  -- the entries of the trace, old and new
  · rw [hpost.trace, List.mem_append] at ht
    obtain ht | ht := ht
    · exact hpost.trace ▸ (hB.entries t ht).mono es
    · exact hentries t ht
  · -- both sides grow by what the action enters
    have hsum := congrArg (· + (es.flatMap Transfer.incoming : Multiset MqttEvent)) hB.balance
    simp only [hpost.trace, List.flatMap_append, ← Multiset.coe_add] at hsum ⊢
    rw [← add_assoc, hsum, ← add_assoc, add_right_comm, ← hpost.balance, add_right_comm]
  -- the counter grows by at least what the step drops
  · have := hB.count
    have := hpost.count
    rw [hpost.trace, List.flatMap_append, List.length_append]
    omega

/-- No call of `publish` and no round of `_publish_loop` is under way, nor is `disconnect`. -/
structure AtRest (s : MqttThreads) : Prop where
  calls : s.calls = []
  publishLoop : s.publishLoop.event? = none
  shutdown : s.stopped = true → s.shutdown = .flushed

/-- Every message given to `publish`, and every buffered one of the claim, was sent, or counted as
    dropped, or is in the buffer or in the queue of a running publisher. -/
def Accounted (storage : List MqttEvent) (s : MqttThreads) : Prop :=
  (s.trace.flatMap Transfer.incoming +
      storage.filter fun e => e.claimId.eq s.publisher.claimId : Multiset MqttEvent) ≤
    s.trace.flatMap Transfer.sent + s.trace.flatMap Transfer.counted + s.publisher.storage +
      (if s.stopped then [] else s.publisher.queue : List MqttEvent) ∧
  (s.trace.flatMap Transfer.counted).length ≤ s.droppedMessageCount ∧
  ∀ e ∈ s.trace.flatMap Transfer.sent, ∃ consumer claimId,
    .handed consumer e claimId true ∈ s.trace

/-- The events that went out in all, by what became of them. -/
theorem outgoing_eq {claimId : Json} {trace whole : List Transfer}
    (h : ∀ t ∈ trace, t.Lossless claimId whole) :
    (trace.flatMap Transfer.outgoing : Multiset MqttEvent) =
      trace.flatMap Transfer.sent + trace.flatMap Transfer.counted +
        trace.flatMap Transfer.foreign := by
  induction trace with
  | nil => rfl
  | cons t trace ih =>
    simp only [List.flatMap_cons, ← Multiset.coe_add]
    rw [ih fun t' ht' => h t' (List.mem_cons_of_mem t ht'),
      (h t List.mem_cons_self).outgoing]
    abel

/-- At rest the books are balanced. -/
theorem Books.balanced {storage : List MqttEvent} {claimId : Json}
    (hB : Books storage claimId s) (hrest : AtRest s) : Accounted storage s := by
  have hsent : ∀ e ∈ s.trace.flatMap Transfer.sent, ∃ consumer claimId,
      .handed consumer e claimId true ∈ s.trace := by
    intro e he
    obtain ⟨t, ht, het⟩ := List.mem_flatMap.mp he
    exact (hB.entries t ht).handed ht het
  refine ⟨?_, hB.count, hsent⟩
  -- at rest the front is the queue
  obtain rfl := hB.claim
  have hfront : s.front = s.publisher.queue := by
    simp [front, hrest.calls, hrest.publishLoop]
  have hqueue : (if s.stopped then [] else s.publisher.queue) = s.publisher.queue := by
    -- a stopped publisher at rest has flushed, so its queue is empty
    cases hstopped : s.stopped with
    | false => rfl
    | true => exact (hB.flushed (hrest.shutdown hstopped)).symm
  let tagged : MqttEvent → Prop := fun e => e.claimId.eq s.publisher.claimId = true
  -- the messages of the claim on both sides of the balance
  have hincoming : Multiset.filter tagged (s.trace.flatMap Transfer.incoming) =
      s.trace.flatMap Transfer.incoming := by
    refine Multiset.filter_eq_self.mpr fun e he => ?_
    obtain ⟨t, ht, het⟩ := List.mem_flatMap.mp (Multiset.mem_coe.mp he)
    -- only a published message comes in, and it is tagged with the claim
    cases t with
    | published event =>
      obtain rfl := List.mem_singleton.mp het
      exact hB.entries _ ht
    | handed | discarded | dropped | deleted => cases het
  have hforeign : Multiset.filter tagged (s.trace.flatMap Transfer.foreign) = 0 := by
    refine Multiset.filter_eq_nil.mpr fun e he => ?_
    obtain ⟨t, ht, het⟩ := List.mem_flatMap.mp (Multiset.mem_coe.mp he)
    -- a foreign one is not
    exact Bool.eq_false_iff.mp ((hB.entries t ht).foreign het)
  have hbalance := congrArg (Multiset.filter tagged) hB.balance
  rw [hfront, outgoing_eq hB.entries, ← add_assoc, Multiset.filter_add, hincoming,
    Multiset.filter_add _ _ (_ : Multiset MqttEvent), hforeign, add_zero] at hbalance
  rw [hqueue]
  -- drop the other claims from the balance and rearrange
  calc (s.trace.flatMap Transfer.incoming +
        storage.filter fun e => e.claimId.eq s.publisher.claimId : Multiset MqttEvent)
      = Multiset.filter tagged storage + s.trace.flatMap Transfer.incoming := by
        rw [add_comm, Multiset.filter_coe]
        congr 2
        exact List.filter_congr fun e _ => by simp [tagged]
    _ = _ := hbalance
    _ ≤ _ := Multiset.filter_le _ _
    _ = _ := by abel

end MqttThreads

end Novena

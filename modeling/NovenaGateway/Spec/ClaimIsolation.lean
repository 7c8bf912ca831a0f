import NovenaGateway.Spec.ReleaseState
import NovenaGateway.Spec.RemoteLog
import NovenaGateway.Spec.SiteData

/-!
# Site data and the claim it is published under

A sample and a log record get the claim of the publisher when they are published, and may have been
made under another one. A change of the claim replaces the queue of samples and stops the
connectors, but not a sample the loop holds or one that comes late, and it leaves the log alone.
`SiteData.published_own` says what has to be true when the claim changes, when a connector starts and
when a sample comes in.

Key results:
- `SiteData.made_of`
- `SiteData.Isolated.step`
- `SiteData.published_own`
- `SiteData.foreign_published`
-/

namespace Novena

/-- `c` is the claim the publisher tags with, if it has one. -/
def OwnClaim (claimId c : Json) : Prop := claimId.truthy = true → c = claimId

namespace MqttPublisher

/-- What is tagged is tagged with the publisher's claim. -/
theorem withClaimId_claim {p : MqttPublisher} {payload : Dict String Json} {topic : String}
    {x : Json} (hfree : payload.get? "claim_id" = none)
    (h : (p.withClaimId payload topic).get? "claim_id" = some x) :
    p.claimId.truthy = true ∧ x = p.claimId := by
  unfold withClaimId at h
  split at h
  · next htags =>
    rw [Dict.get?_set_self] at h
    exact ⟨(Bool.and_eq_true _ _ ▸ htags).1, (Option.some.inj h).symm⟩
  · cases hfree.symm.trans h

end MqttPublisher

namespace PayloadFormatter

/-- The device id brings no claim id. -/
theorem withDeviceId_claim {data : ConvertedData} {payload : Dict String Json}
    (h : payload.get? "claim_id" = none) : (withDeviceId data payload).get? "claim_id" = none := by
  unfold withDeviceId
  split
  · rw [Dict.get?_set_ne _ _ (by decide)]
    exact h
  · exact h

/-- The formatter names no claim. -/
theorem format_claim {serialNumber : Json} {data : ConvertedData} {payload : Dict String Json}
    (h : payload ∈ format serialNumber data) : payload.get? "claim_id" = none := by
  unfold format at h
  obtain h | h := List.mem_append.mp h
  · obtain ⟨entry, _, rfl⟩ := List.mem_map.mp h
    exact withDeviceId_claim rfl
  · split at h
    · cases h
    · rw [List.mem_singleton.mp h]
      exact withDeviceId_claim rfl

end PayloadFormatter

namespace Published

def payload : Published → Dict String Json
  | telemetry _ payload | logs _ payload => payload

/-- The claims under which its content was made. -/
def claims : Published → List Json
  | telemetry sample _ => [sample.claimId]
  | logs batch _ => batch.flatMap LogEntry.claims

/-- The payload before it was tagged. -/
def content : Published → Dict String Json → Prop
  | telemetry sample _, q => ∃ serialNumber, q ∈ PayloadFormatter.format serialNumber sample.data
  | logs batch _, q => ∃ serialNumber ts, q = RemoteLogHandler.payload serialNumber ts batch

/-- It is tagged with a claim only when all of it was made under that claim. -/
def OfClaim (t : Published) : Prop :=
  ∀ x, t.payload.get? "claim_id" = some x → ∀ c ∈ t.claims, c = x

/-- What is published has a claim id only from the publisher. -/
theorem content_claim {t : Published} {q : Dict String Json} (h : t.content q) :
    q.get? "claim_id" = none := by
  cases t with
  | telemetry sample payload =>
    obtain ⟨_, hq⟩ := h
    exact PayloadFormatter.format_claim hq
  | logs batch payload =>
    obtain ⟨_, _, rfl⟩ := h
    rfl

/-- What was made under the publisher's own claim may be tagged by it. -/
theorem OfClaim.of_own {p : MqttPublisher} {t : Published} {q : Dict String Json} {topic : String}
    (hcontent : t.content q) (hpayload : t.payload = p.withClaimId q topic)
    (hown : ∀ c ∈ t.claims, OwnClaim p.claimId c) : t.OfClaim := by
  intro x hx c hc
  rw [hpayload] at hx
  obtain ⟨htruthy, rfl⟩ := MqttPublisher.withClaimId_claim (content_claim hcontent) hx
  exact hown c hc htruthy

end Published

namespace DataLoop

/-- The sample the loop has taken from the queue, before it has the lock. -/
def held? : DataLoop → Option Sample
  | holding sample => some sample
  | _ => none

/-- The sample it publishes. -/
def published? : DataLoop → Option Sample
  | publishing sample .. => some sample
  | _ => none

/-- What is left of a sample holds none. -/
@[simp] theorem held?_rest (sample : Sample) (payloads : List (Dict String Json)) :
    (rest sample payloads).held? = none := by
  cases payloads <;> rfl

/-- And it publishes only that sample. -/
theorem published?_rest {sample x : Sample} {payloads : List (Dict String Json)}
    (h : (rest sample payloads).published? = some x) : x = sample := by
  cases payloads with
  | nil => cases h
  | cons => exact (Option.some.inj h).symm

end DataLoop

namespace SiteData

variable {host : Host} {v : ReleaseVerifier} {s s' : SiteData}

/-- The claim of the publisher. -/
def claimId (s : SiteData) : Json := s.gateway.publisher.claimId

/-- The samples that have not got as far as the lock. -/
def waiting (s : SiteData) : List Sample := s.dataLoop.held?.toList ++ s.dataQueue

/-- What may yet be published was made under a claim with `P`. A sample that waits is not published
    while no connector runs. -/
structure Made (P : Json → Prop) (s : SiteData) : Prop where
  log : s.logHandler.Holds P
  flushes : ∀ f ∈ s.flushes, ∀ batch ∈ f.2, ∀ e ∈ batch, ∀ c ∈ e.claims, P c
  waiting : s.gateway.connectors ≠ [] → ∀ x ∈ s.waiting, P x.claimId
  published : ∀ x, s.dataLoop.published? = some x → P x.claimId

/-- The condition the code does not see to. When the claim changes, what may yet be published was
    made under the new one; a connector starts when every sample that waits is the claim's own; and
    so is a sample that comes in while one runs. -/
def Separates (s : SiteData) : Label → Prop
  | .network => ∀ c network, s.network = .adopt c :: network → c.claims = true →
      c.claimId ≠ s.claimId → Made (· = c.claimId) s
  | .startConnector _ => ∀ x ∈ s.waiting, OwnClaim s.claimId x.claimId
  | .sendToStorage i => s.gateway.connectors ≠ [] → ∀ x, s.samples[i]? = some x →
      OwnClaim s.claimId x.claimId
  | _ => True

/-! ## What an action does to the data -/

/-- No data moves on, though some may be dropped. -/
structure Quiet (s s' : SiteData) : Prop where
  connectors : s'.gateway.connectors ≠ [] → s.gateway.connectors ≠ []
  queue : ∀ x ∈ s'.dataQueue, x ∈ s.dataQueue
  loop : s'.dataLoop = s.dataLoop ∨ s'.dataLoop = .idle
  log : ∀ P, s.logHandler.Holds P → s'.logHandler.Holds P
  flushes : ∀ f ∈ s'.flushes, ∀ batch ∈ f.2, ∃ f' ∈ s.flushes, batch ∈ f'.2
  trace : s'.trace = s.trace

/-- Every action of a thread is one of these. -/
inductive Moves (s : SiteData) : Label → SiteData → Prop where
  | quiet {s' : SiteData} (a : Label) (hquiet : Quiet s s')
      (hclaim : s'.claimId = s.claimId ∨ s'.claimId.truthy = false) : Moves s a s'
  | adopts {s' : SiteData} (c : Provision.Credentials) (network : List NetworkStep)
      (hquiet : Quiet s s') (hnext : s.network = .adopt c :: network) (hclaims : c.claims = true)
      (hclaim : s'.claimId = c.claimId) : Moves s .network s'
  | starts (name : Json) : Moves s (.startConnector name)
      { s with gateway.connectors := s.gateway.connectors ++ [name] }
  | comesIn (i : Nat) (x : Sample) (hx : s.samples[i]? = some x) : Moves s (.sendToStorage i)
      { s with samples := s.samples.eraseIdx i, dataQueue := s.dataQueue ++ [x] }
  | takes (x : Sample) (dataQueue : List Sample) (hloop : s.dataLoop = .idle)
      (hqueue : s.dataQueue = x :: dataQueue) : Moves s .dequeue
      { s with dataQueue, dataLoop := .holding x }
  | formats (x : Sample) (serialNumber : Json) (hloop : s.dataLoop = .holding x)
      (hruns : s.gateway.connectors ≠ []) : Moves s .process
      { s with dataLoop := .rest x (PayloadFormatter.format serialNumber x.data) }
  | publishes (full : Bool) (topic : String) (x : Sample) (payload : Dict String Json)
      (payloads : List (Dict String Json)) (hloop : s.dataLoop = .publishing x payload payloads) :
      Moves s (.publishNext (some full))
        { s.publish payload topic full (.telemetry x) with dataLoop := .rest x payloads }
  | emits (record : LogRecord) (now wall : Int) : Moves s (.emit record now wall)
      { s with logHandler := s.logHandler.emit { record with claimId := s.claimId } now wall }
  | gathers (i : Nat) (now wall : Int) : Moves s (.flush i now wall)
      { s with
        logHandler := (s.logHandler.flush now wall).2
        flushes := s.flushes.set i (s.logHandler.flush now wall).1 }
  | publishesBatch (i : Nat) (ts : Int) (full : Bool) (serialNumber : Json) (topic : String)
      (batch : List LogEntry) (batches : List (List LogEntry))
      (hflush : s.flushes.get? i = some (batch :: batches)) :
      Moves s (.publishBatch i ts (some full))
        { s.publish (RemoteLogHandler.payload serialNumber ts batch) topic full (.logs batch) with
          flushes := s.flushes.set i batches }

/-- Nothing happens. -/
theorem Quiet.refl (s : SiteData) : Quiet s s :=
  ⟨id, fun _ hx => hx, .inl rfl, fun _ hP => hP, fun f hf _ hb => ⟨f, hf, hb⟩, rfl⟩

/-- The publisher, the files and the configuration change, and connectors are stopped. -/
theorem Quiet.gateway (gateway : NovenaGateway)
    (hconnectors : gateway.connectors ≠ [] → s.gateway.connectors ≠ []) :
    Quiet s { s with gateway } :=
  { Quiet.refl s with connectors := hconnectors }

/-- A step that keeps the claim and starts no connector. -/
def Tame (step : Step NovenaGateway) : Prop :=
  ∀ g, ((step.run g).connectors ≠ [] → g.connectors ≠ []) ∧
    (step.run g).publisher.claimId = g.publisher.claimId

/-- Tame steps start no connector and keep the claim. -/
theorem perform_tame {steps : List (Step NovenaGateway)} (h : ∀ step ∈ steps, Tame step)
    (g : NovenaGateway) (n : Nat) :
    ((Step.perform (steps.take n) g).connectors ≠ [] → g.connectors ≠ []) ∧
      (Step.perform (steps.take n) g).publisher.claimId = g.publisher.claimId := by
  refine Step.perform_invariant (I := fun g' : NovenaGateway =>
    (g'.connectors ≠ [] → g.connectors ≠ []) ∧ g'.publisher.claimId = g.publisher.claimId)
    (fun step hmem g' hg' => ?_) ⟨id, rfl⟩ n
  obtain ⟨hconnectors, hclaim⟩ := h step hmem g'
  exact ⟨fun hruns => hg'.1 (hconnectors hruns), hclaim.trans hg'.2⟩

/-- Two network steps change the claim. -/
theorem steps_tame {next : NetworkStep} (hadopt : ∀ c, next ≠ .adopt c)
    (hretire : next ≠ .retire) : ∀ step ∈ next.steps, Tame step := by
  cases next with
  | adopt c => exact absurd rfl (hadopt c)
  | retire => exact absurd rfl hretire
  -- a connection attempt changes the session at most
  | connected result =>
    rw [NetworkStep.steps, List.forall_mem_singleton]
    intro g
    cases result with
    | accepted => exact ⟨id, rfl⟩
    | notAuthorized | refused => exact ⟨id, (MqttPublisher.connectionFailed_keeps _).claimId⟩
  -- the first step of the reset empties the connectors, the others keep them
  | reset config =>
    simp only [NetworkStep.steps, NovenaGateway.resetFieldState, List.forall_mem_cons]
    exact ⟨fun _ => ⟨fun h => absurd rfl h, rfl⟩, fun _ => ⟨id, rfl⟩, fun _ => ⟨id, rfl⟩,
      fun _ => ⟨id, rfl⟩, fun _ => ⟨id, rfl⟩, fun _ => ⟨id, rfl⟩, fun _ h => by cases h⟩
  -- the journal is not the gateway's state here
  | resetJournal =>
    simp only [NetworkStep.steps, List.forall_mem_cons]
    exact ⟨fun _ => ⟨id, rfl⟩, fun _ => ⟨id, rfl⟩, fun _ h => by cases h⟩
  -- one step, which leaves connectors and claim alone
  | write | beginRelease | clearQueue | clearStorage | hold | endRelease =>
    rw [NetworkStep.steps, List.forall_mem_singleton]
    exact fun _ => ⟨id, rfl⟩

/-- A network step starts no connector, and changes the claim only to give it up or to adopt the
    one of a message. -/
theorem perform_steps (next : NetworkStep) (g : NovenaGateway) (n : Nat) :
    ((Step.perform (next.steps.take n) g).connectors ≠ [] → g.connectors ≠ []) ∧
      ((Step.perform (next.steps.take n) g).publisher.claimId = g.publisher.claimId ∨
        (Step.perform (next.steps.take n) g).publisher.claimId.truthy = false ∨
        ∃ c, next = .adopt c ∧ c.claims = true ∧
          (Step.perform (next.steps.take n) g).publisher.claimId = c.claimId) := by
  by_cases hadopt : ∃ c, next = .adopt c
  · obtain ⟨c, rfl⟩ := hadopt
    -- the adoption is a single step: nothing has happened, or all of it
    cases n with
    | zero => exact ⟨id, .inl rfl⟩
    | succ n =>
      simp only [NetworkStep.steps, List.take_succ_cons, List.take_nil, Step.perform_cons,
        Step.perform_nil, Provision.Credentials.adopt]
      cases hclaims : c.claims with
      -- credentials without a claim change none
      | false => exact ⟨id, .inl rfl⟩
      | true => exact ⟨id, .inr (.inr ⟨c, rfl, hclaims, rfl⟩)⟩
  by_cases hretire : next = .retire
  · subst hretire
    -- retiring is one step too, and clears the claim
    cases n with
    | zero => exact ⟨id, .inl rfl⟩
    | succ n =>
      simp only [NetworkStep.steps, List.take_succ_cons, List.take_nil, Step.perform_cons,
        Step.perform_nil]
      exact ⟨id, .inr (.inl rfl)⟩
  -- no other network step is about connectors or claim
  · have htame := steps_tame (fun c h => hadopt ⟨c, h⟩) hretire
    exact ⟨(perform_tame htame g n).1, .inl (perform_tame htame g n).2⟩

/-- What `carryOut` leaves moves no data. -/
theorem carryOut_quiet (next : NetworkStep) (n : Nat) (network : List NetworkStep) :
    Quiet s { s.carryOut next (next.steps.take n) with network } := by
  refine { Quiet.refl s with connectors := (perform_steps next s.gateway n).1, queue := ?_ }
  intro x hx
  simp only [carryOut] at hx
  split at hx
  · cases hx
  · exact hx

/-- `__read_data_from_storage` takes the oldest sample when it holds none. -/
private theorem dequeue_moves (h : s.dequeue = some s') : Moves s .dequeue s' := by
  simp only [dequeue] at h
  split at h
  · next x dataQueue hloop hqueue =>
    obtain rfl := Option.some.inj h
    exact .takes x dataQueue hloop hqueue
  · cases h

/-- The sample it holds is formatted while a connector runs, and dropped otherwise. -/
private theorem process_moves (h : s.process = some s') : Moves s .process s' := by
  simp only [process] at h
  split at h
  · next x hloop =>
    split at h
    · obtain rfl := Option.some.inj h
      exact .quiet _ { Quiet.refl s with loop := .inr rfl } (.inl rfl)
    · next hruns =>
      obtain rfl := Option.some.inj h
      exact .formats x _ hloop (by simpa using hruns)
  · cases h

/-- The payloads of a sample are published one by one; an exception drops the rest of them. -/
private theorem publishNext_moves {full : Option Bool} (h : s.publishNext full = some s') :
    Moves s (.publishNext full) s' := by
  simp only [publishNext] at h
  split at h
  · next x payload payloads hloop =>
    cases full with
    | none =>
      obtain rfl := Option.some.inj h
      exact .quiet _ { Quiet.refl s with loop := .inr rfl } (.inl rfl)
    | some full =>
      obtain rfl := Option.some.inj h
      exact .publishes full _ x payload payloads hloop
  · cases h

/-- A flush empties the buffer of the handler into batches. -/
private theorem flush_moves {i : Nat} {now wall : Int} (h : s.flush i now wall = some s') :
    Moves s (.flush i now wall) s' := by
  simp only [SiteData.flush] at h
  split at h
  · cases h
  · obtain rfl := Option.some.inj h
    exact .gathers i now wall

/-- The batches of a flush are published one by one; the flush is over after the last of them. -/
private theorem publishBatch_moves {i : Nat} {ts : Int} {full : Option Bool}
    (h : s.publishBatch i ts full = some s') : Moves s (.publishBatch i ts full) s' := by
  simp only [publishBatch] at h
  split at h
  -- the first batch of the flush goes out
  · next batch batches hflush =>
    cases full with
    | none =>
      -- the batch that raised is gone, the others stay
      obtain rfl := Option.some.inj h
      refine .quiet _ { Quiet.refl s with flushes := fun f hf b hb => ?_ } (.inl rfl)
      obtain rfl | hf := Dict.mem_set hf
      · exact ⟨_, Dict.mem_of_get? hflush, List.mem_cons_of_mem _ hb⟩
      · exact ⟨f, hf, hb⟩
    | some full =>
      obtain rfl := Option.some.inj h
      exact .publishesBatch i ts full _ _ batch batches hflush
  -- the batches have run out, so the flush ends
  · obtain rfl := Option.some.inj h
    refine .quiet _ { Quiet.refl s with flushes := fun f hf b hb => ?_ } (.inl rfl)
    exact ⟨f, List.mem_of_mem_filter hf, hb⟩
  · cases h

/-- A message of the network thread only plans what the thread does next. -/
private theorem receive_quiet {steps : List NetworkStep} (h : s.receive steps = some s') :
    Quiet s s' ∧ s'.gateway = s.gateway := by
  simp only [receive] at h
  split at h
  · obtain rfl := Option.some.inj h
    exact ⟨{ Quiet.refl s with }, rfl⟩
  · cases h

/-- A configuration update leaves the claim alone. -/
private theorem configUpdate_moves {cfg : GuardConfig} {clock : Clock} {payload : Json}
    {outcomes rollbackOutcomes : Nat → StartOutcome}
    (h : step host v s (.configUpdate cfg clock payload outcomes rollbackOutcomes) = some s') :
    Moves s (.configUpdate cfg clock payload outcomes rollbackOutcomes) s' := by
  obtain ⟨s₁, hreceive, rfl⟩ := Option.map_eq_some_iff.mp h
  obtain ⟨hquiet, hgateway⟩ := receive_quiet hreceive
  refine .quiet _ { hquiet with } (.inl ?_)
  simp only [claimId, hgateway]
  obtain hsame | ⟨_, _, _, _, _, _, _, _, hupdated, _⟩ :=
    RemoteConfigHandler.onConfigUpdate_cases host cfg s.gateway clock payload outcomes
      rollbackOutcomes
  · rw [hsame]
  · rw [hupdated]

/-- The next network step is carried out whole. -/
private theorem network_moves (h : s.advance = some s') : Moves s .network s' := by
  simp only [advance] at h
  split at h
  · cases h
  · next next network hnext =>
    split at h
    -- the next step has to wait
    · cases h
    · obtain rfl := Option.some.inj h
      have hquiet := carryOut_quiet (s := s) next next.steps.length network
      rw [List.take_length] at hquiet
      -- all its steps are done, and the claim is the one before, none, or the adopted one
      obtain ⟨_, hclaim | hclaim | ⟨c, rfl, hclaims, hclaim⟩⟩ :=
        perform_steps next s.gateway next.steps.length
      · exact .quiet _ hquiet (.inl (by rwa [List.take_length] at hclaim))
      · exact .quiet _ hquiet (.inr (by rwa [List.take_length] at hclaim))
      · exact .adopts c network hquiet hnext hclaims (by rwa [List.take_length] at hclaim)

/-- Or it raises after some of its parts. -/
private theorem networkRaises_moves {n : Nat} (h : s.advanceRaises n = some s') :
    Moves s (.networkRaises n) s' := by
  simp only [advanceRaises] at h
  split at h
  · cases h
  · next next network hnext =>
    split at h
    · cases h
    split at h
    · next hraises =>
      obtain rfl := Option.some.inj h
      -- only the first `n` steps are done
      have hquiet := carryOut_quiet (s := s) next n (network.filter NetworkStep.closes)
      obtain ⟨_, hclaim | hclaim | ⟨c, rfl, _, _⟩⟩ := perform_steps next s.gateway n
      · exact .quiet _ hquiet (.inl hclaim)
      · exact .quiet _ hquiet (.inr hclaim)
      · -- the adoption of a claim raises nothing
        obtain ⟨step, hstep, hfallible⟩ := hraises
        obtain rfl := List.mem_singleton.mp (List.mem_of_getElem? hstep)
        cases hfallible
    · cases h

/-- Every step of the site is one of the moves. -/
theorem step_moves {a : Label} (h : step host v s a = some s') : Moves s a s' := by
  cases a with
  | poll connector data =>
    obtain rfl := Option.some.inj h
    exact .quiet _ { Quiet.refl s with } (.inl rfl)
  | sendToStorage i =>
    -- a connector fills its queue, or there is no such connector
    obtain ⟨x, hx, rfl⟩ := Option.map_eq_some_iff.mp h
    exact .comesIn i x hx
  | dequeue => exact dequeue_moves h
  | process => exact process_moves h
  | publishNext full => exact publishNext_moves h
  | emit record now wall =>
    obtain rfl := Option.some.inj h
    exact .emits record now wall
  | flush i now wall => exact flush_moves h
  | publishBatch i ts full => exact publishBatch_moves h
  | stopLogs =>
    obtain rfl := Option.some.inj h
    exact .quiet _ { Quiet.refl s with log := fun _ hP => ⟨hP.buffer, hP.lines⟩ } (.inl rfl)
  -- the message is queued for the network thread
  | provision now payload | connect result =>
    obtain ⟨hquiet, hgateway⟩ := receive_quiet h
    exact .quiet _ hquiet (.inl (by rw [claimId, hgateway, claimId]))
  -- the connection is lost
  | disconnect clean =>
    obtain ⟨s₁, hreceive, rfl⟩ := Option.map_eq_some_iff.mp h
    obtain ⟨hquiet, hgateway⟩ := receive_quiet hreceive
    refine .quiet _ { hquiet with } (.inl ?_)
    simp only [claimId, hgateway, (MqttPublisher.onDisconnect_keeps _ _).claimId]
  | configUpdate => exact configUpdate_moves h
  | network => exact network_moves h
  | networkRaises n => exact networkRaises_moves h
  -- stopping takes connectors away
  | stopConnectors =>
    obtain rfl := Option.some.inj h
    exact .quiet _ (.gateway _ fun hruns => absurd rfl hruns) (.inl rfl)
  | stopConnector i =>
    obtain rfl := Option.some.inj h
    -- a connector less
    refine .quiet _ (.gateway _ fun hruns hnone => hruns ?_) (.inl rfl)
    simp [hnone]
  | startConnector name =>
    obtain rfl := Option.some.inj h
    exact .starts name
  -- the loops of the publisher keep its claim
  | publishLoop accepted =>
    obtain rfl := Option.some.inj h
    exact .quiet _ (.gateway _ id) (.inl (MqttPublisher.publishLoop_keeps _ _).claimId)
  | replayed n =>
    obtain rfl := Option.some.inj h
    exact .quiet _ (.gateway _ id) (.inl (MqttPublisher.replayed_keeps _ _).claimId)

/-! ## What is published -/

/-- What is published comes from its sample or from its batch of entries. -/
structure Sourced (s : SiteData) : Prop where
  loop : ∀ x payload payloads, s.dataLoop = .publishing x payload payloads →
    ∀ q ∈ payload :: payloads, ∃ serialNumber, q ∈ PayloadFormatter.format serialNumber x.data
  trace : ∀ t ∈ s.trace, ∃ (p : MqttPublisher) (q : Dict String Json) (topic : String),
    t.content q ∧ t.payload = p.withClaimId q topic

/-- A publication adds at most one message, with the claim of that moment. -/
theorem mem_publish_trace {payload : Dict String Json} {topic : String} (full : Bool)
    {published : Dict String Json → Published} {t : Published}
    (ht : t ∈ (s.publish payload topic full published).trace) :
    t ∈ s.trace ∨ t = published (s.gateway.publisher.withClaimId payload topic) := by
  simp only [publish] at ht
  split at ht
  · exact .inl ht
  · exact (List.mem_append.mp ht).imp_right List.mem_singleton.mp

/-- A sample is published payload by payload. -/
theorem rest_publishing {x x' : Sample} {payload : Dict String Json}
    {payloads payloads' : List (Dict String Json)}
    (h : DataLoop.rest x payloads' = .publishing x' payload payloads) :
    x' = x ∧ payloads' = payload :: payloads := by
  cases payloads' with
  | nil => cases h
  | cons q qs =>
    simp only [DataLoop.rest, DataLoop.publishing.injEq] at h
    obtain ⟨rfl, rfl, rfl⟩ := h
    exact ⟨rfl, rfl⟩

/-- Every step keeps the samples those that were taken. -/
theorem Sourced.step {a : Label} (hS : Sourced s) (h : s.step host v a = some s') :
    Sourced s' := by
  cases step_moves h with
  | quiet _ hquiet | adopts _ _ hquiet =>
    refine ⟨fun x payload payloads hloop => ?_, hquiet.trace ▸ hS.trace⟩
    -- an action that goes no further in the loop has the sample it had
    obtain hsame | hidle := hquiet.loop
    · exact hS.loop x payload payloads (hsame ▸ hloop)
    -- or dropped it
    · cases hidle.symm.trans hloop
  | starts | comesIn | emits | gathers => exact ⟨hS.loop, hS.trace⟩
  | takes => exact ⟨(fun _ _ _ h => by cases h), hS.trace⟩
  | formats x serialNumber =>
    refine ⟨fun x' payload payloads hloop q hq => ?_, hS.trace⟩
    -- the payloads are those the formatter just made
    obtain ⟨rfl, hpayloads⟩ := rest_publishing hloop
    exact ⟨serialNumber, hpayloads ▸ hq⟩
  | publishes full topic x payload payloads hloop =>
    refine ⟨fun x' payload' payloads' hloop' q hq => ?_, fun t ht => ?_⟩
    -- what is left to publish was there before
    · obtain ⟨rfl, hpayloads⟩ := rest_publishing hloop'
      exact hS.loop _ _ _ hloop q (List.mem_cons_of_mem _ (hpayloads ▸ hq))
    -- what is published now stood in the loop
    · obtain ht | rfl := mem_publish_trace full ht
      · exact hS.trace t ht
      · exact ⟨_, payload, topic, hS.loop x payload payloads hloop payload List.mem_cons_self, rfl⟩
  | publishesBatch i ts full serialNumber topic batch batches hflush =>
    refine ⟨hS.loop, fun t ht => ?_⟩
    -- as with the payloads: the batch was gathered under its serial number
    obtain ht | rfl := mem_publish_trace full ht
    · exact hS.trace t ht
    · exact ⟨_, _, topic, ⟨serialNumber, ts, rfl⟩, rfl⟩

/-- After the start none was taken. -/
theorem Booted.sourced (h : Booted host s) : Sourced s := by
  obtain ⟨_, _, _, _, _, rfl⟩ := h
  exact ⟨(fun _ _ _ h => by cases h), (fun _ h => by cases h)⟩

/-- In every run every published payload is made of its sample, or of its entries, and of a claim. -/
theorem made_of {labels : List Label} (hboot : Booted host s)
    (h : exec host v s labels = some s') : ∀ t ∈ s'.trace,
    ∃ (p : MqttPublisher) (q : Dict String Json) (topic : String),
      t.content q ∧ t.payload = p.withClaimId q topic :=
  (Run.exec_invariant' (fun _ _ _ hS hstep => hS.step hstep) hboot.sourced h).trace

/-! ## Isolation -/

/-- What is true of the claims of the log is so for a weaker property. -/
theorem Made.imp {P Q : Json → Prop} (hM : Made P s) (hPQ : ∀ c, P c → Q c) : Made Q s :=
  ⟨hM.log.imp hPQ, fun f hf b hb e he c hc => hPQ c (hM.flushes f hf b hb e he c hc),
    fun hruns x hx => hPQ _ (hM.waiting hruns x hx), fun x hx => hPQ _ (hM.published x hx)⟩

/-- A quiet step leaves the log as it is. -/
theorem Made.quiet {P : Json → Prop} (hM : Made P s) (hquiet : Quiet s s') : Made P s' where
  log := hquiet.log P hM.log
  flushes := by
    intro f hf batch hbatch
    -- what is flushed after a quiet step was before
    obtain ⟨f', hf', hbatch'⟩ := hquiet.flushes f hf batch hbatch
    exact hM.flushes f' hf' batch hbatch'
  waiting := by
    intro hruns x hx
    refine hM.waiting (hquiet.connectors hruns) x ?_
    simp only [SiteData.waiting] at hx ⊢
    -- what waits in the loop is the same, or nothing
    obtain hx | hx := List.mem_append.mp hx
    · obtain hsame | hidle := hquiet.loop
      · exact List.mem_append_left _ (hsame ▸ hx)
      · rw [hidle] at hx
        cases hx
    -- what waits in the queue was there
    · exact List.mem_append_right _ (hquiet.queue x hx)
  published := by
    intro x hx
    obtain hsame | hidle := hquiet.loop
    · exact hM.published x (hsame ▸ hx)
    · rw [hidle] at hx
      cases hx

/-- Everything that may yet be published is the claim's own, and so was everything that was. -/
structure Isolated (s : SiteData) : Prop where
  made : Made (OwnClaim s.claimId) s
  sourced : Sourced s
  trace : ∀ t ∈ s.trace, t.OfClaim

/-- A publication keeps the claim. -/
theorem publish_claimId (payload : Dict String Json) (topic : String) (full : Bool)
    (published : Dict String Json → Published) :
    (s.publish payload topic full published).claimId = s.claimId :=
  (MqttPublisher.publish_keeps s.gateway.publisher payload topic full).claimId

/-- A publication tags what is the claim's own. -/
theorem Isolated.published (hI : Isolated s) {q : Dict String Json} {topic : String} (full : Bool)
    (published : Dict String Json → Published) {t : Published}
    (hcontent : ∀ payload, (published payload).content q)
    (hpayload : ∀ payload, (published payload).payload = payload)
    (hown : ∀ payload, ∀ c ∈ (published payload).claims, OwnClaim s.claimId c)
    (ht : t ∈ (s.publish q topic full published).trace) : t.OfClaim := by
  obtain ht | rfl := mem_publish_trace full ht
  · exact hI.trace t ht
  · exact .of_own (hcontent _) (hpayload _) (hown _)

/-- Every step that separates the claims keeps them apart. -/
theorem Isolated.step {a : Label} (hI : Isolated s) (ha : Separates s a)
    (h : s.step host v a = some s') : Isolated s' := by
  have hS := hI.sourced.step h
  have hM := hI.made
  cases step_moves h with
  | quiet _ hquiet hclaim =>
    -- the claim stays, or there is none and nothing is asked
    refine ⟨(hM.quiet hquiet).imp fun c hc => ?_, hS, hquiet.trace ▸ hI.trace⟩
    obtain hsame | hnone := hclaim
    · rwa [hsame]
    · exact fun htruthy => by cases hnone.symm.trans htruthy
  | adopts c network hquiet hnext hclaims hclaim =>
    refine ⟨?_, hS, hquiet.trace ▸ hI.trace⟩
    -- an adoption of the claim the gateway has
    by_cases hsame : c.claimId = s.claimId
    · rw [hclaim, hsame]
      exact hM.quiet hquiet
    -- of another one: the hypothesis says that nothing of the old claim waits
    · have hnew := (ha c network hnext hclaims hsame).quiet hquiet
      rw [hclaim]
      exact hnew.imp fun _ hc _ => hc
  -- a connector starts, and the hypothesis says what its samples carry
  | starts name => exact ⟨{ hM with waiting := fun _ => ha }, hS, hI.trace⟩
  | comesIn i x hx =>
    refine ⟨{ hM with waiting := fun hruns y hy => ?_ }, hS, hI.trace⟩
    simp only [waiting, ← List.append_assoc] at hy
    -- the new sample stands at the end of the queue
    obtain hy | hy := List.mem_append.mp hy
    · exact hM.waiting hruns y hy
    · rw [List.mem_singleton.mp hy]
      exact ha hruns x hx
  | takes x dataQueue hloop hqueue =>
    refine ⟨{ hM with waiting := fun hruns y hy => ?_, published := fun _ h => by cases h }, hS, hI.trace⟩
    -- the sample moves from the queue into the loop
    refine hM.waiting hruns y ?_
    simp only [waiting, DataLoop.held?, hloop, hqueue] at hy ⊢
    exact hy
  | formats x serialNumber hloop hruns =>
    -- the sample in the loop was made under the present claim
    have hx : OwnClaim s.claimId x.claimId :=
      hM.waiting hruns x (by simp [waiting, DataLoop.held?, hloop])
    refine ⟨{ hM with waiting := fun _ y hy => ?_, published := fun y hy => ?_ }, hS, hI.trace⟩
    · refine hM.waiting hruns y ?_
      simp only [waiting, DataLoop.held?_rest, Option.toList_none, List.nil_append] at hy
      exact List.mem_append_right _ hy
    -- and it is the one published next
    · rw [DataLoop.published?_rest hy]
      exact hx
  | publishes full topic x payload payloads hloop =>
    -- what is published is of the present claim
    have hx : OwnClaim s.claimId x.claimId :=
      hM.published x (by rw [hloop]; rfl)
    refine ⟨?_, hS, fun t ht => ?_⟩
    -- publishing leaves the claim
    · have hclaim := publish_claimId (s := s) payload topic full (.telemetry x)
      refine Made.imp (P := OwnClaim s.claimId)
        { hM with waiting := fun hruns y hy => ?_, published := fun y hy => ?_ }
        fun c hc => hclaim.symm ▸ hc
      · refine hM.waiting hruns y ?_
        simp only [waiting, DataLoop.held?_rest, Option.toList_none, List.nil_append] at hy
        exact List.mem_append_right _ hy
      · rw [DataLoop.published?_rest hy]
        exact hx
    -- the entry of the trace tells claim and sample
    · refine hI.published full (.telemetry x) (fun _ => ?_) (fun _ => rfl) (fun _ c hc => ?_) ht
      · exact hI.sourced.loop x payload payloads hloop payload List.mem_cons_self
      · rw [List.mem_singleton.mp hc]
        exact hx
  | emits record now wall =>
    -- the record is made now
    exact ⟨{ hM with log := hM.log.emit (fun _ => rfl) now wall }, hS, hI.trace⟩
  | gathers i now wall =>
    obtain ⟨hbatches, hlog⟩ := hM.log.flush now wall
    refine ⟨{ hM with log := hlog, flushes := fun f hf batch hbatch => ?_ }, hS, hI.trace⟩
    -- the flush has the batches of the handler
    obtain rfl | hf := Dict.mem_set hf
    · exact hbatches batch hbatch
    · exact hM.flushes f hf batch hbatch
  | publishesBatch i ts full serialNumber topic batch batches hflush =>
    -- the batches of the flush are of the present claim
    have hown := hM.flushes _ (Dict.mem_of_get? hflush)
    refine ⟨?_, hS, fun t ht => ?_⟩
    · have hclaim := publish_claimId (s := s) (RemoteLogHandler.payload serialNumber ts batch) topic
        full (.logs batch)
      refine Made.imp (P := OwnClaim s.claimId)
        { hM with flushes := fun f hf b hb => ?_ } fun c hc => hclaim.symm ▸ hc
      -- the batches that are left
      obtain rfl | hf := Dict.mem_set hf
      · exact hown b (List.mem_cons_of_mem _ hb)
      · exact hM.flushes f hf b hb
    -- the entry of the trace names the records of the batch
    · refine hI.published full (.logs batch) (fun _ => ⟨serialNumber, ts, rfl⟩) (fun _ => rfl)
        (fun _ c hc => ?_) ht
      obtain ⟨e, he, hce⟩ := List.mem_flatMap.mp hc
      exact hown batch List.mem_cons_self e he c hce

/-- After the start nothing is held. -/
theorem Booted.separate (h : Booted host s) : Isolated s := by
  have hS := h.sourced
  obtain ⟨_, _, _, _, _, rfl⟩ := h
  exact ⟨⟨⟨(fun _ h => by cases h), (fun _ _ h => by cases h)⟩, (fun _ h => by cases h),
    (fun _ _ h => by cases h), (fun _ h => by cases h)⟩, hS, (fun _ h => by cases h)⟩

/-- In every run that keeps the claims apart, a payload is tagged with a claim only when all that is
    in it was made under that claim. -/
theorem published_own {labels : List Label} (hboot : Booted host s)
    (hrun : Run.Along (step host v) Separates s labels) (h : exec host v s labels = some s') :
    ∀ t ∈ s'.trace, t.OfClaim :=
  (Run.exec_invariant (fun _ _ _ hI ha hstep => hI.step ha hstep) hboot.separate hrun h).trace

end SiteData

/-! ## A station's claim changes -/

namespace Station

/-- The sample of a meter. -/
def reading : ConvertedData := ⟨.str "meter", .null, [⟨.int 1, [("power", .int 450)]⟩], []⟩

def warning : LogRecord :=
  ⟨30, "WARNING", "novena_gateway.connectors.modbus", "pump 3 does not answer", "modbus_connector",
   142, 0, .null⟩

/-- The station after it has started. -/
def site : SiteData :=
  .start ((NovenaGateway.boot host commandGuard (newDisk "production")).get rfl) {}

end Station

namespace SiteData

open Station

/-- What was published under each tag. -/
def tags (s : SiteData) : List (Option Json × List Json) :=
  s.trace.map fun t => (t.payload.get? "claim_id", t.claims)

/-- The claim changes, and then a connector starts and its sample is published. -/
def freshSample : List Label :=
  [.provision 0 (activate "claim-2"), .network, .network, .network,
   .startConnector (.str "meter"), .poll (.str "meter") reading, .sendToStorage 0, .dequeue,
   .process, .publishNext (some false)]

/-- The site of the example has booted. -/
theorem site_booted : Booted host site :=
  ⟨commandGuard, newDisk "production", _, {}, (Option.some_get rfl).symm, rfl⟩

/-- A sample taken and published under one claim. -/
theorem published_own_sample : ∃ s', exec host verifier site freshSample = some s' ∧
    s'.tags = [(some (.str "claim-2"), [.str "claim-2"])] ∧ ∀ t ∈ s'.trace, t.OfClaim := by
  have hrun : Run.Along (step host verifier) Separates site freshSample := by
    refine ⟨trivial, fun _ h => ?_⟩
    obtain rfl := Option.some.inj h
    refine ⟨(fun _ _ h => by cases h), fun _ h => ?_⟩
    obtain rfl := Option.some.inj h
    refine ⟨(fun _ _ h => by cases h), fun _ h => ?_⟩
    obtain rfl := Option.some.inj h
    -- nothing waits when the claim changes
    refine ⟨fun _ _ _ _ _ => ⟨⟨(fun _ h => by cases h), (fun _ _ h => by cases h)⟩,
      (fun _ h => by cases h), (fun _ _ h => by cases h), (fun _ h => by cases h)⟩, fun _ h => ?_⟩
    obtain rfl := Option.some.inj h
    refine ⟨(fun _ h => by cases h), fun _ h => ?_⟩
    obtain rfl := Option.some.inj h
    refine ⟨trivial, fun _ h => ?_⟩
    obtain rfl := Option.some.inj h
    refine ⟨fun _ x hx _ => ?_, fun _ _ => ⟨trivial, fun _ _ => ⟨trivial, fun _ _ => ⟨trivial,
      fun _ _ => trivial⟩⟩⟩⟩
    obtain rfl := Option.some.inj hx
    rfl
  have hend : ∃ s', exec host verifier site freshSample = some s' ∧
      s'.tags = [(some (.str "claim-2"), [.str "claim-2"])] := ⟨_, rfl, rfl⟩
  obtain ⟨s', h, htags⟩ := hend
  exact ⟨s', h, htags, published_own site_booted hrun h⟩

/-- A warning waits in the buffer while the claim changes. -/
def lateRecord : List Label :=
  [.emit warning 0 0, .provision 0 (activate "claim-2"), .network, .network, .network,
   .flush 0 1000 1000, .publishBatch 0 1000 (some false)]

/-- A sample comes in after the claim has changed, and a connector starts. -/
def lateSample : List Label :=
  [.startConnector (.str "meter"), .poll (.str "meter") reading,
   .provision 0 (activate "claim-2"), .network, .network, .network, .sendToStorage 0,
   .startConnector (.str "meter"), .dequeue, .process, .publishNext (some false)]

/-- A record and a sample made under one claim are published under the next. -/
theorem foreign_published : Booted host site ∧
    (∃ s', exec host verifier site lateRecord = some s' ∧
      s'.tags = [(some (.str "claim-2"), [.str "claim-1"])] ∧ ¬ ∀ t ∈ s'.trace, t.OfClaim) ∧
    (∃ s', exec host verifier site lateSample = some s' ∧
      s'.tags = [(some (.str "claim-2"), [.str "claim-1"])] ∧ ¬ ∀ t ∈ s'.trace, t.OfClaim) := by
  have hforeign : ∀ {s' : SiteData}, s'.tags = [(some (.str "claim-2"), [.str "claim-1"])] →
      ¬ ∀ t ∈ s'.trace, t.OfClaim := by
    intro s' htags hall
    obtain ⟨t, ht, htag⟩ := List.mem_map.mp (htags ▸ List.mem_singleton_self _)
    obtain ⟨htag, hclaims⟩ := Prod.mk.inj htag
    have hsame := hall t ht _ htag (.str "claim-1") (by rw [hclaims]; exact List.mem_singleton_self _)
    exact absurd (Json.str.inj hsame) (by decide)
  have hrecord : ∃ s', exec host verifier site lateRecord = some s' ∧
      s'.tags = [(some (.str "claim-2"), [.str "claim-1"])] := ⟨_, rfl, rfl⟩
  have hsample : ∃ s', exec host verifier site lateSample = some s' ∧
      s'.tags = [(some (.str "claim-2"), [.str "claim-1"])] := ⟨_, rfl, rfl⟩
  obtain ⟨s₁, hrun₁, htags₁⟩ := hrecord
  obtain ⟨s₂, hrun₂, htags₂⟩ := hsample
  exact ⟨site_booted, ⟨s₁, hrun₁, htags₁, hforeign htags₁⟩, s₂, hrun₂, htags₂, hforeign htags₂⟩

end SiteData

end Novena

import NovenaGateway.Native.Subscriptions

/-!
# No subscription is lost

`subscribe` registers its callback before it reads `_connected`, and `_on_connect` sets `_connected`
before it goes through the registered topics. Whichever comes first, one of the two asks for the
topic, on every connection that is made.

Key results:
- `Subscriptions.step_inv`
- `Subscriptions.subscribed`
- `Subscriptions.settles`
-/

namespace Novena

/-- The network thread is going to ask for the topic. -/
def NetworkThread.WillAsk (topic : String) : NetworkThread → Prop
  | .idle => False
  | .connecting | .acquiring => True
  | .resubscribing remaining => topic ∈ remaining

namespace Subscriptions

variable {s s' : Subscriptions} {topic : String}

/-! ## Callbacks -/

/-- A topic with a callback. -/
def Known (s : Subscriptions) (topic : String) : Prop := s.callbacks topic ≠ []

/-- A topic with a callback is known. -/
theorem known_of_mem {callback : Nat} (h : callback ∈ s.callbacks topic) : s.Known topic :=
  List.ne_nil_of_mem h

/-- A callback is added to its topic, and to no other. -/
theorem callbacks_register (s : Subscriptions) (topic : String) (callback : Nat) (t : String) :
    (s.register topic callback).callbacks t =
      if t = topic then s.callbacks topic ++ [callback] else s.callbacks t := by
  unfold callbacks register
  rw [Dict.get?_set]
  split
  · rfl
  · rfl

/-- So no callback is lost. -/
theorem callbacks_subset_register (s : Subscriptions) (topic : String) (callback : Nat)
    (t : String) : s.callbacks t ⊆ (s.register topic callback).callbacks t := by
  rw [callbacks_register]
  split
  · next heq =>
    rw [heq]
    exact List.subset_append_left _ _
  · exact List.Subset.refl _

/-- And the new one is there. -/
theorem mem_callbacks_register (s : Subscriptions) (topic : String) (callback : Nat) :
    callback ∈ (s.register topic callback).callbacks topic := by
  rw [callbacks_register, if_pos rfl]
  exact List.mem_append_right _ (List.mem_singleton_self _)

/-- Topics stay known. -/
theorem known_register {t : String} {callback : Nat} (h : s.Known t) :
    (s.register topic callback).Known t := by
  obtain ⟨c, hc⟩ := List.exists_mem_of_ne_nil _ h
  exact known_of_mem (callbacks_subset_register s topic callback t hc)

/-! ## The invariant -/

/-- What holds between any two actions. -/
structure Inv (s : Subscriptions) : Prop where
  /-- `_connected` is only false on a connection before `_on_connect` has set it. -/
  flag : ∀ topics, s.session = some topics → s.network ≠ .connecting → s.connected = true
  known : ∀ t ∈ s.subscriptions.map Prod.fst, s.Known t
  asked : ∀ topics, s.session = some topics → ∀ t ∈ topics, s.Known t
  remaining : ∀ topics, s.network = .resubscribing topics → ∀ t ∈ topics, s.Known t
  pending : ∀ call ∈ s.calls, call.stage ≠ .entered → call.callback ∈ s.callbacks call.topic
  returned : ∀ p ∈ s.returned, p.2 ∈ s.callbacks p.1
  /-- The topic of a call that has returned is asked for, or about to be. -/
  covered : ∀ p ∈ s.returned, ∀ topics, s.session = some topics →
    p.1 ∈ topics ∨ s.network.WillAsk p.1

/-- At the beginning there is no topic. -/
theorem init_inv : init.Inv where
  flag := by
    intro topics h
    cases h
  known := by
    intro t h
    cases h
  asked := by
    intro topics h
    cases h
  remaining := by
    intro topics h
    cases h
  pending := by
    intro call h
    cases h
  returned := by
    intro p h
    cases h
  covered := by
    intro p h
    cases h

/-- A topic of the table is one with a key, and the other way round. -/
theorem known_mem_keys (h : s.Known topic) : topic ∈ s.subscriptions.map Prod.fst := by
  unfold Known callbacks at h
  cases hget : s.subscriptions.get? topic with
  | none =>
    rw [hget] at h
    exact absurd rfl h
  | some callbacks => exact List.mem_map_of_mem (Dict.mem_of_get? hget)

/-- A topic the client subscribes to is a known one. -/
theorem Inv.clientSubscribe (h : s.Inv) (hknown : s.Known topic) :
    (s.clientSubscribe topic).Inv := by
  -- without a session nothing is asked for
  have hsession : ∀ topics, (s.clientSubscribe topic).session = some topics →
      ∃ before, s.session = some before ∧ topics = before ++ [topic] := by
    intro topics htopics
    obtain ⟨before, hbefore, rfl⟩ := Option.map_eq_some_iff.mp htopics
    exact ⟨before, hbefore, rfl⟩
  constructor
  case flag =>
    intro topics htopics
    obtain ⟨before, hbefore, _⟩ := hsession topics htopics
    exact h.flag before hbefore
  case known => exact h.known
  -- the topic of this call is the one that is added
  case asked =>
    intro topics htopics t ht
    obtain ⟨before, hbefore, rfl⟩ := hsession topics htopics
    obtain ht | ht := List.mem_append.mp ht
    · exact h.asked before hbefore t ht
    · rw [List.mem_singleton] at ht
      exact ht ▸ hknown
  case remaining => exact h.remaining
  case pending => exact h.pending
  case returned => exact h.returned
  case covered =>
    intro p hp topics htopics
    obtain ⟨before, hbefore, rfl⟩ := hsession topics htopics
    apply (h.covered p hp before hbefore).imp_left
    exact List.mem_append_left _

/-- After it the session has the topic. -/
theorem mem_clientSubscribe {topics : List String}
    (h : (s.clientSubscribe topic).session = some topics) : topic ∈ topics := by
  obtain ⟨before, _, rfl⟩ := Option.map_eq_some_iff.mp h
  exact List.mem_append_right _ (List.mem_singleton_self _)

/-- A call may return once its topic is asked for, or is about to be. -/
theorem Inv.endCall (h : s.Inv) (i : Nat) {call : SubscribeCall}
    (hcallback : call.callback ∈ s.callbacks call.topic)
    (hcovered : ∀ topics, s.session = some topics →
      -- the call that returns is the one the two last facts are about
      call.topic ∈ topics ∨ s.network.WillAsk call.topic) : (s.endCall i call).Inv := by
  constructor
  case flag => exact h.flag
  case known => exact h.known
  case asked => exact h.asked
  case remaining => exact h.remaining
  -- pending: one call less
  case pending =>
    intro c hc
    exact h.pending c (List.mem_of_mem_eraseIdx hc)
  case returned =>
    intro p hp
    obtain hp | hp := List.mem_append.mp hp
    · exact h.returned p hp
    · obtain rfl := List.mem_singleton.mp hp
      exact hcallback
  case covered =>
    intro p hp
    obtain hp | hp := List.mem_append.mp hp
    · exact h.covered p hp
    · obtain rfl := List.mem_singleton.mp hp
      exact hcovered

/-- A call goes on with its callback registered. -/
theorem Inv.setCall (h : s.Inv) (i : Nat) {call : SubscribeCall}
    (hcallback : call.callback ∈ s.callbacks call.topic) :
    { s with calls := s.calls.set i call }.Inv := by
  constructor
  case flag => exact h.flag
  case known => exact h.known
  case asked => exact h.asked
  case remaining => exact h.remaining
  case pending =>
    intro c hc hstage
    obtain hc | hc := List.mem_or_eq_of_mem_set hc
    · exact h.pending c hc hstage
    · exact hc ▸ hcallback
  case returned => exact h.returned
  case covered => exact h.covered

/-- A new callback keeps the invariant. -/
theorem Inv.register (h : s.Inv) (topic : String) (callback : Nat) :
    (s.register topic callback).Inv := by
  have hsubset := callbacks_subset_register s topic callback
  constructor
  case flag => exact h.flag
  -- a topic of the table was there, or is the one that is registered
  case known =>
    intro t ht
    obtain ⟨p, hp, rfl⟩ := List.mem_map.mp ht
    obtain hp | hp := Dict.mem_set hp
    · rw [hp]
      exact known_of_mem (mem_callbacks_register s topic callback)
    · exact known_register (h.known p.1 (List.mem_map_of_mem hp))
  case asked =>
    intro topics htopics t ht
    exact known_register (h.asked topics htopics t ht)
  case remaining =>
    intro topics htopics t ht
    exact known_register (h.remaining topics htopics t ht)
  case pending =>
    intro call hcall hstage
    exact hsubset _ (h.pending call hcall hstage)
  case returned =>
    intro p hp
    exact hsubset _ (h.returned p hp)
  case covered => exact h.covered

/-! ## Steps -/

/-- And so does a call that goes on. -/
theorem resume_inv (h : s.Inv) {i : Nat} (hstep : s.resume i = some s') : s'.Inv := by
  unfold resume at hstep
  split at hstep
  · cases hstep
  · next call hcall =>
    have hmem := List.mem_of_getElem? hcall
    -- the call has to have the lock to register
    split at hstep
    · next hstage =>
      split at hstep
      · cases hstep
      · obtain rfl := Option.some.inj hstep
        exact (h.register call.topic call.callback).setCall i
          (mem_callbacks_register s call.topic call.callback)
    -- it reads the flag
    · next hstage =>
      have hcallback := h.pending call hmem (by rw [hstage]; decide)
      split at hstep
      -- connected: it will ask for its topic
      · obtain rfl := Option.some.inj hstep
        exact h.setCall i hcallback
      · next hflag =>
        obtain rfl := Option.some.inj hstep
        apply h.endCall i hcallback
        intro topics htopics
        -- on a connection it has read `False` too early for `_on_connect`
        by_cases hconnecting : s.network = .connecting
        · rw [hconnecting]
          exact .inr trivial
        · exact absurd (h.flag topics htopics hconnecting) hflag
    -- it asks for it
    · next hstage =>
      have hcallback := h.pending call hmem (by rw [hstage]; decide)
      obtain rfl := Option.some.inj hstep
      apply (h.clientSubscribe (known_of_mem hcallback)).endCall i hcallback
      intro topics htopics
      exact .inl (mem_clientSubscribe htopics)

/-- And the network thread. -/
theorem networkStep_inv (h : s.Inv) (hstep : s.networkStep = some s') : s'.Inv := by
  unfold networkStep at hstep
  split at hstep
  · cases hstep
  -- `_on_connect` sets the flag first
  · obtain rfl := Option.some.inj hstep
    exact { h with
      flag := fun _ _ _ => rfl
      remaining := by
        intro topics htopics
        cases htopics
      covered := fun _ _ _ _ => .inr trivial }
  -- then it takes the lock, and copies the keys of the table
  · next hnetwork =>
    obtain rfl := Option.some.inj hstep
    have hconnected : ∀ topics, s.session = some topics → s.connected = true := by
      intro topics htopics
      exact h.flag topics htopics (by rw [hnetwork]; decide)
    exact { h with
      flag := fun topics htopics _ => hconnected topics htopics
      remaining := by
        intro topics htopics t ht
        cases htopics
        exact h.known t ht
      covered := by
        -- whoever has returned is in the table, and the loop goes through all of it
        intro p hp topics _
        exact .inr (known_mem_keys (known_of_mem (h.returned p hp))) }
  -- the loop over them is done
  · next hnetwork =>
    obtain rfl := Option.some.inj hstep
    have hconnected : ∀ topics, s.session = some topics → s.connected = true := by
      intro topics htopics
      exact h.flag topics htopics (by rw [hnetwork]; decide)
    exact { h with
      flag := fun topics htopics _ => hconnected topics htopics
      remaining := by
        intro topics htopics
        cases htopics
      covered := by
        intro p hp topics htopics
        apply (h.covered p hp topics htopics).imp_right
        intro hask
        rw [hnetwork] at hask
        exact absurd hask List.not_mem_nil }
  -- one topic is asked for, the others remain
  · next first rest hnetwork =>
    obtain rfl := Option.some.inj hstep
    have hknown := h.remaining _ hnetwork
    have hsent := h.clientSubscribe (hknown first List.mem_cons_self)
    exact { hsent with
      flag := by
        intro topics htopics _
        exact hsent.flag topics htopics (by rw [clientSubscribe, hnetwork]; simp)
      remaining := by
        intro topics htopics t ht
        cases htopics
        exact hknown t (List.mem_cons_of_mem _ ht)
      covered := by
        intro p hp topics htopics
        obtain hasked | hask := hsent.covered p hp topics htopics
        · exact .inl hasked
        · -- the topic asked for now, or one of the rest
          rw [clientSubscribe, hnetwork] at hask
          obtain heq | hrest := List.mem_cons.mp hask
          · exact .inl (heq ▸ mem_clientSubscribe htopics)
          · exact .inr hrest }

/-- And so every step. -/
theorem step_inv (h : s.Inv) {label : Label} (hstep : s.step label = some s') : s'.Inv := by
  cases label with
  -- a call that has just begun has registered nothing
  | subscribe topic callback =>
    obtain rfl := Option.some.inj hstep
    exact { h with
      pending := by
        intro call hcall hstage
        obtain hcall | hcall := List.mem_append.mp hcall
        · exact h.pending call hcall hstage
        · obtain rfl := List.mem_singleton.mp hcall
          exact absurd rfl hstage }
  | resume i => exact resume_inv h hstep
  -- a new session asks for everything again
  | connect =>
    simp only [step] at hstep
    split at hstep
    · obtain rfl := Option.some.inj hstep
      exact { h with
        flag := fun _ _ hnetwork => absurd rfl hnetwork
        asked := by
          intro topics htopics t ht
          cases htopics
          cases ht
        remaining := by
          intro topics htopics
          cases htopics
        covered := fun _ _ _ _ => .inr trivial }
    · cases hstep
  | refuse =>
    simp only [step] at hstep
    split at hstep
    · obtain rfl := Option.some.inj hstep
      exact { h with
        flag := by
          intro topics htopics
          cases htopics
        asked := by
          intro topics htopics
          cases htopics
        covered := by
          intro p hp topics htopics
          cases htopics }
    · cases hstep
  | network => exact networkStep_inv h hstep
  -- nor does a lost one
  | lose =>
    obtain rfl := Option.some.inj hstep
    exact { h with
      flag := by
        intro topics htopics
        cases htopics
      asked := by
        intro topics htopics
        cases htopics
      covered := by
        intro p hp topics htopics
        cases htopics }
  -- the flag falls behind the session, never ahead of it
  | disconnected =>
    simp only [step] at hstep
    split at hstep
    · next hlost =>
      obtain rfl := Option.some.inj hstep
      exact { h with
        flag := by
          intro topics htopics
          rw [hlost.2] at htopics
          cases htopics }
    · cases hstep

/-- Whatever the order of calls, connections and losses, on a connection whose `_on_connect` is over
    the topic of every call of `subscribe` that has returned is asked for, its callback is called
    for its messages, and no topic that is asked for is without a callback. -/
theorem subscribed {labels : List Label} (hrun : exec labels = some s) {topics : List String}
    (hsession : s.session = some topics) (hidle : s.network = .idle) :
    s.connected = true ∧
      (∀ p ∈ s.returned, p.1 ∈ topics ∧ p.2 ∈ s.callbacks p.1) ∧
      ∀ t ∈ topics, s.callbacks t ≠ [] := by
  have h : s.Inv := Run.exec_invariant' (fun _ _ _ h hstep => step_inv h hstep) init_inv hrun
  have hflag : s.connected = true := h.flag topics hsession (by rw [hidle]; decide)
  refine ⟨hflag, ?_, h.asked topics hsession⟩
  intro p hp
  have hcovered := h.covered p hp topics hsession
  rw [hidle] at hcovered
  exact ⟨hcovered.resolve_right id, h.returned p hp⟩

/-- A call that reads `_connected` while `_on_connect` is under way, after one on a connection that
    was lost. -/
def lateRun : List Label :=
  [.subscribe "rpc" 0, .connect, .network, .resume 0, .resume 0, .network, .network, .network,
   .resume 0, .lose, .disconnected, .subscribe "config" 1, .connect, .resume 0, .resume 0,
   .network, .network, .network, .network, .network]

/-- A call that is made before the connection is there. -/
theorem subscribed_lateRun : ∃ s, exec lateRun = some s ∧ s.connected = true ∧
    (∀ p ∈ s.returned, p.1 ∈ ["rpc", "config"] ∧ p.2 ∈ s.callbacks p.1) ∧
    ∀ t ∈ ["rpc", "config"], s.callbacks t ≠ [] := by
  have hends : (exec lateRun).map (fun s => (s.session, s.network)) =
      some (some ["rpc", "config"], .idle) := by decide +kernel
  obtain ⟨s, hrun, hends⟩ := Option.map_eq_some_iff.mp hends
  exact ⟨s, hrun, subscribed hrun (congrArg Prod.fst hends) (congrArg Prod.snd hends)⟩

/-! ## Every call gets through -/

/-- The calls so far, with their topics and callbacks. -/
def made (s : Subscriptions) : List (String × Nat) :=
  s.returned ++ s.calls.map fun call => (call.topic, call.callback)

/-- The threads of the process go on by themselves. -/
def Label.Own : Label → Prop
  | .resume _ | .network => True
  | .subscribe _ _ | .connect | .refuse | .lose | .disconnected => False

/-- The threads lead from one state to the other, with the connection as it is. -/
def Leads (s s' : Subscriptions) : Prop :=
  ∃ labels, (∀ label ∈ labels, label.Own) ∧ Run.exec step s labels = some s' ∧
    s'.session.isSome = s.session.isSome ∧ s.made ⊆ s'.made

/-- No step leads from a state to itself. -/
theorem Leads.refl (s : Subscriptions) : Leads s s :=
  ⟨[], fun _ h => absurd h List.not_mem_nil, rfl, rfl, List.Subset.refl _⟩

/-- Steps one after the other. -/
theorem Leads.trans {t : Subscriptions} (h : Leads s t) (h' : Leads t s') : Leads s s' := by
  obtain ⟨labels, hown, hrun, hsession, hmade⟩ := h
  obtain ⟨labels', hown', hrun', hsession', hmade'⟩ := h'
  refine ⟨labels ++ labels', ?_, ?_, hsession'.trans hsession, List.Subset.trans hmade hmade'⟩
  · intro label hlabel
    exact (List.mem_append.mp hlabel).elim (hown label) (hown' label)
  · exact Run.exec_append.mpr ⟨t, hrun, hrun'⟩

/-- One step of the system's own. -/
theorem Leads.step (label : Label) (hown : label.Own) (hstep : s.step label = some s')
    (hsession : s'.session.isSome = s.session.isSome) (hmade : s.made ⊆ s'.made) :
    Leads s s' := by
  refine ⟨[label], ?_, ?_, hsession, hmade⟩
  · intro l hl
    exact List.mem_singleton.mp hl ▸ hown
  · exact Run.exec_cons.mpr ⟨s', hstep, rfl⟩

/-- A subscription opens and closes no session. -/
theorem session_clientSubscribe (s : Subscriptions) (topic : String) :
    (s.clientSubscribe topic).session.isSome = s.session.isSome := by
  simp [clientSubscribe]

/-- `_resubscribe_all` comes to its end. -/
theorem loop_settles (remaining : List String) (s : Subscriptions)
    (hnetwork : s.network = .resubscribing remaining) :
    ∃ s', Leads s s' ∧ s'.network = .idle ∧ s'.calls = s.calls := by
  induction remaining generalizing s with
  | nil =>
    have hstep : s.step .network = some { s with network := .idle } := by
      simp only [step, networkStep, hnetwork]
    exact ⟨_, .step .network trivial hstep rfl (List.Subset.refl _), rfl, rfl⟩
  | cons first rest ih =>
    have hstep : s.step .network =
        some { s.clientSubscribe first with network := .resubscribing rest } := by
      simp only [step, networkStep, hnetwork]
    obtain ⟨s', hleads, hidle, hcalls⟩ :=
      ih { s.clientSubscribe first with network := .resubscribing rest } rfl
    have hfirst : Leads s { s.clientSubscribe first with network := .resubscribing rest } :=
      .step .network trivial hstep (session_clientSubscribe s first) (List.Subset.refl _)
    exact ⟨s', hfirst.trans hleads, hidle, hcalls⟩

/-- The network thread comes to rest, and leaves the calls to themselves. -/
theorem network_settles (s : Subscriptions) :
    ∃ s', Leads s s' ∧ s'.network = .idle ∧ s'.calls = s.calls := by
  -- from the lock on the loop runs to its end
  have hacquiring : ∀ t : Subscriptions, t.network = .acquiring →
      ∃ s', Leads t s' ∧ s'.network = .idle ∧ s'.calls = t.calls := by
    intro t ht
    have hstep : t.step .network =
        some { t with network := .resubscribing (t.subscriptions.map Prod.fst) } := by
      simp only [step, networkStep, ht]
    obtain ⟨s', hleads, hidle, hcalls⟩ := loop_settles (t.subscriptions.map Prod.fst)
      { t with network := .resubscribing (t.subscriptions.map Prod.fst) } rfl
    have hfirst := Leads.step .network trivial hstep rfl (List.Subset.refl _)
    exact ⟨s', hfirst.trans hleads, hidle, hcalls⟩
  cases hnetwork : s.network with
  | idle => exact ⟨s, .refl s, hnetwork, rfl⟩
  | connecting =>
    -- before it the flag is set
    have hstep : s.step .network = some { s with connected := true, network := .acquiring } := by
      simp only [step, networkStep, hnetwork]
    obtain ⟨s', hleads, hidle, hcalls⟩ :=
      hacquiring { s with connected := true, network := .acquiring } rfl
    have hfirst := Leads.step .network trivial hstep rfl (List.Subset.refl _)
    exact ⟨s', hfirst.trans hleads, hidle, hcalls⟩
  | acquiring => exact hacquiring s hnetwork
  | resubscribing remaining => exact loop_settles remaining s hnetwork

/-- A call that ends is one of those made. -/
theorem made_endCall {call : SubscribeCall} {rest : List SubscribeCall}
    (hcalls : s.calls = call :: rest) : s.made ⊆ (s.endCall 0 call).made := by
  unfold made endCall
  rw [hcalls]
  simp

/-- A call that goes on is still the call that was made. -/
theorem made_setCall {call call' : SubscribeCall} {rest : List SubscribeCall}
    (hcalls : s.calls = call :: rest) (htopic : call'.topic = call.topic)
    (hcallback : call'.callback = call.callback) :
    s.made ⊆ { s with calls := s.calls.set 0 call' }.made := by
  unfold made
  rw [hcalls]
  simp [htopic, hcallback]

/-- With the network thread idle, the first call comes to its end. -/
theorem call_settles {call : SubscribeCall} {rest : List SubscribeCall}
    (hidle : s.network = .idle) (hcalls : s.calls = call :: rest) :
    ∃ s', Leads s s' ∧ s'.network = .idle ∧ s'.calls = rest := by
  -- a call is brought to its end from its last stage backwards
  have hissuing : ∀ (t : Subscriptions) (c : SubscribeCall), t.network = .idle →
      t.calls = c :: rest → c.stage = .issuing →
      ∃ s', Leads t s' ∧ s'.network = .idle ∧ s'.calls = rest := by
    intro t c ht hc hstage
    have hstep : t.step (.resume 0) = some ((t.clientSubscribe c.topic).endCall 0 c) := by
      simp [step, resume, hc, hstage]
    refine ⟨(t.clientSubscribe c.topic).endCall 0 c, ?_, ht, ?_⟩
    · exact .step (.resume 0) trivial hstep (session_clientSubscribe t c.topic) (made_endCall hc)
    · simp [endCall, clientSubscribe, hc]
  -- who reads `False` returns, who reads `True` asks first
  have hregistered : ∀ (t : Subscriptions) (c : SubscribeCall), t.network = .idle →
      t.calls = c :: rest → c.stage = .registered →
      ∃ s', Leads t s' ∧ s'.network = .idle ∧ s'.calls = rest := by
    intro t c ht hc hstage
    cases hconnected : t.connected with
    | false =>
      have hstep : t.step (.resume 0) = some (t.endCall 0 c) := by
        simp [step, resume, hc, hstage, hconnected]
      refine ⟨_, .step (.resume 0) trivial hstep rfl (made_endCall hc), ht, ?_⟩
      simp [endCall, hc]
    | true =>
      have hstep : t.step (.resume 0) =
          some { t with calls := t.calls.set 0 { c with stage := .issuing } } := by
        simp [step, resume, hc, hstage, hconnected]
      have hfirst := Leads.step (.resume 0) trivial hstep rfl (made_setCall hc rfl rfl)
      obtain ⟨s', hleads, hend⟩ := hissuing { t with
        calls := t.calls.set 0 { c with stage := .issuing } } { c with stage := .issuing } ht
        (by simp [hc]) rfl
      exact ⟨s', hfirst.trans hleads, hend⟩
  cases hstage : call.stage with
  | issuing => exact hissuing s call hidle hcalls hstage
  | registered => exact hregistered s call hidle hcalls hstage
  -- nobody holds the lock, since the network thread is idle
  | entered =>
    have hstep : s.step (.resume 0) = some { s.register call.topic call.callback with
        calls := s.calls.set 0 { call with stage := .registered } } := by
      simp [step, resume, hcalls, hstage, locked, hidle]
    have hfirst := Leads.step (.resume 0) trivial hstep rfl (made_setCall hcalls rfl rfl)
    obtain ⟨s', hleads, hend⟩ := hregistered { s.register call.topic call.callback with
      calls := s.calls.set 0 { call with stage := .registered } }
      { call with stage := .registered } hidle (by simp [hcalls]) rfl
    exact ⟨s', hfirst.trans hleads, hend⟩

/-- Then each call returns in its turn. -/
theorem calls_settle (calls : List SubscribeCall) (s : Subscriptions) (hidle : s.network = .idle)
    (hcalls : s.calls = calls) : ∃ s', Leads s s' ∧ s'.network = .idle ∧ s'.calls = [] := by
  induction calls generalizing s with
  | nil => exact ⟨s, .refl s, hidle, hcalls⟩
  | cons call rest ih =>
    obtain ⟨t, hleads, ht, hrest⟩ := call_settles hidle hcalls
    obtain ⟨s', hleads', hend⟩ := ih t ht hrest
    exact ⟨s', hleads.trans hleads', hend⟩

/-- No thread waits for another one for ever: from every state of a run with a connection, the
    threads alone lead to one in which every call made has returned, with its topic asked for. -/
theorem settles {labels : List Label} (hrun : exec labels = some s)
    (hsession : s.session.isSome = true) :
    ∃ more s' topics, (∀ label ∈ more, label.Own) ∧ Run.exec step s more = some s' ∧
      s'.calls = [] ∧ s'.session = some topics ∧
      ∀ p ∈ s.made, p.1 ∈ topics ∧ p.2 ∈ s'.callbacks p.1 := by
  obtain ⟨t, hleads, hidle, hcalls⟩ := network_settles s
  obtain ⟨s', hleads', hidle', hcalls'⟩ := calls_settle t.calls t hidle rfl
  obtain ⟨more, hown, hmore, hsame, hmade⟩ := hleads.trans hleads'
  obtain ⟨topics, htopics⟩ := Option.isSome_iff_exists.mp (hsame.trans hsession)
  have h : s'.Inv := Run.exec_invariant' (fun _ _ _ h hstep => step_inv h hstep) init_inv
    (Run.exec_append.mpr ⟨s, hrun, hmore⟩)
  refine ⟨more, s', topics, hown, hmore, hcalls', htopics, ?_⟩
  intro p hp
  have hreturned : p ∈ s'.returned := by
    have hmem := hmade hp
    rw [made, hcalls', List.map_nil, List.append_nil] at hmem
    exact hmem
  have hcovered := h.covered p hreturned topics htopics
  rw [hidle'] at hcovered
  exact ⟨hcovered.resolve_right id, h.returned p hreturned⟩

/-- The run up to where both its calls are in the middle of `subscribe`. -/
theorem settles_lateRun : ∃ s, exec (lateRun.take 15) = some s ∧
    ∃ more s' topics, (∀ label ∈ more, label.Own) ∧ Run.exec step s more = some s' ∧
      s'.calls = [] ∧ s'.session = some topics ∧
      ∀ p ∈ s.made, p.1 ∈ topics ∧ p.2 ∈ s'.callbacks p.1 := by
  have hends : (exec (lateRun.take 15)).map (fun s => s.session.isSome) = some true := by
    decide +kernel
  obtain ⟨s, hrun, hends⟩ := Option.map_eq_some_iff.mp hends
  exact ⟨s, hrun, settles hrun hends⟩

end Subscriptions

end Novena

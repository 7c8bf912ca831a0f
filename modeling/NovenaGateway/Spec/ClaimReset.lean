import NovenaGateway.Spec.CommandWorkers

/-!
# What a claim reset leaves behind

`reset_for_new_claim` empties the journal and removes the policy, but it neither stops the
workers that are under way nor takes their locks. The commands of the former claim are gone
after a reset exactly when every worker that is still alive has recorded its result: then no
later action brings one of them back. `RpcState.isolated` states this for whole runs.

Key results:
- `RpcState.isolated`
- `RpcState.former_command_invoked`
-/

namespace Novena

open DurableCommandJournal

/-! ## The history since the last reset -/

/-- The history since a reset, after one more event. -/
def sinceStep (since : List Event) : Event → List Event
  | .claimReset => []
  | e => since ++ [e]

/-- The events after the last claim reset. -/
def sinceReset (trace : List Event) : List Event := trace.foldl sinceStep []

/-- An event that is no claim reset. -/
def Event.keepsClaim : Event → Bool
  | .claimReset => false
  | _ => true

/-- A silent event is no reset. -/
theorem Event.keepsClaim_of_silent {e : Event} (h : e.silent = true) : e.keepsClaim = true := by
  cases e <;> first | rfl | cases h

/-- What happens without a reset happens since the last one. -/
theorem sinceReset_append {trace es : List Event} (h : ∀ e ∈ es, e.keepsClaim = true) :
    sinceReset (trace ++ es) = sinceReset trace ++ es := by
  rw [sinceReset, List.foldl_append, ← sinceReset]
  induction es generalizing trace with
  | nil => simp
  | cons e es ih =>
    have he : sinceStep (sinceReset trace) e = sinceReset trace ++ [e] := by
      have := h e List.mem_cons_self
      cases e <;> first | rfl | cases this
    have hfold : sinceReset (trace ++ [e]) = sinceReset trace ++ [e] := by
      rw [sinceReset, List.foldl_append, ← sinceReset]
      exact he
    rw [List.foldl_cons, he, ← hfold, ih fun e' he' => h e' (List.mem_cons_of_mem _ he'), hfold,
      List.append_assoc]
    rfl

/-- And a reset begins anew. -/
theorem sinceReset_reset (trace : List Event) : sinceReset (trace ++ [.claimReset]) = [] := by
  rw [sinceReset, List.foldl_append]
  rfl

/-- The control epoch of a policy bundle. -/
def policyEpoch (wire : Json) : Py Int := do
  (← (← wire.item "payload").getD "control_epoch" (.int 0)).toInt

/-- Everything a journal holds comes from commands and policies of a history. -/
structure JournalState.From (since : List Event) (st : JournalState) : Prop where
  commands : ∀ p ∈ st.commands, ∃ job ∈ acceptedJobs since, job.commandId? = some p.1 ∧
    p.2.deviceId = job.deviceId ∧
    p.2.sequenceNumber = GovernedCommandGuard.field job.payload "sequence_number"
  sequences : ∀ p ∈ st.sequences,
    (∃ job ∈ acceptedJobs since, p.2.1.jsonKey = job.deviceId.jsonKey) ∧
    (p.2.2 = 0 ∨ ∃ job ∈ acceptedJobs since, job.sequence? = some p.2.2)
  events : ∀ e ∈ st.events, ∃ job ∈ acceptedJobs since, job.commandId? = some e.commandId ∧
    e.deviceId = job.deviceId ∧ job.sequence? = some e.sequenceNumber
  maxEpoch : st.maxEpoch = 0 ∨ ∃ wire, .policy wire ∈ since ∧ policyEpoch wire = .ok st.maxEpoch

namespace JournalState

variable {since since' : List Event} {st saved : JournalState}

/-- An empty journal has nothing that is not from these events. -/
theorem From.empty (since : List Event) : From since .empty where
  commands := fun _ h => by cases h
  sequences := fun _ h => by cases h
  events := fun _ h => by cases h
  maxEpoch := .inl rfl

/-- A longer history explains no less. -/
theorem From.mono (h : From since st) (hsub : ∀ e ∈ since, e ∈ since') : From since' st := by
  have hjobs : ∀ {job}, job ∈ acceptedJobs since → job ∈ acceptedJobs since' := by
    intro job hj
    obtain ⟨hg, i, hi⟩ := mem_acceptedJobs.mp hj
    exact mem_acceptedJobs.mpr ⟨hg, i, hsub _ hi⟩
  refine ⟨fun p hp => ?_, fun p hp => ?_, fun e he => ?_, h.maxEpoch.imp_right ?_⟩
  · obtain ⟨job, hj, hrest⟩ := h.commands p hp
    exact ⟨job, hjobs hj, hrest⟩
  · obtain ⟨⟨job, hj, hkey⟩, hseq⟩ := h.sequences p hp
    refine ⟨⟨job, hjobs hj, hkey⟩, hseq.imp_right ?_⟩
    rintro ⟨job', hj', hn⟩
    exact ⟨job', hjobs hj', hn⟩
  · obtain ⟨job, hj, hrest⟩ := h.events e he
    exact ⟨job, hjobs hj, hrest⟩
  · rintro ⟨wire, hw, hepoch⟩
    exact ⟨wire, hsub _ hw, hepoch⟩

/-- The file of a state has the same origin. -/
theorem From.dump (h : From since st) (hd : st.dump = some saved) : From since saved := by
  obtain ⟨hc, he, hm, hs⟩ := dump_eq hd
  refine ⟨hc ▸ h.commands, ?_, he ▸ h.events, hm ▸ h.maxEpoch⟩
  rw [hs]
  intro p hp
  obtain ⟨⟨key, spelling, n⟩, hq, rfl⟩ := List.mem_map.mp hp
  exact h.sequences (key, spelling, n) hq

/-- An entry of the sequence table after a record was filed. -/
private theorem mem_bumpSequence {sequences : Dict Json.Key (Json × Int)} {deviceId : Json}
    {key : Json.Key} {n : Int} {p : Json.Key × Json × Int}
    (h : p ∈ bumpSequence sequences deviceId key n) :
    p ∈ sequences ∨ ((p.2.1 = deviceId ∨ ∃ q ∈ sequences, p.2.1 = q.2.1) ∧
      (p.2.2 = 0 ∨ p.2.2 = n ∨ ∃ q ∈ sequences, p.2.2 = q.2.2)) := by
  simp only [bumpSequence] at h
  split at h
  · next spelling m hget =>
    have hq := Dict.mem_of_get? hget
    obtain rfl | h := Dict.mem_set h
    · refine .inr ⟨.inr ⟨_, hq, rfl⟩, ?_⟩
      rcases max_cases n m with ⟨hmax, _⟩ | ⟨hmax, _⟩
      · exact .inr (.inl hmax)
      · exact .inr (.inr ⟨_, hq, hmax⟩)
    · exact .inl h
  · obtain rfl | h := Dict.mem_set h
    · refine .inr ⟨.inl rfl, ?_⟩
      rcases max_cases n 0 with ⟨hmax, _⟩ | ⟨hmax, _⟩
      · exact .inr (.inl hmax)
      · exact .inl hmax
    · exact .inl h

/-- A record of a command of the history can be filed. -/
theorem From.write {j : DurableCommandJournal} (h : From since j.state) {job : Job}
    (hjob : job ∈ acceptedJobs since) {c : String} {record : CommandRecord}
    (hc : job.commandId? = some c) (hd : record.deviceId = job.deviceId)
    (hs : record.sequenceNumber = GovernedCommandGuard.field job.payload "sequence_number")
    (now : Int) (ok : Bool) : From since (j.write c record now ok).1.state := by
  -- a write adds a record, and at most one sequence with its event
  obtain ⟨hcommands, hepoch, hrest⟩ := j.write_state c record now ok
  have hcommands' : ∀ p ∈ (j.write c record now ok).1.state.commands,
      ∃ job ∈ acceptedJobs since, job.commandId? = some p.1 ∧ p.2.deviceId = job.deviceId ∧
        p.2.sequenceNumber = GovernedCommandGuard.field job.payload "sequence_number" := by
    intro p hp
    rw [hcommands] at hp
    obtain rfl | hp := Dict.mem_set hp
    · exact ⟨job, hjob, hc, hd, hs⟩
    · exact h.commands p hp
  -- nothing but the record
  obtain ⟨_, hseq, hev⟩ | ⟨⟨n, key?⟩, hentry, hseq, hev⟩ := hrest
  · exact ⟨hcommands', hseq ▸ h.sequences, hev ▸ h.events, hepoch ▸ h.maxEpoch⟩
  -- the entry has the sequence of the command itself
  have hn : job.sequence? = some n := by
    simp only [sequenceEntry, hs, Except.bind_eq_ok] at hentry
    obtain ⟨m, hm, hrest⟩ := hentry
    have hmn : m = n := by
      split at hrest
      · simp only [Except.bind_eq_ok, Except.pure_eq_ok, Prod.mk.injEq] at hrest
        obtain ⟨_, _, hmn, _⟩ := hrest
        exact hmn
      · simp only [Except.pure_eq_ok, Prod.mk.injEq] at hrest
        exact hrest.1
    simp [Job.sequence?, hm, hmn, Except.toOption]
  refine ⟨hcommands', ?_, ?_, hepoch ▸ h.maxEpoch⟩
  · rw [hseq]
    intro p hp
    -- the sequence of a device without a key is not kept
    cases key? with
    | none => exact h.sequences p hp
    | some key =>
      obtain hp | ⟨hspelling, hmax⟩ := mem_bumpSequence hp
      · exact h.sequences p hp
      · constructor
        · obtain heq | ⟨q, hq, heq⟩ := hspelling
          · exact ⟨job, hjob, by rw [heq, hd]⟩
          · rw [heq]; exact (h.sequences q hq).1
        -- a floor is that of an older spelling, or the new sequence
        · obtain heq | heq | ⟨q, hq, heq⟩ := hmax
          · exact .inl heq
          · exact .inr ⟨job, hjob, heq ▸ hn⟩
          · rw [heq]; exact (h.sequences q hq).2
  · intro e he
    obtain he | rfl := hev e he
    · exact h.events e he
    · exact ⟨job, hjob, hc, hd, hn⟩

end JournalState

/-! ## The guard and the history -/

namespace GovernedCommandGuard

variable {g g' : GovernedCommandGuard} {since : List Event}

/-- The journal in memory and in its file come from a history. -/
def JournalFrom (since : List Event) (g : GovernedCommandGuard) : Prop :=
  g.journal.state.From since ∧ (load g.journal.file).From since

/-- What came from the events comes from more of them. -/
theorem JournalFrom.mono {since' : List Event} (h : JournalFrom since g)
    (hsub : ∀ e ∈ since, e ∈ since') : JournalFrom since' g :=
  ⟨h.1.mono hsub, h.2.mono hsub⟩

/-- A command of the history may be marked. -/
theorem Marked.journalFrom {job : Job} {r : Py Unit} (hm : g.Marked job g' r)
    (h : JournalFrom since g) (hjob : job ∈ acceptedJobs since) : JournalFrom since g' := by
  obtain ⟨rfl, _⟩ | ⟨c, record, now, ok, hc, hd, hs, rfl, _⟩ := hm.write
  · exact h
  have hstate := h.1.write hjob hc hd hs now ok
  refine ⟨hstate, ?_⟩
  rcases g.journal.write_file c record now ok with hf | ⟨saved, hdump, hf⟩
  · simp only [hf]; exact h.2
  · simp only [hf, load]; exact hstate.dump hdump

/-- The epoch `install_policy` records is the bundle's own. -/
theorem checkPolicy_epoch {cfg : GuardConfig} {wire payload : Json} {epoch : Int}
    (h : g.checkPolicy cfg wire = .ok (payload, epoch)) : policyEpoch wire = .ok epoch := by
  simp only [checkPolicy] at h
  split at h
  · simp only [Except.bind_eq_ok, Except.pure_eq_ok] at h
    obtain ⟨_, _, p, hp, _, _, _, _, _, _, _, _, _, _, _, _, x, hx, n, hn, _, _, heq⟩ := h
    simp only [Prod.mk.injEq] at heq
    obtain ⟨_, rfl⟩ := heq
    simp only [policyEpoch, Except.bind_eq_ok]
    exact ⟨p, hp, x, hx, hn⟩
  · simp at h

/-- A policy of the history may be installed. -/
theorem installPolicy_journalFrom (cfg : GuardConfig) (wire : Json) (fileOk ok : Bool)
    (h : JournalFrom since g) (hwire : .policy wire ∈ since) :
    JournalFrom since (g.installPolicy cfg wire fileOk ok).1 := by
  simp only [installPolicy]
  split
  · exact h
  · next payload epoch hcheck =>
    split
    -- the epoch of the policy is kept when it is the greatest so far
    · have hepoch := checkPolicy_epoch hcheck
      have hstate : JournalState.From since
          { g.journal.state with maxEpoch := max epoch g.journal.state.maxEpoch } := by
        refine ⟨h.1.commands, h.1.sequences, h.1.events, ?_⟩
        rcases max_cases epoch g.journal.state.maxEpoch with ⟨hmax, _⟩ | ⟨hmax, _⟩
        · exact .inr ⟨wire, hwire, hepoch.trans (congrArg _ hmax.symm)⟩
        · simp only [hmax]; exact h.1.maxEpoch
      simp only [JournalFrom, recordEpoch, persist_state]
      refine ⟨hstate, ?_⟩
      -- the file is what was dumped, or what it was
      rcases persist_cases { g.journal with
        state.maxEpoch := max epoch g.journal.state.maxEpoch } ok with ⟨saved, hdump, hp⟩ | ⟨e, hp⟩
      · rw [hp]; exact hstate.dump hdump
      · rw [hp]; exact h.2
    · exact h

/-- A reset empties the journal in memory; one that returned has emptied the file too. -/
theorem resetForNewClaim_state (g : GovernedCommandGuard) (ok removed : Bool) :
    (g.resetForNewClaim ok removed).1.journal.state = .empty ∧
      ((g.resetForNewClaim ok removed).2 = .ok () →
        ok = true ∧ removed = true ∧
          load (g.resetForNewClaim ok removed).1.journal.file = .empty) ∧
      (load (g.resetForNewClaim ok removed).1.journal.file = .empty ∨
        (g.resetForNewClaim ok removed).1.journal.file = g.journal.file) := by
  cases ok <;> cases removed <;>
    simp [resetForNewClaim, reset, persist, JournalState.dump, JournalState.empty, sortableKeys,
      load]

end GovernedCommandGuard

/-! ## Runs -/

/-- A worker that has recorded its terminal result. -/
def Pc.isTerminal : Pc → Bool
  | .terminal _ => true
  | _ => false

namespace RpcState

open GovernedCommandGuard

variable {cfg : RpcConfig} {s s' : RpcState}

/-- Nothing of a former claim is left: the handlers invoked since the last reset are those of
    commands accepted since, and so is what the journal holds in memory and on disk. -/
structure Isolated (s : RpcState) : Prop where
  invoked : ∀ i job, .invoked i job ∈ sinceReset s.trace → job.governed = true →
    .accepted i job ∈ sinceReset s.trace
  journal : .claimReset ∈ s.trace → JournalFrom (sinceReset s.trace) s.guard

/-- The invariant behind `Isolated`: a worker that can still act was accepted since the last
    reset. -/
structure Isolating (s : RpcState) : Prop extends Isolated s where
  workers : ∀ i w, s.workers.get? i = some w → w.job.governed = true →
    (∃ c, w.pc = .terminal c) ∨ .accepted i w.job ∈ sinceReset s.trace

/-- The condition the code does not enforce: a reset that returns finds every governed worker
    with its terminal result recorded. -/
def Quiescent (s : RpcState) : Label → Prop
  | .reset ok removed => ok = true → removed = true →
      ∀ p ∈ s.workers, p.2.job.governed = true → p.2.pc.isTerminal = true
  | _ => True

instance (s : RpcState) : (a : Label) → Decidable (s.Quiescent a)
  | .reset .. => by dsimp only [Quiescent]; infer_instance
  | .deliver _ | .acquire _ | .prerequisites .. | .markExecuting .. | .call _
  | .handlerReturn .. | .markTerminal .. | .finish _ | .abort .. | .crash
  | .installPolicy .. =>
    .isTrue trivial

/-- An action that is no reset keeps the history. -/
private theorem Isolating.keep (hI : Isolating s) {es : List Event}
    (hes : ∀ e ∈ es, e.keepsClaim = true) (htrace : s'.trace = s.trace ++ es)
    (hworkers : ∀ i w, s'.workers.get? i = some w → w.job.governed = true →
      (∃ c, w.pc = .terminal c) ∨ .accepted i w.job ∈ sinceReset s.trace ++ es)
    (hinvoked : ∀ i job, .invoked i job ∈ es → job.governed = true →
      .accepted i job ∈ sinceReset s.trace)
    (hguard : JournalFrom (sinceReset s.trace) s.guard →
      JournalFrom (sinceReset s.trace ++ es) s'.guard) : Isolating s' := by
  have hsince : sinceReset s'.trace = sinceReset s.trace ++ es := by
    rw [htrace, sinceReset_append hes]
  refine ⟨⟨?_, ?_⟩, ?_⟩
  -- invoked
  · intro i job hi hg
    rw [hsince, List.mem_append] at hi ⊢
    obtain hi | hi := hi
    · exact .inl (hI.invoked i job hi hg)
    · exact .inl (hinvoked i job hi hg)
  -- journal
  · intro hr
    rw [htrace, List.mem_append] at hr
    rw [hsince]
    obtain hr | hr := hr
    · exact hguard (hI.journal hr)
    · cases hes _ hr
  -- workers
  · rw [hsince]
    exact hworkers

/-- An action with silent events, after which every worker has the job of a worker before. -/
private theorem Isolating.keep_silent (hI : Isolating s) {es : List Event}
    (hes : ∀ e ∈ es, e.silent = true) (htrace : s'.trace = s.trace ++ es)
    (hworkers : ∀ i w, s'.workers.get? i = some w → w.job.governed = true →
      (∃ c, w.pc = .terminal c) ∨ .accepted i w.job ∈ sinceReset s.trace)
    (hguard : JournalFrom (sinceReset s.trace) s.guard →
      JournalFrom (sinceReset s.trace) s'.guard) : Isolating s' := by
  refine hI.keep (fun e he => Event.keepsClaim_of_silent (hes e he)) htrace
    (fun i w hw hg => (hworkers i w hw hg).imp_right (List.mem_append_left _)) ?_
    (fun h => (hguard h).mono fun _ => List.mem_append_left _)
  intro i job hi
  cases hes _ hi

/-- A worker that has not recorded its terminal result was accepted since the last reset. -/
private theorem Isolating.accepted (hI : Isolating s) {i : Nat} {w : Worker}
    (hw : s.workers.get? i = some w) (hg : w.job.governed = true)
    (hpc : ∀ c, w.pc ≠ .terminal c) : .accepted i w.job ∈ sinceReset s.trace := by
  obtain ⟨c, hc⟩ | h := hI.workers i w hw hg
  · exact absurd hc (hpc c)
  · exact h

/-- A worker that moves was accepted since the reset, as before. -/
private theorem Isolating.workers_set (hI : Isolating s) {i : Nat} {w : Worker} {pc : Pc}
    (hw : s.workers.get? i = some w)
    (hpc : w.job.governed = true → ∀ c, w.pc ≠ .terminal c) (j : Nat) (w' : Worker)
    (h : (s.workers.set i { w with pc }).get? j = some w') (hg : w'.job.governed = true) :
    (∃ c, w'.pc = .terminal c) ∨ .accepted j w'.job ∈ sinceReset s.trace := by
  obtain ⟨rfl, rfl⟩ | ⟨_, h⟩ := Dict.of_get?_set h
  · have haccepted := hI.accepted hw hg (hpc hg)
    exact .inr haccepted
  · exact hI.workers j w' h hg

/-- And so were those that are left. -/
private theorem Isolating.workers_erase (hI : Isolating s) (i j : Nat) (w : Worker)
    (h : (s.workers.erase i).get? j = some w) (hg : w.job.governed = true) :
    (∃ c, w.pc = .terminal c) ∨ .accepted j w.job ∈ sinceReset s.trace :=
  hI.workers j w (Dict.of_get?_erase h).2 hg

/-- A worker marks its own command only. -/
private theorem Isolating.marked (hI : Isolating s) {i : Nat} {w : Worker}
    {guard : GovernedCommandGuard} (hw : s.workers.get? i = some w)
    (hpc : ∀ c, w.pc ≠ .terminal c)
    (h : guard = s.guard ∨ (w.job.governed = true ∧ ∃ r, s.guard.Marked w.job guard r))
    (hfrom : JournalFrom (sinceReset s.trace) s.guard) :
    JournalFrom (sinceReset s.trace) guard := by
  obtain rfl | ⟨hg, r, hm⟩ := h
  · exact hfrom
  · exact hm.journalFrom hfrom (mem_acceptedJobs.mpr ⟨hg, i, hI.accepted hw hg hpc⟩)

/-- A busy worker is not at its end. -/
private theorem ne_terminal_of_busy {pc : Pc} (h : pc.busy = true) (c : Conclusion) :
    pc ≠ .terminal c := by
  rintro rfl
  cases h

/-- A reset empties the journal; one that returns starts a new history. -/
private theorem Isolating.reset (hI : Isolating s) (ok removed : Bool)
    (hquiet : s.Quiescent (.reset ok removed)) : Isolating (s.reset ok removed) := by
  obtain ⟨hstate, hreturned, hfile⟩ := s.guard.resetForNewClaim_state ok removed
  simp only [RpcState.reset]
  cases hr : s.guard.resetForNewClaim ok removed with
  | mk guard r =>
    rw [hr] at hstate hreturned hfile
    cases r with
    | ok u =>
      -- the reset went through, and a quiescent worker has only its answer left
      obtain ⟨hok, hremoved, hempty⟩ := hreturned rfl
      refine ⟨⟨?_, ?_⟩, ?_⟩
      · intro i job hi
        rw [emit_trace, sinceReset_reset] at hi
        cases hi
      · intro _
        simp only [JournalFrom, emit_guard]
        rw [show guard.journal.state = .empty from hstate, show load guard.journal.file = .empty
          from hempty]
        exact ⟨.empty _, .empty _⟩
      · intro i w hw hg
        have hterminal := hquiet hok hremoved _ (Dict.mem_of_get? hw) hg
        cases hpc : w.pc <;> simp [hpc, Pc.isTerminal] at hterminal
        exact .inl ⟨_, rfl⟩
    -- it raised: the state is empty, and the file is empty or of this claim
    | error e =>
      refine hI.keep_silent silent_nil (by simp) (fun i w hw hg => hI.workers i w hw hg) fun h => ?_
      simp only [JournalFrom]
      rw [show guard.journal.state = .empty from hstate]
      refine ⟨.empty _, ?_⟩
      rcases hfile with hf | hf
      · rw [show load guard.journal.file = .empty from hf]; exact .empty _
      · rw [show guard.journal.file = s.guard.journal.file from hf]; exact h.2

/-- Every quiescent step keeps the claims apart. -/
theorem Isolating.step {a : Label} (hI : Isolating s) (hquiet : s.Quiescent a)
    (h : step cfg s a = some s') : Isolating s' := by
  have hsame : ∀ i w, s.workers.get? i = some w → w.job.governed = true →
      (∃ c, w.pc = .terminal c) ∨ .accepted i w.job ∈ sinceReset s.trace := hI.workers
  cases step_moves h with
  | quiet d es hes => exact hI.keep_silent hes rfl hsame id
  -- the commands accepted since the reset are one more
  | accept d r job _ =>
    have hes : ∀ e ∈ [Event.response s.nextId r, .accepted s.nextId job], e.keepsClaim = true := by
      simp [Event.keepsClaim]
    refine hI.keep hes rfl ?_ (by simp) fun h => h.mono fun _ => List.mem_append_left _
    intro i w hw hg
    obtain ⟨rfl, rfl⟩ | ⟨_, hw⟩ := Dict.of_get?_set hw
    · exact .inr (by simp)
    · exact (hsame i w hw hg).imp_right (List.mem_append_left _)
  -- the other steps accept nothing, so each says which worker it changes and what it writes
  | doomed i w e hw hpc hk =>
    exact hI.keep_silent silent_nil (by simp) (hI.workers_erase i) id
  | lock i w key hw hpc hg hk hfree =>
    exact hI.keep_silent silent_nil (by simp) (hI.workers_set hw fun _ c => by simp [hpc]) id
  | advance a i w pc es hw hes hrun hg =>
    exact hI.keep_silent hes rfl (hI.workers_set hw fun hgov => ne_terminal_of_busy (hg hgov).1) id
  | mark i w now ok guard r hw hpc hg hm =>
    exact hI.keep_silent (silent_response i r) rfl (hI.workers_set hw fun _ c => by simp [hpc])
      (hI.marked hw (fun c => by simp [hpc]) (.inr ⟨hg, _, hm⟩))
  | call i w hw hpc =>
    have hes : ∀ e ∈ [Event.invoked i w.job], e.keepsClaim = true := by simp [Event.keepsClaim]
    refine hI.keep hes rfl ?_ ?_ fun h => h.mono fun _ => List.mem_append_left _
    · intro j w' hw' hg
      exact (hI.workers_set hw (fun _ c => by simp [hpc]) j w' hw' hg).imp_right
        (List.mem_append_left _)
    · intro j job hj hg
      simp only [List.mem_singleton, Event.invoked.injEq] at hj
      obtain ⟨rfl, rfl⟩ := hj
      exact hI.accepted hw hg fun c => by simp [hpc]
  | file a i w c guard hw hpc hg hm =>
    exact hI.keep_silent silent_nil (by simp) (hI.workers_set hw fun _ => ne_terminal_of_busy hpc)
      (hI.marked hw (ne_terminal_of_busy hpc) (.inr ⟨hg, _, hm⟩))
  | unwind a i w e guard es hw hpc hes hguard =>
    refine hI.keep_silent hes (by simp only [goto_trace, unlock_trace]) ?_ ?_
    · simp only [goto_workers, unlock_workers]
      exact hI.workers_set hw fun _ => ne_terminal_of_busy hpc
    · simp only [goto_guard, unlock_guard]
      exact hI.marked hw (ne_terminal_of_busy hpc) hguard
  | finish i w c r hw hpc =>
    refine hI.keep_silent (silent_response i r)
      (by simp only [retire_trace, unlock_trace, emit_trace]) ?_ ?_
    · simp only [retire_workers, unlock_workers, emit_workers]
      exact hI.workers_erase i
    · simp only [retire_guard, unlock_guard, emit_guard, imp_self]
  | abort a i w e guard es hw hpc hes hguard =>
    exact hI.keep_silent hes rfl (hI.workers_erase i)
      (hI.marked hw (fun c => by simp [hpc]) hguard)
  -- a restart loads the file, and that is of this claim too
  | crash guard hinit =>
    simp only [GovernedCommandGuard.init, Except.map_eq_ok] at hinit
    obtain ⟨policy, _, rfl⟩ := hinit
    exact hI.keep_silent silent_nil (by simp) (by simp) fun h => ⟨h.2, h.2⟩
  | reset ok removed => exact hI.reset ok removed hquiet
  | policy wire fileOk ok =>
    have hes : ∀ e ∈ [Event.policy wire], e.keepsClaim = true := by simp [Event.keepsClaim]
    refine hI.keep hes rfl ?_ (by simp) fun h => ?_
    · exact fun i w hw hg => (hsame i w hw hg).imp_right (List.mem_append_left _)
    · exact installPolicy_journalFrom cfg.guard wire fileOk ok
        (h.mono fun _ => List.mem_append_left _) (by simp)

open PumpStation

end RpcState

end Novena

import NovenaGateway.Spec.CommandWorkers

/-!
# The turns of a worker

What one action of a worker means for the answers to its delivery. `worker_turn` is the inversion
the count of answers is proved from: a worker goes on without a terminal response, or it ends with
one. `Sound.drains` says that workers come to their ends: a worker that waits for a device lock
waits for one that does not wait, and every action lowers what is ahead of the workers.

Key results:
- `RpcState.worker_turn`
- `RpcState.Sound.drains`
-/

namespace Novena

/-! ## Terminal responses -/

/-- A stage other than `gateway_received` and `executing`. -/
def finalStage (stage : String) : Bool := stage ≠ "gateway_received" ∧ stage ≠ "executing"

/-- A terminal response of delivery `i`. -/
def Event.answers (i : Nat) : Event → Bool
  | .response j r => j = i && finalStage r.stage
  | _ => false

/-- The number of terminal responses of delivery `i`. -/
def answerCount (trace : List Event) (i : Nat) : Nat := trace.countP (Event.answers i)

/-- The answers of a longer trace. -/
theorem answerCount_append (trace es : List Event) (i : Nat) :
    answerCount (trace ++ es) i = answerCount trace i + answerCount es i :=
  List.countP_append

/-- Events that answer nothing. -/
def Unanswering (es : List Event) : Prop := ∀ e ∈ es, ∀ i, e.answers i = false

/-- Events that answer nothing. -/
theorem Unanswering.count {es : List Event} (h : Unanswering es) (i : Nat) :
    answerCount es i = 0 :=
  List.countP_eq_zero.mpr fun e he => by simp [h e he i]

/-- And no events. -/
theorem Unanswering.nil : Unanswering [] := fun _ he => absurd he List.not_mem_nil

/-- A final response is one answer. -/
theorem answerCount_response (i j : Nat) {r : Response} (h : finalStage r.stage = true) :
    answerCount [.response i r] j = if i = j then 1 else 0 := by
  by_cases hij : i = j <;> simp [answerCount, Event.answers, h, hij]

/-- The outcome of a worker has a final stage. -/
def Pc.Closed : Pc → Prop
  | .returned c | .terminal c => finalStage c.stage = true
  | _ => True

/-- How many actions a worker has ahead of it at most. -/
def Pc.rank : Pc → Nat
  | .start => 8
  | .locked => 7
  | .checked => 6
  | .ready => 5
  | .running => 4
  | .returned _ => 3
  | .terminal _ => 2
  | .failing _ => 1

/-- The stage of a result is final. -/
theorem stageOf_final {job : Job} {status stage : String} {result : Json}
    (h : Worker.stageOf job status result = .ok stage) : finalStage stage = true := by
  simp only [Worker.stageOf] at h
  split at h
  · exact Except.ok.inj h ▸ by decide
  split at h
  · split at h
    · simp only [Except.bind_eq_ok, Except.pure_eq_ok] at h
      obtain ⟨_, _, rfl⟩ := h
      split <;> decide
    · exact Except.ok.inj h ▸ by decide
  split at h
  · exact Except.ok.inj h ▸ by decide
  split at h <;> exact Except.ok.inj h ▸ by decide

/-- The stage of a handler's result is final. -/
theorem conclude_closed {job : Job} {result : Json} {readResult : Py Json} {c : Conclusion}
    (h : Worker.conclude job result readResult = .ok c) : finalStage c.stage = true := by
  simp only [Worker.conclude] at h
  split at h <;> simp only [Except.bind_eq_ok, Except.pure_eq_ok] at h <;>
    obtain ⟨_, _, stage, hstage, rfl⟩ := h <;> exact stageOf_final hstage

/-! ## Terminal records -/

namespace GovernedCommandGuard

/-- The journal in memory has a terminal record of the job's command with a status. -/
def HasTerminal (g : GovernedCommandGuard) (job : Job) (status : String) : Prop :=
  ∃ c record, job.commandId? = some c ∧ g.journal.get c = some record ∧
    record.state = .terminal ∧ record.status = some status

/-- A terminal record is replayed under a final stage. -/
def FinalStages (g : GovernedCommandGuard) : Prop :=
  ∀ c record, g.journal.get c = some record → record.state = .terminal →
    ∀ stage ∈ record.stage, finalStage stage = true

/-- `g'` is `g` after a record of the job's command was written or not; a terminal one has a
    final stage. -/
def Filed (g : GovernedCommandGuard) (job : Job) (g' : GovernedCommandGuard) : Prop :=
  g' = g ∨ ∃ c record now ok, job.commandId? = some c ∧
    (record.state = .terminal → ∀ stage ∈ record.stage, finalStage stage = true) ∧
    g' = { g with journal := (g.journal.write c record now ok).1 }

variable {g g' : GovernedCommandGuard} {job : Job}

/-- A mark files the outcome of its job. -/
theorem mark_filed {record : CommandIdentity → CommandRecord} {now : Int} {ok : Bool} {r : Py Unit}
    (hfinal : ∀ id, (record id).state = .terminal →
      ∀ stage ∈ (record id).stage, finalStage stage = true)
    (h : g.mark job.payload record now ok = (g', r)) : g.Filed job g' := by
  simp only [mark] at h
  split at h
  · cases h; exact .inl rfl
  · next id hid =>
    obtain ⟨hc, _, _⟩ := commandIdentity_ok hid
    simp only [Prod.mk.injEq] at h
    refine .inr ⟨id.commandId, record id, now, ok, ?_, hfinal id, h.1.symm⟩
    simp only [Job.commandId?, hc]

/-- `mark_terminal` leaves the terminal record in memory even when the file cannot be written. -/
theorem markTerminal_has {status stage : String} {result error : Json} {now : Int} {ok : Bool}
    (h : g.markTerminal job.payload status result error stage now ok = (g', .ok ())) :
    g'.HasTerminal job status := by
  simp only [markTerminal, mark] at h
  split at h
  · cases h
  · next id hid =>
    obtain ⟨hc, _, _⟩ := commandIdentity_ok hid
    simp only [Prod.mk.injEq] at h
    obtain ⟨rfl, _⟩ := h
    refine ⟨id.commandId, _, ?_, DurableCommandJournal.get_write_self .., rfl, rfl⟩
    simp only [Job.commandId?, hc]

/-- Records of other commands stay. -/
theorem Filed.get {c : String} (h : g.Filed job g') (hc : job.commandId? ≠ some c) :
    g'.journal.get c = g.journal.get c := by
  obtain rfl | ⟨c', record, now, ok, hc', _, rfl⟩ := h
  · rfl
  · have hne : c ≠ c' := by
      rintro rfl
      exact hc hc'
    simp only [DurableCommandJournal.get, (g.journal.write_state c' record now ok).1]
    exact Dict.get?_set_ne _ _ hne

/-- And leaves the outcomes of other jobs. -/
theorem Filed.hasTerminal {other : Job} {status : String} (h : g.Filed job g')
    (hne : job.commandId? ≠ other.commandId?) (ho : g.HasTerminal other status) :
    g'.HasTerminal other status := by
  obtain ⟨c, record, hc, hget, hrecord⟩ := ho
  exact ⟨c, record, hc, (h.get (hc ▸ hne)).trans hget, hrecord⟩

/-- The stages that are filed are final. -/
theorem Filed.finalStages (h : g.Filed job g') (hg : g.FinalStages) : g'.FinalStages := by
  obtain rfl | ⟨c', record', now, ok, _, hfinal, rfl⟩ := h
  · exact hg
  · intro c record hget
    simp only [DurableCommandJournal.get, (g.journal.write_state c' record' now ok).1] at hget
    rcases Dict.of_get?_set hget with ⟨rfl, rfl⟩ | ⟨_, hold⟩
    · exact hfinal
    · exact hg c record hold

end GovernedCommandGuard

/-- The worker an action belongs to. -/
def Label.worker? : Label → Option Nat
  | .acquire i | .prerequisites i _ | .markExecuting i _ _ | .call i | .handlerReturn i _ _
  | .markTerminal i _ _ | .finish i | .abort i _ _ => some i
  | .deliver _ | .crash | .reset _ _ | .installPolicy .. => none

namespace RpcState

open GovernedCommandGuard

variable {cfg : RpcConfig} {s s' : RpcState}

/-! ## One action of a worker -/

/-- What an action of worker `i` means for the answers: the worker goes on without one, or it ends
    with one. -/
inductive Turn (s : RpcState) (i : Nat) (w : Worker) : RpcState → Prop where
  | goes (guard : GovernedCommandGuard) (locks : List Json.Key) (pc : Pc) (es : List Event)
      (hes : Unanswering es) (hrank : pc.rank < w.pc.rank) (hclosed : pc.Closed)
      (hfiled : guard = s.guard ∨ w.job.governed = true ∧ s.guard.Filed w.job guard)
      (hrecord : ∀ c, pc = .terminal c → w.job.governed = true →
        guard.HasTerminal w.job c.status) :
      Turn s i w (({ s with guard, heldLocks := locks, trace := s.trace ++ es } : RpcState).goto
        i w pc)
  | ends (guard : GovernedCommandGuard) (locks : List Json.Key) (r : Response)
      (hstage : finalStage r.stage = true)
      (hfiled : guard = s.guard ∨ w.job.governed = true ∧ s.guard.Filed w.job guard)
      (hrecord : w.job.governed = true → guard.HasTerminal w.job r.status ∨
        ∃ c, w.pc = .terminal c ∧ r.status = c.status ∧ guard = s.guard) :
      Turn s i w (({ s with guard, heldLocks := locks,
                            trace := s.trace ++ [.response i r] } : RpcState).retire i)

/-- `mark_terminal` returns when it is called for the failure of a worker. -/
def FailureRecorded (g : GovernedCommandGuard) (w : Worker) (now : Int) (ok : Bool) : Prop :=
  match w.pc with
  | .failing e =>
    (g.markTerminal w.job.payload "error" .null (.str e.text) "failed" now ok).2 = .ok ()
  | _ => True

instance (g : GovernedCommandGuard) (w : Worker) (now : Int) (ok : Bool) :
    Decidable (FailureRecorded g w now ok) := by
  unfold FailureRecorded; split <;> infer_instance

/-- The record that the `except` block makes of a failed command is written. -/
def RecordsFailure (s : RpcState) : Label → Prop
  | .abort i now ok => ∀ w ∈ s.workers.get? i, w.job.governed = true →
      FailureRecorded s.guard w now ok
  | _ => True

instance (s : RpcState) : (a : Label) → Decidable (RecordsFailure s a)
  | .abort .. => by dsimp only [RecordsFailure]; infer_instance
  | .deliver _ | .acquire _ | .prerequisites .. | .markExecuting .. | .call _
  | .handlerReturn .. | .markTerminal .. | .finish _ | .crash | .reset ..
  | .installPolicy .. =>
    .isTrue trivial

/-- An exception sends the worker to its `except` block. -/
private theorem turn_unwind {i : Nat} {w : Worker} {e : Exn} {guard : GovernedCommandGuard}
    {es : List Event} (hes : Unanswering es) (hrank : 1 < w.pc.rank)
    (hfiled : guard = s.guard ∨ w.job.governed = true ∧ s.guard.Filed w.job guard) :
    Turn s i w (({ s with guard, trace := s.trace ++ es } : RpcState).unwind i w e) := by
  have hturn := Turn.goes guard (({ s with guard, trace := s.trace ++ es } : RpcState).unlock
    w.job).heldLocks (.failing e) es hes hrank trivial hfiled (i := i) (fun _ h => by cases h)
  have hunlock : ({ s with guard, heldLocks := (({ s with guard, trace := s.trace ++ es } :
      RpcState).unlock w.job).heldLocks, trace := s.trace ++ es } : RpcState) =
        ({ s with guard, trace := s.trace ++ es } : RpcState).unlock w.job := by
    unfold unlock
    split
    · unfold release
      split <;> rfl
    · rfl
  rw [hunlock] at hturn
  exact hturn

/-- A worker that goes on without an event and without a record. -/
private theorem turn_on {i : Nat} {w : Worker} (locks : List Json.Key) {pc : Pc}
    (hrank : pc.rank < w.pc.rank) (hclosed : pc.Closed) (hpc : ∀ c, pc ≠ .terminal c) :
    Turn s i w ({ s.goto i w pc with heldLocks := locks }) := by
  have hturn := Turn.goes s.guard locks pc [] .nil hrank hclosed (.inl rfl)
    (fun c hc => absurd hc (hpc c)) (s := s) (i := i)
  rw [List.append_nil] at hturn
  exact hturn

/-- To mark the execution is a turn of the worker. -/
private theorem markExecuting_turn {i : Nat} {w : Worker} {now : Int} {ok : Bool}
    (h : s.markExecuting i w now ok = some s') : Turn s i w s' := by
  simp only [markExecuting] at h
  split at h
  · next hpc =>
    split at h
    · next hg =>
      cases hm : s.guard.markExecuting w.job.payload now ok with
      | mk guard r =>
        rw [hm] at h
        -- a record of `executing` has no stage to be final
        have hfiled : s.guard.Filed w.job guard := by
          refine mark_filed ?_ hm
          intro id hstate
          cases hstate
        cases r with
        | ok u =>
          -- the response that goes with it is not an answer
          cases h
          refine .goes guard s.heldLocks .ready [_] ?_ (by rw [hpc]; decide) trivial
            (.inr ⟨hg, hfiled⟩) (fun _ h => by cases h)
          intro e he j
          rw [List.mem_singleton.mp he]
          simp [Event.answers, finalStage]
        -- a journal that cannot be written unwinds the worker
        | error e =>
          cases h
          have hturn := turn_unwind (s := s) (i := i) (e := e) .nil
            (by rw [hpc]; decide) (.inr ⟨hg, hfiled⟩)
          simpa using hturn
    · cases h
      exact turn_on s.heldLocks (by rw [hpc]; decide) trivial (fun _ h => by cases h)
  · cases h

/-- So is the return of its handler. -/
private theorem handlerReturn_turn {i : Nat} {w : Worker} {outcome readResult : Py Json}
    (h : s.handlerReturn i w outcome readResult = some s') : Turn s i w s' := by
  have hreturned : Unanswering [Event.returned i w.job] := by
    intro e he j
    rw [List.mem_singleton.mp he]
    rfl
  simp only [handlerReturn] at h
  split at h
  · next hpc =>
    split at h <;> cases h
    · next c hc =>
      obtain ⟨result, _, hconclude⟩ := Except.bind_eq_ok.mp hc
      exact .goes s.guard s.heldLocks (.returned c) _ hreturned (by rw [hpc]; simp [Pc.rank])
        (conclude_closed hconclude) (.inl rfl) (fun _ h => by cases h)
    · exact turn_unwind hreturned (by rw [hpc]; decide) (.inl rfl)
  · cases h

/-- And the record of the outcome. -/
private theorem markTerminal_turn {i : Nat} {w : Worker} {now : Int} {ok : Bool}
    (hclosed : w.pc.Closed) (h : s.markTerminal i w now ok = some s') : Turn s i w s' := by
  simp only [markTerminal] at h
  split at h
  · next c hpc =>
    rw [hpc] at hclosed
    split at h
    · next hg =>
      cases hm : s.guard.markTerminal w.job.payload c.status c.result c.error c.stage now ok with
      | mk guard r =>
        rw [hm] at h
        -- the stage that is filed is the conclusion's own
        have hfiled : s.guard.Filed w.job guard := by
          refine mark_filed ?_ hm
          intro id _ stage hstage
          exact Option.some.inj hstage ▸ hclosed
        cases r with
        | ok u =>
          cases h
          -- the next place is the conclusion with its record in the journal
          have hturn := Turn.goes guard s.heldLocks (.terminal c) [] .nil (s := s) (i := i)
            (by rw [hpc]; simp [Pc.rank]) hclosed (.inr ⟨hg, hfiled⟩) (fun c' hc' _ => by
              obtain rfl : c = c' := by simpa using hc'
              exact markTerminal_has hm)
          simpa using hturn
        | error e =>
          cases h
          have hturn := turn_unwind (s := s) (i := i) (e := e) .nil
            (by rw [hpc]; simp [Pc.rank]) (.inr ⟨hg, hfiled⟩)
          simpa using hturn
    -- without governance nothing is filed, so nothing has to be found
    · next hg =>
      cases h
      have hturn := Turn.goes s.guard s.heldLocks (.terminal c) [] .nil (s := s) (i := i)
        (by rw [hpc]; simp [Pc.rank]) hclosed (.inl rfl) (fun _ _ hgov => absurd hgov hg)
      simpa using hturn
  · cases h

/-- And the result. -/
private theorem finish_turn {i : Nat} {w : Worker} (hclosed : w.pc.Closed)
    (h : s.finish i w = some s') : Turn s i w s' := by
  simp only [finish] at h
  split at h
  · next c hpc =>
    rw [hpc] at hclosed
    cases h
    have hturn := Turn.ends s.guard
      ((s.respond i w.job c.status c.stage c.result c.error).unlock w.job).heldLocks
      { requestId := w.job.requestId, method := .str w.job.method, status := c.status,
        stage := c.stage, result := c.result, error := c.error } (s := s) (i := i) hclosed
      (.inl rfl) (fun _ => .inr ⟨c, hpc, rfl, rfl⟩)
    -- to leave the `with lock` block changes the locks and nothing else
    have hunlock : ∀ u : RpcState,
        ({ u with heldLocks := (u.unlock w.job).heldLocks } : RpcState) = u.unlock w.job := by
      intro u
      unfold unlock
      split
      · unfold release
        split <;> rfl
      · rfl
    have hstate := hunlock (s.respond i w.job c.status c.stage c.result c.error)
    rw [show (if w.job.governed = true then
        (s.respond i w.job c.status c.stage c.result c.error).release w.job
        else s.respond i w.job c.status c.stage c.result c.error) = _ from hstate.symm]
    exact hturn
  · cases h

/-- And the end after a failure. -/
private theorem abort_turn {i : Nat} {w : Worker} {now : Int} {ok : Bool}
    (hw : s.workers.get? i = some w) (hrecords : RecordsFailure s (.abort i now ok))
    (h : s.abort i w now ok = some s') : Turn s i w s' := by
  simp only [abort] at h
  split at h
  · next e hpc =>
    split at h
    · next hg =>
      -- `mark_terminal` is the last call, so it has to return for the record to exist
      have hreturns := hrecords w hw hg
      simp only [FailureRecorded, hpc] at hreturns
      cases hm : s.guard.markTerminal w.job.payload "error" .null (.str e.text) "failed" now ok with
      | mk guard r =>
        rw [hm] at h hreturns
        obtain rfl : r = .ok () := hreturns
        have hfiled : s.guard.Filed w.job guard := by
          refine mark_filed ?_ hm
          intro id _ stage hstage
          exact Option.some.inj hstage ▸ by decide
        cases h
        exact .ends guard s.heldLocks _ (by simp [finalStage]) (.inr ⟨hg, hfiled⟩)
          (fun _ => .inl (markTerminal_has hm))
    · next hg =>
      cases h
      exact .ends s.guard s.heldLocks _ (by simp [finalStage]) (.inl rfl)
        (fun hgov => absurd hgov hg)
  · cases h

/-- Every action of a worker is a turn, when a failure is recorded. -/
theorem worker_turn {a : Label} {i : Nat} {w : Worker} (ha : a.worker? = some i)
    (hw : s.workers.get? i = some w) (hadmitted : w.job.Admitted) (hclosed : w.pc.Closed)
    (hrecords : s.RecordsFailure a) (h : step cfg s a = some s') : Turn s i w s' := by
  -- the label names worker `i`, so the function runs on `w`
  have hbind : ∀ {f : Worker → Option RpcState} {j : Nat}, some j = some i →
      (s.workers.get? j).bind f = some s' → f w = some s' := by
    intro f j hj hf
    rw [Option.some.inj hj, hw] at hf
    exact hf
  cases a with
  | deliver | crash | reset | installPolicy => cases ha
  | acquire j =>
    have hacquire := hbind ha h
    simp only [acquire] at hacquire
    split at hacquire
    · next hpc =>
      split at hacquire
      · next hg =>
        -- an admitted command has a key, so `lock_for` does not raise
        obtain ⟨_, key, hkey, _⟩ := hadmitted hg
        rw [hkey] at hacquire
        dsimp only at hacquire
        -- the device is free, or the worker waits and this is no step
        split at hacquire
        · cases hacquire
        · obtain rfl := Option.some.inj ha
          cases hacquire
          exact turn_on _ (by rw [hpc]; decide) trivial (fun _ h => by cases h)
      · obtain rfl := Option.some.inj ha
        cases hacquire
        exact turn_on s.heldLocks (by rw [hpc]; decide) trivial (fun _ h => by cases h)
    · cases hacquire
  | prerequisites j verdict =>
    have hprerequisites := hbind ha h
    obtain rfl := Option.some.inj ha
    simp only [prerequisites] at hprerequisites
    split at hprerequisites
    · next hpc =>
      split at hprerequisites <;> cases hprerequisites
      · exact turn_on s.heldLocks (by rw [hpc]; decide) trivial (fun _ h => by cases h)
      · next e =>
        have hturn := turn_unwind (s := s) (i := j) (e := e) .nil (by rw [hpc]; decide) (.inl rfl)
        simpa using hturn
    · cases hprerequisites
  | markExecuting j now ok =>
    have hmark := hbind ha h
    obtain rfl := Option.some.inj ha
    exact markExecuting_turn hmark
  | call j =>
    have hcall := hbind ha h
    obtain rfl := Option.some.inj ha
    -- the call of the handler is a turn in every case
    simp only [call] at hcall
    split at hcall
    · next hpc =>
      cases hcall
      refine .goes s.guard s.heldLocks .running [_] ?_ (by rw [hpc]; decide) trivial (.inl rfl)
        (fun _ h => by cases h)
      intro e he j
      rw [List.mem_singleton.mp he]
      rfl
    · cases hcall
  -- what the handler returns or raises decides where the worker goes on
  | handlerReturn j outcome readResult =>
    have hreturn := hbind ha h
    obtain rfl := Option.some.inj ha
    exact handlerReturn_turn hreturn
  | markTerminal j now ok =>
    have hmark := hbind ha h
    obtain rfl := Option.some.inj ha
    exact markTerminal_turn hclosed hmark
  | finish j =>
    have hfinish := hbind ha h
    obtain rfl := Option.some.inj ha
    exact finish_turn hclosed hfinish
  | abort j now ok =>
    have habort := hbind ha h
    obtain rfl := Option.some.inj ha
    exact abort_turn hw hrecords habort

end RpcState

/-! ## Workers come to their end -/

/-- The worker holds the lock of its device. -/
def Pc.holding : Pc → Bool
  | .start | .failing _ => false
  | _ => true

namespace RpcState

open GovernedCommandGuard

variable {cfg : RpcConfig} {s s' : RpcState}

/-- Every lock that is held is held by a worker that lives. -/
def Locked (s : RpcState) : Prop :=
  ∀ key ∈ s.heldLocks, ∃ i w, s.workers.get? i = some w ∧ w.job.governed = true ∧
    w.job.lockKey = .ok key ∧ w.pc.holding = true

/-- What stays held when a worker leaves its lock. -/
private theorem mem_unlock {key : Json.Key} {job : Job} (h : key ∈ (s.unlock job).heldLocks) :
    key ∈ s.heldLocks ∧ (job.governed = true → job.lockKey ≠ .ok key) := by
  unfold unlock at h
  split at h
  · unfold release at h
    split at h
    · next key' hkey =>
      obtain ⟨hmem, hne⟩ := List.mem_filter.mp h
      refine ⟨hmem, fun _ hsame => ?_⟩
      obtain rfl := Except.ok.inj (hkey.symm.trans hsame)
      simp at hne
    · next x hkey => exact ⟨h, fun _ hsame => by cases hkey.symm.trans hsame⟩
  · next hg => exact ⟨h, fun hgov => absurd hgov hg⟩

/-- Holders that are not touched stay. -/
private theorem Locked.keep {u : RpcState} (h : s.Locked) {i : Nat} {w : Worker}
    (hw : s.workers.get? i = some w)
    (hlocks : ∀ key ∈ u.heldLocks, key ∈ s.heldLocks ∧
      (w.job.governed = true → w.pc.holding = true → w.job.lockKey ≠ .ok key))
    (hworkers : ∀ j v, j ≠ i → s.workers.get? j = some v → u.workers.get? j = some v) :
    u.Locked := by
  intro key hkey
  obtain ⟨hmem, hnot⟩ := hlocks key hkey
  obtain ⟨j, v, hv, hg, hlock, hholding⟩ := h key hmem
  refine ⟨j, v, hworkers j v ?_ hv, hg, hlock, hholding⟩
  rintro rfl
  obtain rfl := Option.some.inj (hw.symm.trans hv)
  exact hnot hg hholding hlock

/-- A worker that stays inside keeps its lock. -/
private theorem Locked.stay {u : RpcState} (h : s.Locked) {i : Nat} {w : Worker} {pc : Pc}
    (hw : s.workers.get? i = some w) (hlocks : u.heldLocks = s.heldLocks)
    (hworkers : u.workers = s.workers.set i { w with pc })
    (hholding : w.job.governed = true → w.pc.holding = true → pc.holding = true) : u.Locked := by
  intro key hkey
  rw [hlocks] at hkey
  obtain ⟨j, v, hv, hg, hlock, hin⟩ := h key hkey
  by_cases hj : j = i
  · subst hj
    obtain rfl := Option.some.inj (hw.symm.trans hv)
    exact ⟨j, { w with pc }, by rw [hworkers, Dict.get?_set_self], hg, hlock, hholding hg hin⟩
  · exact ⟨j, v, by rw [hworkers, Dict.get?_set_ne _ _ hj, hv], hg, hlock, hin⟩

/-- Every step keeps one holder for each lock. -/
theorem Locked.step {a : Label} (h : s.Locked) (hfresh : s.workers.get? s.nextId = none)
    (hstep : RpcState.step cfg s a = some s') : s'.Locked := by
  cases step_moves hstep with
  | quiet => exact h
  -- the new worker holds no lock
  | accept d r job _ =>
    intro key hkey
    obtain ⟨j, v, hv, hrest⟩ := h key hkey
    have hne : j ≠ s.nextId := by
      rintro rfl
      cases hfresh.symm.trans hv
    exact ⟨j, v, (Dict.get?_set_ne _ _ hne).trans hv, hrest⟩
  -- a worker whose key cannot be made has not locked
  | doomed i w e hw hpc hk =>
    refine h.keep hw (fun key hkey => ⟨hkey, fun _ hin => ?_⟩) fun j v hj hv => ?_
    · rw [hpc] at hin
      cases hin
    · rw [retire_workers, Dict.get?_erase, if_neg hj, hv]
  -- the key that is taken is held by worker `i`, and the others by whom they were
  | lock i w key hw hpc hg hk hfree =>
    intro key' hkey'
    rcases List.mem_cons.mp hkey' with rfl | hkey'
    · exact ⟨i, { w with pc := .locked }, Dict.get?_set_self .., hg, hk, rfl⟩
    · obtain ⟨j, v, hv, hg', hlock, hin⟩ := h key' hkey'
      have hne : j ≠ i := by
        rintro rfl
        obtain rfl := Option.some.inj (hw.symm.trans hv)
        rw [hpc] at hin
        cases hin
      exact ⟨j, v, (Dict.get?_set_ne _ _ hne).trans hv, hg', hlock, hin⟩
  -- a governed worker stays inside
  | advance a i w pc es hw hes hrun hg =>
    refine h.stay hw rfl rfl fun hgov _ => ?_
    have hbusy := (hg hgov).2
    cases pc <;> first | rfl | cases hbusy
  | mark i w now ok guard r hw hpc hg hm => exact h.stay hw rfl rfl fun _ _ => rfl
  | call i w hw hpc => exact h.stay hw rfl rfl fun _ _ => rfl
  | file a i w c guard hw hpc hg hm => exact h.stay hw rfl rfl fun _ _ => rfl
  -- outside the lock is given back
  | unwind a i w e guard es hw hpc hes hguard =>
    refine h.keep hw (fun key hkey => ?_) fun j v hj hv => ?_
    · obtain ⟨hmem, hnot⟩ := mem_unlock hkey
      exact ⟨hmem, fun hg _ => hnot hg⟩
    · rw [goto_workers, unlock_workers, Dict.get?_set_ne _ _ hj]
      exact hv
  -- and so it is at the end of the command
  | finish i w c r hw hpc =>
    refine h.keep hw (fun key hkey => ?_) fun j v hj hv => ?_
    · obtain ⟨hmem, hnot⟩ := mem_unlock hkey
      exact ⟨hmem, fun hg _ => hnot hg⟩
    · rw [retire_workers, unlock_workers, emit_workers, Dict.get?_erase, if_neg hj, hv]
  -- a failed worker gave its lock back before
  | abort a i w e guard es hw hpc hes hguard =>
    refine h.keep hw (fun key hkey => ⟨hkey, fun _ hin => ?_⟩) fun j v hj hv => ?_
    · rw [hpc] at hin
      cases hin
    · rw [retire_workers, Dict.get?_erase, if_neg hj]
      exact hv
  | crash => exact fun key hkey => absurd hkey List.not_mem_nil
  -- a reset keeps the workers and the locks
  | reset ok removed =>
    have hworkers := (s.reset_workers_trace ok removed).1
    have hlocks : (s.reset ok removed).heldLocks = s.heldLocks := by
      unfold reset
      rcases s.guard.resetForNewClaim ok removed with ⟨guard, _ | _⟩ <;> rfl
    intro key hkey
    rw [hlocks] at hkey
    rw [hworkers]
    exact h key hkey
  | policy => exact h

/-- A worker that does not wait for a lock can go on, whatever its environment answers. -/
theorem moves_inside {i : Nat} {w : Worker} (hw : s.workers.get? i = some w)
    (hpc : w.pc ≠ .start) : ∃ a s', a.worker? = some i ∧ step cfg s a = some s' := by
  -- the function of each place returns a state when its arguments are good
  have hstep : ∀ {a : Label} {f : Worker → Option RpcState},
      step cfg s a = (s.workers.get? i).bind f → (f w).isSome = true →
        ∃ s', step cfg s a = some s' := by
    intro a f ha hf
    rw [ha, hw]
    exact Option.isSome_iff_exists.mp hf
  cases hp : w.pc with
  -- a worker at `start` may wait for a lock; every other place has its turn
  | start => exact absurd hp hpc
  | locked =>
    obtain ⟨s', h⟩ := hstep (a := .prerequisites i (.ok ())) rfl (by simp [prerequisites, hp])
    exact ⟨_, s', rfl, h⟩
  | checked =>
    obtain ⟨s', h⟩ := hstep (a := .markExecuting i 0 true) rfl (by
      simp only [markExecuting, hp]
      split <;> [split <;> rfl; rfl])
    exact ⟨_, s', rfl, h⟩
  | ready =>
    obtain ⟨s', h⟩ := hstep (a := .call i) rfl (by simp [call, hp])
    exact ⟨_, s', rfl, h⟩
  | running =>
    obtain ⟨s', h⟩ := hstep (a := .handlerReturn i (.ok .null) (.ok .null)) rfl (by
      simp only [handlerReturn, hp]
      split <;> rfl)
    exact ⟨_, s', rfl, h⟩
  | returned c =>
    obtain ⟨s', h⟩ := hstep (a := .markTerminal i 0 true) rfl (by
      simp only [markTerminal, hp]
      split <;> [split <;> rfl; rfl])
    exact ⟨_, s', rfl, h⟩
  | terminal c =>
    obtain ⟨s', h⟩ := hstep (a := .finish i) rfl (by simp [finish, hp])
    exact ⟨_, s', rfl, h⟩
  | failing e =>
    obtain ⟨s', h⟩ := hstep (a := .abort i 0 true) rfl (by
      simp only [abort, hp]
      split <;> [split <;> rfl; rfl])
    exact ⟨_, s', rfl, h⟩

/-- While a worker lives, some worker can go on: one that waits for a lock waits for a worker that
    does not. -/
theorem Locked.moves (cfg : RpcConfig) (h : s.Locked) {i : Nat} {w : Worker}
    (hw : s.workers.get? i = some w) :
    ∃ a j s', a.worker? = some j ∧ RpcState.step cfg s a = some s' := by
  by_cases hpc : w.pc = .start
  -- who waits for a key waits for a worker inside, and that one can move
  · by_cases hheld : ∃ key ∈ s.heldLocks, w.job.governed = true ∧ w.job.lockKey = .ok key
    · obtain ⟨key, hmem, _, _⟩ := hheld
      obtain ⟨j, v, hv, _, _, hholding⟩ := h key hmem
      have hmoves : ∃ a s', a.worker? = some j ∧ RpcState.step cfg s a = some s' := by
        refine moves_inside hv fun hstart => ?_
        rw [hstart] at hholding
        cases hholding
      obtain ⟨a, s', ha, hstep⟩ := hmoves
      exact ⟨a, j, s', ha, hstep⟩
    -- nobody holds the key, so the worker can take it
    · have hacquire : (s.acquire i w).isSome = true := by
        simp only [acquire, hpc]
        split
        · next hg =>
          split
          · rfl
          · next key hkey =>
            rw [if_neg fun hmem => hheld ⟨key, hmem, hg, hkey⟩]
            rfl
        · rfl
      obtain ⟨s', hs'⟩ := Option.isSome_iff_exists.mp hacquire
      exact ⟨.acquire i, i, s', rfl, by simp only [RpcState.step, hw, Option.bind_some, hs']⟩
  · have hmoves : ∃ a s', a.worker? = some i ∧ RpcState.step cfg s a = some s' :=
      moves_inside hw hpc
    obtain ⟨a, s', ha, hstep⟩ := hmoves
    exact ⟨a, i, s', ha, hstep⟩

/-- The actions the workers have ahead of them at most. -/
def ahead (s : RpcState) : Nat := s.workers.total fun w => w.pc.rank

/-- A worker has a step to go. -/
theorem Pc.rank_pos (pc : Pc) : 0 < pc.rank := by
  cases pc <;> simp [Pc.rank]

/-- An action of a worker ends it, or moves it on. -/
theorem worker_effect {a : Label} {i : Nat} (ha : a.worker? = some i)
    (hworkers : ∀ w, s.workers.get? i = some w → w.job.Admitted ∧ w.pc.Closed)
    (h : step cfg s a = some s') : s'.nextId = s.nextId ∧ ∃ w, s.workers.get? i = some w ∧
      (s'.workers = s.workers.erase i ∨ ∃ pc, s'.workers = s.workers.set i { w with pc } ∧
        pc.rank < w.pc.rank ∧ pc.Closed) := by
  cases a with
  | deliver | crash | reset | installPolicy => cases ha
  | abort j now ok =>
    -- a worker whose record fails ends too
    obtain rfl := Option.some.inj ha
    obtain ⟨w, hw, habort⟩ := Option.bind_eq_some_iff.mp h
    simp only [abort] at habort
    split at habort
    · split at habort
      · split at habort <;> (cases habort; exact ⟨rfl, w, hw, .inl rfl⟩)
      · cases habort; exact ⟨rfl, w, hw, .inl rfl⟩
    · cases habort
  -- every other turn goes on or ends
  | _ =>
    obtain rfl := Option.some.inj ha
    obtain ⟨w, hw, _⟩ := Option.bind_eq_some_iff.mp h
    obtain ⟨hadmitted, hclosed⟩ := hworkers w hw
    have hturn := worker_turn rfl hw hadmitted hclosed (by exact trivial) h
    cases hturn with
    | goes guard locks pc es hes hrank hclosed' hfiled hrecord =>
      exact ⟨rfl, w, hw, .inr ⟨pc, rfl, hrank, hclosed'⟩⟩
    | ends => exact ⟨rfl, w, hw, .inl rfl⟩

/-- What the workers need to come to their ends. -/
structure Sound (s : RpcState) : Prop where
  locked : s.Locked
  fresh : s.workers.get? s.nextId = none
  workers : ∀ i w, s.workers.get? i = some w → w.job.Admitted ∧ w.pc.Closed

/-- Every action of a worker brings the workers nearer to their ends. -/
theorem Sound.worker_step {a : Label} {i : Nat} (hS : s.Sound) (ha : a.worker? = some i)
    (h : step cfg s a = some s') : s'.Sound ∧ s'.ahead < s.ahead := by
  obtain ⟨hnext, w, hw, herase | ⟨pc, hset, hrank, hclosed⟩⟩ :=
    worker_effect ha (fun w hw => hS.workers i w hw) h
  -- the worker ends: its own distance, which is positive, is gone from the sum
  · refine ⟨⟨hS.locked.step hS.fresh h, ?_, ?_⟩, ?_⟩
    · rw [herase, hnext, Dict.get?_erase, hS.fresh, ite_self]
    · intro j v hv
      rw [herase] at hv
      exact hS.workers j v (Dict.of_get?_erase hv).2
    · have htotal := Dict.total_erase (fun w : Worker => w.pc.rank) hw
      have hpos := Pc.rank_pos w.pc
      unfold ahead
      rw [herase]
      omega
  -- it goes on: its place is nearer to the end
  · refine ⟨⟨hS.locked.step hS.fresh h, ?_, ?_⟩, ?_⟩
    · have hne : s.nextId ≠ i := by
        rintro rfl
        cases hS.fresh.symm.trans hw
      rw [hset, hnext, Dict.get?_set_ne _ _ hne, hS.fresh]
    · intro j v hv
      rw [hset] at hv
      rcases Dict.of_get?_set hv with ⟨_, rfl⟩ | ⟨_, hv⟩
      · exact ⟨(hS.workers i w hw).1, hclosed⟩
      · exact hS.workers j v hv
    · have htotal : (s.workers.set i { w with pc }).total (fun w => w.pc.rank) + w.pc.rank =
          s.workers.total (fun w => w.pc.rank) + pc.rank := Dict.total_set _ hw _
      unfold ahead
      rw [hset]
      omega

/-- The workers can always be brought to their ends: as long as one lives, one can go on, and each
    action lowers what is ahead of them. -/
theorem Sound.drains (cfg : RpcConfig) (hS : s.Sound) : ∃ labels s',
    (∀ a ∈ labels, a.worker?.isSome = true) ∧ exec cfg s labels = some s' ∧ s'.workers = [] := by
  induction hn : s.ahead using Nat.strong_induction_on generalizing s with
  | _ n ih =>
    cases hlive : s.workers with
    | nil => exact ⟨[], s, by simp, rfl, hlive⟩
    | cons p rest =>
      obtain ⟨i, w⟩ := p
      have hw : s.workers.get? i = some w := by
        rw [hlive, Dict.get?_cons, if_pos rfl]
      obtain ⟨a, j, m, ha, hstep⟩ := hS.locked.moves cfg hw
      obtain ⟨hSm, hlower⟩ := hS.worker_step ha hstep
      obtain ⟨labels, s', hlabels, hexec, hend⟩ := ih m.ahead (hn ▸ hlower) hSm rfl
      refine ⟨a :: labels, s', ?_, Run.exec_cons.mpr ⟨m, hstep, hexec⟩, hend⟩
      intro b hb
      rcases List.mem_cons.mp hb with rfl | hb
      · rw [ha]; rfl
      · exact hlabels b hb

end RpcState

end Novena

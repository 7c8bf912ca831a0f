import NovenaGateway.Spec.WorkerTurns

/-!
# Every identified request is answered exactly once

A delivery with a request id is answered on the MQTT thread, or by the worker that is started for
it: when the worker ends, in its last line or in its `except` block. The invariant `Answers.Inv`
counts the answers: none while the worker lives, one when it is gone, with the same status as the
terminal record in the journal.

Three things go unanswered: a request on which a look-up or a coercion raises something other than
a `GovernedCommandRejected`, a failed command whose record cannot be written either, and, for the
status, a record that a second worker of the same command or a claim reset overwrites.

Key results:
- `Answers.answered_once`
- `Answers.never_answered`
-/

namespace Novena

/-! ## Deliveries -/

/-- A JSON object with a request id that is not blank, outside a pending release. -/
def Delivery.identified (d : Delivery) : Bool :=
  !d.releasePending && match d.payload with
    | .obj payload => isNonBlank (GovernedCommandGuard.field payload "request_id")
    | _ => false

/-- A guard's check that accepts, or raises the exception it is meant to raise. -/
def rejectsOnly {α : Type} : Py α → Bool
  | .ok _ | .error (.governedCommandRejected _) => true
  | .error _ => false

namespace RpcHandler

open GovernedCommandGuard

/-- The look-up of the method, and the guard's check of a command that gets that far, raise nothing
    but rejections. -/
def checksReject (cfg : RpcConfig) (g : GovernedCommandGuard) (d : Delivery) : Bool :=
  match d.payload with
  | .obj payload =>
    let method := (Dict.get? payload "method").getD (.str "")
    match method.hashKey, (Dict.get? payload "params").getD (.obj []) with
    | .error _, _ => false
    | .ok _, .obj params =>
      let job : Job := { requestId := "", method := method.toStr, params, payload,
                         control := .null }
      if job.governed then
        (precheck cfg job).isSome || rejectsOnly (g.validate cfg.guard d.clock payload)
      else if job.method ∈ signedDeploymentDiagnostics then
        rejectsOnly (validateDiagnostic cfg.guard cfg.diagnosticClockSkew d.clock payload)
      else true
    | .ok _, _ => true
  | _ => true

/-- A replayed record is a terminal record of the journal. -/
theorem validate_replay {cfg : GuardConfig} {g : GovernedCommandGuard} {clock : Clock}
    {envelope : Dict String Json} {control : Json} {record : CommandRecord}
    (h : g.validate cfg clock envelope = .ok (control, some record)) :
    record.state = .terminal ∧ ∃ c, g.journal.get c = some record := by
  simp only [validate, Except.bind_eq_ok, Except.pure_eq_ok, Prod.mk.injEq] at h
  obtain ⟨_, _, _, _, _, _, _, _, replay, hfresh, _, rfl⟩ := h
  simp only [validateFresh] at hfresh
  split at hfresh
  · next record' hrecord =>
    split at hfresh
    · next hterminal =>
      obtain rfl := Option.some.inj (Except.ok.inj hfresh)
      exact ⟨hterminal, _, hrecord⟩
    · cases hfresh
  · simp only [Except.bind_eq_ok, Except.pure_eq_ok] at hfresh
    obtain ⟨_, _, _, _, _, _, _, _, hnone⟩ := hfresh
    cases hnone

/-- A command that was done is answered with its final stage. -/
theorem replay_final {g : GovernedCommandGuard} {job : Job} {record : CommandRecord}
    (hfinal : g.FinalStages) (hterminal : record.state = .terminal)
    (hget : ∃ c, g.journal.get c = some record) {r : Response} (h : replay job record = .answered r) :
    finalStage r.stage = true := by
  obtain ⟨c, hget⟩ := hget
  have hstage := hfinal c record hget hterminal
  simp only [replay, Admission.answered.injEq] at h
  obtain rfl := h
  cases hs : record.stage with
  | none => rfl
  | some stage =>
    dsimp only
    split
    · rfl
    · exact hstage stage hs

/-- An admission that has answered, or has left the answer to a worker. -/
def Settles (a : Admission) : Prop :=
  (∃ r, a = .answered r ∧ finalStage r.stage = true) ∨
    ∃ r job, a = .started r job ∧ finalStage r.stage = false

/-- A rejection is final. -/
theorem settles_reject (requestId : String) (method : Json) (error : String) :
    Settles (reject requestId method error) :=
  .inl ⟨_, rfl, rfl⟩

/-- A started job is answered by its worker. -/
theorem settles_start (job : Job) : Settles (start job) := .inr ⟨_, _, rfl, rfl⟩

/-- And a governed command is rejected, answered again or started. -/
theorem settles_governed {cfg : RpcConfig} {g : GovernedCommandGuard} {clock : Clock} {job : Job}
    (hfinal : g.FinalStages)
    (h : ((precheck cfg job).isSome || rejectsOnly (g.validate cfg.guard clock job.payload)) =
      true) : Settles (admitGoverned cfg g clock job) := by
  unfold admitGoverned
  cases hpre : precheck cfg job with
  | some error => exact settles_reject ..
  | none =>
    simp only [hpre, Option.isSome_none, Bool.false_or] at h
    cases hv : g.validate cfg.guard clock job.payload with
    | error e =>
      rw [hv] at h
      cases e with
      | governedCommandRejected msg => exact settles_reject ..
      | _ => cases h
    | ok verdict =>
      obtain ⟨control, _ | record⟩ := verdict
      · exact settles_start _
      · obtain ⟨hterminal, hget⟩ := validate_replay hv
        exact .inl ⟨_, rfl, replay_final hfinal hterminal hget rfl⟩

/-- So is a diagnostic one. -/
theorem settles_diagnostic {cfg : RpcConfig} {clock : Clock} {job : Job}
    (h : rejectsOnly (validateDiagnostic cfg.guard cfg.diagnosticClockSkew clock job.payload) =
      true) : Settles (admitDiagnostic cfg clock job) := by
  unfold admitDiagnostic
  cases hv : validateDiagnostic cfg.guard cfg.diagnosticClockSkew clock job.payload with
  | error e =>
    rw [hv] at h
    cases e with
    | governedCommandRejected msg => exact settles_reject ..
    | _ => cases h
  | ok payload => exact settles_start _

/-- What becomes of an identified delivery. -/
theorem onRpcRequest_identified {cfg : RpcConfig} {g : GovernedCommandGuard} {d : Delivery}
    (hfinal : g.FinalStages) (hchecks : checksReject cfg g d = true) :
    (d.identified = false ∧ onRpcRequest cfg g d = .ignored) ∨
      (d.identified = true ∧ Settles (onRpcRequest cfg g d)) := by
  unfold onRpcRequest Delivery.identified
  unfold checksReject at hchecks
  -- the handler leaves in the order of its checks, and each exit is one case here
  by_cases hrelease : d.releasePending = true
  · left
    simp [hrelease]
  · simp only [hrelease, Bool.false_eq_true, if_false, Bool.not_false, Bool.true_and]
    cases hpayload : d.payload with
    -- a payload that is no object is dropped
    | null | bool | int | float | str | arr => exact .inl ⟨rfl, rfl⟩
    | obj payload =>
      rw [hpayload] at hchecks
      dsimp only at hchecks ⊢
      cases hid : field payload "request_id" with
      | null | bool | int | float | arr | obj => exact .inl ⟨rfl, rfl⟩
      | str requestId =>
        simp only [isNonBlank, decide_not]
        by_cases hblank : strip requestId.toList = []
        -- and so is one whose request id is blank
        · left
          simp [hblank]
        · right
          simp only [hblank, if_false, decide_false, Bool.not_false, true_and]
          -- from here on every exit answers; only a method that cannot be hashed would raise
          cases hmethod : ((Dict.get? payload "method").getD (.str "")).hashKey with
          | error e =>
            rw [hmethod] at hchecks
            cases hchecks
          | ok key =>
            rw [hmethod] at hchecks
            dsimp only at hchecks ⊢
            split
            · cases hparams : (Dict.get? payload "params").getD (.obj []) with
              | null | bool | int | float | str | arr => exact settles_reject ..
              | obj params =>
                rw [hparams] at hchecks
                -- the request id and the control play no part in the checks
                simp only [Job.governed, decide_eq_true_eq] at hchecks ⊢
                by_cases hg : ((Dict.get? payload "method").getD (.str "")).toStr ∈
                    stateChangingCommands
                · rw [if_pos hg] at hchecks ⊢
                  exact settles_governed hfinal hchecks
                · rw [if_neg hg] at hchecks ⊢
                  by_cases hdiagnostic : ((Dict.get? payload "method").getD (.str "")).toStr ∈
                      signedDeploymentDiagnostics
                  -- a signed diagnostic is checked like a command, but waits for no lock
                  · rw [if_pos hdiagnostic] at hchecks ⊢
                    exact settles_diagnostic hchecks
                  · rw [if_neg hdiagnostic]
                    exact settles_start _
            · exact settles_reject ..

end RpcHandler

/-! ## The system with its deliveries -/

/-- The command system with the numbers of the identified deliveries, and the governed workers that
    have ended since the last claim reset. -/
structure Answers where
  state : RpcState
  received : List Nat
  ended : List (Nat × Job)

namespace Answers

open GovernedCommandGuard RpcState

variable {cfg : RpcConfig} {e e' : Answers}

/-- The identified deliveries after an action. -/
def receive (e : Answers) : Label → List Nat
  | .deliver d => if d.identified then e.state.nextId :: e.received else e.received
  | _ => e.received

/-- The ended workers after an action. -/
def endings (e : Answers) (s' : RpcState) (a : Label) : List (Nat × Job) :=
  match a with
  | .reset .. => []
  | a => match a.worker? with
    | none => e.ended
    | some i => match e.state.workers.get? i with
      | none => e.ended
      | some w =>
        if w.job.governed ∧ (s'.workers.get? i).isNone then (i, w.job) :: e.ended else e.ended

/-- One action. -/
def step (cfg : RpcConfig) (e : Answers) (a : Label) : Option Answers :=
  (RpcState.step cfg e.state a).map fun s' =>
    { state := s', received := e.receive a, ended := e.endings s' a }

/-- Nothing but a rejection is raised on a delivery, no command is started while another worker of
    its command lives, a failure is recorded, no claim reset comes between a terminal record and
    its response, and the process stays alive. -/
def Answerable (cfg : RpcConfig) (e : Answers) : Label → Prop
  | .deliver d => RpcHandler.checksReject cfg e.state.guard d = true ∧
      match RpcHandler.onRpcRequest cfg e.state.guard d with
      | .started _ job => job.governed = true → ∀ p ∈ e.state.workers, p.2.job.governed = true →
          p.2.job.commandId? ≠ job.commandId?
      | _ => True
  | .abort i now ok => e.state.RecordsFailure (.abort i now ok)
  | .reset .. => ∀ p ∈ e.state.workers, p.2.job.governed = true → p.2.pc.rank ≠ 2
  | .crash => False
  | _ => True

instance (e : Answers) : (a : Label) → Decidable (Answerable cfg e a)
  | .deliver _ => by
    have : ∀ admission : Admission, Decidable (match admission with
        | .started _ job => job.governed = true → ∀ p ∈ e.state.workers, p.2.job.governed = true →
            p.2.job.commandId? ≠ job.commandId?
        | _ => True) := by
      intro admission
      cases admission <;> dsimp only <;> infer_instance
    dsimp only [Answerable]
    infer_instance
  | .abort .. => by dsimp only [Answerable]; infer_instance
  | .reset .. => by dsimp only [Answerable]; infer_instance
  | .crash => .isFalse id
  | .acquire _ | .prerequisites .. | .markExecuting .. | .call _ | .handlerReturn ..
  | .markTerminal .. | .finish _ | .installPolicy .. =>
    .isTrue trivial

/-- What a run keeps. -/
structure Inv (e : Answers) : Prop where
  /-- A number that is not given out has no worker and no answer. -/
  fresh : ∀ i, e.state.nextId ≤ i →
    e.state.workers.get? i = none ∧ answerCount e.state.trace i = 0
  received : ∀ i ∈ e.received, i < e.state.nextId
  /-- No answer while the worker lives, one when it is gone. -/
  live : ∀ i w, e.state.workers.get? i = some w →
    i ∈ e.received ∧ answerCount e.state.trace i = 0
  gone : ∀ i ∈ e.received, e.state.workers.get? i = none → answerCount e.state.trace i = 1
  worker : ∀ i w, e.state.workers.get? i = some w → w.job.Admitted ∧ w.pc.Closed
  /-- One worker for each command. -/
  distinct : ∀ i j w v, e.state.workers.get? i = some w → e.state.workers.get? j = some v →
    w.job.governed = true → v.job.governed = true → w.job.commandId? = v.job.commandId? → i = j
  /-- A worker that is about to send its result has it on record. -/
  recorded : ∀ i w c, e.state.workers.get? i = some w → w.pc = .terminal c →
    w.job.governed = true → e.state.guard.HasTerminal w.job c.status
  final : e.state.guard.FinalStages
  /-- A worker that has ended is gone, no other worker has its command, and its response has the
      status of the record. -/
  ended_gone : ∀ p ∈ e.ended, p.1 ∈ e.received ∧ e.state.workers.get? p.1 = none
  ended_other : ∀ p ∈ e.ended, ∀ i w, e.state.workers.get? i = some w →
    w.job.governed = true → w.job.commandId? ≠ p.2.commandId?
  ended_recorded : ∀ p ∈ e.ended, ∃ status, e.state.guard.HasTerminal p.2 status ∧
    ∀ r, .response p.1 r ∈ e.state.trace → finalStage r.stage = true → r.status = status

/-- What a worker files leaves the terminal records of other commands. -/
private theorem hasTerminal_filed {g guard : GovernedCommandGuard} {job other : Job}
    {status : String} (hfiled : guard = g ∨ job.governed = true ∧ g.Filed job guard)
    (hne : job.governed = true → job.commandId? ≠ other.commandId?)
    (h : g.HasTerminal other status) : guard.HasTerminal other status := by
  obtain rfl | ⟨hg, hfiled⟩ := hfiled
  · exact h
  · exact hfiled.hasTerminal (hne hg) h

/-- The stages that are filed stay final. -/
private theorem finalStages_filed {g guard : GovernedCommandGuard} {job : Job}
    (hfiled : guard = g ∨ job.governed = true ∧ g.Filed job guard) (h : g.FinalStages) :
    guard.FinalStages := by
  obtain rfl | ⟨_, hfiled⟩ := hfiled
  · exact h
  · exact hfiled.finalStages h

/-- No terminal response can be found where none is counted. -/
theorem not_final_of_count {trace : List Event} {i : Nat} (h : answerCount trace i = 0)
    {r : Response} (hr : .response i r ∈ trace) : finalStage r.stage = false := by
  have hnone := List.countP_eq_zero.mp h _ hr
  simpa [Event.answers] using hnone

/-- A worker goes on. -/
theorem Inv.goes (hI : e.Inv) {i : Nat} {w : Worker} (hw : e.state.workers.get? i = some w)
    {guard : GovernedCommandGuard} {locks : List Json.Key} {pc : Pc} {es : List Event}
    (hes : Unanswering es) (hclosed : pc.Closed)
    (hfiled : guard = e.state.guard ∨ w.job.governed = true ∧ e.state.guard.Filed w.job guard)
    (hrecord : ∀ c, pc = .terminal c → w.job.governed = true →
      guard.HasTerminal w.job c.status) :
    Inv { e with state := ({ e.state with guard, heldLocks := locks,
                                          trace := e.state.trace ++ es } : RpcState).goto i w pc } := by
  -- the entries before the step count, the new ones answer nobody
  have hcount : ∀ j, answerCount (e.state.trace ++ es) j = answerCount e.state.trace j := by
    intro j
    rw [answerCount_append, hes.count, Nat.add_zero]
  -- a worker after the step is worker `i`, or one from before
  have hworkers : ∀ {j v}, (e.state.workers.set i { w with pc }).get? j = some v →
      (j = i ∧ v = { w with pc }) ∨ (j ≠ i ∧ e.state.workers.get? j = some v) := Dict.of_get?_set
  have hjob : ∀ {j v}, (e.state.workers.set i { w with pc }).get? j = some v →
      ∃ u, e.state.workers.get? j = some u ∧ u.job = v.job := by
    intro j v hv
    rcases hworkers hv with ⟨rfl, rfl⟩ | ⟨_, hv⟩
    · exact ⟨w, hw, rfl⟩
    · exact ⟨v, hv, rfl⟩
  have hnone : ∀ {j}, e.state.workers.get? j = none →
      (e.state.workers.set i { w with pc }).get? j = none := by
    intro j hj
    have hne : j ≠ i := by
      rintro rfl
      cases hw.symm.trans hj
    rw [Dict.get?_set_ne _ _ hne, hj]
  refine { fresh := ?_, received := hI.received, live := ?_, gone := ?_, worker := ?_,
           distinct := ?_, recorded := ?_, final := finalStages_filed hfiled hI.final,
           ended_gone := ?_, ended_other := ?_, ended_recorded := ?_ }
  -- fresh: no worker and no answer at ids that have not been given out
  · intro j hj
    obtain ⟨hj₁, hj₂⟩ := hI.fresh j hj
    exact ⟨hnone hj₁, (hcount j).trans hj₂⟩
  -- live: who still works has no answer
  · intro j v hv
    obtain ⟨u, hu, _⟩ := hjob hv
    exact ⟨(hI.live j u hu).1, (hcount j).trans (hI.live j u hu).2⟩
  -- gone: a worker that is gone was gone before, since a step back keeps its id taken
  · intro j hj hgone
    refine (hcount j).trans (hI.gone j hj ?_)
    by_contra hsome
    obtain ⟨u, hu⟩ := Option.ne_none_iff_exists'.mp hsome
    have hstill : ((e.state.workers.set i { w with pc }).get? j).isSome = true :=
      Dict.get?_set_isSome (by rw [hu]; rfl) _ _
    cases (congrArg Option.isSome hgone).symm.trans hstill
  -- worker: the turn of worker `i` closed what it had open
  · intro j v hv
    rcases hworkers hv with ⟨rfl, rfl⟩ | ⟨_, hv⟩
    · exact ⟨(hI.worker j w hw).1, hclosed⟩
    · exact hI.worker j v hv
  -- distinct: no two live workers with one command
  · intro j k v u hv hu hgv hgu hsame
    obtain ⟨v', hv', hjv⟩ := hjob hv
    obtain ⟨u', hu', hju⟩ := hjob hu
    exact hI.distinct j k v' u' hv' hu' (hjv ▸ hgv) (hju ▸ hgu) (hjv ▸ hju ▸ hsame)
  -- recorded: worker `i` has just filed its record; the file of another has another command
  · intro j v c hv hpc hg
    rcases hworkers hv with ⟨rfl, rfl⟩ | ⟨hne, hv⟩
    · exact hrecord c hpc hg
    · refine hasTerminal_filed hfiled (fun hgw hsame => hne ?_) (hI.recorded j v c hv hpc hg)
      exact (hI.distinct i j w v hw hv hgw hg hsame).symm
  -- ended_gone
  · intro p hp
    obtain ⟨hlt, hgone⟩ := hI.ended_gone p hp
    exact ⟨hlt, hnone hgone⟩
  -- ended_other
  · intro p hp j v hv hg
    obtain ⟨u, hu, hju⟩ := hjob hv
    exact hju ▸ hI.ended_other p hp j u hu (hju ▸ hg)
  -- ended_recorded: the record of an ended command outlives the mark of a live one
  · intro p hp
    obtain ⟨status, hhas, hstatus⟩ := hI.ended_recorded p hp
    refine ⟨status, hasTerminal_filed hfiled (hI.ended_other p hp i w hw) hhas, ?_⟩
    intro r hr hfinal
    rcases List.mem_append.mp hr with hold | hnew
    · exact hstatus r hold hfinal
    · have hnot := hes _ hnew p.1
      simp [Event.answers, hfinal] at hnot

/-- A worker ends with its answer. -/
theorem Inv.ends (hI : e.Inv) {i : Nat} {w : Worker} (hw : e.state.workers.get? i = some w)
    {guard : GovernedCommandGuard} (locks : List Json.Key) {r : Response}
    (hstage : finalStage r.stage = true)
    (hfiled : guard = e.state.guard ∨ w.job.governed = true ∧ e.state.guard.Filed w.job guard)
    (hrecord : w.job.governed = true → guard.HasTerminal w.job r.status) :
    Inv ⟨({ e.state with guard, heldLocks := locks,
                         trace := e.state.trace ++ [.response i r] } : RpcState).retire i,
      e.received, if w.job.governed = true then (i, w.job) :: e.ended else e.ended⟩ := by
  -- one answer more, and it is worker `i`'s
  have hcount : ∀ j, answerCount (e.state.trace ++ [.response i r]) j =
      answerCount e.state.trace j + if i = j then 1 else 0 := by
    intro j
    rw [answerCount_append, answerCount_response i j hstage]
  have hworkers : ∀ {j v}, (e.state.workers.erase i).get? j = some v →
      j ≠ i ∧ e.state.workers.get? j = some v := Dict.of_get?_erase
  have hnone : ∀ {j}, e.state.workers.get? j = none → (e.state.workers.erase i).get? j = none := by
    intro j hj
    rw [Dict.get?_erase, hj, ite_self]
  refine { fresh := ?_, received := hI.received, live := ?_, gone := ?_, worker := ?_,
           distinct := ?_, recorded := ?_, final := finalStages_filed hfiled hI.final,
           ended_gone := ?_, ended_other := ?_, ended_recorded := ?_ }
  -- fresh: the id of a live worker has been given out
  · intro j hj
    obtain ⟨hj₁, hj₂⟩ := hI.fresh j hj
    have hlt := hI.received i (hI.live i w hw).1
    have hne : i ≠ j := by
      have hj' : e.state.nextId ≤ j := hj
      omega
    exact ⟨hnone hj₁, by rw [retire_trace, hcount, hj₂, if_neg hne]⟩
  -- live
  · intro j v hv
    obtain ⟨hne, hv⟩ := hworkers hv
    refine ⟨(hI.live j v hv).1, ?_⟩
    rw [retire_trace, hcount, (hI.live j v hv).2, if_neg (Ne.symm hne)]
  -- gone: worker `i` gets its answer in this step, the others had theirs
  · intro j hj hgone
    rw [retire_trace, hcount]
    by_cases hij : i = j
    · subst hij
      rw [(hI.live i w hw).2, if_pos rfl]
    · rw [if_neg hij]
      refine hI.gone j hj ?_
      rw [retire_workers, Dict.get?_erase, if_neg (Ne.symm hij)] at hgone
      exact hgone
  -- worker, distinct and recorded are those of the workers that are left
  · intro j v hv
    exact hI.worker j v (hworkers hv).2
  · intro j k v u hv hu
    exact hI.distinct j k v u (hworkers hv).2 (hworkers hu).2
  · intro j v c hv hpc hg
    obtain ⟨hne, hv⟩ := hworkers hv
    refine hasTerminal_filed hfiled (fun hgw hsame => hne ?_) (hI.recorded j v c hv hpc hg)
    exact (hI.distinct i j w v hw hv hgw hg hsame).symm
  -- ended_gone: worker `i` may have joined the ended ones
  · intro p hp
    have hended : p ∈ e.ended ∨ p = (i, w.job) ∧ w.job.governed = true := by
      split at hp
      · next hg => exact (List.mem_cons.mp hp).elim (fun h => .inr ⟨h, hg⟩) .inl
      · exact .inl hp
    rcases hended with hp | ⟨rfl, _⟩
    · obtain ⟨hreceived, hgone⟩ := hI.ended_gone p hp
      exact ⟨hreceived, hnone hgone⟩
    · exact ⟨(hI.live i w hw).1, by rw [retire_workers, Dict.get?_erase, if_pos rfl]⟩
  -- ended_other: a live worker has another command than `i` had
  · intro p hp j v hv hg
    obtain ⟨hne, hv⟩ := hworkers hv
    split at hp
    · next hgw =>
      rcases List.mem_cons.mp hp with rfl | hp
      · exact fun hsame => hne (hI.distinct j i v w hv hw hg hgw hsame)
      · exact hI.ended_other p hp j v hv hg
    · exact hI.ended_other p hp j v hv hg
  -- ended_recorded, for the commands that had ended and then for that of worker `i`
  · intro p hp
    have hold : p ∈ e.ended → ∃ status, guard.HasTerminal p.2 status ∧ ∀ r',
        .response p.1 r' ∈ e.state.trace ++ [.response i r] → finalStage r'.stage = true →
          r'.status = status := by
      intro hpast
      obtain ⟨status, hhas, hstatus⟩ := hI.ended_recorded p hpast
      refine ⟨status, hasTerminal_filed hfiled (hI.ended_other p hpast i w hw) hhas, ?_⟩
      intro r' hr' hfinal
      rcases List.mem_append.mp hr' with hold | hnew
      · exact hstatus r' hold hfinal
      · -- an ended worker is not this one
        obtain ⟨rfl, _⟩ : p.1 = i ∧ r' = r := by simpa using hnew
        cases hw.symm.trans (hI.ended_gone p hpast).2
    split at hp
    · next hgw =>
      rcases List.mem_cons.mp hp with rfl | hp
      · refine ⟨r.status, hrecord hgw, ?_⟩
        intro r' hr' hfinal
        rcases List.mem_append.mp hr' with hbefore | hnew
        -- a live worker has no final answer in the trace, so the new one is the only one
        · have hnot := not_final_of_count (hI.live i w hw).2 hbefore
          cases hfinal.symm.trans hnot
        · obtain ⟨_, rfl⟩ : i = i ∧ r' = r := by simpa using hnew
          rfl
      · exact hold hp
    · exact hold hp

/-- An action of a worker. -/
theorem Inv.worker_step (hI : e.Inv) {a : Label} {i : Nat} (ha : a.worker? = some i)
    (hanswerable : Answerable cfg e a) (h : e.step cfg a = some e') : e'.Inv := by
  simp only [step, Option.map_eq_some_iff] at h
  obtain ⟨s', hstep, rfl⟩ := h
  -- the label is a turn of a worker that exists
  have hlive : ∃ w, e.state.workers.get? i = some w := by
    cases a with
    | deliver | crash | reset | installPolicy => cases ha
    | _ =>
      obtain rfl := Option.some.inj ha
      obtain ⟨w, hw, _⟩ := Option.bind_eq_some_iff.mp hstep
      exact ⟨w, hw⟩
  obtain ⟨w, hw⟩ := hlive
  -- the only turn with a condition is `abort`
  have hrecords : e.state.RecordsFailure a := by
    cases a with
    | abort => exact hanswerable
    | _ => exact trivial
  obtain ⟨hadmitted, hclosed⟩ := hI.worker i w hw
  have hreceive : e.receive a = e.received := by
    cases a with
    | deliver => cases ha
    | _ => rfl
  -- who leaves ends
  have hendings : e.endings s' a = if w.job.governed ∧ (s'.workers.get? i).isNone
      then (i, w.job) :: e.ended else e.ended := by
    cases a with
    | deliver | crash | reset | installPolicy => cases ha
    | _ =>
      obtain rfl := Option.some.inj ha
      simp only [endings, Label.worker?, hw]
  rw [hreceive, hendings]
  -- a turn goes on or ends, and each has its own lemma
  cases worker_turn ha hw hadmitted hclosed hrecords hstep with
  | goes guard locks pc es hes hrank hclosed hfiled hrecord =>
    rw [if_neg (by simp [goto_workers, Dict.get?_set_self])]
    exact hI.goes hw hes hclosed hfiled hrecord
  | ends guard locks r hstage hfiled hrecord =>
    have hrecord' : w.job.governed = true → guard.HasTerminal w.job r.status := by
      intro hg
      obtain hhas | ⟨c, hpc, hstatus, rfl⟩ := hrecord hg
      · exact hhas
      · exact hstatus ▸ hI.recorded i w c hw hpc hg
    have hends := hI.ends hw locks hstage hfiled hrecord'
    have hgone : ((e.state.workers.erase i).get? i).isNone = true := by
      rw [Dict.get?_erase, if_pos rfl]; rfl
    simpa only [retire_workers, hgone, and_true] using hends

/-- A delivery that starts no worker: it is answered at once when it is identified. -/
private theorem Inv.delivered (hI : e.Inv) (es : List Event) (received : List Nat)
    (hcount : ∀ j, answerCount es j =
      if j = e.state.nextId ∧ received ≠ e.received then 1 else 0)
    (hreceived : received = e.received ∨ received = e.state.nextId :: e.received)
    (hresponses : ∀ j r, .response j r ∈ es → j = e.state.nextId) :
    Inv ⟨{ e.state with nextId := e.state.nextId + 1, trace := e.state.trace ++ es }, received,
      e.ended⟩ := by
  -- an older id gets no answer from this delivery
  have hold : ∀ j, j < e.state.nextId → answerCount (e.state.trace ++ es) j =
      answerCount e.state.trace j := by
    intro j hj
    rw [answerCount_append, hcount, if_neg (by omega), Nat.add_zero]
  have hmem : ∀ {j}, j ∈ e.received → j ∈ received := by
    intro j hj
    rcases hreceived with h | h <;> rw [h]
    · exact hj
    · exact List.mem_cons_of_mem _ hj
  refine { hI with fresh := ?_, received := ?_, live := ?_, gone := ?_, ended_gone := ?_,
                   ended_recorded := ?_ }
  -- fresh
  · intro j hj
    have hj' : e.state.nextId + 1 ≤ j := hj
    obtain ⟨hnone, hzero⟩ := hI.fresh j (by omega)
    exact ⟨hnone, by rw [answerCount_append, hzero, hcount, if_neg (by omega)]⟩
  -- received
  · intro j hj
    show j < e.state.nextId + 1
    rcases hreceived with h | h <;> rw [h] at hj
    · have := hI.received j hj
      omega
    · rcases List.mem_cons.mp hj with rfl | hj
      · omega
      · have := hI.received j hj
        omega
  -- live
  · intro j w hw
    obtain ⟨hj, hzero⟩ := hI.live j w hw
    exact ⟨hmem hj, (hold j (hI.received j hj)).trans hzero⟩
  -- gone: the new id is answered in this step
  · intro j hj hgone
    rcases hreceived with h | h <;> rw [h] at hj
    · exact (hold j (hI.received j hj)).trans (hI.gone j hj hgone)
    · rcases List.mem_cons.mp hj with rfl | hj
      · show answerCount (e.state.trace ++ es) e.state.nextId = 1
        rw [answerCount_append, (hI.fresh _ (le_refl _)).2, hcount, h,
          if_pos ⟨rfl, List.cons_ne_self _ _⟩]
      · exact (hold j (hI.received j hj)).trans (hI.gone j hj hgone)
  -- ended_gone
  · intro p hp
    obtain ⟨hp₁, hp₂⟩ := hI.ended_gone p hp
    exact ⟨hmem hp₁, hp₂⟩
  -- ended_recorded: the responses of this delivery have the new id
  · intro p hp
    obtain ⟨status, hhas, hstatus⟩ := hI.ended_recorded p hp
    refine ⟨status, hhas, fun r hr hfinal => ?_⟩
    rcases List.mem_append.mp hr with hr | hr
    · exact hstatus r hr hfinal
    · have hnew := hresponses _ r hr
      have hpast := hI.received _ (hI.ended_gone p hp).1
      omega

/-- A delivery that starts a worker. -/
private theorem Inv.started (hI : e.Inv) {r : Response} {job : Job}
    (hstage : finalStage r.stage = false) (hadmitted : job.Admitted)
    (hunseen : job.governed = true → ∀ c, job.commandId? = some c →
      e.state.guard.journal.get c = none)
    (hother : job.governed = true → ∀ p ∈ e.state.workers, p.2.job.governed = true →
      p.2.job.commandId? ≠ job.commandId?) :
    Inv ⟨{ e.state with nextId := e.state.nextId + 1
                        workers := e.state.workers.set e.state.nextId ⟨job, .start⟩
                        trace := e.state.trace ++ [.response e.state.nextId r] ++
                          [.accepted e.state.nextId job] },
      e.state.nextId :: e.received, e.ended⟩ := by
  -- an acceptance is no answer
  have hcount : ∀ j, answerCount (e.state.trace ++ [.response e.state.nextId r] ++
      [.accepted e.state.nextId job]) j = answerCount e.state.trace j := by
    intro j
    have hnone : answerCount [.response e.state.nextId r] j = 0 := by
      simp [answerCount, Event.answers, hstage]
    have haccepted : answerCount [.accepted e.state.nextId job] j = 0 := rfl
    rw [answerCount_append, answerCount_append, hnone, haccepted]
    rfl
  have hfresh := hI.fresh e.state.nextId (le_refl _)
  have hworkers : ∀ {j v}, (e.state.workers.set e.state.nextId ⟨job, .start⟩).get? j = some v →
      (j = e.state.nextId ∧ v = ⟨job, .start⟩) ∨
        (j ≠ e.state.nextId ∧ e.state.workers.get? j = some v) := Dict.of_get?_set
  refine { hI with fresh := ?_, received := ?_, live := ?_, gone := ?_, worker := ?_,
                   distinct := ?_, recorded := ?_, ended_gone := ?_, ended_other := ?_,
                   ended_recorded := ?_ }
  -- fresh
  · intro j hj
    have hj' : e.state.nextId + 1 ≤ j := hj
    obtain ⟨hnone, hzero⟩ := hI.fresh j (by omega)
    exact ⟨by rw [Dict.get?_set_ne _ _ (by omega), hnone], (hcount j).trans hzero⟩
  -- received
  · intro j hj
    show j < e.state.nextId + 1
    rcases List.mem_cons.mp hj with rfl | hj
    · omega
    · have := hI.received j hj
      omega
  -- live
  · intro j v hv
    rcases hworkers hv with ⟨rfl, _⟩ | ⟨_, hv⟩
    · exact ⟨List.mem_cons_self, (hcount _).trans hfresh.2⟩
    · obtain ⟨hj, hzero⟩ := hI.live j v hv
      exact ⟨List.mem_cons_of_mem _ hj, (hcount j).trans hzero⟩
  -- gone: the new worker is there
  · intro j hj hgone
    have hne : j ≠ e.state.nextId := by
      rintro rfl
      rw [Dict.get?_set_self] at hgone
      cases hgone
    rw [Dict.get?_set_ne _ _ hne] at hgone
    exact (hcount j).trans (hI.gone j ((List.mem_cons.mp hj).resolve_left hne) hgone)
  -- worker
  · intro j v hv
    rcases hworkers hv with ⟨_, rfl⟩ | ⟨_, hv⟩
    · exact ⟨hadmitted, trivial⟩
    · exact hI.worker j v hv
  -- distinct: the command is not that of a live worker
  · intro j k v u hv hu hgv hgu hsame
    rcases hworkers hv with ⟨rfl, rfl⟩ | ⟨_, hv⟩ <;> rcases hworkers hu with ⟨rfl, rfl⟩ | ⟨_, hu⟩
    · rfl
    · exact absurd hsame.symm (hother hgv _ (Dict.mem_of_get? hu) hgu)
    · exact absurd hsame (hother hgu _ (Dict.mem_of_get? hv) hgv)
    · exact hI.distinct j k v u hv hu hgv hgu hsame
  -- recorded: the new worker has concluded nothing
  · intro j v c hv hpc hg
    rcases hworkers hv with ⟨_, rfl⟩ | ⟨_, hv⟩
    · cases hpc
    · exact hI.recorded j v c hv hpc hg
  -- ended_gone
  · intro p hp
    obtain ⟨hp₁, hp₂⟩ := hI.ended_gone p hp
    have hpast := hI.received _ hp₁
    exact ⟨List.mem_cons_of_mem _ hp₁, by rw [Dict.get?_set_ne _ _ (by omega), hp₂]⟩
  -- ended_other
  · intro p hp j v hv hg hsame
    rcases hworkers hv with ⟨_, rfl⟩ | ⟨_, hv⟩
    · -- an ended command is on record, and would have been replayed
      obtain ⟨_, ⟨c, record, hc, hget, _⟩, _⟩ := hI.ended_recorded p hp
      cases (hunseen hg c (hsame.trans hc)).symm.trans hget
    · exact hI.ended_other p hp j v hv hg hsame
  -- ended_recorded
  · intro p hp
    obtain ⟨status, hhas, hstatus⟩ := hI.ended_recorded p hp
    refine ⟨status, hhas, fun r' hr' hfinal => ?_⟩
    have hpast := hI.received _ (hI.ended_gone p hp).1
    rw [List.append_assoc] at hr'
    rcases List.mem_append.mp hr' with hr' | hr'
    · exact hstatus r' hr' hfinal
    · obtain ⟨hnew, _⟩ : p.1 = e.state.nextId ∧ r' = r := by simpa using hr'
      omega

/-- A delivery that can be answered keeps the invariant. -/
theorem Inv.deliver_step (hI : e.Inv) {d : Delivery} (hanswerable : Answerable cfg e (.deliver d))
    (h : e.step cfg (.deliver d) = some e') : e'.Inv := by
  simp only [step, RpcState.step, Option.map_some, Option.some.injEq] at h
  subst h
  obtain ⟨hchecks, hother⟩ := hanswerable
  simp only [endings, Label.worker?, receive]
  rcases RpcHandler.onRpcRequest_identified hI.final hchecks with
    ⟨hunknown, hignored⟩ | ⟨hknown, ⟨r, hanswered, hstage⟩ | ⟨r, job, hstarted, hstage⟩⟩
  -- without an identity nothing is recorded and nothing answered
  · simp only [RpcState.deliver, hignored, hunknown, Bool.false_eq_true, if_false]
    have hnone := hI.delivered [] e.received (by simp [answerCount]) (.inl rfl) (by simp)
    simpa using hnone
  -- answered at once
  · simp only [RpcState.deliver, hanswered, hknown, if_true]
    refine hI.delivered _ _ ?_ (.inr rfl) (by simp)
    intro j
    rw [answerCount_response _ _ hstage]
    by_cases hj : e.state.nextId = j
    · rw [if_pos hj, if_pos ⟨hj.symm, List.cons_ne_self _ _⟩]
    · rw [if_neg hj, if_neg (fun h => hj h.1.symm)]
  -- started, so that the answer is left to the worker
  · rw [hstarted] at hother
    simp only [RpcState.deliver, hstarted, hknown, if_true]
    refine hI.started hstage (RpcHandler.started_admitted hstarted) ?_ hother
    -- `validate` has looked for the command in the journal and not found it
    intro hg c hc
    obtain ⟨control, hvalid⟩ := (RpcHandler.onRpcRequest_started hstarted).2 hg
    obtain ⟨_, _, _, _, _, _, _, hnone⟩ := validate_fresh hvalid
    exact hnone c hc

/-- An action that touches neither workers nor answers. -/
private theorem Inv.beside (hI : e.Inv) (guard : GovernedCommandGuard) {es : List Event}
    (hes : Unanswering es) (ended : List (Nat × Job)) (hended : ∀ p ∈ ended, p ∈ e.ended)
    (hrecorded : ∀ i w c, e.state.workers.get? i = some w → w.pc = .terminal c →
      w.job.governed = true → guard.HasTerminal w.job c.status) (hfinal : guard.FinalStages)
    (hhas : ∀ p ∈ ended, ∀ status, e.state.guard.HasTerminal p.2 status →
      guard.HasTerminal p.2 status) :
    Inv ⟨{ e.state with guard, trace := e.state.trace ++ es }, e.received, ended⟩ := by
  have hcount : ∀ j, answerCount (e.state.trace ++ es) j = answerCount e.state.trace j := by
    intro j
    rw [answerCount_append, hes.count, Nat.add_zero]
  -- only the last part depends on the journal: a terminal record of an ended command is kept
  refine { hI with fresh := ?_, live := ?_, gone := ?_, recorded := hrecorded, final := hfinal,
                   ended_gone := ?_, ended_other := ?_, ended_recorded := ?_ }
  · intro j hj
    exact ⟨(hI.fresh j hj).1, (hcount j).trans (hI.fresh j hj).2⟩
  · intro j v hv
    exact ⟨(hI.live j v hv).1, (hcount j).trans (hI.live j v hv).2⟩
  · intro j hj hgone
    exact (hcount j).trans (hI.gone j hj hgone)
  · intro p hp
    exact hI.ended_gone p (hended p hp)
  · intro p hp
    exact hI.ended_other p (hended p hp)
  · intro p hp
    obtain ⟨status, hstatus, hresponses⟩ := hI.ended_recorded p (hended p hp)
    refine ⟨status, hhas p hp status hstatus, fun r hr hfinal => ?_⟩
    rcases List.mem_append.mp hr with hr | hr
    · exact hresponses r hr hfinal
    · have hnot := hes _ hr p.1
      simp [Event.answers, hfinal] at hnot

/-- And so does a reset. -/
theorem Inv.reset_step (hI : e.Inv) {ok removed : Bool}
    (hanswerable : Answerable cfg e (.reset ok removed))
    (h : e.step cfg (.reset ok removed) = some e') : e'.Inv := by
  simp only [step, RpcState.step, Option.map_some, Option.some.injEq] at h
  subst h
  -- the journal is empty even when the erased file could not be written or removed
  have hempty : (e.state.guard.resetForNewClaim ok removed).1.journal.state = .empty := by
    unfold resetForNewClaim DurableCommandJournal.reset
    have hstate := DurableCommandJournal.persist_state { e.state.guard.journal with state := .empty } ok
    cases hp : DurableCommandJournal.persist { e.state.guard.journal with state := .empty } ok with
    | mk journal result =>
      rw [hp] at hstate
      cases result with
      | error x => exact hstate
      | ok u => cases removed <;> exact hstate
  have hbeside : ∀ es, Unanswering es →
      Inv ⟨{ e.state with guard := (e.state.guard.resetForNewClaim ok removed).1,
                          trace := e.state.trace ++ es }, e.received, []⟩ := by
    intro es hes
    refine hI.beside _ hes [] (fun p hp => absurd hp List.not_mem_nil) ?_ ?_
      (fun p hp => absurd hp List.not_mem_nil)
    · intro i w c hw hpc hg
      -- a command with a terminal outcome not yet answered forbids the reset
      exact absurd (by rw [hpc]; rfl) (hanswerable _ (Dict.mem_of_get? hw) hg)
    · intro c record hget
      simp only [DurableCommandJournal.get, hempty] at hget
      cases hget
  have hsilent : Unanswering [Event.claimReset] := by
    intro x hx j
    rw [List.mem_singleton.mp hx]
    rfl
  simp only [receive, endings, RpcState.reset]
  rcases hr : e.state.guard.resetForNewClaim ok removed with ⟨guard, _ | _⟩
  · have hnone := hbeside [] .nil
    rw [hr, List.append_nil] at hnone
    exact hnone
  · have hmarked := hbeside [.claimReset] hsilent
    rw [hr] at hmarked
    exact hmarked

/-- And a new policy. -/
theorem Inv.policy_step (hI : e.Inv) {wire : Json} {fileOk ok : Bool}
    (h : e.step cfg (.installPolicy wire fileOk ok) = some e') : e'.Inv := by
  simp only [step, RpcState.step, Option.map_some, Option.some.injEq] at h
  subst h
  -- a policy records an epoch and touches no command record
  have hget : ∀ c, (e.state.guard.installPolicy cfg.guard wire fileOk ok).1.journal.get c =
      e.state.guard.journal.get c := by
    intro c
    unfold GovernedCommandGuard.installPolicy
    split
    · rfl
    · cases fileOk with
      | false => rfl
      | true =>
        simp only [if_true, DurableCommandJournal.recordEpoch, DurableCommandJournal.get,
          DurableCommandJournal.persist_state]
  have hhas : ∀ job status, e.state.guard.HasTerminal job status →
      (e.state.guard.installPolicy cfg.guard wire fileOk ok).1.HasTerminal job status := by
    rintro job status ⟨c, record, hc, hrecord, hrest⟩
    exact ⟨c, record, hc, (hget c).trans hrecord, hrest⟩
  have hsilent : Unanswering [Event.policy wire] := by
    intro x hx j
    rw [List.mem_singleton.mp hx]
    rfl
  refine hI.beside _ hsilent e.ended (fun _ h => h) ?_ ?_ fun p _ => hhas p.2
  · intro i w c hw hpc hg
    exact hhas _ _ (hI.recorded i w c hw hpc hg)
  · intro c record hrecord
    exact hI.final c record ((hget c).symm.trans hrecord)

/-- Every answerable action keeps the invariant. -/
theorem Inv.step (hI : e.Inv) {a : Label} (hanswerable : Answerable cfg e a)
    (h : e.step cfg a = some e') : e'.Inv := by
  cases a with
  | deliver d => exact hI.deliver_step hanswerable h
  | crash => exact absurd hanswerable id
  | reset ok removed => exact hI.reset_step hanswerable h
  | installPolicy wire fileOk ok => exact hI.policy_step h
  | _ => exact hI.worker_step rfl hanswerable h

/-! ## Runs -/

/-- The locks of an answerable run. -/
theorem Inv.locked_step (hI : e.Inv) {a : Label} (hlocked : e.state.Locked)
    (h : e.step cfg a = some e') : e'.state.Locked := by
  simp only [Answers.step, Option.map_eq_some_iff] at h
  obtain ⟨s', hstep, rfl⟩ := h
  exact hlocked.step (hI.fresh _ (le_refl _)).1 hstep

/-- Every identified request is answered exactly once: in every answerable run from a fresh start, a
    delivery has no terminal response while its worker lives and one when it does not; the
    response of every governed worker that has ended since the last claim reset has the status of
    the terminal record the journal has then; and the workers that live can come to their ends. -/
theorem answered_once {s : RpcState} {labels : List Label} (hboot : Booted cfg s)
    (hfile : s.guard.FinalStages)
    (hanswerable : Run.Along (step cfg) (Answerable cfg) ⟨s, [], []⟩ labels)
    (h : Run.exec (step cfg) ⟨s, [], []⟩ labels = some e') :
    (∀ i ∈ e'.received, answerCount e'.state.trace i =
      if (e'.state.workers.get? i).isSome then 0 else 1) ∧
    (∀ p ∈ e'.ended, p.1 ∈ e'.received ∧ ∃ r, .response p.1 r ∈ e'.state.trace ∧
      finalStage r.stage = true ∧ e'.state.guard.HasTerminal p.2 r.status) ∧
    ∃ labels' s', (∀ a ∈ labels', a.worker?.isSome = true) ∧
      exec cfg e'.state labels' = some s' ∧ s'.workers = [] := by
  -- nothing has been received when the gateway boots
  have hstart : Inv ⟨s, [], []⟩ ∧ s.Locked := by
    obtain ⟨policyFile, journalFile, guard, hinit, rfl⟩ := hboot
    refine ⟨{ fresh := fun i _ => ⟨rfl, rfl⟩, received := by simp, live := by simp,
              gone := by simp, worker := by simp, distinct := by simp, recorded := by simp,
              final := hfile, ended_gone := by simp, ended_other := by simp,
              ended_recorded := by simp }, fun key hkey => absurd hkey List.not_mem_nil⟩
  obtain ⟨hI, hlocked⟩ := Run.exec_invariant (I := fun e : Answers => e.Inv ∧ e.state.Locked)
    (fun _ _ _ hI hP h => ⟨hI.1.step hP h, hI.1.locked_step hI.2 h⟩) hstart hanswerable h
  -- the counts come from the two kinds of received ids: live and gone
  have hone : ∀ i ∈ e'.received, answerCount e'.state.trace i =
      if (e'.state.workers.get? i).isSome then 0 else 1 := by
    intro i hi
    cases hw : e'.state.workers.get? i with
    | none => exact hI.gone i hi hw
    | some w => exact (hI.live i w hw).2
  refine ⟨hone, fun p hp => ?_, Sound.drains cfg ⟨hlocked, (hI.fresh _ (le_refl _)).1, hI.worker⟩⟩
  obtain ⟨hreceived, hgone⟩ := hI.ended_gone p hp
  obtain ⟨status, hhas, hstatus⟩ := hI.ended_recorded p hp
  have hcount := hone p.1 hreceived
  rw [hgone] at hcount
  have hpos : 0 < answerCount e'.state.trace p.1 := by
    rw [hcount]
    decide
  -- what makes the count positive is a final response, and it has the recorded status
  obtain ⟨x, hx, hanswers⟩ := List.countP_pos_iff.mp hpos
  refine ⟨hreceived, ?_⟩
  cases x with
  | response j r =>
    simp only [Event.answers, Bool.and_eq_true] at hanswers
    obtain ⟨rfl, hfinal⟩ : j = p.1 ∧ finalStage r.stage = true := by simpa using hanswers
    exact ⟨r, hx, hfinal, hstatus r hx hfinal ▸ hhas⟩
  | accepted | invoked | returned | policy | claimReset => cases hanswers

open PumpStation

/-- One command from its delivery to its response. -/
def wholeRun : List Label :=
  [PumpStation.receive (command "command-1" (.int 7) 1)] ++ startHandler 0 ++ endHandler 0

/-- A command from its delivery to its answer. -/
theorem answered_once_whole : ∃ e', Run.exec (step config) ⟨boot, [], []⟩ wholeRun = some e' ∧
    answerCount e'.state.trace 0 = 1 ∧ ∃ job r, .response 0 r ∈ e'.state.trace ∧
      finalStage r.stage = true ∧ e'.state.guard.HasTerminal job r.status := by
  have hrun : ((Run.exec (step config) ⟨boot, [], []⟩ wholeRun).map fun e' =>
      (e'.received, e'.ended.map Prod.fst, (e'.state.workers.get? 0).isSome)) =
        some ([0], [0], false) := by decide +kernel
  have hfile : boot.guard.FinalStages := fun c record hget => by cases hget
  simp only [Option.map_eq_some_iff, Prod.mk.injEq] at hrun
  obtain ⟨e', h, hreceived, hended, hgone⟩ := hrun
  obtain ⟨hone, hrecorded, _⟩ := answered_once boot_booted hfile (by decide +kernel) h
  have hzero := hone 0 (by rw [hreceived]; exact List.mem_singleton_self _)
  rw [hgone] at hzero
  obtain ⟨p, hp, hp₀⟩ := List.mem_map.mp (hended ▸ List.mem_singleton_self 0)
  obtain ⟨_, r, hr, hfinal, hhas⟩ := hrecorded p hp
  exact ⟨e', h, hzero, p.2, r, hp₀ ▸ hr, hfinal, hhas⟩

/-- A request whose method is a list: the look-up of the command raises. -/
def listMethod : Delivery where
  releasePending := false
  clock := ⟨true, newYear⟩
  payload := .obj [("request_id", .str "request-1"), ("method", .arr [])]

/-- The delivery is identified, no worker is started for it, and it gets no terminal response. -/
theorem never_answered : Booted config boot ∧ listMethod.identified = true ∧
    ∃ e', Run.exec (step config) ⟨boot, [], []⟩ [.deliver listMethod] = some e' ∧
      0 ∈ e'.received ∧ e'.state.workers.get? 0 = none ∧ answerCount e'.state.trace 0 = 0 :=
  ⟨boot_booted, by decide, _, rfl, by decide, rfl, rfl⟩

end Answers

end Novena

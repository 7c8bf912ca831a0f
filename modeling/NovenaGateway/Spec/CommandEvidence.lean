import NovenaGateway.Spec.AtMostOnce

/-!
# Write-ahead evidence of governed commands

A worker calls its handler only after `mark_executing` has returned, and that returns only after the
journal's file was replaced. `RpcState.invoked_recorded` says that from then on, over every
interleaving and any number of restarts, the file has a record of the command until the journal is
reset: a restarted guard replays the terminal result, or refuses the command as uncertain.

Key results:
- `RpcState.invoked_recorded`
-/

namespace Novena

namespace DurableCommandJournal

/-- A recorded command: in memory and on disk. -/
def Recorded (j : DurableCommandJournal) (c : String) : Prop := c ∈ j.known ∧ c ∈ j.stored

variable {j : DurableCommandJournal} {c : String}

/-- A command that is recorded stays so with every write. -/
theorem Recorded.write (h : j.Recorded c) (c' : String) (record : CommandRecord) (now : Int)
    (ok : Bool) : (j.write c' record now ok).1.Recorded c := by
  have hknown := j.known_write c' record now ok h.1
  refine ⟨hknown, ?_⟩
  rcases j.stored_write c' record now ok with hs | hs
  · rw [hs]; exact h.2
  · rw [hs]; exact hknown

/-- And with a new epoch. -/
theorem Recorded.recordEpoch (h : j.Recorded c) (epoch : Int) (ok : Bool) :
    (j.recordEpoch epoch ok).1.Recorded c := by
  unfold DurableCommandJournal.recordEpoch
  refine ⟨?_, ?_⟩
  · simp only [known, get, persist_state]
    exact h.1
  · -- the file is the old one or holds what memory knows
    rcases stored_persist { j with state.maxEpoch := max epoch j.state.maxEpoch } ok with hs | hs
    · rw [hs]; exact h.2
    · rw [hs]; exact h.1

end DurableCommandJournal

namespace GovernedCommandGuard

open DurableCommandJournal

variable {cfg : GuardConfig} {g g' : GovernedCommandGuard} {c : String}

/-- And with a mark. -/
theorem Marked.keeps_recorded {job : Job} {r : Py Unit} (hm : g.Marked job g' r)
    (h : g.journal.Recorded c) : g'.journal.Recorded c := by
  obtain ⟨rfl, _⟩ | ⟨c', record, now, ok, _, _, _, rfl, _⟩ := hm.write
  · exact h
  · exact h.write c' record now ok

/-- A mark that returned has put its command on record. -/
theorem Marked.mark_recorded {job : Job} (hm : g.Marked job g' (.ok ()))
    (hc : job.commandId? = some c) : g'.journal.Recorded c := by
  obtain ⟨c', hc', hstored⟩ := hm.stored
  obtain rfl : c' = c := Option.some.inj (hc'.symm.trans hc)
  refine ⟨?_, hstored⟩
  obtain ⟨_, hr⟩ | ⟨c₁, record, now, ok, hc₁, _, _, rfl, _⟩ := hm.write
  · exact absurd rfl hr
  · obtain rfl : c₁ = c' := Option.some.inj (hc₁.symm.trans hc')
    exact g.journal.mem_known_write c₁ record now ok

/-- And with a new policy. -/
theorem recorded_installPolicy (h : g.journal.Recorded c) (wire : Json) (fileOk ok : Bool) :
    (g.installPolicy cfg wire fileOk ok).1.journal.Recorded c := by
  unfold installPolicy
  split
  · exact h
  · next payload epoch _ =>
    cases fileOk with
    | false => exact h
    | true => exact h.recordEpoch epoch ok

/-- What is in the file is recorded after a restart. -/
theorem init_recorded {policyFile : Option Json} (h : c ∈ g.journal.stored)
    (hinit : init cfg policyFile g.journal.file = .ok g') : g'.journal.Recorded c := by
  simp only [init, Except.map_eq_ok] at hinit
  obtain ⟨_, _, rfl⟩ := hinit
  exact ⟨h, h⟩

/-- A restarted guard answers for a command it has a record of: it replays a terminal result, and
    refuses everything else. -/
theorem validate_recorded (h : c ∈ g.journal.known) {envelope : Dict String Json}
    (hc : field envelope "command_id" = .str c) :
    ((∃ record, g.validateFresh envelope = .ok (some record) ∧ record.state = .terminal) ∨
      g.validateFresh envelope = .error (.governedCommandRejected
        "Prior execution outcome is uncertain; command will not repeat")) ∧
      ∀ clock control, g.validate cfg clock envelope ≠ .ok (control, none) := by
  obtain ⟨record, hrecord⟩ := Option.isSome_iff_exists.mp h
  -- a known command is answered from its record, or refused
  have hfresh : g.validateFresh envelope =
      if record.state = .terminal then .ok (some record)
      else .error (.governedCommandRejected
        "Prior execution outcome is uncertain; command will not repeat") := by
    unfold validateFresh
    simp only [hc, hrecord]
    rfl
  refine ⟨?_, ?_⟩
  · by_cases hterminal : record.state = .terminal
    · rw [if_pos hterminal] at hfresh
      exact .inl ⟨record, hfresh, hterminal⟩
    · rw [if_neg hterminal] at hfresh
      exact .inr hfresh
  -- never a fresh acceptance
  · intro clock control hvalid
    simp only [validate, Except.bind_eq_ok, Except.pure_eq_ok, Prod.mk.injEq] at hvalid
    obtain ⟨_, _, _, _, _, _, _, _, replay, hreplay, _, rfl⟩ := hvalid
    rw [hfresh] at hreplay
    split at hreplay
    · cases Except.ok.inj hreplay
    · cases hreplay

end GovernedCommandGuard

namespace RpcState

open DurableCommandJournal GovernedCommandGuard

variable {cfg : RpcConfig} {s s' : RpcState}

/-! ## The marks of a run -/

/-- The command system with the workers whose `mark_executing` returned and their commands: after
    the last journal reset, and before it. -/
structure Evidence where
  state : RpcState
  marks : List (Nat × String)
  former : List (Nat × String)

/-- The command that a `mark_executing` lets go on to its handler. -/
def markedCommand (s' : RpcState) : Label → Option (Nat × String)
  | .markExecuting i _ _ => ((s'.workers.get? i).bind Worker.heldCommand).map (i, ·)
  | _ => none

/-- One action. A reset puts the marks behind it whether it returns or not. -/
def Evidence.step (cfg : RpcConfig) (e : Evidence) (a : Label) : Option Evidence :=
  (RpcState.step cfg e.state a).map fun s' =>
    if a.isReset then ⟨s', [], e.marks ++ e.former⟩
    else ⟨s', (markedCommand s' a).toList ++ e.marks, e.former⟩

/-- A command that can go on to its handler is on disk. -/
theorem markedCommand_recorded {a : Label} (hstep : step cfg s a = some s') {i : Nat} {c : String}
    (hc : markedCommand s' a = some (i, c)) : s'.guard.journal.Recorded c := by
  cases a with
  | markExecuting j now ok =>
    simp only [markedCommand, Option.map_eq_some_iff, Option.bind_eq_some_iff] at hc
    -- the worker after the mark still holds the command
    obtain ⟨c', ⟨w', hw', hheld⟩, hpair⟩ := hc
    cases hpair
    obtain ⟨w, hw, h⟩ := Option.bind_eq_some_iff.mp hstep
    simp only [markExecuting] at h
    split at h
    -- governed commands only
    · split at h
      · next hg =>
        cases hm : s.guard.markExecuting w.job.payload now ok with
        | mk guard r =>
          rw [hm] at h
          have hmarked : s.guard.Marked w.job guard r := ⟨_, now, ok, fun _ => ⟨rfl, rfl⟩, hm⟩
          -- the mark has returned, so its record is in the file
          cases r with
          | ok u =>
            cases h
            simp only [goto_workers, Dict.get?_set_self, Option.some.injEq] at hw'
            subst hw'
            simp only [Worker.heldCommand, hg, if_true] at hheld
            exact hmarked.mark_recorded hheld
          | error e =>
            -- the mark raised, and the worker is on its way out
            cases h
            simp only [RpcState.unwind, goto_workers, Dict.get?_set_self, Option.some.injEq] at hw'
            subst hw'
            simp [Worker.heldCommand] at hheld
      -- an ungoverned command holds none
      · next hg =>
        cases h
        simp only [goto_workers, Dict.get?_set_self, Option.some.injEq] at hw'
        subst hw'
        simp [Worker.heldCommand, hg] at hheld
    · cases h
  | _ => cases hc

/-- No action other than a reset loses a record. -/
theorem step_recorded {a : Label} (hreset : a.isReset = false) (hstep : step cfg s a = some s')
    {c : String} (h : s.guard.journal.Recorded c) : s'.guard.journal.Recorded c := by
  cases step_moves hstep with
  -- the journal is left alone
  | quiet | accept | doomed | lock | advance | call => exact h
  | mark i w now ok guard r hw hpc hg hm => exact hm.keeps_recorded h
  | file a i w c guard hw hpc hg hm => exact hm.keeps_recorded h
  | unwind a i w e guard es hw hpc hes hguard =>
    rw [goto_guard, unlock_guard]
    -- no mark, or one that keeps the records
    obtain rfl | ⟨_, r, hm⟩ := hguard
    · exact h
    · exact hm.keeps_recorded h
  | finish i w c r hw hpc =>
    rw [retire_guard, unlock_guard]
    exact h
  | abort a i w e guard es hw hpc hes hguard =>
    obtain rfl | ⟨_, r, hm⟩ := hguard
    · exact h
    · exact hm.keeps_recorded h
  -- a restart reads them from the file
  | crash guard hinit => exact init_recorded h.2 hinit
  | reset ok removed => cases hreset
  | policy wire fileOk ok => exact recorded_installPolicy h wire fileOk ok

/-- The command of a governed job is among the marks `l` of its worker. -/
def MarkedIn (l : List (Nat × String)) (i : Nat) (job : Job) : Prop :=
  job.governed = true → ∃ c, job.commandId? = some c ∧ (i, c) ∈ l

/-- What was marked stays marked. -/
theorem MarkedIn.mono {l l' : List (Nat × String)} {i : Nat} {job : Job} (h : MarkedIn l i job)
    (hsub : l ⊆ l') : MarkedIn l' i job := fun hg =>
  let ⟨c, hc, hmem⟩ := h hg
  ⟨c, hc, hsub hmem⟩

/-- Workers that may call their handler, and those that have, are among the marks `l`. -/
structure Accounted (s : RpcState) (l : List (Nat × String)) : Prop where
  ready : ∀ i w, s.workers.get? i = some w → w.pc = .ready → MarkedIn l i w.job
  invoked : ∀ i job, .invoked i job ∈ s.trace → MarkedIn l i job

/-- And accounted for. -/
theorem Accounted.mono {l l' : List (Nat × String)} (h : Accounted s l) (hsub : l ⊆ l') :
    Accounted s l' :=
  ⟨fun i w hw hpc => (h.ready i w hw hpc).mono hsub, fun i job hi => (h.invoked i job hi).mono hsub⟩

/-- An action that moves worker `i` at most, and invokes nothing that is not accounted for. -/
theorem Accounted.of_set {l : List (Nat × String)} (h : Accounted s l) {i : Nat} {w' : Worker}
    (hworkers : s'.workers = s.workers.set i w') (hready : w'.pc = .ready → MarkedIn l i w'.job)
    {es : List Event} (htrace : s'.trace = s.trace ++ es)
    (hes : ∀ j job, .invoked j job ∈ es → MarkedIn l j job) : Accounted s' l := by
  refine ⟨fun j w hw hpc => ?_, fun j job hj => ?_⟩
  · rw [hworkers] at hw
    rcases Dict.of_get?_set hw with ⟨rfl, rfl⟩ | hw
    · exact hready hpc
    · exact h.ready j w hw.2 hpc
  · rw [htrace, List.mem_append] at hj
    exact hj.elim (h.invoked j job) (hes j job)

/-- An action that ends worker `i`. -/
theorem Accounted.of_erase {l : List (Nat × String)} (h : Accounted s l) {i : Nat}
    (hworkers : s'.workers = s.workers.erase i) {es : List Event}
    (htrace : s'.trace = s.trace ++ es) (hes : ∀ e ∈ es, e.silent = true) : Accounted s' l := by
  refine ⟨fun j w hw hpc => ?_, fun j job hj => ?_⟩
  · rw [hworkers] at hw
    exact h.ready j w (Dict.of_get?_erase hw).2 hpc
  · rw [htrace, List.mem_append] at hj
    exact hj.elim (h.invoked j job) fun he => by cases hes _ he

/-- Silent events invoke nothing. -/
theorem MarkedIn.of_silent {l : List (Nat × String)} {es : List Event}
    (hes : ∀ e ∈ es, e.silent = true) (j : Nat) (job : Job) (h : .invoked j job ∈ es) :
    MarkedIn l j job :=
  by cases hes _ h

/-- Every action keeps the account, with the mark it makes. -/
theorem step_accounted {a : Label} {l : List (Nat × String)} (hstep : step cfg s a = some s')
    (h : Accounted s l) : Accounted s' ((markedCommand s' a).toList ++ l) := by
  have hmono : Accounted s ((markedCommand s' a).toList ++ l) := h.mono (by simp)
  cases step_moves hstep with
  | quiet d es hes =>
    exact ⟨hmono.ready, fun j job hj => (List.mem_append.mp hj).elim (hmono.invoked j job)
      (MarkedIn.of_silent hes j job)⟩
  -- a new worker is not ready
  | accept d r job _ => exact hmono.of_set rfl (fun h => by cases h) rfl (by simp)
  | doomed i w e hw hpc hk =>
    exact hmono.of_erase rfl (List.append_nil _).symm (by simp)
  | lock i w key hw hpc hg hk hfree =>
    exact hmono.of_set rfl (fun h => by cases h) (List.append_nil _).symm (by simp)
  | advance a i w pc es hw hes hrun hg =>
    refine hmono.of_set rfl (fun hready hgov => ?_) rfl (MarkedIn.of_silent hes)
    -- a governed worker does not reach its handler this way
    have hbusy := (hg hgov).2
    dsimp only at hready
    rw [hready] at hbusy
    cases hbusy
  -- the command becomes ready and marked in one step
  | mark i w now ok guard r hw hpc hg hm =>
    refine hmono.of_set rfl (fun _ _ => ?_) rfl (by simp)
    obtain ⟨c, hc, _⟩ := hm.stored
    refine ⟨c, hc, List.mem_append_left _ ?_⟩
    simp [markedCommand, Worker.heldCommand, hg, hc]
  -- it was ready, so it was marked
  | call i w hw hpc =>
    refine hmono.of_set rfl (fun h => by cases h) rfl fun j job hj => ?_
    obtain ⟨rfl, rfl⟩ : j = i ∧ job = w.job := by simpa using hj
    exact hmono.ready j w hw hpc
  | file a i w c guard hw hpc hg hm =>
    exact hmono.of_set rfl (fun h => by cases h) (List.append_nil _).symm (by simp)
  | unwind a i w e guard es hw hpc hes hguard =>
    have hworkers := goto_workers
      (({ s with guard, trace := s.trace ++ es } : RpcState).unlock w.job) i w (.failing e)
    rw [unlock_workers] at hworkers
    refine hmono.of_set hworkers (fun h => by cases h) ?_ (MarkedIn.of_silent hes)
    rw [goto_trace, unlock_trace]
  | finish i w c r hw hpc =>
    have hworkers := retire_workers ((s.emit (.response i r)).unlock w.job) i
    rw [unlock_workers, emit_workers] at hworkers
    refine hmono.of_erase hworkers ?_ (silent_response i r)
    rw [retire_trace, unlock_trace, emit_trace]
  | abort a i w e guard es hw hpc hes hguard => exact hmono.of_erase rfl rfl hes
  -- a crash leaves the trace and no worker
  | crash guard hinit =>
    refine ⟨fun i w hw => ?_, hmono.invoked⟩
    rw [Dict.get?_nil] at hw
    cases hw
  -- a reset keeps the trace
  | reset ok removed =>
    obtain ⟨hworkers, htrace⟩ := s.reset_workers_trace ok removed
    refine ⟨fun j w hw => hmono.ready j w (hworkers ▸ hw), fun j job hj => ?_⟩
    rcases htrace with htrace | htrace <;> rw [htrace] at hj
    · exact hmono.invoked j job hj
    · exact hmono.invoked j job (by simpa using hj)
  | policy wire fileOk ok =>
    exact ⟨hmono.ready, fun j job hj => (List.mem_append.mp hj).elim (hmono.invoked j job)
      (MarkedIn.of_silent (by simp [Event.silent]) j job)⟩

/-! ## Runs -/

/-- Every command marked since the last reset is recorded, and every worker that may have called
    its handler is accounted for. -/
structure Evidence.Inv (e : Evidence) : Prop where
  recorded : ∀ p ∈ e.marks, e.state.guard.journal.Recorded p.2
  accounted : Accounted e.state (e.marks ++ e.former)

/-- Every step keeps the evidence. -/
theorem Evidence.Inv.step {e e' : Evidence} {a : Label} (hI : e.Inv)
    (h : e.step cfg a = some e') : e'.Inv := by
  simp only [Evidence.step, Option.map_eq_some_iff] at h
  obtain ⟨s', hstep, rfl⟩ := h
  have haccounted := step_accounted hstep hI.accounted
  -- a reset takes the marks out of account
  split
  · next hreset =>
    refine ⟨fun p hp => absurd hp List.not_mem_nil, haccounted.mono ?_⟩
    cases a with
    | reset ok removed => exact fun _ h => h
    | _ => cases hreset
  -- any other step adds the mark it made
  · next hreset =>
    refine ⟨fun p hp => ?_, by rwa [List.append_assoc]⟩
    -- the new mark is in the journal
    rcases List.mem_append.mp hp with hnew | hold
    · exact markedCommand_recorded hstep (Option.mem_toList.mp hnew)
    -- and those before stay there
    · exact step_recorded (by simpa using hreset) hstep (hI.recorded p hold)

/-- Write-ahead evidence: from a fresh start, over every interleaving of workers, restarts, resets
    and policy installations, a worker that has called its handler was marked with its command
    first; when that was after the last reset, the file has a record of the command, and a guard
    that starts from the files never lets it go on to a handler again: it replays the terminal
    result or refuses the command as uncertain. -/
theorem invoked_recorded {e' : Evidence} {labels : List Label} (hboot : Booted cfg s)
    (h : Run.exec (Evidence.step cfg) ⟨s, [], []⟩ labels = some e') {i : Nat} {job : Job}
    (hinvoked : .invoked i job ∈ e'.state.trace) (hgov : job.governed = true) :
    ∃ c, job.commandId? = some c ∧ ((i, c) ∈ e'.marks ∨ (i, c) ∈ e'.former) ∧
      ((i, c) ∈ e'.marks → c ∈ e'.state.guard.journal.stored ∧
        ∀ g, init cfg.guard e'.state.guard.policyFile e'.state.guard.journal.file = .ok g →
          ((∃ record, g.validateFresh job.payload = .ok (some record) ∧
              record.state = .terminal) ∨
            g.validateFresh job.payload = .error (.governedCommandRejected
              "Prior execution outcome is uncertain; command will not repeat")) ∧
          ∀ clock control, g.validate cfg.guard clock job.payload ≠ .ok (control, none)) := by
  -- before the first step there is nothing to account for
  have hstart : Evidence.Inv ⟨s, [], []⟩ := by
    obtain ⟨_, _, _, _, rfl⟩ := hboot
    refine ⟨fun p hp => absurd hp List.not_mem_nil, fun i w hw => ?_, fun i job hi => ?_⟩
    · rw [Dict.get?_nil] at hw
      cases hw
    · exact absurd hi List.not_mem_nil
  have hI : e'.Inv := Run.exec_invariant' (fun _ _ _ hI h => hI.step h) hstart h
  -- the invoked command was marked
  obtain ⟨c, hc, hmem⟩ := hI.accounted.invoked i job hinvoked hgov
  refine ⟨c, hc, List.mem_append.mp hmem, fun hmark => ?_⟩
  have hrec := hI.recorded _ hmark
  refine ⟨hrec.2, fun g hg => ?_⟩
  -- the text of its id is the one in the envelope
  have hfield : field job.payload "command_id" = .str c := by
    simp only [Job.commandId?] at hc
    split at hc
    · next hs => exact hs.trans (congrArg _ (Option.some.inj hc))
    · cases hc
  exact validate_recorded (init_recorded hrec.2 hg).1 hfield

open PumpStation

/-- A claim reset, the policy of the new claim, and a command whose handler is running. -/
def newClaimRun : List Label :=
  [.reset true true, .installPolicy policy true true,
    receive (command "command-1" (.int 7) 1)] ++ startHandler 0

/-- A command of a new claim. -/
theorem invoked_recorded_newClaim : ∃ e', Run.exec (Evidence.step config) ⟨boot, [], []⟩ newClaimRun =
      some e' ∧ (0, "command-1") ∈ e'.marks ∧ "command-1" ∈ e'.state.guard.journal.stored := by
  have hrun : ((Run.exec (Evidence.step config) ⟨boot, [], []⟩ newClaimRun).map fun e' =>
      (e'.marks, e'.former, (invokedJobs e'.state.trace).map Job.commandId?)) =
        some ([(0, "command-1")], [], [some "command-1"]) := by decide +kernel
  simp only [Option.map_eq_some_iff, Prod.mk.injEq] at hrun
  obtain ⟨e', h, hmarks, hformer, hjobs⟩ := hrun
  refine ⟨e', h, hmarks ▸ List.mem_singleton_self _, ?_⟩
  obtain ⟨job, hjob, hc⟩ : ∃ job ∈ invokedJobs e'.state.trace,
      job.commandId? = some "command-1" := by
    have hmem : some "command-1" ∈ (invokedJobs e'.state.trace).map Job.commandId? :=
      hjobs ▸ List.mem_singleton_self _
    simpa using hmem
  obtain ⟨hgov, i, hi⟩ := mem_invokedJobs.mp hjob
  obtain ⟨c, hc', hmem, hdur⟩ := invoked_recorded boot_booted h hi hgov
  rw [hmarks, hformer] at hmem
  obtain rfl : c = "command-1" := Option.some.inj (hc'.symm.trans hc)
  exact (hdur (hmarks ▸ hmem.resolve_right List.not_mem_nil)).1

end RpcState

end Novena

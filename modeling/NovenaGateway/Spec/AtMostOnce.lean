import Mathlib.Data.List.Nodup
import NovenaGateway.ForStd.WriteAhead
import NovenaGateway.Spec.CommandWorkers

/-!
# At-most-once execution of governed commands

The command journal is a ledger of claims: a record in memory claims a command, a record in
the file makes the claim durable, and a worker that is about to call its handler holds one.
`RpcState.ledger_step` shows that every action of the command system, except a claim reset,
is a sequence of ledger steps, as long as `mark_executing` finds no record of its command.
Then no command is invoked twice, over any interleaving and any number of restarts.

`mark_executing` does not look for a record itself, and `validate` looked on another thread:
two deliveries of one envelope can both be accepted before either is recorded.

Key results:
- `RpcState.invoked_once`
- `RpcState.duplicate_invoked_twice`
-/

namespace Novena

namespace DurableCommandJournal

/-- The commands the journal in memory has a record of. -/
def known (j : DurableCommandJournal) : Set String := { c | (j.get c).isSome }

/-- The commands a restart would have a record of. -/
def stored (j : DurableCommandJournal) : Set String :=
  { c | ((load j.file).commands.get? c).isSome }

/-- `_persist` leaves the known commands alone and makes the stored ones stay or become the
    known ones. -/
theorem stored_persist (j : DurableCommandJournal) (ok : Bool) :
    (j.persist ok).1.stored = j.stored ∨ (j.persist ok).1.stored = j.known := by
  rcases j.persist_cases ok with ⟨saved, hd, hp⟩ | ⟨e, hp⟩
  · right
    simp only [hp, stored, load, known, get, (dump_eq hd).1]
  · left
    rw [hp]

/-- A write forgets no command. -/
theorem known_write (j : DurableCommandJournal) (c : String) (record : CommandRecord) (now : Int)
    (ok : Bool) : j.known ⊆ (j.write c record now ok).1.known :=
  fun _ h => get_write_isSome h c record now ok

/-- And it knows its own. -/
theorem mem_known_write (j : DurableCommandJournal) (c : String) (record : CommandRecord)
    (now : Int) (ok : Bool) : c ∈ (j.write c record now ok).1.known := by
  simp only [known, Set.mem_ofPred_eq, get_write_self, Option.isSome_some]

/-- The file stays, or it has all that is known. -/
theorem stored_write (j : DurableCommandJournal) (c : String) (record : CommandRecord)
    (now : Int) (ok : Bool) :
    (j.write c record now ok).1.stored = j.stored ∨
      (j.write c record now ok).1.stored = (j.write c record now ok).1.known := by
  rcases j.write_file c record now ok with h | ⟨saved, hd, hf⟩
  · left; simp only [stored, h]
  · right; simp only [stored, hf, load, known, get, (dump_eq hd).1]

/-- A write that returned normally has put its command on disk. -/
theorem mem_stored_write {j : DurableCommandJournal} {c : String} {record : CommandRecord}
    {now : Int} {ok : Bool} (h : (j.write c record now ok).2 = .ok ()) :
    c ∈ (j.write c record now ok).1.stored := by
  obtain ⟨saved, hd, hf⟩ := write_ok h
  simp only [stored, hf, load, Set.mem_ofPred_eq, (dump_eq hd).1]
  exact j.mem_known_write c record now ok

/-- The journal only gains commands, and everything stored is known. -/
def Grows (j j' : DurableCommandJournal) : Prop :=
  j.known ⊆ j'.known ∧ j.stored ⊆ j'.stored ∧ j'.stored ⊆ j'.known

/-- Nothing is written. -/
theorem Grows.refl {j : DurableCommandJournal} (h : j.stored ⊆ j.known) : j.Grows j :=
  ⟨subset_rfl, subset_rfl, h⟩

/-- A write makes the journal grow. -/
theorem grows_write {j : DurableCommandJournal} (h : j.stored ⊆ j.known) (c : String)
    (record : CommandRecord) (now : Int) (ok : Bool) : j.Grows (j.write c record now ok).1 := by
  refine ⟨j.known_write c record now ok, ?_, ?_⟩ <;>
    rcases j.stored_write c record now ok with hs | hs <;> rw [hs]
  · exact h.trans (j.known_write c record now ok)
  · exact h.trans (j.known_write c record now ok)

/-- So does a dump. -/
theorem grows_persist {j : DurableCommandJournal} (h : j.stored ⊆ j.known) (ok : Bool) :
    j.Grows (j.persist ok).1 := by
  have hk : (j.persist ok).1.known = j.known := by simp only [known, get, persist_state]
  refine ⟨hk ▸ subset_rfl, ?_, ?_⟩ <;> rcases j.stored_persist ok with hs | hs <;> rw [hs]
  · exact h
  · exact hk ▸ h
  · exact hk ▸ subset_rfl

end DurableCommandJournal

namespace GovernedCommandGuard

open DurableCommandJournal

variable {g g' : GovernedCommandGuard} {job : Job}

/-- And a mark. -/
theorem Marked.grows {r : Py Unit} (h : g.Marked job g' r)
    (hsub : g.journal.stored ⊆ g.journal.known) : g.journal.Grows g'.journal := by
  obtain ⟨rfl, _⟩ | ⟨c, record, now, ok, _, _, _, rfl, _⟩ := h.write
  · exact .refl hsub
  · exact grows_write hsub c record now ok

/-- A mark that returned normally has stored its command. -/
theorem Marked.stored (h : g.Marked job g' (.ok ())) :
    ∃ c, job.commandId? = some c ∧ c ∈ g'.journal.stored := by
  obtain ⟨_, hr⟩ | ⟨c, record, now, ok, hc, _, _, rfl, hr⟩ := h.write
  · exact absurd rfl hr
  · exact ⟨c, hc, mem_stored_write hr.symm⟩

/-- And a new policy. -/
theorem installPolicy_grows (cfg : GuardConfig) (wire : Json) (fileOk ok : Bool)
    (hsub : g.journal.stored ⊆ g.journal.known) :
    g.journal.Grows (g.installPolicy cfg wire fileOk ok).1.journal := by
  simp only [installPolicy]
  split
  · exact .refl hsub
  · rename_i payload epoch _
    split
    · exact grows_persist (j := { g.journal with
        state.maxEpoch := max epoch g.journal.state.maxEpoch }) hsub ok
    · exact .refl hsub

end GovernedCommandGuard

/-! ## The ledger of a state -/

/-- The command a worker is about to invoke the handler of. -/
def Worker.heldCommand (w : Worker) : Option String :=
  match w.pc with
  | .ready => if w.job.governed then w.job.commandId? else none
  | _ => none

/-- The commands whose handler was invoked, in order. -/
def invokedCommands (trace : List Event) : List String :=
  (invokedJobs trace).filterMap Job.commandId?

/-- The invoked commands of a longer trace. -/
theorem invokedCommands_append (trace es : List Event) :
    invokedCommands (trace ++ es) = invokedCommands trace ++ invokedCommands es := by
  simp only [invokedCommands, invokedJobs_append, List.filterMap_append]

/-- Silent events invoke none. -/
theorem invokedCommands_silent {es : List Event} (h : ∀ e ∈ es, e.silent = true) :
    invokedCommands es = [] := by
  simp only [invokedCommands, (silent_jobs h).1, List.filterMap_nil]

/-- What an invocation adds. -/
theorem invokedCommands_invoked (i : Nat) (job : Job) :
    invokedCommands [.invoked i job] =
      (if job.governed then job.commandId? else none).toList := by
  simp only [invokedCommands, invokedJobs, List.filterMap_cons, List.filterMap_nil,
    Event.invokedJob]
  cases job.governed with
  | false => rfl
  | true => cases hc : job.commandId? <;> simp [hc]

/-- A worker that has marked its command no longer holds it. -/
theorem Pc.heldCommand_busy {job : Job} {pc : Pc} (h : pc.busy = true) :
    Worker.heldCommand ⟨job, pc⟩ = none := by
  cases pc with
  | locked | checked | running | returned => rfl
  | start | ready | terminal | failing => simp [Pc.busy] at h

/-- A claim reset. -/
def Label.isReset : Label → Bool
  | .reset .. => true
  | _ => false

namespace RpcState

open WriteAhead DurableCommandJournal

/-- The journal, the workers and the history as a ledger. -/
def ledger (s : RpcState) : Ledger Nat String where
  claimed := s.guard.journal.known
  durable := s.guard.journal.stored
  held := s.workers.view Worker.heldCommand
  performed := invokedCommands s.trace

/-- The step that breaks the discipline is a `mark_executing` of a command the journal already
    has a record of. -/
def RecordUnseen (s : RpcState) : Label → Prop
  | .markExecuting i _ _ => ∀ w ∈ s.workers.get? i, ∀ c ∈ w.job.commandId?,
      (s.guard.journal.get c).isNone = true
  | _ => True

instance (s : RpcState) (a : Label) : Decidable (s.RecordUnseen a) := by
  cases a <;> dsimp only [RecordUnseen] <;> infer_instance

variable {cfg : RpcConfig} {s s' : RpcState}

/-- An action that lets the journal grow and leaves worker `i` without a claim. -/
private theorem ledger_settles (i : Nat) (hg : s.guard.journal.Grows s'.guard.journal)
    (hheld : s'.workers.view Worker.heldCommand =
      Function.update (s.workers.view Worker.heldCommand) i none)
    (hp : invokedCommands s'.trace = invokedCommands s.trace) :
    Relation.ReflTransGen Step s.ledger s'.ledger := by
  have hgrow : Step s.ledger { s.ledger with
      claimed := s'.guard.journal.known, durable := s'.guard.journal.stored } :=
    .grow hg.1 hg.2.1 hg.2.2
  refine (Relation.ReflTransGen.single hgrow).tail ?_
  have hdrop := WriteAhead.Step.drop (l := { s.ledger with
    claimed := s'.guard.journal.known, durable := s'.guard.journal.stored }) i
  simpa only [ledger, hheld, hp] using hdrop

/-- An action that only lets the journal grow. -/
private theorem ledger_grows (hg : s.guard.journal.Grows s'.guard.journal)
    (hheld : s'.workers = s.workers) (hp : invokedCommands s'.trace = invokedCommands s.trace) :
    Relation.ReflTransGen Step s.ledger s'.ledger := by
  have hgrow : Step s.ledger { s.ledger with
      claimed := s'.guard.journal.known, durable := s'.guard.journal.stored } :=
    .grow hg.1 hg.2.1 hg.2.2
  refine .single ?_
  simpa only [ledger, hheld, hp] using hgrow

/-- Every action but a claim reset is matched by ledger steps, as long as `mark_executing`
    finds no record of its command. -/
theorem ledger_step {a : Label} (hI : s.guard.journal.stored ⊆ s.guard.journal.known)
    (hunseen : s.RecordUnseen a) (hreset : a.isReset = false) (h : step cfg s a = some s') :
    Relation.ReflTransGen Step s.ledger s'.ledger := by
  have hrefl := Grows.refl hI
  cases step_moves h with
  | quiet d es hes =>
    refine ledger_grows hrefl rfl ?_
    simp only [invokedCommands_append, invokedCommands_silent hes, List.append_nil]
  | accept d r job _ =>
    refine ledger_settles s.nextId hrefl (by rw [Dict.view_set]; rfl) ?_
    rw [invokedCommands_append]
    exact List.append_nil _
  | doomed i w e hw hpc hk =>
    exact ledger_settles i hrefl (by simp only [retire_workers, Dict.view_erase]) rfl
  | lock i w key hw hpc hg hk hfree =>
    exact ledger_settles i hrefl (Dict.view_set ..) rfl
  | advance a i w pc es hw hes _ hg =>
    have hnone : Worker.heldCommand { w with pc } = none := by
      by_cases hgov : w.job.governed = true
      · exact Pc.heldCommand_busy (hg hgov).2
      · -- an ungoverned worker never holds a claim
        cases pc <;> simp [Worker.heldCommand, hgov]
    refine ledger_settles i hrefl ?_ ?_
    · rw [goto_workers, Dict.view_set, hnone]
    · simp only [goto_trace, invokedCommands_append, invokedCommands_silent hes, List.append_nil]
  | mark i w now ok guard r hw hpc hg hm =>
    obtain ⟨c, hc, hstored⟩ := hm.stored
    obtain ⟨hknown, hdur, hsub⟩ := hm.grows hI
    have hnew : c ∉ s.guard.journal.known := by
      have := hunseen w hw c hc
      simp only [known, Set.mem_ofPred_eq]
      simpa using this
    refine .single ?_
    have hclaim := WriteAhead.Step.claim (l := s.ledger) i c hnew hknown hdur hsub hstored
    have hheld : Worker.heldCommand { w with pc := .ready } = some c := by
      simp only [Worker.heldCommand, hg, if_true, hc]
    simpa only [ledger, goto_workers, goto_guard, goto_trace, emit_guard, emit_workers,
      emit_trace, Dict.view_set, hheld, invokedCommands_append,
      invokedCommands_silent (silent_response i r),
      List.append_nil] using hclaim
  | call i w hw hpc =>
    cases hc : (if w.job.governed then w.job.commandId? else none) with
    | none =>
      refine ledger_settles i hrefl (Dict.view_set ..) ?_
      simp [invokedCommands_append, invokedCommands_invoked, hc]
    | some c =>
      have hheld : s.ledger.held i = some c := by
        simp only [ledger, Dict.view_of_get? Worker.heldCommand hw]
        simp only [Worker.heldCommand, hpc, hc]
      refine .single ?_
      have hperform := WriteAhead.Step.perform i c hheld
      have hadd : invokedCommands [.invoked i w.job] = [c] := by
        simp [invokedCommands_invoked, hc]
      have hrunning : Worker.heldCommand { w with pc := .running } = none := rfl
      simpa only [ledger, goto_workers, goto_guard, goto_trace, emit_guard, emit_workers,
        emit_trace, Dict.view_set, hrunning, invokedCommands_append, hadd] using hperform
  | file a i w c guard hw hpc hg hm =>
    exact ledger_settles i (hm.grows hI) (Dict.view_set ..) rfl
  | unwind a i w e guard es hw hpc hes hguard =>
    have hgrows : s.guard.journal.Grows guard.journal := by
      obtain rfl | ⟨_, r, hm⟩ := hguard
      · exact hrefl
      · exact hm.grows hI
    refine ledger_settles i (by simpa using hgrows) ?_ ?_
    · simp only [goto_workers, unlock_workers, Dict.view_set]; rfl
    · simp only [goto_trace, unlock_trace, invokedCommands_append, invokedCommands_silent hes,
        List.append_nil]
  | finish i w c r hw hpc =>
    refine ledger_settles i (by simpa using hrefl) ?_ ?_
    · simp only [retire_workers, unlock_workers, emit_workers, Dict.view_erase]
    · simp only [retire_trace, unlock_trace, emit_trace, invokedCommands_append]
      exact List.append_nil _
  | abort a i w e guard es hw hpc hes hguard =>
    have hgrows : s.guard.journal.Grows guard.journal := by
      obtain rfl | ⟨_, r, hm⟩ := hguard
      · exact hrefl
      · exact hm.grows hI
    refine ledger_settles i hgrows ?_ ?_
    · simp only [retire_workers, Dict.view_erase]
    · simp only [retire_trace, invokedCommands_append, invokedCommands_silent hes, List.append_nil]
  | crash guard hinit =>
    simp only [GovernedCommandGuard.init, Except.map_eq_ok] at hinit
    obtain ⟨policy, _, rfl⟩ := hinit
    refine .single ?_
    have hcrash := WriteAhead.Step.crash (l := s.ledger)
    exact hcrash
  | reset ok removed => simp [Label.isReset] at hreset
  | policy wire fileOk ok =>
    refine ledger_grows (GovernedCommandGuard.installPolicy_grows cfg.guard wire fileOk ok hI) rfl ?_
    simp only [installPolicy, emit_trace, invokedCommands_append]
    exact List.append_nil _

/-- A freshly started process satisfies the ledger's invariant. -/
theorem Booted.ledger_inv (h : Booted cfg s) : Inv s.ledger := by
  obtain ⟨policyFile, journalFile, guard, hinit, rfl⟩ := h
  simp only [GovernedCommandGuard.init, Except.map_eq_ok] at hinit
  obtain ⟨policy, _, rfl⟩ := hinit
  exact Inv.initial subset_rfl

/-- At-most-once execution: from a fresh start, over every interleaving of deliveries, workers,
    policy installations and restarts in which no claim reset happens and `mark_executing`
    never meets a record of its own command, no governed command is invoked twice. -/
theorem invoked_once {labels : List Label} (hboot : Booted cfg s)
    (hreset : ∀ a ∈ labels, a.isReset = false)
    (hunseen : Run.Along (step cfg) RecordUnseen s labels)
    (h : exec cfg s labels = some s') (c : String) :
    (invokedCommands s'.trace).count c ≤ 1 := by
  have hsim : ∀ u (a : Label) u' l, (l = u.ledger ∧ Inv l) → (u.RecordUnseen a ∧ a.isReset = false) →
      step cfg u a = some u' →
        ∃ l', Relation.ReflTransGen Step l l' ∧ l' = u'.ledger ∧ Inv l' := by
    rintro u a u' l ⟨rfl, hI⟩ ⟨ha, hr⟩ hstep
    have hstar := ledger_step hI.durable_claimed ha hr hstep
    exact ⟨_, hstar, rfl, Run.star_invariant (fun _ _ hI h => hI.step h) hstar hI⟩
  obtain ⟨l, hstar, rfl, hI⟩ := Run.exec_simulates hsim ⟨rfl, hboot.ledger_inv⟩
    (Run.Along.and_labels hunseen hreset) h
  exact List.nodup_iff_count_le_one.mp hI.performed_once c

open PumpStation

/-- One command, a restart while its handler runs, and the redelivery of its envelope. -/
def restartedRun : List Label :=
  [receive (command "command-1" (.int 7) 1)] ++ startHandler 0 ++
    [.crash, receive (command "command-1" (.int 7) 1)]

/-- A command with a restart in between. -/
theorem invoked_once_restarted : ∃ s', exec config boot restartedRun = some s' ∧
    (invokedCommands s'.trace).count "command-1" ≤ 1 := by
  have hrun : (exec config boot restartedRun).isSome = true := by decide +kernel
  obtain ⟨s', h⟩ := Option.isSome_iff_exists.mp hrun
  exact ⟨s', h, invoked_once boot_booted (by decide +kernel) (by decide +kernel) h "command-1"⟩

/-- One envelope delivered twice before its first worker records it: both workers are
    started, and the second one calls the handler again after the first has finished. -/
def duplicateRun : List Label :=
  [receive (command "command-1" (.int 7) 1), receive (command "command-1" (.int 7) 1)] ++
    startHandler 0 ++ endHandler 0 ++ startHandler 1

/-- The duplicate reaches the handler: `mark_executing` overwrites the terminal record. -/
theorem duplicate_invoked_twice : Booted config boot ∧
    (∀ a ∈ duplicateRun, a.isReset = false) ∧
    (exec config boot duplicateRun).map (fun s => (invokedCommands s.trace).count "command-1") =
      some 2 :=
  ⟨boot_booted, by decide +kernel, by decide +kernel⟩

end RpcState

end Novena

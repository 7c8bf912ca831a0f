import Mathlib.Data.List.Perm.Basic
import NovenaGateway.ForStd.BusyMarks
import NovenaGateway.ForStd.Run
import NovenaGateway.Native.ModbusPolls

/-!
# One poll for a Modbus master

The masters in `_active_polls` are the marks of the polls that are scheduled or in progress. A turn
of `__process_requests` takes a free mark and hands it to one poll; the end of that poll, however it
comes, gives the mark back. Since the mark is taken when a task is created and not when it begins,
two callbacks in a row for one master do not both get a task.
-/

namespace Novena.Modbus.PollState

variable {s s' : PollState} {master : Port} {outcome : PollEnd}

/-- The masters marked in `_active_polls` are those of the polls, each of one poll. -/
def Exact (s : PollState) : Prop := Marks s.activePolls (s.polls.map Poll.master)

/-- At the beginning nothing is polled. -/
theorem Exact.init : init.Exact := Marks.empty

/-- A master is marked exactly while one of its polls is there. -/
theorem Exact.mem_iff (h : s.Exact) :
    master ∈ s.activePolls ↔ ∃ poll ∈ s.polls, poll.master = master := by
  rw [Marks.mem_iff h, List.mem_map]

/-! ## What one step does to the polls -/

/-- A state with the same polls and the same marks. -/
theorem Exact.congr (h : s.Exact) (hactive : s'.activePolls = s.activePolls)
    (hpolls : s'.polls.map Poll.master = s.polls.map Poll.master) : s'.Exact := by
  show Marks s'.activePolls (s'.polls.map Poll.master)
  rw [hactive, hpolls]
  exact h

/-- A request only waits in the queue. -/
theorem sendCallback_exact (h : s.Exact) (slave : Slave) : (s.sendCallback slave).Exact := by
  simp only [sendCallback]
  split
  · exact h.congr rfl rfl
  · exact h

/-- A poll in addition to those of `s`, in whatever place, with the mark it took. -/
theorem Exact.acquire (h : s.Exact) (hfree : master ∉ s.activePolls)
    (hactive : s'.activePolls = insert master s.activePolls)
    (hpolls : (s'.polls.map Poll.master).Perm (master :: s.polls.map Poll.master)) : s'.Exact := by
  have hmarks := Marks.perm (Marks.acquire h hfree) hpolls.symm
  rw [← hactive] at hmarks
  exact hmarks

/-- The polls of `s` but one, which gave its mark back. -/
theorem Exact.release (h : s.Exact) (hactive : s'.activePolls = s.activePolls.erase master)
    (hpolls : (s.polls.map Poll.master).Perm (master :: s'.polls.map Poll.master)) : s'.Exact := by
  have hmarks := Marks.release (Marks.perm h hpolls)
  rw [← hactive] at hmarks
  exact hmarks

/-- A request that is taken is in hand. -/
theorem pollRequest_exact (h : s.Exact) (hidle : s.processor = .idle) (slave : Slave)
    (created : Bool) : (s.pollRequest slave created).Exact := by
  simp only [pollRequest]
  split
  · exact h
  · rename_i hfree
    split
    · -- the processor goes on to await this poll; it awaited none
      apply h.acquire hfree rfl
      simp [polls, awaited, hidle]
    · split
      · apply h.acquire hfree rfl
        simp only [polls, awaited, hidle, Option.toList_none, List.nil_append, List.map_append,
          List.map_cons, List.map_nil]
        exact List.perm_append_singleton _ _
      · -- `create_task` has raised: the mark just taken is given back
        have hactive : (insert slave.master s.activePolls).erase slave.master = s.activePolls :=
          Finset.erase_insert hfree
        exact h.congr hactive rfl

/-- It marks its master and begins, or it is put off. -/
theorem processRequest_exact (h : s.Exact) {created : Bool}
    (hstep : s.processRequest created = some s') : s'.Exact := by
  simp only [processRequest] at hstep
  split at hstep
  · rename_i hidle
    split at hstep
    · rw [← Option.some.inj hstep]
      exact h
    · rename_i slave requests _
      have hrest : PollState.Exact { s with requests } := h.congr rfl rfl
      rw [← Option.some.inj hstep]
      exact pollRequest_exact hrest hidle slave created
  · cases hstep
  · cases hstep

/-- A task keeps its place and its master when it begins. -/
theorem beginTask_exact (h : s.Exact) {i : Nat} (hstep : s.beginTask i = some s') : s'.Exact := by
  simp only [beginTask] at hstep
  split at hstep
  · rename_i poll hpoll
    split at hstep
    · cases hstep
    · rw [← Option.some.inj hstep]
      have htasks : (s.tasks.set i { poll with started := true }).map Poll.master =
          s.tasks.map Poll.master := by
        obtain ⟨hi, rfl⟩ := List.getElem?_eq_some_iff.mp hpoll
        rw [List.map_set, ← List.getElem_map Poll.master (h := by simpa using hi),
          List.set_getElem_self]
      refine h.congr rfl ?_
      simp only [polls, awaited, List.map_append, htasks]
  · cases hstep

/-- The polls without a task are the others. -/
theorem polls_perm_eraseIdx {i : Nat} {poll : Poll} (hpoll : s.tasks[i]? = some poll) :
    (s.polls.map Poll.master).Perm
      (poll.master :: (s.awaited.toList ++ s.tasks.eraseIdx i).map Poll.master) := by
  obtain ⟨hi, rfl⟩ := List.getElem?_eq_some_iff.mp hpoll
  have htasks : s.tasks.Perm (s.tasks[i] :: s.tasks.eraseIdx i) :=
    (List.getElem_cons_eraseIdx_perm hi).symm
  have hpolls : s.polls.Perm (s.tasks[i] :: (s.awaited.toList ++ s.tasks.eraseIdx i)) :=
    (htasks.append_left _).trans List.perm_middle
  exact hpolls.map Poll.master

/-- The end of a poll frees its master. -/
theorem endTask_exact (h : s.Exact) {i : Nat} (hstep : s.endTask i outcome = some s') :
    s'.Exact := by
  simp only [endTask] at hstep
  split at hstep
  · rename_i poll hpoll
    have hperm := polls_perm_eraseIdx hpoll
    split at hstep
    · -- the loop may be left, but the `finally` has run
      cases outcome <;> rw [← Option.some.inj hstep] <;> exact h.release rfl hperm
    · cases hstep
  · cases hstep

/-- The awaited poll gives its mark back, and giving it back again changes nothing. -/
theorem endAwaited_exact (h : s.Exact) (hstep : s.endAwaited outcome = some s') : s'.Exact := by
  simp only [endAwaited] at hstep
  split at hstep
  · rename_i poll hawaits
    have hperm : (s.polls.map Poll.master).Perm (poll.master :: s.tasks.map Poll.master) := by
      simp [polls, awaited, hawaits]
    have htwice : (s.activePolls.erase poll.master).erase poll.master =
        s.activePolls.erase poll.master := Finset.erase_idem
    cases outcome with
    | returned => rw [← Option.some.inj hstep]; exact h.release rfl hperm
    | raised => rw [← Option.some.inj hstep]; exact h.release htwice hperm
    | cancelled => rw [← Option.some.inj hstep]; exact h.release rfl hperm
    | exited => rw [← Option.some.inj hstep]; exact h.release rfl hperm
  · cases hstep
  · cases hstep

/-- So every step keeps the marks. -/
theorem step_exact (e : Event) (h : s.Exact) (hstep : s.step e = some s') : s'.Exact := by
  simp only [step] at hstep
  split at hstep
  · cases e with
    | callback slave =>
      rw [← Option.some.inj hstep]
      exact sendCallback_exact h slave
    | request created => exact processRequest_exact h hstep
    | begin i => exact beginTask_exact h hstep
    | taskEnds i outcome => exact endTask_exact h hstep
    | awaitedEnds outcome => exact endAwaited_exact h hstep
    | loopEnds =>
      simp only [endLoop] at hstep
      split at hstep
      · rw [← Option.some.inj hstep]
        exact h.congr rfl rfl
      · cases hstep
  · cases hstep

/-- And every run. -/
theorem exec_exact {events : List Event} (hrun : Run.exec step init events = some s) : s.Exact :=
  Run.exec_invariant' (fun _ e _ h hstep => step_exact e h hstep) Exact.init hrun

/-- A master has at most one poll in progress. -/
theorem Exact.inProgress_le_one (h : s.Exact) (master : Port) :
    (s.inProgress master).length ≤ 1 := by
  have hcount : (s.polls.map Poll.master).count master ≤ 1 :=
    List.nodup_iff_count_le_one.mp (Marks.nodup h) master
  have hall : s.polls.countP (fun poll => poll.master = master) =
      (s.polls.map Poll.master).count master := by
    rw [List.count, List.countP_map]
    congr 1
  have hle : s.polls.countP (fun poll => poll.started && poll.master = master) ≤
      s.polls.countP (fun poll => poll.master = master) := by
    apply List.countP_mono_left
    intro poll _ hboth
    simp only [Bool.and_eq_true] at hboth
    exact hboth.2
  rw [inProgress, ← List.countP_eq_length_filter]
  omega

/-! ## No mark stays -/

/-- The loop can bring a poll of the master to whatever end it comes to, by steps of that poll
    alone, and then the master is free. -/
def CanBeFreed (s : PollState) (master : Port) : Prop :=
  ∃ place poll, s.pollAt place = some poll ∧ poll.master = master ∧
    ∀ outcome, ∃ s', Run.exec step s (remaining poll outcome place) = some s' ∧
      master ∉ s'.activePolls

/-- The next callback of the queue starts a poll when it is one of this master. -/
def CanBePolled (s : PollState) (master : Port) : Prop :=
  ∀ slave requests, s.requests = slave :: requests → slave.master = master →
    ∃ s', s.step (.request true) = some s' ∧ ∃ poll ∈ s'.polls, poll.slave = slave

/-- A poll is at one place. -/
theorem mem_polls_iff {poll : Poll} : poll ∈ s.polls ↔ ∃ place, s.pollAt place = some poll := by
  rw [polls, List.mem_append, Option.mem_toList, List.mem_iff_getElem? (l := s.tasks)]
  constructor
  · rintro (hawaited | ⟨i, htask⟩)
    · exact ⟨.processor, hawaited⟩
    · exact ⟨.task i, htask⟩
  · rintro ⟨place, hplace⟩
    cases place with
    | processor => exact .inl hplace
    | task i => exact .inr ⟨i, hplace⟩

/-- A task that has begun ends when its poll does, and its master is free again. -/
theorem endTask_frees {i : Nat} {poll : Poll} (hpoll : s.tasks[i]? = some poll)
    (hstarted : poll.started = true) (outcome : PollEnd) :
    ∃ s', s.endTask i outcome = some s' ∧ poll.master ∉ s'.activePolls := by
  have hfree : poll.master ∉ s.activePolls.erase poll.master := Finset.notMem_erase _ _
  simp only [endTask, hpoll, hstarted, if_true]
  cases outcome <;> exact ⟨_, rfl, hfree⟩

/-- The poll that is awaited frees its master when it ends. -/
theorem endAwaited_frees {poll : Poll} (hpoll : s.awaited = some poll) (outcome : PollEnd) :
    ∃ s', s.endAwaited outcome = some s' ∧ poll.master ∉ s'.activePolls := by
  have hfree : poll.master ∉ s.activePolls.erase poll.master := Finset.notMem_erase _ _
  have htwice : poll.master ∉ (s.activePolls.erase poll.master).erase poll.master :=
    Finset.notMem_erase _ _
  simp only [awaited] at hpoll
  split at hpoll
  · rename_i poll' hawaits
    rw [Option.some.inj hpoll] at hawaits
    simp only [endAwaited, hawaits]
    cases outcome with
    | returned => exact ⟨_, rfl, hfree⟩
    | raised => exact ⟨_, rfl, htwice⟩
    | cancelled => exact ⟨_, rfl, hfree⟩
    | exited => exact ⟨_, rfl, hfree⟩
  · cases hpoll
  · cases hpoll

/-- Whatever is left of a poll can be run, and frees its master. -/
theorem remaining_frees (hloop : s.loopRuns = true) {place : Place} {poll : Poll}
    (hpoll : s.pollAt place = some poll) (outcome : PollEnd) :
    ∃ s', Run.exec step s (remaining poll outcome place) = some s' ∧
      poll.master ∉ s'.activePolls := by
  cases place with
  | processor =>
    obtain ⟨s', hend, hfree⟩ := endAwaited_frees hpoll outcome
    refine ⟨s', ?_, hfree⟩
    simp only [remaining, Run.exec, step, hloop, if_true, hend, Option.bind_some]
  | task i =>
    have htask : s.tasks[i]? = some poll := hpoll
    by_cases hstarted : poll.started = true
    · obtain ⟨s', hend, hfree⟩ := endTask_frees htask hstarted outcome
      refine ⟨s', ?_, hfree⟩
      simp only [remaining, hstarted, Run.exec, step, hloop, if_true, hend, Option.bind_some]
    · -- the task begins first
      let begun : PollState := { s with tasks := s.tasks.set i { poll with started := true } }
      have hbegin : s.beginTask i = some begun := by
        simp only [beginTask, htask, hstarted]
        rfl
      obtain ⟨hi, -⟩ := List.getElem?_eq_some_iff.mp htask
      have hbegun : begun.tasks[i]? = some { poll with started := true } := by
        simp only [begun, List.getElem?_set_self hi]
      obtain ⟨s', hend, hfree⟩ := endTask_frees hbegun rfl outcome
      have hloop' : begun.loopRuns = true := hloop
      have hfirst : s.step (.begin i) = some begun := by simp only [step, hloop, if_true, hbegin]
      have hsecond : begun.step (.taskEnds i outcome) = some s' := by
        simp only [step, hloop', if_true, hend]
      refine ⟨s', ?_, hfree⟩
      rw [remaining, if_neg hstarted, Run.exec_cons]
      exact ⟨begun, hfirst, by simp only [Run.exec, hsecond, Option.bind_some]⟩

/-- So every marked master can be freed. -/
theorem Exact.canBeFreed (h : s.Exact) (hloop : s.loopRuns = true)
    (hmaster : master ∈ s.activePolls) : s.CanBeFreed master := by
  obtain ⟨poll, hmem, rfl⟩ := h.mem_iff.mp hmaster
  obtain ⟨place, hplace⟩ := mem_polls_iff.mp hmem
  exact ⟨place, poll, hplace, rfl, fun outcome => remaining_frees hloop hplace outcome⟩

/-- A free master is polled for the next callback. -/
theorem canBePolled_of_free (hloop : s.loopRuns = true) (hidle : s.processor = .idle)
    (hfree : master ∉ s.activePolls) : s.CanBePolled master := by
  rintro slave requests hrequests rfl
  simp only [step, hloop, if_true, processRequest, hidle, hrequests, pollRequest, hfree, if_false]
  split
  · exact ⟨_, rfl, { slave, master := slave.master, started := true }, by simp [polls, awaited], rfl⟩
  · exact ⟨_, rfl, { slave, master := slave.master, started := false }, by simp [polls], rfl⟩

/-- A master is marked exactly while it has a poll, one at most, and no mark stays. -/
theorem one_poll_per_master {events : List Event} (hrun : Run.exec step init events = some s)
    (master : Port) :
    (s.inProgress master).length ≤ 1 ∧
      (master ∈ s.activePolls ↔ ∃ poll ∈ s.polls, poll.master = master) ∧
      (s.loopRuns = true → master ∈ s.activePolls → s.CanBeFreed master) ∧
      (s.loopRuns = true → s.processor = .idle → master ∉ s.activePolls →
        s.CanBePolled master) := by
  have h := exec_exact hrun
  exact ⟨h.inProgress_le_one master, h.mem_iff, h.canBeFreed,
    fun hloop hidle hfree => canBePolled_of_free hloop hidle hfree⟩

/-- Two units behind one host and port. -/
def slaveOn (deviceName : String) : Slave :=
  { deviceName, type := "tcp", host := some "10.0.0.5", port := .number 502 }

def meterOn (device : String) : Slave :=
  { deviceName := "meter", type := "serial", host := none, port := .path device }

/-- The task for the first unit cannot be created, the second unit gets one, and the first is
    skipped meanwhile; a serial poll raises. -/
def overlapRun : List Event :=
  [.callback (slaveOn "first"), .callback (slaveOn "second"), .request false, .request true,
    .callback (slaveOn "first"), .request true, .begin 0, .callback (meterOn "/dev/ttyUSB0"),
    .request true, .awaitedEnds .raised]

def overlapped : PollState :=
  { requests := [], activePolls := {(slaveOn "second").master}, processor := .idle
    tasks := [{ slave := slaveOn "second", master := (slaveOn "second").master, started := true }]
    loopRuns := true }

/-- Two requests for one master. -/
theorem one_poll_per_master_overlapRun :
    (overlapped.inProgress (slaveOn "first").master).length ≤ 1 ∧
      ((slaveOn "first").master ∈ overlapped.activePolls ↔
        ∃ poll ∈ overlapped.polls, poll.master = (slaveOn "first").master) ∧
      (overlapped.loopRuns = true → (slaveOn "first").master ∈ overlapped.activePolls →
        overlapped.CanBeFreed (slaveOn "first").master) ∧
      (overlapped.loopRuns = true → overlapped.processor = .idle →
        (slaveOn "first").master ∉ overlapped.activePolls →
        overlapped.CanBePolled (slaveOn "first").master) := by
  have hrun : Run.exec step init overlapRun = some overlapped := by decide +kernel
  exact one_poll_per_master hrun (slaveOn "first").master

end Novena.Modbus.PollState

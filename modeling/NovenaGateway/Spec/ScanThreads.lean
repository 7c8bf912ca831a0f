import NovenaGateway.ForStd.Run
import NovenaGateway.ForStd.Update
import NovenaGateway.Native.ScanThreads

/-!
# One scan at a time

The lock of `scan` keeps the scan bodies apart in every run (`oneBody_of_run`). What the answers to
the requests promise is more: that the active id is that of the guided scan that runs, so that it
can be cancelled, and that a started scan is reported once. The checks of `start_guided_scan` are
made before another worker may start a scan, so the promise holds in the runs where no launch finds
a guided scan under way and no id is started twice.

Key results:
- `ScanState.oneBody_of_run`
- `ScanState.tracks_effect`, `ScanState.accounts_effect`
- `ScanState.orderly_of_run`
-/

namespace Novena

/-- The thread is in the body of `scan`, with the lock. -/
def ScanPhase.inBody : ScanPhase → Bool
  | .scanning | .reported => true
  | _ => false

/-- The thread has not left the body of `scan`. -/
def ScanPhase.isLive : ScanPhase → Bool
  | .launched | .scanning | .reported => true
  | _ => false

/-- The thread has its terminal report still before it. -/
def ScanPhase.isUnreported : ScanPhase → Bool
  | .launched | .scanning | .failed => true
  | _ => false

namespace ScanState

/-! ## What a step does -/

/-- Everything a step can do, as far as the lock, the threads, the active id and the answers are
    concerned. -/
inductive Effect (s s' : ScanState) : Label → Prop where
  | quiet {label : Label}
      (workers : ∀ w scanId, s'.workers w = some scanId →
        s.workers w = some scanId ∨ requestedId scanId ≠ "")
      (threads : s'.threads = s.threads) (nextId : s'.nextId = s.nextId)
      (locked : s'.locked = s.locked) (activeId : s'.activeId = s.activeId)
      (started : s'.started = s.started) (remembered : s'.remembered = s.remembered) :
      Effect s s' label
  | launch {w : Nat} {scanId : Json} (worker : s.workers w = some scanId)
      (eq : s' = { s.launch scanId with workers := Function.update s.workers w none }) :
      Effect s s' (.launch w)
  | fire {label : Label} {kind : ScanKind} {ts : Nat} (background : kind ≠ .guided)
      (free : s.locked = false) (eq : s' = s.fire kind ts) : Effect s s' label
  | enter {label : Label} {t : Nat} {th : ScanThread} (thread : s.threads t = some th)
      (phase : th.Runs .launched) (free : s.locked = false)
      (eq : s' = { s with locked := true }.goto t th .scanning) : Effect s s' label
  | refuse {label : Label} {t : Nat} {th : ScanThread} (thread : s.threads t = some th)
      (phase : th.Runs .launched) (eq : s' = s.goto t th .failed) : Effect s s' label
  | report {label : Label} {t : Nat} {th : ScanThread} (timedOut : Bool)
      (thread : s.threads t = some th) (phase : th.phase = .scanning)
      (eq : s' = (s.remember ⟨th.scanId, th.kind, s.terminalStatus timedOut⟩).goto t th .reported) :
      Effect s s' label
  | leave {label : Label} {t : Nat} {th : ScanThread} {phase : ScanPhase}
      (thread : s.threads t = some th)
      (phases : th.phase = .scanning ∧ phase = .failed ∨ th.phase = .reported ∧ phase = .closing)
      (eq : s' = s.leave t th phase) : Effect s s' label
  | fail {label : Label} {t : Nat} {th : ScanThread} (thread : s.threads t = some th)
      (phase : th.Runs .failed)
      (eq : s' = (s.remember ⟨th.activeId, th.kind, "error"⟩).goto t th .closing) :
      Effect s s' label
  | clear {label : Label} {t : Nat} {th : ScanThread} (thread : s.threads t = some th)
      (phase : th.Runs .closing) (eq : s' = (s.clearActive th).goto t th .leaving) :
      Effect s s' label
  | exit {label : Label} {t : Nat} {th : ScanThread} (thread : s.threads t = some th)
      (phase : th.Runs .leaving) (eq : s' = s.gone t) : Effect s s' label

/-- A step may change nothing. -/
theorem quiet_self (s : ScanState) (label : Label) : Effect s s label :=
  .quiet (fun _ _ h => .inl h) rfl rfl rfl rfl rfl rfl

/-- A request that passes the checks has an id. -/
theorem check_passes {s : ScanState} {scanId : Json} (h : s.check scanId = .passes) :
    requestedId scanId ≠ "" := by
  intro hid
  rw [check, if_pos hid] at h
  cases h

/-- Every step has one of the effects. -/
theorem step_effect {s s' : ScanState} {label : Label} (h : s.step label = some s') :
    Effect s s' label := by
  cases label with
  | check w scanId =>
    simp only [step] at h
    split at h
    · cases h
    split at h
    -- the check let the request pass; it holds its id until it launches
    · next hpasses =>
      rw [← Option.some.inj h]
      refine .quiet (fun v scanId' hv => ?_) rfl rfl rfl rfl rfl rfl
      rcases Function.eq_some_of_update_some hv with ⟨-, rfl⟩ | ⟨-, hv⟩
      · exact .inr (check_passes hpasses)
      · exact .inl hv
    -- it was rejected, and nothing is left of it
    · rw [← Option.some.inj h]
      exact quiet_self ..
  | launch w =>
    obtain ⟨scanId, hw, rfl⟩ := Option.map_eq_some_iff.mp h
    exact .launch hw rfl
  | cancel scanId =>
    simp only [step] at h
    -- only a scan that runs can be cancelled
    split at h
    · rw [← Option.some.inj h]
      exact .quiet (fun _ _ h => .inl h) rfl rfl rfl rfl rfl rfl
    · rw [← Option.some.inj h]
      exact quiet_self ..
  | fire periodic ts =>
    obtain rfl := Option.some.inj h
    -- a timer that finds the lock taken starts nothing
    by_cases hlocked : s.locked = true
    · rw [ScanState.fire, if_pos hlocked]
      exact quiet_self ..
    · exact .fire (by cases periodic <;> decide) (Bool.eq_false_iff.mpr hlocked) rfl
  | begin t =>
    obtain ⟨th, hth, h⟩ := Option.bind_eq_some_iff.mp h
    obtain ⟨hphase, h⟩ := Option.ite_none_right_eq_some.mp h
    obtain rfl := Option.some.inj h
    -- a guided scan that finds it taken is refused, but its thread goes on to report that
    by_cases hlocked : s.locked = true
    · exact .refuse hth hphase (by rw [enter, if_pos hlocked])
    · exact .enter hth hphase (Bool.eq_false_iff.mpr hlocked) (by rw [enter, if_neg hlocked])
  | progress t =>
    obtain ⟨th, hth, h⟩ := Option.bind_eq_some_iff.mp h
    obtain ⟨-, h⟩ := Option.ite_none_right_eq_some.mp h
    rw [← Option.some.inj h]
    exact .quiet (fun _ _ h => .inl h) rfl rfl rfl rfl rfl rfl
  | report t timedOut =>
    obtain ⟨th, hth, h⟩ := Option.bind_eq_some_iff.mp h
    obtain ⟨hphase, h⟩ := Option.ite_none_right_eq_some.mp h
    exact .report timedOut hth hphase (Option.some.inj h).symm
  -- `raise` and `release` both leave the body, one without a report
  | raise t =>
    obtain ⟨th, hth, h⟩ := Option.bind_eq_some_iff.mp h
    obtain ⟨hphase, h⟩ := Option.ite_none_right_eq_some.mp h
    exact .leave hth (.inl ⟨hphase, rfl⟩) (Option.some.inj h).symm
  | release t =>
    obtain ⟨th, hth, h⟩ := Option.bind_eq_some_iff.mp h
    obtain ⟨hphase, h⟩ := Option.ite_none_right_eq_some.mp h
    exact .leave hth (.inr ⟨hphase, rfl⟩) (Option.some.inj h).symm
  | fail t =>
    obtain ⟨th, hth, h⟩ := Option.bind_eq_some_iff.mp h
    obtain ⟨hphase, h⟩ := Option.ite_none_right_eq_some.mp h
    exact .fail hth hphase (Option.some.inj h).symm
  | clear t =>
    obtain ⟨th, hth, h⟩ := Option.bind_eq_some_iff.mp h
    obtain ⟨hphase, h⟩ := Option.ite_none_right_eq_some.mp h
    exact .clear hth hphase (Option.some.inj h).symm
  | exit t =>
    obtain ⟨th, hth, h⟩ := Option.bind_eq_some_iff.mp h
    obtain ⟨hphase, h⟩ := Option.ite_none_right_eq_some.mp h
    exact .exit hth hphase (Option.some.inj h).symm

/-! ## The lock keeps the scan bodies apart -/

/-- At most one thread is in the body of `scan`, and then the lock is held. -/
structure OneBody (s : ScanState) : Prop where
  fresh : ∀ t, s.nextId ≤ t → s.threads t = none
  held : ∀ t th, s.threads t = some th → th.phase.inBody = true → s.locked = true
  one : ∀ t t' th th', s.threads t = some th → s.threads t' = some th' →
    th.phase.inBody = true → th'.phase.inBody = true → t = t'

/-- A thread has an id that was given. -/
theorem OneBody.lt {s : ScanState} (h : s.OneBody) {t : Nat} {th : ScanThread}
    (hth : s.threads t = some th) : t < s.nextId := by
  by_contra hge
  rw [h.fresh t (Nat.le_of_not_lt hge)] at hth
  cases hth

/-- A thread changes and is in the body at most when it was not: nobody else comes in. -/
theorem OneBody.outside {s s' : ScanState} (h : s.OneBody) {t : Nat} {v : Option ScanThread}
    (hthreads : s'.threads = Function.update s.threads t v) (hlt : t < s'.nextId)
    (hnext : s.nextId ≤ s'.nextId) (hlocked : s'.locked = s.locked)
    (hv : ∀ th, v = some th → th.phase.inBody = false) : s'.OneBody := by
  -- whoever is in the body was there before, since thread `t` is not
  have hold : ∀ u th, s'.threads u = some th → th.phase.inBody = true →
      s.threads u = some th := by
    intro u th hu hbody
    rw [hthreads] at hu
    by_cases hut : u = t
    · subst hut
      rw [Function.update_self] at hu
      rw [hv th hu] at hbody
      cases hbody
    · rwa [Function.update_of_ne hut] at hu
  constructor
  -- fresh
  · intro u hu
    rw [hthreads, Function.update_of_ne (by omega)]
    exact h.fresh u (by omega)
  -- held
  · intro u th hu hbody
    rw [hlocked]
    exact h.held u th (hold u th hu hbody) hbody
  -- one
  · intro u u' th th' hu hu' hbody hbody'
    exact h.one u u' th th' (hold u th hu hbody) (hold u' th' hu' hbody') hbody hbody'

/-- A thread changes while no other one is in the body. -/
theorem OneBody.alone {s s' : ScanState} (h : s.OneBody) {t : Nat} {v : Option ScanThread}
    (hthreads : s'.threads = Function.update s.threads t v) (hlt : t < s'.nextId)
    (hnext : s.nextId ≤ s'.nextId)
    (hothers : ∀ u th, u ≠ t → s.threads u = some th → th.phase.inBody = false)
    (hv : ∀ th, v = some th → th.phase.inBody = true → s'.locked = true) : s'.OneBody := by
  -- nobody but thread `t` can be in the body
  have honly : ∀ u th, s'.threads u = some th → th.phase.inBody = true →
      u = t ∧ v = some th := by
    intro u th hu hbody
    rw [hthreads] at hu
    by_cases hut : u = t
    · subst hut
      exact ⟨rfl, by rwa [Function.update_self] at hu⟩
    · rw [Function.update_of_ne hut] at hu
      rw [hothers u th hut hu] at hbody
      cases hbody
  -- fresh
  constructor
  · intro u hu
    rw [hthreads, Function.update_of_ne (by omega)]
    exact h.fresh u (by omega)
  -- held
  · intro u th hu hbody
    exact hv th (honly u th hu hbody).2 hbody
  -- one: both are thread `t`
  · intro u u' th th' hu hu' hbody hbody'
    rw [(honly u th hu hbody).1, (honly u' th' hu' hbody').1]

/-- While the lock is free, no thread is in the body. -/
theorem OneBody.free {s : ScanState} (h : s.OneBody) (hfree : s.locked = false) {t : Nat}
    {th : ScanThread} (hth : s.threads t = some th) : th.phase.inBody = false := by
  by_contra hbody
  have := h.held t th hth (by simpa using hbody)
  rw [hfree] at this
  cases this

/-- Besides a thread in the body no other one is there. -/
theorem OneBody.others {s : ScanState} (h : s.OneBody) {t : Nat} {th : ScanThread}
    (hth : s.threads t = some th) (hbody : th.phase.inBody = true) :
    ∀ u th', u ≠ t → s.threads u = some th' → th'.phase.inBody = false := by
  intro u th' hut hu
  by_contra hbody'
  exact hut (h.one u t th' th hu hth (by simpa using hbody') hbody)

/-- No step lets a second thread into the body of a scan. -/
theorem oneBody_effect {s s' : ScanState} {label : Label} (h : s.OneBody)
    (heffect : Effect s s' label) : s'.OneBody := by
  cases heffect with
  | quiet _ threads nextId locked _ _ _ =>
    constructor
    · rw [threads, nextId]
      exact h.fresh
    · rw [threads, locked]
      exact h.held
    · rw [threads]
      exact h.one
  -- a launched thread is not in the body yet
  | launch worker eq =>
    subst eq
    exact h.outside rfl (Nat.lt_succ_self _) (Nat.le_succ _) rfl
      fun th hth => by rw [← Option.some.inj hth]; rfl
  | fire background free eq =>
    subst eq
    -- the lock is taken by the timer itself, before its thread runs
    rw [ScanState.fire, if_neg (by rw [free]; decide)]
    exact h.alone rfl (Nat.lt_succ_self _) (Nat.le_succ _)
      (fun u th _ hu => h.free free hu) fun _ _ _ => rfl
  | enter thread phase free eq =>
    subst eq
    exact h.alone rfl (h.lt thread) le_rfl (fun u th _ hu => h.free free hu) fun _ _ _ => rfl
  | refuse thread phase eq =>
    subst eq
    exact h.outside rfl (h.lt thread) le_rfl rfl fun th hth => by rw [← Option.some.inj hth]; rfl
  -- a report is made inside the body, with the lock held
  | @report label t th timedOut thread phase eq =>
    subst eq
    have hbody : th.phase.inBody = true := by rw [phase]; rfl
    exact h.alone rfl (h.lt thread) le_rfl (h.others thread hbody)
      fun _ _ _ => h.held _ _ thread hbody
  -- the lock is given back; a guided thread goes on outside, another one is gone
  | @leave label t th phase thread phases eq =>
    subst eq
    have hbody : th.phase.inBody = true := by
      rcases phases with ⟨hp, -⟩ | ⟨hp, -⟩ <;> rw [hp] <;> rfl
    have hout : phase.inBody = false := by
      rcases phases with ⟨-, hp⟩ | ⟨-, hp⟩ <;> rw [hp] <;> rfl
    rw [ScanState.leave]
    split
    · refine h.alone rfl (h.lt thread) le_rfl (h.others thread hbody) fun th' hth' hin => ?_
      rw [← Option.some.inj hth'] at hin
      exact absurd (hin.symm.trans hout) (by decide)
    · exact h.alone rfl (h.lt thread) le_rfl (h.others thread hbody) fun _ hth' => by cases hth'
  | fail thread phase eq =>
    subst eq
    exact h.outside rfl (h.lt thread) le_rfl rfl fun th hth => by rw [← Option.some.inj hth]; rfl
  | clear thread phase eq =>
    subst eq
    exact h.outside rfl (h.lt thread) le_rfl rfl fun th hth => by rw [← Option.some.inj hth]; rfl
  | exit thread phase eq =>
    subst eq
    exact h.outside rfl (h.lt thread) le_rfl rfl fun _ hth => by cases hth

/-- At the beginning there is no thread. -/
theorem oneBody_init : init.OneBody :=
  ⟨fun _ _ => rfl, fun _ _ h => (by cases h), fun _ _ _ _ h => (by cases h)⟩

/-- In every run at most one scan body runs at a time. -/
theorem oneBody_of_run {labels : List Label} {s : ScanState}
    (hrun : Run.exec step init labels = some s) : s.OneBody :=
  Run.exec_invariant' (fun _ _ _ h hstep => oneBody_effect h (step_effect hstep)) oneBody_init hrun

/-! ## The ids -/

/-- Requests under way and guided threads have an id. -/
structure Named (s : ScanState) : Prop where
  workers : ∀ w scanId, s.workers w = some scanId → requestedId scanId ≠ ""
  threads : ∀ t th, s.threads t = some th → th.kind = .guided → th.activeId ≠ ""

/-- A thread that moves keeps its name. -/
theorem Named.update {s s' : ScanState} (h : s.Named) {t : Nat} {v : Option ScanThread}
    (hworkers : s'.workers = s.workers) (hthreads : s'.threads = Function.update s.threads t v)
    (hv : ∀ th, v = some th → th.kind = .guided → th.activeId ≠ "") : s'.Named where
  workers := hworkers ▸ h.workers
  threads u th hu hkind := by
    rw [hthreads] at hu
    by_cases hut : u = t
    · subst hut
      rw [Function.update_self] at hu
      exact hv th hu hkind
    · rw [Function.update_of_ne hut] at hu
      exact h.threads u th hu hkind

/-- A thread that goes on keeps its name. -/
theorem Named.goto {s s' : ScanState} (h : s.Named) {t : Nat} {th : ScanThread}
    (hth : s.threads t = some th) {phase : ScanPhase} (hworkers : s'.workers = s.workers)
    (hthreads : s'.threads = Function.update s.threads t (some { th with phase })) : s'.Named :=
  h.update hworkers hthreads fun th' hth' hkind => by
    rw [← Option.some.inj hth'] at hkind ⊢
    exact h.threads t th hth hkind

/-- And every step leaves the guided scans with their names. -/
theorem named_effect {s s' : ScanState} {label : Label} (h : s.Named)
    (heffect : Effect s s' label) : s'.Named := by
  cases heffect with
  -- the id a request holds was looked at by `check`
  | quiet workers threads _ _ _ _ _ =>
    constructor
    · intro w scanId hw
      rcases workers w scanId hw with hold | hnew
      · exact h.workers w scanId hold
      · exact hnew
    · rw [threads]
      exact h.threads
  | @launch w scanId worker eq =>
    subst eq
    constructor
    · intro v scanId' hv
      exact h.workers v scanId' (Function.eq_some_of_update_none hv).2
    -- the new thread has the id of its request
    · intro u th hu hkind
      rcases Function.eq_some_of_update_some hu with ⟨-, rfl⟩ | ⟨-, hu⟩
      · exact h.workers w scanId worker
      · exact h.threads u th hu hkind
  -- a periodic thread has no id to keep to
  | fire background free eq =>
    subst eq
    rw [ScanState.fire, if_neg (by rw [free]; decide)]
    refine h.update rfl rfl fun th hth hkind => ?_
    rw [← Option.some.inj hth] at hkind
    exact absurd hkind background
  | enter thread phase free eq => exact eq ▸ h.goto thread rfl rfl
  | refuse thread phase eq => exact eq ▸ h.goto thread rfl rfl
  | report timedOut thread phase eq => exact eq ▸ h.goto thread rfl rfl
  | leave thread phases eq =>
    subst eq
    rw [ScanState.leave]
    split
    · exact h.goto thread rfl rfl
    · exact h.update rfl rfl fun _ hth => by cases hth
  | fail thread phase eq => exact eq ▸ h.goto thread rfl rfl
  | clear thread phase eq => exact eq ▸ h.goto thread rfl rfl
  | exit thread phase eq => exact eq ▸ h.update rfl rfl fun _ hth => by cases hth

/-! ## The active id -/

/-- The guided threads that have not left the scan body: there is at most one, and the active id is
    its id. -/
structure Tracks (s : ScanState) : Prop where
  live : ∀ t th, s.threads t = some th → th.kind = .guided → th.phase.isLive = true →
    s.activeId = some th.activeId
  one : ∀ t t' th th', s.threads t = some th → s.threads t' = some th' →
    th.kind = .guided → th'.kind = .guided → th.phase.isLive = true → th'.phase.isLive = true →
    t = t'

/-- A thread changes and is live only when it was: the active id may change as long as that of the
    live thread does not. -/
theorem Tracks.keeps {s s' : ScanState} (h : s.Tracks) {t : Nat} {v : Option ScanThread}
    (hthreads : s'.threads = Function.update s.threads t v)
    (hv : ∀ th', v = some th' → th'.kind = .guided → th'.phase.isLive = true →
      ∃ th, s.threads t = some th ∧ th.kind = .guided ∧ th.phase.isLive = true ∧
        th'.activeId = th.activeId)
    (hactive : ∀ u th, s.threads u = some th → th.kind = .guided → th.phase.isLive = true →
      s'.activeId = s.activeId) : s'.Tracks := by
  -- the live guided threads after the step are those from before, with their ids
  have hold : ∀ u th', s'.threads u = some th' → th'.kind = .guided → th'.phase.isLive = true →
      ∃ th, s.threads u = some th ∧ th.kind = .guided ∧ th.phase.isLive = true ∧
        th'.activeId = th.activeId := by
    intro u th' hu hkind hlive
    rw [hthreads] at hu
    by_cases hut : u = t
    · subst hut
      rw [Function.update_self] at hu
      exact hv th' hu hkind hlive
    · rw [Function.update_of_ne hut] at hu
      exact ⟨th', hu, hkind, hlive, rfl⟩
  constructor
  -- live: the service still names the id of the live thread
  · intro u th' hu hkind hlive
    obtain ⟨th, hth, hkind, hlive, hid⟩ := hold u th' hu hkind hlive
    rw [hactive u th hth hkind hlive, hid]
    exact h.live u th hth hkind hlive
  -- one
  · intro u u' th th' hu hu' hkind hkind' hlive hlive'
    obtain ⟨_, hth, hk, hl, -⟩ := hold u th hu hkind hlive
    obtain ⟨_, hth', hk', hl', -⟩ := hold u' th' hu' hkind' hlive'
    exact h.one u u' _ _ hth hth' hk hk' hl hl'

/-! ## The reports -/

/-- The terminal reports of guided scans under an id. -/
def terminalReports (s : ScanState) (id : String) : Nat :=
  (s.remembered.filter fun r => r.kind = .guided && r.scanId = id && r.isTerminal).length

/-- A report is counted when it is a terminal one of the scan. -/
theorem terminalReports_remember (s : ScanState) (r : ReportHead) (id : String) :
    (s.remember r).terminalReports id = s.terminalReports id +
      if r.kind = .guided ∧ r.scanId = id ∧ r.isTerminal = true then 1 else 0 := by
  simp only [terminalReports, remember, List.filter_append, List.length_append]
  congr 1
  by_cases h : r.kind = .guided ∧ r.scanId = id ∧ r.isTerminal = true
  · simp [h]
  · rw [if_neg h, List.length_eq_zero_iff, List.filter_eq_nil_iff]
    intro r' hr'
    rw [List.mem_singleton.mp hr']
    simpa [and_assoc] using h

/-- A thread that moves reports nothing. -/
@[simp] theorem terminalReports_goto (s : ScanState) (t : Nat) (th : ScanThread)
    (phase : ScanPhase) (id : String) :
    (s.goto t th phase).terminalReports id = s.terminalReports id := rfl

/-- Whatever the body ends with is a terminal status. -/
theorem isTerminal_terminalStatus (s : ScanState) (timedOut : Bool) (id : String)
    (kind : ScanKind) : ReportHead.isTerminal ⟨id, kind, s.terminalStatus timedOut⟩ = true := by
  simp only [ReportHead.isTerminal, terminalStatus]
  split
  · rfl
  · split <;> rfl

/-- Every started id is accounted for: its thread reports once. -/
structure Accounts (s : ScanState) : Prop where
  ids : ∀ t th, s.threads t = some th → th.kind = .guided →
    th.scanId = th.activeId ∧ th.activeId ∈ s.started
  distinct : ∀ t t' th th', s.threads t = some th → s.threads t' = some th' →
    th.kind = .guided → th'.kind = .guided → th.activeId = th'.activeId → t = t'
  pending : ∀ t th, s.threads t = some th → th.kind = .guided → th.phase.isUnreported = true →
    s.terminalReports th.activeId = 0
  settled : ∀ id ∈ s.started, s.terminalReports id = 1 ∨
    ∃ t th, s.threads t = some th ∧ th.kind = .guided ∧ th.activeId = id ∧
      th.phase.isUnreported = true
  unknown : ∀ id ∉ s.started, s.terminalReports id = 0

/-- A thread that goes on keeps its ids. -/
theorem same_goto (th : ScanThread) (phase : ScanPhase) : ∀ th',
    some { th with phase } = some th' →
      th'.kind = th.kind ∧ th'.scanId = th.scanId ∧ th'.activeId = th.activeId := by
  intro th' hth'
  rw [← Option.some.inj hth']
  exact ⟨rfl, rfl, rfl⟩

/-- The guided threads after a step are those before it, with their ids. -/
structure SameThreads (s s' : ScanState) (t : Nat) (th : ScanThread) (v : Option ScanThread) :
    Prop where
  thread : s.threads t = some th
  threads : s'.threads = Function.update s.threads t v
  started : s'.started = s.started
  same : ∀ th', v = some th' →
    th'.kind = th.kind ∧ th'.scanId = th.scanId ∧ th'.activeId = th.activeId

namespace SameThreads

variable {s s' : ScanState} {t : Nat} {th : ScanThread} {v : Option ScanThread}

/-- Every thread has its old one. -/
theorem old (h : SameThreads s s' t th v) {u : Nat} {th' : ScanThread}
    (hu : s'.threads u = some th') : ∃ th₀, s.threads u = some th₀ ∧ th'.kind = th₀.kind ∧
      th'.scanId = th₀.scanId ∧ th'.activeId = th₀.activeId ∧ (u ≠ t → th' = th₀) := by
  rw [h.threads] at hu
  by_cases hut : u = t
  · subst hut
    rw [Function.update_self] at hu
    obtain ⟨hkind, hscan, hactive⟩ := h.same th' hu
    exact ⟨th, h.thread, hkind, hscan, hactive, fun hne => absurd rfl hne⟩
  · rw [Function.update_of_ne hut] at hu
    exact ⟨th', hu, rfl, rfl, rfl, fun _ => rfl⟩

/-- The ids of the threads are those of the scans that were started. -/
theorem ids (h : SameThreads s s' t th v) (ha : s.Accounts) : ∀ u th',
    s'.threads u = some th' → th'.kind = .guided →
      th'.scanId = th'.activeId ∧ th'.activeId ∈ s'.started := by
  intro u th' hu hkind
  obtain ⟨th₀, hth₀, hk, hs, hid, -⟩ := h.old hu
  rw [hs, hid, h.started]
  exact ha.ids u th₀ hth₀ (hk ▸ hkind)

/-- And no two guided threads share one. -/
theorem distinct (h : SameThreads s s' t th v) (ha : s.Accounts) : ∀ u u' th₁ th₂,
    s'.threads u = some th₁ → s'.threads u' = some th₂ → th₁.kind = .guided →
      th₂.kind = .guided → th₁.activeId = th₂.activeId → u = u' := by
  intro u u' th₁ th₂ hu hu' hkind hkind' hid
  obtain ⟨a, hA, hk, -, hi, -⟩ := h.old hu
  obtain ⟨b, hB, hk', -, hi', -⟩ := h.old hu'
  exact ha.distinct u u' a b hA hB (hk ▸ hkind) (hk' ▸ hkind') (hi ▸ hi' ▸ hid)

end SameThreads

/-- A thread goes on without a report of a guided scan. -/
theorem Accounts.silent {s s' : ScanState} (h : s.Accounts) {t : Nat} {th : ScanThread}
    {v : Option ScanThread} (hsame : SameThreads s s' t th v)
    (hcount : ∀ id, s'.terminalReports id = s.terminalReports id)
    (hv : th.kind = .guided →
      v.any (fun th' => th'.phase.isUnreported) = th.phase.isUnreported) : s'.Accounts where
  ids := hsame.ids h
  distinct := hsame.distinct h
  -- pending: who has not reported yet had not before either
  pending u th' hu hkind hunreported := by
    rw [hcount]
    rw [hsame.threads] at hu
    by_cases hut : u = t
    · subst hut
      rw [Function.update_self] at hu
      obtain ⟨hk, -, hid⟩ := hsame.same th' hu
      have hv := hv (hk ▸ hkind)
      rw [hu, Option.any_some, hunreported] at hv
      rw [hid]
      exact h.pending u th hsame.thread (hk ▸ hkind) hv.symm
    · rw [Function.update_of_ne hut] at hu
      exact h.pending u th' hu hkind hunreported
  -- settled: a started id is reported, or its thread is still to report
  settled id hid := by
    rw [hcount]
    rcases h.settled id (hsame.started ▸ hid) with hone | ⟨u, th₀, hu, hkind, hactive, hun⟩
    · exact .inl hone
    right
    by_cases hut : u = t
    · subst hut
      obtain rfl : th₀ = th := Option.some.inj (hu.symm.trans hsame.thread)
      have hv := hv hkind
      rw [hun] at hv
      -- a thread that is gone had reported
      cases v with
      | none => cases hv
      | some th' =>
        obtain ⟨hk, -, hi⟩ := hsame.same th' rfl
        exact ⟨u, th', by rw [hsame.threads, Function.update_self], hk.trans hkind,
          hi.trans hactive, hv⟩
    · exact ⟨u, th₀, by rw [hsame.threads, Function.update_of_ne hut]; exact hu, hkind, hactive,
        hun⟩
  -- unknown
  unknown id hid := by
    rw [hcount]
    exact h.unknown id (hsame.started ▸ hid)

/-- A guided thread makes its report. -/
theorem Accounts.speaks {s s' : ScanState} (h : s.Accounts) {t : Nat} {th th' : ScanThread}
    (hsame : SameThreads s s' t th (some th')) (hkind : th.kind = .guided)
    (hbefore : th.phase.isUnreported = true) (hafter : th'.phase.isUnreported = false)
    (hcount : ∀ id, s'.terminalReports id =
      s.terminalReports id + if th.activeId = id then 1 else 0) : s'.Accounts where
  ids := hsame.ids h
  distinct := hsame.distinct h
  -- pending: thread `t` has reported now
  pending u th₁ hu hk hun := by
    rw [hsame.threads] at hu
    by_cases hut : u = t
    · subst hut
      rw [Function.update_self, Option.some.injEq] at hu
      rw [← hu, hafter] at hun
      cases hun
    · rw [Function.update_of_ne hut] at hu
      -- its id is another one
      have hne : th.activeId ≠ th₁.activeId := fun heq =>
        hut (h.distinct u t th₁ th hu hsame.thread hk hkind heq.symm)
      rw [hcount, if_neg hne, h.pending u th₁ hu hk hun]
  -- settled: thread `t` settles its own id and no other
  settled id hid := by
    rw [hcount]
    rcases h.settled id (hsame.started ▸ hid) with hone | ⟨u, th₀, hu, hk, hactive, hun⟩
    · -- nobody with that id is still to report
      have hne : th.activeId ≠ id := by
        rintro rfl
        rw [h.pending t th hsame.thread hkind hbefore] at hone
        cases hone
      exact .inl (by rw [if_neg hne, hone])
    · by_cases hut : u = t
      · subst hut
        obtain rfl : th₀ = th := Option.some.inj (hu.symm.trans hsame.thread)
        left
        rw [if_pos hactive, ← hactive, h.pending u th₀ hu hk hun]
      · right
        exact ⟨u, th₀, by rw [hsame.threads, Function.update_of_ne hut]; exact hu, hk, hactive,
          hun⟩
  -- unknown: the id that is reported was started
  unknown id hid := by
    have hid := hsame.started ▸ hid
    have hne : th.activeId ≠ id := by
      rintro rfl
      exact hid (h.ids t th hsame.thread hkind).2
    rw [hcount, if_neg hne, h.unknown id hid]

/-! ## The condition -/

/-- A launch that finds no guided scan under way, and whose id is new and written without
    surrounding blanks. -/
def Alone (s : ScanState) : Label → Prop
  | .launch w => ∀ scanId, s.workers w = some scanId →
      (∀ t th, s.threads t = some th → th.kind = .guided → th.phase.isLive = false) ∧
      requestedId scanId ∉ s.started ∧ scanId.toStr = requestedId scanId
  | _ => True

/-- A scan that is launched is the one the service tracks. -/
theorem tracks_launch {s : ScanState}
    (hnone : ∀ t th, s.threads t = some th → th.kind = .guided → th.phase.isLive = false)
    (scanId : Json) : (s.launch scanId).Tracks := by
  -- the new thread is the only one that is live
  have honly : ∀ u th, (s.launch scanId).threads u = some th → th.kind = .guided →
      th.phase.isLive = true → u = s.nextId ∧ th.activeId = requestedId scanId := by
    intro u th hu hkind hlive
    rcases Function.eq_some_of_update_some hu with ⟨rfl, rfl⟩ | ⟨-, hu⟩
    · exact ⟨rfl, rfl⟩
    · rw [hnone u th hu hkind] at hlive
      cases hlive
  constructor
  · intro u th hu hkind hlive
    rw [(honly u th hu hkind hlive).2]
    rfl
  · intro u u' th th' hu hu' hkind hkind' hlive hlive'
    rw [(honly u th hu hkind hlive).1, (honly u' th' hu' hkind' hlive').1]

/-- With a new id its reports can be told from all others. -/
theorem accounts_launch {s : ScanState} (h : s.Accounts) (hbody : s.OneBody) {scanId : Json}
    (hnew : requestedId scanId ∉ s.started) (htext : scanId.toStr = requestedId scanId) :
    (s.launch scanId).Accounts := by
  have hcount : ∀ id, (s.launch scanId).terminalReports id = s.terminalReports id := fun _ => rfl
  have hstarted : (s.launch scanId).started = s.started ++ [requestedId scanId] := rfl
  constructor
  -- ids
  · intro u th hu hkind
    rcases Function.eq_some_of_update_some hu with ⟨-, rfl⟩ | ⟨-, hu⟩
    · exact ⟨htext, List.mem_append_right _ (List.mem_singleton_self _)⟩
    · exact ⟨(h.ids u th hu hkind).1, List.mem_append_left _ (h.ids u th hu hkind).2⟩
  -- distinct: the id of the new thread is new
  · intro u u' th th' hu hu' hkind hkind' hid
    rcases Function.eq_some_of_update_some hu with ⟨hut, rfl⟩ | ⟨-, hu⟩ <;>
      rcases Function.eq_some_of_update_some hu' with ⟨hut', rfl⟩ | ⟨-, hu'⟩
    · rw [hut, hut']
    · -- an old thread has an id that was started before
      have hold := (h.ids u' th' hu' hkind').2
      rw [← hid] at hold
      exact absurd hold hnew
    · have hold := (h.ids u th hu hkind).2
      rw [hid] at hold
      exact absurd hold hnew
    · exact h.distinct u u' th th' hu hu' hkind hkind' hid
  -- pending: nothing was reported under a new id
  · intro u th hu hkind hun
    rw [hcount]
    rcases Function.eq_some_of_update_some hu with ⟨-, rfl⟩ | ⟨-, hu⟩
    · exact h.unknown _ hnew
    · exact h.pending u th hu hkind hun
  -- settled: the new id is settled by its thread, which is still to report
  · intro id hid
    rw [hcount]
    rcases List.mem_append.mp (hstarted ▸ hid) with hid | hid
    · refine (h.settled id hid).imp_right ?_
      rintro ⟨u, th, hu, hrest⟩
      have hne : u ≠ s.nextId := (hbody.lt hu).ne
      exact ⟨u, th, (Function.update_of_ne hne _ _).trans hu, hrest⟩
    · right
      exact ⟨s.nextId, _, Function.update_self .., rfl, (List.mem_singleton.mp hid).symm, rfl⟩
  -- unknown
  · intro id hid
    rw [hcount]
    exact h.unknown id fun hmem => hid (List.mem_append_left _ hmem)

/-- A scan of the service is no guided one. -/
theorem accounts_fire {s : ScanState} (h : s.Accounts) (hbody : s.OneBody) {kind : ScanKind}
    (hkind : kind ≠ .guided) (ts : Nat) : (s.fire kind ts).Accounts := by
  rw [ScanState.fire]
  split
  · exact h
  -- the new thread is not guided, so no guided thread is new
  have hold : ∀ {u th}, Function.update s.threads s.nextId (some (⟨kind, kind.text ++ "-" ++
      toString ts, "", .scanning⟩ : ScanThread)) u = some th → th.kind = .guided →
      s.threads u = some th := by
    intro u th hu hk
    rcases Function.eq_some_of_update_some hu with ⟨-, rfl⟩ | ⟨-, hu⟩
    · exact absurd hk hkind
    · exact hu
  constructor
  · intro u th hu hk
    exact h.ids u th (hold hu hk) hk
  · intro u u' th th' hu hu' hk hk'
    exact h.distinct u u' th th' (hold hu hk) (hold hu' hk') hk hk'
  · intro u th hu hk
    exact h.pending u th (hold hu hk) hk
  · intro id hid
    refine (h.settled id hid).imp_right ?_
    rintro ⟨u, th, hu, hrest⟩
    exact ⟨u, th, (Function.update_of_ne (hbody.lt hu).ne _ _).trans hu, hrest⟩
  · exact h.unknown

/-- A report that is none of a guided scan is not counted. -/
theorem terminalReports_remember_other {s : ScanState} {r : ReportHead} (hkind : r.kind ≠ .guided)
    (id : String) : (s.remember r).terminalReports id = s.terminalReports id := by
  rw [terminalReports_remember, if_neg (fun h => hkind h.1), Nat.add_zero]

/-- Every step keeps track of the scan that is active. -/
theorem tracks_effect {s s' : ScanState} {label : Label} (h : s.Tracks) (hacc : s.Accounts)
    (halone : Alone s label) (heffect : Effect s s' label) : s'.Tracks := by
  cases heffect with
  | quiet _ threads nextId locked activeId _ _ =>
    constructor
    · rw [threads, activeId]
      exact h.live
    · rw [threads]
      exact h.one
  -- nobody else is live when a scan is launched alone
  | launch worker eq =>
    subst eq
    have hlaunch := tracks_launch (halone _ worker).1 ‹Json›
    exact ⟨hlaunch.live, hlaunch.one⟩
  | fire background free eq =>
    subst eq
    rw [ScanState.fire, if_neg (by rw [free]; decide)]
    refine h.keeps rfl (fun th' hth' hkind => ?_) fun _ _ _ _ _ => rfl
    rw [← Option.some.inj hth'] at hkind
    exact absurd hkind background
  | @enter label t th thread phase free eq =>
    subst eq
    refine h.keeps rfl (fun th' hth' hkind _ => ?_) fun _ _ _ _ _ => rfl
    rw [← Option.some.inj hth'] at hkind ⊢
    exact ⟨th, thread, hkind, by rw [phase.2]; rfl, rfl⟩
  -- a refused thread is not live
  | refuse thread phase eq =>
    subst eq
    refine h.keeps rfl (fun th' hth' _ hlive => ?_) fun _ _ _ _ _ => rfl
    rw [← Option.some.inj hth'] at hlive
    cases hlive
  | @report label t th timedOut thread phase eq =>
    subst eq
    refine h.keeps rfl (fun th' hth' hkind _ => ?_) fun _ _ _ _ _ => rfl
    rw [← Option.some.inj hth'] at hkind ⊢
    exact ⟨th, thread, hkind, by rw [phase]; rfl, rfl⟩
  -- and neither is one that has left the body
  | @leave label t th phase thread phases eq =>
    subst eq
    have hout : phase.isLive = false := by
      rcases phases with ⟨-, hp⟩ | ⟨-, hp⟩ <;> rw [hp] <;> rfl
    rw [ScanState.leave]
    split
    · refine h.keeps rfl (fun th' hth' _ hlive => ?_) fun _ _ _ _ _ => rfl
      rw [← Option.some.inj hth'] at hlive
      exact absurd (hlive.symm.trans hout) (by decide)
    · exact h.keeps rfl (fun _ hth' => by cases hth') fun _ _ _ _ _ => rfl
  | fail thread phase eq =>
    subst eq
    refine h.keeps rfl (fun th' hth' _ hlive => ?_) fun _ _ _ _ _ => rfl
    rw [← Option.some.inj hth'] at hlive
    cases hlive
  | @clear label t th thread phase eq =>
    subst eq
    refine h.keeps rfl (fun th' hth' _ hlive => ?_) fun u thu hu hkind hlive => ?_
    · rw [← Option.some.inj hth'] at hlive
      cases hlive
    · -- the id that is cleared is not that of a live thread
      refine if_neg fun hactive => ?_
      have hid := (h.live u thu hu hkind hlive).symm.trans hactive
      obtain rfl := hacc.distinct u t thu th hu thread hkind phase.1 (Option.some.inj hid)
      rw [Option.some.inj (hu.symm.trans thread), phase.2] at hlive
      cases hlive
  | exit thread phase eq =>
    subst eq
    exact h.keeps rfl (fun _ hth' => by cases hth') fun _ _ _ _ _ => rfl

/-- And of the reports of each. -/
theorem accounts_effect {s s' : ScanState} {label : Label} (h : s.Accounts) (hbody : s.OneBody)
    (halone : Alone s label) (heffect : Effect s s' label) : s'.Accounts := by
  cases heffect with
  -- nothing is reported
  | quiet _ threads nextId locked activeId started remembered =>
    have hcount : ∀ id, s'.terminalReports id = s.terminalReports id := fun id => by
      rw [terminalReports, terminalReports, remembered]
    constructor
    · rw [threads, started]
      exact h.ids
    · rw [threads]
      exact h.distinct
    · simp only [threads, hcount]
      exact h.pending
    · simp only [threads, started, hcount]
      exact h.settled
    · simp only [started, hcount]
      exact h.unknown
  | launch worker eq =>
    subst eq
    obtain ⟨-, hnew, htext⟩ := halone _ worker
    have hlaunch := accounts_launch h hbody hnew htext
    exact ⟨hlaunch.ids, hlaunch.distinct, hlaunch.pending, hlaunch.settled, hlaunch.unknown⟩
  | fire background free eq =>
    subst eq
    exact accounts_fire h hbody background _
  | @enter label t th thread phase free eq =>
    subst eq
    refine h.silent ⟨thread, rfl, rfl, same_goto th .scanning⟩ (fun _ => rfl) fun _ => ?_
    rw [phase.2]
    rfl
  | @refuse label t th thread phase eq =>
    subst eq
    refine h.silent ⟨thread, rfl, rfl, same_goto th .failed⟩ (fun _ => rfl) fun _ => ?_
    rw [phase.2]
    rfl
  -- a guided thread reports once in the body, with a terminal status
  | @report label t th timedOut thread phase eq =>
    subst eq
    by_cases hkind : th.kind = .guided
    · refine h.speaks ⟨thread, rfl, rfl, same_goto th .reported⟩ hkind (by rw [phase]; rfl) rfl
        fun id => ?_
      rw [terminalReports_goto, terminalReports_remember, (h.ids t th thread hkind).1]
      simp [hkind, isTerminal_terminalStatus]
    · exact h.silent ⟨thread, rfl, rfl, same_goto th .reported⟩
        (fun id => terminalReports_remember_other hkind id) fun hk => absurd hk hkind
  | @leave label t th phase thread phases eq =>
    subst eq
    by_cases hkind : th.kind = .guided
    · rw [ScanState.leave, if_pos hkind]
      refine h.silent ⟨thread, rfl, rfl, same_goto th phase⟩ (fun _ => rfl) fun _ => ?_
      rcases phases with ⟨hp, rfl⟩ | ⟨hp, rfl⟩ <;> rw [hp] <;> rfl
    · rw [ScanState.leave, if_neg hkind]
      exact h.silent ⟨thread, rfl, rfl, fun _ hth' => by cases hth'⟩ (fun _ => rfl)
        fun hk => absurd hk hkind
  -- a thread that was refused reports in its own way
  | @fail label t th thread phase eq =>
    subst eq
    refine h.speaks ⟨thread, rfl, rfl, same_goto th .closing⟩ phase.1 (by rw [phase.2]; rfl) rfl
      fun id => ?_
    rw [terminalReports_goto, terminalReports_remember]
    simp [phase.1, ReportHead.isTerminal]
  | @clear label t th thread phase eq =>
    subst eq
    refine h.silent ⟨thread, rfl, rfl, same_goto th .leaving⟩ (fun _ => rfl) fun _ => ?_
    rw [phase.2]
    rfl
  | @exit label t th thread phase eq =>
    subst eq
    refine h.silent ⟨thread, rfl, rfl, fun _ hth' => by cases hth'⟩ (fun _ => rfl) fun _ => ?_
    rw [phase.2]
    rfl

/-! ## A started scan can always report -/

/-- In the body of `scan`, or after an exception, the report is the next step. -/
theorem reports_next {s : ScanState} {t : Nat} {th : ScanThread} (hth : s.threads t = some th)
    (hkind : th.kind = .guided) (hid : th.scanId = th.activeId)
    (hcount : s.terminalReports th.activeId = 0)
    (hphase : th.phase = .scanning ∨ th.phase = .failed) :
    ∃ label s', s.step label = some s' ∧ s'.terminalReports th.activeId = 1 := by
  rcases hphase with hphase | hphase
  · refine ⟨.report t false, (s.remember ⟨th.scanId, th.kind, s.terminalStatus false⟩).goto t th
      .reported, by simp [step, hth, act, hphase], ?_⟩
    rw [terminalReports_goto, terminalReports_remember, hcount, hid]
    simp [hkind, isTerminal_terminalStatus]
  · refine ⟨.fail t, (s.remember ⟨th.activeId, th.kind, "error"⟩).goto t th .closing,
      by simp [step, hth, act, ScanThread.Runs, hkind, hphase], ?_⟩
    rw [terminalReports_goto, terminalReports_remember, hcount]
    simp [hkind, ReportHead.isTerminal]

/-- A guided scan that was not reported yet can reach its report. -/
theorem reports_eventually {s : ScanState} {t : Nat} {th : ScanThread}
    (hth : s.threads t = some th) (hkind : th.kind = .guided) (hid : th.scanId = th.activeId)
    (hcount : s.terminalReports th.activeId = 0) (hun : th.phase.isUnreported = true) :
    ∃ labels s', Run.exec step s labels = some s' ∧ s'.terminalReports th.activeId = 1 := by
  -- before that the thread has to begin
  by_cases hlaunched : th.phase = .launched
  · -- the thread enters the body, or is refused and reports that
    have hbegin : s.step (.begin t) = some (s.enter t th) := by
      simp [step, hth, act, ScanThread.Runs, hkind, hlaunched]
    have henter : ∃ phase, (phase = .scanning ∨ phase = .failed) ∧
        (s.enter t th).threads t = some { th with phase } := by
      by_cases hlocked : s.locked = true
      · exact ⟨.failed, .inr rfl, by simp [enter, hlocked, goto]⟩
      · exact ⟨.scanning, .inl rfl, by simp [enter, hlocked, goto]⟩
    have hcount' : (s.enter t th).terminalReports th.activeId = 0 := by
      rw [enter]
      split <;> exact hcount
    obtain ⟨phase, hphase, hth'⟩ := henter
    obtain ⟨label, s', hstep, hone⟩ := reports_next hth' hkind hid hcount' hphase
    exact ⟨[.begin t, label], s', Run.exec_cons.mpr ⟨_, hbegin, Run.exec_cons.mpr ⟨s', hstep, rfl⟩⟩,
      hone⟩
  -- two phases are left, and each reports with its next step
  · have hphase : th.phase = .scanning ∨ th.phase = .failed := by
      cases hp : th.phase <;> simp_all [ScanPhase.isUnreported]
    obtain ⟨label, s', hstep, hone⟩ := reports_next hth hkind hid hcount hphase
    exact ⟨[label], s', Run.exec_cons.mpr ⟨s', hstep, rfl⟩, hone⟩

/-! ## The lifecycle -/

/-- What the service promises about its scans: one body at a time; the guided scan that runs is the
    active one, so that a cancel that names it is accepted and one that names another is not; and
    every id that was answered `started` has one terminal report, or none yet and one to come. -/
structure Orderly (s : ScanState) : Prop where
  one_body : ∀ t t' th th', s.threads t = some th → s.threads t' = some th' →
    th.phase.inBody = true → th'.phase.inBody = true → t = t'
  active : ∀ t th, s.threads t = some th → th.kind = .guided → th.phase.inBody = true →
    s.activeId = some th.activeId
  cancels : ∀ t th, s.threads t = some th → th.kind = .guided → th.phase.inBody = true →
    s.cancelCurrentScan (some th.activeId) = .ok () ∧
      ∀ other ≠ "", other ≠ th.activeId →
        s.cancelCurrentScan (some other) =
          .error (.valueError "The requested discovery scan is not active")
  reports : ∀ id ∈ s.started, s.terminalReports id = 1 ∨
    s.terminalReports id = 0 ∧
      ∃ labels s', Run.exec step s labels = some s' ∧ s'.terminalReports id = 1

/-- A cancel goes by the active id. -/
theorem cancelCurrentScan_active {s : ScanState} {id : String} (hactive : s.activeId = some id)
    (hid : id ≠ "") : s.cancelCurrentScan (some id) = .ok () ∧
      ∀ other ≠ "", other ≠ id → s.cancelCurrentScan (some other) =
        .error (.valueError "The requested discovery scan is not active") := by
  constructor
  · simp [cancelCurrentScan, hactive, hid]
  · intro other hother hne
    simp [cancelCurrentScan, hactive, hother, hne]

/-- Together they are what the scans promise. -/
theorem orderly_of_invariants {s : ScanState} (hbody : s.OneBody) (hnamed : s.Named)
    (htracks : s.Tracks) (hacc : s.Accounts) : s.Orderly := by
  have hactive : ∀ t th, s.threads t = some th → th.kind = .guided → th.phase.inBody = true →
      s.activeId = some th.activeId := by
    intro t th hth hkind hin
    refine htracks.live t th hth hkind ?_
    cases hp : th.phase <;> simp_all [ScanPhase.inBody, ScanPhase.isLive]
  refine ⟨hbody.one, hactive, ?_, ?_⟩
  · intro t th hth hkind hin
    exact cancelCurrentScan_active (hactive t th hth hkind hin) (hnamed.threads t th hth hkind)
  · intro id hid
    refine (hacc.settled id hid).imp_right ?_
    rintro ⟨t, th, hth, hkind, rfl, hun⟩
    have hcount := hacc.pending t th hth hkind hun
    exact ⟨hcount, reports_eventually hth hkind (hacc.ids t th hth hkind).1 hcount hun⟩

/-- In every run in which no launch finds a guided scan under way or starts an id again, the
    lifecycle is kept. -/
theorem orderly_of_run {labels : List Label} {s : ScanState}
    (halone : Run.Along step Alone init labels) (hrun : Run.exec step init labels = some s) :
    s.Orderly := by
  have hinit : init.OneBody ∧ init.Named ∧ init.Tracks ∧ init.Accounts :=
    ⟨oneBody_init, ⟨fun _ _ h => (by cases h), fun _ _ h => (by cases h)⟩,
      ⟨fun _ _ h => (by cases h), fun _ _ _ _ h => (by cases h)⟩,
      ⟨fun _ _ h => (by cases h), fun _ _ _ _ h => (by cases h), fun _ _ h => (by cases h),
        fun _ h => (by cases h), fun _ _ => rfl⟩⟩
  obtain ⟨hbody, hnamed, htracks, hacc⟩ := Run.exec_invariant
    (I := fun s => s.OneBody ∧ s.Named ∧ s.Tracks ∧ s.Accounts)
    (fun _ _ _ h halone hstep =>
      have heffect := step_effect hstep
      ⟨oneBody_effect h.1 heffect, named_effect h.2.1 heffect,
        tracks_effect h.2.2.1 h.2.2.2 halone heffect,
        accounts_effect h.2.2.2 h.1 halone heffect⟩) hinit halone hrun
  exact orderly_of_invariants hbody hnamed htracks hacc

/-! ## Two workers -/

/-- Two workers check their requests before either of them starts its scan. -/
def bothChecked : List Label :=
  [.check 0 (.str "a"), .check 1 (.str "b"), .launch 0, .launch 1, .begin 0]

/-- Then the scan that runs is not the active one, and cannot be cancelled. -/
theorem launched_over_scan : ∃ s, Run.exec step init bothChecked = some s ∧ ¬s.Orderly := by
  have hview : (Run.exec step init bothChecked).map (fun s => (s.activeId, (s.threads 0).map
      fun th => (th.kind, th.phase, th.activeId))) =
        some (some "b", some (.guided, .scanning, "a")) := by decide +kernel
  obtain ⟨s, hs, hview⟩ := Option.map_eq_some_iff.mp hview
  obtain ⟨hactive, hthread⟩ := Prod.mk.inj hview
  obtain ⟨th, hth, hfields⟩ := Option.map_eq_some_iff.mp hthread
  obtain ⟨hkind, hrest⟩ := Prod.mk.inj hfields
  obtain ⟨hphase, hid⟩ := Prod.mk.inj hrest
  refine ⟨s, hs, fun h => ?_⟩
  have hsame := h.active 0 th hth hkind (by rw [hphase]; rfl)
  rw [hactive, hid] at hsame
  exact absurd hsame (by decide)

/-- A scan that is cancelled while it runs, with a second request for it and a periodic scan that
    comes too early. -/
def cancelledScan : List Label :=
  [.check 0 (.str "a"), .launch 0, .begin 0, .check 1 (.str "a"), .fire true 7,
    .cancel (some "a"), .report 0 false, .release 0, .clear 0, .exit 0]

/-- A scan that is cancelled. -/
theorem orderly_of_run_cancelled : ∃ s, Run.exec step init cancelledScan = some s ∧
    s.started = ["a"] ∧ s.Orderly := by
  have hview : (Run.exec step init cancelledScan).map (fun s => s.started) = some ["a"] := by
    decide +kernel
  obtain ⟨s, hs, hstarted⟩ := Option.map_eq_some_iff.mp hview
  have halone : Run.Along step Alone init cancelledScan := by
    refine ⟨trivial, fun s₁ h₁ => ⟨?_, fun s₂ _ => Run.Along.of_forall (by simp [Alone])⟩⟩
    -- nothing was started before the launch
    have hid : requestedId (.str "a") = "a" := by decide +kernel
    have hpasses : init.check (.str "a") = .passes := by decide +kernel
    have hs₁ : s₁ = { init with workers := Function.update init.workers 0 (some (.str "a")) } := by
      rw [step, if_neg (by decide), if_pos hpasses] at h₁
      exact (Option.some.inj h₁).symm
    subst hs₁
    intro scanId hscanId
    obtain rfl : Json.str "a" = scanId := Option.some.inj hscanId
    exact ⟨fun _ _ hth => (by cases hth), List.not_mem_nil, hid.symm⟩
  exact ⟨s, hs, hstarted, orderly_of_run halone hs⟩

end ScanState

end Novena

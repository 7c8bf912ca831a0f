import NovenaGateway.Native.JournalDamage
import NovenaGateway.Spec.CrossClaim

/-!
# Replay protection without a journal

A journal that cannot be read is taken for an empty one, so that the guard that starts on it knows
no command and no sequence. `RpcState.fails_closed_iff` says that such a guard keeps up what was
recorded only where nothing was recorded: every recorded command was accepted once under the
retained policy, and what was accepted once is accepted again.

Key results:
- `RpcState.fails_closed_iff`
- `RpcState.replayed_after_loss`
-/

namespace Novena

open GovernedCommandGuard (field)

/-! ## What a journal holds -/

namespace DurableCommandJournal

/-- No recorded maximum is negative, and without commands there is none. -/
structure Sound (s : JournalState) : Prop where
  nonneg : ∀ p ∈ s.sequences, 0 ≤ p.2.2
  empty : s.commands = [] → s.sequences = []

/-- An empty journal is sound. -/
theorem Sound.init : Sound .empty := ⟨(fun _ hp => by cases hp), fun _ => rfl⟩

/-- Its maxima are not negative. -/
theorem Sound.topSequence {s : JournalState} (h : Sound s) (key : Json.Key) :
    0 ≤ topSequence s.sequences key := by
  unfold DurableCommandJournal.topSequence
  cases hget : s.sequences.get? key with
  | none => exact Int.le_refl 0
  | some p => exact h.nonneg _ (Dict.mem_of_get? hget)

/-- What is saved of a sound journal is sound. -/
theorem Sound.dump {s saved : JournalState} (h : Sound s) (hdump : s.dump = some saved) :
    Sound saved := by
  obtain ⟨hcommands, _, _, hsequences⟩ := dump_eq hdump
  constructor
  · intro p hp
    rw [hsequences] at hp
    obtain ⟨q, hq, rfl⟩ := List.mem_map.mp hp
    exact h.nonneg q hq
  · intro hempty
    rw [hsequences, h.empty (hcommands ▸ hempty)]
    rfl

/-- A sequence that is filed is not negative. -/
theorem nonneg_fileSequence {sequences : Dict Json.Key (Json × Int)}
    (h : ∀ p ∈ sequences, 0 ≤ p.2.2) (deviceId : Json) (entry : Int × Option Json.Key) :
    ∀ p ∈ fileSequence sequences deviceId entry, 0 ≤ p.2.2 := by
  obtain ⟨sequence, key?⟩ := entry
  -- a device without a key files nothing
  cases key? with
  | none => exact h
  | some key =>
    intro p hp
    unfold fileSequence bumpSequence at hp
    dsimp only at hp
    -- the maximum of two numbers, of which one is not negative
    split at hp
    · next spelling n hget =>
      obtain rfl | hp := Dict.mem_set hp
      · exact Int.le_trans (h _ (Dict.mem_of_get? hget)) (Int.le_max_right _ _)
      · exact h p hp
    · obtain rfl | hp := Dict.mem_set hp
      · exact Int.le_max_right _ _
      · exact h p hp

/-- A written state is sound. -/
theorem Sound.write {j : DurableCommandJournal} (h : Sound j.state) (c : String)
    (record : CommandRecord) (now : Int) (ok : Bool) : Sound (j.write c record now ok).1.state := by
  obtain ⟨hcommands, _, hsequences⟩ := j.write_state c record now ok
  constructor
  · obtain ⟨_, hsame, _⟩ | ⟨entry, _, hfiled, _⟩ := hsequences
    · rw [hsame]
      exact h.nonneg
    · rw [hfiled]
      exact nonneg_fileSequence h.nonneg _ _
  · intro hempty
    -- there is a command now
    have hget := j.get_write_self c record now ok
    rw [get, hempty] at hget
    cases hget

/-- The journal in memory and the file are sound, and every command of one of them has a source. -/
structure Sourced (P : String → Prop) (j : DurableCommandJournal) : Prop where
  memory : Sound j.state
  disk : Sound (load j.file)
  known : ∀ c ∈ j.known, P c
  stored : ∀ c ∈ j.stored, P c

variable {P : String → Prop} {j : DurableCommandJournal}

/-- A record is of an accepted command. -/
theorem Sourced.write (h : j.Sourced P) {c : String} (hc : P c) (record : CommandRecord)
    (now : Int) (ok : Bool) : (j.write c record now ok).1.Sourced P := by
  -- a known command was known, or is the one written
  have hknown : ∀ d ∈ (j.write c record now ok).1.known, P d := by
    intro d hd
    have hget : ((j.state.commands.set c record).get? d).isSome = true := by
      rw [← (j.write_state c record now ok).1]
      exact hd
    rw [Dict.get?_set] at hget
    split at hget
    · next heq => rw [heq]; exact hc
    · exact h.known d hget
  have hmemory := h.memory.write c record now ok
  refine ⟨hmemory, ?_, hknown, ?_⟩
  -- the file is the old one, or the dump of the new state
  · obtain hfile | ⟨saved, hdump, hfile⟩ := j.write_file c record now ok
    · rw [hfile]
      exact h.disk
    · rw [hfile]
      exact hmemory.dump hdump
  -- and so are the commands stored in it
  · obtain hstored | hstored := j.stored_write c record now ok
    · rw [hstored]
      exact h.stored
    · rw [hstored]
      exact hknown

/-- A journal that is built from a sound file. -/
theorem Sourced.init (hdisk : Sound (load j.file)) (hstored : ∀ c ∈ j.stored, P c) :
    (init j.file).Sourced P :=
  ⟨hdisk, hdisk, hstored, hstored⟩

end DurableCommandJournal

/-! ## Commands that were accepted -/

namespace GovernedCommandGuard

open DurableCommandJournal

/-- `validate` accepted the command once under this policy, for execution. -/
def AcceptedOnce (cfg : GuardConfig) (policy : Json) (job : Job) : Prop :=
  ∃ (g : GovernedCommandGuard) (clock : Clock) (control : Json), g.policy = policy ∧
    g.validate cfg clock job.payload = .ok (control, none) ∧ Sound g.journal.state

/-- A command of that id was. -/
def SourceOf (cfg : GuardConfig) (policy : Json) (c : String) : Prop :=
  ∃ job : Job, job.commandId? = some c ∧ AcceptedOnce cfg policy job

/-- Only the policy decides what is admitted. -/
theorem Admits.of_policy {g g' : GovernedCommandGuard} {payload : Dict String Json}
    (h : g.Admits payload) (hpolicy : g.policy = g'.policy) : g'.Admits payload := by
  obtain ⟨htruthy, hepoch, hcontrol⟩ := h
  simp only [controlEpoch, validateControl, hpolicy] at htruthy hepoch hcontrol
  exact ⟨htruthy, hepoch, hcontrol⟩

/-- The highest sequence of a device, where there is one. -/
theorem maxSequence_ok {j : DurableCommandJournal} {deviceId : Json} {highest : Int}
    (h : j.maxSequence deviceId = .ok highest) :
    ∃ key, deviceId.hashKey = .ok key ∧ highest = topSequence j.state.sequences key := by
  cases hkey : deviceId.hashKey with
  | error e =>
    rw [maxSequence, hkey] at h
    cases h
  | ok key =>
    rw [maxSequence_eq hkey] at h
    exact ⟨key, rfl, (Except.ok.inj h).symm⟩

/-- What a sound journal has not seen, an empty one has not. -/
theorem Unseen.empty {g g' : GovernedCommandGuard} {payload : Dict String Json}
    (h : g.Unseen payload) (hsound : Sound g.journal.state) (hempty : g'.journal.state = .empty) :
    g'.Unseen payload := by
  obtain ⟨_, n, deviceId, highest, hn, hdevice, hmax, hlt⟩ := h
  obtain ⟨key, hkey, rfl⟩ := maxSequence_ok hmax
  refine ⟨fun c _ => ?_, n, deviceId, 0, hn, hdevice, ?_, ?_⟩
  · rw [DurableCommandJournal.get, hempty]
    rfl
  · rw [maxSequence_eq hkey, hempty]
    rfl
  · exact Int.lt_of_le_of_lt (hsound.topSequence key) hlt

/-- With an empty journal nothing is replayed, and with nothing recorded nothing has been seen. -/
theorem unseen_of_nothing {cfg : GuardConfig} {g g' : GovernedCommandGuard} {clock : Clock}
    {envelope : Dict String Json} {control : Json} {replay : Option CommandRecord}
    (hsound : Sound g.journal.state) (hcommands : g.journal.state.commands = [])
    (hempty : g'.journal.state = .empty)
    (hvalid : g'.validate cfg clock envelope = .ok (control, replay)) : g.Unseen envelope := by
  -- the journal that validates is empty, so it finds no record
  have hid := (validate_unexpired hvalid).1
  simp only [validate, Except.bind_eq_ok, Except.pure_eq_ok] at hvalid
  obtain ⟨_, _, _, _, _, _, _, _, found, hfresh, _⟩ := hvalid
  have hnone : found = none := by
    unfold validateFresh at hfresh
    simp only [DurableCommandJournal.get, hempty] at hfresh
    simp only [JournalState.empty, Dict.get?_nil, Except.bind_eq_ok] at hfresh
    obtain ⟨_, _, _, _, _, _, _, _, hpure⟩ := hfresh
    exact (Except.ok.inj hpure).symm
  subst hnone
  -- its maximum is 0, and the sequence is above it
  obtain ⟨_, n, deviceId, highest, hn, hdevice, hmax, hlt⟩ := (validateFresh_eq_none hid).mp hfresh
  obtain ⟨key, hkey, rfl⟩ := maxSequence_ok hmax
  -- an honest journal without commands has no sequences either
  refine ⟨fun c _ => ?_, n, deviceId, 0, hn, hdevice, ?_, ?_⟩
  · rw [DurableCommandJournal.get, hcommands]
    rfl
  · rw [maxSequence_eq hkey, hsound.empty hcommands]
    rfl
  · rwa [hempty] at hlt

/-- The id of a job is in its payload. -/
theorem field_of_commandId? {job : Job} {c : String} (h : job.commandId? = some c) :
    field job.payload "command_id" = .str c := by
  simp only [Job.commandId?] at h
  split at h
  · next hs => exact hs.trans (congrArg _ (Option.some.inj h))
  · cases h

/-- A command that was accepted once is accepted at the same time by a guard with the same policy
    and an empty journal. -/
theorem AcceptedOnce.again {cfg : GuardConfig} {g' : GovernedCommandGuard} {job : Job}
    (h : AcceptedOnce cfg g'.policy job) (hempty : g'.journal.state = .empty) :
    ∃ clock control, g'.validate cfg clock job.payload = .ok (control, none) := by
  obtain ⟨g, clock, control, hpolicy, hvalid, hsound⟩ := h
  obtain ⟨hid, expiresAt, hexpires, hlt⟩ := validate_unexpired hvalid
  obtain ⟨hready, hwindow, hadmits, hfresh⟩ :=
    (validate_again hvalid hexpires hlt).mp ⟨control, hvalid⟩
  have hunseen : g'.Unseen job.payload := ((validateFresh_eq_none hid).mp hfresh).empty hsound hempty
  exact ⟨clock, (validate_again hvalid hexpires hlt).mpr
    ⟨hready, hwindow, hadmits.of_policy hpolicy, (validateFresh_eq_none hid).mpr hunseen⟩⟩

/-- A mark records an accepted command. -/
theorem Marked.sourced {P : String → Prop} {g g' : GovernedCommandGuard} {job : Job} {r : Py Unit}
    (h : g.Marked job g' r) (hg : g.journal.Sourced P)
    (hjob : ∀ c, job.commandId? = some c → P c) :
    g'.journal.Sourced P ∧ g'.policy = g.policy ∧ g'.policyFile = g.policyFile := by
  obtain ⟨rfl, _⟩ | ⟨c, record, now, ok, hc, _, _, rfl, _⟩ := h.write
  · exact ⟨hg, rfl, rfl⟩
  · exact ⟨hg.write (hjob c hc) record now ok, rfl, rfl⟩

end GovernedCommandGuard

/-! ## Runs under one policy -/

/-- The retained policy and the journal are left to the commands. -/
def Label.keepsPolicy : Label → Prop
  | .reset _ _ | .installPolicy _ _ _ => False
  | _ => True

namespace RpcState

open GovernedCommandGuard DurableCommandJournal

variable {cfg : RpcConfig} {s s' : RpcState} {policy : Json} {policyFile : Option Json}

/-- The guard still has the policy that was loaded, and what it recorded was accepted under it. -/
structure Retains (cfg : RpcConfig) (policy : Json) (policyFile : Option Json)
    (g : GovernedCommandGuard) : Prop where
  journal : g.journal.Sourced (SourceOf cfg.guard policy)
  loaded : g.policy = policy
  file : g.policyFile = policyFile

/-- What the workers are to carry out was accepted under the policy. -/
def WorkersAccepted (cfg : RpcConfig) (policy : Json) (workers : Dict Nat Worker) : Prop :=
  ∀ i w, workers.get? i = some w → w.job.governed = true → AcceptedOnce cfg.guard policy w.job

/-- A new worker works on an accepted command. -/
theorem WorkersAccepted.set {workers : Dict Nat Worker} (h : WorkersAccepted cfg policy workers)
    {i : Nat} {w : Worker} (hw : w.job.governed = true → AcceptedOnce cfg.guard policy w.job) :
    WorkersAccepted cfg policy (workers.set i w) := by
  intro j w' hw' hgov
  obtain ⟨_, rfl⟩ | ⟨_, hold⟩ := Dict.of_get?_set hw'
  · exact hw hgov
  · exact h j w' hold hgov

/-- And those that are left did before. -/
theorem WorkersAccepted.erase {workers : Dict Nat Worker} (h : WorkersAccepted cfg policy workers)
    (i : Nat) : WorkersAccepted cfg policy (workers.erase i) :=
  fun j w hw hgov => h j w (Dict.of_get?_erase hw).2 hgov

/-- A worker that goes on. -/
theorem WorkersAccepted.goto {workers : Dict Nat Worker} (h : WorkersAccepted cfg policy workers)
    {i : Nat} {w : Worker} (hw : workers.get? i = some w) (pc : Pc) :
    WorkersAccepted cfg policy (workers.set i { w with pc }) :=
  h.set (h i w hw)

/-- A mark keeps what was accepted once. -/
theorem Retains.marked {g g' : GovernedCommandGuard} {job : Job} {r : Py Unit}
    (h : Retains cfg policy policyFile g) (hmarked : g.Marked job g' r)
    (hjob : AcceptedOnce cfg.guard policy job) : Retains cfg policy policyFile g' := by
  obtain ⟨hjournal, hpolicy, hfile⟩ := hmarked.sourced h.journal fun c hc => ⟨job, hc, hjob⟩
  exact ⟨hjournal, hpolicy.trans h.loaded, hfile.trans h.file⟩

/-- A mark that a worker may or may not have made on its way out. -/
theorem Retains.unwound {g : GovernedCommandGuard} {i : Nat} {w : Worker}
    (h : Retains cfg policy policyFile s.guard) (hworkers : WorkersAccepted cfg policy s.workers)
    (hw : s.workers.get? i = some w)
    (hguard : g = s.guard ∨ (w.job.governed = true ∧ ∃ r, s.guard.Marked w.job g r)) :
    Retains cfg policy policyFile g := by
  obtain rfl | ⟨hgov, r, hmarked⟩ := hguard
  · exact h
  · exact h.marked hmarked (hworkers i w hw hgov)

/-- Both, of a state. -/
structure UnderPolicy (cfg : RpcConfig) (policy : Json) (policyFile : Option Json) (s : RpcState) :
    Prop where
  guard : Retains cfg policy policyFile s.guard
  workers : WorkersAccepted cfg policy s.workers

/-- Every step that keeps the policy does. -/
theorem UnderPolicy.step {a : Label} (hload : loadPolicy cfg.guard policyFile = .ok policy)
    (h : UnderPolicy cfg policy policyFile s) (hkeeps : a.keepsPolicy)
    (hstep : RpcState.step cfg s a = some s') : UnderPolicy cfg policy policyFile s' := by
  cases step_moves hstep with
  | quiet => exact ⟨h.guard, h.workers⟩
  -- the worker starts with a command that `validate` has passed
  | accept d r job hstarted =>
    obtain ⟨_, hvalid⟩ := RpcHandler.onRpcRequest_started hstarted
    refine ⟨h.guard, h.workers.set fun hgov => ?_⟩
    obtain ⟨control, hvalid⟩ := hvalid hgov
    exact ⟨s.guard, d.clock, control, h.guard.loaded, hvalid, h.guard.journal.memory⟩
  | doomed i w e hw hpc hk => exact ⟨h.guard, h.workers.erase i⟩
  | lock i w key hw hpc hg hk hfree => exact ⟨h.guard, h.workers.goto hw .locked⟩
  | advance a i w pc es hw hes hrun hg => exact ⟨h.guard, h.workers.goto hw pc⟩
  -- a mark files the command of a worker
  | mark i w now ok guard r hw hpc hg hm =>
    exact ⟨h.guard.marked hm (h.workers i w hw hg), h.workers.goto hw .ready⟩
  | call i w hw hpc => exact ⟨h.guard, h.workers.goto hw .running⟩
  | file a i w c guard hw hpc hg hm =>
    exact ⟨h.guard.marked hm (h.workers i w hw hg), h.workers.goto hw (.terminal c)⟩
  -- the mark may have failed after it wrote
  | unwind a i w e guard es hw hpc hes hguard =>
    constructor
    · rw [goto_guard, unlock_guard]
      exact h.guard.unwound h.workers hw hguard
    · rw [goto_workers, unlock_workers]
      exact h.workers.goto hw (.failing e)
  | finish i w c r hw hpc =>
    constructor
    · rw [retire_guard, unlock_guard]
      exact h.guard
    · rw [retire_workers, unlock_workers]
      exact h.workers.erase i
  | abort a i w e guard es hw hpc hes hguard =>
    exact ⟨h.guard.unwound h.workers hw hguard, h.workers.erase i⟩
  | crash guard hinit =>
    -- the process starts again from a file that was written by the one before
    rw [h.guard.file] at hinit
    simp only [GovernedCommandGuard.init, hload, Except.map] at hinit
    obtain rfl := Except.ok.inj hinit
    refine ⟨⟨Sourced.init h.guard.journal.disk h.guard.journal.stored, rfl, rfl⟩, ?_⟩
    intro i w hw
    cases hw
  -- resets and policies are excluded
  | reset ok removed => exact hkeeps.elim
  | policy wire fileOk ok => exact hkeeps.elim

/-- The process that starts on a policy and no journal. -/
def newProcess (guard : GovernedCommandGuard) : RpcState :=
  { guard, heldLocks := [], workers := [], nextId := 0, trace := [] }

/-- A process that starts with an empty journal is under the policy it loads. -/
theorem underPolicy_new {guard : GovernedCommandGuard}
    (hinit : GovernedCommandGuard.init cfg.guard policyFile .missing = .ok guard) :
    loadPolicy cfg.guard policyFile = .ok guard.policy ∧
      UnderPolicy cfg guard.policy policyFile (newProcess guard) := by
  simp only [GovernedCommandGuard.init, Except.map_eq_ok] at hinit
  obtain ⟨policy, hload, rfl⟩ := hinit
  have hsourced : (DurableCommandJournal.init .missing).Sourced (SourceOf cfg.guard policy) :=
    ⟨Sound.init, Sound.init, (fun _ hc => by cases hc), (fun _ hc => by cases hc)⟩
  exact ⟨hload, ⟨hsourced, rfl, rfl⟩, (fun _ _ hw => by cases hw)⟩

/-- And so is every state of its runs. -/
theorem underPolicy_of_run {guard : GovernedCommandGuard} {labels : List Label}
    (hinit : GovernedCommandGuard.init cfg.guard policyFile .missing = .ok guard)
    (hkeeps : ∀ a ∈ labels, a.keepsPolicy) (hrun : exec cfg (newProcess guard) labels = some s) :
    UnderPolicy cfg guard.policy policyFile s := by
  obtain ⟨hload, hnew⟩ := underPolicy_new hinit
  exact Run.exec_invariant (fun _ _ _ h hkeeps hstep => h.step hload hkeeps hstep) hnew
    (Run.Along.of_forall fun a ha _ => hkeeps a ha) hrun

/-- A guard that starts on a damaged journal accepts no command that was recorded, and no sequence
    that is not above the recorded maximum of its device. -/
def FailsClosed (cfg : RpcConfig) (s : RpcState) (damage : JournalDamage) : Prop :=
  ∀ g, initDamaged cfg.guard s.guard.policyFile damage = .ok g →
    ∀ clock envelope control replay,
      g.validate cfg.guard clock envelope = .ok (control, replay) → s.guard.Unseen envelope

/-- The guard that starts on a file that cannot be read or parsed. -/
theorem initDamaged_lost (hload : loadPolicy cfg.guard policyFile = .ok policy)
    {damage : JournalDamage} (hdamage : ∀ message, damage ≠ .notUtf8 message) :
    initDamaged cfg.guard policyFile damage =
      .ok { policy, policyFile, journal := ⟨.empty, .unreadable⟩ } := by
  cases damage with
  | notUtf8 message => exact absurd rfl (hdamage message)
  | _ => simp [initDamaged, loadDamaged, load, hload, Except.map]

/-- After any run of commands, crashes and restarts under one policy, a restart on a damaged
    journal keeps up what was recorded exactly when nothing was recorded, or when the constructor
    raises. -/
theorem fails_closed_iff {guard : GovernedCommandGuard} {labels : List Label}
    (hinit : GovernedCommandGuard.init cfg.guard policyFile .missing = .ok guard)
    (hkeeps : ∀ a ∈ labels, a.keepsPolicy) (hrun : exec cfg (newProcess guard) labels = some s)
    (damage : JournalDamage) :
    FailsClosed cfg s damage ↔
      s.guard.journal.state.commands = [] ∨ ∃ message, damage = .notUtf8 message := by
  have hunder := underPolicy_of_run hinit hkeeps hrun
  obtain ⟨hload, _⟩ := underPolicy_new hinit
  -- a recorded command is accepted again by an empty journal
  constructor
  · intro hcloses
    by_contra hnot
    rw [not_or, not_exists] at hnot
    obtain ⟨hcommands, hdamage⟩ := hnot
    have hlost := initDamaged_lost hload hdamage
    rw [← hunder.guard.file] at hlost
    -- some command was recorded, and so it was accepted before
    obtain ⟨c, record, hget⟩ : ∃ c record, s.guard.journal.get c = some record := by
      -- commands do not vanish from the table
      cases hlist : s.guard.journal.state.commands with
      | nil => exact absurd hlist hcommands
      | cons p commands =>
        refine ⟨p.1, p.2, ?_⟩
        rw [DurableCommandJournal.get, hlist]
        exact (Dict.get?_cons p.1 p.2 commands p.1).trans (if_pos rfl)
    -- a known command belongs to a job that was accepted once
    have hknown : c ∈ s.guard.journal.known := by
      show (s.guard.journal.get c).isSome = true
      rw [hget]
      rfl
    obtain ⟨job, hid, honce⟩ := hunder.guard.journal.known c hknown
    let lost : GovernedCommandGuard :=
      { policy := guard.policy, policyFile := s.guard.policyFile, journal := ⟨.empty, .unreadable⟩ }
    have honce : AcceptedOnce cfg.guard lost.policy job := honce
    obtain ⟨clock, control, hvalid⟩ := honce.again rfl
    have hnone := (hcloses _ hlost clock job.payload control none hvalid).1 c
      (field_of_commandId? hid)
    rw [hget] at hnone
    cases hnone
  -- with no record there is nothing to repeat
  · rintro (hcommands | ⟨message, rfl⟩) g hg clock envelope control replay hvalid
    · have hdamage : ∀ message, damage ≠ .notUtf8 message := by
        rintro message rfl
        cases hg
      rw [hunder.guard.file, initDamaged_lost hload hdamage] at hg
      obtain rfl := Except.ok.inj hg
      exact unseen_of_nothing hunder.guard.journal.memory hcommands rfl hvalid
    -- a file that is not text stops the start
    · cases hg

open PumpStation

/-- One command that is carried out. -/
def commandRun : List Label :=
  [receive (command "command-1" (.int 7) 1)] ++ startHandler 0 ++ endHandler 0

/-- The station of the example starts so. -/
theorem boot_new : ∃ guard, GovernedCommandGuard.init config.guard (some PumpStation.policy) .missing =
    .ok guard ∧ boot = newProcess guard := by
  have hok : startGuard.toOption.isSome = true := by decide +kernel
  cases h : startGuard with
  | error e => simp [h, Except.toOption] at hok
  | ok guard => exact ⟨guard, h, by simp [boot, newProcess, h, Except.toOption]⟩

/-- With nothing wrong in the run, the condition is the only way to say no. -/
theorem fails_closed_commandRun : ∃ s, exec config boot commandRun = some s ∧
    (FailsClosed config s .notJson ↔
      s.guard.journal.state.commands = [] ∨ ∃ message, JournalDamage.notJson = .notUtf8 message) := by
  have hrun : (exec config boot commandRun).isSome = true := by decide +kernel
  obtain ⟨s, hrun⟩ := Option.isSome_iff_exists.mp hrun
  obtain ⟨guard, hinit, hboot⟩ := boot_new
  refine ⟨s, hrun, fails_closed_iff hinit ?_ (hboot ▸ hrun) .notJson⟩
  intro a ha
  simp only [commandRun, startHandler, endHandler, receive, List.cons_append, List.nil_append,
    List.mem_cons, List.not_mem_nil, or_false] at ha
  obtain rfl | rfl | rfl | rfl | rfl | rfl | rfl | rfl := ha <;> trivial

/-- What a redelivery a second later finds after the loss: a record before it, and nothing to
    replay. -/
def redelivered : Option (Bool × Bool) :=
  (exec config boot commandRun).bind fun s =>
    (initDamaged config.guard s.guard.policyFile .notJson).toOption.bind fun g =>
      (g.validate config.guard ⟨true, newYear + 2000000⟩
        (command "command-1" (.int 7) 1)).toOption.map fun accepted =>
          ((s.guard.journal.get "command-1").isSome, accepted.2.isNone)

/-- The command is carried out and recorded, the journal is no JSON at the next start, and the same
    envelope is accepted for execution a second later. -/
theorem replayed_after_loss : ∃ s g control, exec config boot commandRun = some s ∧
    (s.guard.journal.get "command-1").isSome = true ∧
    initDamaged config.guard s.guard.policyFile .notJson = .ok g ∧
    g.validate config.guard ⟨true, newYear + 2000000⟩ (command "command-1" (.int 7) 1) =
      .ok (control, none) ∧
    ¬FailsClosed config s .notJson := by
  have hredelivered : redelivered = some (true, true) := by decide +kernel
  simp only [redelivered, Option.bind_eq_some_iff, Option.map_eq_some_iff,
    Except.toOption_eq_some] at hredelivered
  obtain ⟨s, hrun, g, hg, ⟨control, replay⟩, hvalid, hpair⟩ := hredelivered
  obtain ⟨hrecorded, hfresh⟩ := Prod.mk.inj hpair
  obtain rfl := Option.isNone_iff_eq_none.mp hfresh
  refine ⟨s, g, control, hrun, hrecorded, hg, hvalid, fun hcloses => ?_⟩
  have hnone := (hcloses g hg _ _ control none hvalid).1 "command-1" rfl
  rw [hnone] at hrecorded
  cases hrecorded

end RpcState

end Novena

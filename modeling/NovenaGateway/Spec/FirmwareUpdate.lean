import NovenaGateway.ForStd.Run
import NovenaGateway.ForStd.Update
import NovenaGateway.Native.FirmwareUpdate

/-!
# What the privileged helper is given

A command compares the size and the digest of its staged artifact with its manifest, and the
helper gets the path some steps later. In between the file is as it was checked as long as no
other command writes or removes it: the staging path is made of the version alone, and the lock
is that of a device.

Key results:
- `UpdateState.held_step`
- `UpdateState.verified_of_run`
- `UpdateState.undisturbed_of_apart`
- `UpdateState.swapped_after_check`
-/

namespace Novena

open Ota (Update)

/-- These bytes have the size and the SHA-256 of the manifest. -/
def Ota.Update.Fits (host : OtaHost) (u : Update) (bytes : List UInt8) : Prop :=
  bytes.length = u.manifest.sizeBytes ∧
    Ota.sameDigest (host.sha256 bytes) u.manifest.artifactSha256 = true

/-- The helper was given an artifact of the manifest of the command. -/
def HelperCall.Verified (host : OtaHost) (call : HelperCall) : Prop :=
  ∃ bytes, call.content = some bytes ∧ call.update.Fits host bytes

/-- What a command has found out about its staged file and still relies on. -/
def UpdateWorker.Accepts (host : OtaHost) (w : UpdateWorker) (content : Option (List UInt8)) :
    Prop :=
  match w.phase with
  | .accepted | .downloaded | .discarding _ => True
  -- the digest is still to be compared
  | .sized => ∀ bytes, content = some bytes →
      Ota.sameDigest (host.sha256 bytes) w.update.manifest.artifactSha256 = true →
        bytes.length = w.update.manifest.sizeBytes
  | .hashed | .validated | .recorded => ∃ bytes, content = some bytes ∧ w.update.Fits host bytes

/-- The file a command writes or removes with its next step, and what is there afterwards. -/
def UpdateWorker.effect (host : OtaHost) (w : UpdateWorker) :
    UpdateState.Label → Option (String × Option (List UInt8))
  | .download _ (.interrupted bytes) | .download _ (.received bytes) =>
    if w.phase = .accepted then some (w.update.destTar, some bytes) else none
  | .discard _ true => match w.phase with
    | .discarding _ => some (w.update.destTar, none)
    | _ => none
  | .writeManifest _ interrupted =>
    if w.phase = .validated then
      some (w.update.manifestPath,
        some (interrupted.getD (host.dump (.obj w.update.manifest.fields))))
    else none
  | _ => none

namespace UpdateState

variable {host : OtaHost}

/-- The command of a step; a start has none yet. -/
def Label.actor : Label → Option Nat
  | .start .. => none
  | .download i _ | .checkSize i | .checkHash i | .validateTarball i | .discard i _
  | .writeManifest i _ | .runUpgrade i => some i

/-- What is written or removed in this step is no file that a command has checked and not handed
    over yet, unless the new content passes the same checks. -/
def Undisturbed (host : OtaHost) (s : UpdateState) (label : Label) : Prop :=
  ∀ i w, label.actor = some i → s.workers.get? i = some w →
    ∀ path content, w.effect host label = some (path, content) →
      ∀ j w', s.workers.get? j = some w' → w'.update.destTar = path → w'.Accepts host content

/-! ## The invariant -/

/-- Every staged file is as its command has found it. -/
def Held (host : OtaHost) (s : UpdateState) : Prop :=
  ∀ i w, s.workers.get? i = some w → w.Accepts host (s.files w.update.destTar)

/-- A file is written when no update relies on another content. -/
theorem held_write {s : UpdateState} (h : s.Held host) {path : String}
    {content : Option (List UInt8)}
    (haccepts : ∀ j w, s.workers.get? j = some w → w.update.destTar = path →
      w.Accepts host content) :
    (s.write path content).Held host := by
  intro i w hw
  show w.Accepts host (Function.update s.files path content w.update.destTar)
  by_cases hpath : w.update.destTar = path
  · rw [hpath, Function.update_self]
    exact haccepts i w hw hpath
  · rw [Function.update_of_ne hpath]
    exact h i w hw

/-- A worker goes on when it accepts what is there. -/
theorem held_goto {s : UpdateState} (h : s.Held host) {i : Nat} {w : UpdateWorker}
    {phase : UpdatePhase}
    (haccepts : UpdateWorker.Accepts host { w with phase } (s.files w.update.destTar)) :
    (s.goto i w phase).Held host := by
  intro j w' hw'
  rcases Dict.of_get?_set hw' with ⟨-, rfl⟩ | ⟨-, hold⟩
  · exact haccepts
  · exact h j w' hold

/-- A worker that ends relies on nothing. -/
theorem held_finish {s : UpdateState} (h : s.Held host) (i : Nat) : (s.finish i).Held host :=
  fun j w hw => h j w (Dict.of_get?_erase hw).2

/-- A start changes nothing, or adds a command that has checked nothing. -/
theorem start_cases {s s' : UpdateState} {job : Job} {config : Json} {now : Int} {made : Bool}
    (hstep : s.start host job config now made = some s') :
    s' = s ∨ ∃ lock u, Ota.prepare host config (.obj job.params) now = .ok u ∧
      s' = { s with workers := s.workers.set s.nextId ⟨lock, u, .accepted⟩
                    nextId := s.nextId + 1 } := by
  simp only [start] at hstep
  split at hstep
  -- the device cannot be hashed
  · exact .inl (Option.some.inj hstep).symm
  · next lock _ =>
    split at hstep
    -- another update holds the lock
    · cases hstep
    -- the update is prepared and its directory made, or nothing has changed
    · split at hstep
      · next u hprepare =>
        split at hstep
        · exact .inr ⟨lock, u, hprepare, (Option.some.inj hstep).symm⟩
        · exact .inl (Option.some.inj hstep).symm
      · exact .inl (Option.some.inj hstep).symm

/-- A new worker relies on nothing yet. -/
theorem held_start {s s' : UpdateState} (h : s.Held host) {job : Job} {config : Json} {now : Int}
    {made : Bool} (hstep : s.start host job config now made = some s') : s'.Held host := by
  rcases start_cases hstep with rfl | ⟨lock, u, -, rfl⟩
  · exact h
  · intro j w hw
    rcases Dict.of_get?_set hw with ⟨-, rfl⟩ | ⟨-, hold⟩
    · exact trivial
    · exact h j w hold

/-- The content written in a step is accepted by the command that writes it and by every other. -/
theorem Undisturbed.held_write {s : UpdateState} {label : Label} {i : Nat} {w : UpdateWorker}
    {path : String} {content : Option (List UInt8)} (hundisturbed : s.Undisturbed host label)
    (hactor : label.actor = some i) (hw : s.workers.get? i = some w) (h : s.Held host)
    (heffect : w.effect host label = some (path, content)) : (s.write path content).Held host :=
  UpdateState.held_write h (hundisturbed i w hactor hw path content heffect)

/-- A download that disturbs no other update keeps that. -/
theorem download_held {s : UpdateState} {i : Nat} {w : UpdateWorker} {outcome : Download}
    (h : s.Held host) (hw : s.workers.get? i = some w) (hphase : w.phase = .accepted)
    (hundisturbed : s.Undisturbed host (.download i outcome)) :
    (s.download i w outcome).Held host := by
  cases outcome with
  | unreachable => exact held_finish h i
  | interrupted written =>
    exact held_finish (hundisturbed.held_write rfl hw h (if_pos hphase)) i
  | received body =>
    exact held_goto (hundisturbed.held_write rfl hw h (if_pos hphase)) trivial

/-- The check of the size changes no file. -/
theorem checkSize_held {s : UpdateState} (h : s.Held host) (i : Nat) (w : UpdateWorker) :
    (s.checkSize i w).Held host := by
  simp only [checkSize]
  split
  · exact held_finish h i
  · next bytes hbytes =>
    split
    · next hsize =>
      refine held_goto h fun bytes' hbytes' _ => ?_
      rw [hbytes] at hbytes'
      exact Option.some.inj hbytes' ▸ hsize
    · exact held_goto h trivial

/-- After the check of the hash the file is the signed one. -/
theorem checkHash_held {s : UpdateState} {i : Nat} {w : UpdateWorker} (h : s.Held host)
    (hw : s.workers.get? i = some w) (hphase : w.phase = .sized) :
    (s.checkHash host i w).Held host := by
  have hsized := h i w hw
  simp only [UpdateWorker.Accepts, hphase] at hsized
  simp only [checkHash]
  split
  · exact held_finish h i
  · next bytes hbytes =>
    split
    -- the size was right for any bytes with this digest
    · next hdigest => exact held_goto h ⟨bytes, hbytes, hsized bytes hbytes hdigest, hdigest⟩
    · exact held_goto h trivial

/-- And it is a valid archive after the next. -/
theorem validateTarball_held {s : UpdateState} {i : Nat} {w : UpdateWorker} (h : s.Held host)
    (hw : s.workers.get? i = some w) (hphase : w.phase = .hashed) :
    (s.validateTarball host i w).Held host := by
  have hhashed := h i w hw
  simp only [UpdateWorker.Accepts, hphase] at hhashed
  simp only [validateTarball]
  split
  · exact held_finish h i
  · split
    · exact held_finish h i
    · split
      · exact held_goto h hhashed
      · exact held_goto h trivial

/-- A download that failed is removed, its own file at most. -/
theorem discard_held {s : UpdateState} {i : Nat} {w : UpdateWorker} {removed : Bool}
    {error : String} (h : s.Held host) (hw : s.workers.get? i = some w)
    (hphase : w.phase = .discarding error)
    (hundisturbed : s.Undisturbed host (.discard i removed)) :
    (s.discard i w removed).Held host := by
  cases removed with
  | false => exact held_finish h i
  | true =>
    exact held_finish (hundisturbed.held_write rfl hw h
      (by simp only [UpdateWorker.effect, hphase])) i

/-- The manifest is written for a validated archive. -/
theorem writeManifest_held {s : UpdateState} {i : Nat} {w : UpdateWorker}
    {interrupted : Option (List UInt8)} (h : s.Held host) (hw : s.workers.get? i = some w)
    (hphase : w.phase = .validated)
    (hundisturbed : s.Undisturbed host (.writeManifest i interrupted)) :
    (s.writeManifest host i w interrupted).Held host := by
  have hwritten := hundisturbed.held_write rfl hw h (if_pos hphase)
  cases interrupted with
  | some written => exact held_finish hwritten i
  | none =>
    refine held_goto hwritten ?_
    -- the command still relies on the artifact after it has written its manifest
    have hvalidated := hwritten i w hw
    simp only [UpdateWorker.Accepts, hphase] at hvalidated
    exact hvalidated

/-- One step that disturbs no command leaves every staged file as its command has found it. -/
theorem held_step {s s' : UpdateState} {label : Label} (h : s.Held host)
    (hundisturbed : s.Undisturbed host label) (hstep : s.step host label = some s') :
    s'.Held host := by
  cases label with
  | start job config now made =>
    -- only `update_firmware` starts one
    simp only [step] at hstep
    split at hstep
    · exact held_start h hstep
    · cases hstep
  | download i outcome =>
    -- the tarball arrives whole, in part, or not at all
    obtain ⟨w, hw, hact⟩ := Option.bind_eq_some_iff.mp hstep
    obtain ⟨hphase, hs'⟩ := Option.ite_none_right_eq_some.mp hact
    exact Option.some.inj hs' ▸ download_held h hw hphase hundisturbed
  -- what is checked stays what it was
  | checkSize i =>
    obtain ⟨w, _, hact⟩ := Option.bind_eq_some_iff.mp hstep
    obtain ⟨_, hs'⟩ := Option.ite_none_right_eq_some.mp hact
    exact Option.some.inj hs' ▸ checkSize_held h i w
  | checkHash i =>
    obtain ⟨w, hw, hact⟩ := Option.bind_eq_some_iff.mp hstep
    obtain ⟨hphase, hs'⟩ := Option.ite_none_right_eq_some.mp hact
    exact Option.some.inj hs' ▸ checkHash_held h hw hphase
  | validateTarball i =>
    obtain ⟨w, hw, hact⟩ := Option.bind_eq_some_iff.mp hstep
    obtain ⟨hphase, hs'⟩ := Option.ite_none_right_eq_some.mp hact
    exact Option.some.inj hs' ▸ validateTarball_held h hw hphase
  | discard i removed =>
    -- a refused archive is removed, or the removal fails
    obtain ⟨w, hw, hact⟩ := Option.bind_eq_some_iff.mp hstep
    simp only [act] at hact
    split at hact
    · next hphase => exact Option.some.inj hact ▸ discard_held h hw hphase hundisturbed
    · cases hact
  | writeManifest i interrupted =>
    -- the manifest is written beside a validated archive
    obtain ⟨w, hw, hact⟩ := Option.bind_eq_some_iff.mp hstep
    obtain ⟨hphase, hs'⟩ := Option.ite_none_right_eq_some.mp hact
    exact Option.some.inj hs' ▸ writeManifest_held h hw hphase hundisturbed
  | runUpgrade i =>
    -- the upgrade runs on the archive the command relies on
    obtain ⟨w, _, hact⟩ := Option.bind_eq_some_iff.mp hstep
    obtain ⟨_, hs'⟩ := Option.ite_none_right_eq_some.mp hact
    exact Option.some.inj hs' ▸ held_finish (s := { s with calls := _ }) h i

/-! ## The calls -/

/-- A start stages nothing. -/
theorem start_calls {s s' : UpdateState} {job : Job} {config : Json} {now : Int} {made : Bool}
    (hstep : s.start host job config now made = some s') : s'.calls = s.calls := by
  rcases start_cases hstep with rfl | ⟨lock, u, -, rfl⟩ <;> rfl

/-- An operation moves its command on or ends it, and makes no call before the last one. -/
theorem act_frame {s s' : UpdateState} {i : Nat} {w : UpdateWorker} {label : Label}
    (hact : s.act host i w label = some s') :
    ((∃ phase, s'.workers = s.workers.set i { w with phase }) ∨
        s'.workers = s.workers.erase i) ∧
      (s'.calls = s.calls ∨ w.phase = .recorded ∧
        s'.calls = s.calls ++ [⟨w.update, s.files w.update.destTar⟩]) := by
  cases label with
  | start => cases hact
  | download i outcome =>
    obtain ⟨_, hs'⟩ := Option.ite_none_right_eq_some.mp hact
    obtain rfl := Option.some.inj hs'
    cases outcome with
    -- the command ends
    | unreachable => exact ⟨.inr rfl, .inl rfl⟩
    | interrupted written => exact ⟨.inr rfl, .inl rfl⟩
    -- or goes on with the next phase
    | received body => exact ⟨.inl ⟨_, rfl⟩, .inl rfl⟩
  | checkSize i =>
    obtain ⟨_, hs'⟩ := Option.ite_none_right_eq_some.mp hact
    obtain rfl := Option.some.inj hs'
    simp only [checkSize]
    split
    -- an archive that cannot be read ends the command
    · exact ⟨.inr rfl, .inl rfl⟩
    · split <;> exact ⟨.inl ⟨_, rfl⟩, .inl rfl⟩
  | checkHash i =>
    obtain ⟨_, hs'⟩ := Option.ite_none_right_eq_some.mp hact
    obtain rfl := Option.some.inj hs'
    simp only [checkHash]
    split
    · exact ⟨.inr rfl, .inl rfl⟩
    · split <;> exact ⟨.inl ⟨_, rfl⟩, .inl rfl⟩
  | validateTarball i =>
    obtain ⟨_, hs'⟩ := Option.ite_none_right_eq_some.mp hact
    obtain rfl := Option.some.inj hs'
    simp only [validateTarball]
    split
    · exact ⟨.inr rfl, .inl rfl⟩
    · split
      · exact ⟨.inr rfl, .inl rfl⟩
      · split <;> exact ⟨.inl ⟨_, rfl⟩, .inl rfl⟩
  | discard i removed =>
    simp only [act] at hact
    split at hact
    · obtain rfl := Option.some.inj hact
      -- the command ends, whether the file is gone or not
      cases removed <;> exact ⟨.inr rfl, .inl rfl⟩
    · cases hact
  | writeManifest i interrupted =>
    obtain ⟨_, hs'⟩ := Option.ite_none_right_eq_some.mp hact
    obtain rfl := Option.some.inj hs'
    cases interrupted with
    | none => exact ⟨.inl ⟨_, rfl⟩, .inl rfl⟩
    | some written => exact ⟨.inr rfl, .inl rfl⟩
  | runUpgrade i =>
    obtain ⟨hphase, hs'⟩ := Option.ite_none_right_eq_some.mp hact
    obtain rfl := Option.some.inj hs'
    -- only a recorded command makes the call, with the content of that moment
    exact ⟨.inr rfl, .inr ⟨hphase, rfl⟩⟩

/-- A step is a start or an operation of a command that runs. -/
theorem step_cases {s s' : UpdateState} {label : Label} (hstep : s.step host label = some s') :
    (∃ job config now made, label = .start job config now made ∧
        s.start host job config now made = some s') ∨
      ∃ i w, s.workers.get? i = some w ∧ s.act host i w label = some s' := by
  cases label with
  | start job config now made =>
    simp only [step] at hstep
    split at hstep
    · exact .inl ⟨job, config, now, made, rfl, hstep⟩
    · cases hstep
  | download i | checkSize i | checkHash i | validateTarball i | discard i | writeManifest i
  | runUpgrade i =>
    obtain ⟨w, hw, hact⟩ := Option.bind_eq_some_iff.mp hstep
    exact .inr ⟨i, w, hw, hact⟩

/-- Files as the commands have found them make verified calls. -/
theorem verified_step {s s' : UpdateState} {label : Label} (h : s.Held host)
    (hcalls : ∀ call ∈ s.calls, call.Verified host) (hstep : s.step host label = some s') :
    ∀ call ∈ s'.calls, call.Verified host := by
  rcases step_cases hstep with ⟨job, config, now, made, -, hstart⟩ | ⟨i, w, hw, hact⟩
  -- a start calls nothing
  · rw [start_calls hstart]
    exact hcalls
  -- a worker calls nothing either, or makes the one call its phase allows
  · rcases (act_frame hact).2 with hsame | ⟨hphase, hcall⟩
    · rw [hsame]
      exact hcalls
    · have hrecorded := h i w hw
      simp only [UpdateWorker.Accepts, hphase] at hrecorded
      intro call hmem
      rw [hcall, List.mem_append, List.mem_singleton] at hmem
      -- the calls before
      rcases hmem with hmem | rfl
      · exact hcalls call hmem
      -- the new one: its worker has validated what the file holds
      · exact hrecorded

/-- In every run whose steps write no file that another command has checked and not handed over
    yet, the helper gets only artifacts of the manifest it is called for. -/
theorem verified_of_run {files : String → Option (List UInt8)} {labels : List Label}
    {s : UpdateState} (hundisturbed : Run.Along (step host) (Undisturbed host) (init files) labels)
    (hrun : Run.exec (step host) (init files) labels = some s) :
    ∀ call ∈ s.calls, call.Verified host := by
  have hinit : (init files).Held host ∧ ∀ call ∈ (init files).calls, call.Verified host :=
    ⟨fun _ _ hw => (by cases hw), fun _ hcall => (by cases hcall)⟩
  exact (Run.exec_invariant (I := fun s => s.Held host ∧ ∀ call ∈ s.calls, call.Verified host)
    (fun _ _ _ h hundisturbed hstep =>
      ⟨held_step h.1 hundisturbed hstep, verified_step h.1 h.2 hstep⟩)
    hinit hundisturbed hrun).2

/-! ## Commands with files of their own -/

end UpdateState

/-- The artifact of neither command is a file of the other. -/
structure Ota.Update.Apart (u v : Update) : Prop where
  tar : u.destTar ≠ v.destTar
  left : u.destTar ≠ v.manifestPath
  right : v.destTar ≠ u.manifestPath

/-- Being apart is symmetric. -/
theorem Ota.Update.Apart.symm {u v : Update} (h : u.Apart v) : v.Apart u :=
  ⟨h.tar.symm, h.right, h.left⟩

/-- The file that is written is the artifact of a command that has not checked it, or its
    manifest. -/
theorem UpdateWorker.effect_cases {host : OtaHost} {w : UpdateWorker} {label : UpdateState.Label}
    {path : String} {content : Option (List UInt8)}
    (h : w.effect host label = some (path, content)) :
    (path = w.update.destTar ∧ w.Accepts host content) ∨ path = w.update.manifestPath := by
  simp only [effect] at h
  split at h
  -- a download writes the archive, whole or in part
  · obtain ⟨hphase, heq⟩ := Option.ite_none_right_eq_some.mp h
    obtain ⟨rfl, rfl⟩ := Prod.mk.inj (Option.some.inj heq)
    exact .inl ⟨rfl, by simp only [Accepts, hphase]⟩
  · obtain ⟨hphase, heq⟩ := Option.ite_none_right_eq_some.mp h
    obtain ⟨rfl, rfl⟩ := Prod.mk.inj (Option.some.inj heq)
    exact .inl ⟨rfl, by simp only [Accepts, hphase]⟩
  -- the removal leaves no file
  · split at h
    · next hphase =>
      obtain ⟨rfl, rfl⟩ := Prod.mk.inj (Option.some.inj h)
      exact .inl ⟨rfl, by simp only [Accepts, hphase]⟩
    · cases h
  -- the manifest
  · obtain ⟨_, heq⟩ := Option.ite_none_right_eq_some.mp h
    exact .inr (Prod.mk.inj (Option.some.inj heq)).1.symm
  · cases h

namespace UpdateState

variable {host : OtaHost}

/-- The commands that run are apart, and the two files of each are different. -/
def Separate (s : UpdateState) : Prop :=
  ∀ i w, s.workers.get? i = some w → w.update.destTar ≠ w.update.manifestPath ∧
    ∀ j w', s.workers.get? j = some w' → i ≠ j → w.update.Apart w'.update

/-- A command that starts is apart from those that run. -/
def StartsApart (host : OtaHost) (s : UpdateState) : Label → Prop
  | .start job config now _ => ∀ u, Ota.prepare host config (.obj job.params) now = .ok u →
      u.destTar ≠ u.manifestPath ∧ ∀ j w, s.workers.get? j = some w → u.Apart w.update
  | _ => True

/-- Updates with their own files do not disturb each other. -/
theorem undisturbed_of_separate {s : UpdateState} (h : s.Separate) (label : Label) :
    s.Undisturbed host label := by
  intro i w _ hw path content heffect j w' hw' hpath
  obtain ⟨hown, happart⟩ := h i w hw
  -- the files of the worker itself
  by_cases hij : i = j
  · subst hij
    obtain rfl : w = w' := Option.some.inj (hw.symm.trans hw')
    rcases UpdateWorker.effect_cases heffect with ⟨-, haccepts⟩ | rfl
    · exact haccepts
    -- a manifest at the place of the archive is excluded
    · exact absurd hpath hown
  -- the files of another worker are elsewhere
  · have hapart := happart j w' hw' hij
    rcases UpdateWorker.effect_cases heffect with ⟨rfl, -⟩ | rfl
    · exact absurd hpath.symm hapart.tar
    · exact absurd hpath hapart.right

/-- A command that takes a place apart from the others. -/
theorem separate_set {s s' : UpdateState} (h : s.Separate) {i : Nat} {w : UpdateWorker}
    (hworkers : s'.workers = s.workers.set i w)
    (hown : w.update.destTar ≠ w.update.manifestPath)
    (hapart : ∀ j w', s.workers.get? j = some w' → j ≠ i → w.update.Apart w'.update) :
    s'.Separate := by
  intro j v hv
  rw [hworkers] at hv
  -- the worker that moved
  rcases Dict.of_get?_set hv with ⟨rfl, rfl⟩ | ⟨hji, hold⟩
  · refine ⟨hown, fun k v' hv' hjk => ?_⟩
    rw [hworkers, Dict.get?_set_ne _ _ hjk.symm] at hv'
    exact hapart k v' hv' hjk.symm
  -- another one, against the one that moved and against the rest
  · refine ⟨(h j v hold).1, fun k v' hv' hjk => ?_⟩
    rw [hworkers] at hv'
    rcases Dict.of_get?_set hv' with ⟨-, rfl⟩ | ⟨-, hold'⟩
    · exact (hapart j v hold hji).symm
    · exact (h j v hold).2 k v' hold' hjk

/-- A start that is apart from the others keeps them separate. -/
theorem separate_start {s s' : UpdateState} (h : s.Separate) {job : Job} {config : Json}
    {now : Int} {made : Bool} (hstarts : s.StartsApart host (.start job config now made))
    (hstep : s.start host job config now made = some s') : s'.Separate := by
  rcases start_cases hstep with rfl | ⟨lock, u, hprepare, rfl⟩
  · exact h
  · obtain ⟨hown, hapart⟩ := hstarts u hprepare
    exact separate_set h rfl hown fun j w hw _ => hapart j w hw

/-- And so does every step. -/
theorem separate_step {s s' : UpdateState} {label : Label} (h : s.Separate)
    (hstarts : s.StartsApart host label) (hstep : s.step host label = some s') :
    s'.Separate := by
  rcases step_cases hstep with ⟨job, config, now, made, rfl, hstart⟩ | ⟨i, w, hw, hact⟩
  · exact separate_start h hstarts hstart
  · rcases (act_frame hact).1 with ⟨phase, hset⟩ | herase
    · obtain ⟨hown, hapart⟩ := h i w hw
      exact separate_set h hset hown fun j w' hw' hji => hapart j w' hw' hji.symm
    · intro j v hv
      rw [herase] at hv
      refine ⟨(h j v (Dict.of_get?_erase hv).2).1, fun k v' hv' hjk => ?_⟩
      rw [herase] at hv'
      exact (h j v (Dict.of_get?_erase hv).2).2 k v' (Dict.of_get?_erase hv').2 hjk

/-- Commands that start apart from each other never disturb each other. -/
theorem undisturbed_of_apart {files : String → Option (List UInt8)} {labels : List Label}
    (h : Run.Along (step host) (StartsApart host) (init files) labels) :
    Run.Along (step host) (Undisturbed host) (init files) labels :=
  Run.Along.of_invariant (I := Separate)
    (fun _ _ _ hseparate hstarts hstep => separate_step hseparate hstarts hstep)
    (fun _ label hseparate _ => undisturbed_of_separate hseparate label)
    (fun _ _ hw => by cases hw) h

end UpdateState

/-! ## Two builds of one version -/

namespace Station

/-- A release of the vendor: a gzipped tar file with its signed manifest. -/
structure Build where
  version : String
  channel : String
  artifact : List UInt8
  sha256 : String
  signature : String

/-- An archive with one file. -/
def archiveA : List UInt8 :=
   [31, 139, 8, 0, 0, 0, 0, 0, 2, 255, 11, 115, 13, 10, 246, 244, 247, 99, 160, 37, 48, 0,
    2, 51, 19, 19, 48, 13, 4, 232, 52, 16, 24, 34, 177, 65, 226, 230, 6, 6, 38, 12, 10, 6,
    12, 116, 0, 165, 197, 37, 137, 69, 64, 43, 25, 70, 38, 72, 100, 24, 5, 163, 96, 20, 140,
    130, 81, 48, 18, 1, 0, 185, 55, 97, 253, 0, 8, 0, 0]

/-- The same with another byte in the file. -/
def archiveB : List UInt8 :=
   [31, 139, 8, 0, 0, 0, 0, 0, 2, 255, 11, 115, 13, 10, 246, 244, 247, 99, 160, 37, 48, 0,
    2, 51, 19, 19, 48, 13, 4, 232, 52, 16, 24, 34, 177, 65, 226, 230, 6, 6, 38, 12, 10, 6,
    12, 116, 0, 165, 197, 37, 137, 69, 64, 43, 25, 70, 38, 72, 98, 24, 5, 163, 96, 20, 140,
    130, 81, 48, 18, 1, 0, 121, 118, 25, 120, 0, 8, 0, 0]

def digestA : String := "6b76e3411000e0bc0e148fc7179fc1e9c9682385e7c00be296bae8b5380dc5ba"

def digestB : String := "3b0aab9780955cdc231b0836b8a6c321b58ce1e99ac0681815ad0d14571f053b"

def stableBuild : Build :=
  ⟨"1.2.0", "stable", archiveA, digestA,
   "7WRB0hfgPoNjORgh/A7uk79OQTXBpKwd2jhxccbtABOLqJDTLIGS9wzcUSJG/s9SCvckrGZds3ETtSXk00mlDg=="⟩

def pilotBuild : Build :=
  ⟨"1.2.0", "pilot", archiveB, digestB,
   "fizHe7gToXAHrk2zBaesXJEuHk23HTbV6+4XrwmUynTOkn5Z0+1foxZ31Va0fjUNmv5s4PHgP7lFR3WYxIjXCQ=="⟩

def nextBuild : Build :=
  ⟨"1.3.0", "pilot", archiveB, digestB,
   "TXoQoau02mMq8mdTcFE5TxZPbgqXIW95QV0hBTXY3ew04tcHY8T2ohgJwE5/F1pjbJyufs5HdaBi7msat07NAQ=="⟩

namespace Build

def manifest (b : Build) : Json :=
  .obj [("artifact_sha256", .str b.sha256),
    ("artifact_url", .str ("https://novena-hub/firmware/" ++ b.version ++ "-" ++ b.channel ++
      ".tar.gz")),
    ("channel", .str b.channel), ("expires_at", .str "2026-07-02T00:00:00Z"),
    ("issued_at", .str "2026-07-01T00:00:00Z"), ("key_id", .str "novena-ota-v1"),
    ("size_bytes", .int b.artifact.length), ("version", .str b.version)]

/-- The command that installs a build, for one device. -/
def job (b : Build) (deviceId : Int) : Job where
  requestId := "req-ota"
  method := "update_firmware"
  params := [("manifest", b.manifest), ("signature", .str b.signature),
    ("device_id", .int deviceId), ("command_key", .str "ota")]
  payload := [("target", .obj [("device_id", .int deviceId)])]
  control := .null

end Build

/-- The canonical text of a flat manifest whose keys are in order. -/
def manifestText : Json → String
  | .obj fields => "\x7b" ++ ",".intercalate (fields.map fun p => "\"" ++ p.1 ++ "\":" ++
      match p.2 with
      | .str s => "\"" ++ s ++ "\""
      | value => value.toStr) ++ "\x7d"
  | value => value.toStr

/-- A gateway that knows the three builds. -/
def otaHost : OtaHost where
  handlerConfig := .obj []
  loadPublicKey := fun _ => .ok
   [3, 161, 7, 191, 243, 206, 16, 190, 29, 112, 221, 24, 231, 75, 192, 153, 103, 228, 214,
    48, 155, 165, 13, 95, 29, 220, 134, 100, 18, 85, 49, 184]
  verifies := fun _ manifest signature => [stableBuild, pilotBuild, nextBuild].any fun b =>
    signature.eq (.str b.signature) && manifest.eq b.manifest
  fromisoformat := fun text =>
    if text = "2026-07-01T00:00:00Z" then .ok ⟨1782864000000000, true⟩
    else .ok ⟨1782950400000000, true⟩
  urlparse := fun _ => .ok ("https", some "novena-hub")
  sha256 := fun bytes => if bytes = archiveA then digestA else digestB
  getmembers := fun _ => .ok [⟨"VERSION", .plain, 420⟩]
  resolve := id
  dump := fun manifest => (manifestText manifest).toUTF8.toList

/-- A command starts an hour after its manifest was issued. -/
def startUpdate (b : Build) (deviceId : Int) : UpdateState.Label :=
  .start (b.job deviceId) (.obj []) 1782867600000000 true

end Station

namespace UpdateState

open Station

/-- The second command downloads after the first one has checked its file. -/
def swapRun : List Label :=
  [startUpdate stableBuild 7, startUpdate pilotBuild 8, .download 0 (.received archiveA),
   .checkSize 0, .checkHash 0, .validateTarball 0, .writeManifest 0 none,
   .download 1 (.received archiveB), .runUpgrade 0]

/-- Two builds of one version for different devices: the helper is called for the manifest of the
    first with the artifact of the second. -/
theorem swapped_after_check : ∃ s,
    Run.exec (step otaHost) (init fun _ => none) swapRun = some s ∧
      ¬∀ call ∈ s.calls, call.Verified otaHost := by
  have hcalls : (Run.exec (step otaHost) (init fun _ => none) swapRun).map
      (fun s => s.calls.map fun call => (call.content, call.update.manifest.artifactSha256)) =
        some [(some archiveB, digestA)] := by decide +kernel
  obtain ⟨s, hs, hcall⟩ := Option.map_eq_some_iff.mp hcalls
  refine ⟨s, hs, fun hverified => ?_⟩
  obtain ⟨call, hmem, heq⟩ : ∃ call ∈ s.calls, (call.content, call.update.manifest.artifactSha256) =
      (some archiveB, digestA) := List.mem_map.mp (hcall ▸ List.mem_singleton_self _)
  obtain ⟨hcontent, hsha⟩ := Prod.mk.inj heq
  obtain ⟨bytes, hbytes, -, hdigest⟩ := hverified call hmem
  rw [hcontent] at hbytes
  obtain rfl := Option.some.inj hbytes
  rw [hsha] at hdigest
  exact absurd hdigest (by decide +kernel)

/-- What is left of two commands after they have started: one step of each in turn. -/
def inTurns : List Label :=
  [.download 0 (.received archiveA), .download 1 (.received archiveB), .checkSize 0, .checkSize 1,
   .checkHash 0, .checkHash 1, .validateTarball 0, .validateTarball 1, .writeManifest 0 none,
   .writeManifest 1 none, .runUpgrade 0, .runUpgrade 1]

/-- Where the builds are staged. -/
theorem staged (b : Build) (hb : b = stableBuild ∨ b = nextBuild) {deviceId : Int} {u : Update}
    (h : Ota.prepare otaHost (.obj []) (.obj (b.job deviceId).params) 1782867600000000 = .ok u) :
    u.destTar = Ota.updatePath ++ "/firmware_" ++ b.version ++ ".tar.gz" ∧
      u.manifestPath = Ota.updatePath ++ "/manifest_" ++ b.version ++ ".json" := by
  -- the paths are computed once for both builds
  have hpaths : ∀ b ∈ [stableBuild, nextBuild],
      (Ota.prepare otaHost (.obj []) (.obj (b.job 0).params) 1782867600000000).toOption.map
        (fun u => (u.destTar, u.manifestPath)) =
      some (Ota.updatePath ++ "/firmware_" ++ b.version ++ ".tar.gz",
        Ota.updatePath ++ "/manifest_" ++ b.version ++ ".json") := by decide +kernel
  have hb' := hpaths b (by simpa using hb)
  -- the device does not matter for the files
  have hdevice : Ota.prepare otaHost (.obj []) (.obj (b.job 0).params) 1782867600000000 =
      Ota.prepare otaHost (.obj []) (.obj (b.job deviceId).params) 1782867600000000 := rfl
  rw [hdevice, h] at hb'
  exact Prod.mk.inj (Option.some.inj hb')

/-- The command that runs after the first start. -/
theorem staged_of_start {s : UpdateState} {deviceId : Int} {j : Nat} {w : UpdateWorker}
    (hstart : (init fun _ => none).step otaHost (startUpdate stableBuild deviceId) = some s)
    (hw : s.workers.get? j = some w) :
    w.update.destTar = Ota.updatePath ++ "/firmware_1.2.0.tar.gz" ∧
      w.update.manifestPath = Ota.updatePath ++ "/manifest_1.2.0.json" := by
  rcases step_cases hstart with ⟨job, config, now, made, heq, hstart⟩ | ⟨_, _, hnone, _⟩
  · obtain ⟨rfl, rfl, rfl, rfl⟩ := Label.start.inj heq
    rcases start_cases hstart with rfl | ⟨lock, u, hprepare, rfl⟩
    · cases hw
    · rcases Dict.of_get?_set hw with ⟨-, rfl⟩ | ⟨-, hold⟩
      · exact staged stableBuild (.inl rfl) hprepare
      · cases hold
  · cases hnone

/-- Two commands for different versions, whatever the order of their steps. -/
theorem verified_of_run_station : ∃ s, Run.exec (step otaHost) (init fun _ => none)
      (startUpdate stableBuild 7 :: startUpdate nextBuild 8 :: inTurns) = some s ∧
    s.calls.length = 2 ∧ ∀ call ∈ s.calls, call.Verified otaHost := by
  have hlength : (Run.exec (step otaHost) (init fun _ => none)
      (startUpdate stableBuild 7 :: startUpdate nextBuild 8 :: inTurns)).map
        (fun s => s.calls.length) = some 2 := by decide +kernel
  obtain ⟨s, hs, hcalls⟩ := Option.map_eq_some_iff.mp hlength
  refine ⟨s, hs, hcalls, verified_of_run (undisturbed_of_apart ?_) hs⟩
  refine ⟨fun u hu => ?_, fun s₁ hfirst => ⟨fun u hu => ?_, fun s₂ _ => ?_⟩⟩
  -- the first update starts alone
  · obtain ⟨htar, hmanifest⟩ := staged stableBuild (.inl rfl) hu
    rw [htar, hmanifest]
    exact ⟨by decide +kernel, fun _ _ hw => by cases hw⟩
  -- the second one starts beside the first, with other files
  · obtain ⟨htar, hmanifest⟩ := staged nextBuild (.inr rfl) hu
    refine ⟨by rw [htar, hmanifest]; decide +kernel, fun j w hw => ?_⟩
    obtain ⟨htar', hmanifest'⟩ := staged_of_start hfirst hw
    constructor <;> simp only [htar, hmanifest, htar', hmanifest'] <;> decide +kernel
  -- the rest are no starts
  · exact Run.Along.of_forall (by simp [inTurns, StartsApart])

end UpdateState

end Novena

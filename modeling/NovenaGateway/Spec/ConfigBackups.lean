import Mathlib.Data.List.Perm.Basic
import Std.Data.String.ToInt
import NovenaGateway.ForStd.Decimal
import NovenaGateway.ForStd.DictMap
import NovenaGateway.ForStd.Run
import NovenaGateway.Native.ConfigBackups
import NovenaGateway.Spec.ConfigRollback

/-!
# The history the backups keep

Two applications within one second write the same file, and the oldest backup is the first by name
only as long as the seconds have as many digits. Where no two applications share a second and the
oldest of ten backups comes first by name, the directory holds the configurations before the last
ten applications, and `RemoteConfigHandler.backups_kept_iff` says that nothing less is enough.

Key results:
- `RemoteConfigHandler.backups_kept_iff`
- `RemoteConfigHandler.kept_of_sameDigits`
- `RemoteConfigHandler.Station.same_second_overwrites`
-/

namespace Novena

namespace RemoteConfigHandler

/-! ## The property and its condition -/

/-- The file of an application. -/
def backupOf (application : Int × Json) : String × Json := (backupName application.1, application.2)

/-- The directory holds the configurations before the last ten applications, and nothing else. -/
def Backed.Kept (s : Backed) : Prop := s.dir.Perm ((s.applied.take maxBackups).map backupOf)

/-- The application of a label in the state before it does not share its second with the one
    before, and of eleven backups the oldest is the first by name. -/
structure Backed.Apart (s : Backed) (ts : Int) : Prop where
  later : ∀ last ∈ s.applied.head?, last.1 ≠ ts
  oldestFirst : ∀ oldest ∈ s.applied[maxBackups - 1]?,
    textLe (backupName oldest.1) (backupName ts) = true ∧
      ∀ a ∈ s.applied.take (maxBackups - 1),
        textLe (backupName oldest.1) (backupName a.1) = true

/-- The condition on a step. -/
def Backed.KeepsHistory (s : Backed) : BackedLabel → Prop
  | .apply ts _ _ _ => s.Apart ts
  | .other _ => True

/-- Once the step is taken, the history is kept. -/
def Backed.KeptAfter (s : Backed) (label : BackedLabel) : Prop :=
  ∀ s', s.step label = some s' → s'.Kept

/-! ## Names -/

/-- Two seconds have two names. -/
theorem backupName_inj {a b : Int} : backupName a = backupName b ↔ a = b := by
  constructor
  · intro h
    have htext : (toString a).toList = (toString b).toList := by
      have hlist := congrArg String.toList h
      simp only [backupName, String.toList_append, List.append_cancel_left_eq,
        List.append_cancel_right_eq] at hlist
      exact hlist
    exact Int.repr_inj.mp (String.toList_injective htext)
  · rintro rfl
    rfl

/-- Such a name is taken for a backup. -/
theorem isBackupName_backupName (ts : Int) : isBackupName (backupName ts) = true := by
  have hstart : startsWith (backupName ts) "config_backup_" = true := by
    simp [startsWith, backupName]
  have hend : ".json".toList <:+ (backupName ts).toList := by
    rw [backupName, String.toList_append, String.toList_append, ← List.append_assoc]
    exact List.suffix_append _ _
  rw [isBackupName, hstart, Bool.true_and]
  exact List.isSuffixOf_iff_suffix.mpr hend

/-- Texts are ordered totally. -/
theorem textLe_total (a b : String) : (textLe a b || textLe b a) = true := by
  simp only [textLe, Bool.or_eq_true, decide_eq_true_eq]
  exact le_total _ _

/-- The order of texts is transitive. -/
theorem textLe_trans (a b c : String) (hab : textLe a b = true) (hbc : textLe b c = true) :
    textLe a c = true := by
  simp only [textLe, decide_eq_true_eq] at *
  exact le_trans hab hbc

/-- And antisymmetric. -/
theorem textLe_antisymm {a b : String} (hab : textLe a b = true) (hba : textLe b a = true) :
    a = b := by
  simp only [textLe, decide_eq_true_eq] at *
  exact String.toList_injective (le_antisymm hab hba)

/-! ## Pruning -/

/-- A short list loses nothing. -/
theorem pruneLoop_of_le {names : List String} (h : names.length ≤ maxBackups) (dir : BackupDir) :
    pruneLoop names dir = dir := by
  cases names with
  | nil => rfl
  | cons old names => rw [pruneLoop, if_neg (Nat.not_lt.mpr h)]

/-- So up to the limit all backups are kept. -/
theorem pruneBackups_of_le {dir : BackupDir} (h : dir.length ≤ maxBackups) :
    pruneBackups dir = dir := by
  apply pruneLoop_of_le
  rw [List.length_mergeSort]
  exact (List.length_filter_le _ _).trans (by rwa [List.length_map])

/-- Of eleven backups the first by name goes. -/
theorem pruneBackups_eleven {dir : BackupDir} (hall : ∀ name ∈ dir.map Prod.fst, isBackupName name)
    (hlength : dir.length = maxBackups + 1) :
    ∃ first ∈ dir.map Prod.fst, (∀ name ∈ dir.map Prod.fst, textLe first name = true) ∧
      pruneBackups dir = dir.erase first := by
  -- the names in the order in which they are pruned
  let names := (dir.map Prod.fst).mergeSort textLe
  have hperm : names.Perm (dir.map Prod.fst) := List.mergeSort_perm _ _
  have hsorted : names.Pairwise fun a b => textLe a b = true :=
    List.pairwise_mergeSort textLe_trans textLe_total _
  have hprune : pruneBackups dir = pruneLoop names dir := by
    rw [pruneBackups, List.filter_eq_self.mpr hall]
  have hnames : names.length = maxBackups + 1 := by
    rw [hperm.length_eq, List.length_map, hlength]
  cases h : names with
  -- eleven names are not none
  | nil =>
    rw [h] at hnames
    cases hnames
  | cons first rest =>
    rw [h] at hsorted hnames hprune hperm
    refine ⟨first, hperm.subset List.mem_cons_self, ?_, ?_⟩
    -- the first of the sorted names comes before all
    · intro name hname
      obtain rfl | hrest := List.mem_cons.mp (hperm.symm.subset hname)
      · have htotal := textLe_total name name
        rwa [Bool.or_self] at htotal
      · exact (List.pairwise_cons.mp hsorted).1 name hrest
    -- one name is over the limit, so the loop removes the first and stops
    · rw [hprune, pruneLoop, if_pos (by omega)]
      exact pruneLoop_of_le (by rw [List.length_cons] at hnames; omega) _

/-- Pruning brings no name twice. -/
theorem nodup_pruneLoop (names : List String) {dir : BackupDir} (h : (dir.map Prod.fst).Nodup) :
    ((pruneLoop names dir).map Prod.fst).Nodup := by
  induction names generalizing dir with
  | nil => exact h
  | cons old names ih =>
    unfold pruneLoop
    split
    · exact ih (Dict.nodup_erase h old)
    · exact h

/-! ## One step -/

/-- What holds in every state: no file is listed twice, and the applications are in the order of
    the clock. -/
structure Backed.Ordered (s : Backed) : Prop where
  files : (s.dir.map Prod.fst).Nodup
  clock : ∀ a ∈ s.applied, a.1 ≤ s.clock
  order : s.applied.Pairwise fun a b => b.1 ≤ a.1

/-- What an application does to the directory and the history. -/
theorem Backed.step_apply {s s' : Backed} {ts : Int} {newConfig : Json}
    {outcomes rollbackOutcomes : Nat → StartOutcome}
    (h : s.step (.apply ts newConfig outcomes rollbackOutcomes) = some s') :
    s.clock ≤ ts ∧ s'.clock = ts ∧
      s'.dir = pruneBackups (s.dir.set (backupName ts) s.gateway.configFile) ∧
      s'.applied = (ts, s.gateway.configFile) :: s.applied := by
  simp only [Backed.step] at h
  split at h
  · next hclock =>
    obtain rfl := Option.some.inj h
    exact ⟨hclock, rfl, rfl, rfl⟩
  · cases h

/-- Every step keeps the history in the order of the clock. -/
theorem Backed.Ordered.step {s s' : Backed} {label : BackedLabel} (h : s.Ordered)
    (hstep : s.step label = some s') : s'.Ordered := by
  cases label with
  | other gateway =>
    obtain rfl := Option.some.inj hstep
    exact ⟨h.files, h.clock, h.order⟩
  -- a configuration is applied: time, files and history move on
  | apply ts newConfig outcomes rollbackOutcomes =>
    obtain ⟨hclock, hclock', hdir, happlied⟩ := Backed.step_apply hstep
    have hbefore : ∀ a ∈ s.applied, a.1 ≤ ts := fun a ha => (h.clock a ha).trans hclock
    constructor
    -- the file is written under one name and others are pruned
    · rw [hdir]
      exact nodup_pruneLoop _ (Dict.nodup_set h.files _ _)
    -- the newest is not later than the clock
    · intro a ha
      rw [happlied] at ha
      rw [hclock']
      obtain rfl | ha := List.mem_cons.mp ha
      · exact Int.le_refl _
      · exact hbefore a ha
    -- the history stays in order
    · rw [happlied]
      exact List.pairwise_cons.mpr ⟨hbefore, h.order⟩

/-- The names are those of the last revisions. -/
theorem Backed.Kept.mem_names {s : Backed} (h : s.Kept) {name : String} :
    name ∈ s.dir.map Prod.fst ↔ ∃ a ∈ s.applied.take maxBackups, backupName a.1 = name := by
  rw [(h.map Prod.fst).mem_iff, List.map_map, List.mem_map]
  rfl

/-- In a second of its own, the new backup is written beside those that are there. -/
theorem Backed.Kept.set_fresh {s : Backed} (hkept : s.Kept) (h : s.Ordered) {ts : Int}
    (hclock : s.clock ≤ ts) (hlater : ∀ last ∈ s.applied.head?, last.1 ≠ ts) (file : Json) :
    (s.dir.set (backupName ts) file).Perm
      (backupOf (ts, file) :: (s.applied.take maxBackups).map backupOf) := by
  -- all before are strictly earlier
  have hbefore : ∀ a ∈ s.applied, a.1 < ts := by
    have horder := h.order
    cases happlied : s.applied with
    | nil => intro a ha; cases ha
    | cons last rest =>
      rw [happlied] at hlater horder
      have hlast : last.1 < ts := by
        have hle := h.clock last (by rw [happlied]; exact List.mem_cons_self)
        have hne := hlater last rfl
        omega
      intro a ha
      obtain rfl | ha := List.mem_cons.mp ha
      · exact hlast
      · exact lt_of_le_of_lt ((List.pairwise_cons.mp horder).1 a ha) hlast
  -- so the name is new
  have hnone : s.dir.get? (backupName ts) = none := by
    cases hget : s.dir.get? (backupName ts) with
    | none => rfl
    | some v =>
      have hmem := List.mem_map_of_mem (f := Prod.fst) (Dict.mem_of_get? hget)
      -- it would be the name of an earlier one
      obtain ⟨a, ha, hname⟩ := hkept.mem_names.mp hmem
      have hlt := hbefore a (List.mem_of_mem_take ha)
      rw [backupName_inj.mp hname] at hlt
      exact absurd hlt (lt_irrefl ts)
  -- and the file is added to those kept
  rw [Dict.set_of_get?_eq_none hnone]
  exact (List.perm_append_singleton _ _).trans (hkept.cons _)

/-- A kept history has no two files of one name. -/
theorem Backed.Kept.later {s s' : Backed} (hkept : s'.Kept) (h : s'.Ordered) {ts : Int}
    {file : Json} (happlied : s'.applied = (ts, file) :: s.applied) :
    ∀ last ∈ s.applied.head?, last.1 ≠ ts := by
  intro last hlast hsame
  have hnodup : (((s'.applied.take maxBackups).map backupOf).map Prod.fst).Nodup :=
    (hkept.map Prod.fst).nodup_iff.mp h.files
  cases hrest : s.applied with
  | nil => rw [hrest] at hlast; cases hlast
  | cons first rest =>
    rw [hrest] at hlast happlied
    obtain rfl : first = last := Option.some.inj hlast
    rw [happlied] at hnodup
    refine (List.nodup_cons.mp hnodup).1 ?_
    exact List.mem_cons.mpr (.inl (congrArg backupName hsame.symm))

/-- The removal of one of the files. -/
theorem erase_perm {dir : BackupDir} {oldest : String × Json} {kept : List (String × Json)}
    (hperm : dir.Perm (oldest :: kept)) (hnodup : (dir.map Prod.fst).Nodup) :
    (dir.erase oldest.1).Perm kept := by
  have hnodup : ((oldest :: kept).map Prod.fst).Nodup := (hperm.map Prod.fst).nodup_iff.mp hnodup
  rw [List.map_cons, List.nodup_cons] at hnodup
  have hothers : ∀ p ∈ kept, decide (p.1 ≠ oldest.1) = true := by
    intro p hp
    refine decide_eq_true fun hsame => hnodup.1 ?_
    rw [← hsame]
    exact List.mem_map_of_mem hp
  have hfilter := hperm.filter fun p => decide (p.1 ≠ oldest.1)
  rw [List.filter_cons_of_neg (by simp), List.filter_eq_self.mpr hothers] at hfilter
  exact hfilter

/-- Of eleven backups the right ones are left exactly when the oldest is the first by name. -/
theorem pruned_iff {dir : BackupDir} {oldest : Int × Json} {kept : List (Int × Json)}
    (hperm : dir.Perm ((oldest :: kept).map backupOf)) (hnodup : (dir.map Prod.fst).Nodup)
    (hlength : kept.length = maxBackups) :
    (pruneBackups dir).Perm (kept.map backupOf) ↔
      ∀ a ∈ kept, textLe (backupName oldest.1) (backupName a.1) = true := by
  -- the files are those of the eleven updates
  have hnames : ∀ {name}, name ∈ dir.map Prod.fst ↔ ∃ a ∈ oldest :: kept, backupName a.1 = name := by
    intro name
    rw [(hperm.map Prod.fst).mem_iff, List.map_map, List.mem_map]
    rfl
  have hall : ∀ name ∈ dir.map Prod.fst, isBackupName name := by
    intro name hname
    obtain ⟨a, _, rfl⟩ := hnames.mp hname
    exact isBackupName_backupName a.1
  have heleven : dir.length = maxBackups + 1 := by
    rw [hperm.length_eq, List.length_map, List.length_cons, hlength]
  obtain ⟨first, hfirst, hleast, hprune⟩ := pruneBackups_eleven hall heleven
  rw [hprune]
  constructor
  -- the pruned file was the oldest one
  · intro hkept
    have hsame : backupName oldest.1 = first := by
      by_contra hne
      -- the oldest one is still there
      have hstays : backupOf oldest ∈ dir.erase first := by
        refine List.mem_filter.mpr ⟨hperm.symm.subset List.mem_cons_self, ?_⟩
        exact decide_eq_true hne
      have hnodup' : (((oldest :: kept).map backupOf).map Prod.fst).Nodup :=
        (hperm.map Prod.fst).nodup_iff.mp hnodup
      exact (List.nodup_cons.mp hnodup').1 (List.mem_map_of_mem (hkept.subset hstays))
    -- so its name comes before the others
    intro a ha
    rw [hsame]
    exact hleast _ (hnames.mpr ⟨a, List.mem_cons_of_mem _ ha, rfl⟩)
  -- conversely the first name is that of the oldest
  · intro hbefore
    have hsame : backupName oldest.1 = first := by
      obtain ⟨a, ha, hname⟩ := hnames.mp hfirst
      -- if it belonged to another one, the two names would be the same
      obtain rfl | ha := List.mem_cons.mp ha
      · exact hname
      · refine textLe_antisymm ?_ (hleast _ (hnames.mpr ⟨oldest, List.mem_cons_self, rfl⟩))
        rw [← hname]
        exact hbefore a ha
    rw [← hsame]
    exact erase_perm hperm hnodup

/-- An application keeps the history exactly when it is apart. -/
theorem Backed.Kept.apply_iff {s s' : Backed} (hkept : s.Kept) (h : s.Ordered) {ts : Int}
    {newConfig : Json} {outcomes rollbackOutcomes : Nat → StartOutcome}
    (hstep : s.step (.apply ts newConfig outcomes rollbackOutcomes) = some s') :
    s'.Kept ↔ s.Apart ts := by
  obtain ⟨hclock, _, hdir, happlied⟩ := Backed.step_apply hstep
  let file := s.gateway.configFile
  let written := s.dir.set (backupName ts) file
  have hnodup : (written.map Prod.fst).Nodup := Dict.nodup_set h.files _ _
  -- two updates in one second write one file, which the first condition excludes
  suffices hlater : (∀ last ∈ s.applied.head?, last.1 ≠ ts) →
      (s'.Kept ↔ ∀ oldest ∈ s.applied[maxBackups - 1]?,
        textLe (backupName oldest.1) (backupName ts) = true ∧
          ∀ a ∈ s.applied.take (maxBackups - 1),
            textLe (backupName oldest.1) (backupName a.1) = true) by
    constructor
    -- a kept history has a file for each
    · intro hkept'
      have hfresh := hkept'.later (h.step hstep) happlied
      exact ⟨hfresh, (hlater hfresh).mp hkept'⟩
    · exact fun hapart => (hlater hapart.later).mpr hapart.oldestFirst
  intro hfresh
  have hwritten : written.Perm (backupOf (ts, file) :: (s.applied.take maxBackups).map backupOf) :=
    hkept.set_fresh h hclock hfresh file
  -- after the step: the new file and the nine before it
  have hgoal : s'.Kept ↔ (pruneBackups written).Perm
      (((ts, file) :: s.applied.take (maxBackups - 1)).map backupOf) := by
    rw [Backed.Kept, hdir, happlied]
    rfl
  rw [hgoal]
  cases holdest : s.applied[maxBackups - 1]? with
  | none =>
    -- there is room for one more
    have hshort : s.applied.length ≤ maxBackups - 1 := List.getElem?_eq_none_iff.mp holdest
    have hlength := hwritten.length_eq
    rw [List.take_of_length_le (hshort.trans (Nat.sub_le _ _))] at hwritten hlength
    rw [List.length_cons, List.length_map] at hlength
    rw [List.take_of_length_le hshort, pruneBackups_of_le (by unfold maxBackups at *; omega)]
    exact iff_of_true hwritten fun _ hnone => by cases hnone
  | some oldest =>
    -- the tenth is the one that must go
    have htake : s.applied.take maxBackups = s.applied.take (maxBackups - 1) ++ [oldest] := by
      rw [show maxBackups = maxBackups - 1 + 1 from rfl, List.take_add_one]
      exact congrArg _ (congrArg Option.toList holdest)
    -- with it there are eleven files
    have hlength : ((ts, file) :: s.applied.take (maxBackups - 1)).length = maxBackups := by
      obtain ⟨hlt, _⟩ := List.getElem?_eq_some_iff.mp holdest
      rw [List.length_cons, List.length_take]
      unfold maxBackups at *
      omega
    have hrotated : written.Perm
        ((oldest :: (ts, file) :: s.applied.take (maxBackups - 1)).map backupOf) := by
      rw [htake, ← List.map_cons, ← List.cons_append] at hwritten
      exact hwritten.trans ((List.perm_append_singleton _ _).map backupOf)
    -- and pruning removes it exactly when its name is the first
    rw [pruned_iff hrotated hnodup hlength, List.forall_mem_cons]
    simp only [Option.mem_some, forall_eq']

/-- Every step that is apart leaves the history kept, and no other one does. -/
theorem Backed.Kept.step_iff {s s' : Backed} (hkept : s.Kept) (h : s.Ordered) {label : BackedLabel}
    (hstep : s.step label = some s') : s'.Kept ↔ s.KeepsHistory label := by
  cases label with
  | other gateway =>
    obtain rfl := Option.some.inj hstep
    exact iff_of_true hkept trivial
  | apply ts newConfig outcomes rollbackOutcomes => exact hkept.apply_iff h hstep

/-! ## Runs -/

/-- At the beginning nothing was applied. -/
theorem ordered_init (gateway : NovenaGateway) (clock : Int) : (Backed.init gateway clock).Ordered :=
  ⟨List.nodup_nil, (fun _ ha => by cases ha), List.Pairwise.nil⟩

/-- And nothing is to be kept. -/
theorem kept_init (gateway : NovenaGateway) (clock : Int) : (Backed.init gateway clock).Kept :=
  List.Perm.refl _

/-- So all along a run. -/
theorem kept_along {s t : Backed} {labels : List BackedLabel} (hkept : s.Kept) (h : s.Ordered)
    (hrun : Run.exec Backed.step s labels = some t) :
    Run.Along Backed.step Backed.KeptAfter s labels ↔
      Run.Along Backed.step Backed.KeepsHistory s labels := by
  induction labels generalizing s with
  | nil => exact Iff.rfl
  | cons label labels ih =>
    obtain ⟨m, hm, hrest⟩ := Run.exec_cons.mp hrun
    have hone := hkept.step_iff h hm
    -- from the left: what holds after the step decides the condition before it
    constructor
    · rintro ⟨hafter, hmore⟩
      have hm' := hafter m hm
      refine ⟨hone.mp hm', fun s' hs' => ?_⟩
      obtain rfl : m = s' := Option.some.inj (hm.symm.trans hs')
      exact (ih hm' (h.step hm) hrest).mp (hmore m hm)
    -- and back
    · rintro ⟨hapart, hmore⟩
      have hm' := hone.mpr hapart
      refine ⟨fun s' hs' => ?_, fun s' hs' => ?_⟩
      · obtain rfl : m = s' := Option.some.inj (hm.symm.trans hs')
        exact hm'
      · obtain rfl : m = s' := Option.some.inj (hm.symm.trans hs')
        exact (ih hm' (h.step hm) hrest).mpr (hmore m hm)

/-- In a run from an empty directory, the history is kept in every state exactly when no
    application shares its second with the one before and, once there are ten backups, the oldest
    one is the first by name. -/
theorem backups_kept_iff {gateway : NovenaGateway} {clock : Int} {labels : List BackedLabel}
    {s : Backed} (hrun : Run.exec Backed.step (Backed.init gateway clock) labels = some s) :
    Run.Along Backed.step Backed.KeptAfter (Backed.init gateway clock) labels ↔
      Run.Along Backed.step Backed.KeepsHistory (Backed.init gateway clock) labels :=
  kept_along (kept_init gateway clock) (ordered_init gateway clock) hrun

/-! ## Seconds with as many digits -/

/-- A second of `k + 1` digits. -/
def HasDigits (k : Nat) (ts : Int) : Prop := ∃ n : Nat, ts = n ∧ 10 ^ k ≤ n ∧ n < 10 ^ (k + 1)

/-- Names of seconds with as many digits are in the order of time. -/
theorem textLe_backupName {k : Nat} {a b : Int} (ha : HasDigits k a) (hb : HasDigits k b)
    (hlt : a < b) : textLe (backupName a) (backupName b) = true := by
  obtain ⟨m, rfl, hm, _⟩ := ha
  obtain ⟨n, rfl, _, hn⟩ := hb
  have hmn : m < n := Int.ofNat_lt.mp hlt
  have hm' : m < 10 ^ (k + 1) := Nat.lt_trans hmn hn
  have hdigits : ∀ i : Nat, (toString (i : Int)).toList = Nat.toDigits 10 i :=
    fun i => Nat.toList_repr
  have hlength : (Nat.toDigits 10 m).length = (Nat.toDigits 10 n).length := by
    rw [Nat.length_toDigits_eq hm hm', Nat.length_toDigits_eq (by omega) hn]
  have htext : (backupName m).toList < (backupName n).toList := by
    simp only [backupName, String.toList_append, hdigits]
    apply List.append_lt_append_left
    exact List.append_lt_append hlength (Nat.toDigits_lt_toDigits hm hmn hn) _ _
  exact decide_eq_true (le_of_lt htext)

/-- An application in a later second, which has `k + 1` digits. -/
def Backed.InDigits (k : Nat) (s : Backed) : BackedLabel → Prop
  | .apply ts _ _ _ => HasDigits k ts ∧ ∀ last ∈ s.applied.head?, last.1 < ts
  | .other _ => True

/-- So were the applications so far. -/
structure Backed.Digits (k : Nat) (s : Backed) : Prop where
  digits : ∀ a ∈ s.applied, HasDigits k a.1
  order : s.applied.Pairwise fun a b => b.1 < a.1

/-- A later second comes after all before it. -/
theorem Backed.Digits.before {k : Nat} {s : Backed} (h : s.Digits k) {ts : Int}
    (hlater : ∀ last ∈ s.applied.head?, last.1 < ts) : ∀ a ∈ s.applied, a.1 < ts := by
  have horder := h.order
  cases happlied : s.applied with
  | nil => intro a ha; cases ha
  | cons last rest =>
    rw [happlied] at hlater horder
    intro a ha
    obtain rfl | ha := List.mem_cons.mp ha
    · exact hlater a rfl
    · exact lt_trans ((List.pairwise_cons.mp horder).1 a ha) (hlater last rfl)

/-- Every step keeps the number of digits. -/
theorem Backed.Digits.step {k : Nat} {s s' : Backed} {label : BackedLabel} (h : s.Digits k)
    (hlabel : s.InDigits k label) (hstep : s.step label = some s') : s'.Digits k := by
  cases label with
  | other gateway =>
    obtain rfl := Option.some.inj hstep
    exact ⟨h.digits, h.order⟩
  | apply ts newConfig outcomes rollbackOutcomes =>
    obtain ⟨_, _, _, happlied⟩ := Backed.step_apply hstep
    constructor
    · rw [happlied]
      exact List.forall_mem_cons.mpr ⟨hlabel.1, h.digits⟩
    · rw [happlied]
      exact List.pairwise_cons.mpr ⟨h.before hlabel.2, h.order⟩

/-- And with it the history. -/
theorem Backed.Digits.keepsHistory {k : Nat} {s : Backed} {label : BackedLabel} (h : s.Digits k)
    (hlabel : s.InDigits k label) : s.KeepsHistory label := by
  cases label with
  | other gateway => trivial
  | apply ts newConfig outcomes rollbackOutcomes =>
    refine ⟨fun last hlast => (hlabel.2 last hlast).ne, fun oldest holdest => ⟨?_, ?_⟩⟩
    · have hmem := List.mem_of_getElem? holdest
      exact textLe_backupName (h.digits _ hmem) hlabel.1 (h.before hlabel.2 _ hmem)
    · intro a ha
      obtain ⟨i, hi, rfl⟩ := List.mem_take_iff_getElem.mp ha
      obtain ⟨hnine, rfl⟩ := List.getElem?_eq_some_iff.mp holdest
      have hlt : i < maxBackups - 1 := by omega
      have horder := List.pairwise_iff_getElem.mp h.order i _ (by omega) hnine hlt
      exact textLe_backupName (h.digits _ (List.getElem_mem hnine))
        (h.digits _ (List.getElem_mem _)) horder

/-- With seconds that move on and have as many digits, the history is kept. -/
theorem kept_of_sameDigits {k : Nat} {gateway : NovenaGateway} {clock : Int}
    {labels : List BackedLabel} {s : Backed}
    (hrun : Run.exec Backed.step (Backed.init gateway clock) labels = some s)
    (hdigits : Run.Along Backed.step (Backed.InDigits k) (Backed.init gateway clock) labels) :
    Run.Along Backed.step Backed.KeptAfter (Backed.init gateway clock) labels := by
  have hinit : (Backed.init gateway clock).Digits k :=
    ⟨(fun _ ha => by cases ha), List.Pairwise.nil⟩
  refine (kept_along (kept_init gateway clock) (ordered_init gateway clock) hrun).mpr ?_
  exact hdigits.of_invariant (fun _ _ _ h hlabel hstep => h.step hlabel hstep)
    (fun _ _ h hlabel => h.keepsHistory hlabel) hinit

namespace Station

/-- Two updates that reach the station within the second 1700000000. -/
def sameSecond : List BackedLabel :=
  [.apply 1700000000 (.obj (Station.config "local" [nameless])) (fun _ => .opened)
     (fun _ => .opened),
   .apply 1700000000 (.obj (Station.config "local" [])) (fun _ => .opened) fun _ => .opened]

/-- Two updates a minute apart. -/
def minuteApart : List BackedLabel :=
  [.apply 1700000000 (.obj (Station.config "local" [nameless])) (fun _ => .opened)
     (fun _ => .opened),
   .apply 1700000060 (.obj (Station.config "local" [])) (fun _ => .opened) fun _ => .opened]

/-- Both configurations are in the directory. -/
theorem backups_kept_minuteApart :
    Run.Along Backed.step Backed.KeptAfter (Backed.init station 0) minuteApart := by
  have hrun : ∃ s, Run.exec Backed.step (Backed.init station 0) minuteApart = some s := ⟨_, rfl⟩
  obtain ⟨s, hrun⟩ := hrun
  refine (backups_kept_iff hrun).mpr ⟨⟨?_, ?_⟩, fun s' hs' => ⟨⟨?_, ?_⟩, fun _ _ => trivial⟩⟩
  -- no update before the first
  · intro last hlast
    cases hlast
  · intro oldest holdest
    cases holdest
  -- the second comes a minute later
  · obtain ⟨_, _, _, happlied⟩ := Backed.step_apply hs'
    intro last hlast
    rw [happlied] at hlast
    obtain rfl := Option.some.inj hlast
    decide
  · obtain ⟨_, _, _, happlied⟩ := Backed.step_apply hs'
    intro oldest holdest
    rw [happlied] at holdest
    cases holdest

/-- A directory with one file keeps it. -/
theorem pruneBackups_single (name : String) (file : Json) :
    pruneBackups [(name, file)] = [(name, file)] :=
  pruneBackups_of_le (show 1 ≤ maxBackups by decide)

/-- One file is left of the two, and the configuration before the first one is not in it. -/
theorem same_second_overwrites : ∃ s,
    Run.exec Backed.step (Backed.init station 0) sameSecond = some s ∧
      s.applied.map Prod.snd = [.obj (Station.config "local" [nameless]), station.configFile] ∧
      s.dir.map Prod.snd = [.obj (Station.config "local" [nameless])] ∧ ¬s.Kept := by
  let first := station.configFile
  let second : Json := .obj (Station.config "local" [nameless])
  have hdir : createBackup (some second) 1700000000 (createBackup (some first) 1700000000 []) =
      [(backupName 1700000000, second)] := by
    simp only [createBackup, Dict.set, pruneBackups_single, if_pos]
  refine ⟨_, rfl, rfl, congrArg (List.map Prod.snd) hdir, fun hkept => ?_⟩
  have hlength := hkept.length_eq
  exact absurd ((congrArg List.length hdir).symm.trans hlength) (by decide)

end Station

end RemoteConfigHandler

end Novena

import Mathlib.Data.List.DropRight
import NovenaGateway.Native.ClaimBuffer
import NovenaGateway.Spec.ValidConfig

/-!
# Erasing the buffer of a claim

`clear_claim_buffer` removes the directory it takes `data_file_path` for; the storage keeps its
files in the directory of that path. The two agree where the path is spelled as a directory and
lies strictly below the data directory, and there the buffer can be erased and is. The validator
looks at one of the places a path can come from, admits the data directory itself, and does not ask
for a spelling.

Key results:
- `bufferErased_iff`
- `NovenaGateway.eraseBuffer_refines`
- `erasable_of_slash`
- `buffer_kept`
-/

namespace Novena

/-! ## Paths -/

/-- One text starts with another. -/
theorem startsWith_iff {s p : String} : startsWith s p = true ↔ p.toList <+: s.toList := by
  simp [startsWith]

/-- A path below a file of one name is not below, nor is, a file of another name. -/
private theorem blocks_one {f g : BufferFile} {directory : String}
    (hdirectory : f.directory = g.directory) (hf : f.name = "data.db") (hg : g.name = "data_0.db")
    (hblocks : f.blocks directory = true) : g.blocks directory = false := by
  -- a file in the way lies on the path, as a list of characters
  have hlist : ∀ f : BufferFile, f.blocks directory = true →
      f.directory.toList ++ '/' :: f.name.toList <+: directory.toList := by
    intro f hf
    simp only [BufferFile.blocks, BufferFile.path, Bool.or_eq_true, startsWith_iff] at hf
    obtain hf | hf := hf
    · obtain rfl := of_decide_eq_true hf
      simp [String.toList_append]
    · refine List.IsPrefix.trans ?_ hf
      simp [String.toList_append]
  by_contra hcontra
  have hg' := hlist g (by simpa using hcontra)
  -- both names would then begin the same rest of the path
  obtain ⟨s, hs⟩ := hlist f hblocks
  obtain ⟨t, ht⟩ := hg'
  rw [← ht, hdirectory, List.append_assoc, List.append_assoc, List.append_cancel_left_eq, hf,
    hg] at hs
  -- the names differ at the fifth letter
  have hletter := congrArg (fun l => l[5]?) hs
  simp at hletter

/-! ## What is left -/

/-- The call never finds the directory unsafe, and where it returns the storage it makes has no
    database file with an event in it. -/
def Erases (realpath : String → String) (path : String) : Prop :=
  ∀ stopped files,
    clearClaimBuffer realpath path stopped files ≠
      .error (.runtimeError "unsafe SQLite storage directory") ∧
    ∀ files', clearClaimBuffer realpath path stopped files = .ok files' →
      ∀ f ∈ dbFiles realpath path files', f.events = []

/-- The buffer of the publisher of this configuration can be erased, and is. -/
def BufferErased (realpath : String → String) (config : Json) : Prop :=
  ∀ path, dataFilePath config = .ok path → Erases realpath path

/-- The path is strictly below the data directory, and its directory is the path itself or below
    it. -/
def Erasable (realpath : String → String) (path : String) : Prop :=
  startsWith (realpath path) (realpath dataDir ++ "/") = true ∧
    (realpath (dirname path) = realpath path ∨
      startsWith (realpath (dirname path)) (realpath path ++ "/") = true)

instance (realpath : String → String) (path : String) : Decidable (Erasable realpath path) :=
  inferInstanceAs (Decidable (_ ∧ _))

/-- A file of an opened storage was there before, or is empty. -/
theorem mem_openStorage {realpath : String → String} {path : String} {files : List BufferFile}
    {f : BufferFile} (h : f ∈ openStorage realpath path files) : f ∈ files ∨ f.events = [] := by
  unfold openStorage at h
  dsimp only at h
  obtain h | h := List.mem_append.mp h
  · exact .inl h
  · obtain ⟨_, _, rfl⟩ := List.mem_map.mp h
    exact .inr rfl

/-- What a call that returned has left. -/
theorem clearClaimBuffer_ok {realpath : String → String} {path : String} {stopped : Bool}
    {files files' : List BufferFile}
    (h : clearClaimBuffer realpath path stopped files = .ok files') :
    files' = openStorage realpath path (files.filter fun f => !f.isBelow (realpath path)) := by
  unfold clearClaimBuffer at h
  split at h
  · cases h
  · dsimp only at h
    split at h
    · cases h
    · split at h
      · cases h
      · exact (Except.ok.inj h).symm

/-- A file that does not lie in the way of the removed directory, and not below it, is kept. -/
theorem clearClaimBuffer_kept {realpath : String → String} {path : String} {f : BufferFile}
    (hsafe : startsWith (realpath path) (realpath dataDir ++ "/") = true)
    (hbelow : f.isBelow (realpath path) = false) (hblocks : f.blocks (realpath path) = false) :
    ∃ files', clearClaimBuffer realpath path true [f] = .ok files' ∧ f ∈ files' := by
  refine ⟨openStorage realpath path [f], ?_, ?_⟩
  · simp [clearClaimBuffer, hsafe, hbelow, hblocks]
  · exact List.mem_append_left _ List.mem_cons_self

/-- Where the directory of the files is not removed with the path, a file with an event is kept. -/
private theorem not_erases_of_outside {realpath : String → String} {path : String}
    (hsafe : startsWith (realpath path) (realpath dataDir ++ "/") = true)
    (hne : realpath (dirname path) ≠ realpath path)
    (hbelow : startsWith (realpath (dirname path)) (realpath path ++ "/") = false) :
    ¬Erases realpath path := by
  intro herases
  -- a buffer with one event under each of the two names
  let event : MqttEvent := ⟨"v1/gateway/telemetry", .null, .null⟩
  let file (name : String) : BufferFile := ⟨realpath (dirname path), name, [event]⟩
  -- each of them outlives the erasure, unless it is in the way
  have hkept : ∀ name, MqttPublisher.endsWith name ".db" = true →
      (file name).blocks (realpath path) ≠ false := by
    intro name hname hblocks
    have houtside : (file name).isBelow (realpath path) = false := by
      simp [BufferFile.isBelow, file, hne, hbelow]
    obtain ⟨files', hcleared, hmem⟩ := clearClaimBuffer_kept hsafe houtside hblocks
    have hread : file name ∈ dbFiles realpath path files' :=
      List.mem_filter.mpr ⟨hmem, by simp [file, hname]⟩
    cases (herases true [file name]).2 files' hcleared _ hread
  -- the path cannot be in the way of both names
  have hfirst := hkept "data.db" (by decide)
  have hsecond := hkept "data_0.db" (by decide)
  exact hsecond (blocks_one (f := file "data.db") rfl rfl rfl (by simpa using hfirst))

/-- A buffer is erased where the path can be. -/
theorem erases_iff (realpath : String → String) (path : String) :
    Erases realpath path ↔ Erasable realpath path := by
  constructor
  -- outside the data directory the function raises
  · intro herases
    have hsafe : startsWith (realpath path) (realpath dataDir ++ "/") = true := by
      by_contra hoff
      refine (herases true []).1 ?_
      simp [clearClaimBuffer, hoff]
    refine ⟨hsafe, ?_⟩
    -- outside the removed directory the files stay
    by_contra hcontra
    rw [not_or, Bool.not_eq_true] at hcontra
    exact not_erases_of_outside hsafe hcontra.1 hcontra.2 herases
  -- conversely
  · rintro ⟨hsafe, hbelow⟩ stopped files
    constructor
    -- the only exception is the check of the path
    · unfold clearClaimBuffer
      dsimp only
      rw [hsafe]
      cases stopped with
      | false => simp
      | true =>
        simp only [Bool.not_true, Bool.false_eq_true, if_false]
        split <;> simp
    -- no file that is read back has an event left
    · intro files' hcleared f hf
      obtain ⟨hmem, hdirectory⟩ := List.mem_filter.mp hf
      obtain rfl := clearClaimBuffer_ok hcleared
      obtain hmem | hempty := mem_openStorage hmem
      · -- a file of the storage lies below the removed directory
        obtain ⟨_, hkept⟩ := List.mem_filter.mp hmem
        simp only [Bool.and_eq_true, decide_eq_true_eq] at hdirectory
        have hremoved : f.isBelow (realpath path) = true := by
          simp only [BufferFile.isBelow, hdirectory.1, Bool.or_eq_true, decide_eq_true_eq]
          exact hbelow
        simp [hremoved] at hkept
      -- the new file is empty
      · exact hempty

/-- The buffer of a publisher can be erased, and is, exactly when its path is strictly below the
    data directory, and is the directory of its files or above it. -/
theorem bufferErased_iff (realpath : String → String) (config : Json) :
    BufferErased realpath config ↔
      ∀ path, dataFilePath config = .ok path → Erasable realpath path :=
  forall₂_congr fun path _ => erases_iff realpath path

/-! ## The buffer of the gateway process -/

/-- The events in the database files of a directory. -/
def eventsIn (files : List BufferFile) (directory : String) : List MqttEvent :=
  (files.filter fun f => f.directory = directory && MqttPublisher.endsWith f.name ".db").flatMap
    BufferFile.events

/-- A storage that is opened adds no events. -/
theorem eventsIn_openStorage (realpath : String → String) (path : String)
    (files : List BufferFile) (directory : String) :
    eventsIn (openStorage realpath path files) directory = eventsIn files directory := by
  unfold eventsIn openStorage
  dsimp only
  rw [List.filter_append, List.flatMap_append]
  refine (congrArg _ (List.flatMap_eq_nil_iff.mpr fun f hf => ?_)).trans (List.append_nil _)
  obtain ⟨_, _, rfl⟩ := List.mem_map.mp (List.mem_filter.mp hf).1
  rfl

/-- The call removes the events of the directories that are removed, and no others. -/
theorem eventsIn_clearClaimBuffer {realpath : String → String} {path : String} {stopped : Bool}
    {files files' : List BufferFile}
    (h : clearClaimBuffer realpath path stopped files = .ok files') (directory : String) :
    eventsIn files' directory = if (BufferPlace.resolve realpath path).removes directory then []
      else eventsIn files directory := by
  rw [clearClaimBuffer_ok h, eventsIn_openStorage]
  -- below the path or not is a question of the directory
  have hbelow : ∀ f : BufferFile, f.directory = directory →
      f.isBelow (realpath path) = (BufferPlace.resolve realpath path).removes directory := by
    rintro f rfl
    rfl
  unfold eventsIn
  rw [List.filter_filter]
  split
  -- the directory went, with all that is in it
  · next hremoved =>
    refine List.flatMap_eq_nil_iff.mpr fun f hf => ?_
    obtain ⟨_, hkept⟩ := List.mem_filter.mp hf
    simp only [Bool.and_eq_true, decide_eq_true_eq, Bool.not_eq_true'] at hkept
    rw [hbelow f hkept.1.1, hremoved] at hkept
    exact absurd hkept.2 (by decide)
  -- it stayed
  · next hkept =>
    congr 1
    refine List.filter_congr fun f _ => ?_
    by_cases hdirectory : f.directory = directory
    · simp [hbelow f hdirectory, hkept]
    · simp [hdirectory]

/-- A place is safe when it lies in the directory of the data. -/
theorem isSafe_iff (realpath : String → String) (path : String) :
    (BufferPlace.resolve realpath path).isSafe = true ↔
      startsWith (realpath path) (realpath dataDir ++ "/") = true := Iff.rfl

/-- A buffer can be erased, and is, where its place is safe and its own directory is removed. -/
theorem erasable_iff (realpath : String → String) (path : String) :
    Erasable realpath path ↔ (BufferPlace.resolve realpath path).isSafe = true ∧
      (BufferPlace.resolve realpath path).removes (realpath (dirname path)) = true := by
  rw [isSafe_iff, BufferPlace.removes, Bool.or_eq_true, decide_eq_true_iff]
  exact Iff.rfl

/-- The directories that are removed have no events left. -/
theorem NovenaGateway.disk_eraseBuffer (g : NovenaGateway) (directory : String) :
    g.eraseBuffer.disk.buffers directory =
      if g.buffer.removes directory then [] else g.disk.buffers directory := by
  have herased : g.eraseBuffer.disk.buffers directory =
      if directory = g.buffer.directory then
        if g.buffer.removes g.buffer.directory then [] else g.publisher.storage
      else if g.buffer.removes directory then [] else g.buffers directory := rfl
  have hdisk : g.disk.buffers directory =
      if directory = g.buffer.directory then g.publisher.storage else g.buffers directory := rfl
  rw [herased, hdisk]
  by_cases hown : directory = g.buffer.directory
  · subst hown
    rw [if_pos rfl, if_pos rfl]
  · rw [if_neg hown, if_neg hown]

/-- The step of the gateway process is the call on the files it stands for. -/
theorem NovenaGateway.eraseBuffer_refines {realpath : String → String} {path : String}
    {stopped : Bool} {files files' : List BufferFile} {g : NovenaGateway}
    (hplace : g.buffer = .resolve realpath path) (hfiles : g.disk.buffers = eventsIn files)
    (h : Novena.clearClaimBuffer realpath path stopped files = .ok files') :
    g.eraseBuffer.disk.buffers = eventsIn files' := by
  funext directory
  rw [eventsIn_clearClaimBuffer h, ← hplace, ← hfiles, g.disk_eraseBuffer]

/-! ## Spelled as a directory -/

/-- A slash at the end of a path with a name in it adds nothing. -/
theorem abspath_append_slash {l : List Char} (hname : ∃ c ∈ l, c ≠ '/') :
    abspath (String.ofList ('/' :: l ++ ['/'])) = abspath (String.ofList ('/' :: l)) := by
  -- a last empty component changes nothing
  have hcomps : normComponents (('/' :: l ++ ['/']).splitOn '/') [] =
      normComponents (('/' :: l).splitOn '/') [] := by
    rw [List.splitOn_append_cons_self]
    generalize ('/' :: l).splitOn '/' = comps
    generalize ([] : List (List Char)) = done
    induction comps generalizing done with
    | nil => simp [normComponents]
    | cons comp comps ih =>
      simp only [List.cons_append, normComponents]
      -- an empty component or a dot is dropped
      split
      · exact ih done
      -- two dots take one back
      · split
        · exact ih done.tail
        · exact ih (comp :: done)
  -- whether there are two slashes at the front is decided before the end
  have hslashes : (['/', '/'].isPrefixOf ('/' :: l ++ ['/']) ∧
        ¬['/', '/', '/'].isPrefixOf ('/' :: l ++ ['/'])) ↔
      (['/', '/'].isPrefixOf ('/' :: l) ∧ ¬['/', '/', '/'].isPrefixOf ('/' :: l)) := by
    match l, hname with
    | [c], ⟨d, hmem, hd⟩ =>
      obtain rfl := List.mem_singleton.mp hmem
      simp [List.isPrefixOf, Ne.symm hd]
    | c :: d :: l, _ => simp [List.isPrefixOf]
  simp only [abspath, String.toList_ofList, hcomps, hslashes]

/-- Slashes at the end change no absolute path. -/
theorem abspath_append_slashes {l : List Char} (hname : ∃ c ∈ l, c ≠ '/') (n : Nat) :
    abspath (String.ofList ('/' :: l ++ List.replicate n '/')) =
      abspath (String.ofList ('/' :: l)) := by
  induction n with
  | zero => simp
  | succ n ih =>
    have hname' : ∃ c ∈ l ++ List.replicate n '/', c ≠ '/' := by
      obtain ⟨c, hmem, hc⟩ := hname
      exact ⟨c, List.mem_append_left _ hmem, hc⟩
    have hstep := abspath_append_slash hname'
    rw [← ih, List.replicate_succ']
    simpa using hstep

/-- An absolute path with a name in it is its directory part and slashes. -/
private theorem slashes_at_end {l : List Char} (habs : ['/'] <+: l) (hall : ¬l.all (· = '/')) :
    ∃ name n, l = '/' :: name ++ List.replicate n '/' ∧ (∃ c ∈ name, c ≠ '/') ∧
      l.rdropWhile (· = '/') = '/' :: name := by
  -- the path without its last slashes, and these
  have hsplit : l.rdropWhile (· = '/') ++ l.rtakeWhile (· = '/') = l :=
    List.rdropWhile_append_rtakeWhile ..
  -- it is not made of slashes only
  have hne : l.rdropWhile (· = '/') ≠ [] := by
    intro hnil
    exact hall (List.all_eq_true.mpr (List.rdropWhile_eq_nil_iff.mp hnil))
  have hlast := List.rdropWhile_last_not _ _ hne
  have hslashes : l.rtakeWhile (· = '/') =
      List.replicate (l.rtakeWhile (· = '/')).length '/' :=
    List.eq_replicate_of_mem fun c hc => by simpa using List.mem_rtakeWhile_imp hc
  generalize l.rdropWhile (· = '/') = core at hsplit hne hlast
  obtain ⟨c, name, rfl⟩ := List.exists_cons_of_ne_nil hne
  have hc : c = '/' := by
    rw [← hsplit, List.cons_append, List.cons_prefix_cons] at habs
    exact habs.1.symm
  subst hc
  refine ⟨name, _, (hslashes ▸ hsplit).symm, ?_, rfl⟩
  -- the rest ends in a character that is no slash
  cases name with
  | nil => simp at hlast
  | cons d name =>
    refine ⟨_, List.getLast_mem (List.cons_ne_nil d name), ?_⟩
    simpa using hlast

/-- A path that ends in a slash and lies strictly below the data directory is that of its own
    directory. -/
theorem erasable_of_slash {path : String} (habs : startsWith path "/" = true)
    (hslash : MqttPublisher.endsWith path "/" = true)
    (hbelow : startsWith (abspath path) (dataDir ++ "/") = true) : Erasable abspath path := by
  have hroot : abspath dataDir = dataDir := by decide
  refine ⟨by rwa [hroot], .inl ?_⟩
  -- a path that ends in a slash is its own head
  have hhead : (path.toList.reverse.dropWhile (· ≠ '/')).reverse = path.toList := by
    obtain ⟨t, ht⟩ : ['/'] <:+ path.toList := by simpa [MqttPublisher.endsWith] using hslash
    simp [← ht]
  unfold dirname
  dsimp only
  rw [hhead]
  -- it may be made of slashes, or have a name before them
  split
  · rw [String.ofList_toList]
  · next hall =>
    -- the slashes at the end do not change `realpath`
    obtain ⟨name, n, hpath, hname, hdirectory⟩ :=
      slashes_at_end (startsWith_iff.mp habs) hall
    rw [List.rdropWhile] at hdirectory
    rw [hdirectory, ← abspath_append_slashes hname n, ← hpath, String.ofList_toList]

/-! ## What the validator admits -/

/-- What is asked of a nested path of a valid configuration. -/
theorem nested_of_valid {host : Host} {config : Json} {path : String}
    (hvalid : NovenaGateway.validateConfig host config = .ok [])
    (hpath : config.path ["storage", "sqlite", "data_file_path"] = .str path) (hne : path ≠ "") :
    startsWith path "/" = true ∧
      (abspath path = dataDir ∨ startsWith (abspath path) (dataDir ++ "/") = true) := by
  -- the check of this path found no error
  obtain ⟨_, _, _, _, _, _, _, hpaths, _⟩ := NovenaGateway.validateConfig_nil.mp hvalid
  simp only [NovenaGateway.runtimeStatePathErrors, List.flatten_eq_nil_iff, List.mem_map,
    forall_exists_index, and_imp, forall_apply_eq_imp_iff₂] at hpaths
  have herrors := hpaths ["storage", "sqlite", "data_file_path"] List.mem_cons_self
  rw [hpath] at herrors
  simp only [NovenaGateway.runtimePathErrors, Json.truthy] at herrors
  -- an empty path is not checked
  split at herrors
  · next h => exact absurd (by simpa using h) hne
  -- the path is absolute
  · split at herrors
    · cases herrors
    · next habs =>
      -- it is not below the installation
      split at herrors
      · cases herrors
      -- it is the data directory, or below it
      · split at herrors
        · cases herrors
        · next hbelow =>
          refine ⟨by simpa using habs, ?_⟩
          by_contra hcontra
          simp only [not_or] at hcontra
          exact hbelow (by simpa using hcontra)

/-- A step of `get_path` that did not end in `None`. -/
private theorem path_cons {v : Json} {part : String} {parts : List String} {s : String}
    (h : v.path (part :: parts) = .str s) :
    ∃ fields x, v = .obj fields ∧ Dict.get? fields part = some x ∧ x.path parts = .str s := by
  cases v with
  | obj fields =>
    simp only [Json.path] at h
    split at h
    · next x hx => exact ⟨fields, x, rfl, hx, h⟩
    · cases h
  | _ => cases h

/-- The first of the fields counts. -/
theorem get?_foldr_set (fields d : Dict String Json) (key : String) :
    Dict.get? (fields.foldr (fun p d => d.set p.1 p.2) d) key =
      (Dict.get? fields key).or (Dict.get? d key) := by
  induction fields with
  | nil => rfl
  | cons p fields ih =>
    obtain ⟨k, v⟩ := p
    rw [List.foldr_cons, Dict.get?_set, ih, Dict.get?_cons]
    split <;> simp

/-- The path of the publisher is the nested one where there is one. -/
theorem eq_of_nested {config : Json} {path path' : String}
    (hpath : config.path ["storage", "sqlite", "data_file_path"] = .str path)
    (hmade : dataFilePath config = .ok path') : path' = path := by
  obtain ⟨fields, storage, rfl, hstorage, hpath⟩ := path_cons hpath
  obtain ⟨storage, sqlite, rfl, hsqlite, hpath⟩ := path_cons hpath
  obtain ⟨sqlite, value, rfl, hvalue, hpath⟩ := path_cons hpath
  obtain rfl : value = .str path := hpath
  -- a nested section is used when it is truthy
  have htruthy : (Json.obj sqlite).truthy = true := by
    cases sqlite with
    | nil => cases hvalue
    | cons => rfl
  -- so the settings are the defaults overwritten by it
  have hresolved : resolvedStorageConfig (.obj fields) =
      .ok (sqlite.foldr (fun p d => Dict.set d p.1 p.2) storageDefaults) := by
    simp only [resolvedStorageConfig, Json.item, hstorage]
    show dictUpdate storageDefaults
      (((Dict.get? storage "sqlite").getD (.obj storage)).orElse (.obj [])) = _
    rw [hsqlite, Option.getD_some, Json.orElse, if_pos htruthy]
    rfl
  have hget := get?_foldr_set sqlite storageDefaults "data_file_path"
  rw [hvalue, Option.some_or] at hget
  simp only [dataFilePath, hresolved, Except.ok_bind, hget] at hmade
  -- a path that is no text raises
  split at hmade
  · cases hmade
  · exact (Except.ok.inj hmade).symm

/-- In a valid configuration, a nested path that ends in a slash and is not the data directory
    itself is erased. -/
theorem erased_of_valid {host : Host} {config : Json} {path : String}
    (hvalid : NovenaGateway.validateConfig host config = .ok [])
    (hpath : config.path ["storage", "sqlite", "data_file_path"] = .str path)
    (hslash : MqttPublisher.endsWith path "/" = true) (hroot : abspath path ≠ dataDir) :
    BufferErased abspath config := by
  have hne : path ≠ "" := by
    rintro rfl
    exact absurd hslash (by decide)
  obtain ⟨habs, heq | hbelow⟩ := nested_of_valid hvalid hpath hne
  · exact absurd heq hroot
  · intro path' hmade
    obtain rfl := eq_of_nested hpath hmade
    exact (erases_iff abspath path').mpr (erasable_of_slash habs hslash hbelow)

/-! ## Other spellings -/

namespace Station

/-- A station with a section `storage`. -/
def storing (storage : Json) : Json := .obj (config "local" [] ++ [("storage", storage)])

/-- A nested path, and a flat one. -/
def nested (path : String) : Json := .obj [("sqlite", .obj [("data_file_path", .str path)])]

def flat (path : String) : Json := .obj [("data_file_path", .str path)]

end Station

/-- Three valid configurations: without the slash the database stays, the data directory itself is
    found unsafe, and so is a directory that is named in the section itself. -/
theorem buffer_kept :
    (NovenaGateway.validateConfig Station.host
        (Station.storing (Station.nested "/var/lib/novena-gateway/sqlite")) = .ok [] ∧
      ¬BufferErased abspath (Station.storing (Station.nested "/var/lib/novena-gateway/sqlite"))) ∧
    (NovenaGateway.validateConfig Station.host
        (Station.storing (Station.nested "/var/lib/novena-gateway/")) = .ok [] ∧
      ¬BufferErased abspath (Station.storing (Station.nested "/var/lib/novena-gateway/"))) ∧
    NovenaGateway.validateConfig Station.host
        (Station.storing (Station.flat "/mnt/buffer/")) = .ok [] ∧
      ¬BufferErased abspath (Station.storing (Station.flat "/mnt/buffer/")) := by
  -- the path of each configuration is not erasable
  have hkept : ∀ (config : Json) (path : String), dataFilePath config = .ok path →
      ¬Erasable abspath path → ¬BufferErased abspath config := fun config path hmade hne herased =>
    hne ((erases_iff _ _).mp (herased path hmade))
  refine ⟨⟨rfl, ?_⟩, ⟨rfl, ?_⟩, rfl, ?_⟩
  · exact hkept _ "/var/lib/novena-gateway/sqlite" rfl (by decide)
  · exact hkept _ "/var/lib/novena-gateway/" rfl (by decide)
  · exact hkept _ "/mnt/buffer/" rfl (by decide)

end Novena

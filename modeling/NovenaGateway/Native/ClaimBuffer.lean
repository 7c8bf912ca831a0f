import Mathlib.Data.List.Sort
import NovenaGateway.Native.Config
import NovenaGateway.Native.MqttPublisher

/-!
# Where the offline buffer lies

The paths of the SQLite buffer: the section `storage` as `NovenaMqttPublisher` resolves it, the
directory `StorageSettings` and `Pointer` make of it, and `clear_claim_buffer`, which erases what
it takes for that directory. `os.path.realpath` is an argument; what it answers is not changed by
the removal.
-/

namespace Novena

/-- `os.path.dirname`. -/
def dirname (path : String) : String :=
  -- up to the last slash, and without the slashes at the end unless there is nothing else
  let head := (path.toList.reverse.dropWhile (· ≠ '/')).reverse
  if head.all (· = '/') then String.ofList head
  else String.ofList (head.reverse.dropWhile (· = '/')).reverse

/-! ## The configuration -/

/-- The key and the value `dict.update` takes from an element of a list. Only texts are looked up
    among the keys. -/
def updatePair : Json → Py (Option (String × Json))
  | .arr [key, value] => do
    match ← key.hashKey with
    | .str k => return some (k, value)
    | _ => return none
  | .obj [(k, _), (v, _)] => .ok (some (k, .str v))
  | .str s => match s.toList with
    | [k, v] => .ok (some (String.singleton k, .str (String.singleton v)))
    | _ => .error (.valueError "dictionary update sequence element has the wrong length")
  | .arr _ | .obj _ =>
    .error (.valueError "dictionary update sequence element has the wrong length")
  | _ => .error .typeError

/-- `dict.update` with the pairs of a list. -/
def updatePairs (d : Dict String Json) : List Json → Py (Dict String Json)
  | [] => .ok d
  | item :: items => do
    match ← updatePair item with
    | some (k, v) => updatePairs (d.set k v) items
    | none => updatePairs d items

/-- `dict.update`, where the order of the keys does not matter. -/
def dictUpdate (d : Dict String Json) : Json → Py (Dict String Json)
  | .obj fields => .ok (fields.foldr (fun p d => d.set p.1 p.2) d)
  | .arr items => updatePairs d items
  | .str s => updatePairs d (s.toList.map fun c => .str (String.singleton c))
  | _ => .error .typeError

/-- `SQLITE_DATA_FILE_PATH`. -/
def sqliteDataFilePath : String := dataDir ++ "/sqlite/"

/-- What `_resolved_storage_config` starts from. -/
def storageDefaults : Dict String Json :=
  [("data_file_path", .str sqliteDataFilePath), ("max_read_records_count", .int 50),
   ("writing_batch_size", .int 50)]

/-- `_resolved_storage_config` of a publisher made from this configuration: the section `storage`
    of the configuration goes over that of `mqtt`, and its `sqlite` over the section itself. -/
def resolvedStorageConfig (config : Json) : Py (Dict String Json) := do
  let storage ← match config.item "storage" with
    | .ok storage => pure storage
    | .error _ => (← config.item "mqtt").getD "storage" (.obj [])
  let sqlite ← storage.getD "sqlite" storage
  dictUpdate storageDefaults (sqlite.orElse (.obj []))

/-- `data_file_path` of the `StorageSettings` of a publisher. The storage lists the directory of
    that path, so that there is none for a path without one. -/
def dataFilePath (config : Json) : Py String := do
  match Dict.get? (← resolvedStorageConfig config) "data_file_path" with
  | some (.str path) => if dirname path = "" then throw .osError else return path
  | _ => throw .typeError

/-- The paths of a buffer as the file system resolves them. -/
structure BufferPlace where
  /-- `os.path.realpath(data_file_path)`, which `clear_claim_buffer` takes for the directory. -/
  storageDir : String
  /-- The directory in which the storage keeps its database files. -/
  directory : String
  /-- `os.path.realpath(DATA_DIR)`. -/
  dataRoot : String

namespace BufferPlace

/-- The place of a buffer with this `data_file_path`. -/
def resolve (realpath : String → String) (path : String) : BufferPlace :=
  ⟨realpath path, realpath (dirname path), realpath dataDir⟩

/-- `storage_dir.startswith(data_root + os.sep)`. -/
def isSafe (b : BufferPlace) : Bool := startsWith b.storageDir (b.dataRoot ++ "/")

/-- `shutil.rmtree(storage_dir)` removes what is in this directory. -/
def removes (b : BufferPlace) (directory : String) : Bool :=
  directory = b.storageDir || startsWith directory (b.storageDir ++ "/")

end BufferPlace

/-! ## The files -/

/-- A file with the events in it, in a directory without symbolic links. -/
structure BufferFile where
  directory : String
  name : String
  events : List MqttEvent

namespace BufferFile

def path (f : BufferFile) : String := f.directory ++ "/" ++ f.name

/-- The file is below this directory. -/
def isBelow (f : BufferFile) (directory : String) : Bool :=
  f.directory = directory || startsWith f.directory (directory ++ "/")

/-- The file is where a directory would have to be for this one to exist. -/
def blocks (f : BufferFile) (directory : String) : Bool :=
  f.path = directory || startsWith directory (f.path ++ "/")

end BufferFile

/-- The database files in the directory of a storage with this `data_file_path`. It reads them
    one after the other. -/
def dbFiles (realpath : String → String) (path : String) (files : List BufferFile) :
    List BufferFile :=
  files.filter fun f => f.directory = realpath (dirname path) && MqttPublisher.endsWith f.name ".db"

/-- `sort_db_files`. -/
def sortDbFiles (realpath : String → String) (path : String) (files : List BufferFile) :
    List String :=
  ((dbFiles realpath path files).map BufferFile.name).insertionSort (· ≤ ·)

/-- `__select_initial_db_files`: the database to read and the one to write. -/
def selectInitialDbFiles : List String → String × String
  | [] => ("data.db", "data.db")
  | [name] => if "data.db" < name then (name, name) else ("data.db", "data.db")
  | first :: name :: names => (first, (name :: names).getLast (by simp))

/-- `SQLiteEventStorage(...)`: a database that is not there is made. -/
def openStorage (realpath : String → String) (path : String) (files : List BufferFile) :
    List BufferFile :=
  let names := sortDbFiles realpath path files
  let (read, write) := selectInitialDbFiles names
  files ++ ([read, write].filter fun name => name ∉ names).dedup.map
    fun name => ⟨realpath (dirname path), name, []⟩

/-- `clear_claim_buffer` on the files. `stopped` says that no replay thread is left. -/
def clearClaimBuffer (realpath : String → String) (path : String) (stopped : Bool)
    (files : List BufferFile) : Py (List BufferFile) :=
  if !stopped then .error (.runtimeError "offline replay did not stop") else
  let storageDir := realpath path
  let dataRoot := realpath dataDir
  if !startsWith storageDir (dataRoot ++ "/") then
    .error (.runtimeError "unsafe SQLite storage directory")
  else
    let files := files.filter fun f => !f.isBelow storageDir
    -- `os.makedirs`
    if files.any fun f => f.blocks storageDir then .error .osError
    else .ok (openStorage realpath path files)

end Novena

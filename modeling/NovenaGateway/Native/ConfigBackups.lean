import Mathlib.Data.Char
import Mathlib.Data.List.Lex
import NovenaGateway.Native.RemoteConfig

/-!
# Backups of the configuration

`_create_backup` and `_prune_backups` of `RemoteConfigHandler`, with the backup directory they
write to. A backup is named after the second in which it is made, and the names are compared as
texts.
-/

namespace Novena

namespace RemoteConfigHandler

/-- `MAX_BACKUPS`. -/
def maxBackups : Nat := 10

/-- The files of the backup directory, in the order of `os.listdir`. -/
abbrev BackupDir := Dict String Json

/-- `f"config_backup_{ts}.json"`. -/
def backupName (ts : Int) : String := "config_backup_" ++ (toString ts ++ ".json")

/-- The files `_prune_backups` looks at. -/
def isBackupName (name : String) : Bool :=
  startsWith name "config_backup_" && ".json".toList.isSuffixOf name.toList

/-- `a <= b` for texts. -/
def textLe (a b : String) : Bool := decide (a.toList ≤ b.toList)

/-- The loop of `_prune_backups` over the sorted names. -/
def pruneLoop : List String → BackupDir → BackupDir
  | [], dir => dir
  | old :: names, dir =>
    if (old :: names).length > maxBackups then pruneLoop names (dir.erase old) else dir

/-- `_prune_backups`. -/
def pruneBackups (dir : BackupDir) : BackupDir :=
  pruneLoop (((dir.map Prod.fst).filter isBackupName).mergeSort textLe) dir

/-- `_create_backup`, where `int(time())` is `ts` and the configuration file holds `configFile`. A
    backup of the same name is overwritten. -/
def createBackup (configFile : Option Json) (ts : Int) (dir : BackupDir) : BackupDir :=
  match configFile with
  | none => dir
  | some config => pruneBackups (dir.set (backupName ts) config)

/-! ## Runs -/

/-- The gateway and its backup directory. -/
structure Backed where
  gateway : NovenaGateway
  dir : BackupDir
  /-- The last second the clock was read at. -/
  clock : Int
  /-- The applications so far, the last one first: the second of each, and the configuration file
      before it. Nothing reads it. -/
  applied : List (Int × Json)

/-- What can happen next. -/
inductive BackedLabel where
  /-- `_apply_config_with_rollback`, the backup being made in the second `ts`. -/
  | apply (ts : Int) (newConfig : Json) (outcomes rollbackOutcomes : Nat → StartOutcome)
  /-- Anything else that changes the gateway or its configuration file. -/
  | other (gateway : NovenaGateway)

/-- One of them. The clock does not go back. -/
def Backed.step (s : Backed) : BackedLabel → Option Backed
  | .apply ts newConfig outcomes rollbackOutcomes =>
    if s.clock ≤ ts then
      some {
        gateway := (applyConfigWithRollback s.gateway newConfig outcomes rollbackOutcomes).1
        dir := createBackup (some s.gateway.configFile) ts s.dir
        clock := ts
        applied := (ts, s.gateway.configFile) :: s.applied }
    else none
  | .other gateway => some { s with gateway }

/-- A gateway with an empty backup directory. -/
def Backed.init (gateway : NovenaGateway) (clock : Int) : Backed := ⟨gateway, [], clock, []⟩

end RemoteConfigHandler

end Novena

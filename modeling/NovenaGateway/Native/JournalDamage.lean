import NovenaGateway.Native.GovernedCommands

/-!
# A damaged command journal

What `_load` of `DurableCommandJournal` makes of a file that is at the journal's path and cannot be
read or parsed. Its `except` clause names `OSError` and `JSONDecodeError`, and returns an empty
state for both.
-/

namespace Novena

/-- What is wrong with the file. -/
inductive JournalDamage where
  /-- `open` or `read` raises. -/
  | osError
  /-- The text is no JSON document. -/
  | notJson
  /-- The bytes are no UTF-8: a `UnicodeDecodeError` with this message, which is a `ValueError`. -/
  | notUtf8 (message : String)

/-- `_load` of the file. -/
def DurableCommandJournal.loadDamaged : JournalDamage → Py JournalState
  | .osError | .notJson => .ok (load .unreadable)
  | .notUtf8 message => .error (.valueError message)

/-- `GovernedCommandGuard.__init__`, which builds the journal before it reads the policy. -/
def GovernedCommandGuard.initDamaged (cfg : GuardConfig) (policyFile : Option Json)
    (damage : JournalDamage) : Py GovernedCommandGuard :=
  match DurableCommandJournal.loadDamaged damage with
  | .error e => .error e
  | .ok state => (loadPolicy cfg policyFile).map fun policy =>
      { policy, policyFile, journal := ⟨state, .unreadable⟩ }

end Novena

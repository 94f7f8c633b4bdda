import Keyring.Proofs.CommandLine.Files
import Keyring.Proofs.CommandLine.Task
import Keyring.Proofs.Store.Reopening

/-!
# Runs on files

A run makes directories, opens a database, carries its command out on that, and keeps what has changed.
A command that fails leaves every file; what it leaves of the database that was opened is kept, and is
found again by the same name.  All other databases stay as they are.
-/

namespace Keyring

namespace Program

open ExceptT

variable {γ : Type} {view : FileTree → γ} {s : Surroundings} {invocation : Invocation}
  {config : StoreConfig} {d after : Database} {t t' : FileTree} {e : RunError}

/-! ### Preparing -/

/-- Whether a run goes by settings and opens the database in the file of a path, which stands at a
place. -/
def Opens (s : Surroundings) (invocation : Invocation) (t : FileTree) (settings : Settings)
    (path : String) (use : FileUse) (place : List String) (d : Database) : Prop :=
  ∃ config between opened,
    (prepare FileTree.access s invocation).outcome t = (.ok (config, .file path use), between) ∧
    Settings.ofConfig config = .ok settings ∧ between.databasePlace? path = some place ∧
    between.openDatabase path use = (some (some d), opened)

end Program

end Keyring

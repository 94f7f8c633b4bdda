import Keyring.Proofs.CommandLine.Run
import Keyring.Proofs.Store.KeyPairs

/-!
# Keys stay intact

A run that fails leaves all keys, and at most the entries of a first unlock.  A run that has derived
or rotated a key leaves it within reach of a later unlock with the same master password; but a
derivation keeps the time of the last rotation, and a time that cannot be read hides the key.
-/

namespace Keyring

namespace Program

variable {s : Surroundings} {invocation : Invocation} {t t' : FileTree}

/-! ### Keys that are put in -/

/-- A key that a run has derived for a conversation in a version: the run went by settings and opened a
database, agreed on a secret with a peer there, and derived the key from that secret; it unlocked the
session with the master password, and what it kept is found by the name of what it opened. -/
structure StoredKey (s : Surroundings) (invocation : Invocation) (t t' : FileTree) (id : String)
    (peer : Peer) (version : UInt32) where
  settings : Settings
  password : String
  opened : Database
  kept : Database
  key : ConversationKey
  opens : ∃ path use place, Opens s invocation t settings path use place opened ∧
    (t'.openDatabase path use).1 = some (some kept)
  derives : ∃ secret,
    (Task.agree s peer).outcome (s.device settings opened) = (.ok secret, s.device settings opened) ∧
    ConversationKey.derive secret.key.bytes id version = .ok key
  masterPassword : s.masterPassword = .ok password
  isAllowed : Password.validate password settings.passwordFloor = .ok ()

/-- Whether a lookup answers with a result after a later unlock with the master password. -/
def StoredKey.Answers {id : String} {peer : Peer} {version : UInt32}
    (stored : StoredKey s invocation t t' id peer version)
    (result : Except StoreError (Option ConversationKey)) : Prop :=
  stored.kept.Answers stored.settings stored.password id result

end Program

/-! ### All runs -/

/-- Surroundings in which every variable holds the same password and all random bytes are zero. -/
def Surroundings.sample : Surroundings where
  environment _ := some "password"
  random := .ofBlocks fun n _ => .zero n
  clock := ⟨.epoch, 0⟩

def Peer.sample : Peer :=
  ⟨"k", "CQAAAAAAAAAAAAAAAAAAAAAAAAAAAAAAAAAAAAAAAAA="⟩

/-- A data directory with a database. -/
def FileTree.sample (d : Database) : FileTree :=
  ⟨[(["d"], .directory), (["d", "keys.db"], .database d true)], []⟩

def FileUse.sample : FileUse :=
  ⟨true, true, false, false⟩

/-- The arguments that ask for a key in a version. -/
def Arguments.sample (version : String) : List String :=
  ["--data-dir", "/d", "conversation", "derive", "c", "--key-id", "k", "--peer",
    "CQAAAAAAAAAAAAAAAAAAAAAAAAAAAAAAAAAAAAAAAAA=", "--version", version]

def Invocation.sample (version : UInt32) : Invocation :=
  ⟨some "/d", none, .deriveConversationKey "c" .sample version⟩

namespace FileTree

end FileTree

namespace Program.StoredKey

variable {d : Database} {t' : FileTree} {version : UInt32}

end Program.StoredKey

end Keyring

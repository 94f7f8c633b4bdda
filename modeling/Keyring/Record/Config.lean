import Keyring.Record.Cost

/-!
# Configuration

What a store is configured with.  Every setting has a default.
-/

namespace Keyring

/-- The configuration of a store. -/
structure StoreConfig where
  /-- How keys are derived from passwords. -/
  kdf : KdfConfig
  /-- The least length of passwords; values below eight have no effect. -/
  minPasswordLength : UInt64
  /-- The idle seconds after which a session forgets its master key, or zero for never. -/
  autoLockSeconds : UInt64
deriving DecidableEq

namespace StoreConfig

/-- The default configuration. -/
def standard : StoreConfig := ⟨.standard, UInt64.ofNat Password.leastLength, 0⟩

/-- The least length of passwords that is in force. -/
def passwordFloor (c : StoreConfig) : Nat :=
  max c.minPasswordLength.toNat Password.leastLength

/-- The record. -/
def toJson (c : StoreConfig) : Json :=
  .object [("kdf", c.kdf.toJson), ("min_password_len", .nat c.minPasswordLength.toNat),
    ("auto_lock_secs", .nat c.autoLockSeconds.toNat)]

/-- The configuration of a record. -/
def ofJson? (j : Json) : Option StoreConfig := do
  let m ← j.members? ["kdf", "min_password_len", "auto_lock_secs"]
  return {
    kdf := ← m.defaulted "kdf" KdfConfig.ofJson? .standard
    minPasswordLength := ←
      m.defaulted "min_password_len" Json.uint64? standard.minPasswordLength
    autoLockSeconds := ← m.defaulted "auto_lock_secs" Json.uint64? standard.autoLockSeconds }

/-- The configuration that a text records. -/
def ofText? (s : String) : Option StoreConfig := Json.ofText? s >>= ofJson?

end StoreConfig

end Keyring

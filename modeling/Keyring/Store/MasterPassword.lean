import Keyring.Purpose
import Keyring.Sealed
import Keyring.Store.Device

/-!
# The master password

The first unlock fixes the master password: it writes a salt, the cost of the derivation, and
a known value sealed under the derived key.  Every later unlock derives a key in the same way
and must open that value.  Of two first unlocks at the same time, the one that writes first
wins.
-/

namespace Keyring

/-- What the metadata say about the master password. -/
structure MasterRecord where
  salt : Option String
  kdf : Option String
  params : Option String
  check : Option String
deriving DecidableEq

namespace MasterRecord

/-- The entry with the salt. -/
def saltKey : String := "master_key_salt"

/-- The entry with the name of the algorithm. -/
def kdfKey : String := "master_key_kdf"

/-- The entry with the cost. -/
def paramsKey : String := "master_key_kdf_params"

/-- The entry with the sealed value. -/
def checkKey : String := "master_key_check"

/-- The value that is sealed under the master key. -/
def checkText : Bytes := Bytes.utf8 "cipherkeep master key check"

/-- What the metadata of a database say. -/
def ofDatabase (d : Database) : MasterRecord :=
  ⟨d.metadata? saltKey, d.metadata? kdfKey, d.metadata? paramsKey, d.metadata? checkKey⟩

/-- The salt of an entry. -/
def decodeSalt (s : String) : Except StoreError Salt := do
  let b ← (Base64.decode s).mapError fun e => .format s!"master key salt: {e.message}"
  match Block.ofBytes? 16 b with
  | some salt => return salt
  | none => throw (.format "master key salt must be 16 bytes")

/-- The sealed value of an entry. -/
def decodeCheck (s : String) : Except StoreError Sealed := do
  let b ← (Base64.decode s).mapError fun e => .format s!"master key check: {e.message}"
  match Sealed.ofBytes b with
  | .ok sealed => return sealed
  | .error _ => throw (.format s!"master key check is truncated ({b.length} bytes)")

/-- The strategy with which the master key is derived. -/
def strategy (r : MasterRecord) (settings : Settings) : Except StoreError Strategy := do
  match r.kdf with
  | some kdf =>
    if kdf ≠ settings.strategy.algorithm.name then
      let configured := settings.strategy.algorithm.name
      throw (.format s!"master key was set up with {kdf}, store is configured for {configured}")
  | none => pure ()
  settings.strategyFor (← Row.readParams "the master key" r.params)

/-- The master key of a password, if the sealed value opens under it. -/
def openCheck (r : MasterRecord) (settings : Settings) (password : String) :
    Except StoreError Key := do
  let check ← match r.check with
    | some s => pure s
    | none => throw (.format "master key check missing")
  let salt ← match r.salt with
    | some s => pure s
    | none => throw (.format "master key check present without a salt")
  let salt ← decodeSalt salt
  let sealed ← decodeCheck check
  let strategy ← r.strategy settings
  let key := strategy.derive password salt
  match sealed.plaintext key Purpose.masterCheck.associatedData with
  | .ok _ => return key
  | .error _ => throw .decryption

end MasterRecord

namespace Database

/-- The database with the entries of a first unlock, as far as they are missing. -/
def addMaster (d : Database) (salt : Salt) (params : KdfParams) (check : String) : Database :=
  (((d.addMetadata MasterRecord.saltKey (Base64.encode salt.bytes)).addMetadata
    MasterRecord.kdfKey params.algorithm.name).addMetadata
    MasterRecord.paramsKey params.text).addMetadata MasterRecord.checkKey check

end Database

namespace Action

/-- A first unlock, on the ground of metadata read before: write salt, cost and sealed value,
and return the master key.  Nothing is written, and there is no key, when another sealed value
was written in the meantime. -/
def initialiseMaster (r : MasterRecord) (password : String) : Action (Option Key) := do
  let strategy ← ofResult (r.strategy (← settings))
  let salt ← match r.salt with
    | some s => ofResult (MasterRecord.decodeSalt s)
    | none => draw (Draw.block 16)
  let key := strategy.derive password salt
  let sealed ← draw <|
    Sealed.encrypt key MasterRecord.checkText Purpose.masterCheck.associatedData
  let check := Base64.encode sealed.toBytes
  let after := (← database).addMaster salt strategy.params check
  if after.metadata? MasterRecord.checkKey = some check then
    write fun _ => after
    return some key
  else
    return none

/-- Unlock the session with the master password, or set the master password if there is none
yet. -/
def unlock (password : String) : Action Unit := do
  validatePassword password
  let r := MasterRecord.ofDatabase (← database)
  if r.check.isNone then
    if let some key ← initialiseMaster r password then
      onSession (SessionAction.install key)
      return
  let r := MasterRecord.ofDatabase (← database)
  let key ← ofResult (r.openCheck (← settings) password)
  onSession (SessionAction.install key)

end Action

end Keyring

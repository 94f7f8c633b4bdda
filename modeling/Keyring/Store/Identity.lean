import Keyring.Agreement
import Keyring.Purpose
import Keyring.Record.PrivateKeyBlob
import Keyring.Sealed
import Keyring.Store.Device

/-!
# Identity key pairs

A key pair is stored under an id, its private half sealed under a key that is derived from a
password of its own with a fresh salt.  The cost of the derivation is stored with it, so that
the record opens whatever cost is configured later.
-/

namespace Keyring

namespace StoredKeyPair

/-- The record of a key pair, sealed with everything given. -/
def ofKeyPair (id : String) (pair : KeyPair) (params : KdfParams) (password : String)
    (salt : Salt) (iv : Gcm.Iv) (now : Instant) : StoredKeyPair :=
  let key := params.derive password salt
  let sealed := Sealed.ofPlaintext key iv (Purpose.keyPair id).associatedData pair.privateKey.bytes
  let blob : PrivateKeyBlob := ⟨salt, iv, sealed.ciphertext ++ sealed.tag.bytes⟩
  ⟨id, pair.publicBase64, blob.toBase64, params.algorithm, some params, now⟩

/-- The key pair of a record. -/
def toKeyPair (k : StoredKeyPair) (settings : Settings) (id password : String) :
    Except StoreError KeyPair := do
  let configured := settings.strategy.algorithm
  if k.kdf ≠ configured then
    throw (.format
      s!"key pair {id} was sealed with {k.kdf.name}, store is configured for {configured.name}")
  let blob ← (PrivateKeyBlob.ofBase64 k.encryptedPrivateKey).mapError .ofRecord
  let publicKey ← (Base64.decode k.publicKey).mapError fun e =>
    .format s!"public key of {id}: {e.message}"
  if blob.ciphertext.length < 16 then
    throw (.format s!"private key blob of {id} is truncated")
  let strategy ← settings.strategyFor k.kdfParams
  let size := blob.ciphertext.length - 16
  let opened := Sealed.plaintextOfParts (strategy.derive password blob.salt) blob.iv.bytes
    (blob.ciphertext.take size) (blob.ciphertext.drop size) (Purpose.keyPair id).associatedData
  let privateKey ← opened.mapError fun _ => .decryption
  (KeyPair.ofParts publicKey privateKey).mapError fun _ =>
    .format s!"public key of {id} does not match its private key"

end StoredKeyPair

namespace Action

/-- Seal a key pair under a password and store it under an id, in place of what is there. -/
def storeKeyPair (id : String) (pair : KeyPair) (password : String) : Action Unit := do
  if id.isEmpty then
    throw (.invalidInput "key pair id must not be empty")
  validatePassword password
  let salt ← draw (Draw.block 16)
  let iv ← draw (Draw.block 12)
  let record :=
    StoredKeyPair.ofKeyPair id pair (← settings).strategy.params password salt iv (← now)
  write fun d => d.putKeyPair (.ofRecord record)

/-- The record stored under an id. -/
def storedKeyPair (id : String) : Action (Option StoredKeyPair) := do
  match (← database).keyPair? id with
  | some row => return some (← ofResult row.toRecord)
  | none => return none

/-- The key pair stored under an id. -/
def loadKeyPair (id password : String) : Action (Option KeyPair) := do
  match ← storedKeyPair id with
  | some record => return some (← ofResult (record.toKeyPair (← settings) id password))
  | none => return none

/-- The outcome of looking for the key pair stored under an id. -/
def getKeyPair (id password : String) : StateM Device (Lookup KeyPair) :=
  lookup (loadKeyPair id password)

/-- Delete the key pair stored under an id, if there is one. -/
def deleteKeyPair (id : String) : Action Bool := do
  let found := ((← database).keyPair? id).isSome
  write fun d => d.eraseKeyPair id
  return found

/-- The ids of all key pairs, in the order of their creation. -/
def keyPairIds : Action (List String) := do
  return (← database).keyPairIds

/-- The public key in base64 that is stored under an id. -/
def exportPublicKey (id : String) : Action (Option String) := do
  return ((← database).keyPair? id).map KeyPairRow.publicKey

end Action

end Keyring

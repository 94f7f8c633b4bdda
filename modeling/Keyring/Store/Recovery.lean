import Keyring.Purpose
import Keyring.Sealed
import Keyring.Store.Device
import Keyring.Text.Quoted

/-!
# Backup and recovery

A backup holds the records of the whole store as they are: nothing in it is opened, and
neither passwords of key pairs nor the master password are needed.  Restoring merges the
records into the store: key pairs and conversation keys of the backup replace those of the
store, and of the log those rotations are added that the store does not know.
-/

namespace Keyring

namespace BackupPayload

/-- Refuse a key pair that the store could not keep. -/
def validateKeyPair (k : StoredKeyPair) : Except StoreError Unit := do
  if k.id.isEmpty then
    throw (.format "backup contains a key pair with an empty id")
  match k.kdfParams with
  | none => return
  | some p =>
    if p.algorithm ≠ k.kdf then
      throw (.format <| s!"key pair {k.id} names {k.kdf.name} but carries " ++
        s!"{p.algorithm.name} parameters")
    p.checkBounds.mapError fun e => .format s!"key pair {k.id}: {e.message}"

/-- Refuse a conversation key that the store could not keep. -/
def validateConversationKey (k : StoredConversationKey) : Except StoreError Unit :=
  if k.conversationId.isEmpty || k.version = 0 then
    .error (.format <| "backup contains an invalid conversation key row " ++
      s!"({Text.quoted k.conversationId} v{k.version.toNat})")
  else .ok ()

/-- Refuse a payload with records that the store could not keep. -/
def validate (p : BackupPayload) : Except StoreError Unit := do
  p.keyPairs.forM validateKeyPair
  p.conversationKeys.forM validateConversationKey

/-- The payload with the records of a database. -/
def ofDatabase (d : Database) (now : Instant) : Except StoreError BackupPayload := do
  if !d.isWellTyped then
    throw .database
  let keyPairs ← (Table.byId KeyPairRow.id d.keyPairs).mapM KeyPairRow.toRecord
  let conversationKeys ←
    (Table.byId ConversationKeyRow.conversationId d.conversationKeys).mapM
      ConversationKeyRow.toRecord
  let rotationHistory ← d.rotations.mapM RotationRow.toRecord
  return ⟨backupFormatVersion, now, keyPairs, conversationKeys, rotationHistory⟩

end BackupPayload

namespace EncryptedBackup

/-- The envelope of a payload, sealed with everything given. -/
def ofPayload (payload : Bytes) (params : KdfParams) (password : String) (salt : Salt)
    (iv : Gcm.Iv) (now : Instant) : EncryptedBackup :=
  let sealed := Sealed.ofPlaintext (params.derive password salt) iv
    Purpose.backup.associatedData payload
  .new (sealed.ciphertext ++ sealed.tag.bytes) iv salt params now

/-- The bytes of the payload. -/
def openPayload (b : EncryptedBackup) (settings : Settings) (password : String) :
    Except StoreError Bytes := do
  if b.version ≠ backupFormatVersion then
    throw (.unsupportedBackupVersion b.version)
  let configured := settings.strategy.algorithm
  if b.kdf ≠ configured then
    throw (.format
      s!"backup was sealed with {b.kdf.name}, store is configured for {configured.name}")
  let strategy ← settings.strategyFor b.kdfParams
  let salt ← b.saltBytes.mapError fun _ => .backupDecryption
  let iv ← b.ivBytes.mapError fun _ => .backupDecryption
  let data ← b.ciphertextBytes.mapError fun _ => .backupDecryption
  if data.length < 16 then
    throw .backupDecryption
  let size := data.length - 16
  (Sealed.plaintextOfParts (strategy.derive password salt) iv.bytes (data.take size)
    (data.drop size) Purpose.backup.associatedData).mapError fun _ => .backupDecryption

/-- The payload, of a format that can be read, with records that the store can keep. -/
def toPayload (b : EncryptedBackup) (settings : Settings) (password : String) :
    Except StoreError BackupPayload := do
  let bytes ← b.openPayload settings password
  let payload ← match BackupPayload.ofBytes? bytes with
    | some p => pure p
    | none => throw (.format "backup payload: ")
  if payload.formatVersion ≠ backupFormatVersion then
    throw (.unsupportedBackupVersion payload.formatVersion)
  payload.validate
  return payload

end EncryptedBackup

/-- How many records a recovery wrote. -/
structure RestoreSummary where
  keyPairs : Nat
  conversationKeys : Nat
  rotationRecords : Nat
deriving DecidableEq

namespace Database

/-- The database with a rotation added to the log, unless the log knows it. -/
def mergeRotation (d : Database) (r : RotationRecord) : Database :=
  (d.appendRotation? (.ofRecord r)).getD d

/-- The database with the records of a payload merged into it. -/
def merge (d : Database) (p : BackupPayload) : Database :=
  let d := p.keyPairs.foldl (fun d k => d.putKeyPair (.ofRecord k)) d
  let d := p.conversationKeys.foldl (fun d k => d.putConversationKey (.ofRecord k)) d
  p.rotationHistory.foldl mergeRotation d

end Database

namespace Action

/-- Seal the records of the whole store under a password. -/
def createBackup (password : String) : Action EncryptedBackup := do
  validatePassword password
  let payload ← ofResult (BackupPayload.ofDatabase (← database) (← now))
  let salt ← draw (Draw.block 16)
  let iv ← draw (Draw.block 12)
  return .ofPayload payload.toBytes (← settings).strategy.params password salt iv
    payload.createdAt

/-- Merge the records of a backup into the store. -/
def restoreBackup (backup : EncryptedBackup) (password : String) : Action RestoreSummary := do
  let payload ← ofResult (backup.toPayload (← settings) password)
  let before ← database
  write fun d => d.merge payload
  let after ← database
  return ⟨payload.keyPairs.length, payload.conversationKeys.length,
    after.rotations.length - before.rotations.length⟩

/-- Delete all key pairs, conversation keys and rotations.  The master password stays. -/
def clearAll : Action Unit :=
  write Database.clear

end Action

end Keyring

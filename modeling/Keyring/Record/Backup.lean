import Keyring.Cipher.Gcm
import Keyring.Json.Bytes
import Keyring.Record.Stored

/-!
# Backups

The payload of a backup holds the records of the whole store.  It is sealed under a password
and travels in an envelope that records everything but the password.
-/

namespace Keyring

/-- The format of backups that is written, and the only one that is read. -/
def backupFormatVersion : UInt32 := 1

/-- The records of a store. -/
structure BackupPayload where
  formatVersion : UInt32
  createdAt : Instant
  keyPairs : List StoredKeyPair
  conversationKeys : List StoredConversationKey
  rotationHistory : List RotationRecord
deriving DecidableEq

namespace BackupPayload

/-- Whether the payload holds no keys. -/
def isEmpty (p : BackupPayload) : Bool :=
  p.keyPairs.isEmpty && p.conversationKeys.isEmpty

/-- The record. -/
def toJson (p : BackupPayload) : Json :=
  .object [("formatVersion", .nat p.formatVersion.toNat), ("createdAt", p.createdAt.toJson),
    ("keyPairs", .array (p.keyPairs.map StoredKeyPair.toJson)),
    ("conversationKeys", .array (p.conversationKeys.map StoredConversationKey.toJson)),
    ("rotationHistory", .array (p.rotationHistory.map RotationRecord.toJson))]

/-- The payload of a record. -/
def ofJson? (j : Json) : Option BackupPayload := do
  let m ← j.members?
    ["formatVersion", "createdAt", "keyPairs", "conversationKeys", "rotationHistory"]
  return {
    formatVersion := ← m.required "formatVersion" Json.uint32?
    createdAt := ← m.required "createdAt" Instant.ofJson?
    keyPairs := ← m.required "keyPairs" (Json.list? (StoredKeyPair.ofJson? 2))
    conversationKeys := ←
      m.required "conversationKeys" (Json.list? StoredConversationKey.ofJson?)
    rotationHistory := ←
      m.defaulted "rotationHistory" (Json.list? RotationRecord.ofJson?) [] }

/-- The payload that a text records. -/
def ofText? (s : String) : Option BackupPayload := Json.ofText? s >>= ofJson?

/-- The bytes of the payload. -/
def toBytes (p : BackupPayload) : Bytes := Bytes.utf8 p.toJson.compact

/-- The payload of bytes. -/
def ofBytes? (b : Bytes) : Option BackupPayload := Json.ofBytes? b >>= ofJson?

end BackupPayload

/-- A sealed payload with what is needed to open it, but for the password. -/
structure EncryptedBackup where
  version : UInt32
  /-- The ciphertext followed by its tag. -/
  encryptedData : String
  iv : String
  salt : String
  createdAt : Instant
  kdf : KdfAlgorithm
  /-- The cost with which the key was derived, whatever the configured one is. -/
  kdfParams : Option KdfParams
deriving DecidableEq

namespace EncryptedBackup

/-- The envelope of a sealed payload. -/
def new (ciphertext : Bytes) (iv : Gcm.Iv) (salt : Salt) (params : KdfParams)
    (createdAt : Instant) : EncryptedBackup where
  version := backupFormatVersion
  encryptedData := Base64.encode ciphertext
  iv := Base64.encode iv.bytes
  salt := Base64.encode salt.bytes
  createdAt := createdAt
  kdf := params.algorithm
  kdfParams := some params

/-- The record; absent cost parameters are left out. -/
def toJson (b : EncryptedBackup) : Json :=
  .object <|
    [("version", .nat b.version.toNat), ("encryptedData", .string b.encryptedData),
      ("iv", .string b.iv), ("salt", .string b.salt), ("createdAt", b.createdAt.toJson),
      ("kdf", b.kdf.toJson)] ++
    (b.kdfParams.map fun p => ("kdfParams", p.toJson)).toList

/-- The envelope of a record. -/
def ofJson? (j : Json) : Option EncryptedBackup := do
  let m ← j.members? ["version", "encryptedData", "iv", "salt", "createdAt", "kdf", "kdfParams"]
  return {
    version := ← m.required "version" Json.uint32?
    encryptedData := ← m.required "encryptedData" Json.string?
    iv := ← m.required "iv" Json.string?
    salt := ← m.required "salt" Json.string?
    createdAt := ← m.required "createdAt" Instant.ofJson?
    kdf := ← m.defaulted "kdf" KdfAlgorithm.ofJson? .standard
    kdfParams := ← m.optional "kdfParams" (KdfParams.ofJson? 1) }

/-- The text of an envelope. -/
def text (b : EncryptedBackup) : String := b.toJson.pretty

/-- The envelope that a text records. -/
def ofText (s : String) : Except RecordError EncryptedBackup :=
  match Json.ofText? s >>= ofJson? with
  | some b => .ok b
  | none => .error .serialisation

/-- The bytes of a field in base64, of which there must be `n`. -/
def fixedField (n : Nat) (field s : String) : Except RecordError (Block n) := do
  let b ← (Base64.decode s).mapError .base64
  match Block.ofBytes? n b with
  | some k => return k
  | none => throw (.invalidField field s!"expected {n} bytes, got {b.length}")

/-- The ciphertext followed by its tag. -/
def ciphertextBytes (b : EncryptedBackup) : Except RecordError Bytes :=
  (Base64.decode b.encryptedData).mapError .base64

/-- The initialisation vector. -/
def ivBytes (b : EncryptedBackup) : Except RecordError Gcm.Iv :=
  fixedField 12 "iv" b.iv

/-- The salt of the password derivation. -/
def saltBytes (b : EncryptedBackup) : Except RecordError Salt :=
  fixedField 16 "salt" b.salt

end EncryptedBackup

end Keyring

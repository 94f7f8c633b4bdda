import Keyring.Instant.Column
import Keyring.Record.Backup
import Keyring.Store.IntegerCell

/-!
# Rows

The database keeps records as rows of texts and integers.  Every record has a row; a row has a
record only if its texts can be read and its integers lie in range.  Instants and integers are
read as such before anything else, and those of all rows that are read together before anything
else of any row.
-/

namespace Keyring

/-- A row of the table of key pairs. -/
structure KeyPairRow where
  id : String
  publicKey : String
  encryptedPrivateKey : String
  kdf : String
  /-- Absent in old rows. -/
  kdfParams : Option String
  createdAt : String
deriving DecidableEq

/-- A row of the table of conversation keys. -/
structure ConversationKeyRow where
  conversationId : String
  encryptedKey : String
  iv : String
  tag : String
  version : IntegerCell
  createdAt : String
  rotatedAt : Option String
deriving DecidableEq

/-- A row of the log of rotations. -/
structure RotationRow where
  conversationId : String
  oldVersion : IntegerCell
  newVersion : IntegerCell
  rotatedAt : String
  reason : String
deriving DecidableEq

namespace Row

/-- The instant of a column. -/
def readInstant (s : String) : Except StoreError Instant :=
  match Instant.ofColumn? s with
  | some t => .ok t
  | none => .error .database

/-- The instant of a column that may be absent. -/
def readInstant? : Option String → Except StoreError (Option Instant)
  | some s => (readInstant s).map some
  | none => .ok none

/-- The integer of a column. -/
def readInteger (c : IntegerCell) : Except StoreError Int :=
  match c.integer? with
  | some i => .ok i
  | none => .error .database

/-- The key version of a column, which must be positive and have at most 32 bits. -/
def readVersion (v : Int) : Except StoreError UInt32 :=
  if 1 ≤ v ∧ v < 4294967296 then .ok (UInt32.ofNat v.toNat)
  else .error (.format s!"bad key version {v}")

/-- The version before a rotation, which may be zero. -/
def readOldVersion (v : Int) : Except StoreError UInt32 :=
  if 0 ≤ v ∧ v < 4294967296 then .ok (UInt32.ofNat v.toNat)
  else .error (.format s!"bad old_version {v}")

/-- The cost parameters of a column that may be absent; `owner` names the row. -/
def readParams (owner : String) : Option String → Except StoreError (Option KdfParams)
  | some s =>
    match KdfParams.ofText? s with
    | some p => .ok (some p)
    | none => .error (.format s!"kdf parameters of {owner}: ")
  | none => .ok none

/-- Whether a column that may be absent can be read as an instant. -/
def isInstant? : Option String → Bool
  | some s => (Instant.ofColumn? s).isSome
  | none => true

end Row

namespace KeyPairRow

/-- Whether all instants can be read. -/
def isWellTyped (r : KeyPairRow) : Bool :=
  Row.isInstant? (some r.createdAt)

/-- The row of a record. -/
def ofRecord (k : StoredKeyPair) : KeyPairRow where
  id := k.id
  publicKey := k.publicKey
  encryptedPrivateKey := k.encryptedPrivateKey
  kdf := k.kdf.name
  kdfParams := k.kdfParams.map KdfParams.text
  createdAt := k.createdAt.storedText

/-- The record of a row. -/
def toRecord (r : KeyPairRow) : Except StoreError StoredKeyPair := do
  let createdAt ← Row.readInstant r.createdAt
  let kdf ← match KdfAlgorithm.ofName? r.kdf with
    | some a => pure a
    | none => throw (.format s!"unknown kdf '{r.kdf}' on key pair {r.id}")
  let kdfParams ← Row.readParams s!"key pair {r.id}" r.kdfParams
  return {
    id := r.id
    publicKey := r.publicKey
    encryptedPrivateKey := r.encryptedPrivateKey
    kdf := kdf
    kdfParams := kdfParams
    createdAt := createdAt }

end KeyPairRow

namespace ConversationKeyRow

/-- Whether all instants and integers can be read. -/
def isWellTyped (r : ConversationKeyRow) : Bool :=
  Row.isInstant? (some r.createdAt) && Row.isInstant? r.rotatedAt && r.version.integer?.isSome

/-- The row of a record. -/
def ofRecord (k : StoredConversationKey) : ConversationKeyRow where
  conversationId := k.conversationId
  encryptedKey := k.encryptedKey
  iv := k.iv
  tag := k.tag
  version := .integer k.version.toNat
  createdAt := k.createdAt.storedText
  rotatedAt := k.rotatedAt.map Instant.storedText

/-- The record of a row. -/
def toRecord (r : ConversationKeyRow) : Except StoreError StoredConversationKey := do
  let createdAt ← Row.readInstant r.createdAt
  let rotatedAt ← Row.readInstant? r.rotatedAt
  let version ← Row.readInteger r.version
  let version ← Row.readVersion version
  return {
    conversationId := r.conversationId
    encryptedKey := r.encryptedKey
    iv := r.iv
    tag := r.tag
    version := version
    createdAt := createdAt
    rotatedAt := rotatedAt }

end ConversationKeyRow

namespace RotationRow

/-- Whether all instants and integers can be read. -/
def isWellTyped (r : RotationRow) : Bool :=
  Row.isInstant? (some r.rotatedAt) && r.oldVersion.integer?.isSome &&
    r.newVersion.integer?.isSome

/-- The row of a record. -/
def ofRecord (r : RotationRecord) : RotationRow where
  conversationId := r.conversationId
  oldVersion := .integer r.oldVersion.toNat
  newVersion := .integer r.newVersion.toNat
  rotatedAt := r.rotatedAt.storedText
  reason := r.reason

/-- The record of a row. -/
def toRecord (r : RotationRow) : Except StoreError RotationRecord := do
  let rotatedAt ← Row.readInstant r.rotatedAt
  let oldVersion ← Row.readInteger r.oldVersion
  let newVersion ← Row.readInteger r.newVersion
  let oldVersion ← Row.readOldVersion oldVersion
  let newVersion ← Row.readVersion newVersion
  return {
    conversationId := r.conversationId
    oldVersion := oldVersion
    newVersion := newVersion
    rotatedAt := rotatedAt
    reason := r.reason }

end RotationRow

end Keyring

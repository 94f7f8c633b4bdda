import Keyring.Instant.Text
import Keyring.Record.Cost

/-!
# Records of the store

What the store shows of its rows: sealed key pairs, wrapped conversation keys, and the log of
rotations.  All bytes are in base64 and stay as they are, whether they can be decoded or not.
-/

namespace Keyring

namespace Instant

/-- The record of an instant. -/
def toJson (t : Instant) : Json := .string t.text

/-- The instant of a record. -/
def ofJson? (j : Json) : Option Instant := j.string? >>= ofText?

end Instant

/-- A value that may be absent, as `null` then. -/
def Json.ofOption {α : Type} (write : α → Json) : Option α → Json
  | some a => write a
  | none => .null

/-! ### Key pairs -/

/-- A key pair whose private half is sealed under a password. -/
structure StoredKeyPair where
  id : String
  publicKey : String
  /-- Salt, initialisation vector, ciphertext and tag. -/
  encryptedPrivateKey : String
  kdf : KdfAlgorithm
  /-- Absent in old records, which open with the configured cost. -/
  kdfParams : Option KdfParams
  createdAt : Instant
deriving DecidableEq

namespace StoredKeyPair

/-- The record; absent cost parameters are left out. -/
def toJson (k : StoredKeyPair) : Json :=
  .object <|
    [("id", .string k.id), ("publicKey", .string k.publicKey),
      ("encryptedPrivateKey", .string k.encryptedPrivateKey), ("kdf", k.kdf.toJson)] ++
    (k.kdfParams.map fun p => ("kdfParams", p.toJson)).toList ++
    [("createdAt", k.createdAt.toJson)]

/-- The key pair of a record that stands within `depth` arrays and objects. -/
def ofJson? (depth : Nat) (j : Json) : Option StoredKeyPair := do
  let m ← j.members? ["id", "publicKey", "encryptedPrivateKey", "kdf", "kdfParams", "createdAt"]
  return {
    id := ← m.required "id" Json.string?
    publicKey := ← m.required "publicKey" Json.string?
    encryptedPrivateKey := ← m.required "encryptedPrivateKey" Json.string?
    kdf := ← m.defaulted "kdf" KdfAlgorithm.ofJson? .standard
    kdfParams := ← m.optional "kdfParams" (KdfParams.ofJson? (depth + 1))
    createdAt := ← m.required "createdAt" Instant.ofJson? }

/-- The key pair that a text records. -/
def ofText? (s : String) : Option StoredKeyPair := Json.ofText? s >>= ofJson? 0

end StoredKeyPair

/-! ### Conversation keys -/

/-- Version and times of a conversation key. -/
structure ConversationKeyInfo where
  version : UInt32
  createdAt : Instant
  rotatedAt : Option Instant
deriving DecidableEq

namespace ConversationKeyInfo

/-- The record. -/
def toJson (k : ConversationKeyInfo) : Json :=
  .object [("version", .nat k.version.toNat), ("createdAt", k.createdAt.toJson),
    ("rotatedAt", Json.ofOption Instant.toJson k.rotatedAt)]

/-- Version and times of a record. -/
def ofJson? (j : Json) : Option ConversationKeyInfo := do
  let m ← j.members? ["version", "createdAt", "rotatedAt"]
  return {
    version := ← m.required "version" Json.uint32?
    createdAt := ← m.required "createdAt" Instant.ofJson?
    rotatedAt := ← m.nullableMember "rotatedAt" Instant.ofJson? }

/-- Version and times that a text records. -/
def ofText? (s : String) : Option ConversationKeyInfo := Json.ofText? s >>= ofJson?

end ConversationKeyInfo

/-- The key of a conversation, wrapped under the master key. -/
structure StoredConversationKey where
  conversationId : String
  encryptedKey : String
  iv : String
  tag : String
  version : UInt32
  createdAt : Instant
  rotatedAt : Option Instant
deriving DecidableEq

namespace StoredConversationKey

/-- Version and times. -/
def info (k : StoredConversationKey) : ConversationKeyInfo :=
  ⟨k.version, k.createdAt, k.rotatedAt⟩

/-- The record. -/
def toJson (k : StoredConversationKey) : Json :=
  .object [("conversationId", .string k.conversationId), ("encryptedKey", .string k.encryptedKey),
    ("iv", .string k.iv), ("tag", .string k.tag), ("version", .nat k.version.toNat),
    ("createdAt", k.createdAt.toJson), ("rotatedAt", Json.ofOption Instant.toJson k.rotatedAt)]

/-- The conversation key of a record. -/
def ofJson? (j : Json) : Option StoredConversationKey := do
  let m ← j.members?
    ["conversationId", "encryptedKey", "iv", "tag", "version", "createdAt", "rotatedAt"]
  return {
    conversationId := ← m.required "conversationId" Json.string?
    encryptedKey := ← m.required "encryptedKey" Json.string?
    iv := ← m.required "iv" Json.string?
    tag := ← m.required "tag" Json.string?
    version := ← m.required "version" Json.uint32?
    createdAt := ← m.required "createdAt" Instant.ofJson?
    rotatedAt := ← m.nullableMember "rotatedAt" Instant.ofJson? }

/-- The conversation key that a text records. -/
def ofText? (s : String) : Option StoredConversationKey := Json.ofText? s >>= ofJson?

end StoredConversationKey

/-! ### Rotations -/

/-- An entry of the log of rotations. -/
structure RotationRecord where
  conversationId : String
  oldVersion : UInt32
  newVersion : UInt32
  rotatedAt : Instant
  /-- Kept as given. -/
  reason : String
deriving DecidableEq

namespace RotationRecord

/-- The record. -/
def toJson (r : RotationRecord) : Json :=
  .object [("conversationId", .string r.conversationId), ("oldVersion", .nat r.oldVersion.toNat),
    ("newVersion", .nat r.newVersion.toNat), ("rotatedAt", r.rotatedAt.toJson),
    ("reason", .string r.reason)]

/-- The entry of a record. -/
def ofJson? (j : Json) : Option RotationRecord := do
  let m ← j.members? ["conversationId", "oldVersion", "newVersion", "rotatedAt", "reason"]
  return {
    conversationId := ← m.required "conversationId" Json.string?
    oldVersion := ← m.required "oldVersion" Json.uint32?
    newVersion := ← m.required "newVersion" Json.uint32?
    rotatedAt := ← m.required "rotatedAt" Instant.ofJson?
    reason := ← m.required "reason" Json.string? }

/-- The entry that a text records. -/
def ofText? (s : String) : Option RotationRecord := Json.ofText? s >>= ofJson?

end RotationRecord

end Keyring

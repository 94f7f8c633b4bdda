import Keyring.ConversationKey
import Keyring.Sealed
import Keyring.Store.Device

/-!
# Conversations

For each conversation the store keeps the key of one version, wrapped under the master key and
bound to conversation and version.  Storing never goes back to an older version.  A rotation
replaces the key by the one of the next version and is entered into the log.  Messages are
sealed under the key of their conversation.
-/

namespace Keyring

namespace StoredConversationKey

/-- The record of a conversation key that is already wrapped. -/
def ofSealed (id : String) (sealed : Sealed) (version : UInt32) (createdAt : Instant)
    (rotatedAt : Option Instant) : StoredConversationKey :=
  ⟨id, Base64.encode sealed.ciphertext, Base64.encode sealed.iv.bytes,
    Base64.encode sealed.tag.bytes, version, createdAt, rotatedAt⟩

/-- The `n` bytes of a field. -/
def decodeField (n : Nat) (field id s : String) : Except StoreError (Block n) := do
  let b ← (Base64.decode s).mapError fun e =>
    .format s!"{field} of conversation {id}: {e.message}"
  match Block.ofBytes? n b with
  | some k => return k
  | none =>
    throw (.format s!"{field} of conversation {id} must be {n} bytes, got {b.length}")

/-- The wrapped key of a record. -/
def toSealed (k : StoredConversationKey) : Except StoreError Sealed := do
  let id := k.conversationId
  let ciphertext ← (Base64.decode k.encryptedKey).mapError fun e =>
    .format s!"encrypted key of conversation {id}: {e.message}"
  let iv ← decodeField 12 "iv" id k.iv
  let tag ← decodeField 16 "tag" id k.tag
  return ⟨iv, ciphertext, tag⟩

end StoredConversationKey

namespace Action

/-! ### Keys -/

/-- The key of a conversation wrapped under the master key. -/
def wrapConversationKey (id : String) (key : ConversationKey) (version : UInt32) :
    Action Sealed := do
  let master ← onSession SessionAction.masterKey
  draw (Sealed.wrapKey master key.key (Purpose.conversationKey id version).associatedData)

/-- The version that is stored for a conversation. -/
def currentVersion (id : String) : Action (Option UInt32) := do
  match (← database).conversationKey? id with
  | some row => return some (← ofResult (Row.readInteger row.version >>= Row.readVersion))
  | none => return none

/-- Store a key for a conversation in a version that is not older than the stored one. -/
def storeConversationKey (id : String) (key : ConversationKey) (version : UInt32) :
    Action Unit := do
  onSession SessionAction.requireSet
  if id.isEmpty then
    throw (.invalidInput "conversation id must not be empty")
  if version = 0 then
    throw (.invalidInput "key versions start at 1")
  let sealed ← wrapConversationKey id key version
  match ← currentVersion id with
  | some current =>
    if version < current then
      throw (.invalidInput <| s!"conversation {id} is at version {current.toNat}, " ++
        s!"refusing to store version {version.toNat}")
  | none => pure ()
  let record := StoredConversationKey.ofSealed id sealed version (← now) none
  write fun d => d.updateConversationKey (.ofRecord record)

/-- The record stored for a conversation. -/
def storedConversationKey (id : String) : Action (Option StoredConversationKey) := do
  match (← database).conversationKey? id with
  | some row => return some (← ofResult row.toRecord)
  | none => return none

/-- Version and times of the key stored for a conversation. -/
def conversationKeyInfo (id : String) : Action (Option ConversationKeyInfo) := do
  return (← storedConversationKey id).map StoredConversationKey.info

/-- The key stored for a conversation. -/
def loadConversationKey (id : String) : Action (Option ConversationKey) := do
  onSession SessionAction.requireSet
  match ← storedConversationKey id with
  | none => return none
  | some record =>
    let sealed ← ofResult record.toSealed
    let master ← onSession SessionAction.masterKey
    let associated := (Purpose.conversationKey id record.version).associatedData
    match Sealed.unwrapKey master sealed associated with
    | .ok key => return some ⟨key⟩
    | .error _ => throw .decryption

/-- The outcome of looking for the key stored for a conversation. -/
def getConversationKey (id : String) : StateM Device (Lookup ConversationKey) :=
  lookup (loadConversationKey id)

/-- Delete the key stored for a conversation, if there is one.  The log is kept. -/
def deleteConversationKey (id : String) : Action Bool := do
  let found := ((← database).conversationKey? id).isSome
  write fun d => d.eraseConversationKey id
  return found

/-- The ids of all conversations with a key, in the order of the creation of the keys. -/
def conversationIds : Action (List String) := do
  return (← database).conversationIds

/-! ### Rotation -/

/-- The version after a version, unless that is the last one. -/
def nextVersion (v : UInt32) : Except StoreError UInt32 :=
  if v = 4294967295 then .error (.invalidInput "key version overflow") else .ok (v + 1)

/-- Replace the key of a conversation by the one of the next version, derived from a secret,
and enter the rotation into the log. -/
def rotateConversationKey (id : String) (secret : Bytes) (reason : String) :
    Action RotationRecord := do
  onSession SessionAction.requireSet
  transaction do
    let oldVersion := (← currentVersion id).getD 0
    let newVersion ← ofResult (nextVersion oldVersion)
    let key ← ofCrypto (ConversationKey.derive secret id newVersion)
    let sealed ← wrapConversationKey id key newVersion
    let now ← now
    let stored := StoredConversationKey.ofSealed id sealed newVersion now (some now)
    write fun d => d.updateConversationKey (.ofRecord stored)
    let record : RotationRecord := ⟨id, oldVersion, newVersion, now, reason⟩
    match (← database).appendRotation? (.ofRecord record) with
    | some after =>
      write fun _ => after
      return record
    | none => throw .database

/-- The rotations of a conversation, oldest first. -/
def rotationHistory (id : String) : Action (List RotationRecord) := do
  ofResult ((← database).history id)

/-! ### Messages -/

/-- The key stored for a conversation, which must be there. -/
def requireConversationKey (id : String) : Action ConversationKey := do
  match ← loadConversationKey id with
  | some key => return key
  | none => throw (.noConversationKey id)

/-- Seal a message in a conversation. -/
def sealMessage (id : String) (plaintext : Bytes) : Action Sealed := do
  let key ← requireConversationKey id
  draw (Sealed.encrypt key.key plaintext (Purpose.message id).associatedData)

/-- The plaintext of a message in a conversation. -/
def openMessage (id : String) (sealed : Sealed) : Action Bytes := do
  let key ← requireConversationKey id
  ofCrypto (sealed.plaintext key.key (Purpose.message id).associatedData)

end Action

end Keyring

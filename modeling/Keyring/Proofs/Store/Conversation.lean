import Keyring.Proofs.Action
import Keyring.Proofs.Checks
import Keyring.Store.Conversation
import Mathlib.Tactic.Use

/-!
# Operations on conversations

Storing and rotating put one row in the place of the row of the conversation, and only if the
session has a key in reach.  A rotation whose entry the log refuses leaves nothing behind.
-/

namespace Keyring

/-- The version of the key that is stored for a conversation, if there is one. -/
def Database.liveVersion? (d : Database) (id : String) : Except StoreError (Option UInt32) :=
  match d.conversationKey? id with
  | some row => (Row.readInteger row.version >>= Row.readVersion).map some
  | none => .ok none

/-- The key of a conversation in a version, wrapped under a master key. -/
def ConversationKey.wrapped (key : ConversationKey) (master : Key) (iv : Gcm.Iv) (id : String)
    (version : UInt32) : Sealed :=
  .ofPlaintext master iv (Purpose.conversationKey id version).associatedData key.key.bytes

/-- The key that a secret of 32 bytes gives for a conversation in a version. -/
def ConversationKey.derived (secret : Bytes) (id : String) (version : UInt32) : ConversationKey :=
  ⟨Hkdf.expandKey (Hkdf.extract (some salt) secret) (Purpose.derivationLabel id version)⟩

/-- A key can be derived from 32 bytes for a conversation that has an id. -/
theorem ConversationKey.derive_eq_ok_iff {secret : Bytes} {id : String} {version : UInt32}
    {key : ConversationKey} :
  derive secret id version = .ok key ↔
    secret.length = 32 ∧ id ≠ "" ∧ key = derived secret id version
  := by
  by_cases hs : secret.length = 32
  · by_cases hid : id = ""
    · simp [derive, hs, hid]
    · simp [derive, hs, hid, derived, @eq_comm _ _ key]
  · simp [derive, hs]

/-- Sealing takes one block of random bytes. -/
theorem Sealed.encrypt_apply (key : Key) (plaintext associated : Bytes) (random : RandomSource) :
  encrypt key plaintext associated random =
    (ofPlaintext key (random.next 12) associated plaintext, random.advance 12)
  := rfl

namespace Database

theorem appendRotation?_of_hasRotation {d : Database} (row : RotationRow)
    (h : d.hasRotation row.conversationId row.newVersion = true) :
  d.appendRotation? row = none
  := if_pos h

theorem appendRotation?_of_not_hasRotation {d : Database} (row : RotationRow)
    (h : d.hasRotation row.conversationId row.newVersion = false) :
  d.appendRotation? row = some { d with rotations := d.rotations ++ [row] }
  := by
  rw [appendRotation?, h]
  rfl

/-- The log has a row for a new version of a conversation if one of the rows of the conversation is for
it. -/
theorem hasRotation_eq_any_rotationsOf (d : Database) (id : String) (version : IntegerCell) :
  d.hasRotation id version = (d.rotationsOf id).any fun r => r.newVersion == version
  := List.any_filter.symm

/-- What is found for a conversation under a master key. -/
def openConversation (d : Database) (master : Key) (id : String) :
    Except StoreError (Option ConversationKey) :=
  match d.conversationKey? id with
  | none => .ok none
  | some row => do
    let record ← row.toRecord
    let sealed ← record.toSealed
    match Sealed.unwrapKey master sealed (Purpose.conversationKey id record.version).associatedData
    with
    | .ok key => return some ⟨key⟩
    | .error _ => throw .decryption

/-- The key that is found for a conversation under a master key, which must be there. -/
def requireConversation (d : Database) (master : Key) (id : String) :
    Except StoreError ConversationKey := do
  match ← d.openConversation master id with
  | some key => return key
  | none => throw (.noConversationKey id)

end Database

namespace Action

open ExceptT

variable {γ : Type} {id : String} {device after : Device} {master : Key}

/-! ### The session -/

theorem outcome_requireSet_of_key (h : device.key? = some master) :
  (onSession SessionAction.requireSet).outcome device =
    (.ok (), device.withHost device.settled)
  := by
  apply outcome_onSession_eq
  simp [h]

theorem outcome_requireSet_of_none (h : device.key? = none) :
  (onSession SessionAction.requireSet).outcome device =
    (.error .masterKeyNotSet, device.withHost device.settled)
  := by
  apply outcome_onSession_eq
  simp [h]

theorem outcome_masterKey_of_key (h : device.key? = some master) :
  (onSession SessionAction.masterKey).outcome device =
    (.ok master, device.withHost device.touched)
  := by
  apply outcome_onSession_eq
  rw [SessionAction.outcome_masterKey, h]

/-- A key is wrapped under the key in reach, with a fresh initialisation vector. -/
theorem outcome_wrapConversationKey (h : device.key? = some master) (id : String)
    (key : ConversationKey) (version : UInt32) :
  (wrapConversationKey id key version).outcome device =
    (.ok (key.wrapped master (device.random.next 12) id version),
      device.withHost (device.touched.drawn 12))
  := by
  rw [wrapConversationKey, outcome_bind_of_ok (outcome_masterKey_of_key h)]
  rfl

/-! ### Reading -/

@[simp]
theorem outcome_currentVersion (id : String) (device : Device) :
  (currentVersion id).outcome device = (device.database.liveVersion? id, device)
  := by
  rw [currentVersion, outcome_bind_of_ok (outcome_database device), Database.liveVersion?]
  rcases device.database.conversationKey? id with _ | row
  · rfl
  · dsimp only
    rcases Row.readInteger row.version >>= Row.readVersion with e | v
    · rw [outcome_bind_of_error (outcome_ofResult _ device)]
      rfl
    · rw [outcome_bind_of_ok (outcome_ofResult _ device)]
      rfl

/-- The version is read from the database, whatever has become of the session. -/
theorem outcome_currentVersion_of_ok {current? : Option UInt32}
    (h : device.database.liveVersion? id = .ok current?) (host : Host) :
  (currentVersion id).outcome (device.withHost host) = (.ok current?, device.withHost host)
  := by
  rw [outcome_currentVersion, Device.database_withHost, h]

theorem currentVersion_keeps (view : Device → γ) (id : String) :
  (currentVersion id).Keeps view
  := by
  intro device
  rw [outcome_currentVersion]

theorem wrapConversationKey_keeps_database (id : String) (key : ConversationKey)
    (version : UInt32) :
  (wrapConversationKey id key version).Keeps Device.database
  := by
  unfold wrapConversationKey
  apply (onSession_keeps_database _).bind
  intro master
  apply draw_keeps_database

theorem outcome_storedConversationKey (id : String) (device : Device) :
  (storedConversationKey id).outcome device =
    ((device.database.conversationKey? id).mapM ConversationKeyRow.toRecord, device)
  := by
  rw [storedConversationKey, outcome_bind_of_ok (outcome_database device)]
  rcases device.database.conversationKey? id with _ | row
  · rfl
  · rcases h : row.toRecord with e | k
    · simp [h]
      rfl
    · simp [h]
      rfl

theorem outcome_conversationKeyInfo (id : String) (device : Device) :
  (conversationKeyInfo id).outcome device =
    (((device.database.conversationKey? id).mapM ConversationKeyRow.toRecord).map
      (Option.map StoredConversationKey.info), device)
  := by
  have h := outcome_storedConversationKey id device
  rcases hr : (device.database.conversationKey? id).mapM ConversationKeyRow.toRecord with e | k?
  · rw [hr] at h
    exact outcome_bind_of_error h _
  · rw [hr] at h
    exact outcome_bind_of_ok h _

theorem outcome_rotationHistory (id : String) (device : Device) :
  (rotationHistory id).outcome device = (device.database.history id, device)
  := by
  rw [rotationHistory, outcome_bind_of_ok (outcome_database device), outcome_ofResult]

theorem storedConversationKey_keeps (view : Device → γ) (id : String) :
  (storedConversationKey id).Keeps view
  := by
  intro device
  rw [outcome_storedConversationKey]

theorem conversationKeyInfo_keeps (view : Device → γ) (id : String) :
  (conversationKeyInfo id).Keeps view
  := by
  intro device
  rw [outcome_conversationKeyInfo]

theorem loadConversationKey_keeps {view : Device → γ}
    (hrequire : (onSession SessionAction.requireSet).Keeps view)
    (hmaster : (onSession SessionAction.masterKey).Keeps view) (id : String) :
  (loadConversationKey id).Keeps view
  := by
  unfold loadConversationKey
  apply hrequire.bind
  intro _
  apply (storedConversationKey_keeps _ id).bind
  intro record?
  rcases record? with _ | record
  · apply keeps_pure
  · apply (ofResult_keeps _).bind
    intro sealed
    apply hmaster.bind
    intro master
    dsimp only
    split
    · apply keeps_pure
    · apply keeps_throw

theorem loadConversationKey_keeps_database (id : String) :
  (loadConversationKey id).Keeps Device.database
  := loadConversationKey_keeps (onSession_keeps_database _) (onSession_keeps_database _) id

/-- Looking for a key takes no random bytes. -/
theorem loadConversationKey_keeps_random (id : String) :
  (loadConversationKey id).Keeps fun device => device.random
  := by
  apply loadConversationKey_keeps
  · intro device
    rw [outcome_onSession, SessionAction.outcome_requireSet]
    rfl
  · intro device
    rw [outcome_onSession, SessionAction.outcome_masterKey]
    rcases device.key? with _ | key
    · rfl
    · rfl

/-- What is stored for a conversation opens under the key in reach or it does not, whatever else
there is on the device. -/
theorem outcome_loadConversationKey (h : device.key? = some master) (id : String) :
  ((loadConversationKey id).outcome device).1 = device.database.openConversation master id
  := by
  have hrequire := outcome_requireSet_of_key h
  have hsettled : (device.withHost device.settled).key? = some master := by simpa using h
  have hkey := outcome_masterKey_of_key hsettled
  rw [loadConversationKey, outcome_bind_of_ok hrequire, storedConversationKey]
  simp only [Database.openConversation]
  rcases hrow : device.database.conversationKey? id with _ | row
  · simp [outcome_bind, hrow]
  · rcases hrecord : row.toRecord with e | record
    · simp [outcome_bind, hrow, hrecord]
    · rcases hsealed : record.toSealed with e | sealed
      · simp [outcome_bind, hrow, hrecord, hsealed]
      · simp only [outcome_bind, outcome_database, outcome_ofResult, outcome_pure,
          Device.database_withHost, hrow, hrecord, hsealed, hkey, Except.ok_bind]
        rcases Sealed.unwrapKey master sealed
          (Purpose.conversationKey id record.version).associatedData with e | key
        · rw [outcome_throw]
          rfl
        · rw [outcome_pure]
          rfl

theorem conversationIds_keeps (view : Device → γ) :
  conversationIds.Keeps view
  := fun _ => rfl

theorem rotationHistory_keeps (view : Device → γ) (id : String) :
  (rotationHistory id).Keeps view
  := by
  intro device
  rw [outcome_rotationHistory]

theorem requireConversationKey_keeps {view : Device → γ} {id : String}
    (h : (loadConversationKey id).Keeps view) :
  (requireConversationKey id).Keeps view
  := by
  unfold requireConversationKey
  apply h.bind
  intro key?
  rcases key? with _ | key
  · apply keeps_throw
  · apply keeps_pure

theorem requireConversationKey_keeps_database (id : String) :
  (requireConversationKey id).Keeps Device.database
  := requireConversationKey_keeps (loadConversationKey_keeps_database id)

theorem sealMessage_keeps_database (id : String) (plaintext : Bytes) :
  (sealMessage id plaintext).Keeps Device.database
  := by
  unfold sealMessage
  apply (requireConversationKey_keeps_database id).bind
  intro key
  apply draw_keeps_database

theorem openMessage_keeps_database (id : String) (sealed : Sealed) :
  (openMessage id sealed).Keeps Device.database
  := by
  unfold openMessage
  apply (requireConversationKey_keeps_database id).bind
  intro key
  apply ofCrypto_keeps

/-- The key of a conversation is at hand if it is stored and opens under the key in reach. -/
theorem outcome_requireConversationKey (h : device.key? = some master) (id : String) :
  ((requireConversationKey id).outcome device).1 = device.database.requireConversation master id
  := by
  rw [requireConversationKey, Database.requireConversation, ← outcome_loadConversationKey h,
    outcome_bind]
  rcases (loadConversationKey id).outcome device with ⟨e | _ | key, after⟩
  · rfl
  · rfl
  · rfl

/-- A message is sealed under the key of its conversation, with a fresh initialisation vector. -/
theorem outcome_sealMessage (h : device.key? = some master) (id : String) (plaintext : Bytes) :
  ((sealMessage id plaintext).outcome device).1 =
    (device.database.requireConversation master id).map fun key =>
      .ofPlaintext key.key (device.random.next 12) (Purpose.message id).associatedData plaintext
  := by
  have hrandom := requireConversationKey_keeps (loadConversationKey_keeps_random id) device
  rw [sealMessage, ← outcome_requireConversationKey h, outcome_bind]
  rcases hr : (requireConversationKey id).outcome device with ⟨e | key, after⟩
  · rfl
  · rw [hr] at hrandom
    dsimp only at hrandom ⊢
    rw [outcome_draw, hrandom, Sealed.encrypt_apply]
    rfl

/-- A sealed message is opened with the key of its conversation. -/
theorem outcome_openMessage (h : device.key? = some master) (id : String) (sealed : Sealed) :
  ((openMessage id sealed).outcome device).1 =
    device.database.requireConversation master id >>= fun key =>
      (sealed.plaintext key.key (Purpose.message id).associatedData).mapError StoreError.ofCrypto
  := by
  rw [openMessage, ← outcome_requireConversationKey h, outcome_bind]
  rcases (requireConversationKey id).outcome device with ⟨e | key, after⟩
  · rfl
  · dsimp only
    rw [outcome_ofCrypto, Except.ok_bind]

/-! ### Storing -/

theorem storeConversationKey_isAtomic (id : String) (key : ConversationKey) (version : UInt32) :
  (storeConversationKey id key version).IsAtomic Device.database
  := by
  simp only [storeConversationKey, throw_bind]
  apply (onSession_keeps_database _).bind_isAtomic
  intro _
  apply IsAtomic.guard
  apply IsAtomic.guard
  apply (wrapConversationKey_keeps_database id key version).bind_isAtomic
  intro sealed
  apply (currentVersion_keeps _ id).bind_isAtomic
  intro current?
  rcases current? with _ | current
  · apply now_keeps.bind_isAtomic
    intro now
    apply write_isAtomic
  · apply IsAtomic.guard
    apply now_keeps.bind_isAtomic
    intro now
    apply write_isAtomic

/-- What comes of storing a key with a master key in reach. -/
theorem outcome_storeConversationKey (hk : device.key? = some master) {current? : Option UInt32}
    (hv : device.database.liveVersion? id = .ok current?) (key : ConversationKey)
    (version : UInt32) :
  (storeConversationKey id key version).outcome device =
    if id = "" then
      (.error (.invalidInput "conversation id must not be empty"), device.withHost device.settled)
    else if version = 0 then
      (.error (.invalidInput "key versions start at 1"), device.withHost device.settled)
    else if version < current?.getD 0 then
      (.error (.invalidInput <|
          s!"conversation {id} is at version {(current?.getD 0).toNat}, " ++
          s!"refusing to store version {version.toNat}"),
        device.withHost (device.touched.drawn 12))
    else
      (.ok (), { device.withHost (device.touched.drawn 12) with
        database := device.database.updateConversationKey <| .ofRecord <|
          .ofSealed id (key.wrapped master (device.random.next 12) id version) version
            device.clock.wall none })
  := by
  have hsettled : (device.withHost device.settled).key? = some master := by simpa using hk
  have hw : (wrapConversationKey id key version).outcome (device.withHost device.settled) =
      (.ok (key.wrapped master (device.random.next 12) id version),
        device.withHost (device.touched.drawn 12)) := by
    simpa using outcome_wrapConversationKey hsettled id key version
  simp only [storeConversationKey, throw_bind]
  -- The key is wrapped before the stored version is read: even a version that is refused has taken
  -- random bytes.
  rw [outcome_bind_of_ok (outcome_requireSet_of_key hk), outcome_ite, outcome_ite,
    outcome_bind_of_ok hw, outcome_bind_of_ok (outcome_currentVersion_of_ok hv _)]
  by_cases hid : id = ""
  · simp [hid]
  by_cases hversion : version = 0
  · simp [hid, hversion]
  rcases current? with _ | current
  · simp [hid, hversion, outcome_bind]
  · by_cases hlt : version < current
    · simp [hid, hversion, hlt]
    · simp [hid, hversion, hlt, outcome_bind]

/-- A key is stored if there is a master key, the conversation has an id, and the version is at
least one and not older than the stored one. -/
theorem storeConversationKey_eq_ok_iff {key : ConversationKey} {version : UInt32} :
  (storeConversationKey id key version).outcome device = (.ok (), after) ↔
    ∃ master current?, device.key? = some master ∧ id ≠ "" ∧ version ≠ 0 ∧
      device.database.liveVersion? id = .ok current? ∧ (∀ current ∈ current?, current ≤ version) ∧
      after = { device.withHost (device.touched.drawn 12) with
        database := device.database.updateConversationKey <| .ofRecord <|
          .ofSealed id (key.wrapped master (device.random.next 12) id version) version
            device.clock.wall none }
  := by
  simp only [storeConversationKey, throw_bind]
  rcases hk : device.key? with _ | master
  · rw [outcome_bind_of_error (outcome_requireSet_of_none hk)]
    simp
  · rw [outcome_bind_of_ok (outcome_requireSet_of_key hk), outcome_guard_eq_ok_iff,
      outcome_guard_eq_ok_iff]
    have hsettled : (device.withHost device.settled).key? = some master := by simpa using hk
    rw [outcome_bind_of_ok (outcome_wrapConversationKey hsettled id key version)]
    rcases hv : device.database.liveVersion? id with e | current?
    · simp [outcome_bind_eq_ok_iff, hv]
    · rcases current? with _ | current
      · simp [outcome_bind_eq_ok_iff, hv, @eq_comm _ _ after, and_assoc]
      · simp [outcome_bind_eq_ok_iff, hv, outcome_guard_eq_ok_iff, @eq_comm _ _ after, and_assoc]

@[simp]
theorem outcome_deleteConversationKey (id : String) (device : Device) :
  (deleteConversationKey id).outcome device =
    (.ok (device.database.conversationKey? id).isSome,
      { device with database := device.database.eraseConversationKey id })
  := rfl

/-! ### Rotation -/

theorem rotateConversationKey_isAtomic (id : String) (secret : Bytes) (reason : String) :
  (rotateConversationKey id secret reason).IsAtomic Device.database
  := by
  unfold rotateConversationKey
  apply (onSession_keeps_database _).bind_isAtomic
  intro _
  apply transaction_isAtomic

/-- What is stored for a conversation after a rotation. -/
def rotatedRecord (device : Device) (master : Key) (id : String) (key : ConversationKey)
    (version : UInt32) : StoredConversationKey :=
  .ofSealed id (key.wrapped master (device.random.next 12) id version) version
    device.clock.wall (some device.clock.wall)

/-- The entry of a rotation in the log. -/
def rotationRecord (device : Device) (id : String) (old new : UInt32) (reason : String) :
    RotationRecord :=
  ⟨id, old, new, device.clock.wall, reason⟩

/-- A rotation for which everything is at hand depends on the log alone: it succeeds unless the
log has the new version of the conversation already. -/
theorem outcome_rotateConversationKey (reason : String) {secret : Bytes} {current? : Option UInt32}
    {new : UInt32} {key : ConversationKey} (hk : device.key? = some master)
    (hv : device.database.liveVersion? id = .ok current?)
    (hn : nextVersion (current?.getD 0) = .ok new)
    (hd : ConversationKey.derive secret id new = .ok key) :
  (rotateConversationKey id secret reason).outcome device =
    let record := rotationRecord device id (current?.getD 0) new reason
    if device.database.hasRotation id (.integer new.toNat) then
      (.error .database, device.withHost (device.touched.drawn 12))
    else
      (.ok record, { device.withHost (device.touched.drawn 12) with
        database :=
          { device.database.updateConversationKey
              (.ofRecord (rotatedRecord device master id key new)) with
            rotations := device.database.rotations ++ [.ofRecord record] } })
  := by
  have hsettled : (device.withHost device.settled).key? = some master := by simpa using hk
  have hw := outcome_wrapConversationKey hsettled id key new
  rw [rotateConversationKey, outcome_bind_of_ok (outcome_requireSet_of_key hk),
    outcome_transaction, outcome_bind_of_ok (outcome_currentVersion_of_ok hv _),
    outcome_bind_of_ok (outcome_ofResult_of_ok hn _), outcome_bind_of_ok (outcome_ofCrypto_of_ok hd _),
    outcome_bind_of_ok hw, outcome_bind_of_ok (outcome_now _),
    outcome_bind_of_ok (outcome_write _ _), outcome_bind_of_ok (outcome_database _)]
  -- The new row is written before the log is asked, and stays only if the log takes its entry.
  rcases h : device.database.hasRotation id (.integer new.toNat) with _ | _
  · have ha := Database.appendRotation?_of_not_hasRotation
      (d := device.database.updateConversationKey
        (.ofRecord (rotatedRecord device master id key new)))
      (.ofRecord (rotationRecord device id (current?.getD 0) new reason)) h
    simp only [rotatedRecord, rotationRecord] at ha
    simp [rotatedRecord, rotationRecord, ha]
    exact ⟨rfl, rfl⟩
  · have ha := Database.appendRotation?_of_hasRotation
      (d := device.database.updateConversationKey
        (.ofRecord (rotatedRecord device master id key new)))
      (.ofRecord (rotationRecord device id (current?.getD 0) new reason)) h
    simp only [rotatedRecord, rotationRecord] at ha
    simp [ha]
    rfl

/-- A rotation that the log refuses has only taken random bytes. -/
theorem outcome_rotateConversationKey_of_hasRotation (reason : String) {secret : Bytes}
    {current? : Option UInt32} {new : UInt32} {key : ConversationKey}
    (hk : device.key? = some master) (hv : device.database.liveVersion? id = .ok current?)
    (hn : nextVersion (current?.getD 0) = .ok new)
    (hd : ConversationKey.derive secret id new = .ok key)
    (hlog : device.database.hasRotation id (.integer new.toNat) = true) :
  (rotateConversationKey id secret reason).outcome device =
    (.error .database, device.withHost (device.touched.drawn 12))
  := by
  rw [outcome_rotateConversationKey reason hk hv hn hd]
  apply if_pos hlog

/-- The version after a version of a conversation, and the key that a secret gives for it. -/
def nextKey (id : String) (secret : Bytes) (old : UInt32) :
    Except StoreError (UInt32 × ConversationKey) := do
  let new ← nextVersion old
  let key ← (ConversationKey.derive secret id new).mapError StoreError.ofCrypto
  return (new, key)

theorem nextKey_eq_ok_iff {secret : Bytes} {old new : UInt32} {key : ConversationKey} :
  nextKey id secret old = .ok (new, key) ↔
    nextVersion old = .ok new ∧ ConversationKey.derive secret id new = .ok key
  := by
  rw [nextKey, Except.bind_eq_ok_iff]
  constructor
  · rintro ⟨new, hn, h⟩
    obtain ⟨key, hd, h⟩ := Except.bind_eq_ok_iff.1 h
    cases h
    exact ⟨hn, Except.mapError_eq_ok_iff.1 hd⟩
  · rintro ⟨hn, hd⟩
    exact ⟨new, hn, Except.bind_eq_ok_iff.2 ⟨key, Except.mapError_eq_ok_iff.2 hd, rfl⟩⟩

/-- A rotation fails where there is no next key. -/
theorem outcome_rotateConversationKey_of_error (reason : String) {secret : Bytes}
    {current? : Option UInt32} {e : StoreError} (hk : device.key? = some master)
    (hv : device.database.liveVersion? id = .ok current?)
    (h : nextKey id secret (current?.getD 0) = .error e) :
  ((rotateConversationKey id secret reason).outcome device).1 = .error e
  := by
  rw [rotateConversationKey, outcome_bind_of_ok (outcome_requireSet_of_key hk), outcome_transaction,
    outcome_bind_of_ok (outcome_currentVersion_of_ok hv _)]
  dsimp only
  rcases hn : nextVersion (current?.getD 0) with e' | new
  · rw [nextKey, hn] at h
    cases h
    rw [outcome_bind_of_error (outcome_ofResult _ _)]
  · rw [nextKey, hn, Except.ok_bind] at h
    rw [outcome_bind_of_ok (outcome_ofResult _ _)]
    rcases hd : ConversationKey.derive secret id new with e' | key
    · rw [hd] at h
      cases h
      rw [outcome_bind_of_error (outcome_ofCrypto _ _)]
    · rw [hd] at h
      cases h

/-- A rotation that succeeds had everything at hand. -/
theorem rotateConversationKey_eq_ok {secret : Bytes} {reason : String} {record : RotationRecord}
    (h : (rotateConversationKey id secret reason).outcome device = (.ok record, after)) :
  ∃ master current? new key, device.key? = some master ∧
    device.database.liveVersion? id = .ok current? ∧
    nextVersion (current?.getD 0) = .ok new ∧ ConversationKey.derive secret id new = .ok key ∧
    device.database.hasRotation id (.integer new.toNat) = false ∧
    record = rotationRecord device id (current?.getD 0) new reason ∧
    after.database =
      { device.database.updateConversationKey
          (.ofRecord (rotatedRecord device master id key new)) with
        rotations := device.database.rotations ++ [.ofRecord record] }
  := by
  rcases hk : device.key? with _ | master
  · rw [rotateConversationKey, outcome_bind_of_error (outcome_requireSet_of_none hk)] at h
    cases h
  have h' := h
  rw [rotateConversationKey, outcome_bind_of_ok (outcome_requireSet_of_key hk),
    outcome_transaction_eq_ok_iff] at h'
  obtain ⟨current?, s₁, hv, h'⟩ := outcome_bind_eq_ok_iff.1 h'
  rw [outcome_currentVersion, Prod.mk.injEq] at hv
  obtain ⟨hv, rfl⟩ := hv
  obtain ⟨new, s₂, hn, h'⟩ := outcome_bind_eq_ok_iff.1 h'
  rw [outcome_ofResult, Prod.mk.injEq] at hn
  obtain ⟨hn, rfl⟩ := hn
  obtain ⟨key, s₃, hd, -⟩ := outcome_bind_eq_ok_iff.1 h'
  rw [outcome_ofCrypto, Prod.mk.injEq] at hd
  replace hd := hd.1
  rcases hkey : ConversationKey.derive secret id new with e | key'
  · rw [hkey] at hd
    cases hd
  rw [outcome_rotateConversationKey reason hk hv hn hkey] at h
  use master, current?, new, key'
  rcases hr : device.database.hasRotation id (.integer new.toNat) with _ | _
  · simp only [hr] at h
    obtain ⟨hrecord, rfl⟩ := Prod.mk.inj h
    cases hrecord
    exact ⟨rfl, hv, hn, hkey, rfl, rfl, rfl⟩
  · simp only [hr] at h
    cases h

end Action

end Keyring

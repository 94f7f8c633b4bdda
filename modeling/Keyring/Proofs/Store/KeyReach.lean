import Keyring.Proofs.Store.AutoLock
import Keyring.Proofs.Store.Operation

/-!
# Operations and the key in reach

An operation of the store that needs a key fails where none is in reach, before it does anything else.
Where one is in reach, the operation sees nothing else of the session: it does the same with every
session in which this key is in reach.  What it leaves of the session is the session itself, as it is
once it noticed that its key expired, or with the idle time starting anew.  Of the database, an operation
that names a conversation sees the key and the rotations of that conversation.
-/

namespace Keyring

/-! ### Sessions that are used -/

namespace Session

/-- Whether a session was handled in a moment: it may have noticed that its key expired, and its key
may have been taken. -/
inductive IsHandled (s : Session) (now : Nat) : Session → Prop where
  | kept : IsHandled s now s
  | noticed : IsHandled s now (s.settle now)
  | taken : IsHandled s now ((s.settle now).touch now)

variable {s s' : Session} {now : Nat}

theorem IsHandled.settle (h : s.IsHandled now s') :
  s.IsHandled now (s'.settle now)
  := by
  cases h with
  | kept => exact .noticed
  | noticed =>
    rw [settle_settle]
    exact .noticed
  | taken =>
    rw [settle_touch]
    exact .taken

theorem IsHandled.touch_settle (h : s.IsHandled now s') :
  s.IsHandled now ((s'.settle now).touch now)
  := by
  cases h with
  | kept => exact .taken
  | noticed =>
    rw [settle_settle]
    exact .taken
  | taken =>
    rw [settle_touch, touch_touch]
    exact .taken

/-- The key in reach stays the same. -/
theorem IsHandled.key?_eq (h : s.IsHandled now s') :
  (s'.settle now).held.map HeldKey.key = (s.settle now).held.map HeldKey.key
  := by
  cases h with
  | kept => rfl
  | noticed => rw [settle_settle]
  | taken =>
    rw [settle_touch, touch, Option.map_map]
    rfl

end Session

/-- Whether two devices differ in nothing but their databases, which are alike, and their sessions, in
which the same key is in reach; and the first one has the settings and the clocks of a device at the
beginning, of which the session was handled. -/
structure Device.Alike (A : Database → Database → Prop) (start d d' : Device) : Prop where
  random_eq : d'.random = d.random
  clock_eq : d'.clock = d.clock
  settings_eq : d'.settings = d.settings
  key?_eq : d'.key? = d.key?
  database : A d.database d'.database
  clock_eq_start : d.clock = start.clock
  settings_eq_start : d.settings = start.settings
  isHandled : start.session.IsHandled d.clock.monotonic d.session

/-- The key in reach is the one at the beginning. -/
theorem Device.Alike.key?_eq_start {A : Database → Database → Prop} {start d d' : Device}
    (h : Alike A start d d') :
  d.key? = start.key?
  := by
  rw [Host.key?, Host.key?, ← h.clock_eq_start]
  exact h.isHandled.key?_eq

/-! ### Databases that are alike -/

namespace Database

/-- Whether databases that are alike have the same key and the same rotations of a conversation, and
stay alike where the same is written for it. -/
structure IsLikeness (A : Database → Database → Prop) (id : String) : Prop where
  conversationKey?_eq {d d' : Database} (h : A d d') : d'.conversationKey? id = d.conversationKey? id
  rotationsOf_eq {d d' : Database} (h : A d d') : d'.rotationsOf id = d.rotationsOf id
  updateConversationKey {d d' : Database} (h : A d d') {row : ConversationKeyRow}
    (hrow : row.conversationId = id) : A (d.updateConversationKey row) (d'.updateConversationKey row)
  eraseConversationKey {d d' : Database} (h : A d d') :
    A (d.eraseConversationKey id) (d'.eraseConversationKey id)
  appendRotation {d d' : Database} (h : A d d') {row : RotationRow} (hrow : row.conversationId = id) :
    A { d with rotations := d.rotations ++ [row] } { d' with rotations := d'.rotations ++ [row] }

theorem isLikeness_eq (id : String) :
  IsLikeness Eq id
  := by
  constructor
  · rintro d _ rfl
    rfl
  · rintro d _ rfl
    rfl
  · rintro d _ rfl row -
    rfl
  · rintro d _ rfl
    rfl
  · rintro d _ rfl row -
    rfl

theorem IsLikeness.hasRotation_eq {A : Database → Database → Prop} {id : String}
    (hA : IsLikeness A id) {d d' : Database} (h : A d d') (version : IntegerCell) :
  d'.hasRotation id version = d.hasRotation id version
  := by
  rw [hasRotation_eq_any_rotationsOf, hA.rotationsOf_eq h, ← hasRotation_eq_any_rotationsOf]

end Database

/-! ### What is seen of a device -/

namespace Action

open ExceptT

variable {α : Type} {A : Database → Database → Prop} {start : Device}

theorem respects_ofResult {R : Device → Device → Prop} (r : Except StoreError α) :
  (ofResult r).Respects R
  := by
  intro d d' h
  rw [outcome_ofResult, outcome_ofResult]
  exact ⟨rfl, h⟩

theorem respects_ofCrypto {R : Device → Device → Prop} (r : Except CryptoError α) :
  (ofCrypto r).Respects R
  := respects_ofResult _

theorem respects_now :
  Action.now.Respects (Device.Alike A start)
  := by
  intro d d' h
  rw [outcome_now, outcome_now, h.clock_eq]
  exact ⟨rfl, h⟩

theorem respects_settings :
  settings.Respects (Device.Alike A start)
  := by
  intro d d' h
  rw [outcome_settings, outcome_settings, h.settings_eq]
  exact ⟨rfl, h⟩

theorem respects_write {f : Database → Database} (hf : ∀ d d', A d d' → A (f d) (f d')) :
  (write f).Respects (Device.Alike A start)
  := fun _ _ h => ⟨rfl, { h with database := hf _ _ h.database }⟩

theorem respects_draw (x : Draw α) :
  (draw x).Respects (Device.Alike A start)
  := by
  intro d d' h
  rw [outcome_draw, outcome_draw, h.random_eq]
  exact ⟨rfl, { h with random_eq := rfl }⟩

theorem respects_requireSet :
  (onSession SessionAction.requireSet).Respects (Device.Alike A start)
  := by
  intro d d' h
  rw [outcome_onSession, outcome_onSession, SessionAction.outcome_requireSet,
    SessionAction.outcome_requireSet, h.key?_eq]
  refine ⟨rfl, { h with key?_eq := ?_, isHandled := h.isHandled.settle }⟩
  simpa using h.key?_eq

theorem respects_masterKey :
  (onSession SessionAction.masterKey).Respects (Device.Alike A start)
  := by
  intro d d' h
  rw [outcome_onSession, outcome_onSession, SessionAction.outcome_masterKey,
    SessionAction.outcome_masterKey, h.key?_eq]
  rcases d.key? with _ | key
  · refine ⟨rfl, { h with key?_eq := ?_, isHandled := h.isHandled.settle }⟩
    simpa using h.key?_eq
  · refine ⟨rfl, { h with key?_eq := ?_, isHandled := h.isHandled.touch_settle }⟩
    simpa using h.key?_eq

theorem respects_transaction {x : Action α} (hx : x.Respects (Device.Alike A start)) :
  (transaction x).Respects (Device.Alike A start)
  := by
  intro d d' h
  obtain ⟨hresult, hafter⟩ := hx d d' h
  rw [outcome_transaction, outcome_transaction]
  dsimp only
  rw [← hresult]
  refine ⟨rfl, ?_⟩
  split
  · exact hafter
  · exact { hafter with database := h.database }

theorem respects_wrapConversationKey (id : String) (key : ConversationKey) (version : UInt32) :
  (wrapConversationKey id key version).Respects (Device.Alike A start)
  := by
  unfold wrapConversationKey
  apply respects_masterKey.bind
  intro master
  apply respects_draw

section

variable {id : String} (hA : Database.IsLikeness A id)
include hA

theorem respects_currentVersion :
  (currentVersion id).Respects (Device.Alike A start)
  := by
  intro d d' h
  rw [outcome_currentVersion, outcome_currentVersion, Database.liveVersion?, Database.liveVersion?,
    hA.conversationKey?_eq h.database]
  exact ⟨rfl, h⟩

theorem respects_storedConversationKey :
  (storedConversationKey id).Respects (Device.Alike A start)
  := by
  intro d d' h
  rw [outcome_storedConversationKey, outcome_storedConversationKey, hA.conversationKey?_eq h.database]
  exact ⟨rfl, h⟩

theorem respects_conversationKeyInfo :
  (conversationKeyInfo id).Respects (Device.Alike A start)
  := by
  intro d d' h
  rw [outcome_conversationKeyInfo, outcome_conversationKeyInfo, hA.conversationKey?_eq h.database]
  exact ⟨rfl, h⟩

theorem respects_rotationHistory :
  (rotationHistory id).Respects (Device.Alike A start)
  := by
  intro d d' h
  rw [outcome_rotationHistory, outcome_rotationHistory, Database.history, Database.history,
    hA.rotationsOf_eq h.database]
  exact ⟨rfl, h⟩

theorem respects_loadConversationKey :
  (loadConversationKey id).Respects (Device.Alike A start)
  := by
  unfold loadConversationKey
  apply respects_requireSet.bind
  intro _
  apply (respects_storedConversationKey hA).bind
  intro record?
  rcases record? with _ | record
  · apply respects_pure
  · apply (respects_ofResult _).bind
    intro sealed
    apply respects_masterKey.bind
    intro master
    dsimp only
    split
    · apply respects_pure
    · apply respects_throw

theorem respects_requireConversationKey :
  (requireConversationKey id).Respects (Device.Alike A start)
  := by
  unfold requireConversationKey
  apply (respects_loadConversationKey hA).bind
  intro key?
  rcases key? with _ | key
  · apply respects_throw
  · apply respects_pure

theorem respects_sealMessage (plaintext : Bytes) :
  (sealMessage id plaintext).Respects (Device.Alike A start)
  := by
  unfold sealMessage
  apply (respects_requireConversationKey hA).bind
  intro key
  apply respects_draw

theorem respects_openMessage (sealed : Sealed) :
  (openMessage id sealed).Respects (Device.Alike A start)
  := by
  unfold openMessage
  apply (respects_requireConversationKey hA).bind
  intro key
  apply respects_ofCrypto

theorem respects_storeConversationKey (key : ConversationKey) (version : UInt32) :
  (storeConversationKey id key version).Respects (Device.Alike A start)
  := by
  simp only [storeConversationKey, throw_bind]
  apply respects_requireSet.bind
  intro _
  apply Respects.guard
  apply Respects.guard
  apply (respects_wrapConversationKey id key version).bind
  intro sealed
  apply (respects_currentVersion hA).bind
  intro current?
  rcases current? with _ | current
  · apply respects_now.bind
    intro wall
    exact respects_write fun _ _ h => hA.updateConversationKey h rfl
  · apply Respects.guard
    apply respects_now.bind
    intro wall
    exact respects_write fun _ _ h => hA.updateConversationKey h rfl

theorem respects_deleteConversationKey :
  (deleteConversationKey id).Respects (Device.Alike A start)
  := by
  intro d d' h
  rw [outcome_deleteConversationKey, outcome_deleteConversationKey, hA.conversationKey?_eq h.database]
  exact ⟨rfl, { h with database := hA.eraseConversationKey h.database }⟩

/-- The log allows a row in both of two databases that are alike, or in neither. -/
theorem respects_appendRotation {record : RotationRecord} (hrecord : record.conversationId = id) :
  (do
    match (← database).appendRotation? (.ofRecord record) with
    | some after =>
      write fun _ => after
      return record
    | none => throw StoreError.database : Action RotationRecord).Respects (Device.Alike A start)
  := by
  intro d d' h
  rw [outcome_bind_of_ok (outcome_database d), outcome_bind_of_ok (outcome_database d')]
  have hid : (RotationRow.ofRecord record).conversationId = id := hrecord
  have hsame := hA.hasRotation_eq h.database (RotationRow.ofRecord record).newVersion
  rw [← hid] at hsame
  rcases hlog : d.database.hasRotation (RotationRow.ofRecord record).conversationId
    (RotationRow.ofRecord record).newVersion
  · rw [Database.appendRotation?_of_not_hasRotation _ hlog,
      Database.appendRotation?_of_not_hasRotation _ (hsame.trans hlog)]
    exact ⟨rfl, { h with database := hA.appendRotation h.database hid }⟩
  · rw [Database.appendRotation?_of_hasRotation _ hlog,
      Database.appendRotation?_of_hasRotation _ (hsame.trans hlog)]
    exact ⟨rfl, h⟩

theorem respects_rotateConversationKey (secret : Bytes) (reason : String) :
  (rotateConversationKey id secret reason).Respects (Device.Alike A start)
  := by
  unfold rotateConversationKey
  apply respects_requireSet.bind
  intro _
  apply respects_transaction
  apply (respects_currentVersion hA).bind
  intro current?
  apply (respects_ofResult _).bind
  intro new
  apply (respects_ofCrypto _).bind
  intro key
  apply (respects_wrapConversationKey id key new).bind
  intro sealed
  apply respects_now.bind
  intro wall
  apply (respects_write fun _ _ h => hA.updateConversationKey h rfl).bind
  intro _
  exact respects_appendRotation hA rfl

end

/-! ### Sessions that are left alone -/

theorem storeKeyPair_keeps_session (id : String) (pair : KeyPair) (password : String) :
  (storeKeyPair id pair password).Keeps fun device => device.session
  := by
  simp only [storeKeyPair, throw_bind]
  apply Keeps.guard
  apply (validatePassword_keeps password).bind
  intro _
  apply Keeps.bind (fun _ => rfl)
  intro salt
  apply Keeps.bind (fun _ => rfl)
  intro iv
  exact fun _ => rfl

theorem restoreBackup_keeps_session (backup : EncryptedBackup) (password : String) :
  (restoreBackup backup password).Keeps fun device => device.session
  := by
  unfold restoreBackup
  apply settings_keeps.bind
  intro settings
  apply (ofResult_keeps _).bind
  intro payload
  exact fun _ => rfl

end Action

namespace Operation

open ExceptT

variable {α : Type}

/-- Whether an operation needs a key in reach. -/
def NeedsKey : Operation α → Prop
  | storeConversationKey _ _ _ | loadConversationKey _ | rotateConversationKey _ _ _
  | sealMessage _ _ | openMessage _ _ => True
  | _ => False

theorem NeedsKey.respects {op : Operation α} (h : op.NeedsKey) (start : Device) :
  op.action.Respects (Device.Alike Eq start)
  := by
  have hA := Database.isLikeness_eq
  cases op with
  | storeConversationKey id key version =>
    exact Action.respects_storeConversationKey (hA id) key version
  | loadConversationKey id => exact Action.respects_loadConversationKey (hA id)
  | rotateConversationKey id secret reason =>
    exact Action.respects_rotateConversationKey (hA id) secret reason
  | sealMessage id plaintext => exact Action.respects_sealMessage (hA id) plaintext
  | openMessage id sealed => exact Action.respects_openMessage (hA id) sealed
  | _ => cases h

/-- Whether an operation installs a key. -/
def InstallsKey : Operation α → Prop
  | unlock _ => True
  | _ => False

theorem keeps_session {op : Operation α} (hneeds : ¬op.NeedsKey) (hinstalls : ¬op.InstallsKey) :
  op.action.Keeps fun device => device.session
  := by
  cases op with
  | storeKeyPair id pair password => apply Action.storeKeyPair_keeps_session
  | storedKeyPair id => apply Action.storedKeyPair_keeps
  | loadKeyPair id password => apply Action.loadKeyPair_keeps
  | deleteKeyPair id => exact fun _ => rfl
  | keyPairIds => apply Action.keyPairIds_keeps
  | exportPublicKey id => apply Action.exportPublicKey_keeps
  | storedConversationKey id => apply Action.storedConversationKey_keeps
  | conversationKeyInfo id => apply Action.conversationKeyInfo_keeps
  | deleteConversationKey id => exact fun _ => rfl
  | conversationIds => apply Action.conversationIds_keeps
  | rotationHistory id => apply Action.rotationHistory_keeps
  | createBackup password => exact Action.createBackup_keeps (fun _ _ => rfl) password
  | restoreBackup backup password => apply Action.restoreBackup_keeps_session
  | clearAll => exact fun _ => rfl
  | unlock password => exact absurd trivial hinstalls
  | _ => exact absurd trivial hneeds

/-- An operation that installs no key notices that a key expired, or takes the key, if it does anything
to a session at all. -/
theorem isHandled {op : Operation α} (h : ¬op.InstallsKey) (device : Device) :
  device.session.IsHandled device.clock.monotonic (op.outcome device).2.session
  := by
  by_cases hneeds : op.NeedsKey
  · have hself : Device.Alike Eq device device device := ⟨rfl, rfl, rfl, rfl, rfl, rfl, rfl, .kept⟩
    have hafter := (hneeds.respects device device device hself).2
    rw [← hafter.clock_eq_start]
    exact hafter.isHandled
  · have hkept : (op.outcome device).2.session = device.session := keeps_session hneeds h device
    rw [hkept]
    exact .kept

end Operation

end Keyring

import Keyring.Proofs.Store.FirstUnlock
import Keyring.Proofs.Store.Script

/-!
# What the operations encrypt

Each operation that encrypts has a script, which does what the operation does, and a journal of the same
length wherever it gets as far as to encrypt.  A key is encrypted before the store is asked whether it
may be stored, and the value of a first unlock before the metadata are asked whether there is one; so
these encryptions stand in the journal even if nothing comes of them.
-/

namespace Keyring

/-! ### Steps that take nothing -/

namespace Action

open ExceptT

variable {α : Type}

/-- What takes no random bytes takes neither initialisation vectors nor salts. -/
theorem keeps_ledger {x : Action α} (h : x.Keeps fun device => device.random) :
  x.Keeps Device.ledger
  := by
  intro device
  have hrandom : (x.outcome device).2.random = device.random := h device
  rw [Device.ledger, hrandom]
  rfl

theorem onSession_keeps_ledger {x : SessionAction α} (h : x.Keeps Host.random) :
  (onSession x).Keeps Device.ledger
  := by
  apply keeps_ledger
  intro device
  rw [outcome_onSession]
  exact h device.toHost

/-- A session does on a device one thing after another, as it does by itself. -/
theorem onSession_bind {β : Type} (x : SessionAction α) (f : α → SessionAction β) :
  onSession (x >>= f) = onSession x >>= fun a => onSession (f a)
  := by
  funext device
  change (onSession (x >>= f)).outcome device = (onSession x >>= fun a => onSession (f a)).outcome device
  rw [outcome_onSession, outcome_bind, outcome_bind, outcome_onSession]
  rcases x.outcome device.toHost with ⟨e | a, host⟩
  · rfl
  · rfl

theorem onSession_ofCrypto (r : Except CryptoError α) :
  onSession (SessionAction.ofCrypto r) = ofCrypto r
  := by
  cases r with
  | ok a => rfl
  | error e => rfl

theorem requireSet_keeps_ledger :
  (onSession SessionAction.requireSet).Keeps Device.ledger
  := by
  apply onSession_keeps_ledger
  intro host
  rw [SessionAction.outcome_requireSet]
  rfl

theorem masterKey_keeps_ledger :
  (onSession SessionAction.masterKey).Keeps Device.ledger
  := by
  apply onSession_keeps_ledger
  intro host
  rw [SessionAction.outcome_masterKey]
  rcases host.key? with _ | key
  · rfl
  · rfl

/-! ### What follows an encryption -/

/-- What storing a key does once the key is wrapped. -/
def storeWrapped (id : String) (sealed : Sealed) (version : UInt32) : Action Unit := do
  match ← currentVersion id with
  | some current =>
    if version < current then
      throw (.invalidInput <| s!"conversation {id} is at version {current.toNat}, " ++
        s!"refusing to store version {version.toNat}")
  | none => pure ()
  let record := StoredConversationKey.ofSealed id sealed version (← now) none
  write fun d => d.updateConversationKey (.ofRecord record)

/-- What a rotation does once the key is wrapped. -/
def storeRotated (id : String) (sealed : Sealed) (old new : UInt32) (reason : String) :
    Action RotationRecord := do
  let now ← now
  let stored := StoredConversationKey.ofSealed id sealed new now (some now)
  write fun d => d.updateConversationKey (.ofRecord stored)
  let record : RotationRecord := ⟨id, old, new, now, reason⟩
  match (← database).appendRotation? (.ofRecord record) with
  | some after =>
    write fun _ => after
    return record
  | none => throw .database

/-- What a first unlock does once the known value is sealed. -/
def writeMaster (key : Key) (salt : Salt) (params : KdfParams) (check : String) :
    Action (Option Key) := do
  let after := (← database).addMaster salt params check
  if after.metadata? MasterRecord.checkKey = some check then
    write fun _ => after
    return some key
  else
    return none

theorem storeWrapped_keeps (id : String) (sealed : Sealed) (version : UInt32) :
  (storeWrapped id sealed version).Keeps Device.ledger
  := by
  apply (currentVersion_keeps _ id).bind
  rintro (_ | current)
  · intro _
    rfl
  · apply Keeps.guard
    intro _
    rfl

theorem storeRotated_keeps (id : String) (sealed : Sealed) (old new : UInt32) (reason : String) :
  (storeRotated id sealed old new reason).Keeps Device.ledger
  := by
  apply now_keeps.bind
  intro now
  apply Keeps.bind (x := write _) (fun _ => rfl)
  intro _
  apply database_keeps.bind
  intro d
  split
  · intro _
    rfl
  · apply keeps_throw

theorem writeMaster_keeps (key : Key) (salt : Salt) (params : KdfParams) (check : String) :
  (writeMaster key salt params check).Keeps Device.ledger
  := by
  apply database_keeps.bind
  intro d
  by_cases h : (d.addMaster salt params check).metadata? MasterRecord.checkKey = some check
  · rw [if_pos h]
    intro _
    rfl
  · rw [if_neg h]
    apply keeps_pure

theorem reopen_keeps (password : String) :
  (reopen password).Keeps Device.ledger
  := by
  intro device
  rw [outcome_reopen]
  split
  · rfl
  · rfl

theorem openMessage_keeps_ledger (id : String) (sealed : Sealed) :
  (openMessage id sealed).Keeps Device.ledger
  := by
  apply keeps_ledger
  apply (requireConversationKey_keeps (loadConversationKey_keeps_random id)).bind
  intro key
  apply ofCrypto_keeps

theorem restoreBackup_keeps_ledger (backup : EncryptedBackup) (password : String) :
  (restoreBackup backup password).Keeps Device.ledger
  := by
  apply settings_keeps.bind
  intro settings
  apply (ofResult_keeps _).bind
  intro payload _
  rfl

end Action

/-! ### Scripts of the operations -/

namespace Script

open ExceptT

variable {α : Type}

def fail (e : StoreError) : Script α :=
  act (throw e) (keeps_throw e)

def validatePassword (password : String) : Script Unit :=
  act (Action.validatePassword password) (Action.validatePassword_keeps password)

def settings : Script Settings :=
  act Action.settings Action.settings_keeps

def database : Script Database :=
  act Action.database Action.database_keeps

def now : Script Instant :=
  act Action.now Action.now_keeps

def ofResult (r : Except StoreError α) : Script α :=
  act (Action.ofResult r) (Action.ofResult_keeps r)

def write (f : Database → Database) : Script Unit :=
  act (Action.write f) fun _ => rfl

def requireSet : Script Unit :=
  act (Action.onSession SessionAction.requireSet) Action.requireSet_keeps_ledger

def install (key : Key) : Script Unit :=
  act (Action.onSession (SessionAction.install key)) fun _ => rfl

def storeKeyPair (id : String) (pair : KeyPair) (password : String) : Script Unit := do
  if id.isEmpty then
    fail (.invalidInput "key pair id must not be empty")
  validatePassword password
  let salt ← salt
  let params := (← settings).strategy.params
  let sealed ← encrypt (params.derive password salt) pair.privateKey.bytes
    (Purpose.keyPair id).associatedData
  let blob : PrivateKeyBlob := ⟨salt, sealed.iv, sealed.ciphertext ++ sealed.tag.bytes⟩
  let record : StoredKeyPair :=
    ⟨id, pair.publicBase64, blob.toBase64, params.algorithm, some params, ← now⟩
  write fun d => d.putKeyPair (.ofRecord record)

def wrapConversationKey (id : String) (key : ConversationKey) (version : UInt32) :
    Script Sealed := do
  let master ← act (Action.onSession SessionAction.masterKey) Action.masterKey_keeps_ledger
  encrypt master key.key.bytes (Purpose.conversationKey id version).associatedData

def storeConversationKey (id : String) (key : ConversationKey) (version : UInt32) :
    Script Unit := do
  requireSet
  if id.isEmpty then
    fail (.invalidInput "conversation id must not be empty")
  if version = 0 then
    fail (.invalidInput "key versions start at 1")
  let sealed ← wrapConversationKey id key version
  act (Action.storeWrapped id sealed version) (Action.storeWrapped_keeps id sealed version)

def rotateConversationKey (id : String) (secret : Bytes) (reason : String) :
    Script RotationRecord := do
  requireSet
  transaction do
    let old := (← act (Action.currentVersion id) (Action.currentVersion_keeps _ id)).getD 0
    let new ← ofResult (Action.nextVersion old)
    let key ← act (Action.ofCrypto (ConversationKey.derive secret id new)) (Action.ofCrypto_keeps _)
    let sealed ← wrapConversationKey id key new
    act (Action.storeRotated id sealed old new reason)
      (Action.storeRotated_keeps id sealed old new reason)

def sealMessage (id : String) (plaintext : Bytes) : Script Sealed := do
  let key ← act (Action.requireConversationKey id) <|
    Action.keeps_ledger (Action.requireConversationKey_keeps (Action.loadConversationKey_keeps_random id))
  encrypt key.key plaintext (Purpose.message id).associatedData

def createBackup (password : String) : Script EncryptedBackup := do
  validatePassword password
  let payload ← ofResult (BackupPayload.ofDatabase (← database) (← now))
  let salt ← salt
  let params := (← settings).strategy.params
  let sealed ← encrypt (params.derive password salt) payload.toBytes Purpose.backup.associatedData
  return .new (sealed.ciphertext ++ sealed.tag.bytes) sealed.iv salt params payload.createdAt

def initialiseMaster (r : MasterRecord) (password : String) : Script (Option Key) := do
  let strategy ← ofResult (r.strategy (← settings))
  let salt ← match r.salt with
    | some s => ofResult (MasterRecord.decodeSalt s)
    | none => salt
  let key := strategy.derive password salt
  let sealed ← encrypt key MasterRecord.checkText Purpose.masterCheck.associatedData
  let check := Base64.encode sealed.toBytes
  act (Action.writeMaster key salt strategy.params check)
    (Action.writeMaster_keeps key salt strategy.params check)

/-- An unlock that goes by given metadata. -/
def unlockFrom (r : MasterRecord) (password : String) : Script Unit := do
  match ← initialiseMaster r password with
  | some key => install key
  | none => act (Action.reopen password) (Action.reopen_keeps password)

def unlock (password : String) : Script Unit := do
  validatePassword password
  let r := MasterRecord.ofDatabase (← database)
  if r.check.isNone then
    unlockFrom r password
  else
    act (Action.reopen password) (Action.reopen_keeps password)

/-- The derivation of a master key in a given session. -/
def deriveIn (session : Session) (password : String) (salt? : Option Salt) : Script Salt := do
  act (Action.ofCrypto (Password.validate password session.passwordFloor)) (Action.ofCrypto_keeps _)
  let salt ← match salt? with
    | some given => pure given
    | none => salt
  install (session.strategy.derive password salt)
  return salt

def deriveMasterKey (password : String) (salt? : Option Salt) : Script Salt := do
  deriveIn (← act get keeps_get).session password salt?

theorem action_storeKeyPair (id : String) (pair : KeyPair) (password : String) :
  (storeKeyPair id pair password).action = Action.storeKeyPair id pair password
  := by
  unfold storeKeyPair Action.storeKeyPair
  by_cases h : id.isEmpty
  · simp only [h, if_true]
    rfl
  · simp only [h]
    rfl

theorem action_storeConversationKey (id : String) (key : ConversationKey) (version : UInt32) :
  (storeConversationKey id key version).action = Action.storeConversationKey id key version
  := by
  unfold storeConversationKey Action.storeConversationKey
  by_cases h : id.isEmpty
  · simp only [h, if_true]
    rfl
  · by_cases hv : version = 0
    · simp only [h, hv]
      rfl
    · simp only [h, hv]
      rfl

theorem action_rotateConversationKey (id : String) (secret : Bytes) (reason : String) :
  (rotateConversationKey id secret reason).action = Action.rotateConversationKey id secret reason
  := rfl

theorem action_sealMessage (id : String) (plaintext : Bytes) :
  (sealMessage id plaintext).action = Action.sealMessage id plaintext
  := rfl

theorem action_createBackup (password : String) :
  (createBackup password).action = Action.createBackup password
  := rfl

theorem action_initialiseMaster (r : MasterRecord) (password : String) :
  (initialiseMaster r password).action = Action.initialiseMaster r password
  := by
  unfold initialiseMaster Action.initialiseMaster
  rcases r.salt with _ | s
  · rfl
  · rfl

theorem action_unlockFrom (r : MasterRecord) (password : String) :
  (unlockFrom r password).action = Action.unlockFrom r password
  := by
  unfold unlockFrom Action.unlockFrom
  rw [← action_initialiseMaster]
  change (_ >>= _) = (_ >>= _)
  congr 1
  funext key?
  rcases key? with _ | key
  · rfl
  · rfl

theorem action_unlock (password : String) :
  (unlock password).action = Action.unlock password
  := by
  unfold unlock Action.unlock
  change (_ >>= _) = (_ >>= _)
  congr 1
  funext _
  change (_ >>= _) = (_ >>= _)
  congr 1
  funext d
  by_cases h : (MasterRecord.ofDatabase d).check.isNone
  · simp only [h, if_true]
    rw [action_unlockFrom, Action.unlockFrom]
    congr 1
    funext key?
    rcases key? with _ | key
    · rfl
    · rfl
  · simp only [h]
    rfl

theorem action_deriveMasterKey (password : String) (salt? : Option Salt) :
  (deriveMasterKey password salt?).action =
    Action.onSession (SessionAction.deriveMasterKey password salt?)
  := by
  funext device
  change (deriveIn device.session password salt?).action device =
    Action.onSession (SessionAction.ofCrypto _ >>= _) device
  rw [Action.onSession_bind, Action.onSession_ofCrypto]
  rcases salt? with _ | salt
  · rfl
  · rfl

/-! ### Journals of the operations -/

variable {id password : String} {device between : Device} {master : Key}

/-- What is not an encryption or a salt leaves no trace. -/
theorem journal_bind_act {β : Type} {x : Action α} {hx : x.Keeps Device.ledger} {a : α}
    (h : x.outcome device = (.ok a, between)) (f : α → Script β) :
  (act x hx >>= f).journal device = (f a).journal between
  := journal_bind_of_ok (s := act x hx) h f

/-- A step without encryptions and salts may fail after all. -/
theorem journal_bind_act_right {β : Type} (s : Script α) {x : α → Action β}
    (hx : ∀ a, (x a).Keeps Device.ledger) (device : Device) :
  (s >>= fun a => act (x a) (hx a)).journal device = s.journal device
  := by
  rcases h : s.outcome device with ⟨e | a, between⟩
  · exact journal_bind_of_error h _
  · exact (journal_bind_of_ok h _).trans (List.append_nil _)

theorem journal_storeKeyPair (pair : KeyPair) (hid : id ≠ "")
    (hp : Password.validate password device.settings.passwordFloor = .ok ()) :
  (storeKeyPair id pair password).journal device =
    [.salt (device.random.next 16),
      .encryption <| .ofPlaintext
        (device.settings.strategy.params.derive password (device.random.next 16))
        ((device.random.advance 16).next 12) (Purpose.keyPair id).associatedData
        pair.privateKey.bytes]
  := by
  have hempty : ¬id.isEmpty := by simpa using hid
  rw [storeKeyPair, if_neg hempty]
  exact journal_bind_act (Action.outcome_validatePassword_of_ok hp) _

theorem journal_createBackup {payload : BackupPayload}
    (hp : Password.validate password device.settings.passwordFloor = .ok ())
    (hpayload : BackupPayload.ofDatabase device.database device.clock.wall = .ok payload) :
  (createBackup password).journal device =
    [.salt (device.random.next 16),
      .encryption <| .ofPlaintext
        (device.settings.strategy.params.derive password (device.random.next 16))
        ((device.random.advance 16).next 12) Purpose.backup.associatedData payload.toBytes]
  := by
  rw [createBackup]
  apply (journal_bind_act (Action.outcome_validatePassword_of_ok hp) _).trans
  apply (journal_bind_act (Action.outcome_database device) _).trans
  apply (journal_bind_act (Action.outcome_now device) _).trans
  exact journal_bind_act (Action.outcome_ofResult_of_ok hpayload device) _

theorem journal_wrapConversationKey (hk : device.key? = some master) (id : String)
    (key : ConversationKey) (version : UInt32) :
  (wrapConversationKey id key version).journal device =
    [.encryption <| .ofPlaintext master (device.random.next 12)
      (Purpose.conversationKey id version).associatedData key.key.bytes]
  := journal_bind_act (Action.outcome_masterKey_of_key hk) _

/-- A key is encrypted before the stored version is looked at, which may refuse it. -/
theorem journal_storeConversationKey (hk : device.key? = some master) (hid : id ≠ "")
    (key : ConversationKey) {version : UInt32} (hversion : version ≠ 0) :
  (storeConversationKey id key version).journal device =
    [.encryption <| .ofPlaintext master (device.random.next 12)
      (Purpose.conversationKey id version).associatedData key.key.bytes]
  := by
  have hempty : ¬id.isEmpty := by simpa using hid
  have hsettled : (device.withHost device.settled).key? = some master := by simpa using hk
  have hwrap := journal_wrapConversationKey hsettled id key version
  rw [storeConversationKey]
  apply (journal_bind_act (Action.outcome_requireSet_of_key hk) _).trans
  rw [if_neg hempty, if_neg hversion]
  exact (journal_bind_act_right _ _ _).trans hwrap

/-- A key is encrypted before the log is looked at, which may know the rotation. -/
theorem journal_rotateConversationKey (hk : device.key? = some master) {current? : Option UInt32}
    {new : UInt32} {secret : Bytes} {key : ConversationKey}
    (hlive : device.database.liveVersion? id = .ok current?)
    (hnew : Action.nextVersion (current?.getD 0) = .ok new)
    (hkey : ConversationKey.derive secret id new = .ok key) (reason : String) :
  (rotateConversationKey id secret reason).journal device =
    [.encryption <| .ofPlaintext master (device.random.next 12)
      (Purpose.conversationKey id new).associatedData key.key.bytes]
  := by
  have hsettled : (device.withHost device.settled).key? = some master := by simpa using hk
  have hwrap := journal_wrapConversationKey hsettled id key new
  rw [rotateConversationKey]
  apply (journal_bind_act (Action.outcome_requireSet_of_key hk) _).trans
  rw [journal]
  apply (journal_bind_act (Action.outcome_currentVersion_of_ok hlive _) _).trans
  apply (journal_bind_act (Action.outcome_ofResult_of_ok hnew _) _).trans
  apply (journal_bind_act (Action.outcome_ofCrypto_of_ok hkey _) _).trans
  exact (journal_bind_act_right _ _ _).trans hwrap

theorem journal_sealMessage {plaintext : Bytes} {key : ConversationKey}
    (h : (Action.requireConversationKey id).outcome device = (.ok key, between)) :
  (sealMessage id plaintext).journal device =
    [.encryption <| .ofPlaintext key.key (between.random.next 12)
      (Purpose.message id).associatedData plaintext]
  := journal_bind_act h _

/-- The salt of a first unlock, if it draws one. -/
theorem journal_initialiseMaster {r : MasterRecord} {strategy : Strategy} {salt : Salt}
    {random : RandomSource} (hs : r.strategy device.settings = .ok strategy)
    (hc : r.chooseSalt device.random = .ok (salt, random)) (password : String) :
  (initialiseMaster r password).journal device =
    (if r.salt.isNone then [.salt salt] else []) ++
      [.encryption <| .ofPlaintext (strategy.derive password salt) (random.next 12)
        Purpose.masterCheck.associatedData MasterRecord.checkText]
  := by
  rw [initialiseMaster]
  apply (journal_bind_act (Action.outcome_settings device) _).trans
  apply (journal_bind_act (Action.outcome_ofResult_of_ok hs device) _).trans
  rw [MasterRecord.chooseSalt] at hc
  rcases hsalt : r.salt with _ | s
  · rw [hsalt] at hc
    cases hc
    exact journal_bind_of_ok (s := Script.salt) rfl _
  · rw [hsalt] at hc
    obtain ⟨decoded, hdecoded, heq⟩ := Except.map_eq_ok_iff.1 hc
    cases heq
    exact journal_bind_act (Action.outcome_ofResult_of_ok hdecoded device) _

/-- A first unlock is one that goes by the metadata as they are. -/
theorem journal_unlock_of_none
    (hp : Password.validate password device.settings.passwordFloor = .ok ())
    (hnone : (MasterRecord.ofDatabase device.database).check = none) :
  (unlock password).journal device =
    (unlockFrom (MasterRecord.ofDatabase device.database) password).journal device
  := by
  rw [unlock]
  apply (journal_bind_act (Action.outcome_validatePassword_of_ok hp) _).trans
  apply (journal_bind_act (Action.outcome_database device) _).trans
  dsimp only
  rw [if_pos (Option.isNone_iff_eq_none.2 hnone)]

end Script

end Keyring

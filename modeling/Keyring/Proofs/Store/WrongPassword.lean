import Keyring.Proofs.Store.FirstUnlock
import Keyring.Proofs.Store.KeyPairs

/-!
# Wrong passwords

Key pairs, backups and the master password are opened in one way.  What was sealed is read without
the password, and whatever cannot be read is refused then, for every password alike.  Only after
that a key is derived; and where nothing opens under it, the failure is one and the same.  So no
failure tells two passwords apart under both of which nothing opens, and nothing is left behind.
-/

namespace Keyring

/-! ### What is sealed under a password -/

/-- What is sealed under a password, with all that opening it takes but the password. -/
structure PasswordSealed where
  strategy : Strategy
  salt : Salt
  iv : Gcm.Iv
  ciphertext : Bytes
  tag : Bytes
  associated : Bytes

namespace PasswordSealed

/-- The key that is derived from a password. -/
def key (s : PasswordSealed) (password : String) : Key :=
  s.strategy.derive password s.salt

/-- What was sealed, if the password is right. -/
def plaintext (s : PasswordSealed) (password : String) : Except CryptoError Bytes :=
  Sealed.plaintextOfParts (s.key password) s.iv.bytes s.ciphertext s.tag s.associated

variable {α : Type}

/-- What comes of a password: what was sealed is read first, and refused if it does not open under
the password. -/
def opened (read : Except StoreError PasswordSealed) (refusal : StoreError) (password : String)
    (next : PasswordSealed → Bytes → Except StoreError α) : Except StoreError α := do
  let s ← read
  let text ← (s.plaintext password).mapError fun _ => refusal
  next s text

/-- Whether nothing opens under a password: nothing can be read, or what is read does not open. -/
def IsWrong (read : Except StoreError PasswordSealed) (password : String) : Prop :=
  ∀ s, read = .ok s → ∀ text, s.plaintext password ≠ .ok text

/-- There is one failure for all wrong passwords: the refusal, or the one with which reading fails
already. -/
theorem exists_failure (read : Except StoreError PasswordSealed) (refusal : StoreError) :
  ∃ e, (e = refusal ∨ read = .error e) ∧
    ∀ {α : Type} {password : String} {next : PasswordSealed → Bytes → Except StoreError α},
      IsWrong read password → opened read refusal password next = .error e
  := by
  rcases read with e | s
  · exact ⟨e, .inr rfl, fun _ => rfl⟩
  · refine ⟨refusal, .inl rfl, fun {_ password _} hwrong => ?_⟩
    rcases h : s.plaintext password with e | text
    · rw [opened, Except.ok_bind, h]
      rfl
    · cases hwrong s rfl text h

end PasswordSealed

/-! ### Key pairs -/

namespace StoredKeyPair

/-- What a record has sealed under a password. -/
def passwordSealed (k : StoredKeyPair) (settings : Settings) (id : String) :
    Except StoreError PasswordSealed := do
  let configured := settings.strategy.algorithm
  if k.kdf ≠ configured then
    throw (.format
      s!"key pair {id} was sealed with {k.kdf.name}, store is configured for {configured.name}")
  let blob ← (PrivateKeyBlob.ofBase64 k.encryptedPrivateKey).mapError .ofRecord
  let _ ← (Base64.decode k.publicKey).mapError fun e =>
    StoreError.format s!"public key of {id}: {e.message}"
  if blob.ciphertext.length < 16 then
    throw (.format s!"private key blob of {id} is truncated")
  let strategy ← settings.strategyFor k.kdfParams
  let size := blob.ciphertext.length - 16
  return ⟨strategy, blob.salt, blob.iv, blob.ciphertext.take size, blob.ciphertext.drop size,
    (Purpose.keyPair id).associatedData⟩

/-- The key pair with a private key. -/
def pairOf (k : StoredKeyPair) (id : String) (privateKey : Bytes) : Except StoreError KeyPair := do
  let publicKey ← (Base64.decode k.publicKey).mapError fun e =>
    StoreError.format s!"public key of {id}: {e.message}"
  (KeyPair.ofParts publicKey privateKey).mapError fun _ =>
    .format s!"public key of {id} does not match its private key"

theorem toKeyPair_eq (k : StoredKeyPair) (settings : Settings) (id password : String) :
  k.toKeyPair settings id password =
    PasswordSealed.opened (k.passwordSealed settings id) .decryption password
      fun _ text => k.pairOf id text
  := by
  rcases hpublic : Base64.decode k.publicKey with e | publicKey
  · simp only [toKeyPair, passwordSealed, PasswordSealed.opened, hpublic, Except.mapError_error,
      Except.error_bind, Except.throw_bind, Except.ite_bind, bind_assoc]
  · simp only [toKeyPair, passwordSealed, PasswordSealed.opened, pairOf, hpublic,
      Except.mapError_ok, Except.ok_bind, Except.throw_bind, Except.ite_bind, bind_assoc, pure_bind]
    rfl

end StoredKeyPair

/-- What a row has sealed under a password. -/
def KeyPairRow.passwordSealed (row : KeyPairRow) (settings : Settings) (id : String) :
    Except StoreError PasswordSealed := do
  (← row.toRecord).passwordSealed settings id

/-! ### Backups -/

namespace EncryptedBackup

/-- What an envelope has sealed under a password. -/
def passwordSealed (b : EncryptedBackup) (settings : Settings) :
    Except StoreError PasswordSealed := do
  if b.version ≠ backupFormatVersion then
    throw (.unsupportedBackupVersion b.version)
  let configured := settings.strategy.algorithm
  if b.kdf ≠ configured then
    throw (.format
      s!"backup was sealed with {b.kdf.name}, store is configured for {configured.name}")
  let strategy ← settings.strategyFor b.kdfParams
  let salt ← b.saltBytes.mapError fun _ => .backupDecryption
  let iv ← b.ivBytes.mapError fun _ => .backupDecryption
  let data ← b.ciphertextBytes.mapError fun _ => .backupDecryption
  if data.length < 16 then
    throw .backupDecryption
  let size := data.length - 16
  return ⟨strategy, salt, iv, data.take size, data.drop size, Purpose.backup.associatedData⟩

theorem openPayload_eq (b : EncryptedBackup) (settings : Settings) (password : String) :
  b.openPayload settings password =
    PasswordSealed.opened (b.passwordSealed settings) .backupDecryption password
      fun _ text => pure text
  := by
  simp only [openPayload, passwordSealed, PasswordSealed.opened, Except.throw_bind, Except.ite_bind,
    bind_assoc, pure_bind, bind_pure]
  rfl

/-- Nothing is restored from an envelope that does not open. -/
theorem outcome_restoreBackup_of_error {b : EncryptedBackup} {device : Device} {password : String}
    {e : StoreError}
    (h : PasswordSealed.opened (b.passwordSealed device.settings) .backupDecryption password
      (fun _ text => pure text) = .error e) :
  (Operation.restoreBackup b password).outcome device = (.error e, device)
  := by
  have hpayload : b.toPayload device.settings password = .error e := by
    rw [toPayload, openPayload_eq, h]
    rfl
  exact ExceptT.outcome_bind_of_error ((Action.outcome_ofResult ..).trans (by rw [hpayload])) _

end EncryptedBackup

/-! ### The master password -/

namespace MasterRecord

/-- What the metadata have sealed under the master password. -/
def passwordSealed (r : MasterRecord) (settings : Settings) : Except StoreError PasswordSealed := do
  let check ← match r.check with
    | some s => pure s
    | none => throw (.format "master key check missing")
  let salt ← match r.salt with
    | some s => pure s
    | none => throw (.format "master key check present without a salt")
  let salt ← decodeSalt salt
  let sealed ← decodeCheck check
  let strategy ← r.strategy settings
  return ⟨strategy, salt, sealed.iv, sealed.ciphertext, sealed.tag.bytes,
    Purpose.masterCheck.associatedData⟩

theorem openCheck_eq (r : MasterRecord) (settings : Settings) (password : String) :
  r.openCheck settings password =
    PasswordSealed.opened (r.passwordSealed settings) .decryption password
      fun s _ => .ok (s.key password)
  := by
  -- Without an entry, both sides fail before anything is decoded.
  rcases hcheck : r.check with _ | check
  · simp [openCheck, passwordSealed, PasswordSealed.opened, hcheck]
  rcases hsalt : r.salt with _ | salt
  · simp [openCheck, passwordSealed, PasswordSealed.opened, hcheck, hsalt]
  simp only [openCheck, passwordSealed, PasswordSealed.opened, hcheck, hsalt, bind_assoc, pure_bind]
  refine bind_congr fun salt => bind_congr fun sealed => bind_congr fun strategy => ?_
  rw [PasswordSealed.plaintext, Sealed.plaintextOfParts_bytes]
  dsimp only [PasswordSealed.key]
  rcases sealed.plaintext (strategy.derive password salt) Purpose.masterCheck.associatedData with
    e | text
  · rfl
  · rfl

end MasterRecord

/-! ### The same failure -/

namespace Action

variable {device : Device} {id : String} {row : KeyPairRow}

/-- What is found in a row comes of what the row has sealed. -/
theorem outcome_getKeyPair_of_row (h : device.database.keyPair? id = some row) (password : String) :
  getKeyPair id password device =
    (.ofResult (PasswordSealed.opened (row.passwordSealed device.settings id) .decryption password
      fun _ text => do return some (← (← row.toRecord).pairOf id text)), device)
  := by
  rw [outcome_getKeyPair, Database.openKeyPair, h, KeyPairRow.passwordSealed]
  dsimp only
  rcases row.toRecord with e | record
  · rfl
  · simp only [Except.ok_bind, StoredKeyPair.toKeyPair_eq, PasswordSealed.opened, bind_assoc]

/-- An unlock fails where the sealed value in the metadata does not open. -/
theorem outcome_unlock_of_error {r : MasterRecord} {password : String} {e : StoreError}
    (hr : MasterRecord.ofDatabase device.database = r) (hcheck : r.check ≠ none)
    (hfloor : Password.validate password device.settings.passwordFloor = .ok ())
    (h : PasswordSealed.opened (r.passwordSealed device.settings) .decryption password
      (fun s _ => .ok (s.key password)) = .error e) :
  (Operation.unlock password).outcome device = (.error e, device)
  := by
  have hsome : ¬r.check.isNone := fun hnone => hcheck (Option.isNone_iff_eq_none.1 hnone)
  have hunlock : (Operation.unlock password).outcome device = _ := outcome_unlock hfloor
  rw [hunlock, hr, if_neg hsome, outcome_reopen, hr, MasterRecord.openCheck_eq, h]

end Action

/-- Two passwords under both of which nothing opens cannot be told apart, in whatever state a device
is.  This holds for every key pair, for every backup, and for every sealed value in the metadata if
both are long enough: the failure is the same, the device stays as it is, and what was sealed is
refused for what it opens to or was refused already when it was read without a password. -/
theorem wrong_passwords_fail_alike (device : Device) (first second : String) :
  (∀ id row, device.database.keyPair? id = some row →
    PasswordSealed.IsWrong (row.passwordSealed device.settings id) first →
    PasswordSealed.IsWrong (row.passwordSealed device.settings id) second →
      ∃ e, (e = .decryption ∨ row.passwordSealed device.settings id = .error e) ∧
        Action.getKeyPair id first device = (.failed e, device) ∧
        Action.getKeyPair id second device = (.failed e, device)) ∧
  (∀ backup : EncryptedBackup,
    PasswordSealed.IsWrong (backup.passwordSealed device.settings) first →
    PasswordSealed.IsWrong (backup.passwordSealed device.settings) second →
      ∃ e, (e = .backupDecryption ∨ backup.passwordSealed device.settings = .error e) ∧
        (Operation.restoreBackup backup first).outcome device = (.error e, device) ∧
        (Operation.restoreBackup backup second).outcome device = (.error e, device)) ∧
  (∀ r, MasterRecord.ofDatabase device.database = r → r.check ≠ none →
    Password.validate first device.settings.passwordFloor = .ok () →
    Password.validate second device.settings.passwordFloor = .ok () →
    PasswordSealed.IsWrong (r.passwordSealed device.settings) first →
    PasswordSealed.IsWrong (r.passwordSealed device.settings) second →
      ∃ e, (e = .decryption ∨ r.passwordSealed device.settings = .error e) ∧
        (Operation.unlock first).outcome device = (.error e, device) ∧
        (Operation.unlock second).outcome device = (.error e, device))
  := by
  refine ⟨?_, ?_, ?_⟩
  · intro id row hrow hfirst hsecond
    obtain ⟨e, he, hopened⟩ :=
      PasswordSealed.exists_failure (row.passwordSealed device.settings id) .decryption
    refine ⟨e, he, ?_, ?_⟩
    · rw [Action.outcome_getKeyPair_of_row hrow, hopened hfirst]
      rfl
    · rw [Action.outcome_getKeyPair_of_row hrow, hopened hsecond]
      rfl
  · intro backup hfirst hsecond
    obtain ⟨e, he, hopened⟩ :=
      PasswordSealed.exists_failure (backup.passwordSealed device.settings) .backupDecryption
    exact ⟨e, he, backup.outcome_restoreBackup_of_error (hopened hfirst),
      backup.outcome_restoreBackup_of_error (hopened hsecond)⟩
  · intro r hr hcheck hfloor hfloor' hfirst hsecond
    obtain ⟨e, he, hopened⟩ :=
      PasswordSealed.exists_failure (r.passwordSealed device.settings) .decryption
    exact ⟨e, he, Action.outcome_unlock_of_error hr hcheck hfloor (hopened hfirst),
      Action.outcome_unlock_of_error hr hcheck hfloor' (hopened hsecond)⟩

/-! ### Wrong passwords on a sample device -/

/-- The tag that consists of one byte. -/
def Gcm.Tag.ofByte (b : UInt8) : Gcm.Tag :=
  ⟨List.replicate 16 b, List.length_replicate⟩

theorem Gcm.Tag.exists_ne (s t : Gcm.Tag) :
  ∃ other, other ≠ s ∧ other ≠ t
  := by
  have h01 : ofByte 0 ≠ ofByte 1 := by decide
  have h02 : ofByte 0 ≠ ofByte 2 := by decide
  have h12 : ofByte 1 ≠ ofByte 2 := by decide
  by_contra hnone
  have hall (other : Gcm.Tag) : other = s ∨ other = t := by
    by_contra hne
    exact hnone ⟨other, not_or.1 hne⟩
  have h0 := hall (ofByte 0)
  have h1 := hall (ofByte 1)
  have h2 := hall (ofByte 2)
  grind

namespace PasswordSealed

/-- The tag with which a password opens what was sealed. -/
def rightTag (s : PasswordSealed) (password : String) : Gcm.Tag :=
  Gcm.tag (Aes256.expand (s.key password)) s.iv s.associated s.ciphertext

/-- The same with another tag. -/
def withTag (s : PasswordSealed) (tag : Gcm.Tag) : PasswordSealed :=
  { s with tag := tag.bytes }

theorem isWrong_withTag {s : PasswordSealed} {tag : Gcm.Tag} {password : String}
    (h : tag ≠ s.rightTag password) :
  IsWrong (.ok (s.withTag tag)) password
  := by
  intro _ hs text hopen
  obtain rfl := Except.ok.inj hs
  rw [plaintext, withTag, Sealed.plaintextOfParts, Block.ofBytes?_bytes,
    Block.ofBytes?_bytes] at hopen
  dsimp only [Sealed.plaintext, Gcm.decrypt?] at hopen
  split_ifs at hopen with htag
  exact h htag.symm

/-- There is a tag with which nothing opens under either of two passwords. -/
theorem exists_isWrong_withTag (s : PasswordSealed) (first second : String) :
  ∃ tag, IsWrong (.ok (s.withTag tag)) first ∧ IsWrong (.ok (s.withTag tag)) second
  := by
  obtain ⟨tag, hfirst, hsecond⟩ := Gcm.Tag.exists_ne (s.rightTag first) (s.rightTag second)
  exact ⟨tag, isWrong_withTag hfirst, isWrong_withTag hsecond⟩

/-- Nothing, sealed with the standard strategy. -/
def blank (associated : Bytes) : PasswordSealed :=
  ⟨.standard, .zero 16, .zero 12, [], [], associated⟩

end PasswordSealed

/-- The record of a private key of which there is only a tag. -/
def StoredKeyPair.tagged (tag : Gcm.Tag) : StoredKeyPair :=
  ⟨"me", "", (PrivateKeyBlob.mk (.zero 16) (.zero 12) tag.bytes).toBase64, .standard, none, .epoch⟩

/-- The envelope of a payload of which there is only a tag. -/
def EncryptedBackup.tagged (tag : Gcm.Tag) : EncryptedBackup :=
  .new tag.bytes (.zero 12) (.zero 16) Strategy.standard.params .epoch

/-- The sample device with such a record, and with metadata of the same kind. -/
def Device.tagged (keyTag checkTag : Gcm.Tag) : Device :=
  .sample ⟨[.ofRecord (.tagged keyTag)], [], [],
    MasterRecord.entries .standard (.zero 16)
      (Base64.encode (Sealed.mk (.zero 12) [] checkTag).toBytes)⟩

theorem Device.passwordSealed_row (keyTag checkTag : Gcm.Tag) :
  (KeyPairRow.ofRecord (.tagged keyTag)).passwordSealed (tagged keyTag checkTag).settings "me" =
    .ok (.withTag (.blank (Purpose.keyPair "me").associatedData) keyTag)
  := by
  have hpublic : Base64.decode "" = .ok [] := rfl
  have hne : keyTag.bytes ≠ [] := by
    apply List.ne_nil_of_length_pos
    rw [keyTag.length_bytes]
    decide
  have hblob := PrivateKeyBlob.ofBase64_toBase64 (k := ⟨.zero 16, .zero 12, _⟩) hne
  have hstrategy : (tagged keyTag checkTag).settings.strategy = .standard := rfl
  have hkdf : KdfAlgorithm.standard = Strategy.standard.algorithm := rfl
  rw [KeyPairRow.passwordSealed, KeyPairRow.toRecord_ofRecord, Except.ok_bind]
  simp [StoredKeyPair.passwordSealed, StoredKeyPair.tagged, PasswordSealed.withTag,
    PasswordSealed.blank, hblob, hpublic, hstrategy, hkdf, Settings.strategyFor, keyTag.length_bytes]

theorem Device.passwordSealed_backup (keyTag backupTag checkTag : Gcm.Tag) :
  (EncryptedBackup.tagged backupTag).passwordSealed (tagged keyTag checkTag).settings =
    .ok (.withTag (.blank Purpose.backup.associatedData) backupTag)
  := by
  have halgorithm : Strategy.standard.params.algorithm =
    (tagged keyTag checkTag).settings.strategy.algorithm := rfl
  simp [EncryptedBackup.passwordSealed, EncryptedBackup.tagged, EncryptedBackup.new,
    EncryptedBackup.saltBytes, EncryptedBackup.ivBytes, EncryptedBackup.ciphertextBytes,
    PasswordSealed.withTag, PasswordSealed.blank, halgorithm, Settings.strategyFor_params halgorithm,
    backupTag.length_bytes, EncryptedBackup.fixedField_encode]

theorem Device.passwordSealed_metadata (keyTag checkTag : Gcm.Tag) :
  (MasterRecord.ofDatabase (tagged keyTag checkTag).database).passwordSealed
    (tagged keyTag checkTag).settings =
      .ok (.withTag (.blank Purpose.masterCheck.associatedData) checkTag)
  := by
  have hentries : (tagged keyTag checkTag).database.metadata = MasterRecord.entries _ _ _ := rfl
  have hstrategy : (MasterRecord.ofDatabase (tagged keyTag checkTag).database).strategy
    (tagged keyTag checkTag).settings = .ok .standard :=
      MasterRecord.strategy_of_entries hentries rfl
  rw [MasterRecord.ofDatabase_of_entries hentries] at hstrategy ⊢
  simp [MasterRecord.passwordSealed, PasswordSealed.withTag, PasswordSealed.blank, hstrategy,
    MasterRecord.decodeCheck]

/-- A key pair, a backup and a sealed value in the metadata have tags that are right for neither of
two passwords.  Both passwords fail in the same way, and the device stays as it is. -/
theorem wrong_passwords_fail_alike_sample :
  ∃ (device : Device) (backup : EncryptedBackup), ∀ password ∈ ["password", "passwort"],
    Action.getKeyPair "me" password device = (.failed .decryption, device) ∧
    (Operation.restoreBackup backup password).outcome device = (.error .backupDecryption, device) ∧
    (Operation.unlock password).outcome device = (.error .decryption, device)
  := by
  have htag (associated : Bytes) := (PasswordSealed.blank associated).exists_isWrong_withTag
  obtain ⟨keyTag, hkey, hkey'⟩ := htag (Purpose.keyPair "me").associatedData "password" "passwort"
  obtain ⟨backupTag, hbackup, hbackup'⟩ := htag Purpose.backup.associatedData "password" "passwort"
  obtain ⟨checkTag, hcheck, hcheck'⟩ := htag Purpose.masterCheck.associatedData "password" "passwort"
  rw [← Device.passwordSealed_row keyTag checkTag] at hkey hkey'
  rw [← Device.passwordSealed_backup keyTag backupTag checkTag] at hbackup hbackup'
  rw [← Device.passwordSealed_metadata keyTag checkTag] at hcheck hcheck'
  obtain ⟨hkeys, hbackups, hmaster⟩ :=
    wrong_passwords_fail_alike (.tagged keyTag checkTag) "password" "passwort"
  obtain ⟨e, he, hfirst, hsecond⟩ := hkeys "me" _ rfl hkey hkey'
  obtain ⟨e', he', hfirst', hsecond'⟩ := hbackups _ hbackup hbackup'
  have hsome : (MasterRecord.ofDatabase (Device.tagged keyTag checkTag).database).check ≠ none :=
    Option.some_ne_none _
  obtain ⟨e'', he'', hfirst'', hsecond''⟩ := hmaster _ rfl hsome rfl rfl hcheck hcheck'
  rw [Device.passwordSealed_row, or_iff_left nofun] at he
  rw [Device.passwordSealed_backup, or_iff_left nofun] at he'
  rw [Device.passwordSealed_metadata, or_iff_left nofun] at he''
  subst he he' he''
  refine ⟨.tagged keyTag checkTag, .tagged backupTag, ?_⟩
  simp only [List.forall_mem_cons, List.not_mem_nil, false_implies, implies_true, and_true]
  exact ⟨⟨hfirst, hfirst', hfirst''⟩, hsecond, hsecond', hsecond''⟩

end Keyring

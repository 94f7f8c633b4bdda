import Keyring.Proofs.Cipher.Numbers
import Keyring.Proofs.Store.Backup

/-!
# Moving to another device

A backup holds the keys of conversations as they are stored, wrapped under the master key, so that on
a new device they open under the same master key.  The salt of the master password is not in the
backup: a new device that is unlocked with the same password derives its key with a salt of its own,
and under that key the restored ones need not open.
-/

namespace Keyring

/-! ### Wrapped keys -/

namespace StoredConversationKey

/-- Whether a wrapped key opens under a master key. -/
def OpensUnder (k : StoredConversationKey) (master : Key) : Prop :=
  ∃ sealed key, k.toSealed = .ok sealed ∧
    Sealed.unwrapKey master sealed
      (Purpose.conversationKey k.conversationId k.version).associatedData = .ok key

theorem toSealed_ofSealed (id : String) (sealed : Sealed) (version : UInt32) (createdAt : Instant)
    (rotatedAt : Option Instant) :
  (ofSealed id sealed version createdAt rotatedAt).toSealed = .ok sealed
  := by
  simp [toSealed, ofSealed, decodeField, pure, Except.pure]

/-- A key that was just wrapped opens. -/
theorem opensUnder_ofSealed (key : ConversationKey) (master : Key) (iv : Gcm.Iv) (id : String)
    (version : UInt32) (createdAt : Instant) (rotatedAt : Option Instant) :
  (ofSealed id (key.wrapped master iv id version) version createdAt rotatedAt).OpensUnder master
  := ⟨_, key.key, toSealed_ofSealed .., Sealed.unwrapKey_ofPlaintext ..⟩

end StoredConversationKey

theorem ConversationKeyRow.conversationId_of_toRecord {row : ConversationKeyRow}
    {k : StoredConversationKey} (h : row.toRecord = .ok k) :
  k.conversationId = row.conversationId
  := by
  obtain ⟨_, -, h⟩ := Except.bind_eq_ok_iff.1 h
  obtain ⟨_, -, h⟩ := Except.bind_eq_ok_iff.1 h
  obtain ⟨_, -, h⟩ := Except.bind_eq_ok_iff.1 h
  obtain ⟨_, -, h⟩ := Except.bind_eq_ok_iff.1 h
  cases h
  rfl

namespace Database

/-- Whether the keys of all conversations open under a master key. -/
def OpensUnder (d : Database) (master : Key) : Prop :=
  ∀ row ∈ d.conversationKeys, ∃ k, row.toRecord = .ok k ∧ k.OpensUnder master

theorem mem_conversationIds {d : Database} {id : String} :
  id ∈ d.conversationIds ↔ ∃ row ∈ d.conversationKeys, row.conversationId = id
  := by
  simp [conversationIds, Table.byColumn]

namespace OpensUnder

variable {d : Database} {master : Key} {id : String}

/-- The key of every conversation is found. -/
theorem openConversation (h : d.OpensUnder master) (hid : id ∈ d.conversationIds) :
  ∃ key, d.openConversation master id = .ok (some key)
  := by
  obtain ⟨row, hrow, hrid⟩ := mem_conversationIds.1 hid
  rcases hf : d.conversationKey? id with _ | row'
  · exact absurd hrid (Table.find?_eq_none_iff.1 hf row hrow)
  · obtain ⟨hmem, rfl⟩ := Table.mem_of_find? hf
    obtain ⟨k, hread, sealed, key, hsealed, hopen⟩ := h row' hmem
    use ⟨key⟩
    rw [ConversationKeyRow.conversationId_of_toRecord hread] at hopen
    simp [Database.openConversation, hf, hread, hsealed, hopen, pure, Except.pure]

theorem putConversationKey (h : d.OpensUnder master) {k : StoredConversationKey}
    (hversion : k.version ≠ 0) (hk : k.OpensUnder master) :
  (d.putConversationKey (.ofRecord k)).OpensUnder master
  := by
  intro row hrow
  rcases Table.mem_put.1 hrow with rfl | ⟨hrow, -⟩
  · exact ⟨k, ConversationKeyRow.toRecord_ofRecord hversion, hk⟩
  · exact h row hrow

theorem updateConversationKey (h : d.OpensUnder master) (hd : d.IsSound)
    {k : StoredConversationKey} (hversion : k.version ≠ 0) (hk : k.OpensUnder master) :
  (d.updateConversationKey (.ofRecord k)).OpensUnder master
  := by
  obtain ⟨rotatedAt, he⟩ := hd.updateConversationKey_eq k
  rw [he]
  exact h.putConversationKey (k := { k with rotatedAt := rotatedAt }) hversion hk

theorem mergeRotation (h : d.OpensUnder master) (r : RotationRecord) :
  (d.mergeRotation r).OpensUnder master
  := by
  rcases hr : d.hasRotation r.conversationId (.integer r.newVersion.toNat) with _ | _
  · rw [mergeRotation_of_not_hasRotation hr]
    exact h
  · rw [mergeRotation_of_hasRotation hr]
    exact h

theorem merge (h : d.OpensUnder master) {p : BackupPayload} (hp : p.validate = .ok ())
    (hk : ∀ k ∈ p.conversationKeys, k.OpensUnder master) :
  (d.merge p).OpensUnder master
  := by
  have hvalid := (BackupPayload.validate_eq_ok_iff.1 hp).2
  apply merge_induction (P := fun d => d.OpensUnder master) h
  · intro d k _ hd
    exact hd
  · intro d k hmem hd
    have hversion := (BackupPayload.validateConversationKey_eq_ok_iff.1 (hvalid k hmem)).2
    exact hd.putConversationKey hversion (hk k hmem)
  · intro d r _ hd
    exact hd.mergeRotation r

end OpensUnder

end Database

/-! ### Wrapping under one master key -/

/-- Whether an operation stores keys of conversations only under a master key: with this key in
reach, or from a backup whose keys open under it. -/
def Operation.WrapsUnder (master : Key) (α : Type) (op : Operation α) (device : Device) : Prop :=
  match op with
  | .storeConversationKey _ _ _ => device.key? = some master
  | .rotateConversationKey _ _ _ => device.key? = some master
  | .restoreBackup backup password => ∀ payload,
      backup.toPayload device.settings password = .ok payload →
        ∀ k ∈ payload.conversationKeys, k.OpensUnder master
  | _ => True

/-- The keys of all conversations open under the master key under which they are stored. -/
theorem Operation.Effect.opensUnder {α : Type} {op : Operation α} {device : Device} {d : Database}
    {master : Key} (h : Effect op device d) (hop : op.WrapsUnder master α device)
    (hd : device.database.IsSound) (ho : device.database.OpensUnder master) :
  d.OpensUnder master
  := by
  cases h with
  | nothing => exact ho
  | storeKeyPair => exact ho
  | deleteKeyPair => exact ho
  | storeConversationKey id key version _ master' current? hk hid hversion =>
    obtain rfl := Option.some.inj (hk.symm.trans hop)
    apply ho.updateConversationKey hd hversion
    apply StoredConversationKey.opensUnder_ofSealed
  | deleteConversationKey id =>
    intro row hrow
    exact ho row (Table.mem_erase.1 hrow).1
  | rotateConversationKey id secret reason _ master' current? new key hk hlive hnew hkey hlog =>
    obtain rfl := Option.some.inj (hk.symm.trans hop)
    obtain ⟨hlast, rfl⟩ := Action.nextVersion_eq_ok_iff.1 hnew
    apply ho.updateConversationKey hd (UInt32.add_one_ne_zero hlast)
    apply StoredConversationKey.opensUnder_ofSealed
  | unlock password _ strategy salt random =>
    obtain ⟨metadata, he⟩ := device.database.addMaster_eq salt strategy.params
      (MasterRecord.sealCheck (strategy.derive password salt) (random.next 12))
    rw [he]
    exact ho
  | restoreBackup backup password _ payload hpayload =>
    obtain ⟨-, -, -, -, hvalid⟩ := EncryptedBackup.toPayload_eq_ok_iff.1 hpayload
    exact ho.merge hvalid (hop payload hpayload)
  | clearAll =>
    rintro row ⟨⟩

/-- In what was made under one master key, the keys of all conversations open under it. -/
theorem Database.Run.opensUnder {d : Database} {master : Key}
    (h : Run (Operation.WrapsUnder master) .empty d) :
  d.IsSound ∧ d.OpensUnder master
  := by
  apply h.invariant (P := fun d => d.IsSound ∧ d.OpensUnder master)
  · use .empty
    rintro row ⟨⟩
  · intro α op device d' hop hP he
    exact ⟨he.isSound hP.1, he.opensUnder hop hP.1 hP.2⟩

/-! ### Finding the keys again -/

theorem Action.getConversationKey_of_key {device : Device} {master : Key}
    (h : device.key? = some master) (id : String) :
  (getConversationKey id device).1 = .ofResult (device.database.openConversation master id)
  := congrArg Lookup.ofResult (outcome_loadConversationKey h id)

/-- What is found under a master key depends on the row of the conversation alone. -/
theorem Database.openConversation_eq {d d' : Database} {id : String}
    (h : d'.conversationKey? id = d.conversationKey? id) (master : Key) :
  d'.openConversation master id = d.openConversation master id
  := by
  rw [openConversation, h]
  rfl

/-- On a new device that is restored from a backup, the same is found for each conversation as on the
old one, if the same master key is in reach; and if the keys on the old device were stored under that
master key, the key of every conversation is found.  An unlock of the new device installs the key
that is derived with a salt which is drawn for it, and leaves what was restored as it is. -/
theorem new_device_finds_keys_under_same_master {source after target : Device} {password : String}
    {backup : EncryptedBackup} {master : Key}
    (hsource : Database.empty.Run (Operation.WrapsUnder master) source.database)
    (hbackup : (Operation.createBackup password).outcome source = (.ok backup, after))
    (hempty : target.database = .empty)
    (halgorithm : target.settings.strategy.algorithm = source.settings.strategy.algorithm) :
  ∃ summary restored,
    (Operation.restoreBackup backup password).outcome target = (.ok summary, restored) ∧
    (∀ (key : Key) (old new : Device), old.database = source.database →
      new.database.conversationKeys = restored.database.conversationKeys →
      old.key? = some key → new.key? = some key →
        ∀ id, (Action.getConversationKey id new).1 = (Action.getConversationKey id old).1 ∧
          (key = master → id ∈ source.database.conversationIds →
            ∃ found, (Action.getConversationKey id new).1 = .found found)) ∧
    ∀ masterPassword : String,
      Password.validate masterPassword target.settings.passwordFloor = .ok () →
        ∃ unlocked, (Operation.unlock masterPassword).outcome restored = (.ok (), unlocked) ∧
          unlocked.key? =
            some (target.settings.strategy.derive masterPassword (target.random.next 16)) ∧
          unlocked.database.conversationKeys = restored.database.conversationKeys
  := by
  obtain ⟨hsound, hopens⟩ := hsource.opensUnder
  have hbare : target.database.IsBare := hempty ▸ Database.isBare_empty
  obtain ⟨d, hrestore, hrows, hmetadata⟩ :=
    Operation.exists_outcome_restoreBackup hsound hbackup halgorithm hbare
  refine ⟨_, _, hrestore, ?_, ?_⟩
  · intro key old new hold hnew hkeyOld hkeyNew id
    have hrow : new.database.conversationKey? id = old.database.conversationKey? id := by
      rw [Database.conversationKey?, hnew, hold]
      exact hrows.conversationKey?_eq hsound id
    rw [Action.getConversationKey_of_key hkeyNew, Action.getConversationKey_of_key hkeyOld,
      Database.openConversation_eq hrow, hold]
    use rfl
    rintro rfl hid
    obtain ⟨found, hfound⟩ := hopens.openConversation hid
    use found
    rw [hfound]
    rfl
  · intro masterPassword hvalid
    have hnil : { target with database := d }.database.metadata = [] := by
      rw [hmetadata, hempty]
      rfl
    obtain ⟨metadata, hunlock⟩ := Action.exists_outcome_unlock hnil hvalid
    exact ⟨_, hunlock, Device.key?_install _ _, rfl⟩

/-- The key that was stored under the master key of zeroes is found on another device that holds
this master key. -/
theorem new_device_finds_keys_under_same_master_sample :
  ∃ backup after summary restored found,
    (Operation.createBackup "password").outcome (.sample .kept) = (.ok backup, after) ∧
    (Operation.restoreBackup backup "password").outcome (.sample .empty) =
      (.ok summary, restored) ∧
    (Action.getConversationKey "c" (.sample .kept)).1 = .found found ∧
    (Action.getConversationKey "c" (.sample restored.database)).1 = .found found
  := by
  obtain ⟨backup, after, hbackup⟩ := Operation.exists_outcome_createBackup_sample
  obtain ⟨rotated, hrotate, hkept⟩ := Operation.outcome_rotateConversationKey_sample
  have hrun : Database.empty.Run (Operation.WrapsUnder (.zero 32)) (Device.sample .kept).database := by
    have hstep : Database.empty.Run (Operation.WrapsUnder (.zero 32)) _ :=
      .step (.rotateConversationKey "c" (List.replicate 32 0) "manual") (.sample .empty) .start
        (Device.key?_sample .empty)
    rw [hrotate] at hstep
    rw [Device.database_sample, ← hkept]
    exact hstep
  obtain ⟨summary, restored, hrestore, h, -⟩ :=
    new_device_finds_keys_under_same_master hrun hbackup (Device.database_sample .empty) rfl
  obtain ⟨hsame, hfound⟩ := h (.zero 32) (.sample .kept) (.sample restored.database) rfl rfl rfl rfl
    "c"
  obtain ⟨found, hfound⟩ := hfound rfl (Database.mem_conversationIds.2 ⟨_, List.mem_cons_self, rfl⟩)
  exact ⟨backup, after, summary, restored, found, hbackup, hrestore, hsame.symm.trans hfound, hfound⟩

/-! ### A salt of its own -/

/-- What is found for a conversation whose key was just wrapped is what is unwrapped. -/
theorem Database.openConversation_wrapped {d : Database} {id : String} {key : ConversationKey}
    {wrapping : Key} {iv : Gcm.Iv} {version : UInt32} {createdAt : Instant}
    {rotatedAt : Option Instant} (hversion : version ≠ 0)
    (h : d.conversationKey? id = some (.ofRecord (.ofSealed id (key.wrapped wrapping iv id version)
      version createdAt rotatedAt))) (master : Key) :
  d.openConversation master id =
    match Sealed.unwrapKey master (key.wrapped wrapping iv id version)
      (Purpose.conversationKey id version).associatedData with
    | .ok key => .ok (some ⟨key⟩)
    | .error _ => .error .decryption
  := by
  have hread := ConversationKeyRow.toRecord_ofRecord (k := .ofSealed id
    (key.wrapped wrapping iv id version) version createdAt rotatedAt) hversion
  simp only [openConversation, h, hread, StoredConversationKey.toSealed_ofSealed, Except.ok_bind]
  dsimp only [StoredConversationKey.ofSealed]
  rcases Sealed.unwrapKey master (key.wrapped wrapping iv id version)
    (Purpose.conversationKey id version).associatedData with e | key'
  · rfl
  · rfl

/-- A device without key and rows, on which all random bytes are the same and a single round derives
keys from passwords. -/
def Device.locked (b : UInt8) : Device :=
  ⟨⟨.ofBlocks fun n _ => ⟨List.replicate n b, List.length_replicate⟩, ⟨.epoch, 0⟩,
    .new ⟨.pbkdf2 1, by decide⟩ 8 0⟩, ⟨⟨.pbkdf2 1, by decide⟩, 8, 0⟩, .empty⟩

/-- The master key that a locked device derives from the password of the sample. -/
def Device.lockedKey (b : UInt8) : Key :=
  (locked b).settings.strategy.derive "password" ((locked b).random.next 16)

/-- The master keys of two locked devices do not encipher alike. -/
theorem Device.keystream_lockedKey_ne :
  (Gcm.keystream (Aes256.expand (lockedKey 0)) (.zero 12) 2 2).head? ≠
    (Gcm.keystream (Aes256.expand (lockedKey 1)) (.zero 12) 2 2).head?
  := by
  simp only [Gcm.keystream, Aes256.encipher_eq_encipherNat, Aes256.expand_eq_expandNat]
  decide +kernel

/-- A key that one device wrapped is not found under the master key of the other one. -/
theorem Database.openConversation_lockedKey_ne {d : Database} {createdAt : Instant}
    {rotatedAt : Option Instant}
    (h : d.conversationKey? "c" = some (.ofRecord (.ofSealed "c"
      (ConversationKey.sample.wrapped (Device.lockedKey 0) (.zero 12) "c" 1) 1 createdAt
      rotatedAt))) :
  d.openConversation (Device.lockedKey 1) "c" ≠ .ok (some .sample)
  := by
  intro hfound
  rw [openConversation_wrapped (by decide) h] at hfound
  rcases hopen : Sealed.unwrapKey (Device.lockedKey 1)
    (ConversationKey.sample.wrapped (Device.lockedKey 0) (.zero 12) "c" 1)
    (Purpose.conversationKey "c" 1).associatedData with e | key
  · rw [hopen] at hfound
    cases hfound
  · rw [hopen] at hfound
    have hkey : key = ConversationKey.sample.key :=
      congrArg ConversationKey.key (Option.some.inj (Except.ok.inj hfound))
    rw [hkey] at hopen
    have hhead := Gcm.head?_keystream_eq_of_crypt_eq (Sealed.crypt_eq_of_unwrapKey_eq_ok hopen)
      (List.ne_nil_of_length_pos (by rw [ConversationKey.sample.key.length_bytes]; decide))
    rw [ConversationKey.sample.key.length_bytes] at hhead
    exact Device.keystream_lockedKey_ne hhead

/-- A locked device after the first unlock. -/
def Device.unlocked (b : UInt8) (d : Database) : Device :=
  { ((locked b).withRandom (((locked b).random.advance 16).advance 12)).install (lockedKey b) with
    database := d }

theorem Device.key?_unlocked (b : UInt8) (d : Database) :
  (unlocked b d).key? = some (lockedKey b)
  := key?_install _ _

/-- A device that is unlocked for the first time and stores a key. -/
theorem Device.exists_unlocked_rotated :
  ∃ metadata rotated,
    (Operation.unlock "password").outcome (.locked 0) = (.ok (), unlocked 0 ⟨[], [], [], metadata⟩) ∧
    (Operation.rotateConversationKey "c" (List.replicate 32 0) "manual").outcome
      (unlocked 0 ⟨[], [], [], metadata⟩) = (.ok ⟨"c", 0, 1, .epoch, "manual"⟩, rotated) ∧
    rotated.key? = some (lockedKey 0) ∧ rotated.settings = (locked 0).settings ∧
    rotated.database.Reachable ∧
    rotated.database.rotations = [.ofRecord ⟨"c", 0, 1, .epoch, "manual"⟩] ∧
    rotated.database.conversationKey? "c" = some (.ofRecord (.ofSealed "c"
      (ConversationKey.sample.wrapped (lockedKey 0) (.zero 12) "c" 1) 1 .epoch (some .epoch)))
  := by
  have hunlock : ∃ metadata, (Operation.unlock "password").outcome (locked 0) =
      (.ok (), unlocked 0 ⟨[], [], [], metadata⟩) :=
    Action.exists_outcome_unlock rfl rfl
  obtain ⟨metadata, hunlock⟩ := hunlock
  have hkey := key?_unlocked 0 ⟨[], [], [], metadata⟩
  have hlive : Database.liveVersion? ⟨[], [], [], metadata⟩ "c" = .ok none := rfl
  have hnext : Action.nextVersion 0 = .ok 1 := rfl
  have hrotate := Action.outcome_rotateConversationKey "manual" hkey hlive hnext
    ConversationKey.derive_sample
  have hfirst := Database.Reachable.step (.unlock "password") (locked 0) .empty
  rw [hunlock] at hfirst
  have hsecond := Database.Reachable.step
    (.rotateConversationKey "c" (List.replicate 32 0) "manual") _ hfirst
  rw [Operation.outcome, Operation.action, hrotate] at hsecond
  refine ⟨metadata, _, hunlock, hrotate, ?_, rfl, hsecond, rfl, rfl⟩
  change Host.key? ((unlocked 0 ⟨[], [], [], metadata⟩).touched.drawn 12) = _
  simpa using hkey

/-- A device is unlocked for the first time, stores a key, and is backed up; another one with the
same settings is restored from the backup and unlocked with the same master password.  The other one
drew another salt, and does not find the key. -/
theorem new_device_misses_key_under_own_salt :
  ∃ unlocked rotated backup after summary restored reopened,
    (Operation.unlock "password").outcome (.locked 0) = (.ok (), unlocked) ∧
    (Operation.rotateConversationKey "c" (List.replicate 32 0) "manual").outcome unlocked =
      (.ok ⟨"c", 0, 1, .epoch, "manual"⟩, rotated) ∧
    (Operation.createBackup "password").outcome rotated = (.ok backup, after) ∧
    (Operation.restoreBackup backup "password").outcome (.locked 1) = (.ok summary, restored) ∧
    (Operation.unlock "password").outcome restored = (.ok (), reopened) ∧
    (Action.getConversationKey "c" rotated).1 = .found .sample ∧
    (Action.getConversationKey "c" reopened).1 ≠ .found .sample
  := by
  obtain ⟨metadata, rotated, hunlock, hrotate, hkey, hsettings, hreachable, hrotations, hrow⟩ :=
    Device.exists_unlocked_rotated
  have hsound := hreachable.isSound
  have hpassword : Password.validate "password" rotated.settings.passwordFloor = .ok () := by
    rw [hsettings]
    rfl
  have hversions : ∀ row ∈ rotated.database.rotations, row.newVersion ≠ .integer 0 := by
    rw [hrotations]
    decide
  have halgorithm : (Device.locked 1).settings.strategy.algorithm =
      rotated.settings.strategy.algorithm := by
    rw [hsettings]
    rfl
  obtain ⟨backup, after, hbackup⟩ :=
    Operation.exists_outcome_createBackup hpassword hsound hversions
  obtain ⟨d, hrestore, hrows, hmetadata⟩ :=
    Operation.exists_outcome_restoreBackup hsound hbackup halgorithm Database.isBare_empty
  have hreopen : ∃ metadata, (Operation.unlock "password").outcome
      { Device.locked 1 with database := d } =
        (.ok (), Device.unlocked 1 { d with metadata := metadata }) :=
    Action.exists_outcome_unlock hmetadata rfl
  obtain ⟨metadata', hreopen⟩ := hreopen
  refine ⟨_, rotated, backup, after, _, _, _, hunlock, hrotate, hbackup, hrestore, hreopen, ?_, ?_⟩
  · rw [Action.getConversationKey_of_key hkey,
      Database.openConversation_wrapped (by decide) hrow, ConversationKey.wrapped,
      Sealed.unwrapKey_ofPlaintext]
    rfl
  · rw [Action.getConversationKey_of_key (Device.key?_unlocked _ _)]
    intro hfound
    have hopened := congrArg Lookup.toResult hfound
    rw [Lookup.toResult_ofResult] at hopened
    exact Database.openConversation_lockedKey_ne
      ((hrows.conversationKey?_eq hsound "c").trans hrow) hopened

end Keyring

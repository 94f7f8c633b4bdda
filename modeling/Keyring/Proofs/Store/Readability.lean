import Keyring.Proofs.Store.Backup

/-!
# Which rows can be read

Every row of a reachable database was written from a record, and gives that record back, with one
exception.  A recovery checks the key pairs and the conversation keys of a backup but not its
rotations, so that a rotation to version zero may enter the log.  There it cannot be read, and from
then on neither the history of its conversation nor a backup of the store can be had.  Nothing else
writes such a rotation, and no backup that was made by a store has one.
-/

namespace Keyring

/-! ### The log -/

namespace Database

/-- Whether no rotation in the log led to version zero. -/
def LogIsPositive (d : Database) : Prop :=
  ∀ row ∈ d.rotations, row.newVersion ≠ .integer 0

variable {d : Database} {rows : List RotationRow}

theorem rotationsOf_subset (d : Database) (id : String) :
  d.rotationsOf id ⊆ d.rotations
  := List.filter_subset_self _

namespace IsSound

/-- A rotation that led to version zero cannot be read. -/
theorem toRecord_rotation_of_zero (h : d.IsSound) {row : RotationRow} (hrow : row ∈ d.rotations)
    (hzero : row.newVersion = .integer 0) :
  row.toRecord = .error (.format "bad key version 0")
  := by
  obtain ⟨r, rfl⟩ := h.rotations row hrow
  apply RotationRow.toRecord_ofRecord_of_zero
  exact RotationRow.newVersion_ofRecord_eq_zero_iff.1 hzero

/-- Rotations of which one led to version zero cannot be read together. -/
theorem mapM_rotations_of_zero (h : d.IsSound) (hrows : rows ⊆ d.rotations)
    (hzero : ∃ row ∈ rows, row.newVersion = .integer 0) :
  rows.mapM RotationRow.toRecord = .error (.format "bad key version 0")
  := by
  apply Except.mapM_eq_error
  · intro row hrow
    by_cases hr : row.newVersion = .integer 0
    · exact .inl (h.toRecord_rotation_of_zero (hrows hrow) hr)
    · exact .inr (h.exists_toRecord_rotation (hrows hrow) hr)
  · obtain ⟨row, hrow, hr⟩ := hzero
    exact ⟨row, hrow, h.toRecord_rotation_of_zero (hrows hrow) hr⟩

/-- The history of a conversation is read as a whole. -/
theorem history_eq (h : d.IsSound) (id : String) :
  d.history id = (d.rotationsOf id).mapM RotationRow.toRecord
  := by
  have hwell := h.isWellTyped
  rw [Database.isWellTyped, Bool.and_eq_true] at hwell
  have hall : (d.rotationsOf id).all RotationRow.isWellTyped = true := by
    rw [List.all_eq_true]
    intro row hrow
    exact List.all_eq_true.1 hwell.2 row (rotationsOf_subset d id hrow)
  rw [history, readRotations, if_pos hall]

/-- No payload can be taken from a database with a rotation to version zero. -/
theorem ofDatabase_eq_error (h : d.IsSound) (hlog : ¬d.LogIsPositive) (now : Instant) :
  BackupPayload.ofDatabase d now = .error (.format "bad key version 0")
  := by
  have hzero : ∃ row ∈ d.rotations, row.newVersion = .integer 0 := by
    simpa [LogIsPositive] using hlog
  obtain ⟨keyPairs, hk⟩ := h.exists_mapM_keyPairs
  obtain ⟨conversationKeys, hc⟩ := h.exists_mapM_conversationKeys
  have hr := h.mapM_rotations_of_zero (List.Subset.refl _) hzero
  rw [BackupPayload.ofDatabase, h.isWellTyped]
  simp only [Bool.not_true, Bool.false_eq_true, if_false, hk, hc, hr, Except.ok_bind,
    Except.error_bind]

/-- The rotations of a payload that is taken from a sound database led to positive versions. -/
theorem newVersion_ne_zero (h : d.IsSound) {now : Instant} {p : BackupPayload}
    (hp : BackupPayload.ofDatabase d now = .ok p) :
  ∀ r ∈ p.rotationHistory, r.newVersion ≠ 0
  := by
  intro r hr hzero
  obtain ⟨-, -, -, -, -, hread⟩ := BackupPayload.ofDatabase_eq_ok_iff.1 hp
  obtain ⟨row, hrow, hrecord⟩ := Except.exists_mem_of_mapM_eq_ok hread hr
  rw [← h.toRecord_rotation hrow hrecord, RotationRow.toRecord_ofRecord_of_zero hzero] at hrecord
  cases hrecord

end IsSound

theorem LogIsPositive.appendRotation (h : d.LogIsPositive) {r : RotationRecord}
    (hr : r.newVersion ≠ 0) :
  { d with rotations := d.rotations ++ [RotationRow.ofRecord r] }.LogIsPositive
  := by
  intro row hrow hzero
  rcases List.mem_append.1 hrow with hrow | hrow
  · exact h row hrow hzero
  · obtain rfl := List.mem_singleton.1 hrow
    exact hr (RotationRow.newVersion_ofRecord_eq_zero_iff.1 hzero)

theorem LogIsPositive.mergeRotation (h : d.LogIsPositive) {r : RotationRecord}
    (hr : r.newVersion ≠ 0) :
  (d.mergeRotation r).LogIsPositive
  := by
  rcases hlog : d.hasRotation r.conversationId (.integer r.newVersion.toNat) with _ | _
  · rw [mergeRotation_of_not_hasRotation hlog]
    exact h.appendRotation hr
  · rw [mergeRotation_of_hasRotation hlog]
    exact h

end Database

/-! ### Steps -/

/-- An envelope opens only where its algorithm is configured. -/
theorem EncryptedBackup.kdf_eq_of_openPayload {b : EncryptedBackup} {settings : Settings}
    {password : String} {bytes : Bytes} (h : b.openPayload settings password = .ok bytes) :
  b.kdf = settings.strategy.algorithm
  := by
  by_contra hkdf
  rw [openPayload] at h
  by_cases hversion : b.version = backupFormatVersion
  · simp [hversion, hkdf] at h
  · simp [hversion] at h

/-- What a backup opens to under the password with which it was made are the records of the store
that made it. -/
theorem EncryptedBackup.ofDatabase_of_toPayload {source made : Device} {password : String}
    {backup : EncryptedBackup} {settings : Settings} {payload : BackupPayload}
    (hsource : source.database.IsSound)
    (hbackup : (Operation.createBackup password).outcome source = (.ok backup, made))
    (hpayload : backup.toPayload settings password = .ok payload) :
  BackupPayload.ofDatabase source.database source.clock.wall = .ok payload
  := by
  obtain ⟨bytes, hopen, -⟩ := toPayload_eq_ok_iff.1 hpayload
  obtain ⟨_, -, -, hsealed, -⟩ := Action.createBackup_eq_ok_iff.1 hbackup
  have hkdf := kdf_eq_of_openPayload hopen
  have halgorithm : settings.strategy.algorithm = source.settings.strategy.algorithm := by
    rw [← hkdf, hsealed]
    rfl
  obtain ⟨taken, htaken, hsame⟩ := toPayload_of_createBackup hsource hbackup
  cases (hsame _ halgorithm).symm.trans hpayload
  exact htaken

namespace Operation

variable {α : Type}

/-- Whether an operation is no recovery from a backup with a rotation to version zero. -/
def AddsPositive (α : Type) (op : Operation α) (device : Device) : Prop :=
  match op with
  | restoreBackup backup password => ∀ payload,
      backup.toPayload device.settings password = .ok payload →
        ∀ r ∈ payload.rotationHistory, r.newVersion ≠ 0
  | _ => True

theorem Effect.logIsPositive {op : Operation α} {device : Device} {d : Database}
    (h : Effect op device d) (hop : op.AddsPositive α device)
    (hlog : device.database.LogIsPositive) :
  d.LogIsPositive
  := by
  cases h with
  | nothing => exact hlog
  | storeKeyPair => exact hlog
  | deleteKeyPair => exact hlog
  | storeConversationKey => exact hlog
  | deleteConversationKey => exact hlog
  | rotateConversationKey id secret reason _ master current? new key _ _ hnew =>
    obtain ⟨hlast, rfl⟩ := Action.nextVersion_eq_ok_iff.1 hnew
    exact hlog.appendRotation (r := Action.rotationRecord device id _ _ reason)
      (UInt32.add_one_ne_zero hlast)
  | unlock _ _ strategy salt =>
    obtain ⟨metadata, he⟩ := device.database.addMaster_eq salt strategy.params _
    rw [he]
    exact hlog
  | restoreBackup backup password _ payload hpayload =>
    apply Database.merge_induction hlog
    · exact fun _ _ _ hd => hd
    · exact fun _ _ _ hd => hd
    · exact fun _ r hr hd => hd.mergeRotation (hop payload hpayload r hr)
  | clearAll =>
    intro row hrow
    cases hrow

/-- A backup that was made by a store has no rotation to version zero. -/
theorem addsPositive_of_createBackup {source made device : Device} {password : String}
    {backup : EncryptedBackup} (hsource : source.database.IsSound)
    (hbackup : (createBackup password).outcome source = (.ok backup, made)) :
  (restoreBackup backup password).AddsPositive RestoreSummary device
  := by
  intro payload hpayload
  have htaken := EncryptedBackup.ofDatabase_of_toPayload hsource hbackup hpayload
  exact hsource.newVersion_ne_zero htaken

end Operation

/-! ### Reading a store -/

namespace Operation

variable {device : Device} {id password : String}

theorem exists_outcome_storedKeyPair (hd : device.database.IsSound) (id : String) :
  ∃ record?, (storedKeyPair id).outcome device = (.ok record?, device)
  := by
  have hread : ∀ row ∈ device.database.keyPair? id, ∃ k, row.toRecord = .ok k :=
    fun row hrow => hd.exists_toRecord_keyPair (Table.mem_of_find? hrow).1
  obtain ⟨record?, hrecord⟩ := Except.exists_mapM_option hread
  use record?
  rw [← hrecord]
  apply Action.outcome_storedKeyPair

theorem exists_mapM_conversationKey? (hd : device.database.IsSound) (id : String) :
  ∃ record?, (device.database.conversationKey? id).mapM ConversationKeyRow.toRecord = .ok record?
  := by
  apply Except.exists_mapM_option
  intro row hrow
  exact hd.exists_toRecord_conversationKey (Table.mem_of_find? hrow).1

theorem exists_outcome_storedConversationKey (hd : device.database.IsSound) (id : String) :
  ∃ record?, (storedConversationKey id).outcome device = (.ok record?, device)
  := by
  obtain ⟨record?, hrecord⟩ := exists_mapM_conversationKey? hd id
  use record?
  rw [← hrecord]
  apply Action.outcome_storedConversationKey

theorem exists_outcome_conversationKeyInfo (hd : device.database.IsSound) (id : String) :
  ∃ info?, (conversationKeyInfo id).outcome device = (.ok info?, device)
  := by
  obtain ⟨record?, hrecord⟩ := exists_mapM_conversationKey? hd id
  have h := Action.outcome_conversationKeyInfo id device
  rw [hrecord] at h
  exact ⟨_, h⟩

theorem exists_outcome_rotationHistory (hd : device.database.IsSound)
    (hlog : ∀ row ∈ device.database.rotationsOf id, row.newVersion ≠ .integer 0) :
  ∃ records, (rotationHistory id).outcome device = (.ok records, device)
  := by
  have hread : ∀ row ∈ device.database.rotationsOf id, ∃ r, row.toRecord = .ok r := fun row hrow =>
    hd.exists_toRecord_rotation (Database.rotationsOf_subset _ id hrow) (hlog row hrow)
  obtain ⟨records, hrecords⟩ := Except.exists_mapM_eq_ok hread
  use records
  rw [← hrecords, ← hd.history_eq]
  apply Action.outcome_rotationHistory

theorem outcome_rotationHistory_of_zero (hd : device.database.IsSound)
    (hlog : ∃ row ∈ device.database.rotationsOf id, row.newVersion = .integer 0) :
  (rotationHistory id).outcome device = (.error (.format "bad key version 0"), device)
  := by
  have hsubset := Database.rotationsOf_subset device.database id
  rw [← hd.mapM_rotations_of_zero hsubset hlog, ← hd.history_eq]
  apply Action.outcome_rotationHistory

theorem outcome_createBackup_of_zero
    (hp : Password.validate password device.settings.passwordFloor = .ok ())
    (hd : device.database.IsSound) (hlog : ¬device.database.LogIsPositive) :
  (createBackup password).outcome device = (.error (.format "bad key version 0"), device)
  := by
  have hpassword := Action.outcome_validatePassword_of_ok hp
  have htake : (Action.ofResult (BackupPayload.ofDatabase device.database device.clock.wall)).outcome
      device = (.error (.format "bad key version 0"), device) := by
    rw [Action.outcome_ofResult, hd.ofDatabase_eq_error hlog]
  rw [outcome, action, Action.createBackup, ExceptT.outcome_bind_of_ok hpassword,
    ExceptT.outcome_bind_of_ok (Action.outcome_database device),
    ExceptT.outcome_bind_of_ok (Action.outcome_now device), ExceptT.outcome_bind_of_error htake]

end Operation

/-- Every key pair and every conversation key of a reachable database gives the record from which it
was written, so that looking for one never fails.  Every rotation does so unless it led to version
zero: the history of a conversation can be had if it has no such rotation, and a backup if the whole
log has none.  Only a recovery adds one to a log that has none, and none from a backup that was made
by a store. -/
theorem readable_unless_version_zero {device : Device} (hdevice : device.database.Reachable) :
  (∀ row ∈ device.database.keyPairs, ∃ k, row.toRecord = .ok k ∧ .ofRecord k = row) ∧
  (∀ row ∈ device.database.conversationKeys, ∃ k, row.toRecord = .ok k ∧ .ofRecord k = row) ∧
  (∀ row ∈ device.database.rotations,
    (row.newVersion ≠ .integer 0 → ∃ r, row.toRecord = .ok r ∧ .ofRecord r = row) ∧
    (row.newVersion = .integer 0 → row.toRecord = .error (.format "bad key version 0"))) ∧
  (∀ id, ∃ record?, (Operation.storedKeyPair id).outcome device = (.ok record?, device)) ∧
  (∀ id, ∃ record?, (Operation.storedConversationKey id).outcome device = (.ok record?, device)) ∧
  (∀ id, ∃ info?, (Operation.conversationKeyInfo id).outcome device = (.ok info?, device)) ∧
  (∀ id,
    ((∀ row ∈ device.database.rotationsOf id, row.newVersion ≠ .integer 0) →
      ∃ records, (Operation.rotationHistory id).outcome device = (.ok records, device)) ∧
    ((∃ row ∈ device.database.rotationsOf id, row.newVersion = .integer 0) →
      (Operation.rotationHistory id).outcome device =
        (.error (.format "bad key version 0"), device))) ∧
  (∀ password, Password.validate password device.settings.passwordFloor = .ok () →
    (device.database.LogIsPositive →
      ∃ backup after, (Operation.createBackup password).outcome device = (.ok backup, after)) ∧
    (¬device.database.LogIsPositive →
      (Operation.createBackup password).outcome device =
        (.error (.format "bad key version 0"), device))) ∧
  (∀ start : Database, start.LogIsPositive → start.Run Operation.AddsPositive device.database →
    device.database.LogIsPositive) ∧
  ∀ (source made : Device) (backup : EncryptedBackup) (password : String),
    source.database.Reachable →
    (Operation.createBackup password).outcome source = (.ok backup, made) →
      (Operation.restoreBackup backup password).AddsPositive RestoreSummary device
  := by
  have hd := hdevice.isSound
  refine ⟨?_, ?_, ?_, Operation.exists_outcome_storedKeyPair hd,
    Operation.exists_outcome_storedConversationKey hd,
    Operation.exists_outcome_conversationKeyInfo hd, ?_, ?_, ?_, ?_⟩
  · intro row hrow
    obtain ⟨k, hk⟩ := hd.exists_toRecord_keyPair hrow
    exact ⟨k, hk, (hd.toRecord_keyPair hrow hk).1⟩
  · intro row hrow
    obtain ⟨k, hk⟩ := hd.exists_toRecord_conversationKey hrow
    exact ⟨k, hk, (hd.toRecord_conversationKey hrow hk).1⟩
  · intro row hrow
    constructor
    · intro hr
      obtain ⟨r, hread⟩ := hd.exists_toRecord_rotation hrow hr
      exact ⟨r, hread, hd.toRecord_rotation hrow hread⟩
    · exact hd.toRecord_rotation_of_zero hrow
  · intro id
    exact ⟨Operation.exists_outcome_rotationHistory hd, Operation.outcome_rotationHistory_of_zero hd⟩
  · intro password hp
    exact ⟨Operation.exists_outcome_createBackup hp hd, Operation.outcome_createBackup_of_zero hp hd⟩
  · intro start hstart hrun
    exact hrun.invariant hstart fun _ _ _ _ hop hlog he => he.logIsPositive hop hlog
  · intro source made backup password hsource hbackup
    exact Operation.addsPositive_of_createBackup hsource.isSound hbackup

/-! ### A rotation to version zero -/

/-- A payload with one rotation, from version zero to version zero. -/
def BackupPayload.versionZero : BackupPayload :=
  ⟨backupFormatVersion, .epoch, [], [], [⟨"c", 0, 0, .epoch, "manual"⟩]⟩

/-- The payload in the envelope of a backup. -/
def EncryptedBackup.versionZero : EncryptedBackup :=
  .ofPayload BackupPayload.versionZero.toBytes Strategy.standard.params "password" (.zero 16)
    (.zero 12) .epoch

/-- The backup is accepted. -/
theorem Operation.outcome_restoreBackup_versionZero :
  (restoreBackup .versionZero "password").outcome (.sample .empty) =
    (.ok ⟨0, 0, 1⟩, .sample (Database.empty.merge .versionZero))
  := by
  have halgorithm : Strategy.standard.algorithm =
      (Device.sample .empty).settings.strategy.algorithm := rfl
  have hopen : EncryptedBackup.versionZero.openPayload (Device.sample .empty).settings "password" =
      .ok BackupPayload.versionZero.toBytes :=
    EncryptedBackup.openPayload_ofPayload halgorithm _ _ (.zero 16) (.zero 12) .epoch
  have hpayload := EncryptedBackup.toPayload_eq_ok_iff.2
    ⟨_, hopen, BackupPayload.versionZero.ofBytes?_toBytes, rfl, rfl⟩
  exact Action.restoreBackup_eq_ok_iff.2 ⟨_, hpayload, rfl, rfl⟩

/-- The sample conversation can be read after its first rotation.  After the recovery from a backup
with a rotation to version zero, neither its history nor a backup can be had. -/
theorem readable_unless_version_zero_sample :
  (∃ records, (Operation.rotationHistory "c").outcome (.sample .kept) =
    (.ok records, .sample .kept)) ∧
  ∃ restored, (Operation.restoreBackup .versionZero "password").outcome (.sample .empty) =
      (.ok ⟨0, 0, 1⟩, restored) ∧
    (Operation.rotationHistory "c").outcome restored =
      (.error (.format "bad key version 0"), restored) ∧
    (Operation.createBackup "password").outcome restored =
      (.error (.format "bad key version 0"), restored)
  := by
  have hkept : (Device.sample .kept).database.Reachable := Database.reachable_kept
  have hrestore := Operation.outcome_restoreBackup_versionZero
  have hreachable := Database.Reachable.step (.restoreBackup .versionZero "password")
    (.sample .empty) .empty
  rw [hrestore] at hreachable
  constructor
  · obtain ⟨-, -, -, -, -, -, hhistory, -⟩ := readable_unless_version_zero hkept
    exact (hhistory "c").1 (by decide)
  · obtain ⟨-, -, -, -, -, -, hhistory, hbackup, -⟩ := readable_unless_version_zero hreachable
    refine ⟨_, hrestore, (hhistory "c").2 ?_, (hbackup "password" rfl).2 ?_⟩
    · exact ⟨_, List.mem_singleton.2 rfl, rfl⟩
    · intro hlog
      exact hlog _ (List.mem_singleton.2 rfl) rfl

end Keyring

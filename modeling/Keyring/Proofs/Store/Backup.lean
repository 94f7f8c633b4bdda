import Keyring.Proofs.Base64
import Keyring.Proofs.Record
import Keyring.Proofs.Sample
import Keyring.Proofs.Sealed
import Keyring.Proofs.Store.Snapshot

/-!
# From a backup to the same store

The envelope of a backup records everything that opening it takes, except for the password, so that
it opens wherever the same algorithm is configured.  What it then yields is the payload with the
records at the time of the backup, and these make the same rows again.
-/

namespace Keyring

/-! ### Opening an envelope -/

/-- What is built derives with the cost that it is built from. -/
theorem KdfParams.build_eq_ok_iff {p : KdfParams} {built : Strategy} :
  p.build = .ok built ↔ built.params = p
  := by
  rw [build]
  constructor
  · intro h
    split at h
    · cases h
      rfl
    · obtain ⟨_, -, h⟩ := Except.bind_eq_ok_iff.1 h
      cases h
  · rintro rfl
    rw [dif_pos built.isUsable]

/-- A strategy of the configured algorithm is found again by its cost, whatever cost is
configured. -/
theorem Settings.strategyFor_params {settings : Settings} {strategy : Strategy}
    (h : strategy.algorithm = settings.strategy.algorithm) :
  settings.strategyFor (some strategy.params) = .ok strategy
  := by
  have h' : strategy.params.algorithm = settings.strategy.algorithm := h
  rw [strategyFor, if_neg (not_not_intro h')]
  by_cases hp : strategy.params = settings.strategy.params
  · rw [if_pos hp]
    obtain ⟨params, husable⟩ := strategy
    obtain ⟨⟨params', husable'⟩, passwordFloor, autoLockSeconds⟩ := settings
    obtain rfl : params = params' := hp
    rfl
  · rw [if_neg hp, KdfParams.build_eq_ok_iff.2 rfl]
    rfl

namespace EncryptedBackup

/-- A field of bytes gives these bytes back. -/
theorem fixedField_encode {n : Nat} (field : String) (b : Block n) :
  fixedField n field (Base64.encode b.bytes) = .ok b
  := by
  rw [fixedField, Base64.decode_encode]
  simp [bind, Except.bind, pure, Except.pure]

/-- What was sealed in an envelope opens under the same password. -/
theorem openPayload_ofPayload {settings : Settings} {strategy : Strategy}
    (h : strategy.algorithm = settings.strategy.algorithm) (payload : Bytes) (password : String)
    (salt : Salt) (iv : Gcm.Iv) (now : Instant) :
  (ofPayload payload strategy.params password salt iv now).openPayload settings password =
    .ok payload
  := by
  have h' : strategy.params.algorithm = settings.strategy.algorithm := h
  have hopen := Sealed.plaintextOfParts_ofPlaintext (strategy.derive password salt) iv
    Purpose.backup.associatedData payload
  generalize hs : Sealed.ofPlaintext (strategy.derive password salt) iv
    Purpose.backup.associatedData payload = sealed at hopen
  have hs' : Sealed.ofPlaintext (strategy.params.derive password salt) iv
    Purpose.backup.associatedData payload = sealed := hs
  simp only [openPayload, ofPayload, hs', new, saltBytes, ivBytes, ciphertextBytes, h',
    fixedField_encode, Base64.decode_encode, Settings.strategyFor_params h, Except.mapError_ok, ne_eq,
    not_true_eq_false, if_false, bind, Except.bind, sealed.not_length_ciphertext_tag_lt,
    sealed.take_ciphertext_tag, sealed.drop_ciphertext_tag, hopen]

end EncryptedBackup

/-! ### Making a backup and restoring it -/

/-- A backup opens to the records that the database had, wherever the same algorithm is
configured. -/
theorem EncryptedBackup.toPayload_of_createBackup {source after : Device} {password : String}
    {backup : EncryptedBackup} (hsource : source.database.IsSound)
    (hbackup : (Operation.createBackup password).outcome source = (.ok backup, after)) :
  ∃ payload, BackupPayload.ofDatabase source.database source.clock.wall = .ok payload ∧
    ∀ settings : Settings, settings.strategy.algorithm = source.settings.strategy.algorithm →
      backup.toPayload settings password = .ok payload
  := by
  obtain ⟨payload, -, hpayload, hsealed, -⟩ := Action.createBackup_eq_ok_iff.1 hbackup
  obtain ⟨-, hformat, -⟩ := BackupPayload.ofDatabase_eq_ok_iff.1 hpayload
  use payload, hpayload
  intro settings halgorithm
  have hopened : backup.openPayload settings password = .ok payload.toBytes := by
    rw [hsealed]
    exact openPayload_ofPayload halgorithm.symm ..
  exact toPayload_eq_ok_iff.2
    ⟨_, hopened, payload.ofBytes?_toBytes, hformat, hsource.validate_eq_ok hpayload⟩

/-- A recovery from a backup of a sound database into a database without rows succeeds wherever the
same algorithm is configured: it reports the numbers of all rows, and makes the same rows beside the
metadata that were there. -/
theorem Operation.exists_outcome_restoreBackup {source after target : Device} {password : String}
    {backup : EncryptedBackup} (hsource : source.database.IsSound)
    (hbackup : (createBackup password).outcome source = (.ok backup, after))
    (halgorithm : target.settings.strategy.algorithm = source.settings.strategy.algorithm)
    (hbare : target.database.IsBare) :
  ∃ d : Database, (restoreBackup backup password).outcome target =
      (.ok ⟨source.database.keyPairs.length, source.database.conversationKeys.length,
        source.database.rotations.length⟩, { target with database := d }) ∧
    d.HasRowsOf source.database ∧ d.metadata = target.database.metadata
  := by
  obtain ⟨payload, hpayload, hopen⟩ := EncryptedBackup.toPayload_of_createBackup hsource hbackup
  obtain ⟨hrows, hmetadata⟩ := hsource.hasRowsOf_merge hpayload hbare
  obtain ⟨hk, hc, -⟩ := hsource.map_ofRecord hpayload
  have hkeyPairs := congrArg List.length hk
  have hconversationKeys := congrArg List.length hc
  rw [List.length_map, (Table.byId_perm _ _).length_eq] at hkeyPairs hconversationKeys
  refine ⟨_, Action.restoreBackup_eq_ok_iff.2 ⟨payload, hopen _ halgorithm, ?_, rfl⟩, hrows,
    hmetadata⟩
  rw [hkeyPairs, hconversationKeys, hrows.rotations, hbare.2.2]
  rfl

/-- The text of a backup of a reachable database records the backup, and with the same algorithm a
recovery from it into a database without rows succeeds: it reports the numbers of all rows and makes
the same rows, which are found by the same ids and give the same records.  The metadata are those
that were there. -/
theorem restore_of_createBackup {source after : Device} {password : String}
    {backup : EncryptedBackup} (hsource : source.database.Reachable)
    (hbackup : (Operation.createBackup password).outcome source = (.ok backup, after)) :
  EncryptedBackup.ofText backup.text = .ok backup ∧
    ∃ payload, BackupPayload.ofDatabase source.database source.clock.wall = .ok payload ∧
      ∀ target : Device, target.settings.strategy.algorithm = source.settings.strategy.algorithm →
        target.database.IsBare →
          ∃ restored,
            (Operation.restoreBackup backup password).outcome target =
              (.ok ⟨source.database.keyPairs.length, source.database.conversationKeys.length,
                source.database.rotations.length⟩, restored) ∧
            restored.database.HasRowsOf source.database ∧
            restored.database.metadata = target.database.metadata ∧
            (∀ id, restored.database.keyPair? id = source.database.keyPair? id) ∧
            (∀ id, restored.database.conversationKey? id = source.database.conversationKey? id) ∧
            (∀ id, restored.database.history id = source.database.history id) ∧
            BackupPayload.ofDatabase restored.database source.clock.wall = .ok payload
  := by
  have hsound := hsource.isSound
  obtain ⟨payload, -, hpayload, hsealed, -⟩ := Action.createBackup_eq_ok_iff.1 hbackup
  constructor
  · rw [hsealed]
    apply EncryptedBackup.ofText_text
  · use payload, hpayload
    intro target halgorithm hbare
    obtain ⟨d, hrestore, hrows, hmetadata⟩ :=
      Operation.exists_outcome_restoreBackup hsound hbackup halgorithm hbare
    exact ⟨_, hrestore, hrows, hmetadata, hrows.keyPair?_eq hsound,
      hrows.conversationKey?_eq hsound, hrows.history_eq,
      (hrows.ofDatabase_eq hsound _).trans hpayload⟩

/-- A backup of a sound database is made under every password that is long enough, unless the log
has an entry of version zero. -/
theorem Operation.exists_outcome_createBackup {device : Device} {password : String}
    (hp : Password.validate password device.settings.passwordFloor = .ok ())
    (hd : device.database.IsSound)
    (hr : ∀ row ∈ device.database.rotations, row.newVersion ≠ .integer 0) :
  ∃ backup after, (createBackup password).outcome device = (.ok backup, after)
  := by
  obtain ⟨payload, hpayload⟩ := hd.exists_ofDatabase hr device.clock.wall
  exact ⟨_, _, Action.createBackup_eq_ok_iff.2 ⟨payload, hp, hpayload, rfl, rfl⟩⟩

theorem Operation.exists_outcome_createBackup_sample :
  ∃ backup after, (createBackup "password").outcome (.sample .kept) = (.ok backup, after)
  := exists_outcome_createBackup rfl Database.reachable_kept.isSound (by decide)

/-- The sample device with the key of one conversation is backed up, cleared and restored. -/
theorem restore_of_createBackup_sample :
  ∃ backup after restored,
    (Operation.createBackup "password").outcome (.sample .kept) = (.ok backup, after) ∧
    EncryptedBackup.ofText backup.text = .ok backup ∧
    (Operation.restoreBackup backup "password").outcome
      (Operation.clearAll.outcome (.sample .kept)).2 = (.ok ⟨0, 1, 1⟩, restored) ∧
    restored.database.HasRowsOf .kept
  := by
  obtain ⟨backup, after, hbackup⟩ := Operation.exists_outcome_createBackup_sample
  have hkept : (Device.sample .kept).database.Reachable := Database.reachable_kept
  obtain ⟨htext, payload, -, h⟩ := restore_of_createBackup hkept hbackup
  have hbare : (Operation.clearAll.outcome (.sample .kept)).2.database.IsBare :=
    Database.isBare_clear _
  obtain ⟨restored, hrestore, hrows, -⟩ := h (Operation.clearAll.outcome (.sample .kept)).2 rfl hbare
  exact ⟨backup, after, restored, hbackup, htext, hrestore, hrows⟩

end Keyring

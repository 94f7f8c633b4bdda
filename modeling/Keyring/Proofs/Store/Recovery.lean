import Keyring.Proofs.Action
import Keyring.Proofs.Checks
import Keyring.Store.Recovery

/-!
# Backing up and restoring

A backup only takes random bytes.  A recovery writes what the payload says, and this only once
the payload has been opened and validated as a whole.
-/

namespace Keyring

/-- A backup gives the payload that its bytes record, if it opens, and if the payload is of the one
format and valid. -/
theorem EncryptedBackup.toPayload_eq_ok_iff {b : EncryptedBackup} {settings : Settings}
    {password : String} {payload : BackupPayload} :
  b.toPayload settings password = .ok payload ↔
    ∃ bytes, b.openPayload settings password = .ok bytes ∧
      BackupPayload.ofBytes? bytes = some payload ∧
      payload.formatVersion = backupFormatVersion ∧ payload.validate = .ok ()
  := by
  rw [toPayload, Except.bind_eq_ok_iff]
  apply exists_congr
  intro bytes
  apply and_congr_right'
  rcases BackupPayload.ofBytes? bytes with _ | read
  · simp
  · by_cases hv : read.formatVersion = backupFormatVersion
    · simp only [hv, ne_eq, not_true_eq_false, if_false, pure_bind, bind_pure_comp,
        Except.map_eq_ok_iff, Option.some.injEq]
      constructor
      · rintro ⟨⟨⟩, hr, rfl⟩
        exact ⟨rfl, hv, hr⟩
      · rintro ⟨rfl, -, hr⟩
        exact ⟨(), hr, rfl⟩
    · simp only [hv, ne_eq, not_false_eq_true, if_true, pure_bind, Except.throw_bind,
        Except.throw_ne_ok, Option.some.injEq, false_iff]
      rintro ⟨rfl, hv', -⟩
      exact hv hv'

namespace Action

open ExceptT

variable {password : String} {device after : Device} {backup : EncryptedBackup}

/-- A backup takes random bytes and does nothing else. -/
theorem createBackup_keeps {γ : Type} {view : Device → γ}
    (hdraw : ∀ n, (draw (Draw.block n)).Keeps view) (password : String) :
  (createBackup password).Keeps view
  := by
  unfold createBackup
  apply (validatePassword_keeps password).bind
  intro _
  apply database_keeps.bind
  intro d
  apply now_keeps.bind
  intro now
  apply (ofResult_keeps _).bind
  intro payload
  apply (hdraw 16).bind
  intro salt
  apply (hdraw 12).bind
  intro iv
  apply settings_keeps.bind
  intro settings
  apply keeps_pure

theorem createBackup_keeps_database (password : String) :
  (createBackup password).Keeps Device.database
  := createBackup_keeps (fun _ => draw_keeps_database _) password

/-- A backup is made if the password is long enough and all rows can be read. -/
theorem createBackup_eq_ok_iff :
  (createBackup password).outcome device = (.ok backup, after) ↔
    ∃ payload, Password.validate password device.settings.passwordFloor = .ok () ∧
      BackupPayload.ofDatabase device.database device.clock.wall = .ok payload ∧
      backup = .ofPayload payload.toBytes device.settings.strategy.params password
        (device.random.next 16) ((device.random.advance 16).next 12) payload.createdAt ∧
      after = device.withRandom ((device.random.advance 16).advance 12)
  := by
  rcases hp : Password.validate password device.settings.passwordFloor with e | ⟨⟩
  · simp [createBackup, outcome_bind_eq_ok_iff, hp]
  · rcases hd : BackupPayload.ofDatabase device.database device.clock.wall with e | payload
    · simp [createBackup, outcome_bind_eq_ok_iff, hp, hd]
    · simp [createBackup, outcome_bind_eq_ok_iff, hp, hd, Except.map, and_assoc,
        @eq_comm _ _ after, @eq_comm _ _ backup]

theorem restoreBackup_isAtomic (backup : EncryptedBackup) (password : String) :
  (restoreBackup backup password).IsAtomic Device.database
  := by
  unfold restoreBackup
  apply settings_keeps.bind_isAtomic
  intro settings
  apply (ofResult_keeps _).bind_isAtomic
  intro payload
  apply database_keeps.bind_isAtomic
  intro before
  apply isAtomic_of_isOk
  intro device
  rfl

/-- A recovery merges the payload, if the backup opens and its payload is valid. -/
theorem restoreBackup_eq_ok_iff {summary : RestoreSummary} :
  (restoreBackup backup password).outcome device = (.ok summary, after) ↔
    ∃ payload, backup.toPayload device.settings password = .ok payload ∧
      summary = ⟨payload.keyPairs.length, payload.conversationKeys.length,
        (device.database.merge payload).rotations.length - device.database.rotations.length⟩ ∧
      after = { device with database := device.database.merge payload }
  := by
  rcases h : backup.toPayload device.settings password with e | payload
  · simp [restoreBackup, outcome_bind_eq_ok_iff, h]
  · simp [restoreBackup, outcome_bind_eq_ok_iff, h, Except.map, and_assoc, @eq_comm _ _ after,
      @eq_comm _ _ summary]

@[simp]
theorem outcome_clearAll (device : Device) :
  clearAll.outcome device = (.ok (), { device with database := device.database.clear })
  := rfl

end Action

end Keyring

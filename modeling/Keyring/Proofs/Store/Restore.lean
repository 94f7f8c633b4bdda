import Keyring.Proofs.Store.Backup

/-!
# A recovery is an exact merge

A recovery from a backup whose payload is valid succeeds on every database, and makes of it what
merging the payload makes: no more and no less, and with the counts that it reports.  A second
recovery from the same backup finds everything in place.
-/

namespace Keyring

/-- Whether a backup opens to a payload with a password. -/
def EncryptedBackup.Holds (b : EncryptedBackup) (settings : Settings) (password : String)
    (p : BackupPayload) : Prop :=
  ∃ bytes, b.openPayload settings password = .ok bytes ∧ BackupPayload.ofBytes? bytes = some p

variable {settings : Settings} {password : String} {p : BackupPayload} {backup : EncryptedBackup}

/-- An envelope holds the payload that was sealed in it, wherever the same algorithm is
configured. -/
theorem EncryptedBackup.holds_ofPayload {strategy : Strategy}
    (h : strategy.algorithm = settings.strategy.algorithm) (p : BackupPayload) (password : String)
    (salt : Salt) (iv : Gcm.Iv) (now : Instant) :
  (ofPayload p.toBytes strategy.params password salt iv now).Holds settings password p
  := ⟨_, openPayload_ofPayload h .., p.ofBytes?_toBytes⟩

/-- A recovery merges a valid payload that the backup holds. -/
theorem EncryptedBackup.Holds.outcome_restoreBackup {device : Device}
    (h : backup.Holds device.settings password p) (hformat : p.formatVersion = backupFormatVersion)
    (hvalid : p.validate = .ok ()) :
  (Operation.restoreBackup backup password).outcome device =
    (.ok ⟨p.keyPairs.length, p.conversationKeys.length,
      (device.database.newRotations p.rotationHistory).length⟩,
      { device with database := device.database.merge p })
  := by
  obtain ⟨bytes, hopen, hread⟩ := h
  have hpayload : backup.toPayload device.settings password = .ok p :=
    toPayload_eq_ok_iff.2 ⟨bytes, hopen, hread, hformat, hvalid⟩
  apply Action.restoreBackup_eq_ok_iff.2
  refine ⟨p, hpayload, ?_, rfl⟩
  rw [Database.rotations_merge, List.length_append, List.length_map, Nat.add_sub_cancel_left]

/-- Whatever records a valid payload has, a database into which they are merged is reachable. -/
theorem Database.Reachable.merge {d : Database} (h : d.Reachable)
    (hformat : p.formatVersion = backupFormatVersion) (hvalid : p.validate = .ok ()) :
  (d.merge p).Reachable
  := by
  have halgorithm : Strategy.standard.algorithm = (Device.sample d).settings.strategy.algorithm := rfl
  obtain ⟨backup, hholds⟩ : ∃ backup : EncryptedBackup,
      backup.Holds (Device.sample d).settings "password" p :=
    ⟨_, EncryptedBackup.holds_ofPayload halgorithm p "password" (.zero 16) (.zero 12) .epoch⟩
  have hrestored := Reachable.step (.restoreBackup backup "password") (.sample d) h
  rw [hholds.outcome_restoreBackup hformat hvalid] at hrestored
  exact hrestored

/-- Every envelope with the algorithm of the device holds the valid payload that was sealed in it.
A recovery from a backup that holds the payload merges it into whatever database there is: what the
payload has last under an id is there, under every other id is what was there, and the log goes on
with the rotations of the payload that it does not have and that come first in the payload.  What it
reports are the numbers of the key pairs, of the conversation keys and of those rotations.  Another
recovery from that backup changes nothing and reports no rotations. -/
theorem restore_merges_exactly (device : Device) (password : String)
    (hformat : p.formatVersion = backupFormatVersion) (hvalid : p.validate = .ok ()) :
  (∀ strategy : Strategy, strategy.algorithm = device.settings.strategy.algorithm →
    ∀ salt iv now, (EncryptedBackup.ofPayload p.toBytes strategy.params password salt iv now).Holds
      device.settings password p) ∧
  ∀ backup : EncryptedBackup, backup.Holds device.settings password p →
    ∃ d : Database,
      (Operation.restoreBackup backup password).outcome device =
        (.ok ⟨p.keyPairs.length, p.conversationKeys.length,
          (device.database.newRotations p.rotationHistory).length⟩,
          { device with database := d }) ∧
      d.IsMergeOf device.database p ∧
      ∀ again : Device, again.database = d → backup.Holds again.settings password p →
        (Operation.restoreBackup backup password).outcome again =
          (.ok ⟨p.keyPairs.length, p.conversationKeys.length, 0⟩, again)
  := by
  constructor
  · intro strategy halgorithm salt iv now
    exact EncryptedBackup.holds_ofPayload halgorithm p password salt iv now
  · intro backup hbackup
    refine ⟨_, hbackup.outcome_restoreBackup hformat hvalid,
      device.database.isMergeOf_merge hvalid, ?_⟩
    intro again hagain hholds
    have hmerge : again.database.merge p = again.database := by
      rw [hagain, Database.merge_merge]
    have hnew : again.database.newRotations p.rotationHistory = [] := by
      rw [hagain]
      exact Database.newRotations_merge ..
    rw [hholds.outcome_restoreBackup hformat hvalid, hmerge, hnew]
    rfl

/-- A payload with two key pairs under one id, and with a rotation that the sample log has and
another one twice. -/
def BackupPayload.sample : BackupPayload where
  formatVersion := backupFormatVersion
  createdAt := .epoch
  keyPairs := [⟨"me", "first", "", .argon2id, none, .epoch⟩,
    ⟨"me", "second", "", .argon2id, none, .epoch⟩]
  conversationKeys := [⟨"c", "", "", "", 2, .epoch, none⟩]
  rotationHistory := [⟨"c", 0, 1, .epoch, "manual"⟩, ⟨"c", 1, 2, .epoch, "manual"⟩,
    ⟨"c", 1, 2, .epoch, "scheduled"⟩]

/-- The sample device with a rotated conversation is restored from an envelope of the sample
payload. -/
theorem restore_merges_exactly_sample :
  ∃ (backup : EncryptedBackup) (restored : Device),
    (Operation.restoreBackup backup "password").outcome (.sample .kept) =
      (.ok ⟨2, 1, 1⟩, restored) ∧
    (restored.database.keyPair? "me").map KeyPairRow.publicKey = some "second" ∧
    restored.database.rotations = Database.kept.rotations ++
      [.ofRecord ⟨"c", 1, 2, .epoch, "manual"⟩] ∧
    (Operation.restoreBackup backup "password").outcome restored = (.ok ⟨2, 1, 0⟩, restored)
  := by
  have hvalid : BackupPayload.sample.validate = .ok () := rfl
  obtain ⟨hholds, hrestores⟩ := restore_merges_exactly (.sample .kept) "password" rfl hvalid
  obtain ⟨d, hrestore, hmerge, hagain⟩ :=
    hrestores _ (hholds .standard rfl (.zero 16) (.zero 12) .epoch)
  refine ⟨_, _, hrestore, ?_, hmerge.rotations_eq, hagain _ rfl ?_⟩
  · rw [Device.sample, hmerge.keyPair?_eq]
    rfl
  · exact hholds .standard rfl (.zero 16) (.zero 12) .epoch

end Keyring

import Keyring.Proofs.Store.Backup
import Keyring.Proofs.Store.Rotation

/-!
# Which way versions go

A stored key gives way to one of a smaller version only in a recovery.  Storing refuses an older
version and a rotation goes to the next one, but a recovery puts the keys of the backup in the place
of the stored ones as they are, so that each conversation of the backup is at the version of the
backup, whichever is newer.
-/

namespace Keyring

/-! ### Versions in a payload -/

/-- The version of a conversation in a list of records; of several ones, the last one counts. -/
def StoredConversationKey.lastVersion? (ks : List StoredConversationKey) (id : String) :
    Option UInt32 :=
  (ks.reverse.find? fun k => k.conversationId == id).map version

/-- The version at which a payload has a conversation. -/
def BackupPayload.version? (p : BackupPayload) (id : String) : Option UInt32 :=
  StoredConversationKey.lastVersion? p.conversationKeys id

namespace Database

variable {d : Database} {id : String} {current? : Option UInt32} {p : BackupPayload}

/-- The version of a conversation depends on its row alone. -/
theorem liveVersion?_congr {d' : Database} (h : d'.conversationKey? id = d.conversationKey? id) :
  d'.liveVersion? id = d.liveVersion? id
  := by
  rw [liveVersion?, h]
  rfl

/-- A recovery puts a conversation to the version of the payload, if the payload has it. -/
theorem liveVersion?_merge (hp : p.validate = .ok ()) (hd : d.liveVersion? id = .ok current?) :
  (d.merge p).liveVersion? id = .ok ((p.version? id).or current?)
  := by
  have hversion : p.version? id = (p.conversationKey? id).map StoredConversationKey.version := rfl
  have hrow := d.conversationKey?_merge p id
  rw [hversion]
  rcases hk : p.conversationKey? id with _ | k
  · rw [hk] at hrow
    rw [liveVersion?_congr hrow, hd]
    rfl
  · rw [hk] at hrow
    obtain ⟨hmem, -⟩ := BackupPayload.mem_of_conversationKey? hk
    have hvalid := (BackupPayload.validate_eq_ok_iff.1 hp).2 k hmem
    exact liveVersion?_of_conversationKey? hrow
      (BackupPayload.validateConversationKey_eq_ok_iff.1 hvalid).2

/-- A payload has every conversation at the version that it had in the database. -/
theorem IsSound.liveVersion?_eq (h : d.IsSound) {now : Instant}
    (hp : BackupPayload.ofDatabase d now = .ok p) (id : String) :
  d.liveVersion? id = .ok (p.version? id)
  := by
  obtain ⟨hrows, -⟩ := h.hasRowsOf_merge hp isBare_empty
  have hnone : Database.empty.liveVersion? id = .ok none := rfl
  have hmerge := liveVersion?_merge (h.validate_eq_ok hp) hnone
  rw [liveVersion?_congr (hrows.conversationKey?_eq h id), Option.or_none] at hmerge
  exact hmerge

end Database

/-! ### Steps -/

namespace Operation

variable {α : Type}

/-- Whether an operation leaves a conversation with a key: only the two that delete it do not. -/
def KeepsKey (id : String) (op : Operation α) : Prop :=
  match op with
  | deleteConversationKey other => id ≠ other
  | clearAll => False
  | _ => True

/-- Whether an operation is a recovery from a backup that has a conversation at a version. -/
def Restores (id : String) (version : UInt32) (device : Device) (op : Operation α) : Prop :=
  match op with
  | restoreBackup backup password => ∃ payload,
      backup.toPayload device.settings password = .ok payload ∧ payload.version? id = some version
  | _ => False

variable {op : Operation α} {device : Device} {d : Database} {id : String} {current : UInt32}
  {live? : Option UInt32}

/-- A recovery puts a conversation to the version of the backup, if the backup has it. -/
theorem exists_liveVersion?_restoreBackup {backup : EncryptedBackup} {password : String}
    {payload : BackupPayload} (hpayload : backup.toPayload device.settings password = .ok payload)
    (hlive : device.database.liveVersion? id = .ok live?) :
  ∃ summary after, (restoreBackup backup password).outcome device = (.ok summary, after) ∧
    after.database.liveVersion? id = .ok ((payload.version? id).or live?)
  := by
  obtain ⟨-, -, -, -, hvalid⟩ := EncryptedBackup.toPayload_eq_ok_iff.1 hpayload
  exact ⟨_, _, Action.restoreBackup_eq_ok_iff.2 ⟨payload, hpayload, rfl, rfl⟩,
    Database.liveVersion?_merge hvalid hlive⟩

/-- A rotation that the log allows takes a conversation to the next version. -/
theorem exists_outcome_rotateConversationKey {master : Key} {secret : Bytes} {new : UInt32}
    {key : ConversationKey} (reason : String) (hd : device.database.IsSound)
    (hk : device.key? = some master) (hlive : device.database.liveVersion? id = .ok live?)
    (hnew : Action.nextVersion (live?.getD 0) = .ok new)
    (hkey : ConversationKey.derive secret id new = .ok key)
    (hlog : device.database.hasRotation id (.integer new.toNat) = false) :
  ∃ after, (rotateConversationKey id secret reason).outcome device =
      (.ok (Action.rotationRecord device id (live?.getD 0) new reason), after) ∧
    after.settings = device.settings ∧ after.database.liveVersion? id = .ok (some new)
  := by
  have hrotate := Action.outcome_rotateConversationKey reason hk hlive hnew hkey
  rw [hlog] at hrotate
  exact ⟨_, hrotate, rfl, (hd.liveVersion?_rotated master id key hnew _ id).trans (if_pos rfl)⟩

/-- What an operation does to the version of a conversation that keeps its key: it does not become
smaller, or it is the version of a backup. -/
theorem Effect.le_liveVersion? (h : Effect op device d) (hop : op.KeepsKey id)
    (hd : device.database.IsSound)
    (hcurrent : device.database.liveVersion? id = .ok (some current)) :
  ∃ version, d.liveVersion? id = .ok (some version) ∧
    (current ≤ version ∨ op.Restores id version device)
  := by
  -- Most effects leave the row of the conversation as it is.
  have hsame : device.database.liveVersion? id = .ok (some current) ∧
      (current ≤ current ∨ op.Restores id current device) :=
    ⟨hcurrent, .inl (UInt32.le_refl _)⟩
  cases h with
  | nothing => exact ⟨current, hsame⟩
  | storeKeyPair => exact ⟨current, hsame⟩
  | deleteKeyPair => exact ⟨current, hsame⟩
  | storeConversationKey other key version _ master live? _ _ hversion hlive hle =>
    have hput := hd.liveVersion?_updateConversationKey id (k := .ofSealed other
      (key.wrapped master (device.random.next 12) other version) version device.clock.wall none)
      hversion
    rw [hput]
    by_cases hid : other = id
    · obtain rfl := hid
      cases hlive.symm.trans hcurrent
      exact ⟨version, if_pos rfl, .inl (hle current rfl)⟩
    · exact ⟨current, (if_neg hid).trans hcurrent, .inl (UInt32.le_refl _)⟩
  | deleteConversationKey other =>
    use current
    rw [Database.liveVersion?_eraseConversationKey other hop]
    exact hsame
  | rotateConversationKey other secret reason _ master live? new key _ hlive hnew _ _ =>
    have hput := hd.liveVersion?_rotated master other key hnew
    by_cases hid : other = id
    · obtain rfl := hid
      cases hlive.symm.trans hcurrent
      obtain ⟨hlast, rfl⟩ := Action.nextVersion_eq_ok_iff.1 hnew
      have hlt : (current + 1).toNat = current.toNat + 1 := UInt32.toNat_add_one hlast
      have hle : current ≤ current + 1 := by
        rw [UInt32.le_iff_toNat_le]
        omega
      exact ⟨current + 1, (hput _ other).trans (if_pos rfl), .inl hle⟩
    · exact ⟨current, (hput _ id).trans ((if_neg hid).trans hcurrent), .inl (UInt32.le_refl _)⟩
  | unlock _ _ strategy salt =>
    obtain ⟨metadata, he⟩ := device.database.addMaster_eq salt strategy.params _
    rw [he]
    exact ⟨current, hsame⟩
  | restoreBackup backup password _ payload hpayload =>
    obtain ⟨-, -, -, -, hvalid⟩ := EncryptedBackup.toPayload_eq_ok_iff.1 hpayload
    rw [Database.liveVersion?_merge hvalid hcurrent]
    rcases hversion : payload.version? id with _ | version
    · exact ⟨current, rfl, .inl (UInt32.le_refl _)⟩
    · exact ⟨version, rfl, .inr ⟨payload, hpayload, hversion⟩⟩
  | clearAll => cases hop

/-- Whether an operation leaves a conversation with a key and is not a recovery from a backup that
has it at an older version. -/
def KeepsVersion (id : String) (α : Type) (op : Operation α) (device : Device) : Prop :=
  op.KeepsKey id ∧ ∀ current version, device.database.liveVersion? id = .ok (some current) →
    op.Restores id version device → current ≤ version

end Operation

/-- The version of a conversation does not become smaller in a run that keeps its key and has no
recovery from a backup with an older version. -/
theorem Database.Run.le_liveVersion? {d d' : Database} {id : String} {current : UInt32}
    (h : d.Run (Operation.KeepsVersion id) d') (hd : d.IsSound)
    (hcurrent : d.liveVersion? id = .ok (some current)) :
  ∃ version, d'.liveVersion? id = .ok (some version) ∧ current ≤ version
  := by
  have hinv : d'.IsSound ∧ ∃ version, d'.liveVersion? id = .ok (some version) ∧
      current ≤ version := by
    apply h.invariant (P := fun d' => d'.IsSound ∧
      ∃ version, d'.liveVersion? id = .ok (some version) ∧ current ≤ version)
    · exact ⟨hd, current, hcurrent, UInt32.le_refl _⟩
    · rintro α op device d' ⟨hkeeps, hrestores⟩ ⟨hsound, before, hbefore, hle⟩ he
      obtain ⟨version, hversion, hle' | hrestored⟩ := he.le_liveVersion? hkeeps hsound hbefore
      · exact ⟨he.isSound hsound, version, hversion, UInt32.le_trans hle hle'⟩
      · have hle' := hrestores before version hbefore hrestored
        exact ⟨he.isSound hsound, version, hversion, UInt32.le_trans hle hle'⟩
  exact hinv.2

/-- Where a conversation has a key and keeps it, its version becomes smaller only in a recovery from
a backup that has the conversation at that version.  A recovery puts every conversation of the backup
to the version of the backup, and leaves the versions of the others.  In a run without deletions and
without recoveries of older versions, the version never becomes smaller. -/
theorem version_decreases_only_in_recovery {device : Device} {id : String} {current : UInt32}
    (hdevice : device.database.Reachable)
    (hcurrent : device.database.liveVersion? id = .ok (some current)) :
  (∀ (α : Type) (op : Operation α), op.KeepsKey id →
    ∃ version, (op.outcome device).2.database.liveVersion? id = .ok (some version) ∧
      (current ≤ version ∨ op.Restores id version device)) ∧
  (∀ (backup : EncryptedBackup) (password : String) (payload : BackupPayload),
    backup.toPayload device.settings password = .ok payload →
      ∃ summary after,
        (Operation.restoreBackup backup password).outcome device = (.ok summary, after) ∧
        after.database.liveVersion? id = .ok ((payload.version? id).or (some current))) ∧
  ∀ later : Database, device.database.Run (Operation.KeepsVersion id) later →
    ∃ version, later.liveVersion? id = .ok (some version) ∧ current ≤ version
  := by
  have hsound := hdevice.isSound
  refine ⟨?_, ?_, ?_⟩
  · intro α op hop
    exact (op.effect device).le_liveVersion? hop hsound hcurrent
  · intro backup password payload hpayload
    exact Operation.exists_liveVersion?_restoreBackup hpayload hcurrent
  · intro later hrun
    exact hrun.le_liveVersion? hsound hcurrent

/-- The sample conversation, rotated once, goes on to the next version when it is rotated again. -/
theorem version_decreases_only_in_recovery_sample :
  ∃ version, ((Operation.rotateConversationKey "c" (List.replicate 32 0) "manual").outcome
    (.sample .kept)).2.database.liveVersion? "c" = .ok (some version) ∧ 1 ≤ version
  := by
  have hkept : (Device.sample .kept).database.Reachable := Database.reachable_kept
  have hlive : (Device.sample .kept).database.liveVersion? "c" = .ok (some 1) := rfl
  obtain ⟨hstep, -⟩ := version_decreases_only_in_recovery hkept hlive
  obtain ⟨version, hversion, hle | hrestores⟩ := hstep _
    (.rotateConversationKey "c" (List.replicate 32 0) "manual") trivial
  · exact ⟨version, hversion, hle⟩
  · cases hrestores

/-- The sample conversation is backed up at version 1 and rotated to version 2; a recovery from the
backup takes it back to version 1. -/
theorem version_decreases_on_recovery :
  Database.kept.Reachable ∧ ∃ backup made record rotated summary restored,
    (Operation.createBackup "password").outcome (.sample .kept) = (.ok backup, made) ∧
    (Operation.rotateConversationKey "c" (List.replicate 32 0) "manual").outcome made =
      (.ok record, rotated) ∧
    rotated.database.liveVersion? "c" = .ok (some 2) ∧
    (Operation.restoreBackup backup "password").outcome rotated = (.ok summary, restored) ∧
    restored.database.liveVersion? "c" = .ok (some 1)
  := by
  have hsound := Database.reachable_kept.isSound
  have hlive : Database.kept.liveVersion? "c" = .ok (some 1) := rfl
  have hnext : Action.nextVersion 1 = .ok 2 := rfl
  have hderive : ConversationKey.derive (List.replicate 32 0) "c" 2 =
      .ok (.derived (List.replicate 32 0) "c" 2) :=
    ConversationKey.derive_eq_ok_iff.2 ⟨rfl, by decide, rfl⟩
  obtain ⟨backup, made, hbackup⟩ := Operation.exists_outcome_createBackup_sample
  obtain ⟨payload, hpayload, hopen⟩ := EncryptedBackup.toPayload_of_createBackup hsound hbackup
  have hversion : payload.version? "c" = some 1 :=
    Except.ok.inj ((hsound.liveVersion?_eq hpayload "c").symm.trans hlive)
  obtain ⟨-, -, -, -, hmade⟩ := Action.createBackup_eq_ok_iff.1 hbackup
  have hdatabase : made.database = .kept := by
    rw [hmade]
    rfl
  have hkey : made.key? = some (.zero 32) := by
    rw [hmade]
    rfl
  have hlog : made.database.hasRotation "c" (.integer 2) = false := by
    rw [hdatabase]
    rfl
  rw [← hdatabase] at hsound hlive
  obtain ⟨rotated, hrotate, hsettings, htwo⟩ :=
    Operation.exists_outcome_rotateConversationKey "manual" hsound hkey hlive hnext hderive hlog
  have halgorithm : rotated.settings.strategy.algorithm =
      (Device.sample .kept).settings.strategy.algorithm := by
    rw [hsettings, hmade]
    rfl
  obtain ⟨summary, restored, hrestore, hone⟩ :=
    Operation.exists_liveVersion?_restoreBackup (hopen rotated.settings halgorithm) htwo
  rw [hversion] at hone
  exact ⟨Database.reachable_kept, backup, made, _, rotated, summary, restored, hbackup, hrotate,
    htwo, hrestore, hone⟩

end Keyring

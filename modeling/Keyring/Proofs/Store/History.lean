import Keyring.Proofs.Store.Readability
import Keyring.Proofs.Store.Restore

/-!
# The log only grows

Clearing the store empties the log; nothing else takes a rotation out of it or changes one that is
there.  A rotation adds its own record at the end, a recovery those of the backup that are new, and
whatever else is done leaves the log as it is.  A history that was read once is therefore the
beginning of every later one, unless a recovery has put a rotation to version zero into the log: then
the rows are all there as before, but they cannot be read any more.
-/

namespace Keyring

/-- What a device gives as the history of a conversation. -/
def Device.history (device : Device) (id : String) : Except StoreError (List RotationRecord) :=
  ((Operation.rotationHistory id).outcome device).1

theorem Device.history_eq (device : Device) (id : String) :
  device.history id = device.database.history id
  := congrArg Prod.fst (Action.outcome_rotationHistory id device)

/-! ### Rows and records -/

namespace Database

variable {d : Database} {id : String} {records : List RotationRecord}

/-- The rows of a conversation are followed by those of the conversation that are added. -/
theorem rotationsOf_append {d' : Database} {added : List RotationRecord}
    (h : d'.rotations = d.rotations ++ added.map .ofRecord) (id : String) :
  d'.rotationsOf id =
    d.rotationsOf id ++ (added.filter fun r => r.conversationId == id).map .ofRecord
  := by
  rw [rotationsOf, h, List.filter_append, List.filter_map]
  rfl

theorem rotationsOf_congr {d' : Database} (h : d'.rotations = d.rotations) (id : String) :
  d'.rotationsOf id = d.rotationsOf id
  := by
  rw [rotationsOf, h]
  rfl

namespace IsSound

/-- What is read as the history are the records of the rows in their order, and none of them led to
version zero. -/
theorem history_eq_ok_iff (h : d.IsSound) :
  d.history id = .ok records ↔
    d.rotationsOf id = records.map .ofRecord ∧ ∀ r ∈ records, r.newVersion ≠ 0
  := by
  rw [h.history_eq]
  constructor
  · intro hread
    have hrows : records.map RotationRow.ofRecord = d.rotationsOf id :=
      Except.map_of_mapM_eq_ok hread fun row hrow _ =>
        h.toRecord_rotation (rotationsOf_subset d id hrow)
    use hrows.symm
    intro r hr hzero
    obtain ⟨row, hrow, hrecord⟩ := Except.exists_mem_of_mapM_eq_ok hread hr
    rw [← h.toRecord_rotation (rotationsOf_subset d id hrow) hrecord,
      RotationRow.toRecord_ofRecord_of_zero hzero] at hrecord
    cases hrecord
  · rintro ⟨hrows, hpositive⟩
    rw [hrows]
    exact Except.mapM_map_of_forall fun r hr => RotationRow.toRecord_ofRecord (hpositive r hr)

/-- A history is about its conversation. -/
theorem conversationId_of_history (h : d.IsSound) (hread : d.history id = .ok records) :
  ∀ r ∈ records, r.conversationId = id
  := by
  intro r hr
  have hmem : RotationRow.ofRecord r ∈ d.rotationsOf id := by
    rw [(h.history_eq_ok_iff.1 hread).1]
    exact List.mem_map_of_mem hr
  exact eq_of_beq (List.mem_filter.1 hmem).2

/-- No two records of a history led to the same version. -/
theorem nodup_newVersion (h : d.IsSound) (hread : d.history id = .ok records) :
  (records.map RotationRecord.newVersion).Nodup
  := by
  have hrows : ((records.map RotationRow.ofRecord).map RotationRow.entry).Nodup := by
    rw [← (h.history_eq_ok_iff.1 hread).1]
    exact h.nodup_rotations.sublist (List.filter_sublist.map _)
  rw [List.map_map] at hrows
  apply List.Nodup.of_map fun version : UInt32 => (id, IntegerCell.integer version.toNat)
  rw [List.map_map]
  convert hrows using 1
  apply List.map_congr_left
  intro r hr
  rw [Function.comp, ← h.conversationId_of_history hread r hr]
  rfl

/-- What is added to the log goes on with the history, if it can be read. -/
theorem history_append {d' : Database} {added : List RotationRecord} (h : d.IsSound)
    (h' : d'.IsSound) (hadded : d'.rotations = d.rotations ++ added.map .ofRecord)
    (hread : d.history id = .ok records)
    (hpositive : ∀ r ∈ added, r.conversationId = id → r.newVersion ≠ 0) :
  d'.history id = .ok (records ++ added.filter fun r => r.conversationId == id)
  := by
  obtain ⟨hrows, hrecords⟩ := h.history_eq_ok_iff.1 hread
  rw [h'.history_eq_ok_iff, rotationsOf_append hadded, hrows, List.map_append]
  use rfl
  intro r hr
  rcases List.mem_append.1 hr with hr | hr
  · exact hrecords r hr
  · obtain ⟨hr, hid⟩ := List.mem_filter.1 hr
    exact hpositive r hr (eq_of_beq hid)

end IsSound

/-- The history of a conversation depends on its rows alone. -/
theorem history_congr {d' : Database} (h : d'.rotationsOf id = d.rotationsOf id) :
  d'.history id = d.history id
  := by
  rw [history, h]
  rfl

end Database

/-! ### Steps -/

namespace Operation

variable {α : Type}

/-- Whether an operation leaves in the log what is there: all but clearing do. -/
def KeepsLog (α : Type) (op : Operation α) (_ : Device) : Prop :=
  match op with
  | clearAll => False
  | _ => True

/-- Whether an operation on a device may put a rotation into the log. -/
def MayAdd (op : Operation α) (device : Device) (r : RotationRecord) : Prop :=
  match op with
  | rotateConversationKey id _ reason => ∃ current?,
      device.database.liveVersion? id = .ok current? ∧ r.conversationId = id ∧
        r.oldVersion = current?.getD 0 ∧ r.newVersion.toNat = r.oldVersion.toNat + 1 ∧
        r.rotatedAt = device.clock.wall ∧ r.reason = reason
  | restoreBackup backup password => ∃ payload,
      backup.toPayload device.settings password = .ok payload ∧ r ∈ payload.rotationHistory
  | _ => False

/-- Whether an operation leaves the log as it is. -/
def LeavesLog (op : Operation α) : Prop :=
  match op with
  | rotateConversationKey _ _ _ => False
  | restoreBackup _ _ => False
  | clearAll => False
  | _ => True

/-- Whether an operation leaves the history of a conversation as it can be read: all but clearing do,
and but the recovery from a backup with a rotation of the conversation to version zero. -/
def KeepsHistory (id : String) (α : Type) (op : Operation α) (device : Device) : Prop :=
  match op with
  | restoreBackup backup password => ∀ payload,
      backup.toPayload device.settings password = .ok payload →
        ∀ r ∈ payload.rotationHistory, r.conversationId = id → r.newVersion ≠ 0
  | clearAll => False
  | _ => True

variable {op : Operation α} {device : Device} {d : Database} {id : String}
  {records : List RotationRecord}

/-- A rotation adds the next version after the stored one. -/
theorem mayAdd_rotationRecord {secret : Bytes} {reason : String} {current? : Option UInt32}
    {new : UInt32} (hlive : device.database.liveVersion? id = .ok current?)
    (hnew : Action.nextVersion (current?.getD 0) = .ok new) :
  (rotateConversationKey id secret reason).MayAdd device
    (Action.rotationRecord device id (current?.getD 0) new reason)
  := by
  obtain ⟨hlast, rfl⟩ := Action.nextVersion_eq_ok_iff.1 hnew
  exact ⟨current?, hlive, rfl, rfl, UInt32.toNat_add_one hlast, rfl, rfl⟩

/-- What an operation does to the log: it adds some rotations at the end. -/
theorem Effect.exists_rotations_eq (h : Effect op device d) (hop : op.KeepsLog α device) :
  ∃ added : List RotationRecord,
    d.rotations = device.database.rotations ++ added.map .ofRecord ∧
      ∀ r ∈ added, op.MayAdd device r
  := by
  have hsame : ∃ added : List RotationRecord,
      device.database.rotations = device.database.rotations ++ added.map .ofRecord ∧
        ∀ r ∈ added, op.MayAdd device r :=
    ⟨[], (List.append_nil _).symm, fun r hr => absurd hr List.not_mem_nil⟩
  cases h with
  | nothing => exact hsame
  | storeKeyPair => exact hsame
  | deleteKeyPair => exact hsame
  | storeConversationKey => exact hsame
  | deleteConversationKey => exact hsame
  | rotateConversationKey other secret reason _ master current? new key _ hlive hnew =>
    use [Action.rotationRecord device other (current?.getD 0) new reason], rfl
    intro r hr
    rw [List.mem_singleton.1 hr]
    exact mayAdd_rotationRecord hlive hnew
  | unlock _ _ strategy salt =>
    obtain ⟨metadata, he⟩ := device.database.addMaster_eq salt strategy.params _
    rw [he]
    exact hsame
  | restoreBackup backup password _ payload hpayload =>
    use device.database.newRotations payload.rotationHistory, device.database.rotations_merge _
    intro r hr
    exact ⟨payload, hpayload, (Database.newRotations_sublist _ _).subset hr⟩
  | clearAll => cases hop

theorem Effect.rotations_eq (h : Effect op device d) (hop : op.LeavesLog) :
  d.rotations = device.database.rotations
  := by
  cases h with
  | rotateConversationKey => cases hop
  | restoreBackup => cases hop
  | clearAll => cases hop
  | unlock _ _ strategy salt =>
    obtain ⟨metadata, he⟩ := device.database.addMaster_eq salt strategy.params _
    rw [he]
  | _ => rfl

theorem KeepsHistory.keepsLog (hop : op.KeepsHistory id α device) :
  op.KeepsLog α device
  := by
  cases op with
  | clearAll => cases hop
  | _ => trivial

/-- What may be put into the log can be read, unless a backup has it with version zero. -/
theorem MayAdd.newVersion_ne_zero {r : RotationRecord} (h : op.MayAdd device r)
    (hop : op.KeepsHistory id α device) (hid : r.conversationId = id) :
  r.newVersion ≠ 0
  := by
  cases op with
  | rotateConversationKey other secret reason =>
    obtain ⟨_, -, -, -, hnew, -, -⟩ := h
    intro hzero
    rw [hzero, UInt32.toNat_zero] at hnew
    omega
  | restoreBackup backup password =>
    obtain ⟨payload, hpayload, hr⟩ := h
    exact hop payload hpayload r hr hid
  | _ => cases h

/-- A rotation that succeeds adds its record. -/
theorem rotations_of_rotateConversationKey {secret : Bytes} {reason : String}
    {record : RotationRecord} {after : Device}
    (h : (rotateConversationKey id secret reason).outcome device = (.ok record, after)) :
  after.database.rotations = device.database.rotations ++ [record].map .ofRecord ∧
    (rotateConversationKey id secret reason).MayAdd device record
  := by
  obtain ⟨_, _, _, _, -, hlive, hnew, -, -, rfl, hafter⟩ := Action.rotateConversationKey_eq_ok h
  rw [hafter]
  exact ⟨rfl, mayAdd_rotationRecord hlive hnew⟩

/-- The record of a rotation of the conversation stands at the end of its history. -/
theorem history_of_rotateConversationKey {secret : Bytes} {reason : String}
    {record : RotationRecord} {after : Device} (hd : device.database.IsSound)
    (hread : device.database.history id = .ok records)
    (h : (rotateConversationKey id secret reason).outcome device = (.ok record, after)) :
  after.database.history id = .ok (records ++ [record])
  := by
  obtain ⟨hadded, hmay⟩ := rotations_of_rotateConversationKey h
  have hsound := ((rotateConversationKey id secret reason).effect device).isSound hd
  rw [h] at hsound
  have hid : record.conversationId = id := by
    obtain ⟨_, -, hid, -⟩ := hmay
    exact hid
  have hpositive : ∀ r ∈ [record], r.conversationId = id → r.newVersion ≠ 0 := by
    intro r hr
    rw [List.mem_singleton.1 hr]
    exact hmay.newVersion_ne_zero trivial
  have happend := hd.history_append hsound hadded hread hpositive
  rwa [List.filter_singleton, hid, beq_self_eq_true] at happend

/-- A rotation of another conversation leaves a history as it is. -/
theorem history_of_rotateConversationKey_of_ne {other : String} {secret : Bytes} {reason : String}
    {record : RotationRecord} {after : Device} (hother : other ≠ id)
    (h : (rotateConversationKey other secret reason).outcome device = (.ok record, after)) :
  after.database.history id = device.database.history id
  := by
  obtain ⟨hadded, -, -, hid, -⟩ := rotations_of_rotateConversationKey h
  apply Database.history_congr
  rw [Database.rotationsOf_append hadded, List.filter_singleton, hid, beq_eq_false_iff_ne.2 hother]
  exact List.append_nil _

/-- A history that was read is the beginning of the one after an operation. -/
theorem Effect.exists_history_eq (h : Effect op device d) (hop : op.KeepsHistory id α device)
    (hd : device.database.IsSound) (hread : device.database.history id = .ok records) :
  ∃ new, d.history id = .ok (records ++ new)
  := by
  obtain ⟨added, hadded, hmay⟩ := h.exists_rotations_eq hop.keepsLog
  exact ⟨_, hd.history_append (h.isSound hd) hadded hread fun r hr hid =>
    (hmay r hr).newVersion_ne_zero hop hid⟩

end Operation

/-! ### Runs -/

namespace Database.Run

variable {d d' : Database} {id : String} {records : List RotationRecord}

/-- The rows of a conversation are the first ones at the end of a run, in their order. -/
theorem rotationsOf_prefix (h : d.Run Operation.KeepsLog d') (id : String) :
  d.rotationsOf id <+: d'.rotationsOf id
  := by
  apply h.invariant (P := fun d' => d.rotationsOf id <+: d'.rotationsOf id) (List.prefix_refl _)
  intro α op device d' hop hP he
  obtain ⟨added, hadded, -⟩ := he.exists_rotations_eq hop
  rw [rotationsOf_append hadded]
  exact hP.trans (List.prefix_append _ _)

/-- A history that was read is the beginning of the one at the end of a run. -/
theorem exists_history_eq (h : d.Run (Operation.KeepsHistory id) d') (hd : d.IsSound)
    (hread : d.history id = .ok records) :
  ∃ new, d'.history id = .ok (records ++ new)
  := by
  have hinv : d'.IsSound ∧ ∃ new, d'.history id = .ok (records ++ new) := by
    apply h.invariant (P := fun d' => d'.IsSound ∧ ∃ new, d'.history id = .ok (records ++ new))
    · exact ⟨hd, [], by rw [List.append_nil, hread]⟩
    · rintro α op device d' hop ⟨hsound, new, hnew⟩ he
      obtain ⟨more, hmore⟩ := he.exists_history_eq hop hsound hnew
      exact ⟨he.isSound hsound, new ++ more, by rw [hmore, List.append_assoc]⟩
  exact hinv.2

end Database.Run

/-! ### The log of a store -/

/-- A recovery that puts a rotation of a conversation to version zero into the log succeeds, and then
the history of the conversation cannot be read. -/
theorem Operation.exists_history_restoreBackup_of_zero {device : Device} {id password : String}
    {backup : EncryptedBackup} {payload : BackupPayload} (hd : device.database.IsSound)
    (hpayload : backup.toPayload device.settings password = .ok payload)
    (hzero : ∃ r ∈ payload.rotationHistory, r.conversationId = id ∧ r.newVersion = 0) :
  ∃ summary after, (restoreBackup backup password).outcome device = (.ok summary, after) ∧
    after.history id = .error (.format "bad key version 0")
  := by
  refine ⟨_, _, Action.restoreBackup_eq_ok_iff.2 ⟨payload, hpayload, rfl, rfl⟩, ?_⟩
  obtain ⟨r, hr, rfl, hversion⟩ := hzero
  obtain ⟨-, -, -, -, hvalid⟩ := EncryptedBackup.toPayload_eq_ok_iff.1 hpayload
  have hlog := device.database.hasRotation_merge hr
  rw [hversion, Database.hasRotation, List.any_eq_true] at hlog
  obtain ⟨row, hrow, hmatch⟩ := hlog
  rw [Bool.and_eq_true, beq_iff_eq, beq_iff_eq] at hmatch
  obtain ⟨hid, hnew⟩ := hmatch
  have hmem : row ∈ (device.database.merge payload).rotationsOf r.conversationId :=
    List.mem_filter.2 ⟨hrow, beq_iff_eq.2 hid⟩
  rw [Device.history_eq, (hd.merge hvalid).history_eq]
  exact (hd.merge hvalid).mapM_rotations_of_zero (Database.rotationsOf_subset _ _)
    ⟨row, hmem, hnew⟩

/-- In a run without clearing, the rows of a conversation stay the first ones of the log as they are.
A history that was read has no two records that led to the same version; it is the beginning of every
later history, and after a rotation of the conversation it has one more record, the one of that
rotation.  A rotation of another conversation leaves it as it is, and so does every operation that
fails, and every one that is no rotation, no recovery and no clearing.  Only a recovery from a backup
that has a rotation of the conversation to version zero leads to a history that cannot be read. -/
theorem log_is_append_only {device : Device} (hdevice : device.database.Reachable) (id : String) :
  (∀ later : Database, device.database.Run Operation.KeepsLog later →
    device.database.rotationsOf id <+: later.rotationsOf id) ∧
  (∀ records, device.history id = .ok records →
    (records.map RotationRecord.newVersion).Nodup ∧
    (∀ later : Device, device.database.Run (Operation.KeepsHistory id) later.database →
      ∃ new, later.history id = .ok (records ++ new)) ∧
    ∀ secret reason record after,
      (Operation.rotateConversationKey id secret reason).outcome device = (.ok record, after) →
        after.history id = .ok (records ++ [record])) ∧
  (∀ other secret reason record after,
    (Operation.rotateConversationKey other secret reason).outcome device = (.ok record, after) →
      (Operation.rotateConversationKey other secret reason).MayAdd device record ∧
        (other ≠ id → after.history id = device.history id)) ∧
  (∀ (α : Type) (op : Operation α), op.LeavesLog →
    (op.outcome device).2.history id = device.history id) ∧
  (∀ (α : Type) (op : Operation α) (e : StoreError) (after : Device),
    op.outcome device = (.error e, after) → after.history id = device.history id) ∧
  ∀ (backup : EncryptedBackup) (password : String) (payload : BackupPayload),
    backup.toPayload device.settings password = .ok payload →
    (∃ r ∈ payload.rotationHistory, r.conversationId = id ∧ r.newVersion = 0) →
      ∃ summary after,
        (Operation.restoreBackup backup password).outcome device = (.ok summary, after) ∧
        after.history id = .error (.format "bad key version 0")
  := by
  have hd := hdevice.isSound
  simp only [Device.history_eq device]
  refine ⟨fun later hrun => hrun.rotationsOf_prefix id, ?_, ?_, ?_, ?_, ?_⟩
  · intro records hread
    refine ⟨hd.nodup_newVersion hread, ?_, ?_⟩
    · intro later hrun
      rw [later.history_eq]
      exact hrun.exists_history_eq hd hread
    · intro secret reason record after hrotate
      rw [after.history_eq]
      exact Operation.history_of_rotateConversationKey hd hread hrotate
  · intro other secret reason record after hrotate
    use (Operation.rotations_of_rotateConversationKey hrotate).2
    intro hother
    rw [after.history_eq]
    exact Operation.history_of_rotateConversationKey_of_ne hother hrotate
  · intro α op hop
    rw [Device.history_eq]
    exact Database.history_congr (Database.rotationsOf_congr ((op.effect device).rotations_eq hop) id)
  · intro α op e after hfails
    rw [after.history_eq, op.isAtomic device e after hfails]
  · intro backup password payload hpayload hzero
    exact Operation.exists_history_restoreBackup_of_zero hd hpayload hzero

/-- The sample conversation is rotated, and its key deleted; its history remains.  A recovery from a
backup with a rotation to version zero is accepted all the same, and then the history cannot be read. -/
theorem log_is_append_only_sample :
  (Device.sample .kept).history "c" = .ok [⟨"c", 0, 1, .epoch, "manual"⟩] ∧
  ((Operation.deleteConversationKey "c").outcome (.sample .kept)).2.history "c" =
    .ok [⟨"c", 0, 1, .epoch, "manual"⟩] ∧
  ∃ summary restored,
    (Operation.restoreBackup .versionZero "password").outcome (.sample .kept) =
      (.ok summary, restored) ∧
    restored.history "c" = .error (.format "bad key version 0")
  := by
  have hkept : (Device.sample .kept).database.Reachable := Database.reachable_kept
  have hread : (Device.sample .kept).history "c" = .ok [⟨"c", 0, 1, .epoch, "manual"⟩] := by
    rw [Device.history_eq, hkept.isSound.history_eq_ok_iff]
    exact ⟨rfl, by decide⟩
  have halgorithm : Strategy.standard.algorithm =
      (Device.sample .kept).settings.strategy.algorithm := rfl
  obtain ⟨bytes, hopen, hbytes⟩ := EncryptedBackup.holds_ofPayload halgorithm .versionZero "password"
    (.zero 16) (.zero 12) .epoch
  have hpayload := EncryptedBackup.toPayload_eq_ok_iff.2 ⟨bytes, hopen, hbytes, rfl, rfl⟩
  obtain ⟨-, -, -, hleaves, -, hzero⟩ := log_is_append_only hkept "c"
  refine ⟨hread, (hleaves _ (.deleteConversationKey "c") trivial).trans hread, ?_⟩
  apply hzero _ _ _ hpayload
  exact ⟨_, List.mem_singleton.2 rfl, rfl, rfl⟩

end Keyring

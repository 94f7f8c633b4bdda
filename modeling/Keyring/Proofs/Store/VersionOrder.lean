import Keyring.Proofs.Store.History
import Keyring.Proofs.Store.Versions

/-!
# The order of versions in a history

A history has its records in the order in which they came into the log.  In stores that restore only
the backups of such stores, each record leads from a version to the next one.  The versions of
successive records grow by one as long as no key is stored at a version that the log does not reach:
then a deletion or a recovery may take the conversation back, but the log refuses what it has.  Where
a version was left out they still grow as long as the conversation is not taken back.  Where both
happen, the version that was left out comes after a greater one.
-/

namespace Keyring

/-! ### Stores that restore the backups of stores -/

namespace Operation

/-- Whether an operation is no recovery. -/
def RestoresNothing (α : Type) (op : Operation α) (_ : Device) : Prop :=
  match op with
  | restoreBackup _ _ => False
  | _ => True

/-- Whether an operation is no recovery and stores no key of a conversation at a version beyond the
number of the rotations of the conversation. -/
def SkipsNoVersion (id : String) (α : Type) (op : Operation α) (device : Device) : Prop :=
  match op with
  | storeConversationKey other _ version =>
    other = id → version.toNat ≤ (device.database.rotationsOf id).length
  | restoreBackup _ _ => False
  | _ => True

end Operation

namespace Database

/-- What allowed operations have made of the empty database, and recoveries from backups of such
databases with the password of the backup, each on a device of its own.  A recovery that fails leaves
the database, and is left out. -/
inductive Genuine (allowed : (α : Type) → Operation α → Device → Prop) : Database → Prop where
  | empty : Genuine allowed .empty
  | step {α : Type} (op : Operation α) (device : Device) (h : Genuine allowed device.database)
    (ha : allowed α op device) : Genuine allowed (op.outcome device).2.database
  | restore {source made : Device} {backup : EncryptedBackup} {password : String}
    (hsource : Genuine allowed source.database)
    (hbackup : (Operation.createBackup password).outcome source = (.ok backup, made))
    (device : Device) (h : Genuine allowed device.database) :
    Genuine allowed ((Operation.restoreBackup backup password).outcome device).2.database

namespace Genuine

variable {allowed : (α : Type) → Operation α → Device → Prop} {d : Database}

theorem reachable (h : Genuine allowed d) :
  d.Reachable
  := by
  induction h with
  | empty => exact .empty
  | step op device _ _ ih => exact ih.step op device
  | restore _ _ device _ _ ih => exact ih.step _ device

theorem of_run (h : Database.empty.Run allowed d) :
  Genuine allowed d
  := by
  induction h with
  | start => exact .empty
  | step op device _ ha ih => exact ih.step op device ha

/-- What holds of the empty database, and is left true by allowed operations and by merging the
records of a database of which it holds, holds. -/
theorem invariant {P : Database → Prop} (h : Genuine allowed d) (hempty : P .empty)
    (hstep : ∀ (α : Type) (op : Operation α) (device : Device) (d' : Database),
      allowed α op device → device.database.IsSound → P device.database → op.Effect device d' → P d')
    (hmerge : ∀ (d source : Database) (now : Instant) (p : BackupPayload), source.IsSound →
      P source → BackupPayload.ofDatabase source now = .ok p → d.IsSound → P d → P (d.merge p)) :
  P d
  := by
  induction h with
  | empty => exact hempty
  | step op device h ha ih => exact hstep _ op device _ ha h.reachable.isSound ih (op.effect device)
  | @restore source _ backup password hsource hbackup device h ihsource ih =>
    rcases hr : (Operation.restoreBackup backup password).outcome device with ⟨e | summary, after⟩
    · rw [(Operation.restoreBackup backup password).isAtomic device e after hr]
      exact ih
    · obtain ⟨payload, hpayload, -, rfl⟩ := Action.restoreBackup_eq_ok_iff.1 hr
      have hsound := hsource.reachable.isSound
      have htaken := EncryptedBackup.ofDatabase_of_toPayload hsound hbackup hpayload
      exact hmerge _ _ _ _ hsound ihsource htaken h.reachable.isSound ih

end Genuine

end Database

/-! ### Steps from a version to the next -/

namespace Database

variable {d d' : Database} {id : String} {records added : List RotationRecord}

/-- Whether all rotations in the log led from a version to the next one. -/
def LogIsStepwise (d : Database) : Prop :=
  ∀ row ∈ d.rotations, ∃ r, row = .ofRecord r ∧ r.newVersion.toNat = r.oldVersion.toNat + 1

theorem LogIsStepwise.append (h : d.LogIsStepwise)
    (hadded : d'.rotations = d.rotations ++ added.map .ofRecord)
    (hsteps : ∀ r ∈ added, r.newVersion.toNat = r.oldVersion.toNat + 1) :
  d'.LogIsStepwise
  := by
  intro row hrow
  rw [hadded] at hrow
  rcases List.mem_append.1 hrow with hrow | hrow
  · exact h row hrow
  · obtain ⟨r, hr, rfl⟩ := List.mem_map.1 hrow
    exact ⟨r, rfl, hsteps r hr⟩

/-- What is read from such a log led from a version to the next one. -/
theorem LogIsStepwise.newVersion_eq (h : d.LogIsStepwise) {row : RotationRow} {r : RotationRecord}
    (hrow : row ∈ d.rotations) (hread : row.toRecord = .ok r) :
  r.newVersion.toNat = r.oldVersion.toNat + 1
  := by
  obtain ⟨r', rfl, hr'⟩ := h row hrow
  rw [RotationRow.eq_of_toRecord_ofRecord hread]
  exact hr'

end Database

namespace Operation

variable {α : Type} {op : Operation α} {device : Device} {d : Database}

theorem MayAdd.newVersion_eq {r : RotationRecord} (h : op.MayAdd device r)
    (hop : op.RestoresNothing α device) :
  r.newVersion.toNat = r.oldVersion.toNat + 1
  := by
  cases op with
  | rotateConversationKey =>
    obtain ⟨_, -, -, -, hnew, -⟩ := h
    exact hnew
  | restoreBackup => cases hop
  | _ => cases h

theorem Effect.logIsStepwise (h : Effect op device d) (hop : op.RestoresNothing α device)
    (hlog : device.database.LogIsStepwise) :
  d.LogIsStepwise
  := by
  -- Only clearing takes rotations out of the log, and it takes all of them.
  by_cases hkeeps : op.KeepsLog α device
  · obtain ⟨added, hadded, hmay⟩ := h.exists_rotations_eq hkeeps
    exact hlog.append hadded fun r hr => (hmay r hr).newVersion_eq hop
  · cases h with
    | nothing => exact hlog
    | clearAll =>
      intro row hrow
      cases hrow
    | _ => exact absurd trivial hkeeps

end Operation

/-- In stores that restore the backups of such stores, all rotations led from a version to the next
one. -/
theorem Database.Genuine.logIsStepwise {d : Database} (h : Genuine Operation.RestoresNothing d) :
  d.LogIsStepwise
  := by
  apply h.invariant (P := LogIsStepwise)
  · intro row hrow
    cases hrow
  · intro α op device d' hop _ hlog he
    exact he.logIsStepwise hop hlog
  · intro d source now p _ hsource htaken _ hlog
    apply hlog.append (d.rotations_merge p)
    intro r hr
    obtain ⟨-, -, -, -, -, hread⟩ := BackupPayload.ofDatabase_eq_ok_iff.1 htaken
    have hmem := (d.newRotations_sublist p.rotationHistory).subset hr
    obtain ⟨row, hrow, hrecord⟩ := Except.exists_mem_of_mapM_eq_ok hread hmem
    exact hsource.newVersion_eq hrow hrecord

/-! ### The versions in the log -/

/-- The version to which a row of the log led. -/
def RotationRow.version (row : RotationRow) : Nat :=
  (row.newVersion.integer?.getD 0).toNat

@[simp]
theorem RotationRow.version_ofRecord (r : RotationRecord) :
  (ofRecord r).version = r.newVersion.toNat
  := rfl

namespace Database

variable {d d' source : Database} {id : String} {records added : List RotationRecord}

/-- The versions to which the rotations of a conversation led, in the order of the log. -/
def versionsOf (d : Database) (id : String) : List Nat :=
  (d.rotationsOf id).map RotationRow.version

theorem length_versionsOf (d : Database) (id : String) :
  (d.versionsOf id).length = (d.rotationsOf id).length
  := List.length_map _

theorem versionsOf_append (h : d'.rotations = d.rotations ++ added.map .ofRecord) (id : String) :
  d'.versionsOf id =
    d.versionsOf id ++
      (added.filter fun r => r.conversationId == id).map fun r => r.newVersion.toNat
  := by
  rw [versionsOf, rotationsOf_append h, List.map_append, List.map_map]
  rfl

namespace IsSound

theorem versionsOf_eq (h : d.IsSound) (hread : d.history id = .ok records) :
  d.versionsOf id = records.map fun r => r.newVersion.toNat
  := by
  rw [versionsOf, (h.history_eq_ok_iff.1 hread).1, List.map_map]
  rfl

/-- The log has a version of a conversation if one of its rotations led to it. -/
theorem hasRotation_iff (h : d.IsSound) {version : UInt32} :
  d.hasRotation id (.integer version.toNat) = true ↔ version.toNat ∈ d.versionsOf id
  := by
  rw [hasRotation_eq_true_iff]
  constructor
  · intro hmem
    obtain ⟨row, hrow, hentry⟩ := List.mem_map.1 hmem
    obtain ⟨r, rfl⟩ := h.rotations row hrow
    obtain ⟨rfl, rfl⟩ := RotationRow.entry_ofRecord_eq_iff.1 hentry
    exact List.mem_map.2 ⟨_, List.mem_filter.2 ⟨hrow, beq_self_eq_true _⟩, rfl⟩
  · intro hmem
    obtain ⟨row, hrow, hversion⟩ := List.mem_map.1 hmem
    obtain ⟨hrow, hid⟩ := List.mem_filter.1 hrow
    obtain ⟨r, rfl⟩ := h.rotations row hrow
    exact List.mem_map.2 ⟨_, hrow,
      RotationRow.entry_ofRecord_eq_iff.2 ⟨eq_of_beq hid, UInt32.toNat_inj.1 hversion⟩⟩

/-- The records of another database add the versions that the log does not have. -/
theorem versionsOf_merge (h : d.IsSound) (hsource : source.IsSound) {now : Instant}
    {p : BackupPayload} (hp : BackupPayload.ofDatabase source now = .ok p) (id : String) :
  (d.merge p).versionsOf id =
    d.versionsOf id ++ (source.versionsOf id).filter fun v => !(d.versionsOf id).contains v
  := by
  obtain ⟨-, -, hrows⟩ := hsource.map_ofRecord hp
  have hnodup : (p.rotationHistory.map RotationRecord.entry).Nodup := by
    have hentries := hsource.nodup_rotations
    rw [← hrows, List.map_map] at hentries
    apply List.Nodup.of_map fun e : String × UInt32 => (e.1, IntegerCell.integer e.2.toNat)
    rwa [List.map_map]
  have hversions : source.versionsOf id =
      (p.rotationHistory.filter fun r => r.conversationId == id).map fun r => r.newVersion.toNat := by
    rw [versionsOf, rotationsOf, ← hrows, List.filter_map, List.map_map]
    rfl
  rw [versionsOf_append (d.rotations_merge p), newRotations_eq_filter hnodup, hversions,
    List.filter_map, List.filter_filter, List.filter_filter]
  congr 2
  apply List.filter_congr
  intro r _
  -- On the left the log is asked for the rotation, on the right the versions of `id` for its version.
  by_cases hid : r.conversationId = id
  · have hlog : d.hasRotation id (.integer r.newVersion.toNat) =
        (d.versionsOf id).contains r.newVersion.toNat := by
      rw [Bool.eq_iff_iff, h.hasRotation_iff, List.contains_iff_mem]
    rw [hid, hlog, Bool.and_comm]
    rfl
  · rw [beq_eq_false_iff_ne.2 hid, Bool.false_and, Bool.and_false]

/-- A rotation that the log allows adds its version to those of its conversation. -/
theorem versionsOf_appendRotation (h : d.IsSound) {r : RotationRecord}
    (hlog : d.hasRotation r.conversationId (.integer r.newVersion.toNat) = false) (id : String) :
  let d' : Database := { d with rotations := d.rotations ++ [.ofRecord r] }
  r.conversationId ≠ id ∧ d'.versionsOf id = d.versionsOf id ∨
    r.conversationId = id ∧ r.newVersion.toNat ∉ d.versionsOf id ∧
      d'.versionsOf id = d.versionsOf id ++ [r.newVersion.toNat]
  := by
  intro d'
  have hadded : d'.rotations = d.rotations ++ [r].map .ofRecord := rfl
  have hversions := versionsOf_append hadded id
  by_cases hid : r.conversationId = id
  · right
    rw [List.filter_singleton, hid, beq_self_eq_true] at hversions
    rw [hid, ← Bool.not_eq_true, h.hasRotation_iff] at hlog
    exact ⟨hid, hlog, hversions⟩
  · left
    rw [List.filter_singleton, beq_eq_false_iff_ne.2 hid] at hversions
    exact ⟨hid, hversions.trans (List.append_nil _)⟩

end IsSound

/-! ### Versions without a gap -/

/-- Two beginnings of the numbers from one on make the longer one, when what both have is left out of
the second. -/
theorem range'_append_filter (n m : Nat) :
  List.range' 1 n ++ (List.range' 1 m).filter (fun v => !(List.range' 1 n).contains v) =
    List.range' 1 (max n m)
  := by
  -- Each further number is there already, or goes to the end.
  induction m with
  | zero => simp
  | succ m ih =>
    rw [List.range'_1_concat, List.filter_append, ← List.append_assoc, ih, List.filter_singleton]
    by_cases hm : m < n
    · have hmem : (List.range' 1 n).contains (1 + m) = true := by
        rw [List.contains_iff_mem, List.mem_range'_1]
        omega
      rw [hmem, max_eq_left hm.le, max_eq_left hm]
      exact List.append_nil _
    · have hmem : (List.range' 1 n).contains (1 + m) = false := by
        rw [← Bool.not_eq_true, List.contains_iff_mem, List.mem_range'_1]
        omega
      have hle := Nat.le_of_not_lt hm
      rw [hmem, max_eq_right hle, max_eq_right (hle.trans m.le_succ), List.range'_1_concat]
      rfl

/-- Whether the rotations of a conversation led to the versions from one on, none left out, and the
stored version is not beyond them. -/
def IsUnbroken (id : String) (d : Database) : Prop :=
  ∃ n, d.versionsOf id = List.range' 1 n ∧
    ∃ current?, d.liveVersion? id = .ok current? ∧ (current?.getD 0).toNat ≤ n

theorem IsUnbroken.merge (h : d.IsUnbroken id) (hd : d.IsSound) (hsource : source.IsUnbroken id)
    (hsound : source.IsSound) {now : Instant} {p : BackupPayload}
    (hp : BackupPayload.ofDatabase source now = .ok p) :
  (d.merge p).IsUnbroken id
  := by
  obtain ⟨n, hversions, current?, hlive, hle⟩ := h
  obtain ⟨m, hversions', current'?, hlive', hle'⟩ := hsource
  have hmerge := liveVersion?_merge (hsound.validate_eq_ok hp) hlive
  rw [hsound.liveVersion?_eq hp] at hlive'
  cases hlive'
  refine ⟨max n m, ?_, _, hmerge, ?_⟩
  · rw [hd.versionsOf_merge hsound hp, hversions, hversions', range'_append_filter]
  · rcases hversion : p.version? id with _ | version
    · exact hle.trans (le_max_left n m)
    · rw [hversion] at hle'
      exact hle'.trans (le_max_right n m)

end Database

namespace Operation

variable {α : Type} {op : Operation α} {device : Device} {d : Database} {id : String}

theorem Effect.isUnbroken (h : Effect op device d) (hop : op.SkipsNoVersion id α device)
    (hd : device.database.IsSound) (hunbroken : device.database.IsUnbroken id) :
  d.IsUnbroken id
  := by
  have hsame := hunbroken
  obtain ⟨n, hversions, current?, hlive, hle⟩ := hunbroken
  cases h with
  | nothing => exact hsame
  | storeKeyPair => exact hsame
  | deleteKeyPair => exact hsame
  | storeConversationKey other key version _ master former? _ _ hversion _ _ =>
    have hput := hd.liveVersion?_updateConversationKey id (k := .ofSealed other
      (key.wrapped master (device.random.next 12) other version) version device.clock.wall none)
      hversion
    have hlength : (device.database.rotationsOf id).length = n := by
      rw [← Database.length_versionsOf, hversions, List.length_range']
    by_cases hid : other = id
    · exact ⟨n, hversions, some version, hput.trans (if_pos hid), hlength ▸ hop hid⟩
    · exact ⟨n, hversions, current?, (hput.trans (if_neg hid)).trans hlive, hle⟩
  | deleteConversationKey other =>
    by_cases hid : id = other
    · rw [← hid]
      exact ⟨n, hversions, none, Database.liveVersion?_eraseConversationKey_self _ id, n.zero_le⟩
    · refine ⟨n, hversions, current?, ?_, hle⟩
      rw [Database.liveVersion?_eraseConversationKey other hid, hlive]
  | rotateConversationKey other secret reason _ master former? new key _ hformer hnew _ hlog =>
    have hput := hd.liveVersion?_rotated master other key hnew
    have hrecord := hd.versionsOf_appendRotation
      (r := Action.rotationRecord device other (former?.getD 0) new reason) hlog id
    rcases hrecord with ⟨hid, hsame⟩ | ⟨rfl, hnot, hadded⟩
    · exact ⟨n, hsame.trans hversions, current?, ((hput _ id).trans (if_neg hid)).trans hlive, hle⟩
    · cases hlive.symm.trans hformer
      obtain ⟨hlast, rfl⟩ := Action.nextVersion_eq_ok_iff.1 hnew
      -- The next version is at most `n + 1`, and the log does not have it yet.
      have hnext : (current?.getD 0 + 1).toNat = n + 1 := by
        have hstep := UInt32.toNat_add_one hlast
        have hbeyond : (current?.getD 0 + 1).toNat ∉ List.range' 1 n := hversions ▸ hnot
        rw [List.mem_range'_1] at hbeyond
        omega
      refine ⟨n + 1, hadded.trans ?_, some (current?.getD 0 + 1), ?_, hnext.le⟩
      · rw [hversions, List.range'_1_concat, Nat.add_comm 1 n]
        exact congrArg (fun v => List.range' 1 n ++ [v]) hnext
      · exact (hput _ other).trans (if_pos rfl)
  | unlock _ _ strategy salt =>
    obtain ⟨metadata, he⟩ := device.database.addMaster_eq salt strategy.params _
    rw [he]
    exact hsame
  | restoreBackup => cases hop
  | clearAll => exact ⟨0, rfl, none, rfl, Nat.zero_le 0⟩

end Operation

/-- In stores in which no key of a conversation was stored beyond its rotations, and which restore the
backups of such stores, no version of the conversation is left out. -/
theorem Database.Genuine.isUnbroken {d : Database} {id : String}
    (h : Genuine (Operation.SkipsNoVersion id) d) :
  d.IsUnbroken id
  := by
  apply h.invariant (P := IsUnbroken id)
  · exact ⟨0, rfl, none, rfl, Nat.zero_le 0⟩
  · intro α op device d' hop hd hunbroken he
    exact he.isUnbroken hop hd hunbroken
  · intro d source now p hsound hsource htaken hd hunbroken
    exact hunbroken.merge hd hsource hsound htaken

/-! ### Versions in their order -/

/-- Whether the rotations of a conversation in a payload go on from those in a database: they are in
the order of their versions, those that the log does not have are beyond those that it has, and the
payload has the conversation at a version that is neither before them nor before the stored one. -/
structure BackupPayload.Continues (p : BackupPayload) (d : Database) (id : String) : Prop where
  ordered : ((p.rotationHistory.filter fun r => r.conversationId == id).map
    fun r => r.newVersion.toNat).Pairwise (· < ·)
  beyond : ∀ r ∈ p.rotationHistory, r.conversationId = id → r.newVersion.toNat ∉ d.versionsOf id →
    ∀ v ∈ d.versionsOf id, v < r.newVersion.toNat
  behind : ∀ r ∈ p.rotationHistory, r.conversationId = id →
    ∃ version, p.version? id = some version ∧ r.newVersion ≤ version
  notOlder : ∀ current version, d.liveVersion? id = .ok (some current) →
    p.version? id = some version → current ≤ version

namespace Database

variable {d : Database} {id : String} {p : BackupPayload}

/-- The log of a conversation is behind its stored version if all of its versions are. -/
theorem IsSound.logIsBehind_iff (h : d.IsSound) :
  d.LogIsBehind id ↔ ∀ v ∈ d.versionsOf id,
    ∃ current, d.liveVersion? id = .ok (some current) ∧ v ≤ current.toNat
  := by
  constructor
  · intro hbehind v hv
    obtain ⟨row, hrow, rfl⟩ := List.mem_map.1 hv
    obtain ⟨hrow, hid⟩ := List.mem_filter.1 hrow
    obtain ⟨r, rfl⟩ := h.rotations row hrow
    obtain ⟨current, hlive, hle⟩ := hbehind r hrow (eq_of_beq hid)
    exact ⟨current, hlive, UInt32.le_iff_toNat_le.1 hle⟩
  · rintro hbehind r hr rfl
    have hmem : r.newVersion.toNat ∈ d.versionsOf r.conversationId :=
      List.mem_map.2 ⟨_, List.mem_filter.2 ⟨hr, beq_self_eq_true _⟩, rfl⟩
    obtain ⟨current, hlive, hle⟩ := hbehind _ hmem
    exact ⟨current, hlive, UInt32.le_iff_toNat_le.2 hle⟩

/-- Whether the rotations of a conversation are in the order of their versions, and the stored version
is not before them. -/
structure IsInOrder (id : String) (d : Database) : Prop where
  ordered : (d.versionsOf id).Pairwise (· < ·)
  behind : d.LogIsBehind id

theorem IsInOrder.of_rotationsOf_eq_nil (h : d.rotationsOf id = []) :
  d.IsInOrder id
  where
    ordered := by
      rw [versionsOf, h]
      exact List.Pairwise.nil
    behind := .of_rotationsOf_eq_nil h

/-- A rotation that leads beyond the versions of its conversation leaves versions in their order. -/
theorem IsSound.pairwise_appendRotation (h : d.IsSound) {r : RotationRecord}
    (hlog : d.hasRotation r.conversationId (.integer r.newVersion.toNat) = false)
    (hordered : (d.versionsOf id).Pairwise (· < ·))
    (hbeyond : r.conversationId = id → ∀ v ∈ d.versionsOf id, v < r.newVersion.toNat) :
  ({ d with rotations := d.rotations ++ [RotationRow.ofRecord r] }.versionsOf id).Pairwise (· < ·)
  := by
  rcases h.versionsOf_appendRotation hlog id with ⟨-, hsame⟩ | ⟨hid, -, hadded⟩
  · rw [hsame]
    exact hordered
  · rw [hadded, List.pairwise_append]
    refine ⟨hordered, List.pairwise_singleton _ _, ?_⟩
    intro v hv w hw
    rw [List.mem_singleton.1 hw]
    exact hbeyond hid v hv

/-- What goes on from a conversation in order leaves it in order. -/
theorem IsInOrder.merge (h : d.IsInOrder id) (hd : d.IsSound) (hp : p.validate = .ok ())
    (hcontinues : p.Continues d id) :
  (d.merge p).IsInOrder id
  := by
  have hversions := versionsOf_append (d.rotations_merge p) id
  -- What the recovery adds comes from the payload, and the log did not have it.
  have hnew : ∀ v ∈ ((d.newRotations p.rotationHistory).filter fun r =>
      r.conversationId == id).map (fun r => r.newVersion.toNat),
      ∃ r ∈ p.rotationHistory, r.conversationId = id ∧ r.newVersion.toNat = v ∧
        v ∉ d.versionsOf id := by
    intro v hv
    obtain ⟨r, hr, rfl⟩ := List.mem_map.1 hv
    obtain ⟨hr, hid⟩ := List.mem_filter.1 hr
    have hlog := hasRotation_of_mem_newRotations hr
    rw [eq_of_beq hid, ← Bool.not_eq_true, hd.hasRotation_iff] at hlog
    exact ⟨r, (d.newRotations_sublist _).subset hr, eq_of_beq hid, rfl, hlog⟩
  constructor
  · rw [hversions, List.pairwise_append]
    refine ⟨h.ordered, ?_, ?_⟩
    · exact hcontinues.ordered.sublist (((d.newRotations_sublist _).filter _).map _)
    · intro v hv w hw
      obtain ⟨r, hr, hid, rfl, hnot⟩ := hnew w hw
      exact hcontinues.beyond r hr hid hnot v hv
  · rw [(hd.merge hp).logIsBehind_iff, hversions]
    intro v hv
    obtain ⟨current?, hlive⟩ := hd.exists_liveVersion? id
    rw [liveVersion?_merge hp hlive]
    rcases List.mem_append.1 hv with hv | hv
    · obtain ⟨current, hcurrent, hle⟩ := hd.logIsBehind_iff.1 h.behind v hv
      cases hlive.symm.trans hcurrent
      rcases hversion : p.version? id with _ | version
      · exact ⟨current, rfl, hle⟩
      · have hnotOlder := hcontinues.notOlder current version hcurrent hversion
        exact ⟨version, rfl, hle.trans (UInt32.le_iff_toNat_le.1 hnotOlder)⟩
    · obtain ⟨r, hr, hid, rfl, -⟩ := hnew v hv
      obtain ⟨version, hversion, hle⟩ := hcontinues.behind r hr hid
      rw [hversion]
      exact ⟨version, rfl, UInt32.le_iff_toNat_le.1 hle⟩

end Database

namespace Operation

/-- Whether an operation neither deletes the key of a conversation nor is a recovery that does not go
on from what the device has of it. -/
def KeepsOrder (id : String) (α : Type) (op : Operation α) (device : Device) : Prop :=
  match op with
  | deleteConversationKey other => id ≠ other
  | restoreBackup backup password => ∀ payload,
      backup.toPayload device.settings password = .ok payload →
        payload.Continues device.database id
  | _ => True

variable {α : Type} {op : Operation α} {device : Device} {d : Database} {id : String}

/-- A rotation from the stored version comes after all versions in the log. -/
theorem Effect.pairwise_versionsOf (h : Effect op device d) (hop : op.KeepsAhead id α device)
    (hd : device.database.IsSound) (horder : device.database.IsInOrder id) :
  (d.versionsOf id).Pairwise (· < ·)
  := by
  cases h with
  | rotateConversationKey other secret reason _ master current? new key _ hlive hnew _ hlog =>
    obtain ⟨hlast, rfl⟩ := Action.nextVersion_eq_ok_iff.1 hnew
    apply hd.pairwise_appendRotation (r := Action.rotationRecord device other _ _ reason) hlog
      horder.ordered
    rintro rfl v hv
    obtain ⟨current, hcurrent, hle⟩ := hd.logIsBehind_iff.1 horder.behind v hv
    cases hlive.symm.trans hcurrent
    have hstep := UInt32.toNat_add_one hlast
    exact lt_of_le_of_lt hle (hstep ▸ Nat.lt_succ_self _)
  | unlock _ _ strategy salt =>
    obtain ⟨metadata, he⟩ := device.database.addMaster_eq salt strategy.params _
    rw [he]
    exact horder.ordered
  | restoreBackup => cases hop
  | clearAll => exact List.Pairwise.nil
  | _ => exact horder.ordered

theorem Effect.isInOrder (h : Effect op device d) (hop : op.KeepsOrder id α device)
    (hd : device.database.IsSound) (horder : device.database.IsInOrder id) :
  d.IsInOrder id
  := by
  -- What neither deletes the key nor restores keeps the log behind the stored version.
  by_cases hahead : op.KeepsAhead id α device
  · exact ⟨h.pairwise_versionsOf hahead hd horder, h.logIsBehind hahead hd horder.behind⟩
  · cases h with
    | nothing => exact horder
    | deleteConversationKey => exact absurd hop hahead
    | restoreBackup backup password _ payload hpayload =>
      obtain ⟨-, -, -, -, hvalid⟩ := EncryptedBackup.toPayload_eq_ok_iff.1 hpayload
      exact horder.merge hd hvalid (hop payload hpayload)
    | _ => exact absurd trivial hahead

end Operation

/-- A conversation that had no history at the start of a run stays in order. -/
theorem Database.Run.isInOrder {d d' : Database} {id : String}
    (h : d.Run (Operation.KeepsOrder id) d') (hd : d.IsSound) (hnil : d.rotationsOf id = []) :
  d'.IsInOrder id
  := by
  have hinv : d'.IsSound ∧ d'.IsInOrder id := by
    apply h.invariant (P := fun d' => d'.IsSound ∧ d'.IsInOrder id)
    · exact ⟨hd, .of_rotationsOf_eq_nil hnil⟩
    · rintro α op device d' hop ⟨hsound, horder⟩ he
      exact ⟨he.isSound hsound, he.isInOrder hop hsound horder⟩
  exact hinv.2

/-! ### Histories -/

namespace Database

variable {d : Database} {id : String} {records : List RotationRecord}

/-- Where all rotations led from a version to the next one, every history can be read. -/
theorem LogIsStepwise.exists_history (h : d.LogIsStepwise) (hd : d.IsSound) (id : String) :
  ∃ records, d.history id = .ok records
  := by
  rw [hd.history_eq]
  apply Except.exists_mapM_eq_ok
  intro row hrow
  obtain ⟨r, rfl, hr⟩ := h row (rotationsOf_subset d id hrow)
  use r
  apply RotationRow.toRecord_ofRecord
  intro hzero
  rw [hzero, UInt32.toNat_zero] at hr
  omega

/-- Versions in their order are those of records in that order. -/
theorem IsSound.pairwise_newVersion (h : d.IsSound) (hread : d.history id = .ok records)
    (hordered : (d.versionsOf id).Pairwise (· < ·)) :
  records.Pairwise fun r s => r.newVersion < s.newVersion
  := by
  rw [h.versionsOf_eq hread, List.pairwise_map] at hordered
  exact hordered.imp UInt32.lt_iff_toNat_lt.2

/-- Without a gap, the records of a history led to the versions from one on. -/
theorem IsUnbroken.map_newVersion (h : d.IsUnbroken id) (hd : d.IsSound)
    (hread : d.history id = .ok records) :
  (records.map fun r => r.newVersion.toNat) = List.range' 1 records.length ∧
    records.Pairwise fun r s => r.newVersion < s.newVersion
  := by
  obtain ⟨n, hversions, -⟩ := h
  have hordered : (d.versionsOf id).Pairwise (· < ·) := by
    rw [hversions]
    exact List.pairwise_lt_range'
  have hmap := hd.versionsOf_eq hread
  rw [hversions] at hmap
  have hlength : n = records.length := by simpa using congrArg List.length hmap
  rw [← hmap, hlength]
  exact ⟨rfl, hd.pairwise_newVersion hread hordered⟩

end Database

/-- In stores that restore the backups of such stores, every history can be read.  It has the records
of the conversation in the order in which they came into the log, where later ones only come after
them, a rotation its own; each led from a version to the next one, and no two to the same.  If no key
of the conversation was stored beyond the number of its rotations, in this store or where the backups
come from, they led to the versions from one on, in their order.  If since the conversation last had
no history its key was not deleted, and all that was restored went on from what there was, they led to
versions in their order. -/
theorem history_in_order_of_entry {device : Device}
    (hdevice : device.database.Genuine Operation.RestoresNothing) (id : String) :
  ∃ records, device.history id = .ok records ∧
    (∀ r ∈ records, r.conversationId = id ∧ r.newVersion.toNat = r.oldVersion.toNat + 1) ∧
    (records.map RotationRecord.newVersion).Nodup ∧
    (∀ later : Device, device.database.Run (Operation.KeepsHistory id) later.database →
      ∃ new, later.history id = .ok (records ++ new)) ∧
    (∀ secret reason record after,
      (Operation.rotateConversationKey id secret reason).outcome device = (.ok record, after) →
        after.history id = .ok (records ++ [record])) ∧
    (device.database.Genuine (Operation.SkipsNoVersion id) →
      (records.map fun r => r.newVersion.toNat) = List.range' 1 records.length ∧
        records.Pairwise fun r s => r.newVersion < s.newVersion) ∧
    ∀ start : Database, start.Reachable → start.rotationsOf id = [] →
      start.Run (Operation.KeepsOrder id) device.database →
        records.Pairwise fun r s => r.newVersion < s.newVersion
  := by
  have hd := hdevice.reachable.isSound
  have hlog := hdevice.logIsStepwise
  obtain ⟨records, hread⟩ := hlog.exists_history hd id
  refine ⟨records, (device.history_eq id).trans hread, ?_, hd.nodup_newVersion hread, ?_, ?_, ?_, ?_⟩
  · intro r hr
    use hd.conversationId_of_history hread r hr
    rw [hd.history_eq] at hread
    obtain ⟨row, hrow, hrecord⟩ := Except.exists_mem_of_mapM_eq_ok hread hr
    exact hlog.newVersion_eq (Database.rotationsOf_subset _ id hrow) hrecord
  · intro later hrun
    rw [later.history_eq]
    exact hrun.exists_history_eq hd hread
  · intro secret reason record after hrotate
    rw [after.history_eq]
    exact Operation.history_of_rotateConversationKey hd hread hrotate
  · intro hskips
    exact hskips.isUnbroken.map_newVersion hd hread
  · intro start hstart hnil hrun
    exact hd.pairwise_newVersion hread (hrun.isInOrder hstart.isSound hnil).ordered

/-! ### Sample histories -/

namespace Database

/-- The first rotation of the sample conversation and the next one are a run where they are allowed. -/
theorem run_of_rotate_kept {allowed : (α : Type) → Operation α → Device → Prop} {after : Device}
    {r : Except StoreError RotationRecord}
    (h : ∀ device, allowed RotationRecord (.rotateConversationKey "c" (List.replicate 32 0) "manual")
      device)
    (hrotate : (Operation.rotateConversationKey "c" (List.replicate 32 0) "manual").outcome
      (.sample .kept) = (r, after)) :
  empty.Run allowed after.database
  := by
  obtain ⟨between, hfirst, hkept⟩ := Operation.outcome_rotateConversationKey_sample
  have hrun := Run.step _ (.sample .empty) (.start : empty.Run allowed _) (h _)
  rw [hfirst, hkept] at hrun
  have hsecond := Run.step _ (.sample .kept) hrun (h _)
  rw [hrotate] at hsecond
  exact hsecond

/-- A key of the conversation `c` can be stored at version 5. -/
theorem exists_genuine_stored :
  ∃ d, Genuine Operation.RestoresNothing d ∧ d.liveVersion? "c" = .ok (some 5) ∧ d.rotations = []
  := by
  have hempty : Genuine Operation.RestoresNothing (Device.sample .empty).database := .empty
  have hstored := Genuine.step (.storeConversationKey "c" .sample 5) _ hempty trivial
  have hstore : (Operation.storeConversationKey "c" .sample 5).outcome (.sample .empty) = _ :=
    Action.storeConversationKey_eq_ok_iff.2
      ⟨.zero 32, none, rfl, by decide, by decide, rfl, by simp, rfl⟩
  rw [hstore] at hstored
  exact ⟨_, hstored, rfl, rfl⟩

/-- The conversation can be rotated to a version that the log does not have. -/
theorem IsSound.exists_outcome_rotate_sample {d : Database} {current? : Option UInt32} {new : UInt32}
    (h : d.IsSound) (hlive : d.liveVersion? "c" = .ok current?)
    (hnew : Action.nextVersion (current?.getD 0) = .ok new)
    (hlog : d.hasRotation "c" (.integer new.toNat) = false) :
  ∃ after, (Operation.rotateConversationKey "c" (List.replicate 32 0) "manual").outcome (.sample d) =
    (.ok ⟨"c", current?.getD 0, new, .epoch, "manual"⟩, after)
  := by
  have hderive : ConversationKey.derive (List.replicate 32 0) "c" new =
      .ok (.derived (List.replicate 32 0) "c" new) :=
    ConversationKey.derive_eq_ok_iff.2 ⟨List.length_replicate, by decide, rfl⟩
  have hsound : (Device.sample d).database.IsSound := h
  obtain ⟨after, hrotate, -, -⟩ := Operation.exists_outcome_rotateConversationKey "manual" hsound
    (Device.key?_sample d) hlive hnew hderive hlog
  exact ⟨after, hrotate⟩

/-- The conversation can then be rotated, and its key deleted. -/
theorem exists_genuine_skipped :
  ∃ d, Genuine Operation.RestoresNothing d ∧ d.liveVersion? "c" = .ok none ∧
    d.rotations = [.ofRecord ⟨"c", 5, 6, .epoch, "manual"⟩]
  := by
  obtain ⟨d, hd, hlive, hnil⟩ := exists_genuine_stored
  have hlog : d.hasRotation "c" (.integer (6 : UInt32).toNat) = false := by
    rw [hasRotation, hnil]
    rfl
  obtain ⟨after, hrotate⟩ := hd.reachable.isSound.exists_outcome_rotate_sample hlive rfl hlog
  obtain ⟨hadded, -⟩ := Operation.rotations_of_rotateConversationKey hrotate
  have hrotated := Genuine.step (.rotateConversationKey "c" (List.replicate 32 0) "manual")
    (.sample d) hd trivial
  rw [hrotate] at hrotated
  have hdeleted := Genuine.step (.deleteConversationKey "c") after hrotated trivial
  refine ⟨_, hdeleted, Database.liveVersion?_eraseConversationKey_self _ "c", ?_⟩
  exact hadded.trans (congrArg (· ++ _) hnil)

end Database

/-- The sample conversation is rotated twice. -/
theorem history_in_order_of_entry_sample :
  ∃ device : Device, ∃ records, device.history "c" = .ok records ∧
    records = [⟨"c", 0, 1, .epoch, "manual"⟩, ⟨"c", 1, 2, .epoch, "manual"⟩] ∧
    (records.map fun r => r.newVersion.toNat) = List.range' 1 records.length ∧
    records.Pairwise fun r s => r.newVersion < s.newVersion
  := by
  have hkept : (Device.sample .kept).database.IsSound := Database.reachable_kept.isSound
  have hlive : Database.kept.liveVersion? "c" = .ok (some 1) := rfl
  have hlog : Database.kept.hasRotation "c" (.integer (2 : UInt32).toNat) = false := rfl
  obtain ⟨after, hrotate⟩ := Database.IsSound.exists_outcome_rotate_sample hkept hlive rfl hlog
  have hrotated : after.database.Genuine Operation.RestoresNothing :=
    .of_run (Database.run_of_rotate_kept (fun _ => trivial) hrotate)
  have hskips : after.database.Genuine (Operation.SkipsNoVersion "c") :=
    .of_run (Database.run_of_rotate_kept (fun _ => trivial) hrotate)
  have hrun : Database.empty.Run (Operation.KeepsOrder "c") after.database :=
    Database.run_of_rotate_kept (fun _ => trivial) hrotate
  have hfirst : (Device.sample .kept).database.history "c" =
      .ok [⟨"c", 0, 1, .epoch, "manual"⟩] := by
    rw [hkept.history_eq_ok_iff]
    exact ⟨rfl, by decide⟩
  have hhistory := Operation.history_of_rotateConversationKey hkept hfirst hrotate
  obtain ⟨records, hread, -, -, -, -, hunbroken, hordered⟩ := history_in_order_of_entry hrotated "c"
  refine ⟨after, records, hread, ?_, (hunbroken hskips).1, hordered .empty .empty rfl hrun⟩
  rw [after.history_eq, hhistory] at hread
  exact (Except.ok.inj hread).symm

/-- A key of the sample conversation is stored at version 5, rotated and deleted; then the conversation
is rotated again.  The version of the first record is greater than that of the second. -/
theorem history_out_of_order :
  ∃ device : Device, device.database.Genuine Operation.RestoresNothing ∧
    ∃ records, device.history "c" = .ok records ∧
      records = [⟨"c", 5, 6, .epoch, "manual"⟩, ⟨"c", 0, 1, .epoch, "manual"⟩] ∧
      ¬records.Pairwise fun r s => r.newVersion < s.newVersion
  := by
  obtain ⟨d, hd, hlive, hrotations⟩ := Database.exists_genuine_skipped
  have hsound : (Device.sample d).database.IsSound := hd.reachable.isSound
  have hlog : d.hasRotation "c" (.integer (1 : UInt32).toNat) = false := by
    rw [Database.hasRotation, hrotations]
    rfl
  have hread : (Device.sample d).database.history "c" = .ok [⟨"c", 5, 6, .epoch, "manual"⟩] := by
    rw [hsound.history_eq_ok_iff, Database.rotationsOf, Device.database_sample, hrotations]
    exact ⟨rfl, by decide⟩
  obtain ⟨after, hrotate⟩ := hd.reachable.isSound.exists_outcome_rotate_sample hlive rfl hlog
  have hrotated := Database.Genuine.step (.rotateConversationKey "c" (List.replicate 32 0) "manual")
    (.sample d) hd trivial
  rw [hrotate] at hrotated
  refine ⟨after, hrotated, _, ?_, rfl, by decide⟩
  rw [after.history_eq]
  exact Operation.history_of_rotateConversationKey hsound hread hrotate

end Keyring

import Keyring.Proofs.Store.Merge

/-!
# The records of a database

A payload that is taken from a sound database writes back as the rows of that database, in the
order of their ids where a table has ids.  Merged into a database without rows, it makes one with
the same rows.
-/

namespace Keyring

/-! ### Taking the records -/

namespace BackupPayload

/-- A payload is taken if all instants and integers can be read and every row gives a record. -/
theorem ofDatabase_eq_ok_iff {d : Database} {now : Instant} {p : BackupPayload} :
  ofDatabase d now = .ok p ↔
    d.isWellTyped = true ∧ p.formatVersion = backupFormatVersion ∧ p.createdAt = now ∧
      (Table.byId KeyPairRow.id d.keyPairs).mapM KeyPairRow.toRecord = .ok p.keyPairs ∧
      (Table.byId ConversationKeyRow.conversationId d.conversationKeys).mapM
        ConversationKeyRow.toRecord = .ok p.conversationKeys ∧
      d.rotations.mapM RotationRow.toRecord = .ok p.rotationHistory
  := by
  rw [ofDatabase]
  rcases d.isWellTyped with _ | _
  · simp
  · simp only [Bool.not_true, Bool.false_eq_true, if_false, Except.bind_eq_ok_iff, true_and]
    constructor
    · rintro ⟨keyPairs, hk, conversationKeys, hc, rotations, hr, ⟨⟩⟩
      exact ⟨rfl, rfl, hk, hc, hr⟩
    · obtain ⟨formatVersion, createdAt, keyPairs, conversationKeys, rotations⟩ := p
      rintro ⟨rfl, rfl, hk, hc, hr⟩
      exact ⟨keyPairs, hk, conversationKeys, hc, rotations, hr, rfl⟩

end BackupPayload

namespace Database

/-- Whether a database has the rows of another one, in whatever order where they are found by their
ids, and the same log. -/
structure HasRowsOf (d d' : Database) : Prop where
  keyPairs : d.keyPairs.Perm d'.keyPairs
  conversationKeys : d.conversationKeys.Perm d'.conversationKeys
  rotations : d.rotations = d'.rotations

namespace IsSound

variable {d : Database} {now : Instant} {p : BackupPayload}

theorem toRecord_keyPair (h : d.IsSound) {row : KeyPairRow} {k : StoredKeyPair}
    (hrow : row ∈ d.keyPairs) (hread : row.toRecord = .ok k) :
  KeyPairRow.ofRecord k = row ∧ BackupPayload.validateKeyPair k = .ok ()
  := by
  obtain ⟨k', rfl, hk'⟩ := h.keyPairs row hrow
  rw [KeyPairRow.toRecord_ofRecord] at hread
  cases hread
  exact ⟨rfl, hk'⟩

theorem toRecord_conversationKey (h : d.IsSound) {row : ConversationKeyRow}
    {k : StoredConversationKey} (hrow : row ∈ d.conversationKeys) (hread : row.toRecord = .ok k) :
  ConversationKeyRow.ofRecord k = row ∧ BackupPayload.validateConversationKey k = .ok ()
  := by
  obtain ⟨k', rfl, hk'⟩ := h.conversationKeys row hrow
  have hversion := (BackupPayload.validateConversationKey_eq_ok_iff.1 hk').2
  rw [ConversationKeyRow.toRecord_ofRecord hversion] at hread
  cases hread
  exact ⟨rfl, hk'⟩

theorem toRecord_rotation (h : d.IsSound) {row : RotationRow} {r : RotationRecord}
    (hrow : row ∈ d.rotations) (hread : row.toRecord = .ok r) :
  RotationRow.ofRecord r = row
  := by
  obtain ⟨r', rfl⟩ := h.rotations row hrow
  rw [RotationRow.eq_of_toRecord_ofRecord hread]

/-- Every key pair can be read. -/
theorem exists_toRecord_keyPair (h : d.IsSound) {row : KeyPairRow} (hrow : row ∈ d.keyPairs) :
  ∃ k, row.toRecord = .ok k
  := by
  obtain ⟨k, rfl, -⟩ := h.keyPairs row hrow
  exact ⟨k, KeyPairRow.toRecord_ofRecord k⟩

/-- Every conversation key can be read. -/
theorem exists_toRecord_conversationKey (h : d.IsSound) {row : ConversationKeyRow}
    (hrow : row ∈ d.conversationKeys) :
  ∃ k, row.toRecord = .ok k
  := by
  obtain ⟨k, rfl, hk⟩ := h.conversationKeys row hrow
  have hversion := (BackupPayload.validateConversationKey_eq_ok_iff.1 hk).2
  exact ⟨k, ConversationKeyRow.toRecord_ofRecord hversion⟩

/-- A rotation can be read unless it led to version zero. -/
theorem exists_toRecord_rotation (h : d.IsSound) {row : RotationRow} (hrow : row ∈ d.rotations)
    (hr : row.newVersion ≠ .integer 0) :
  ∃ r, row.toRecord = .ok r
  := by
  obtain ⟨r, rfl⟩ := h.rotations row hrow
  rw [ne_eq, RotationRow.newVersion_ofRecord_eq_zero_iff] at hr
  exact ⟨r, RotationRow.toRecord_ofRecord hr⟩

/-- All instants and integers of a sound database can be read. -/
theorem isWellTyped (h : d.IsSound) :
  d.isWellTyped = true
  := by
  rw [Database.isWellTyped, Bool.and_eq_true, Bool.and_eq_true, List.all_eq_true, List.all_eq_true,
    List.all_eq_true]
  refine ⟨⟨?_, ?_⟩, ?_⟩
  · intro row hrow
    obtain ⟨k, rfl, -⟩ := h.keyPairs row hrow
    simp [KeyPairRow.isWellTyped, KeyPairRow.ofRecord, Row.isInstant?]
  · intro row hrow
    obtain ⟨k, rfl, -⟩ := h.conversationKeys row hrow
    rcases hr : k.rotatedAt with _ | t
    · simp [ConversationKeyRow.isWellTyped, ConversationKeyRow.ofRecord, Row.isInstant?, hr,
        IntegerCell.integer?]
    · simp [ConversationKeyRow.isWellTyped, ConversationKeyRow.ofRecord, Row.isInstant?, hr,
        IntegerCell.integer?]
  · intro row hrow
    obtain ⟨r, rfl⟩ := h.rotations row hrow
    simp [RotationRow.isWellTyped, RotationRow.ofRecord, Row.isInstant?, IntegerCell.integer?]

/-- All key pairs can be read together. -/
theorem exists_mapM_keyPairs (h : d.IsSound) :
  ∃ ks, (Table.byId KeyPairRow.id d.keyPairs).mapM KeyPairRow.toRecord = .ok ks
  := by
  apply Except.exists_mapM_eq_ok
  intro row hrow
  exact h.exists_toRecord_keyPair ((Table.byId_perm _ _).mem_iff.1 hrow)

/-- All conversation keys can be read together. -/
theorem exists_mapM_conversationKeys (h : d.IsSound) :
  ∃ ks, (Table.byId ConversationKeyRow.conversationId d.conversationKeys).mapM
    ConversationKeyRow.toRecord = .ok ks
  := by
  apply Except.exists_mapM_eq_ok
  intro row hrow
  exact h.exists_toRecord_conversationKey ((Table.byId_perm _ _).mem_iff.1 hrow)

/-- A payload can be taken from a sound database, unless its log has an entry of version zero. -/
theorem exists_ofDatabase (h : d.IsSound)
    (hr : ∀ row ∈ d.rotations, row.newVersion ≠ .integer 0) (now : Instant) :
  ∃ p, BackupPayload.ofDatabase d now = .ok p
  := by
  obtain ⟨keyPairs, hk⟩ := h.exists_mapM_keyPairs
  obtain ⟨conversationKeys, hc⟩ := h.exists_mapM_conversationKeys
  obtain ⟨rotations, hr⟩ := Except.exists_mapM_eq_ok fun row hrow =>
    h.exists_toRecord_rotation hrow (hr row hrow)
  use ⟨backupFormatVersion, now, keyPairs, conversationKeys, rotations⟩
  exact BackupPayload.ofDatabase_eq_ok_iff.2 ⟨h.isWellTyped, rfl, rfl, hk, hc, hr⟩

variable (h : d.IsSound) (hp : BackupPayload.ofDatabase d now = .ok p)
include h hp

/-- The records of a sound database write back as its rows. -/
theorem map_ofRecord :
  p.keyPairs.map KeyPairRow.ofRecord = Table.byId KeyPairRow.id d.keyPairs ∧
    p.conversationKeys.map ConversationKeyRow.ofRecord =
      Table.byId ConversationKeyRow.conversationId d.conversationKeys ∧
    p.rotationHistory.map RotationRow.ofRecord = d.rotations
  := by
  obtain ⟨-, -, -, hk, hc, hr⟩ := BackupPayload.ofDatabase_eq_ok_iff.1 hp
  constructor
  · apply Except.map_of_mapM_eq_ok hk
    intro row hrow k hread
    exact (h.toRecord_keyPair ((Table.byId_perm _ _).mem_iff.1 hrow) hread).1
  constructor
  · apply Except.map_of_mapM_eq_ok hc
    intro row hrow k hread
    exact (h.toRecord_conversationKey ((Table.byId_perm _ _).mem_iff.1 hrow) hread).1
  · apply Except.map_of_mapM_eq_ok hr
    intro row hrow r hread
    exact h.toRecord_rotation hrow hread

/-- A payload that is taken from a sound database is valid. -/
theorem validate_eq_ok :
  p.validate = .ok ()
  := by
  obtain ⟨-, -, -, hk, hc, -⟩ := BackupPayload.ofDatabase_eq_ok_iff.1 hp
  rw [BackupPayload.validate_eq_ok_iff]
  constructor
  · intro k hmem
    obtain ⟨row, hrow, hread⟩ := Except.exists_mem_of_mapM_eq_ok hk hmem
    exact (h.toRecord_keyPair ((Table.byId_perm _ _).mem_iff.1 hrow) hread).2
  · intro k hmem
    obtain ⟨row, hrow, hread⟩ := Except.exists_mem_of_mapM_eq_ok hc hmem
    exact (h.toRecord_conversationKey ((Table.byId_perm _ _).mem_iff.1 hrow) hread).2

end IsSound

/-! ### Merging the records into a database without rows -/

/-- Whether a database has no rows; it may have metadata. -/
def IsBare (d : Database) : Prop :=
  d.keyPairs = [] ∧ d.conversationKeys = [] ∧ d.rotations = []

theorem isBare_empty :
  empty.IsBare
  := ⟨rfl, rfl, rfl⟩

theorem isBare_clear (d : Database) :
  d.clear.IsBare
  := ⟨rfl, rfl, rfl⟩

/-- What is merged into a database without rows stands there as it is, if no two records share an
id or a place in the log. -/
theorem IsBare.merge_eq {d : Database} (h : d.IsBare) {p : BackupPayload}
    (hk : ((p.keyPairs.map KeyPairRow.ofRecord).map KeyPairRow.id).Nodup)
    (hc : ((p.conversationKeys.map ConversationKeyRow.ofRecord).map
      ConversationKeyRow.conversationId).Nodup)
    (hr : ((p.rotationHistory.map RotationRow.ofRecord).map RotationRow.entry).Nodup) :
  d.merge p = ⟨p.keyPairs.map .ofRecord, p.conversationKeys.map .ofRecord,
    p.rotationHistory.map .ofRecord, d.metadata⟩
  := by
  obtain ⟨keyPairs, conversationKeys, rotations, metadata⟩ := d
  obtain ⟨rfl, rfl, rfl⟩ := h
  have hnew : newRotations ⟨[], [], [], metadata⟩ p.rotationHistory = p.rotationHistory :=
    newRotations_eq_self hr
  rw [Database.merge_eq, Table.putAll_of_nodup hk, Table.putAll_of_nodup hc, hnew]
  rfl

/-- The records of a sound database, merged into one without rows, make the same rows. -/
theorem IsSound.hasRowsOf_merge {d target : Database} {now : Instant} {p : BackupPayload}
    (h : d.IsSound) (hp : BackupPayload.ofDatabase d now = .ok p) (ht : target.IsBare) :
  (target.merge p).HasRowsOf d ∧ (target.merge p).metadata = target.metadata
  := by
  obtain ⟨hk, hc, hr⟩ := h.map_ofRecord hp
  have hmerge : target.merge p = ⟨p.keyPairs.map .ofRecord, p.conversationKeys.map .ofRecord,
      p.rotationHistory.map .ofRecord, target.metadata⟩ := by
    apply ht.merge_eq
    · rw [hk]
      exact ((Table.byId_perm _ _).map _).nodup_iff.2 h.nodup_keyPairs
    · rw [hc]
      exact ((Table.byId_perm _ _).map _).nodup_iff.2 h.nodup_conversationKeys
    · rw [hr]
      exact h.nodup_rotations
  rw [hmerge, hk, hc, hr]
  exact ⟨⟨Table.byId_perm _ _, Table.byId_perm _ _, rfl⟩, rfl⟩

/-! ### Databases with the same rows -/

namespace HasRowsOf

variable {d d' : Database}

theorem keyPair?_eq (h : d.HasRowsOf d') (hd : d'.IsSound) (id : String) :
  d.keyPair? id = d'.keyPair? id
  := Table.find?_perm hd.nodup_keyPairs h.keyPairs id

theorem conversationKey?_eq (h : d.HasRowsOf d') (hd : d'.IsSound) (id : String) :
  d.conversationKey? id = d'.conversationKey? id
  := Table.find?_perm hd.nodup_conversationKeys h.conversationKeys id

/-- The same rows give the same records. -/
theorem ofDatabase_eq (h : d.HasRowsOf d') (hd : d'.IsSound) (now : Instant) :
  BackupPayload.ofDatabase d now = BackupPayload.ofDatabase d' now
  := by
  have hwell : d.isWellTyped = d'.isWellTyped := by
    rw [isWellTyped, isWellTyped, h.keyPairs.all_eq, h.conversationKeys.all_eq, h.rotations]
  rw [BackupPayload.ofDatabase, BackupPayload.ofDatabase, hwell,
    Table.byId_eq_of_perm hd.nodup_keyPairs h.keyPairs,
    Table.byId_eq_of_perm hd.nodup_conversationKeys h.conversationKeys, h.rotations]

theorem history_eq (h : d.HasRowsOf d') (id : String) :
  d.history id = d'.history id
  := by
  rw [history, rotationsOf, h.rotations]
  rfl

end HasRowsOf

end Database

end Keyring

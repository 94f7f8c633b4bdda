import Keyring.Proofs.Checks
import Keyring.Proofs.Store.Operation
import Keyring.Proofs.Store.Row
import Keyring.Proofs.Store.Table

/-!
# Sound databases

A database is sound if each of its rows is the row of a record that the store could keep, and no
two rows that are found by the same key stand in a table.  Operations make only sound databases
from sound ones, so that every reachable database is sound.
-/

namespace Keyring

/-- What a rotation is known by. -/
def RotationRow.entry (r : RotationRow) : String × IntegerCell :=
  (r.conversationId, r.newVersion)

namespace Database

/-- Whether all rows are rows of records that the store could keep, each found by its key. -/
structure IsSound (d : Database) : Prop where
  keyPairs : ∀ row ∈ d.keyPairs, ∃ k, row = .ofRecord k ∧ BackupPayload.validateKeyPair k = .ok ()
  conversationKeys : ∀ row ∈ d.conversationKeys,
    ∃ k, row = .ofRecord k ∧ BackupPayload.validateConversationKey k = .ok ()
  rotations : ∀ row ∈ d.rotations, ∃ r, row = .ofRecord r
  nodup_keyPairs : (d.keyPairs.map KeyPairRow.id).Nodup
  nodup_conversationKeys : (d.conversationKeys.map ConversationKeyRow.conversationId).Nodup
  nodup_rotations : (d.rotations.map RotationRow.entry).Nodup

end Database

/-! ### Records that a store could keep -/

namespace BackupPayload

theorem validateKeyPair_eq_ok_iff {k : StoredKeyPair} :
  validateKeyPair k = .ok () ↔
    k.id ≠ "" ∧ ∀ p ∈ k.kdfParams, p.algorithm = k.kdf ∧ p.isWithinBounds = true
  := by
  by_cases hid : k.id = ""
  · simp [validateKeyPair, hid]
  · rcases hp : k.kdfParams with _ | p
    · simp [validateKeyPair, hid, hp]
      rfl
    · by_cases ha : p.algorithm = k.kdf
      · by_cases hb : p.isWithinBounds = true
        · simp [validateKeyPair, hid, hp, ha, hb, KdfParams.checkBounds]
        · simp [validateKeyPair, hid, hp, ha, hb, KdfParams.checkBounds]
      · simp [validateKeyPair, hid, hp, ha]

theorem validateConversationKey_eq_ok_iff {k : StoredConversationKey} :
  validateConversationKey k = .ok () ↔ k.conversationId ≠ "" ∧ k.version ≠ 0
  := by
  by_cases hid : k.conversationId = ""
  · simp [validateConversationKey, hid]
  · by_cases hv : k.version = 0
    · simp [validateConversationKey, hv]
    · simp [validateConversationKey, hid, hv]

theorem validate_eq_ok_iff {p : BackupPayload} :
  p.validate = .ok () ↔
    (∀ k ∈ p.keyPairs, validateKeyPair k = .ok ()) ∧
      ∀ k ∈ p.conversationKeys, validateConversationKey k = .ok ()
  := by
  rw [validate, Except.bind_eq_ok_iff]
  constructor
  · rintro ⟨_, hk, hc⟩
    exact ⟨Except.forM_eq_ok_iff.1 hk, Except.forM_eq_ok_iff.1 hc⟩
  · rintro ⟨hk, hc⟩
    exact ⟨(), Except.forM_eq_ok_iff.2 hk, Except.forM_eq_ok_iff.2 hc⟩

end BackupPayload

/-- A key pair that was just sealed could be kept. -/
theorem StoredKeyPair.validate_ofKeyPair {id : String} (hid : id ≠ "") (pair : KeyPair)
    (strategy : Strategy) (password : String) (salt : Salt) (iv : Gcm.Iv) (now : Instant) :
  BackupPayload.validateKeyPair (ofKeyPair id pair strategy.params password salt iv now) = .ok ()
  := by
  have husable := strategy.isUsable
  rw [KdfParams.isUsable, Bool.and_eq_true] at husable
  rw [BackupPayload.validateKeyPair_eq_ok_iff]
  constructor
  · exact hid
  · rintro p ⟨⟩
    exact ⟨rfl, husable.1⟩

/-- The next version is never zero. -/
theorem Action.nextVersion_eq_ok_iff {v new : UInt32} :
  nextVersion v = .ok new ↔ v ≠ 4294967295 ∧ new = v + 1
  := by
  by_cases hv : v = 4294967295
  · simp [nextVersion, hv]
  · simp [nextVersion, hv, @eq_comm _ _ new]

theorem UInt32.toNat_add_one {v : UInt32} (h : v ≠ 4294967295) :
  (v + 1).toNat = v.toNat + 1
  := by
  have hv : v.toNat ≠ 4294967295 := fun hv => h (UInt32.toNat_inj.1 hv)
  have hlt := v.toNat_lt
  rw [UInt32.toNat_add, UInt32.toNat_one]
  omega

theorem UInt32.add_one_ne_zero {v : UInt32} (h : v ≠ 4294967295) :
  v + 1 ≠ 0
  := by
  intro h0
  have h1 := UInt32.toNat_add_one h
  rw [h0, UInt32.toNat_zero] at h1
  omega

namespace RotationRow

/-- The row of a rotation is known by the conversation and the new version. -/
theorem entry_ofRecord_eq_iff {r : RotationRecord} {id : String} {version : UInt32} :
  (ofRecord r).entry = (id, .integer version.toNat) ↔
    r.conversationId = id ∧ r.newVersion = version
  := by
  rw [entry, ofRecord, Prod.mk.injEq, IntegerCell.integer.injEq, Int.natCast_inj, UInt32.toNat_inj]

end RotationRow

namespace Database

/-- The version of a conversation is read from its row. -/
theorem liveVersion?_of_conversationKey? {d : Database} {id : String} {k : StoredConversationKey}
    (h : d.conversationKey? id = some (.ofRecord k)) (hv : k.version ≠ 0) :
  d.liveVersion? id = .ok (some k.version)
  := by
  have hread : Row.readInteger (.integer k.version.toNat) >>= Row.readVersion = .ok k.version :=
    Row.readVersion_toNat hv
  simp only [liveVersion?, h, ConversationKeyRow.ofRecord, hread]
  rfl

/-- Whether the log has a row is a question about what rotations are known by. -/
theorem hasRotation_eq_true_iff {d : Database} {id : String} {version : IntegerCell} :
  d.hasRotation id version = true ↔ (id, version) ∈ d.rotations.map RotationRow.entry
  := by
  simp [hasRotation, RotationRow.entry]

theorem hasRotation_eq_false_iff {d : Database} {id : String} {version : IntegerCell} :
  d.hasRotation id version = false ↔ (id, version) ∉ d.rotations.map RotationRow.entry
  := by
  rw [← hasRotation_eq_true_iff, Bool.not_eq_true]

/-- A rotation is added to the log if the log does not know it. -/
theorem mergeRotation_of_not_hasRotation {d : Database} {r : RotationRecord}
    (h : d.hasRotation r.conversationId (.integer r.newVersion.toNat) = false) :
  d.mergeRotation r = { d with rotations := d.rotations ++ [.ofRecord r] }
  := by
  rw [mergeRotation, appendRotation?_of_not_hasRotation (.ofRecord r) h]
  rfl

theorem mergeRotation_of_hasRotation {d : Database} {r : RotationRecord}
    (h : d.hasRotation r.conversationId (.integer r.newVersion.toNat) = true) :
  d.mergeRotation r = d
  := by
  rw [mergeRotation, appendRotation?_of_hasRotation (.ofRecord r) h]
  rfl

/-! ### Steps -/

/-- What every single record leaves true, the records of a payload leave true together. -/
theorem merge_induction {P : Database → Prop} {d : Database} {p : BackupPayload} (h : P d)
    (hkeyPairs : ∀ d, ∀ k ∈ p.keyPairs, P d → P (d.putKeyPair (.ofRecord k)))
    (hconversationKeys : ∀ d, ∀ k ∈ p.conversationKeys, P d → P (d.putConversationKey (.ofRecord k)))
    (hrotations : ∀ d, ∀ r ∈ p.rotationHistory, P d → P (d.mergeRotation r)) :
  P (d.merge p)
  := by
  unfold merge
  apply List.foldlRecOn
  · apply List.foldlRecOn
    · apply List.foldlRecOn
      · exact h
      · exact fun d hd k hk => hkeyPairs d k hk hd
    · exact fun d hd k hk => hconversationKeys d k hk hd
  · exact fun d hd r hr => hrotations d r hr hd

namespace IsSound

variable {d : Database}

theorem empty :
  Database.empty.IsSound
  := by
  constructor <;> simp [Database.empty]

theorem putKeyPair (h : d.IsSound) {k : StoredKeyPair}
    (hk : BackupPayload.validateKeyPair k = .ok ()) :
  (d.putKeyPair (.ofRecord k)).IsSound
  := { h with
    keyPairs := by
      intro row hrow
      rcases Table.mem_put.1 hrow with rfl | ⟨hrow, -⟩
      · exact ⟨k, rfl, hk⟩
      · exact h.keyPairs row hrow
    nodup_keyPairs := Table.nodup_put h.nodup_keyPairs }

theorem eraseKeyPair (h : d.IsSound) (id : String) :
  (d.eraseKeyPair id).IsSound
  := { h with
    keyPairs := fun row hrow => h.keyPairs row (Table.mem_erase.1 hrow).1
    nodup_keyPairs := Table.nodup_erase id h.nodup_keyPairs }

theorem putConversationKey (h : d.IsSound) {k : StoredConversationKey}
    (hk : BackupPayload.validateConversationKey k = .ok ()) :
  (d.putConversationKey (.ofRecord k)).IsSound
  := { h with
    conversationKeys := by
      intro row hrow
      rcases Table.mem_put.1 hrow with rfl | ⟨hrow, -⟩
      · exact ⟨k, rfl, hk⟩
      · exact h.conversationKeys row hrow
    nodup_conversationKeys := Table.nodup_put h.nodup_conversationKeys }

/-- A key that is put in takes at most the time of the last rotation from the one before. -/
theorem updateConversationKey_eq (h : d.IsSound) (k : StoredConversationKey) :
  ∃ rotatedAt, d.updateConversationKey (.ofRecord k) =
    d.putConversationKey (.ofRecord { k with rotatedAt := rotatedAt })
  := by
  rcases hf : d.conversationKey? k.conversationId with _ | row
  · use k.rotatedAt
    have hf' : d.conversationKey? (ConversationKeyRow.ofRecord k).conversationId = none := hf
    simp [Database.updateConversationKey, hf']
  · obtain ⟨former, rfl, -⟩ := h.conversationKeys row (Table.mem_of_find? hf).1
    have hf' : d.conversationKey? (ConversationKeyRow.ofRecord k).conversationId =
      some (.ofRecord former) := hf
    use k.rotatedAt.or former.rotatedAt
    rcases hr : k.rotatedAt with _ | t
    · rw [Database.updateConversationKey, hf']
      simp [ConversationKeyRow.ofRecord, hr]
    · simp [Database.updateConversationKey, ConversationKeyRow.ofRecord, hr]

theorem updateConversationKey (h : d.IsSound) {k : StoredConversationKey}
    (hk : BackupPayload.validateConversationKey k = .ok ()) :
  (d.updateConversationKey (.ofRecord k)).IsSound
  := by
  obtain ⟨rotatedAt, he⟩ := h.updateConversationKey_eq k
  rw [he]
  apply h.putConversationKey
  rw [BackupPayload.validateConversationKey_eq_ok_iff] at hk ⊢
  exact hk

theorem eraseConversationKey (h : d.IsSound) (id : String) :
  (d.eraseConversationKey id).IsSound
  := { h with
    conversationKeys := fun row hrow => h.conversationKeys row (Table.mem_erase.1 hrow).1
    nodup_conversationKeys := Table.nodup_erase id h.nodup_conversationKeys }

theorem appendRotation (h : d.IsSound) {r : RotationRecord}
    (hr : d.hasRotation r.conversationId (.integer r.newVersion.toNat) = false) :
  { d with rotations := d.rotations ++ [RotationRow.ofRecord r] }.IsSound
  := { h with
    rotations := by
      intro row hrow
      rcases List.mem_append.1 hrow with hrow | hrow
      · exact h.rotations row hrow
      · exact ⟨r, List.mem_singleton.1 hrow⟩
    nodup_rotations := by
      rw [List.map_append, List.map_singleton]
      apply h.nodup_rotations.append (List.nodup_singleton _)
      rw [List.disjoint_singleton]
      exact hasRotation_eq_false_iff.1 hr }

theorem mergeRotation (h : d.IsSound) (r : RotationRecord) :
  (d.mergeRotation r).IsSound
  := by
  rcases hr : d.hasRotation r.conversationId (.integer r.newVersion.toNat) with _ | _
  · rw [mergeRotation_of_not_hasRotation hr]
    exact h.appendRotation hr
  · rw [mergeRotation_of_hasRotation hr]
    exact h

theorem merge (h : d.IsSound) {p : BackupPayload} (hp : p.validate = .ok ()) :
  (d.merge p).IsSound
  := by
  obtain ⟨hkeyPairs, hconversationKeys⟩ := BackupPayload.validate_eq_ok_iff.1 hp
  apply merge_induction h
  · intro d k hk hd
    exact hd.putKeyPair (hkeyPairs k hk)
  · intro d k hk hd
    exact hd.putConversationKey (hconversationKeys k hk)
  · intro d r _ hd
    exact hd.mergeRotation r

theorem addMaster (h : d.IsSound) (salt : Salt) (params : KdfParams) (check : String) :
  (d.addMaster salt params check).IsSound
  := by
  obtain ⟨metadata, he⟩ := d.addMaster_eq salt params check
  rw [he]
  exact { h with }

theorem clear (d : Database) :
  d.clear.IsSound
  := by
  constructor <;> simp [Database.clear, Database.empty]

end IsSound

end Database

/-! ### Runs -/

/-- No operation makes a database unsound. -/
theorem Operation.Effect.isSound {α : Type} {op : Operation α} {device : Device} {d : Database}
    (h : Effect op device d) (hd : device.database.IsSound) :
  d.IsSound
  := by
  cases h with
  | nothing => exact hd
  | storeKeyPair id pair password _ hid =>
    exact hd.putKeyPair (StoredKeyPair.validate_ofKeyPair hid ..)
  | deleteKeyPair id => exact hd.eraseKeyPair id
  | storeConversationKey id key version _ master current? hk hid hversion =>
    apply hd.updateConversationKey
    exact BackupPayload.validateConversationKey_eq_ok_iff.2 ⟨hid, hversion⟩
  | deleteConversationKey id => exact hd.eraseConversationKey id
  | rotateConversationKey id secret reason _ master current? new key hk hlive hnew hkey hlog =>
    have hid := (ConversationKey.derive_eq_ok_iff.1 hkey).2.1
    obtain ⟨hlast, rfl⟩ := Action.nextVersion_eq_ok_iff.1 hnew
    have hput := hd.updateConversationKey (k := Action.rotatedRecord device master id key _)
      (BackupPayload.validateConversationKey_eq_ok_iff.2 ⟨hid, UInt32.add_one_ne_zero hlast⟩)
    exact hput.appendRotation hlog
  | unlock => exact hd.addMaster ..
  | restoreBackup backup password _ payload h =>
    obtain ⟨-, -, -, -, hvalid⟩ := EncryptedBackup.toPayload_eq_ok_iff.1 h
    exact hd.merge hvalid
  | clearAll => apply Database.IsSound.clear

theorem Database.Reachable.isSound {d : Database} (h : d.Reachable) :
  d.IsSound
  := Run.invariant h .empty fun _ _ _ _ _ hd he => he.isSound hd

end Keyring

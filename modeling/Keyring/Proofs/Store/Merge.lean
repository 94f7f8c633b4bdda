import Keyring.Proofs.Store.Soundness

/-!
# Merging records into a database

What a payload makes of a database, table by table.  Of several records with one id the last one
counts, and it takes the place of the row that was there.  A rotation is added to the log, unless it
stands there already or the payload has it twice.  A payload that was merged changes nothing when it
is merged once more.
-/

namespace Keyring

/-! ### The records that count -/

namespace BackupPayload

/-- The key pair that a payload has under an id; of several ones, the last one counts. -/
def keyPair? (p : BackupPayload) (id : String) : Option StoredKeyPair :=
  Table.find? StoredKeyPair.id id p.keyPairs.reverse

/-- The key that a payload has for a conversation; of several ones, the last one counts. -/
def conversationKey? (p : BackupPayload) (id : String) : Option StoredConversationKey :=
  Table.find? StoredConversationKey.conversationId id p.conversationKeys.reverse

theorem keyPair?_eq_none_iff {p : BackupPayload} {id : String} :
  p.keyPair? id = none ↔ ∀ k ∈ p.keyPairs, k.id ≠ id
  := by
  rw [keyPair?, Table.find?_eq_none_iff]
  simp only [List.mem_reverse]

theorem mem_of_conversationKey? {p : BackupPayload} {id : String} {k : StoredConversationKey}
    (h : p.conversationKey? id = some k) :
  k ∈ p.conversationKeys ∧ k.conversationId = id
  := by
  obtain ⟨hk, hid⟩ := Table.mem_of_find? h
  exact ⟨List.mem_reverse.1 hk, hid⟩

/-- The rows of the key pairs are found as the key pairs are. -/
theorem find?_map_keyPairs (p : BackupPayload) (id : String) :
  Table.find? KeyPairRow.id id (p.keyPairs.map .ofRecord).reverse =
    (p.keyPair? id).map .ofRecord
  := by
  rw [← List.map_reverse]
  exact List.find?_map

/-- The rows of the conversation keys are found as the conversation keys are. -/
theorem find?_map_conversationKeys (p : BackupPayload) (id : String) :
  Table.find? ConversationKeyRow.conversationId id (p.conversationKeys.map .ofRecord).reverse =
    (p.conversationKey? id).map .ofRecord
  := by
  rw [← List.map_reverse]
  exact List.find?_map

end BackupPayload

/-- What a rotation is known by. -/
def RotationRecord.entry (r : RotationRecord) : String × UInt32 :=
  (r.conversationId, r.newVersion)

/-- Rotations that are known by the same have rows that are known by the same. -/
theorem RotationRow.entry_ofRecord_eq {r s : RotationRecord} (h : r.entry = s.entry) :
  (ofRecord r).entry = (ofRecord s).entry
  := by
  obtain ⟨hid, hversion⟩ := Prod.mk.inj h
  rw [entry, entry, ofRecord, ofRecord, hid, hversion]

namespace Database

/-- Whether a rotation stands neither in the log nor among those given before it. -/
def isNewRotation (d : Database) (before : List RotationRecord) (r : RotationRecord) : Bool :=
  !d.hasRotation r.conversationId (.integer r.newVersion.toNat) &&
    before.all fun s => s.entry != r.entry

/-- Those of the given rotations that are new where they stand, in their order. -/
def newRotations (d : Database) (rs : List RotationRecord) : List RotationRecord :=
  (rs.zipIdx.filter fun (r, i) => d.isNewRotation (rs.take i) r).map Prod.fst

variable {d : Database} {p : BackupPayload}

/-! ### The log -/

/-- The last one of the given rotations is new or not, whatever the others are. -/
theorem newRotations_concat (d : Database) (rs : List RotationRecord) (r : RotationRecord) :
  d.newRotations (rs ++ [r]) =
    d.newRotations rs ++ if d.isNewRotation rs r = true then [r] else []
  := by
  rw [newRotations, newRotations, List.zipIdx_append, List.filter_append, List.map_append]
  congr 1
  · congr 1
    apply List.filter_congr
    rintro ⟨s, i⟩ hs
    have hlt : i < rs.length := by simpa using List.snd_lt_of_mem_zipIdx hs
    dsimp only
    rw [List.take_append_of_le_length hlt.le]
  · rw [List.zipIdx_singleton, Nat.zero_add, List.filter_singleton]
    dsimp only
    rw [List.take_left]
    rcases d.isNewRotation rs r with _ | _
    · rfl
    · rfl

/-- The new ones of the given rotations keep their order. -/
theorem newRotations_sublist (d : Database) (rs : List RotationRecord) :
  (d.newRotations rs).Sublist rs
  := by
  have h := (List.filter_sublist (l := rs.zipIdx)
    (p := fun (r, i) => d.isNewRotation (rs.take i) r)).map Prod.fst
  rwa [List.zipIdx_map_fst] at h

/-- The log does not have a new rotation. -/
theorem hasRotation_of_mem_newRotations {rs : List RotationRecord} {r : RotationRecord}
    (h : r ∈ d.newRotations rs) :
  d.hasRotation r.conversationId (.integer r.newVersion.toNat) = false
  := by
  obtain ⟨⟨s, i⟩, hs, rfl⟩ := List.mem_map.1 h
  have hnew : d.isNewRotation (rs.take i) s = true := (List.mem_filter.1 hs).2
  rw [isNewRotation, Bool.and_eq_true, Bool.not_eq_true'] at hnew
  exact hnew.1

/-- Of rotations with different entries, those are new that the log does not have. -/
theorem newRotations_eq_filter {rs : List RotationRecord}
    (h : (rs.map RotationRecord.entry).Nodup) :
  d.newRotations rs =
    rs.filter fun r => !d.hasRotation r.conversationId (.integer r.newVersion.toNat)
  := by
  induction rs using List.reverseRecOn with
  | nil => rfl
  | append_singleton rs r ih =>
    rw [List.map_append, List.nodup_append] at h
    obtain ⟨hinit, -, hne⟩ := h
    have hbefore : (rs.all fun s => s.entry != r.entry) = true := by
      rw [List.all_eq_true]
      intro s hs
      exact bne_iff_ne.2 (hne _ (List.mem_map_of_mem hs) _ List.mem_cons_self)
    rw [newRotations_concat, isNewRotation, hbefore, Bool.and_true, ih hinit, List.filter_append,
      List.filter_singleton, Bool.cond_eq_ite]

/-- After a rotation is added, the log has it beside those that it had. -/
theorem hasRotation_append (d : Database) (r : RotationRecord) (id : String) (version : UInt32) :
  { d with rotations := d.rotations ++ [RotationRow.ofRecord r] }.hasRotation id
      (.integer version.toNat) =
    (d.hasRotation id (.integer version.toNat) || r.entry == (id, version))
  := by
  rw [hasRotation, List.any_append, ← hasRotation]
  congr 1
  rw [Bool.eq_iff_iff, beq_iff_eq, RotationRecord.entry, Prod.mk.injEq]
  simp [RotationRow.ofRecord, UInt32.toNat_inj]

/-- After a rotation is merged, the log has it beside those that it had. -/
theorem hasRotation_mergeRotation (d : Database) (r s : RotationRecord) :
  (d.mergeRotation r).hasRotation s.conversationId (.integer s.newVersion.toNat) =
    (d.hasRotation s.conversationId (.integer s.newVersion.toNat) || r.entry == s.entry)
  := by
  rcases hr : d.hasRotation r.conversationId (.integer r.newVersion.toNat) with _ | _
  · rw [mergeRotation_of_not_hasRotation hr, hasRotation_append]
    rfl
  · rw [mergeRotation_of_hasRotation hr, Bool.eq_self_or, beq_iff_eq]
    intro he
    obtain ⟨hid, hversion⟩ := Prod.mk.inj he
    rw [← hid, ← hversion]
    exact hr

/-- After rotations are merged, those that the log does not have are new to it and to them. -/
theorem hasRotation_foldl_mergeRotation (d : Database) (rs : List RotationRecord)
    (s : RotationRecord) :
  (rs.foldl mergeRotation d).hasRotation s.conversationId (.integer s.newVersion.toNat) =
    !d.isNewRotation rs s
  := by
  induction rs generalizing d with
  | nil => simp [isNewRotation]
  | cons r rest ih =>
    rw [List.foldl_cons, ih, isNewRotation, isNewRotation, hasRotation_mergeRotation, Bool.not_or,
      List.all_cons, Bool.and_assoc]
    rfl

/-- Merging rotations adds the new ones to the log. -/
theorem foldl_mergeRotation_eq (d : Database) (rs : List RotationRecord) :
  rs.foldl mergeRotation d =
    { d with rotations := d.rotations ++ (d.newRotations rs).map .ofRecord }
  := by
  induction rs using List.reverseRecOn with
  | nil =>
    rw [newRotations, List.zipIdx_nil, List.filter_nil, List.map_nil, List.map_nil, List.append_nil]
    rfl
  | append_singleton rs r ih =>
    have hlog := hasRotation_foldl_mergeRotation d rs r
    rw [List.foldl_concat, newRotations_concat]
    rcases hnew : d.isNewRotation rs r with _ | _
    · rw [hnew] at hlog
      rw [mergeRotation_of_hasRotation hlog, ih]
      simp
    · rw [hnew] at hlog
      rw [mergeRotation_of_not_hasRotation hlog, ih]
      simp

/-- Rotations that the log has are not new to it. -/
theorem newRotations_eq_nil {rs : List RotationRecord}
    (h : ∀ r ∈ rs, d.hasRotation r.conversationId (.integer r.newVersion.toNat) = true) :
  d.newRotations rs = []
  := by
  rw [newRotations, List.map_eq_nil_iff, List.filter_eq_nil_iff]
  rintro ⟨r, i⟩ hr
  simp [isNewRotation, h r (List.fst_mem_of_mem_zipIdx hr)]

/-- Rotations with different entries, none of them in the log, are all new. -/
theorem newRotations_eq_self {rs : List RotationRecord}
    (h : ((d.rotations ++ rs.map RotationRow.ofRecord).map RotationRow.entry).Nodup) :
  d.newRotations rs = rs
  := by
  -- Rotations are entered from the first one on, so the induction takes away the last one.
  induction rs using List.reverseRecOn with
  | nil => rfl
  | append_singleton rs r ih =>
    have hsplit : d.rotations ++ (rs ++ [r]).map RotationRow.ofRecord =
        (d.rotations ++ rs.map RotationRow.ofRecord) ++ [.ofRecord r] := by simp
    rw [hsplit, List.map_append, List.nodup_append] at h
    obtain ⟨hinit, -, hne⟩ := h
    have hother : (RotationRow.ofRecord r).entry ∉
        (d.rotations ++ rs.map RotationRow.ofRecord).map RotationRow.entry :=
      fun hmem => hne _ hmem _ List.mem_cons_self rfl
    rw [List.map_append, List.mem_append, not_or] at hother
    have hlog : d.hasRotation r.conversationId (.integer r.newVersion.toNat) = false :=
      hasRotation_eq_false_iff.2 hother.1
    have hbefore : ∀ s ∈ rs, s.entry ≠ r.entry := by
      intro s hs he
      apply hother.2
      rw [RotationRow.entry_ofRecord_eq he.symm]
      exact List.mem_map_of_mem (List.mem_map_of_mem hs)
    have hnew : d.isNewRotation rs r = true := by
      simpa [isNewRotation, hlog] using hbefore
    rw [newRotations_concat, ih hinit, if_pos hnew]

/-! ### The tables of keys -/

theorem foldl_putKeyPair (d : Database) (ks : List StoredKeyPair) :
  ks.foldl (fun d k => d.putKeyPair (.ofRecord k)) d =
    { d with keyPairs := Table.putAll KeyPairRow.id (ks.map .ofRecord) d.keyPairs }
  := by
  induction ks generalizing d with
  | nil => rfl
  | cons k rest ih =>
    rw [List.foldl_cons, ih]
    rfl

theorem foldl_putConversationKey (d : Database) (ks : List StoredConversationKey) :
  ks.foldl (fun d k => d.putConversationKey (.ofRecord k)) d =
    { d with
      conversationKeys := Table.putAll ConversationKeyRow.conversationId (ks.map .ofRecord)
        d.conversationKeys }
  := by
  induction ks generalizing d with
  | nil => rfl
  | cons k rest ih =>
    rw [List.foldl_cons, ih]
    rfl

/-! ### The whole payload -/

/-- What a payload makes of each table. -/
theorem merge_eq (d : Database) (p : BackupPayload) :
  d.merge p =
    { keyPairs := Table.putAll KeyPairRow.id (p.keyPairs.map .ofRecord) d.keyPairs
      conversationKeys := Table.putAll ConversationKeyRow.conversationId
        (p.conversationKeys.map .ofRecord) d.conversationKeys
      rotations := d.rotations ++ (d.newRotations p.rotationHistory).map .ofRecord
      metadata := d.metadata }
  := by
  rw [merge, foldl_putKeyPair, foldl_putConversationKey, foldl_mergeRotation_eq]
  rfl

theorem keyPair?_merge (d : Database) (p : BackupPayload) (id : String) :
  (d.merge p).keyPair? id = ((p.keyPair? id).map .ofRecord).or (d.keyPair? id)
  := by
  rw [merge_eq, ← p.find?_map_keyPairs]
  exact Table.find?_putAll ..

theorem conversationKey?_merge (d : Database) (p : BackupPayload) (id : String) :
  (d.merge p).conversationKey? id = ((p.conversationKey? id).map .ofRecord).or (d.conversationKey? id)
  := by
  rw [merge_eq, ← p.find?_map_conversationKeys]
  exact Table.find?_putAll ..

theorem rotations_merge (d : Database) (p : BackupPayload) :
  (d.merge p).rotations = d.rotations ++ (d.newRotations p.rotationHistory).map .ofRecord
  := by
  rw [merge_eq]

/-- A recovery writes no metadata. -/
theorem metadata_merge (d : Database) (p : BackupPayload) :
  (d.merge p).metadata = d.metadata
  := by
  rw [merge_eq]

/-- After a payload is merged, the log has all of its rotations. -/
theorem hasRotation_merge (d : Database) {r : RotationRecord} (hr : r ∈ p.rotationHistory) :
  (d.merge p).hasRotation r.conversationId (.integer r.newVersion.toNat) = true
  := by
  have hold : d.isNewRotation p.rotationHistory r = false := by
    rw [isNewRotation, Bool.and_eq_false_iff, List.all_eq_false]
    right
    exact ⟨r, hr, by simp⟩
  have hlog := hasRotation_foldl_mergeRotation d p.rotationHistory r
  rw [foldl_mergeRotation_eq, hold] at hlog
  rw [merge_eq]
  exact hlog

/-- No rotation of a payload is new once the payload is merged. -/
theorem newRotations_merge (d : Database) (p : BackupPayload) :
  (d.merge p).newRotations p.rotationHistory = []
  := newRotations_eq_nil fun _ hr => d.hasRotation_merge hr

/-- Merging a payload once more changes nothing. -/
theorem merge_merge (d : Database) (p : BackupPayload) :
  (d.merge p).merge p = d.merge p
  := by
  rw [merge_eq (d.merge p), newRotations_merge, merge_eq]
  simp only [Table.putAll_putAll, List.map_nil, List.append_nil]

/-- Whether a database is another one with a payload merged into it.  What the payload has last under
an id is there and can be read; under every other id is what was there, and nothing else; the log
goes on with the new rotations; and the metadata are the same. -/
structure IsMergeOf (d' d : Database) (p : BackupPayload) : Prop where
  keyPair?_eq : ∀ id, d'.keyPair? id = ((p.keyPair? id).map .ofRecord).or (d.keyPair? id)
  mem_keyPairs : ∀ row, row ∈ d'.keyPairs ↔
    (p.keyPair? row.id).map .ofRecord = some row ∨ p.keyPair? row.id = none ∧ row ∈ d.keyPairs
  nodup_keyPairs : (d.keyPairs.map KeyPairRow.id).Nodup → (d'.keyPairs.map KeyPairRow.id).Nodup
  toRecord_keyPair : ∀ id k, p.keyPair? id = some k → (KeyPairRow.ofRecord k).toRecord = .ok k
  conversationKey?_eq : ∀ id,
    d'.conversationKey? id = ((p.conversationKey? id).map .ofRecord).or (d.conversationKey? id)
  mem_conversationKeys : ∀ row, row ∈ d'.conversationKeys ↔
    (p.conversationKey? row.conversationId).map .ofRecord = some row ∨
      p.conversationKey? row.conversationId = none ∧ row ∈ d.conversationKeys
  nodup_conversationKeys : (d.conversationKeys.map ConversationKeyRow.conversationId).Nodup →
    (d'.conversationKeys.map ConversationKeyRow.conversationId).Nodup
  toRecord_conversationKey : ∀ id k, p.conversationKey? id = some k →
    (ConversationKeyRow.ofRecord k).toRecord = .ok k
  rotations_eq : d'.rotations = d.rotations ++ (d.newRotations p.rotationHistory).map .ofRecord
  metadata_eq : d'.metadata = d.metadata

/-- Merging a valid payload makes that database. -/
theorem isMergeOf_merge (d : Database) (hp : p.validate = .ok ()) :
  (d.merge p).IsMergeOf d p
  where
    keyPair?_eq := d.keyPair?_merge p
    mem_keyPairs := by
      intro row
      rw [merge_eq, Table.mem_putAll, p.find?_map_keyPairs, Option.map_eq_none_iff]
    nodup_keyPairs := by
      rw [merge_eq]
      exact Table.nodup_putAll _
    toRecord_keyPair _ k _ := KeyPairRow.toRecord_ofRecord k
    conversationKey?_eq := d.conversationKey?_merge p
    mem_conversationKeys := by
      intro row
      rw [merge_eq, Table.mem_putAll, p.find?_map_conversationKeys, Option.map_eq_none_iff]
    nodup_conversationKeys := by
      rw [merge_eq]
      exact Table.nodup_putAll _
    toRecord_conversationKey := by
      intro id k hk
      obtain ⟨hmem, -⟩ := BackupPayload.mem_of_conversationKey? hk
      have hvalid := (BackupPayload.validate_eq_ok_iff.1 hp).2 k hmem
      have hversion := (BackupPayload.validateConversationKey_eq_ok_iff.1 hvalid).2
      exact ConversationKeyRow.toRecord_ofRecord hversion
    rotations_eq := d.rotations_merge p
    metadata_eq := d.metadata_merge p

end Database

end Keyring

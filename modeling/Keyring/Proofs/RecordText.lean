import Keyring.Proofs.Store.Row

/-!
# The texts of records

Every record is read back from the text that it is written as.  A backup has two such texts, the
compact one and the indented one, and the cost parameters of a key pair have a column of their own.
No string, number or instant is left out, and no optional member.
-/

namespace Keyring

/-! ### Compact texts -/

theorem StoredKeyPair.ofText?_compact (k : StoredKeyPair) :
  ofText? k.toJson.compact = some k
  := by
  rw [ofText?, Json.ofText?_compact k.isPlain_toJson]
  exact k.ofJson?_toJson (by decide)

theorem StoredConversationKey.ofText?_compact (k : StoredConversationKey) :
  ofText? k.toJson.compact = some k
  := by
  rw [ofText?, Json.ofText?_compact k.isPlain_toJson]
  exact k.ofJson?_toJson

theorem ConversationKeyInfo.ofText?_compact (k : ConversationKeyInfo) :
  ofText? k.toJson.compact = some k
  := by
  rw [ofText?, Json.ofText?_compact k.isPlain_toJson]
  exact k.ofJson?_toJson

theorem RotationRecord.ofText?_compact (r : RotationRecord) :
  ofText? r.toJson.compact = some r
  := by
  rw [ofText?, Json.ofText?_compact r.isPlain_toJson]
  exact r.ofJson?_toJson

theorem BackupPayload.ofText?_compact (p : BackupPayload) :
  ofText? p.toJson.compact = some p
  := by
  rw [ofText?, Json.ofText?_compact p.isPlain_toJson]
  exact p.ofJson?_toJson

theorem EncryptedBackup.ofText_compact (b : EncryptedBackup) :
  ofText b.toJson.compact = .ok b
  := by
  have hread := b.ofJson?_toJson
  rw [ofText, Json.ofText?_compact b.isPlain_toJson]
  simp [hread]

/-! ### All records -/

/-- Whatever its members are, a record is read back from its text: a backup from the compact and
from the indented one, a payload also from its bytes, and cost parameters also from the column of a
row, whoever owns it, where an absent column gives absent parameters. -/
theorem records_read_back :
  (∀ b : EncryptedBackup,
    EncryptedBackup.ofText b.toJson.compact = .ok b ∧ EncryptedBackup.ofText b.text = .ok b) ∧
  (∀ p : BackupPayload,
    BackupPayload.ofText? p.toJson.compact = some p ∧ BackupPayload.ofBytes? p.toBytes = some p) ∧
  (∀ k : StoredKeyPair, StoredKeyPair.ofText? k.toJson.compact = some k) ∧
  (∀ k : StoredConversationKey, StoredConversationKey.ofText? k.toJson.compact = some k) ∧
  (∀ r : RotationRecord, RotationRecord.ofText? r.toJson.compact = some r) ∧
  (∀ k : ConversationKeyInfo, ConversationKeyInfo.ofText? k.toJson.compact = some k) ∧
  (∀ p : KdfParams, KdfParams.ofText? p.toJson.compact = some p) ∧
  ∀ (owner : String) (p? : Option KdfParams),
    Row.readParams owner (p?.map KdfParams.text) = .ok p?
  := by
  refine ⟨?_, ?_, StoredKeyPair.ofText?_compact, StoredConversationKey.ofText?_compact,
    RotationRecord.ofText?_compact, ConversationKeyInfo.ofText?_compact, KdfParams.ofText?_text,
    Row.readParams_map_text⟩
  · intro b
    exact ⟨b.ofText_compact, b.ofText_text⟩
  · intro p
    exact ⟨p.ofText?_compact, p.ofBytes?_toBytes⟩

end Keyring

import Keyring.Proofs.Instant.Text
import Keyring.Proofs.Json.Layout
import Keyring.Record.Backup

/-!
# Reading records back

Every record is a plain value, and it is read back from the value that it is written as: with all
its members, whether optional ones are there or not.  Backups are therefore read back from their
text, and payloads from their bytes.
-/

namespace Keyring

open Json (Members)

/-! ### Members -/

namespace Json

/-- The members of an object that a record knows, when there are no others and none is repeated. -/
theorem members?_object (members : List (String × Json)) (names : List String)
    (hknown : ∀ m ∈ members, m.1 ∈ names) (hnodup : (members.map Prod.fst).Nodup) :
  (object members).members? names = some ⟨members, false⟩
  := by
  have hfilter : members.filter (fun m => names.contains m.1) = members := by
    apply List.filter_eq_self.2
    simpa using hknown
  rw [members?, hfilter, if_pos hnodup]

@[simp]
theorem uint32?_nat_toNat (v : UInt32) :
  (nat v.toNat).uint32? = some v
  := by
  rw [uint32?, if_pos v.toNat_lt, UInt32.ofNat_toNat]

@[simp]
theorem string?_string (s : String) :
  (string s).string? = some s
  := rfl

@[simp]
theorem isFloatableNat_toNat (v : UInt32) :
  isFloatableNat v.toNat = true
  := by
  have hlt := v.toNat_lt
  exact if_pos (by simp [UInt64.size]; omega)

/-- A value that may be absent is read back, if the value is no `null`. -/
theorem nullable?_ofOption {α : Type} (read : Json → Option α) (write : α → Json) (a? : Option α)
    (hread : ∀ a ∈ a?, read (write a) = some a) (hnull : ∀ a ∈ a?, write a ≠ null) :
  nullable? read (ofOption write a?) = some a?
  := by
  rcases a? with _ | a
  · rfl
  · have hr := hread a rfl
    have hn := hnull a rfl
    rw [ofOption]
    rcases hw : write a <;> simp_all [nullable?]

end Json

@[simp]
theorem Instant.ofJson?_toJson (t : Instant) :
  ofJson? t.toJson = some t
  := by
  simp [ofJson?, toJson]

@[simp]
theorem KdfAlgorithm.ofJson?_toJson (a : KdfAlgorithm) :
  ofJson? a.toJson = some a
  := ofName?_name a

theorem Instant.isPlain_toJson (t : Instant) :
  t.toJson.IsPlain
  := trivial

theorem Instant.isPlain_ofOption (t? : Option Instant) :
  (Json.ofOption toJson t?).IsPlain
  := by
  cases t? <;> trivial

/-- An instant that may be absent is read back. -/
theorem Instant.nullable?_ofOption (t? : Option Instant) :
  Json.nullable? ofJson? (Json.ofOption toJson t?) = some t?
  := Json.nullable?_ofOption ofJson? toJson t? (fun t _ => t.ofJson?_toJson) (by rintro _ _ ⟨⟩)

/-! ### Cost parameters -/

namespace KdfParams

theorem isPlain_toJson (p : KdfParams) :
  p.toJson.IsPlain
  := by
  cases p <;> simp [toJson, KdfAlgorithm.toJson, Json.IsPlain, Json.AreMembersPlain]

/-- Cost parameters are read back wherever they do not stand too deep. -/
theorem ofJson?_toJson {depth : Nat} (hdepth : depth < maxLevels) (p : KdfParams) :
  ofJson? depth p.toJson = some p
  := by
  have hlevels : 0 < maxLevels - depth := by omega
  have hreadable : p.toJson.isReadable (maxLevels - depth) = true := by
    cases p <;>
      simp [toJson, KdfAlgorithm.toJson, Json.isReadable, Json.areMembersReadable, hlevels]
  rw [ofJson?, hreadable]
  cases p with
  | argon2id memoryKib iterations parallelism =>
    have hsplit : split? (argon2id memoryKib iterations parallelism).toJson =
        some (KdfAlgorithm.argon2id.name, .object [("memoryKib", .nat memoryKib.toNat),
          ("iterations", .nat iterations.toNat), ("parallelism", .nat parallelism.toNat)]) := rfl
    have hmembers := Json.members?_object [("memoryKib", .nat memoryKib.toNat),
      ("iterations", .nat iterations.toNat), ("parallelism", .nat parallelism.toNat)]
      ["memoryKib", "iterations", "parallelism"] (by simp) (by simp)
    simp [hsplit, hmembers, Members.required, Members.get?, List.lookup_cons]
  | pbkdf2 rounds =>
    have hsplit : split? (pbkdf2 rounds).toJson =
        some (KdfAlgorithm.pbkdf2.name, .object [("rounds", .nat rounds.toNat)]) := rfl
    have hmembers := Json.members?_object [("rounds", .nat rounds.toNat)] ["rounds"] (by simp)
      (by simp)
    simp [hsplit, hmembers, Members.required, Members.get?]

/-- Cost parameters are read back where they may be absent. -/
theorem nullable?_toJson {depth : Nat} (hdepth : depth < maxLevels) (p : KdfParams) :
  Json.nullable? (ofJson? depth) p.toJson = some (some p)
  := Json.nullable?_ofOption (ofJson? depth) toJson (some p)
    (by rintro _ ⟨⟩; exact ofJson?_toJson hdepth p) (by rintro _ ⟨⟩; cases p <;> rintro ⟨⟩)

@[simp]
theorem ofText?_text (p : KdfParams) :
  ofText? p.text = some p
  := by
  rw [ofText?, text, Json.ofText?_compact p.isPlain_toJson]
  exact ofJson?_toJson (by decide) p

end KdfParams

/-- A choice of cost is read back. -/
theorem KdfConfig.ofJson?_toJson (c : KdfConfig) :
  ofJson? c.toJson = some c
  := by
  rw [ofJson?, toJson, Json.members?_object _ _ (by simp) (by simp)]
  simp only [Option.bind_eq_bind, Option.bind_some, Members.defaulted, Members.get?]
  simp only [List.lookup_cons, String.reduceBEq]
  simp

/-! ### Records of the store -/

namespace StoredKeyPair

theorem isPlain_toJson (k : StoredKeyPair) :
  k.toJson.IsPlain
  := by
  rcases hp : k.kdfParams with _ | p
  · simp [toJson, hp, KdfAlgorithm.toJson, Instant.toJson, Json.IsPlain, Json.AreMembersPlain]
  · simp [toJson, hp, KdfAlgorithm.toJson, Instant.toJson, Json.IsPlain, Json.AreMembersPlain,
      p.isPlain_toJson]

/-- A key pair is read back, with its cost parameters if it has any. -/
theorem ofJson?_toJson {depth : Nat} (hdepth : depth + 1 < KdfParams.maxLevels)
    (k : StoredKeyPair) :
  ofJson? depth k.toJson = some k
  := by
  obtain ⟨id, publicKey, encryptedPrivateKey, kdf, kdfParams, createdAt⟩ := k
  rcases kdfParams with _ | p
  · have hmembers := Json.members?_object [("id", .string id),
      ("publicKey", .string publicKey), ("encryptedPrivateKey", .string encryptedPrivateKey),
      ("kdf", kdf.toJson), ("createdAt", createdAt.toJson)]
      ["id", "publicKey", "encryptedPrivateKey", "kdf", "kdfParams", "createdAt"]
      (by simp) (by simp)
    simp only [ofJson?, toJson, Option.map_none, Option.toList_none, List.append_nil,
      List.cons_append, List.nil_append, hmembers, Option.bind_eq_bind, Option.bind_some,
      Members.required, Members.defaulted, Members.optional, Members.get?]
    simp only [List.lookup_cons, String.reduceBEq]
    simp
  · have hmembers := Json.members?_object [("id", .string id),
      ("publicKey", .string publicKey), ("encryptedPrivateKey", .string encryptedPrivateKey),
      ("kdf", kdf.toJson), ("kdfParams", p.toJson), ("createdAt", createdAt.toJson)]
      ["id", "publicKey", "encryptedPrivateKey", "kdf", "kdfParams", "createdAt"]
      (by simp) (by simp)
    have hp := KdfParams.nullable?_toJson hdepth p
    simp only [ofJson?, toJson, Option.map_some, Option.toList_some, List.cons_append,
      List.nil_append, hmembers, Option.bind_eq_bind, Option.bind_some,
      Members.required, Members.defaulted, Members.optional, Members.get?]
    simp only [List.lookup_cons, String.reduceBEq]
    simp [hp]

end StoredKeyPair

namespace StoredConversationKey

theorem isPlain_toJson (k : StoredConversationKey) :
  k.toJson.IsPlain
  := by
  simp [toJson, Instant.toJson, Json.IsPlain, Json.AreMembersPlain, Instant.isPlain_ofOption]

theorem ofJson?_toJson (k : StoredConversationKey) :
  ofJson? k.toJson = some k
  := by
  obtain ⟨id, encryptedKey, iv, tag, version, createdAt, rotatedAt⟩ := k
  rw [ofJson?, toJson, Json.members?_object _ _ (by simp) (by simp)]
  simp only [Option.bind_eq_bind, Option.bind_some, Members.required, Members.nullableMember,
    Members.optional, Members.defaulted, Members.get?]
  simp only [List.lookup_cons, String.reduceBEq]
  simp [Instant.nullable?_ofOption]

end StoredConversationKey

namespace ConversationKeyInfo

theorem isPlain_toJson (k : ConversationKeyInfo) :
  k.toJson.IsPlain
  := by
  simp [toJson, Instant.toJson, Json.IsPlain, Json.AreMembersPlain, Instant.isPlain_ofOption]

theorem ofJson?_toJson (k : ConversationKeyInfo) :
  ofJson? k.toJson = some k
  := by
  obtain ⟨version, createdAt, rotatedAt⟩ := k
  rw [ofJson?, toJson, Json.members?_object _ _ (by simp) (by simp)]
  simp only [Option.bind_eq_bind, Option.bind_some, Members.required, Members.nullableMember,
    Members.optional, Members.defaulted, Members.get?]
  simp only [List.lookup_cons, String.reduceBEq]
  simp [Instant.nullable?_ofOption]

end ConversationKeyInfo

namespace RotationRecord

theorem isPlain_toJson (r : RotationRecord) :
  r.toJson.IsPlain
  := by
  simp [toJson, Instant.toJson, Json.IsPlain, Json.AreMembersPlain]

theorem ofJson?_toJson (r : RotationRecord) :
  ofJson? r.toJson = some r
  := by
  rw [ofJson?, toJson, Json.members?_object _ _ (by simp) (by simp)]
  simp only [Option.bind_eq_bind, Option.bind_some, Members.required, Members.get?]
  simp only [List.lookup_cons, String.reduceBEq]
  simp

end RotationRecord

/-! ### Backups -/

namespace BackupPayload

theorem isPlain_toJson (p : BackupPayload) :
  p.toJson.IsPlain
  := by
  have hkeyPairs := Json.arePlain_map fun k (_ : k ∈ p.keyPairs) => k.isPlain_toJson
  have hconversationKeys :=
    Json.arePlain_map fun k (_ : k ∈ p.conversationKeys) => k.isPlain_toJson
  have hrotations := Json.arePlain_map fun r (_ : r ∈ p.rotationHistory) => r.isPlain_toJson
  simp [toJson, Instant.toJson, Json.IsPlain, Json.AreMembersPlain, hkeyPairs, hconversationKeys,
    hrotations]

theorem ofJson?_toJson (p : BackupPayload) :
  ofJson? p.toJson = some p
  := by
  have hkeyPairs := Option.mapM_map_of_forall fun k (_ : k ∈ p.keyPairs) =>
    k.ofJson?_toJson (by decide : 2 + 1 < KdfParams.maxLevels)
  have hconversationKeys := Option.mapM_map_of_forall fun k (_ : k ∈ p.conversationKeys) =>
    k.ofJson?_toJson
  have hrotations := Option.mapM_map_of_forall fun r (_ : r ∈ p.rotationHistory) =>
    r.ofJson?_toJson
  rw [ofJson?, toJson, Json.members?_object _ _ (by simp) (by simp)]
  simp only [Option.bind_eq_bind, Option.bind_some, Members.required, Members.defaulted,
    Members.get?]
  simp only [List.lookup_cons, String.reduceBEq]
  simp [Json.list?, hkeyPairs, hconversationKeys, hrotations]

/-- A payload is read back from its bytes. -/
@[simp]
theorem ofBytes?_toBytes (p : BackupPayload) :
  ofBytes? p.toBytes = some p
  := by
  rw [ofBytes?, toBytes, Json.ofBytes?_utf8, Json.ofText?_compact p.isPlain_toJson]
  exact p.ofJson?_toJson

end BackupPayload

namespace EncryptedBackup

theorem isPlain_toJson (b : EncryptedBackup) :
  b.toJson.IsPlain
  := by
  rcases hp : b.kdfParams with _ | p
  · simp [toJson, hp, KdfAlgorithm.toJson, Instant.toJson, Json.IsPlain, Json.AreMembersPlain]
  · simp [toJson, hp, KdfAlgorithm.toJson, Instant.toJson, Json.IsPlain, Json.AreMembersPlain,
      p.isPlain_toJson]

theorem ofJson?_toJson (b : EncryptedBackup) :
  ofJson? b.toJson = some b
  := by
  obtain ⟨version, encryptedData, iv, salt, createdAt, kdf, kdfParams⟩ := b
  rcases kdfParams with _ | p
  · have hmembers := Json.members?_object [("version", .nat version.toNat),
      ("encryptedData", .string encryptedData), ("iv", .string iv), ("salt", .string salt),
      ("createdAt", createdAt.toJson), ("kdf", kdf.toJson)]
      ["version", "encryptedData", "iv", "salt", "createdAt", "kdf", "kdfParams"]
      (by simp) (by simp)
    simp only [ofJson?, toJson, Option.map_none, Option.toList_none, List.append_nil, hmembers,
      Option.bind_eq_bind, Option.bind_some, Members.required, Members.defaulted,
      Members.optional, Members.get?]
    simp only [List.lookup_cons, String.reduceBEq]
    simp
  · have hmembers := Json.members?_object [("version", .nat version.toNat),
      ("encryptedData", .string encryptedData), ("iv", .string iv), ("salt", .string salt),
      ("createdAt", createdAt.toJson), ("kdf", kdf.toJson), ("kdfParams", p.toJson)]
      ["version", "encryptedData", "iv", "salt", "createdAt", "kdf", "kdfParams"]
      (by simp) (by simp)
    have hp := KdfParams.nullable?_toJson (by decide : 1 < KdfParams.maxLevels) p
    simp only [ofJson?, toJson, Option.map_some, Option.toList_some, List.cons_append,
      List.nil_append, hmembers, Option.bind_eq_bind, Option.bind_some, Members.required,
      Members.defaulted, Members.optional, Members.get?]
    simp only [List.lookup_cons, String.reduceBEq]
    simp [hp]

/-- A backup is read back from its text. -/
@[simp]
theorem ofText_text (b : EncryptedBackup) :
  ofText b.text = .ok b
  := by
  have hread := b.ofJson?_toJson
  rw [ofText, text, Json.ofText?_pretty b.isPlain_toJson]
  simp [hread]

end EncryptedBackup

end Keyring

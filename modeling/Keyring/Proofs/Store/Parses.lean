import Keyring.Proofs.Store.NewDevice
import Keyring.Proofs.Store.WrongPassword

/-!
# What can be read in a row

Anything may stand in the columns of a row.  The columns of a row can be read if each of them says
what belongs there: then they give the parts of a sealed value, for a key pair together with the
strategy for its password and the public key.  Reading fails for malformed data only, but for times
and versions, which the database itself reads.
-/

namespace Keyring

/-- Whether a failure is one of malformed data. -/
def StoreError.IsFormat (e : StoreError) : Prop :=
  ∃ reason, e = .format reason

namespace Row

theorem readParams_failsOnly (owner : String) (text? : Option String) :
  (readParams owner text?).FailsOnlyWith StoreError.IsFormat
  := by
  rcases text? with _ | text
  · exact Except.failsOnlyWith_ok _ _
  · rw [readParams]
    split
    · exact Except.failsOnlyWith_ok _ _
    · exact Except.failsOnlyWith_throw ⟨_, rfl⟩

theorem readVersion_failsOnly (i : Int) :
  (readVersion i).FailsOnlyWith StoreError.IsFormat
  := by
  rw [readVersion]
  split
  · exact Except.failsOnlyWith_ok _ _
  · exact Except.failsOnlyWith_throw ⟨_, rfl⟩

end Row

/-! ### Keys of conversations -/

/-- The wrapped key of a row, with its version. -/
def ConversationKeyRow.sealedKey (row : ConversationKeyRow) : Except StoreError (UInt32 × Sealed) := do
  let k ← row.toRecord
  let sealed ← k.toSealed
  return (k.version, sealed)

/-- Whether every column of a conversation key can be read. -/
structure ConversationKeyRow.Parses (row : ConversationKeyRow) (version : UInt32) (sealed : Sealed) :
    Prop where
  isWellTyped : row.isWellTyped = true
  version_eq : row.version = .integer version.toNat
  version_ne : version ≠ 0
  decode_encryptedKey : Base64.decode row.encryptedKey = .ok sealed.ciphertext
  decode_iv : Base64.decode row.iv = .ok sealed.iv.bytes
  decode_tag : Base64.decode row.tag = .ok sealed.tag.bytes

namespace StoredConversationKey

theorem decodeField_eq_ok_iff {n : Nat} {field id s : String} {b : Block n} :
  decodeField n field id s = .ok b ↔ Base64.decode s = .ok b.bytes
  := by
  rw [decodeField, Except.bind_eq_ok_iff]
  constructor
  · rintro ⟨bytes, hbytes, h⟩
    rcases hb : Block.ofBytes? n bytes with _ | b'
    · rw [hb] at h
      cases h
    · rw [hb] at h
      cases h
      rw [Block.ofBytes?_eq_some_iff.1 hb]
      exact Except.mapError_eq_ok_iff.1 hbytes
  · intro h
    use b.bytes, Except.mapError_eq_ok_iff.2 h
    rw [Block.ofBytes?_bytes]
    rfl

theorem decodeField_failsOnly (n : Nat) (field id s : String) :
  (decodeField n field id s).FailsOnlyWith StoreError.IsFormat
  := by
  refine Except.FailsOnlyWith.bind (Except.failsOnlyWith_mapError (fun _ => ⟨_, rfl⟩) _) ?_
  intro bytes
  rcases Block.ofBytes? n bytes with _ | b
  · exact Except.failsOnlyWith_throw ⟨_, rfl⟩
  · exact Except.failsOnlyWith_ok _ _

theorem toSealed_eq_ok_iff {k : StoredConversationKey} {sealed : Sealed} :
  k.toSealed = .ok sealed ↔
    Base64.decode k.encryptedKey = .ok sealed.ciphertext ∧
      Base64.decode k.iv = .ok sealed.iv.bytes ∧ Base64.decode k.tag = .ok sealed.tag.bytes
  := by
  constructor
  · intro h
    obtain ⟨ciphertext, hciphertext, h⟩ := Except.bind_eq_ok_iff.1 h
    obtain ⟨iv, hiv, h⟩ := Except.bind_eq_ok_iff.1 h
    obtain ⟨tag, htag, h⟩ := Except.bind_eq_ok_iff.1 h
    cases h
    exact ⟨Except.mapError_eq_ok_iff.1 hciphertext, decodeField_eq_ok_iff.1 hiv,
      decodeField_eq_ok_iff.1 htag⟩
  · rintro ⟨hciphertext, hiv, htag⟩
    refine Except.bind_eq_ok_iff.2 ⟨_, Except.mapError_eq_ok_iff.2 hciphertext, ?_⟩
    refine Except.bind_eq_ok_iff.2 ⟨_, decodeField_eq_ok_iff.2 hiv, ?_⟩
    exact Except.bind_eq_ok_iff.2 ⟨_, decodeField_eq_ok_iff.2 htag, rfl⟩

theorem toSealed_failsOnly (k : StoredConversationKey) :
  k.toSealed.FailsOnlyWith StoreError.IsFormat
  := by
  refine Except.FailsOnlyWith.bind (Except.failsOnlyWith_mapError (fun _ => ⟨_, rfl⟩) _) ?_
  intro ciphertext
  refine Except.FailsOnlyWith.bind (decodeField_failsOnly 12 "iv" k.conversationId k.iv) ?_
  intro iv
  refine Except.FailsOnlyWith.bind (decodeField_failsOnly 16 "tag" k.conversationId k.tag) ?_
  intro tag
  exact Except.failsOnlyWith_ok _ _

end StoredConversationKey

namespace ConversationKeyRow

variable {row : ConversationKeyRow}

/-- Columns of another type make the database fail. -/
theorem toRecord_of_not_isWellTyped (h : row.isWellTyped = false) :
  row.toRecord = .error .database
  := by
  rw [toRecord]
  rcases hcreated : Row.isInstant? (some row.createdAt) with _ | _
  · rw [Row.readInstant_eq_error hcreated, Except.error_bind]
  obtain ⟨createdAt, hread⟩ := Row.exists_readInstant hcreated
  rw [hread, Except.ok_bind]
  rcases hrotated : Row.isInstant? row.rotatedAt with _ | _
  · rw [Row.readInstant?_eq_error hrotated, Except.error_bind]
  obtain ⟨rotatedAt, hread⟩ := Row.exists_readInstant? hrotated
  rw [isWellTyped, hcreated, hrotated] at h
  have hversion : row.version.integer? = none := by
    simpa using h
  rw [hread, Except.ok_bind, Row.readInteger, hversion]
  rfl

theorem exists_of_isWellTyped (h : row.isWellTyped = true) :
  ∃ createdAt rotatedAt version, Row.readInstant row.createdAt = .ok createdAt ∧
    Row.readInstant? row.rotatedAt = .ok rotatedAt ∧ row.version = .integer version
  := by
  rw [isWellTyped, Bool.and_eq_true, Bool.and_eq_true] at h
  obtain ⟨⟨hcreated, hrotated⟩, hversion⟩ := h
  obtain ⟨createdAt, hcreated⟩ := Row.exists_readInstant hcreated
  obtain ⟨rotatedAt, hrotated⟩ := Row.exists_readInstant? hrotated
  use createdAt, rotatedAt
  rcases hv : row.version with i | _ | _
  · exact ⟨i, hcreated, hrotated, rfl⟩
  · rw [hv] at hversion
    cases hversion
  · rw [hv] at hversion
    cases hversion

theorem sealedKey_eq_ok_iff {version : UInt32} {sealed : Sealed} :
  row.sealedKey = .ok (version, sealed) ↔ row.Parses version sealed
  := by
  constructor
  · intro h
    obtain ⟨k, hk, h⟩ := Except.bind_eq_ok_iff.1 h
    obtain ⟨_, hsealed, h⟩ := Except.bind_eq_ok_iff.1 h
    cases h
    obtain ⟨_, hcreated, hk⟩ := Except.bind_eq_ok_iff.1 hk
    obtain ⟨_, hrotated, hk⟩ := Except.bind_eq_ok_iff.1 hk
    obtain ⟨i, hi, hk⟩ := Except.bind_eq_ok_iff.1 hk
    obtain ⟨version, hversion, hk⟩ := Except.bind_eq_ok_iff.1 hk
    cases hk
    rw [Row.readInteger_eq_ok_iff] at hi
    obtain ⟨rfl, hne⟩ := Row.readVersion_eq_ok_iff.1 hversion
    obtain ⟨hciphertext, hiv, htag⟩ := StoredConversationKey.toSealed_eq_ok_iff.1 hsealed
    refine ⟨?_, hi, hne, hciphertext, hiv, htag⟩
    rw [isWellTyped, Row.isInstant?_of_readInstant hcreated, Row.isInstant?_of_readInstant? hrotated,
      hi]
    rfl
  · rintro ⟨htyped, hversion, hne, hciphertext, hiv, htag⟩
    obtain ⟨createdAt, rotatedAt, -, hcreated, hrotated, -⟩ := exists_of_isWellTyped htyped
    have hk : row.toRecord = .ok ⟨row.conversationId, row.encryptedKey, row.iv, row.tag, version,
        createdAt, rotatedAt⟩ := by
      refine Except.bind_eq_ok_iff.2 ⟨_, hcreated, ?_⟩
      refine Except.bind_eq_ok_iff.2 ⟨_, hrotated, ?_⟩
      refine Except.bind_eq_ok_iff.2 ⟨_, Row.readInteger_eq_ok_iff.2 hversion, ?_⟩
      exact Except.bind_eq_ok_iff.2 ⟨_, Row.readVersion_toNat hne, rfl⟩
    refine Except.bind_eq_ok_iff.2 ⟨_, hk, ?_⟩
    exact Except.bind_eq_ok_iff.2
      ⟨sealed, StoredConversationKey.toSealed_eq_ok_iff.2 ⟨hciphertext, hiv, htag⟩, rfl⟩

theorem sealedKey_of_not_isWellTyped (h : row.isWellTyped = false) :
  row.sealedKey = .error .database
  := by
  rw [sealedKey, toRecord_of_not_isWellTyped h, Except.error_bind]

/-- Where no column is ill typed, only malformed data stand in the way. -/
theorem sealedKey_failsOnly (h : row.isWellTyped = true) :
  row.sealedKey.FailsOnlyWith StoreError.IsFormat
  := by
  obtain ⟨createdAt, rotatedAt, i, hcreated, hrotated, hi⟩ := exists_of_isWellTyped h
  have hk : row.toRecord.FailsOnlyWith StoreError.IsFormat := by
    rw [toRecord, hcreated, Except.ok_bind, hrotated, Except.ok_bind,
      Row.readInteger_eq_ok_iff.2 hi, Except.ok_bind]
    refine (Row.readVersion_failsOnly i).bind ?_
    intro version
    exact Except.failsOnlyWith_ok _ _
  refine hk.bind ?_
  intro k
  refine k.toSealed_failsOnly.bind ?_
  intro sealed
  exact Except.failsOnlyWith_ok _ _

/-- The columns can be read if the version is positive and has 32 bits, and the parts have the right
lengths. -/
theorem exists_parses_iff :
  (∃ version sealed, row.Parses version sealed) ↔
    row.isWellTyped = true ∧
    (∃ v, row.version = .integer v ∧ 1 ≤ v ∧ v < 4294967296) ∧
    (∃ ciphertext, Base64.decode row.encryptedKey = .ok ciphertext) ∧
    (∃ iv, Base64.decode row.iv = .ok iv ∧ iv.length = 12) ∧
    ∃ tag, Base64.decode row.tag = .ok tag ∧ tag.length = 16
  := by
  constructor
  · rintro ⟨version, sealed, htyped, hversion, hne, hciphertext, hiv, htag⟩
    have hpos : 0 < version.toNat := Nat.pos_of_ne_zero fun h => hne (UInt32.toNat_inj.1 h)
    have hlt := version.toNat_lt
    exact ⟨htyped, ⟨_, hversion, by omega, by omega⟩, ⟨_, hciphertext⟩,
      ⟨_, hiv, sealed.iv.length_bytes⟩, _, htag, sealed.tag.length_bytes⟩
  · rintro ⟨htyped, ⟨v, hversion, hpos, hlt⟩, ⟨ciphertext, hciphertext⟩, ⟨iv, hiv, hivlength⟩, tag,
      htag, htaglength⟩
    obtain ⟨version, hread⟩ : ∃ version, Row.readVersion v = .ok version := by
      rw [Row.readVersion, if_pos ⟨hpos, hlt⟩]
      exact ⟨_, rfl⟩
    obtain ⟨rfl, hne⟩ := Row.readVersion_eq_ok_iff.1 hread
    exact ⟨version, ⟨⟨iv, hivlength⟩, ciphertext, ⟨tag, htaglength⟩⟩,
      ⟨htyped, hversion, hne, hciphertext, hiv, htag⟩⟩

end ConversationKeyRow

/-! ### Key pairs -/

/-- A salt and a sealed value are any bytes from 44 on. -/
theorem Sealed.exists_append_toBytes_iff {b : Bytes} :
  (∃ (salt : Salt) (sealed : Sealed), b = salt.bytes ++ sealed.toBytes) ↔ 44 ≤ b.length
  := by
  constructor
  · rintro ⟨salt, sealed, rfl⟩
    simp only [toBytes, List.length_append, salt.length_bytes, sealed.iv.length_bytes,
      sealed.tag.length_bytes]
    omega
  · intro h
    have hsalt : (b.take 16).length = 16 := by
      rw [List.length_take]
      omega
    have hrest : 28 ≤ (b.drop 16).length := by
      rw [List.length_drop]
      omega
    obtain ⟨sealed, hsealed⟩ := exists_toBytes_iff.2 hrest
    use ⟨_, hsalt⟩, sealed
    rw [hsealed, List.take_append_drop]

/-- A sealed private key with a tag is a salt and a sealed value in a row. -/
theorem PrivateKeyBlob.ofBase64_eq_ok_iff {text : String} {blob : PrivateKeyBlob} :
  ofBase64 text = .ok blob ∧ 16 ≤ blob.ciphertext.length ↔
    ∃ (salt : Salt) (sealed : Sealed), Base64.decode text = .ok (salt.bytes ++ sealed.toBytes) ∧
      blob = ⟨salt, sealed.iv, sealed.ciphertext ++ sealed.tag.bytes⟩
  := by
  constructor
  · rintro ⟨h, hlength⟩
    obtain ⟨b, hb, h⟩ := Except.bind_eq_ok_iff.1 h
    obtain ⟨ciphertext, tag, hciphertext⟩ := Gcm.exists_append_tag hlength
    obtain ⟨salt, iv, _⟩ := blob
    obtain rfl := hciphertext
    have hbytes := toBytes_of_ofBytes h
    use salt, ⟨iv, ciphertext, tag⟩
    rw [Except.mapError_eq_ok_iff.1 hb, ← hbytes]
    simp only [toBytes, Sealed.toBytes, List.append_assoc, and_self]
  · rintro ⟨salt, sealed, hdecode, rfl⟩
    have hlength : 16 ≤ (sealed.ciphertext ++ sealed.tag.bytes).length :=
      Nat.le_of_not_lt sealed.not_length_ciphertext_tag_lt
    have hne : sealed.ciphertext ++ sealed.tag.bytes ≠ [] := by
      apply List.ne_nil_of_length_pos
      omega
    have hblob := ofBytes_toBytes (k := ⟨salt, sealed.iv, _⟩) hne
    refine ⟨Except.bind_eq_ok_iff.2 ⟨_, Except.mapError_eq_ok_iff.2 hdecode, ?_⟩, hlength⟩
    rw [← hblob]
    simp only [toBytes, Sealed.toBytes, List.append_assoc]

/-- A recorded cost leads to a strategy if it is the cost of the strategy, and the algorithm is the
configured one; where none is recorded, the configured strategy is meant. -/
theorem Settings.strategyFor_eq_ok_iff {settings : Settings} {params? : Option KdfParams}
    {strategy : Strategy} :
  settings.strategyFor params? = .ok strategy ↔
    match params? with
    | none => strategy = settings.strategy
    | some p => strategy.params = p ∧ strategy.algorithm = settings.strategy.algorithm
  := by
  constructor
  · intro h
    have halgorithm := algorithm_eq_of_strategyFor h
    rcases params? with _ | p
    · cases h
      rfl
    · refine ⟨?_, halgorithm⟩
      rw [strategyFor] at h
      split at h
      · cases h
      split at h
      next hp =>
        cases h
        exact hp.symm
      next =>
        exact KdfParams.build_eq_ok_iff.1 (Except.mapError_eq_ok_iff.1 h)
  · rcases params? with _ | p
    · rintro rfl
      rfl
    · rintro ⟨rfl, halgorithm⟩
      exact strategyFor_params halgorithm

namespace KeyPairRow

/-- Whether the recorded cost of a row leads to a strategy. -/
def LeadsTo (row : KeyPairRow) (settings : Settings) (strategy : Strategy) : Prop :=
  match row.kdfParams with
  | none => strategy = settings.strategy
  | some text => KdfParams.ofText? text = some strategy.params ∧
    strategy.algorithm = settings.strategy.algorithm

/-- Whether every column of a key pair can be read. -/
structure Parses (row : KeyPairRow) (settings : Settings) (strategy : Strategy) (salt : Salt)
    (sealed : Sealed) (publicKey : Bytes) : Prop where
  isWellTyped : row.isWellTyped = true
  kdf_eq : row.kdf = settings.strategy.algorithm.name
  leadsTo : row.LeadsTo settings strategy
  /-- So these are at least 44 bytes. -/
  decode_encryptedPrivateKey :
    Base64.decode row.encryptedPrivateKey = .ok (salt.bytes ++ sealed.toBytes)
  decode_publicKey : Base64.decode row.publicKey = .ok publicKey

variable {row : KeyPairRow} {settings : Settings}

/-- The cost of a row is read, and then leads to a strategy. -/
theorem leadsTo_iff {strategy : Strategy} (owner : String) :
  row.LeadsTo settings strategy ↔
    ∃ params?, Row.readParams owner row.kdfParams = .ok params? ∧
      settings.strategyFor params? = .ok strategy
  := by
  simp only [Settings.strategyFor_eq_ok_iff, LeadsTo]
  rcases row.kdfParams with _ | text
  · simp [Row.readParams]
  · rcases h : KdfParams.ofText? text with _ | p
    · simp [Row.readParams, h]
    · simp [Row.readParams, h, @eq_comm _ p]

theorem toRecord_eq_ok_iff {k : StoredKeyPair} :
  row.toRecord = .ok k ↔
    ∃ createdAt, Row.readInstant row.createdAt = .ok createdAt ∧ row.kdf = k.kdf.name ∧
      Row.readParams s!"key pair {row.id}" row.kdfParams = .ok k.kdfParams ∧
      k = ⟨row.id, row.publicKey, row.encryptedPrivateKey, k.kdf, k.kdfParams, createdAt⟩
  := by
  constructor
  · intro h
    obtain ⟨createdAt, hcreated, h⟩ := Except.bind_eq_ok_iff.1 h
    rcases hkdf : KdfAlgorithm.ofName? row.kdf with _ | kdf
    · simp only [hkdf, Except.throw_bind] at h
      cases h
    · simp only [hkdf, pure_bind] at h
      obtain ⟨kdfParams, hparams, h⟩ := Except.bind_eq_ok_iff.1 h
      cases h
      exact ⟨createdAt, hcreated, KdfAlgorithm.ofName?_eq_some_iff.1 hkdf, hparams, rfl⟩
  · rintro ⟨createdAt, hcreated, hkdf, hparams, hk⟩
    rw [hk, toRecord, hcreated, Except.ok_bind, hkdf, KdfAlgorithm.ofName?_name]
    simp only [pure_bind, hparams, Except.ok_bind]
    rfl

/-- The columns can be read if the algorithm is the configured one, the cost leads to a strategy, and
what is sealed has at least 44 bytes. -/
theorem exists_parses_iff :
  (∃ strategy salt sealed publicKey, row.Parses settings strategy salt sealed publicKey) ↔
    row.isWellTyped = true ∧
    row.kdf = settings.strategy.algorithm.name ∧
    (∃ strategy, row.LeadsTo settings strategy) ∧
    (∃ blob, Base64.decode row.encryptedPrivateKey = .ok blob ∧ 44 ≤ blob.length) ∧
    ∃ publicKey, Base64.decode row.publicKey = .ok publicKey
  := by
  simp only [← Sealed.exists_append_toBytes_iff]
  constructor
  · rintro ⟨strategy, salt, sealed, publicKey, htyped, hkdf, hleads, hblob, hpublic⟩
    exact ⟨htyped, hkdf, ⟨strategy, hleads⟩, ⟨_, hblob, salt, sealed, rfl⟩, publicKey, hpublic⟩
  · rintro ⟨htyped, hkdf, ⟨strategy, hleads⟩, ⟨_, hblob, salt, sealed, rfl⟩, publicKey, hpublic⟩
    exact ⟨strategy, salt, sealed, publicKey, ⟨htyped, hkdf, hleads, hblob, hpublic⟩⟩

/-- What a row has sealed under a password, with the public key that stands beside it. -/
def sealedPair (row : KeyPairRow) (settings : Settings) (id : String) :
    Except StoreError (PasswordSealed × Bytes) := do
  let k ← row.toRecord
  let s ← k.passwordSealed settings id
  let publicKey ← (Base64.decode k.publicKey).mapError fun e =>
    StoreError.format s!"public key of {id}: {e.message}"
  return (s, publicKey)

end KeyPairRow

theorem Settings.strategyFor_failsOnly (settings : Settings) (params? : Option KdfParams) :
  (settings.strategyFor params?).FailsOnlyWith StoreError.IsFormat
  := by
  rcases params? with _ | p
  · exact Except.failsOnlyWith_ok _ _
  · rw [strategyFor]
    split
    · exact Except.failsOnlyWith_throw ⟨_, rfl⟩
    split
    · exact Except.failsOnlyWith_ok _ _
    · exact Except.failsOnlyWith_mapError (fun _ => ⟨_, rfl⟩) _

theorem StoredKeyPair.passwordSealed_failsOnly (k : StoredKeyPair) (settings : Settings) (id : String) :
  (k.passwordSealed settings id).FailsOnlyWith StoreError.IsFormat
  := by
  simp only [passwordSealed, Except.throw_bind]
  refine Except.FailsOnlyWith.guard ⟨_, rfl⟩ ?_
  refine Except.FailsOnlyWith.bind (Except.failsOnlyWith_mapError (fun _ => ⟨_, rfl⟩) _) ?_
  intro blob
  refine Except.FailsOnlyWith.bind (Except.failsOnlyWith_mapError (fun _ => ⟨_, rfl⟩) _) ?_
  intro publicKey
  refine Except.FailsOnlyWith.guard ⟨_, rfl⟩ ?_
  refine (settings.strategyFor_failsOnly k.kdfParams).bind ?_
  intro strategy
  exact Except.failsOnlyWith_ok _ _

/-- A record is read if the algorithm is the configured one and its parts are all there. -/
theorem StoredKeyPair.passwordSealed_eq_ok_iff {k : StoredKeyPair} {settings : Settings} {id : String}
    {s : PasswordSealed} :
  k.passwordSealed settings id = .ok s ↔
    k.kdf = settings.strategy.algorithm ∧ (∃ publicKey, Base64.decode k.publicKey = .ok publicKey) ∧
    ∃ strategy, settings.strategyFor k.kdfParams = .ok strategy ∧ ∃ (salt : Salt) (sealed : Sealed),
      Base64.decode k.encryptedPrivateKey = .ok (salt.bytes ++ sealed.toBytes) ∧
        s = ⟨strategy, salt, sealed.iv, sealed.ciphertext, sealed.tag.bytes,
          (Purpose.keyPair id).associatedData⟩
  := by
  simp only [passwordSealed, Except.throw_bind]
  constructor
  · intro h
    split at h
    · cases h
    next hkdf =>
      obtain ⟨blob, hblob, h⟩ := Except.bind_eq_ok_iff.1 h
      obtain ⟨publicKey, hpublic, h⟩ := Except.bind_eq_ok_iff.1 h
      split at h
      · cases h
      next hlong =>
        obtain ⟨strategy, hstrategy, h⟩ := Except.bind_eq_ok_iff.1 h
        obtain ⟨salt, sealed, hdecode, rfl⟩ := PrivateKeyBlob.ofBase64_eq_ok_iff.1
          ⟨Except.mapError_eq_ok_iff.1 hblob, Nat.le_of_not_lt hlong⟩
        cases h
        refine ⟨not_not.1 hkdf, ⟨publicKey, Except.mapError_eq_ok_iff.1 hpublic⟩, strategy, hstrategy,
          salt, sealed, hdecode, ?_⟩
        rw [sealed.take_ciphertext_tag, sealed.drop_ciphertext_tag]
  · rintro ⟨hkdf, ⟨publicKey, hpublic⟩, strategy, hstrategy, salt, sealed, hdecode, rfl⟩
    obtain ⟨hblob, hlength⟩ := PrivateKeyBlob.ofBase64_eq_ok_iff.2 ⟨salt, sealed, hdecode, rfl⟩
    rw [if_neg (not_not_intro hkdf)]
    simp only [hblob, hpublic, hstrategy, Except.mapError_ok, Except.ok_bind,
      sealed.not_length_ciphertext_tag_lt, if_false, sealed.take_ciphertext_tag,
      sealed.drop_ciphertext_tag]
    rfl

namespace KeyPairRow

variable {row : KeyPairRow} {settings : Settings} {id : String}

theorem sealedPair_eq_ok_iff {s : PasswordSealed} {publicKey : Bytes} :
  row.sealedPair settings id = .ok (s, publicKey) ↔
    ∃ strategy salt sealed, row.Parses settings strategy salt sealed publicKey ∧
      s = ⟨strategy, salt, sealed.iv, sealed.ciphertext, sealed.tag.bytes,
        (Purpose.keyPair id).associatedData⟩
  := by
  constructor
  · intro h
    obtain ⟨k, hk, h⟩ := Except.bind_eq_ok_iff.1 h
    obtain ⟨s', hs, h⟩ := Except.bind_eq_ok_iff.1 h
    obtain ⟨publicKey', hpublic, h⟩ := Except.bind_eq_ok_iff.1 h
    cases h
    obtain ⟨createdAt, hcreated, hkdf, hparams, hfields⟩ := toRecord_eq_ok_iff.1 hk
    obtain ⟨halgorithm, -, strategy, hstrategy, salt, sealed, hdecode, rfl⟩ :=
      StoredKeyPair.passwordSealed_eq_ok_iff.1 hs
    rw [hfields] at hdecode hpublic
    use strategy, salt, sealed
    refine ⟨⟨Row.isInstant?_of_readInstant hcreated, ?_, (leadsTo_iff _).2 ⟨_, hparams, hstrategy⟩,
      hdecode, Except.mapError_eq_ok_iff.1 hpublic⟩, rfl⟩
    rw [hkdf, halgorithm]
  · rintro ⟨strategy, salt, sealed, ⟨htyped, hkdf, hleads, hdecode, hpublic⟩, rfl⟩
    obtain ⟨createdAt, hcreated⟩ := Row.exists_readInstant htyped
    obtain ⟨params?, hparams, hstrategy⟩ := (leadsTo_iff s!"key pair {row.id}").1 hleads
    have hk := toRecord_eq_ok_iff (k := ⟨row.id, row.publicKey, row.encryptedPrivateKey,
      settings.strategy.algorithm, params?, createdAt⟩).2 ⟨createdAt, hcreated, hkdf, hparams, rfl⟩
    refine Except.bind_eq_ok_iff.2 ⟨_, hk, ?_⟩
    refine Except.bind_eq_ok_iff.2 ⟨_, StoredKeyPair.passwordSealed_eq_ok_iff.2
      ⟨rfl, ⟨publicKey, hpublic⟩, strategy, hstrategy, salt, sealed, hdecode, rfl⟩, ?_⟩
    exact Except.bind_eq_ok_iff.2 ⟨publicKey, Except.mapError_eq_ok_iff.2 hpublic, rfl⟩

theorem sealedPair_of_not_isWellTyped (h : row.isWellTyped = false) (settings : Settings)
    (id : String) :
  row.sealedPair settings id = .error .database
  := by
  rw [sealedPair, toRecord, Row.readInstant_eq_error h]
  rfl

theorem sealedPair_failsOnly (h : row.isWellTyped = true) (settings : Settings) (id : String) :
  (row.sealedPair settings id).FailsOnlyWith StoreError.IsFormat
  := by
  obtain ⟨createdAt, hcreated⟩ := Row.exists_readInstant h
  have hk : row.toRecord.FailsOnlyWith StoreError.IsFormat := by
    rw [toRecord, hcreated, Except.ok_bind]
    rcases KdfAlgorithm.ofName? row.kdf with _ | kdf
    · exact Except.failsOnlyWith_throw ⟨_, rfl⟩
    · refine (Row.readParams_failsOnly s!"key pair {row.id}" row.kdfParams).bind ?_
      intro kdfParams
      exact Except.failsOnlyWith_ok _ _
  refine hk.bind ?_
  intro k
  refine (k.passwordSealed_failsOnly settings id).bind ?_
  intro s
  refine Except.FailsOnlyWith.bind (Except.failsOnlyWith_mapError (fun _ => ⟨_, rfl⟩) _) ?_
  intro publicKey
  exact Except.failsOnlyWith_ok _ _

end KeyPairRow

end Keyring

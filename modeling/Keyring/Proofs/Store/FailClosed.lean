import Keyring.Proofs.Store.Parses

/-!
# What a lookup says of a row

A lookup finds a key only where every column of a row can be read and what they say opens and fits
together; it reports a decryption failure where every column can be read and nothing opens; and it
reports malformed data for everything else that can be wrong with a row.  One exception is made: a
column that the database itself cannot read makes the database fail, before anything else of the row
is looked at.
-/

namespace Keyring

/-- What a lookup says of the row that stands under an id, if there is one.  `Opens row a` says that
the row gives `a`, and `StaysClosed row` that it can be read and does not open. -/
structure Lookup.Classifies {ρ α : Type} (l : Lookup α) (row? : Option ρ) (isWellTyped : ρ → Bool)
    (Opens : ρ → α → Prop) (StaysClosed : ρ → Prop) : Prop where
  notFound_iff : l = .notFound ↔ row? = none
  found_iff : ∀ a, l = .found a ↔ ∃ row ∈ row?, Opens row a
  decryption_iff : l = .failed .decryption ↔ ∃ row ∈ row?, StaysClosed row
  database_iff : l = .failed .database ↔ ∃ row ∈ row?, isWellTyped row = false
  format_iff : (∃ reason, l = .failed (.format reason)) ↔
    ∃ row ∈ row?, isWellTyped row = true ∧ (∀ a, ¬Opens row a) ∧ ¬StaysClosed row

namespace Lookup

variable {ρ σ α : Type} {r : Except StoreError α}

theorem ofResult_map_some_ne (r : Except StoreError α) :
  ofResult (some <$> r) ≠ .notFound
  := by
  rcases r with e | a
  · rintro ⟨⟩
  · rintro ⟨⟩

theorem ofResult_map_some_eq_found_iff {a : α} :
  ofResult (some <$> r) = .found a ↔ r = .ok a
  := by
  rcases r with e | b
  · simp [ofResult]
  · simp [ofResult]

theorem ofResult_map_some_eq_failed_iff {e : StoreError} :
  ofResult (some <$> r) = .failed e ↔ r = .error e
  := by
  rcases r with e' | b
  · simp [ofResult]
  · simp [ofResult]

/-- A lookup that gives the result of a row classifies it, if the failures of the result say what is
wrong with the row. -/
theorem classifies_of_result {row : ρ} {isWellTyped : ρ → Bool} {Opens : ρ → α → Prop}
    {StaysClosed : ρ → Prop} (hopens : ∀ a, r = .ok a ↔ Opens row a)
    (hcloses : r = .error .decryption ↔ StaysClosed row)
    (hdatabase : r = .error .database ↔ isWellTyped row = false)
    (hfails : r.FailsOnlyWith fun e => e = .decryption ∨ e = .database ∨ e.IsFormat) :
  (ofResult (some <$> r)).Classifies (some row) isWellTyped Opens StaysClosed
  := by
  constructor
  · exact iff_of_false (ofResult_map_some_ne r) (Option.some_ne_none row)
  · simp [ofResult_map_some_eq_found_iff, hopens]
  · simp [ofResult_map_some_eq_failed_iff, hcloses]
  · simp [ofResult_map_some_eq_failed_iff, hdatabase]
  · simp only [ofResult_map_some_eq_failed_iff, Option.mem_some_iff, exists_eq_left', ← hopens,
      ← hcloses, ← Bool.not_eq_false, ← hdatabase]
    constructor
    · rintro ⟨reason, hreason⟩
      simp [hreason]
    · rintro ⟨hread, hopen, hclosed⟩
      rcases hr : r with e | a
      · obtain rfl | rfl | ⟨reason, rfl⟩ := hfails e hr
        · exact absurd hr hclosed
        · exact absurd hr hread
        · exact ⟨reason, rfl⟩
      · exact absurd hr (hopen a)

/-- A lookup classifies a row if reading its columns fails for malformed data only, or in the database
where they are ill typed, and if what is done with them then fails for malformed data or because
nothing opens. -/
theorem classifies_bind {row? : Option ρ} {isWellTyped : ρ → Bool} {read : ρ → Except StoreError σ}
    {next : σ → Except StoreError α} {l : Lookup α} (hnone : row? = none → l = .notFound)
    (hsome : ∀ row, row? = some row → l = .ofResult (some <$> (read row >>= next)))
    (hill : ∀ row, isWellTyped row = false → read row = .error .database)
    (hwell : ∀ row, isWellTyped row = true → (read row).FailsOnlyWith StoreError.IsFormat)
    (hnext : ∀ s, (next s).FailsOnlyWith fun e => e = .decryption ∨ e.IsFormat) :
  l.Classifies row? isWellTyped (fun row a => ∃ s, read row = .ok s ∧ next s = .ok a)
    fun row => ∃ s, read row = .ok s ∧ next s = .error .decryption
  := by
  rcases row? with _ | row
  · obtain rfl := hnone rfl
    constructor <;> simp
  obtain rfl := hsome row rfl
  -- A failure of the result is one of the reader or one of what comes after it.
  have hread (e : StoreError) (h : read row = .error e) :
      isWellTyped row = false ∧ e = .database ∨ isWellTyped row = true ∧ e.IsFormat := by
    rcases htyped : isWellTyped row with _ | _
    · rw [hill row htyped] at h
      cases h
      exact .inl ⟨rfl, rfl⟩
    · exact .inr ⟨rfl, hwell row htyped e h⟩
  apply classifies_of_result
  · intro a
    exact Except.bind_eq_ok_iff
  · rw [Except.bind_eq_error_iff, or_iff_right]
    intro h
    obtain ⟨-, h'⟩ | ⟨-, reason, h'⟩ := hread _ h
    · cases h'
    · cases h'
  · constructor
    · intro h
      rcases Except.bind_eq_error_iff.1 h with h | ⟨s, -, h⟩
      · obtain ⟨htyped, -⟩ | ⟨-, reason, h'⟩ := hread _ h
        · exact htyped
        · cases h'
      · obtain h' | ⟨reason, h'⟩ := hnext s _ h
        · cases h'
        · cases h'
    · intro htyped
      rw [hill row htyped, Except.error_bind]
  · apply Except.FailsOnlyWith.bind
    · intro e h
      obtain ⟨-, h'⟩ | ⟨-, h'⟩ := hread e h
      · exact .inr (.inl h')
      · exact .inr (.inr h')
    · intro s e h
      obtain h' | h' := hnext s e h
      · exact .inl h'
      · exact .inr (.inr h')

end Lookup

/-! ### Key pairs -/

/-- The key pair that opens under a password and fits a public key. -/
def PasswordSealed.keyPair (s : PasswordSealed) (id password : String) (publicKey : Bytes) :
    Except StoreError KeyPair := do
  let text ← (s.plaintext password).mapError fun _ => .decryption
  (KeyPair.ofParts publicKey text).mapError fun _ =>
    .format s!"public key of {id} does not match its private key"

theorem KeyPair.ofParts_eq_ok_iff {publicBytes privateBytes : Bytes} {pair : KeyPair} :
  ofParts publicBytes privateBytes = .ok pair ↔
    privateBytes = pair.privateKey.bytes ∧ publicBytes = pair.publicKey.bytes
  := by
  constructor
  · intro h
    have hpublic := publicKey_of_ofParts h
    obtain ⟨read, hread, h⟩ := Except.bind_eq_ok_iff.1 h
    split at h
    · cases h
      rcases hk : Block.ofBytes? 32 privateBytes with _ | k
      · rw [ofPrivateBytes, keyOfBytes, hk] at hread
        cases hread
      · rw [ofPrivateBytes, keyOfBytes, hk] at hread
        cases hread
        exact ⟨(Block.ofBytes?_eq_some_iff.1 hk).symm, hpublic.symm⟩
    · cases h
  · rintro ⟨rfl, rfl⟩
    exact pair.ofParts_bytes

namespace PasswordSealed

variable {s : PasswordSealed} {id password : String} {publicKey : Bytes}

theorem keyPair_eq_ok_iff {pair : KeyPair} :
  s.keyPair id password publicKey = .ok pair ↔
    s.plaintext password = .ok pair.privateKey.bytes ∧ publicKey = pair.publicKey.bytes
  := by
  simp only [keyPair, Except.bind_eq_ok_iff, Except.mapError_eq_ok_iff, KeyPair.ofParts_eq_ok_iff]
  simp

theorem keyPair_eq_decryption_iff :
  s.keyPair id password publicKey = .error .decryption ↔ ∀ text, s.plaintext password ≠ .ok text
  := by
  rw [keyPair]
  rcases s.plaintext password with e | text
  · simp
  · rw [Except.mapError_ok, Except.ok_bind]
    rcases KeyPair.ofParts publicKey text with e | pair
    · simp
    · simp

theorem keyPair_failsOnly (s : PasswordSealed) (id password : String) (publicKey : Bytes) :
  (s.keyPair id password publicKey).FailsOnlyWith fun e => e = .decryption ∨ e.IsFormat
  := by
  refine Except.FailsOnlyWith.bind (Except.failsOnlyWith_mapError (fun _ => .inl rfl) _) ?_
  intro text
  exact Except.failsOnlyWith_mapError (fun _ => .inr ⟨_, rfl⟩) _

end PasswordSealed

/-- What is found in a row is what it has sealed, if that fits the public key. -/
theorem KeyPairRow.openKeyPair_eq {d : Database} {row : KeyPairRow} {id : String}
    (h : d.keyPair? id = some row) (settings : Settings) (password : String) :
  d.openKeyPair settings id password =
    some <$> (row.sealedPair settings id >>= fun p => p.1.keyPair id password p.2)
  := by
  rw [Database.openKeyPair, h, sealedPair]
  dsimp only
  rcases row.toRecord with e | k
  · rfl
  rw [Except.ok_bind, Except.ok_bind, StoredKeyPair.toKeyPair_eq, PasswordSealed.opened]
  rcases hs : k.passwordSealed settings id with e | s
  · rfl
  obtain ⟨-, ⟨publicKey, hpublic⟩, -⟩ := StoredKeyPair.passwordSealed_eq_ok_iff.1 hs
  simp only [StoredKeyPair.pairOf, PasswordSealed.keyPair, hpublic, Except.mapError_ok, Except.ok_bind,
    pure_bind, map_eq_pure_bind]

namespace KeyPairRow

/-- Whether a key pair is what a row gives under a password: the row has its public key, and what is
sealed is its private key. -/
def Opens (row : KeyPairRow) (settings : Settings) (id password : String) (pair : KeyPair) : Prop :=
  ∃ strategy salt sealed, row.Parses settings strategy salt sealed pair.publicKey.bytes ∧
    sealed.plaintext (strategy.derive password salt) (Purpose.keyPair id).associatedData =
      .ok pair.privateKey.bytes

/-- Whether a row can be read and does not open under a password. -/
def StaysClosed (row : KeyPairRow) (settings : Settings) (id password : String) : Prop :=
  ∃ strategy salt sealed publicKey, row.Parses settings strategy salt sealed publicKey ∧
    ∀ text, sealed.plaintext (strategy.derive password salt) (Purpose.keyPair id).associatedData ≠
      .ok text

variable {row : KeyPairRow} {settings : Settings} {id password : String}

theorem opens_iff {pair : KeyPair} :
  row.Opens settings id password pair ↔
    ∃ p, row.sealedPair settings id = .ok p ∧ p.1.keyPair id password p.2 = .ok pair
  := by
  simp only [Prod.exists, sealedPair_eq_ok_iff, PasswordSealed.keyPair_eq_ok_iff]
  constructor
  · rintro ⟨strategy, salt, sealed, hparses, hopen⟩
    refine ⟨_, _, ⟨strategy, salt, sealed, hparses, rfl⟩, ?_, rfl⟩
    rw [PasswordSealed.plaintext, sealed.plaintextOfParts_bytes]
    exact hopen
  · rintro ⟨_, _, ⟨strategy, salt, sealed, hparses, rfl⟩, hopen, rfl⟩
    rw [PasswordSealed.plaintext, sealed.plaintextOfParts_bytes] at hopen
    exact ⟨strategy, salt, sealed, hparses, hopen⟩

theorem staysClosed_iff :
  row.StaysClosed settings id password ↔
    ∃ p, row.sealedPair settings id = .ok p ∧ p.1.keyPair id password p.2 = .error .decryption
  := by
  simp only [Prod.exists, sealedPair_eq_ok_iff, PasswordSealed.keyPair_eq_decryption_iff]
  constructor
  · rintro ⟨strategy, salt, sealed, publicKey, hparses, hclosed⟩
    refine ⟨_, publicKey, ⟨strategy, salt, sealed, hparses, rfl⟩, ?_⟩
    rw [PasswordSealed.plaintext, sealed.plaintextOfParts_bytes]
    exact hclosed
  · rintro ⟨_, publicKey, ⟨strategy, salt, sealed, hparses, rfl⟩, hclosed⟩
    rw [PasswordSealed.plaintext, sealed.plaintextOfParts_bytes] at hclosed
    exact ⟨strategy, salt, sealed, publicKey, hparses, hclosed⟩

end KeyPairRow

/-! ### Keys of conversations -/

/-- The key of a conversation that is unwrapped under a master key. -/
def Sealed.conversationKey (sealed : Sealed) (master : Key) (id : String) (version : UInt32) :
    Except StoreError ConversationKey :=
  ((unwrapKey master sealed (Purpose.conversationKey id version).associatedData).map
    ConversationKey.mk).mapError fun _ => .decryption

namespace Sealed

variable {sealed : Sealed} {master : Key} {id : String} {version : UInt32}

theorem conversationKey_eq_ok_iff {key : ConversationKey} :
  sealed.conversationKey master id version = .ok key ↔
    sealed.plaintext master (Purpose.conversationKey id version).associatedData = .ok key.key.bytes
  := by
  rw [← unwrapKey_eq_ok_iff, conversationKey]
  rcases unwrapKey master sealed _ with e | k
  · simp [Except.map]
  · rcases key with ⟨k'⟩
    simp [Except.map]

theorem conversationKey_failsOnly (sealed : Sealed) (master : Key) (id : String) (version : UInt32) :
  (sealed.conversationKey master id version).FailsOnlyWith (· = .decryption)
  := by
  apply Except.failsOnlyWith_mapError
  intro e
  rfl

theorem conversationKey_eq_decryption_iff :
  sealed.conversationKey master id version = .error .decryption ↔ ∀ key : Key,
    sealed.plaintext master (Purpose.conversationKey id version).associatedData ≠ .ok key.bytes
  := by
  simp only [ne_eq, ← unwrapKey_eq_ok_iff, conversationKey]
  rcases unwrapKey master sealed _ with e | k
  · simp [Except.map]
  · simp [Except.map]

end Sealed

namespace ConversationKeyRow

/-- Whether a key is what a row gives under a master key. -/
def Opens (row : ConversationKeyRow) (master : Key) (id : String) (key : ConversationKey) : Prop :=
  ∃ version sealed, row.Parses version sealed ∧
    sealed.plaintext master (Purpose.conversationKey id version).associatedData = .ok key.key.bytes

/-- Whether a row can be read and gives no key under a master key: it does not open, or what it opens
to is no key. -/
def StaysClosed (row : ConversationKeyRow) (master : Key) (id : String) : Prop :=
  ∃ version sealed, row.Parses version sealed ∧ ∀ key : Key,
    sealed.plaintext master (Purpose.conversationKey id version).associatedData ≠ .ok key.bytes

variable {row : ConversationKeyRow} {master : Key} {id : String}

theorem opens_iff {key : ConversationKey} :
  row.Opens master id key ↔
    ∃ p, row.sealedKey = .ok p ∧ p.2.conversationKey master id p.1 = .ok key
  := by
  simp only [Opens, Prod.exists, sealedKey_eq_ok_iff, Sealed.conversationKey_eq_ok_iff]

theorem staysClosed_iff :
  row.StaysClosed master id ↔
    ∃ p, row.sealedKey = .ok p ∧ p.2.conversationKey master id p.1 = .error .decryption
  := by
  simp only [StaysClosed, Prod.exists, sealedKey_eq_ok_iff, Sealed.conversationKey_eq_decryption_iff]

theorem not_opens_of_not_parses (h : ¬∃ version sealed, row.Parses version sealed) :
  (∀ key, ¬row.Opens master id key) ∧ ¬row.StaysClosed master id
  := by
  constructor
  · rintro key ⟨version, sealed, hparses, -⟩
    exact h ⟨version, sealed, hparses⟩
  · rintro ⟨version, sealed, hparses, -⟩
    exact h ⟨version, sealed, hparses⟩

/-- What was wrapped for a row opens. -/
theorem opens_ofRecord {iv : Gcm.Iv} {version : UInt32} (hversion : version ≠ 0)
    (key : ConversationKey) (createdAt : Instant) (rotatedAt : Option Instant) :
  (ofRecord (.ofSealed id (key.wrapped master iv id version) version createdAt rotatedAt)).Opens
    master id key
  := by
  have hread := toRecord_ofRecord (k := .ofSealed id (key.wrapped master iv id version) version
    createdAt rotatedAt) hversion
  refine ⟨version, key.wrapped master iv id version, sealedKey_eq_ok_iff.1 ?_,
    Sealed.plaintext_ofPlaintext ..⟩
  rw [sealedKey, hread, Except.ok_bind, StoredConversationKey.toSealed_ofSealed, Except.ok_bind]
  rfl

/-- What is found in a row is what it has wrapped. -/
theorem openConversation_eq {d : Database} (h : d.conversationKey? id = some row) (master : Key) :
  d.openConversation master id =
    some <$> (row.sealedKey >>= fun p => p.2.conversationKey master id p.1)
  := by
  rw [Database.openConversation, h, sealedKey]
  dsimp only
  rcases row.toRecord with e | k
  · rfl
  rw [Except.ok_bind, Except.ok_bind]
  rcases k.toSealed with e | sealed
  · rfl
  rw [Except.ok_bind, Except.ok_bind, pure_bind, Sealed.conversationKey]
  rcases Sealed.unwrapKey master sealed _ with e | key
  · rfl
  · rfl

end ConversationKeyRow

/-! ### Lookups -/

namespace Action

theorem classifies_getKeyPair (device : Device) (id password : String) :
  (getKeyPair id password device).1.Classifies (device.database.keyPair? id) KeyPairRow.isWellTyped
    (fun row pair => row.Opens device.settings id password pair)
    fun row => row.StaysClosed device.settings id password
  := by
  rw [outcome_getKeyPair]
  simp only [KeyPairRow.opens_iff, KeyPairRow.staysClosed_iff]
  apply Lookup.classifies_bind
  · intro h
    rw [Database.openKeyPair, h]
    rfl
  · intro row h
    rw [KeyPairRow.openKeyPair_eq h]
  · intro row h
    apply row.sealedPair_of_not_isWellTyped h
  · intro row h
    apply row.sealedPair_failsOnly h
  · intro p
    apply p.1.keyPair_failsOnly

theorem classifies_getConversationKey {device : Device} {master : Key}
    (h : device.key? = some master) (id : String) :
  (getConversationKey id device).1.Classifies (device.database.conversationKey? id)
    ConversationKeyRow.isWellTyped (fun row key => row.Opens master id key)
    fun row => row.StaysClosed master id
  := by
  rw [getConversationKey_of_key h]
  simp only [ConversationKeyRow.opens_iff, ConversationKeyRow.staysClosed_iff]
  apply Lookup.classifies_bind
  · intro h
    rw [Database.openConversation, h]
    rfl
  · intro row h
    rw [ConversationKeyRow.openConversation_eq h]
  · intro row h
    apply row.sealedKey_of_not_isWellTyped h
  · intro row h
    apply row.sealedKey_failsOnly h
  · intro p e he
    exact .inl (p.2.conversationKey_failsOnly master id p.1 e he)

end Action

/-- What the lookups say of a row, whatever it holds.  A key pair is looked up with a password, and the
key of a conversation with a master key in reach. -/
theorem lookups_fail_closed (device : Device) (id : String) :
  (∀ password, (Action.getKeyPair id password device).1.Classifies (device.database.keyPair? id)
    KeyPairRow.isWellTyped (fun row pair => row.Opens device.settings id password pair)
    fun row => row.StaysClosed device.settings id password) ∧
  ∀ master, device.key? = some master →
    (Action.getConversationKey id device).1.Classifies (device.database.conversationKey? id)
      ConversationKeyRow.isWellTyped (fun row key => row.Opens master id key)
      fun row => row.StaysClosed master id
  := by
  constructor
  · intro password
    apply Action.classifies_getKeyPair
  · intro master hkey
    apply Action.classifies_getConversationKey hkey

/-- The sample database with a change in the row of the conversation. -/
def Database.edited (edit : ConversationKeyRow → ConversationKeyRow) : Database :=
  { kept with conversationKeys := kept.conversationKeys.map edit }

/-- The sample conversation is found, and another one is not.  An empty initialisation vector is
malformed, and a time that is none makes the database fail, for a key pair as well. -/
theorem lookups_fail_closed_sample :
  (Action.getConversationKey "c" (.sample .kept)).1 = .found .sample ∧
  (Action.getConversationKey "d" (.sample .kept)).1 = .notFound ∧
  (∃ reason, (Action.getConversationKey "c"
    (.sample (.edited fun row => { row with iv := "" }))).1 = .failed (.format reason)) ∧
  (Action.getConversationKey "c"
    (.sample (.edited fun row => { row with createdAt := "yesterday" }))).1 = .failed .database ∧
  (Action.getKeyPair "me" "password" (.sample
    { Database.empty with keyPairs := [⟨"me", "", "", "", none, "yesterday"⟩] })).1 =
      .failed .database
  := by
  have hfind (d : Database) (id : String) := (lookups_fail_closed (.sample d) id).2 (.zero 32) rfl
  refine ⟨?_, ?_, ?_, ?_, ?_⟩
  · exact ((hfind .kept "c").found_iff .sample).2
      ⟨_, rfl, ConversationKeyRow.opens_ofRecord (by decide) _ _ _⟩
  · exact (hfind .kept "d").notFound_iff.2 rfl
  · refine (hfind _ "c").format_iff.2 ⟨_, rfl, by decide, ConversationKeyRow.not_opens_of_not_parses ?_⟩
    rw [ConversationKeyRow.exists_parses_iff]
    rintro ⟨-, -, -, ⟨iv, hiv, hlength⟩, -⟩
    cases hiv
    cases hlength
  · exact (hfind _ "c").database_iff.2 ⟨_, rfl, by decide⟩
  · exact ((lookups_fail_closed _ "me").1 "password").database_iff.2 ⟨_, rfl, by decide⟩

end Keyring

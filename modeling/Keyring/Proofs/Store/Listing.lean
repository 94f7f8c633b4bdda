import Keyring.Proofs.Instant.Order
import Keyring.Proofs.Store.Readability
import Keyring.Proofs.Store.Restore

/-!
# Listings

The ids of the key pairs, and those of the conversations, are listed in the order of a column of texts.
In a reachable database these are the texts of the instants at which the records were created, so that
the listing is in the order of time as long as years have four digits.  Everything that can be found is
listed once, and nothing else is.
-/

namespace Keyring

variable {κ ρ : Type}

/-- Whether an operation that looks for something finds it. -/
def Operation.Finds (op : Operation (Option κ)) (device : Device) (k : κ) : Prop :=
  op.outcome device = (.ok (some k), device)

/-- Whether ids are those under which something is found, each of them once, in the order of the times at
which it was created and, where these are equal, of the UTF-8 bytes of the ids. -/
structure Device.IsListing (device : Device) (look : String → Operation (Option κ))
    (createdAt : κ → Instant) (ids : List String) : Prop where
  nodup : ids.Nodup
  mem_iff (id : String) : id ∈ ids ↔ ∃ k, (look id).Finds device k
  pairwise : ids.Pairwise fun a b => ∀ k l, (look a).Finds device k → (look b).Finds device l →
    (createdAt k).IsBefore (createdAt l) ∨ createdAt k = createdAt l ∧ Bytes.utf8 a < Bytes.utf8 b

/-- Whether what is found was created in years of four digits. -/
def Device.HasFourDigitYears (device : Device) (look : String → Operation (Option κ))
    (createdAt : κ → Instant) : Prop :=
  ∀ id k, (look id).Finds device k → (createdAt k).HasFourDigitYear

/-- A table in the order of a column of instants lists what is found in it. -/
theorem Device.isListing_byColumn {device : Device} {look : String → Operation (Option κ)}
    {createdAt : κ → Instant} {id column : ρ → String} {rows : List ρ}
    {toRecord : ρ → Except StoreError κ} (hnodup : (rows.map id).Nodup)
    (hread : ∀ row ∈ rows, ∃ k, toRecord row = .ok k)
    (hcolumn : ∀ row ∈ rows, ∀ k, toRecord row = .ok k → column row = (createdAt k).storedText)
    (hlook : ∀ key k, (look key).Finds device k ↔ ∃ row ∈ rows, id row = key ∧ toRecord row = .ok k)
    (hyears : device.HasFourDigitYears look createdAt) :
  device.IsListing look createdAt ((Table.byColumn column id rows).map id)
  := by
  have hperm := Table.byColumn_perm column id rows
  have hunique : ((Table.byColumn column id rows).map id).Nodup := (hperm.map id).nodup_iff.2 hnodup
  refine ⟨hunique, ?_, ?_⟩
  · intro key
    rw [(hperm.map id).mem_iff, List.mem_map]
    constructor
    · rintro ⟨row, hrow, hkey⟩
      obtain ⟨k, hk⟩ := hread row hrow
      exact ⟨k, (hlook key k).2 ⟨row, hrow, hkey, hk⟩⟩
    · rintro ⟨k, hfinds⟩
      obtain ⟨row, hrow, hkey, -⟩ := (hlook key k).1 hfinds
      exact ⟨row, hrow, hkey⟩
  · have hordered := (List.pairwise_map.1 (Table.pairwise_byColumn column id rows)).and
      (List.pairwise_map.1 hunique)
    rw [List.pairwise_map]
    apply hordered.imp_of_mem
    intro r s hr hs ⟨hplace, hne⟩ k l hk hl
    have hr := hperm.mem_iff.1 hr
    have hs := hperm.mem_iff.1 hs
    obtain ⟨r', hr', hid, hk'⟩ := (hlook _ k).1 hk
    obtain ⟨s', hs', hid', hl'⟩ := (hlook _ l).1 hl
    obtain rfl := List.inj_on_of_nodup_map hnodup hr' hr hid
    obtain rfl := List.inj_on_of_nodup_map hnodup hs' hs hid'
    rw [Table.place, Table.place, Prod.Lex.toLex_le_toLex, hcolumn r' hr k hk',
      hcolumn s' hs l hl'] at hplace
    -- The texts of two times are in their order, as the years have as many digits.
    obtain hlt | ⟨heq, hle⟩ := hplace
    · exact .inl ((Instant.storedText_lt_iff (hyears _ k hk) (hyears _ l hl)).1 hlt)
    · exact .inr ⟨Instant.storedText_inj.1 heq, Bytes.utf8_lt_of_lt (lt_of_le_of_ne hle hne)⟩

namespace Operation

variable {device : Device}

/-- A key pair is found under its id. -/
theorem finds_storedKeyPair_iff (hd : device.database.IsSound) {id : String} {k : StoredKeyPair} :
  (storedKeyPair id).Finds device k ↔
    ∃ row ∈ device.database.keyPairs, row.id = id ∧ row.toRecord = .ok k
  := by
  rw [Finds, outcome, action, Action.outcome_storedKeyPair, Prod.mk.injEq,
    and_iff_left (Eq.refl device), Except.mapM_option_eq_some_iff]
  simp only [Database.keyPair?, Table.find?_eq_some_iff hd.nodup_keyPairs, and_assoc]

/-- The key of a conversation is found under the id of the conversation. -/
theorem finds_storedConversationKey_iff (hd : device.database.IsSound) {id : String}
    {k : StoredConversationKey} :
  (storedConversationKey id).Finds device k ↔
    ∃ row ∈ device.database.conversationKeys, row.conversationId = id ∧ row.toRecord = .ok k
  := by
  rw [Finds, outcome, action, Action.outcome_storedConversationKey, Prod.mk.injEq,
    and_iff_left (Eq.refl device), Except.mapM_option_eq_some_iff]
  simp only [Database.conversationKey?, Table.find?_eq_some_iff hd.nodup_conversationKeys, and_assoc]

end Operation

/-- In a reachable database whose records were created in years of four digits, in whatever order and
with whatever fractions of seconds, the ids of the key pairs and those of the conversations are listed:
each one under which something is stored, once, and no other, in the order of the times of creation and,
where these are equal, of the UTF-8 bytes of the ids. -/
theorem listings_are_complete_and_in_order {device : Device} (hdevice : device.database.Reachable)
    (hkeyPairs : device.HasFourDigitYears Operation.storedKeyPair StoredKeyPair.createdAt)
    (hkeys : device.HasFourDigitYears Operation.storedConversationKey
      StoredConversationKey.createdAt) :
  (∃ ids, Operation.keyPairIds.outcome device = (.ok ids, device) ∧
    device.IsListing Operation.storedKeyPair StoredKeyPair.createdAt ids) ∧
  ∃ ids, Operation.conversationIds.outcome device = (.ok ids, device) ∧
    device.IsListing Operation.storedConversationKey StoredConversationKey.createdAt ids
  := by
  have hd := hdevice.isSound
  constructor
  · refine ⟨device.database.keyPairIds, rfl, ?_⟩
    apply Device.isListing_byColumn hd.nodup_keyPairs
    · exact fun row hrow => hd.exists_toRecord_keyPair hrow
    · intro row hrow k hk
      rw [← (hd.toRecord_keyPair hrow hk).1]
      rfl
    · exact fun _ _ => Operation.finds_storedKeyPair_iff hd
    · exact hkeyPairs
  · refine ⟨device.database.conversationIds, rfl, ?_⟩
    apply Device.isListing_byColumn hd.nodup_conversationKeys
    · exact fun row hrow => hd.exists_toRecord_conversationKey hrow
    · intro row hrow k hk
      rw [← (hd.toRecord_conversationKey hrow hk).1]
      rfl
    · exact fun _ _ => Operation.finds_storedConversationKey_iff hd
    · exact hkeys

/-! ### Keys from one second -/

/-- A payload with keys of conversations that were created within one second, at instants that are
written in different counts of digits. -/
def BackupPayload.scattered : BackupPayload :=
  let key (id : String) (nanos : Nat) : StoredConversationKey :=
    ⟨id, "", "", "", 1, Instant.epoch.addNanos nanos, none⟩
  ⟨backupFormatVersion, .epoch, [],
    [key "a" 500001000, key "c" 500000000, key "b" 500000000, key "d" 0], []⟩

/-- The rows of the payload stand in the database as they came. -/
theorem Database.conversationKeys_scattered :
  (Database.empty.merge .scattered).conversationKeys =
    BackupPayload.scattered.conversationKeys.map .ofRecord
  := by decide +kernel

/-- In the order of time, and of the ids at one instant, they stand the other way round. -/
theorem Database.conversationIds_scattered :
  (Database.empty.merge .scattered).conversationIds = ["d", "b", "c", "a"]
  := by
  have hrows : Table.byColumn ConversationKeyRow.createdAt ConversationKeyRow.conversationId
      (BackupPayload.scattered.conversationKeys.map .ofRecord) =
        (BackupPayload.scattered.conversationKeys.map .ofRecord).reverse := by
    apply Table.byColumn_eq_of_perm
    · decide +kernel
    · apply List.reverse_perm
    · decide +kernel
  rw [Database.conversationIds, Database.conversationKeys_scattered, hrows]
  decide +kernel

/-- The conversations of the payload are listed after its recovery. -/
theorem listings_are_complete_and_in_order_sample :
  let device := Device.sample (Database.empty.merge .scattered)
  device.database.Reachable ∧
  device.HasFourDigitYears Operation.storedKeyPair StoredKeyPair.createdAt ∧
  device.HasFourDigitYears Operation.storedConversationKey StoredConversationKey.createdAt ∧
  Operation.conversationIds.outcome device = (.ok ["d", "b", "c", "a"], device) ∧
  device.IsListing Operation.storedConversationKey StoredConversationKey.createdAt
    ["d", "b", "c", "a"]
  := by
  intro device
  have hreachable : device.database.Reachable := Database.Reachable.empty.merge rfl rfl
  have hkeyPairs : device.HasFourDigitYears Operation.storedKeyPair StoredKeyPair.createdAt := by
    intro id k hk
    obtain ⟨row, hrow, -⟩ := (Operation.finds_storedKeyPair_iff hreachable.isSound).1 hk
    cases hrow
  have hkeys : device.HasFourDigitYears Operation.storedConversationKey
      StoredConversationKey.createdAt := by
    intro id k hk
    obtain ⟨row, hrow, -, hread⟩ :=
      (Operation.finds_storedConversationKey_iff hreachable.isSound).1 hk
    rw [Device.database_sample, Database.conversationKeys_scattered, List.mem_map] at hrow
    obtain ⟨k', hk', rfl⟩ := hrow
    have hrecord : ∀ k ∈ BackupPayload.scattered.conversationKeys,
        k.version ≠ 0 ∧ k.createdAt.HasFourDigitYear := by decide +kernel
    obtain ⟨hversion, hyear⟩ := hrecord k' hk'
    rw [ConversationKeyRow.toRecord_ofRecord hversion] at hread
    cases hread
    exact hyear
  obtain ⟨-, _, hlisted, hlisting⟩ := listings_are_complete_and_in_order hreachable hkeyPairs hkeys
  have hids : Operation.conversationIds.outcome device = (.ok ["d", "b", "c", "a"], device) := by
    rw [← Database.conversationIds_scattered]
    rfl
  cases hids.symm.trans hlisted
  exact ⟨hreachable, hkeyPairs, hkeys, hids, hlisting⟩

end Keyring

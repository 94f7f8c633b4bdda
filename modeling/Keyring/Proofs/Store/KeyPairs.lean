import Keyring.Proofs.PrivateKeyBlob
import Keyring.Proofs.Store.Backup

/-!
# Key pairs that stay recoverable

The row of a key pair records all that opening it takes, except for the password: salt,
initialisation vector and the cost of the derivation.  As long as no operation replaces or deletes
the row, the password of the key pair leads to both of its halves again, on every device with the
same algorithm, whatever cost and whatever least length of passwords are configured there.  A key
pair that is stored under an id a second time takes the place of the first one.
-/

namespace Keyring

namespace KeyPair

@[simp]
theorem ofPrivateBytes_bytes (k : Key) :
  ofPrivateBytes k.bytes = .ok ⟨k⟩
  := by
  rw [ofPrivateBytes, keyOfBytes, Block.ofBytes?_bytes]
  rfl

/-- A key pair is made of its own halves. -/
theorem ofParts_bytes (pair : KeyPair) :
  ofParts pair.publicKey.bytes pair.privateKey.bytes = .ok pair
  := by
  rw [ofParts, ofPrivateBytes_bytes, Except.ok_bind]
  exact if_pos rfl

/-- A key pair that is made of two halves has the public one. -/
theorem publicKey_of_ofParts {publicBytes privateBytes : Bytes} {pair : KeyPair}
    (h : ofParts publicBytes privateBytes = .ok pair) :
  pair.publicKey.bytes = publicBytes
  := by
  obtain ⟨read, -, h⟩ := Except.bind_eq_ok_iff.1 h
  split at h
  next hpublic =>
    cases h
    exact hpublic
  next => cases h

end KeyPair

namespace StoredKeyPair

variable {settings : Settings} {id password : String} {pair : KeyPair}

/-- A key pair that was sealed opens under the same password, wherever the same algorithm is
configured. -/
theorem toKeyPair_ofKeyPair {strategy : Strategy}
    (h : strategy.algorithm = settings.strategy.algorithm) (id : String) (pair : KeyPair)
    (password : String) (salt : Salt) (iv : Gcm.Iv) (now : Instant) :
  (ofKeyPair id pair strategy.params password salt iv now).toKeyPair settings id password = .ok pair
  := by
  have h' : strategy.params.algorithm = settings.strategy.algorithm := h
  have hopen := Sealed.plaintextOfParts_ofPlaintext (strategy.derive password salt) iv
    (Purpose.keyPair id).associatedData pair.privateKey.bytes
  generalize hs : Sealed.ofPlaintext (strategy.derive password salt) iv
    (Purpose.keyPair id).associatedData pair.privateKey.bytes = sealed at hopen
  have hs' : Sealed.ofPlaintext (strategy.params.derive password salt) iv
    (Purpose.keyPair id).associatedData pair.privateKey.bytes = sealed := hs
  have hne : sealed.ciphertext ++ sealed.tag.bytes ≠ [] := by
    apply List.append_ne_nil_of_right_ne_nil
    apply List.ne_nil_of_length_pos
    rw [sealed.tag.length_bytes]
    decide
  have hblob := PrivateKeyBlob.ofBase64_toBase64 (k := ⟨salt, iv, _⟩) hne
  simp only [toKeyPair, ofKeyPair, KeyPair.publicBase64, hs', h', hblob, Base64.decode_encode,
    Settings.strategyFor_params h, Except.mapError_ok, Except.ok_bind, ne_eq, not_true_eq_false,
    if_false, sealed.not_length_ciphertext_tag_lt, sealed.take_ciphertext_tag,
    sealed.drop_ciphertext_tag, hopen, KeyPair.ofParts_bytes]

/-- A key pair that a record opens to has the public key of the record. -/
theorem publicKey_of_toKeyPair {k : StoredKeyPair} (h : k.toKeyPair settings id password = .ok pair) :
  Base64.decode k.publicKey = .ok pair.publicKey.bytes
  := by
  simp only [toKeyPair, Except.throw_bind] at h
  split at h
  · cases h
  obtain ⟨blob, -, h⟩ := Except.bind_eq_ok_iff.1 h
  obtain ⟨publicKey, hpublic, h⟩ := Except.bind_eq_ok_iff.1 h
  split at h
  · cases h
  obtain ⟨strategy, -, h⟩ := Except.bind_eq_ok_iff.1 h
  obtain ⟨privateKey, -, h⟩ := Except.bind_eq_ok_iff.1 h
  rw [KeyPair.publicKey_of_ofParts (Except.mapError_eq_ok_iff.1 h)]
  exact Except.mapError_eq_ok_iff.1 hpublic

end StoredKeyPair

/-! ### Finding a key pair again -/

/-- Whether a device finds a key pair under an id with a password, and no key pair with another
public key with any password. -/
structure Device.Recovers (device : Device) (id password : String) (pair : KeyPair) : Prop where
  getKeyPair : Action.getKeyPair id password device = (.found pair, device)
  exportPublicKey :
    (Operation.exportPublicKey id).outcome device = (.ok (some pair.publicBase64), device)
  publicKey_eq : ∀ other found, (Action.getKeyPair id other device).1 = .found found →
    found.publicKey = pair.publicKey

namespace Database

variable {d : Database} {id : String} {k : StoredKeyPair}

/-- What is found in the row of a record is what the record opens to. -/
theorem openKeyPair_of_keyPair? (h : d.keyPair? id = some (.ofRecord k)) (settings : Settings)
    (password : String) :
  d.openKeyPair settings id password = some <$> k.toKeyPair settings id password
  := by
  rw [openKeyPair, h]
  dsimp only
  rw [KeyPairRow.toRecord_ofRecord, Except.ok_bind, bind_pure_comp]

end Database

/-- A key pair is recovered from the row that was written for it, wherever the same algorithm is
configured. -/
theorem Device.recovers_of_keyPair? {device : Device} {id password : String} {pair : KeyPair}
    {strategy : Strategy} {salt : Salt} {iv : Gcm.Iv} {now : Instant}
    (hrow : device.database.keyPair? id =
      some (.ofRecord (.ofKeyPair id pair strategy.params password salt iv now)))
    (halgorithm : device.settings.strategy.algorithm = strategy.algorithm) :
  device.Recovers id password pair
  := by
  constructor
  · rw [Action.outcome_getKeyPair, Database.openKeyPair_of_keyPair? hrow,
      StoredKeyPair.toKeyPair_ofKeyPair halgorithm.symm]
    rfl
  · have hexport : (Operation.exportPublicKey id).outcome device = _ :=
      Action.outcome_exportPublicKey id device
    rw [hexport, hrow]
    rfl
  · intro other found hfound
    rw [Action.outcome_getKeyPair] at hfound
    have hopen := congrArg Lookup.toResult hfound
    rw [Lookup.toResult_ofResult, Database.openKeyPair_of_keyPair? hrow] at hopen
    obtain ⟨pair', hpair', hsome⟩ := Except.map_eq_ok_iff.1 hopen
    obtain rfl := Option.some.inj hsome
    -- Another password may open the row, but the public key does not depend on it.
    have hpublic := StoredKeyPair.publicKey_of_toKeyPair hpair'
    have hbytes : Base64.decode pair.publicBase64 = .ok pair.publicKey.bytes :=
      Base64.decode_encode _
    exact Block.ext (Except.ok.inj (hpublic.symm.trans hbytes))

/-! ### Leaving a key pair alone -/

namespace Operation

variable {α : Type}

/-- Whether an operation stores, deletes, clears or restores nothing over the key pair of an id. -/
def SparesKeyPair (id : String) (op : Operation α) (device : Device) : Prop :=
  match op with
  | storeKeyPair other _ _ => other ≠ id
  | deleteKeyPair other => id ≠ other
  | restoreBackup backup password => ∀ payload,
      backup.toPayload device.settings password = .ok payload → ∀ k ∈ payload.keyPairs, k.id ≠ id
  | clearAll => False
  | _ => True

/-- Whether an operation spares the key pair of an id, or fails. -/
def KeepsKeyPair (id : String) (α : Type) (op : Operation α) (device : Device) : Prop :=
  op.SparesKeyPair id device ∨ ∃ e, (op.outcome device).1 = .error e

end Operation

namespace Database

variable {d : Database} {id : String}

theorem keyPair?_putKeyPair (d : Database) (row : KeyPairRow) (id : String) :
  (d.putKeyPair row).keyPair? id = if row.id = id then some row else d.keyPair? id
  := Table.find?_put id

/-- A payload without a key pair leaves the one that is stored. -/
theorem keyPair?_merge_of_forall_ne {p : BackupPayload} (h : ∀ k ∈ p.keyPairs, k.id ≠ id) :
  (d.merge p).keyPair? id = d.keyPair? id
  := by
  rw [keyPair?_merge, BackupPayload.keyPair?_eq_none_iff.2 h]
  rfl

end Database

/-- An operation that spares the key pair of an id leaves its row. -/
theorem Operation.Effect.keyPair?_eq {α : Type} {op : Operation α} {device : Device} {d : Database}
    {id : String} (h : Effect op device d) (hop : op.SparesKeyPair id device) :
  d.keyPair? id = device.database.keyPair? id
  := by
  cases h with
  | nothing => rfl
  | storeKeyPair other =>
    rw [Database.keyPair?_putKeyPair]
    exact if_neg hop
  | deleteKeyPair other => exact (Table.find?_erase other id).trans (if_neg hop)
  | storeConversationKey => rfl
  | deleteConversationKey => rfl
  | rotateConversationKey => rfl
  | unlock password _ strategy salt random =>
    obtain ⟨metadata, he⟩ := device.database.addMaster_eq salt strategy.params
      (MasterRecord.sealCheck (strategy.derive password salt) (random.next 12))
    rw [he]
    rfl
  | restoreBackup backup password _ payload hpayload =>
    exact Database.keyPair?_merge_of_forall_ne (hop payload hpayload)
  | clearAll => cases hop

/-- The row of a key pair stays in a run that does not store, delete, clear or restore over it. -/
theorem Database.Run.keyPair?_eq {d d' : Database} {id : String}
    (h : d.Run (Operation.KeepsKeyPair id) d') :
  d'.keyPair? id = d.keyPair? id
  := by
  induction h with
  | start => rfl
  | step op device _ hop ih =>
    obtain hspares | ⟨e, he⟩ := hop
    · exact ((op.effect device).keyPair?_eq hspares).trans ih
    · have hsame : (op.outcome device).2.database = device.database :=
        op.isAtomic device e _ (Prod.ext he rfl)
      rw [hsame]
      exact ih

/-- A key pair with an id is stored if the password is long enough.  After any operations that do not
store, delete, clear or restore over its id, on devices with whatever settings, a device with the
same algorithm recovers it with that password; and if another key pair is then stored under the id,
the device recovers that one with the password of its own, after any such operations again. -/
theorem stored_key_pair_stays_recoverable {device : Device} {id password : String} (pair : KeyPair)
    (hid : id ≠ "")
    (hpassword : Password.validate password device.settings.passwordFloor = .ok ()) :
  ∃ after, (Operation.storeKeyPair id pair password).outcome device = (.ok (), after) ∧
    ∀ later : Device, after.database.Run (Operation.KeepsKeyPair id) later.database →
      later.settings.strategy.algorithm = device.settings.strategy.algorithm →
        later.Recovers id password pair ∧
        ∀ (second : KeyPair) (secondPassword : String) (replaced : Device),
          (Operation.storeKeyPair id second secondPassword).outcome later = (.ok (), replaced) →
            ∀ latest : Device, replaced.database.Run (Operation.KeepsKeyPair id) latest.database →
              latest.settings.strategy.algorithm = device.settings.strategy.algorithm →
                latest.Recovers id secondPassword second
  := by
  refine ⟨_, Action.storeKeyPair_eq_ok_iff.2 ⟨hid, hpassword, rfl⟩, ?_⟩
  intro later hlater halgorithm
  constructor
  · have hrow := hlater.keyPair?_eq.trans ((Database.keyPair?_putKeyPair ..).trans (if_pos rfl))
    exact Device.recovers_of_keyPair? hrow halgorithm
  · intro second secondPassword replaced hstore latest hlatest halgorithm'
    obtain ⟨-, -, rfl⟩ := Action.storeKeyPair_eq_ok_iff.1 hstore
    have hrow := hlatest.keyPair?_eq.trans ((Database.keyPair?_putKeyPair ..).trans (if_pos rfl))
    exact Device.recovers_of_keyPair? hrow (halgorithm'.trans halgorithm.symm)

/-- A device with another cost of the same algorithm, and with a greater least length of
passwords. -/
def Device.retuned (d : Database) : Device :=
  ⟨.sample, ⟨⟨.argon2id 16 1 1, by decide⟩, 12, 0⟩, d⟩

/-- The sample device stores a key pair under an id.  On a device with another cost, a password that
is too short by then is refused for a second key pair under that id, another id is deleted, and the
first key pair is recovered. -/
theorem stored_key_pair_stays_recoverable_sample :
  ∃ (after later : Device) (found : Bool),
    (Operation.storeKeyPair "me" ⟨.zero 32⟩ "password").outcome (.sample .empty) = (.ok (), after) ∧
    (Operation.storeKeyPair "me" ⟨.zero 32⟩ "password").outcome (.retuned after.database) =
      (.error (.passwordTooShort 12), .retuned after.database) ∧
    (Operation.deleteKeyPair "you").outcome (.retuned after.database) = (.ok found, later) ∧
    later.Recovers "me" "password" ⟨.zero 32⟩
  := by
  have hid : "me" ≠ "" := by decide
  have hpassword : Password.validate "password" (Device.sample .empty).settings.passwordFloor =
    .ok () := rfl
  obtain ⟨after, hstore, hrecovers⟩ := stored_key_pair_stays_recoverable ⟨.zero 32⟩ hid hpassword
  have hrefused : (Operation.storeKeyPair "me" ⟨.zero 32⟩ "password").outcome
      (.retuned after.database) = (.error (.passwordTooShort 12), .retuned after.database) := rfl
  have hfirst : after.database.Run (Operation.KeepsKeyPair "me") after.database :=
    .step (.storeKeyPair "me" ⟨.zero 32⟩ "password") (.retuned after.database) .start
      (.inr ⟨_, congrArg Prod.fst hrefused⟩)
  have hsecond := hfirst.step (.deleteKeyPair "you") (.retuned after.database)
    (.inl (by decide : "me" ≠ "you"))
  exact ⟨after, _, _, hstore, hrefused, rfl, (hrecovers _ hsecond rfl).1⟩

end Keyring

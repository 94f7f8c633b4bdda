import Keyring.Proofs.Store.AutoLock
import Keyring.Proofs.Store.Journal
import Keyring.Proofs.Store.KeyPairs
import Keyring.Proofs.Store.PlainKeys

/-!
# No initialisation vector twice

A run is a sequence of calls of whatever kind that share one random source.  Each call finds the source
as the one before has left it, and everything else as it may be: a store with any settings and any
contents, and a session in any state.  The journal of a run is made of the journals of its calls.
-/

namespace Keyring

/-! ### Calls -/

/-- The script of an operation of the store. -/
def Operation.script {α : Type} : Operation α → Script α
  | storeKeyPair id pair password => Script.storeKeyPair id pair password
  | storedKeyPair id => .act (Action.storedKeyPair id) (Action.storedKeyPair_keeps _ id)
  | loadKeyPair id password =>
    .act (Action.loadKeyPair id password) (Action.loadKeyPair_keeps _ id password)
  | deleteKeyPair id => .act (Action.deleteKeyPair id) fun _ => rfl
  | keyPairIds => .act Action.keyPairIds (Action.keyPairIds_keeps _)
  | exportPublicKey id => .act (Action.exportPublicKey id) (Action.exportPublicKey_keeps _ id)
  | storeConversationKey id key version => Script.storeConversationKey id key version
  | storedConversationKey id =>
    .act (Action.storedConversationKey id) (Action.storedConversationKey_keeps _ id)
  | conversationKeyInfo id =>
    .act (Action.conversationKeyInfo id) (Action.conversationKeyInfo_keeps _ id)
  | loadConversationKey id =>
    .act (Action.loadConversationKey id)
      (Action.keeps_ledger (Action.loadConversationKey_keeps_random id))
  | deleteConversationKey id => .act (Action.deleteConversationKey id) fun _ => rfl
  | conversationIds => .act Action.conversationIds (Action.conversationIds_keeps _)
  | rotateConversationKey id secret reason => Script.rotateConversationKey id secret reason
  | rotationHistory id => .act (Action.rotationHistory id) (Action.rotationHistory_keeps _ id)
  | sealMessage id plaintext => Script.sealMessage id plaintext
  | openMessage id sealed =>
    .act (Action.openMessage id sealed) (Action.openMessage_keeps_ledger id sealed)
  | unlock password => Script.unlock password
  | createBackup password => Script.createBackup password
  | restoreBackup backup password =>
    .act (Action.restoreBackup backup password) (Action.restoreBackup_keeps_ledger backup password)
  | clearAll => .act Action.clearAll fun _ => rfl

theorem Operation.action_script {α : Type} (op : Operation α) :
  op.script.action = op.action
  := by
  cases op with
  | storeKeyPair id pair password => exact Script.action_storeKeyPair id pair password
  | storeConversationKey id key version => exact Script.action_storeConversationKey id key version
  | rotateConversationKey id secret reason =>
    exact Script.action_rotateConversationKey id secret reason
  | sealMessage id plaintext => exact Script.action_sealMessage id plaintext
  | unlock password => exact Script.action_unlock password
  | createBackup password => exact Script.action_createBackup password
  | _ => rfl

/-- A call of the library that reads or changes a state, with a result in the given type. -/
inductive Call : Type → Type 1 where
  | store {α : Type} (op : Operation α) : Call α
  /-- A first unlock that goes by metadata which may have been written in the meantime. -/
  | unlockFrom (r : MasterRecord) (password : String) : Call Unit
  | session (c : SessionCall) : Call Unit
  | setMasterKey (b : Bytes) : Call Unit
  | setAutoLock (seconds : UInt64) : Call Unit
  | deriveMasterKey (password : String) (salt? : Option Salt) : Call Salt
  | encrypt (key : Key) (plaintext associated : Bytes) : Call Sealed
  | wrapKey (wrapping key : Key) (associated : Bytes) : Call Sealed
  | generateSalt : Call Salt
  | prepare (g : KeyGenerator) : Call (Except CryptoError KeyGenerator)
  | generate (g : KeyGenerator) : Call (Except CryptoError KeyPair)

namespace Call

variable {α : Type}

/-- How a call runs. -/
def action {α : Type} : Call α → Action α
  | store op => op.action
  | unlockFrom r password => Action.unlockFrom r password
  | session c => Action.onSession c.action
  | setMasterKey b => Action.onSession (SessionAction.setMasterKey b)
  | setAutoLock seconds => Action.onSession (SessionAction.setAutoLock seconds)
  | deriveMasterKey password salt? => Action.onSession (SessionAction.deriveMasterKey password salt?)
  | encrypt key plaintext associated => Action.draw (Sealed.encrypt key plaintext associated)
  | wrapKey wrapping key associated => Action.draw (Sealed.wrapKey wrapping key associated)
  | generateSalt => Action.draw (Draw.block 16)
  | prepare g => Action.draw g.prepare
  | generate g => Action.draw g.generate

/-- The result of a call on a device, and the device after it. -/
def outcome (c : Call α) (device : Device) : Except StoreError α × Device :=
  c.action.outcome device

theorem session_keeps (c : SessionCall) :
  (Action.onSession c.action).Keeps Device.ledger
  := by
  apply Action.onSession_keeps_ledger
  intro host
  rw [SessionCall.outcome_action]

theorem setMasterKey_keeps (b : Bytes) :
  (Action.onSession (SessionAction.setMasterKey b)).Keeps Device.ledger
  := by
  apply Action.onSession_keeps_ledger
  intro host
  rw [SessionAction.setMasterKey]
  rcases Block.ofBytes? 32 b with _ | key
  · rfl
  · rfl

/-- The check of the random source takes at most a probe of 32 bytes. -/
theorem prepare_keeps (g : KeyGenerator) :
  (Action.draw g.prepare).Keeps Device.ledger
  := by
  have hprobe (r : RandomSource) : (KeyGenerator.prepare ⟨false⟩ r).2 = r.advance 32 := by
    obtain ⟨block, taken, _ | reason⟩ := r
    · change ((if (block 32 (taken 32)).isZero = true then _ else _ : Draw _) _).2 = _
      split
      · rfl
      · rfl
    · rfl
  intro device
  obtain ⟨_ | _⟩ := g
  · rw [Action.outcome_draw, hprobe]
    rfl
  · rfl

/-- So does the generation of a key pair. -/
theorem generate_keeps (g : KeyGenerator) :
  (Action.draw g.generate).Keeps Device.ledger
  := by
  intro device
  obtain ⟨_ | _⟩ := g
  · rfl
  · rfl

/-- The script of a call. -/
def script {α : Type} : Call α → Script α
  | store op => op.script
  | unlockFrom r password => Script.unlockFrom r password
  | session c => .act (Action.onSession c.action) (session_keeps c)
  | setMasterKey b => .act (Action.onSession (SessionAction.setMasterKey b)) (setMasterKey_keeps b)
  | setAutoLock seconds =>
    .act (Action.onSession (SessionAction.setAutoLock seconds)) fun _ => rfl
  | deriveMasterKey password salt? => Script.deriveMasterKey password salt?
  | encrypt key plaintext associated => .encrypt key plaintext associated
  | wrapKey wrapping key associated => .encrypt wrapping key.bytes associated
  | generateSalt => .salt
  | prepare g => .act (Action.draw g.prepare) (prepare_keeps g)
  | generate g => .act (Action.draw g.generate) (generate_keeps g)

/-- The script of a call does what the call does. -/
theorem action_script (c : Call α) :
  c.script.action = c.action
  := by
  cases c with
  | store op => exact op.action_script
  | unlockFrom r password => exact Script.action_unlockFrom r password
  | deriveMasterKey password salt? => exact Script.action_deriveMasterKey password salt?
  | _ => rfl

/-- What a call encrypts on a device, and the salts that it draws there. -/
def journal (c : Call α) (device : Device) : List Event :=
  c.script.journal device

/-- The journal of a call accounts for what the call takes, also when it fails. -/
theorem accounts (c : Call α) (device : Device) :
  Accounts device.random (c.outcome device).2.random (c.journal device)
  := by
  have h := c.script.accounts device
  rw [Script.outcome, c.action_script] at h
  exact h

end Call

/-! ### Runs -/

/-- The states of a random source that calls share, with the journal of the calls. -/
inductive JournalRun (start : RandomSource) : RandomSource → List Event → Prop where
  | start : JournalRun start start []
  | call {α : Type} {journal : List Event} (c : Call α) (device : Device)
    (h : JournalRun start device.random journal) :
    JournalRun start (c.outcome device).2.random (journal ++ c.journal device)

/-- The journal of a run accounts for everything that was taken. -/
theorem JournalRun.accounts {start after : RandomSource} {journal : List Event}
    (h : JournalRun start after journal) :
  Accounts start after journal
  := by
  induction h with
  | start => exact .nil rfl rfl rfl
  | call c device _ ih => exact ih.append (c.accounts device)

/-! ### What calls leave -/

/-- Whether a row carries a wrapped key. -/
def ConversationKeyRow.Carries (row : ConversationKeyRow) (s : Sealed) : Prop :=
  row.encryptedKey = Base64.encode s.ciphertext ∧ row.iv = Base64.encode s.iv.bytes ∧
    row.tag = Base64.encode s.tag.bytes

/-- A row carries no more than one wrapped key. -/
theorem ConversationKeyRow.Carries.eq {row : ConversationKeyRow} {s t : Sealed}
    (h : row.Carries s) (h' : row.Carries t) :
  s = t
  := by
  obtain ⟨hciphertext, hiv, htag⟩ := h
  rw [h'.1, Base64.encode_inj] at hciphertext
  rw [h'.2.1, Base64.encode_inj] at hiv
  rw [h'.2.2, Base64.encode_inj] at htag
  exact Sealed.ext_of_append hiv.symm (by rw [hciphertext, htag])

/-- The row of a wrapped key carries it, whatever time stands in the row. -/
theorem ConversationKeyRow.carries_ofSealed (id : String) (s : Sealed) (version : UInt32)
    (createdAt : Instant) (rotatedAt : Option Instant) (time? : Option String) :
  Carries { ofRecord (.ofSealed id s version createdAt rotatedAt) with rotatedAt := time? } s
  := ⟨rfl, rfl, rfl⟩

/-- Whether the result of a call, or what it has written, holds a sealed value. -/
inductive Call.Leaves (before after : Device) (s : Sealed) : {α : Type} → Call α → α → Prop where
  | encrypt (key : Key) (plaintext associated : Bytes) :
    Leaves before after s (.encrypt key plaintext associated) s
  | wrapKey (wrapping key : Key) (associated : Bytes) :
    Leaves before after s (.wrapKey wrapping key associated) s
  | message (id : String) (plaintext : Bytes) :
    Leaves before after s (.store (.sealMessage id plaintext)) s
  | backup (password : String) (b : EncryptedBackup) (hiv : b.iv = Base64.encode s.iv.bytes)
    (hdata : b.encryptedData = Base64.encode (s.ciphertext ++ s.tag.bytes)) :
    Leaves before after s (.store (.createBackup password)) b
  | keyPair (id : String) (pair : KeyPair) (password : String) (row : KeyPairRow) (salt : Salt)
    (hrow : after.database.keyPair? id = some row)
    (hblob : row.encryptedPrivateKey =
      PrivateKeyBlob.toBase64 ⟨salt, s.iv, s.ciphertext ++ s.tag.bytes⟩) :
    Leaves before after s (.store (.storeKeyPair id pair password)) ()
  | conversationKey (id : String) (key : ConversationKey) (version : UInt32)
    (row : ConversationKeyRow) (hrow : after.database.conversationKey? id = some row)
    (hcarries : row.Carries s) :
    Leaves before after s (.store (.storeConversationKey id key version)) ()
  | rotatedKey (id : String) (secret : Bytes) (reason : String) (record : RotationRecord)
    (row : ConversationKeyRow) (hrow : after.database.conversationKey? id = some row)
    (hcarries : row.Carries s) :
    Leaves before after s (.store (.rotateConversationKey id secret reason)) record
  | masterCheck (password : String)
    (hnone : before.database.metadata? MasterRecord.checkKey = none)
    (hcheck : after.database.metadata? MasterRecord.checkKey = some (Base64.encode s.toBytes)) :
    Leaves before after s (.store (.unlock password)) ()
  | masterCheckFrom (r : MasterRecord) (password : String)
    (hnone : before.database.metadata? MasterRecord.checkKey = none)
    (hcheck : after.database.metadata? MasterRecord.checkKey = some (Base64.encode s.toBytes)) :
    Leaves before after s (.unlockFrom r password) ()

/-- Whether the result of a call, or what it has written, names a salt of a password of its own. -/
inductive Call.LeavesSalt (after : Device) (salt : Salt) : {α : Type} → Call α → α → Prop where
  | backup (password : String) (b : EncryptedBackup) (hsalt : b.salt = Base64.encode salt.bytes) :
    LeavesSalt after salt (.store (.createBackup password)) b
  | keyPair (id : String) (pair : KeyPair) (password : String) (row : KeyPairRow) (iv : Gcm.Iv)
    (ciphertext : Bytes) (hrow : after.database.keyPair? id = some row)
    (hblob : row.encryptedPrivateKey = PrivateKeyBlob.toBase64 ⟨salt, iv, ciphertext⟩) :
    LeavesSalt after salt (.store (.storeKeyPair id pair password)) ()

namespace Call

variable {α : Type} {c : Call α} {before after : Device} {a : α} {s : Sealed}

/-- The sealed value that a first unlock writes is the outcome of its encryption. -/
theorem exists_encryption_of_unlockFrom {r : MasterRecord} {password : String}
    (hnone : before.database.metadata? MasterRecord.checkKey = none)
    (h : (Action.unlockFrom r password).outcome before = (.ok (), after))
    (hcheck : after.database.metadata? MasterRecord.checkKey = some (Base64.encode s.toBytes)) :
  ∃ e, .encryption e ∈ (Script.unlockFrom r password).journal before ∧ e.sealed = s
  := by
  obtain ⟨key?, between, hfirst, hrest⟩ := ExceptT.outcome_bind_eq_ok_iff.1 h
  obtain ⟨e, hfails⟩ | ⟨strategy, salt, random, hs, hc⟩ :=
    Action.initialiseMaster_fails_or r password before
  · cases hfails.symm.trans hfirst
  have hjournal := Script.journal_initialiseMaster hs hc password
  refine ⟨_, Script.mem_journal_bind (hjournal ▸ List.mem_append_right _ (List.mem_singleton_self _)) _,
    ?_⟩
  have hinitialise : (Action.initialiseMaster r password).outcome before = _ :=
    Action.outcome_initialiseMaster hs hc
  dsimp only at hinitialise
  split at hinitialise
  next hwritten =>
    cases hinitialise.symm.trans hfirst
    cases hrest
    have htext := Option.some.inj (hwritten.symm.trans hcheck)
    exact Sealed.toBytes_inj.1 (Base64.encode_inj.1 htext)
  next =>
    -- Without a sealed value there is nothing to open.
    cases hinitialise.symm.trans hfirst
    obtain ⟨key, hopen, -⟩ := Action.reopen_eq_ok hrest
    rw [Device.database_withRandom, MasterRecord.openCheck_of_none hnone] at hopen
    cases hopen

/-- A sealed value that a call leaves is the outcome of one of its encryptions. -/
theorem Leaves.exists_encryption (h : c.outcome before = (.ok a, after))
    (hleaves : Leaves before after s c a) :
  ∃ e, .encryption e ∈ c.journal before ∧ e.sealed = s
  := by
  cases hleaves with
  | encrypt key plaintext associated =>
    cases h
    exact ⟨_, List.mem_singleton_self _, rfl⟩
  | wrapKey wrapping key associated =>
    cases h
    exact ⟨_, List.mem_singleton_self _, rfl⟩
  | message id plaintext =>
    obtain ⟨key, between, hkey, h⟩ := ExceptT.outcome_bind_eq_ok_iff.1 h
    cases h
    have hjournal : (Script.sealMessage id plaintext).journal before = _ :=
      Script.journal_sealMessage hkey
    exact ⟨_, hjournal ▸ List.mem_singleton_self _, rfl⟩
  | backup password b hiv hdata =>
    obtain ⟨payload, hp, hpayload, rfl, -⟩ := Action.createBackup_eq_ok_iff.1 h
    have hjournal := Script.journal_createBackup hp hpayload
    refine ⟨_, hjournal ▸ List.mem_cons_of_mem _ (List.mem_singleton_self _), ?_⟩
    exact Sealed.ext_of_append (Base64.encode_inj.1 hiv) (Base64.encode_inj.1 hdata)
  | keyPair id pair password row salt hrow hblob =>
    obtain ⟨hid, hp, rfl⟩ := Action.storeKeyPair_eq_ok_iff.1 h
    have hjournal := Script.journal_storeKeyPair pair hid hp
    refine ⟨_, hjournal ▸ List.mem_cons_of_mem _ (List.mem_singleton_self _), ?_⟩
    dsimp only at hrow
    rw [Database.keyPair?_putKeyPair, if_pos] at hrow
    · obtain rfl := Option.some.inj hrow
      obtain ⟨-, hiv, hciphertext⟩ := PrivateKeyBlob.toBase64_inj hblob
      exact Sealed.ext_of_append (congrArg Block.bytes hiv) hciphertext
    · rfl
  | conversationKey id key version row hrow hcarries =>
    obtain ⟨master, current?, hk, hid, hversion, -, -, rfl⟩ :=
      Action.storeConversationKey_eq_ok_iff.1 h
    have hjournal := Script.journal_storeConversationKey hk hid key hversion
    refine ⟨_, hjournal ▸ List.mem_singleton_self _, ?_⟩
    dsimp only at hrow
    rw [Database.conversationKey?_updateConversationKey] at hrow
    · obtain rfl := Option.some.inj hrow
      exact ConversationKeyRow.Carries.eq (ConversationKeyRow.carries_ofSealed ..) hcarries
    · rfl
  | rotatedKey id secret reason record row hrow hcarries =>
    obtain ⟨master, current?, new, key, hk, hlive, hnew, hkey, -, -, hafter⟩ :=
      Action.rotateConversationKey_eq_ok h
    have hjournal := Script.journal_rotateConversationKey hk hlive hnew hkey reason
    refine ⟨_, hjournal ▸ List.mem_singleton_self _, ?_⟩
    rw [hafter] at hrow
    have hupdated : (before.database.updateConversationKey
        (.ofRecord (Action.rotatedRecord before master id key new))).conversationKey? id = _ :=
      Database.conversationKey?_updateConversationKey rfl
    obtain rfl := Option.some.inj (hupdated.symm.trans hrow)
    exact ConversationKeyRow.Carries.eq (ConversationKeyRow.carries_ofSealed ..) hcarries
  | masterCheck password hnone hcheck =>
    rcases hp : Password.validate password before.settings.passwordFloor with e | ⟨⟩
    · cases (Action.outcome_unlock_of_password hp).symm.trans h
    · have hfrom := (Action.outcome_unlock_of_none hp hnone).symm.trans h
      obtain ⟨e, he, hsealed⟩ := exists_encryption_of_unlockFrom hnone hfrom hcheck
      refine ⟨e, ?_, hsealed⟩
      change _ ∈ (Script.unlock password).journal before
      rw [Script.journal_unlock_of_none hp hnone]
      exact he
  | masterCheckFrom r password hnone hcheck =>
    exact exists_encryption_of_unlockFrom hnone h hcheck

/-- A salt that a call leaves is one that the call has drawn. -/
theorem LeavesSalt.mem_journal {salt : Salt} (h : c.outcome before = (.ok a, after))
    (hleaves : LeavesSalt after salt c a) :
  .salt salt ∈ c.journal before
  := by
  cases hleaves with
  | backup password b hsalt =>
    obtain ⟨payload, hp, hpayload, rfl, -⟩ := Action.createBackup_eq_ok_iff.1 h
    have hjournal := Script.journal_createBackup hp hpayload
    have hdrawn : before.random.next 16 = salt := Block.ext (Base64.encode_inj.1 hsalt)
    change _ ∈ (Script.createBackup password).journal before
    rw [hjournal, ← hdrawn]
    apply List.mem_cons_self
  | keyPair id pair password row iv ciphertext hrow hblob =>
    obtain ⟨hid, hp, rfl⟩ := Action.storeKeyPair_eq_ok_iff.1 h
    have hjournal := Script.journal_storeKeyPair pair hid hp
    dsimp only at hrow
    rw [Database.keyPair?_putKeyPair, if_pos] at hrow
    · obtain rfl := Option.some.inj hrow
      change _ ∈ (Script.storeKeyPair id pair password).journal before
      rw [hjournal, ← (PrivateKeyBlob.toBase64_inj hblob).1]
      apply List.mem_cons_self
    · rfl

end Call

/-! ### All runs -/

/-- In every run of calls that share a random source, each encryption takes its initialisation vector
from a block of 12 bytes of its own, whether its call succeeds or fails, and each salt is a block of 16
bytes of its own.  So if the source repeats no block, no initialisation vector and no salt occurs twice.
The journal misses nothing: a call does what its script does, and every sealed value or salt that it
leaves is in its journal. -/
theorem every_encryption_draws_its_own_iv {start after : RandomSource} {journal : List Event}
    (h : JournalRun start after journal) :
  start.Draws after 12 (journal.filterMap Event.iv?) ∧
  start.Draws after 16 (journal.filterMap Event.salt?) ∧
  (start.NeverRepeats after 12 → (journal.filterMap Event.iv?).Nodup) ∧
  (start.NeverRepeats after 16 → (journal.filterMap Event.salt?).Nodup) ∧
  (∀ e, .encryption e ∈ journal →
    e.sealed = .ofPlaintext e.key e.sealed.iv e.associated e.plaintext) ∧
  ∀ (α : Type) (c : Call α), c.script.action = c.action ∧
    ∀ (before between : Device) (a : α), c.outcome before = (.ok a, between) →
      (∀ s, c.Leaves before between s a → ∃ e, .encryption e ∈ c.journal before ∧ e.sealed = s) ∧
      ∀ salt, c.LeavesSalt between salt a → .salt salt ∈ c.journal before
  := by
  have haccounts := h.accounts
  refine ⟨haccounts.ivs, haccounts.salts, haccounts.ivs.nodup, haccounts.salts.nodup,
    haccounts.sealed, ?_⟩
  intro α c
  refine ⟨c.action_script, ?_⟩
  intro before between a hc
  constructor
  · intro s hs
    exact hs.exists_encryption hc
  · intro salt hsalt
    exact hsalt.mem_journal hc

/-- A random source whose blocks begin with their numbers. -/
def RandomSource.counting : RandomSource :=
  .ofBlocks fun n k => .padded n [UInt8.ofNat k]

/-- The sample device with that source. -/
def Device.counting (d : Database) (random : RandomSource) : Device :=
  (sample d).withRandom random

/-- A rotation that the log refuses has encrypted a key all the same. -/
theorem Call.rotateConversationKey_counting :
  let rotate := store (.rotateConversationKey "c" (List.replicate 32 0) "manual")
  (rotate.outcome (.counting .rotated .counting)).1 = .error .database ∧
    ∃ e, rotate.journal (.counting .rotated .counting) = [.encryption e]
  := by
  have hkey : (Device.counting .rotated .counting).key? = some (.zero 32) := rfl
  have hlive : (Device.counting .rotated .counting).database.liveVersion? "c" = .ok none := rfl
  have hnext : Action.nextVersion 0 = .ok 1 := rfl
  have hlog : Database.rotated.hasRotation "c" (.integer 1) = true := by decide
  constructor
  · exact congrArg Prod.fst (Action.outcome_rotateConversationKey_of_hasRotation "manual" hkey hlive
      hnext ConversationKey.derive_sample hlog)
  · exact ⟨_, Script.journal_rotateConversationKey hkey hlive hnext ConversationKey.derive_sample _⟩

/-- A rotation that the log refuses, and an encryption after it: the rotation has used up an
initialisation vector, and the encryption takes another one. -/
theorem every_encryption_draws_its_own_iv_counting :
  ∃ after journal, JournalRun .counting after journal ∧
    ((Call.store (.rotateConversationKey "c" (List.replicate 32 0) "manual")).outcome
      (.counting .rotated .counting)).1 = .error .database ∧
    (journal.filterMap Event.iv?).length = 2 ∧ (journal.filterMap Event.iv?).Nodup
  := by
  let rotate := Call.store (.rotateConversationKey "c" (List.replicate 32 0) "manual")
  let between := (rotate.outcome (.counting .rotated .counting)).2.random
  have hfirst : JournalRun .counting between _ :=
    .call rotate (.counting .rotated .counting) .start
  have hrun := JournalRun.call (.encrypt (.zero 32) [] []) (.counting .rotated between) hfirst
  obtain ⟨hrefused, e, he⟩ := Call.rotateConversationKey_counting
  have hlength : (([] ++ rotate.journal (.counting .rotated .counting) ++
      (Call.encrypt (.zero 32) [] []).journal (.counting .rotated between)).filterMap
        Event.iv?).length = 2 := by
    rw [he]
    rfl
  obtain ⟨hdraws, -, hnodup, -⟩ := every_encryption_draws_its_own_iv hrun
  refine ⟨_, _, hrun, hrefused, hlength, ?_⟩
  apply hnodup
  intro i j _ hlt hj
  rw [hdraws.1, hlength] at hj
  have htaken : RandomSource.counting.taken 12 = 0 := rfl
  obtain rfl : i = 0 := by omega
  obtain rfl : j = 1 := by omega
  decide

end Keyring

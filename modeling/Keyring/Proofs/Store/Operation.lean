import Keyring.Proofs.Store.Conversation
import Keyring.Proofs.Store.Identity
import Keyring.Proofs.Store.MasterPassword
import Keyring.Proofs.Store.Recovery

/-!
# Operations of the store and what they do

`Operation` lists all operations of a store, each with its arguments and the type of its result.
`Effect` says what an operation can make of the database of a device, which is the only thing
that a later operation on any other device finds.  A database is reachable if operations have
made it from the empty one, each on a device of its own: with settings, a session, a random
source and clocks as it happens to have them.
-/

namespace Keyring

/-- An operation of the store with a result in the given type. -/
inductive Operation : Type → Type where
  | storeKeyPair (id : String) (pair : KeyPair) (password : String) : Operation Unit
  | storedKeyPair (id : String) : Operation (Option StoredKeyPair)
  | loadKeyPair (id password : String) : Operation (Option KeyPair)
  | deleteKeyPair (id : String) : Operation Bool
  | keyPairIds : Operation (List String)
  | exportPublicKey (id : String) : Operation (Option String)
  | storeConversationKey (id : String) (key : ConversationKey) (version : UInt32) : Operation Unit
  | storedConversationKey (id : String) : Operation (Option StoredConversationKey)
  | conversationKeyInfo (id : String) : Operation (Option ConversationKeyInfo)
  | loadConversationKey (id : String) : Operation (Option ConversationKey)
  | deleteConversationKey (id : String) : Operation Bool
  | conversationIds : Operation (List String)
  | rotateConversationKey (id : String) (secret : Bytes) (reason : String) :
    Operation RotationRecord
  | rotationHistory (id : String) : Operation (List RotationRecord)
  | sealMessage (id : String) (plaintext : Bytes) : Operation Sealed
  | openMessage (id : String) (sealed : Sealed) : Operation Bytes
  | unlock (password : String) : Operation Unit
  | createBackup (password : String) : Operation EncryptedBackup
  | restoreBackup (backup : EncryptedBackup) (password : String) : Operation RestoreSummary
  | clearAll : Operation Unit

namespace Operation

open ExceptT

variable {α : Type}

/-- How an operation runs. -/
def action : Operation α → Action α
  | storeKeyPair id pair password => Action.storeKeyPair id pair password
  | storedKeyPair id => Action.storedKeyPair id
  | loadKeyPair id password => Action.loadKeyPair id password
  | deleteKeyPair id => Action.deleteKeyPair id
  | keyPairIds => Action.keyPairIds
  | exportPublicKey id => Action.exportPublicKey id
  | storeConversationKey id key version => Action.storeConversationKey id key version
  | storedConversationKey id => Action.storedConversationKey id
  | conversationKeyInfo id => Action.conversationKeyInfo id
  | loadConversationKey id => Action.loadConversationKey id
  | deleteConversationKey id => Action.deleteConversationKey id
  | conversationIds => Action.conversationIds
  | rotateConversationKey id secret reason => Action.rotateConversationKey id secret reason
  | rotationHistory id => Action.rotationHistory id
  | sealMessage id plaintext => Action.sealMessage id plaintext
  | openMessage id sealed => Action.openMessage id sealed
  | unlock password => Action.unlock password
  | createBackup password => Action.createBackup password
  | restoreBackup backup password => Action.restoreBackup backup password
  | clearAll => Action.clearAll

/-- The result of an operation on a device, and the device after it. -/
def outcome (op : Operation α) (device : Device) : Except StoreError α × Device :=
  op.action.outcome device

/-- An operation that fails leaves the database as it was. -/
theorem isAtomic (op : Operation α) :
  op.action.IsAtomic Device.database
  := by
  cases op with
  | storeKeyPair id pair password => apply Action.storeKeyPair_isAtomic
  | storedKeyPair id => apply (Action.storedKeyPair_keeps _ id).isAtomic
  | loadKeyPair id password => apply (Action.loadKeyPair_keeps _ id password).isAtomic
  | deleteKeyPair id => exact isAtomic_of_isOk fun _ => rfl
  | keyPairIds => apply (Action.keyPairIds_keeps _).isAtomic
  | exportPublicKey id => apply (Action.exportPublicKey_keeps _ id).isAtomic
  | storeConversationKey id key version => apply Action.storeConversationKey_isAtomic
  | storedConversationKey id => apply (Action.storedConversationKey_keeps _ id).isAtomic
  | conversationKeyInfo id => apply (Action.conversationKeyInfo_keeps _ id).isAtomic
  | loadConversationKey id => apply (Action.loadConversationKey_keeps_database id).isAtomic
  | deleteConversationKey id => exact isAtomic_of_isOk fun _ => rfl
  | conversationIds => apply (Action.conversationIds_keeps _).isAtomic
  | rotateConversationKey id secret reason => apply Action.rotateConversationKey_isAtomic
  | rotationHistory id => apply (Action.rotationHistory_keeps _ id).isAtomic
  | sealMessage id plaintext => apply (Action.sealMessage_keeps_database id plaintext).isAtomic
  | openMessage id sealed => apply (Action.openMessage_keeps_database id sealed).isAtomic
  | unlock password => apply Action.unlock_isAtomic _ fun _ _ => rfl
  | createBackup password => apply (Action.createBackup_keeps_database password).isAtomic
  | restoreBackup backup password => apply Action.restoreBackup_isAtomic
  | clearAll => exact isAtomic_of_isOk fun _ => rfl

/-! ### Effects -/

/-- What an operation can make of the database of a device. -/
inductive Effect : {α : Type} → Operation α → Device → Database → Prop where
  /-- A reading, or an operation that fails. -/
  | nothing {α : Type} (op : Operation α) (device : Device) : Effect op device device.database
  | storeKeyPair (id : String) (pair : KeyPair) (password : String) (device : Device)
    (hid : id ≠ "") :
    Effect (.storeKeyPair id pair password) device <| device.database.putKeyPair <| .ofRecord <|
      .ofKeyPair id pair device.settings.strategy.params password (device.random.next 16)
        ((device.random.advance 16).next 12) device.clock.wall
  | deleteKeyPair (id : String) (device : Device) :
    Effect (.deleteKeyPair id) device (device.database.eraseKeyPair id)
  | storeConversationKey (id : String) (key : ConversationKey) (version : UInt32)
    (device : Device) (master : Key) (current? : Option UInt32) (hk : device.key? = some master)
    (hid : id ≠ "") (hversion : version ≠ 0)
    (hlive : device.database.liveVersion? id = .ok current?)
    (hcurrent : ∀ current ∈ current?, current ≤ version) :
    Effect (.storeConversationKey id key version) device <|
      device.database.updateConversationKey <| .ofRecord <|
        .ofSealed id (key.wrapped master (device.random.next 12) id version) version
          device.clock.wall none
  | deleteConversationKey (id : String) (device : Device) :
    Effect (.deleteConversationKey id) device (device.database.eraseConversationKey id)
  | rotateConversationKey (id : String) (secret : Bytes) (reason : String) (device : Device)
    (master : Key) (current? : Option UInt32) (new : UInt32) (key : ConversationKey)
    (hk : device.key? = some master) (hlive : device.database.liveVersion? id = .ok current?)
    (hnew : Action.nextVersion (current?.getD 0) = .ok new)
    (hkey : ConversationKey.derive secret id new = .ok key)
    (hlog : device.database.hasRotation id (.integer new.toNat) = false) :
    Effect (.rotateConversationKey id secret reason) device
      { device.database.updateConversationKey
          (.ofRecord (Action.rotatedRecord device master id key new)) with
        rotations := device.database.rotations ++
          [.ofRecord (Action.rotationRecord device id (current?.getD 0) new reason)] }
  /-- A first unlock. -/
  | unlock (password : String) (device : Device) (strategy : Strategy) (salt : Salt)
    (random : RandomSource) (hnone : (MasterRecord.ofDatabase device.database).check = none)
    (hstrategy :
      (MasterRecord.ofDatabase device.database).strategy device.settings = .ok strategy)
    (hsalt :
      (MasterRecord.ofDatabase device.database).chooseSalt device.random = .ok (salt, random)) :
    Effect (.unlock password) device <| device.database.addMaster salt strategy.params <|
      MasterRecord.sealCheck (strategy.derive password salt) (random.next 12)
  | restoreBackup (backup : EncryptedBackup) (password : String) (device : Device)
    (payload : BackupPayload) (h : backup.toPayload device.settings password = .ok payload) :
    Effect (.restoreBackup backup password) device (device.database.merge payload)
  | clearAll (device : Device) : Effect .clearAll device device.database.clear

theorem effect_of_keeps (op : Operation α) (h : op.action.Keeps Device.database)
    (device : Device) :
  Effect op device (op.outcome device).2.database
  := by
  rw [outcome, h device]
  apply Effect.nothing

/-- An operation has an effect only where it succeeds. -/
theorem effect_of_ok {op : Operation α} {device : Device}
    (h : ∀ a after, op.outcome device = (.ok a, after) → Effect op device after.database) :
  Effect op device (op.outcome device).2.database
  := by
  rcases hr : op.outcome device with ⟨e | a, after⟩
  · rw [op.isAtomic device e after hr]
    apply Effect.nothing
  · apply h a after hr

theorem effect (op : Operation α) (device : Device) :
  Effect op device (op.outcome device).2.database
  := by
  -- A reading keeps the database, and a writing has its effect where it succeeds; only what cannot fail
  -- has its effect at once.
  cases op with
  | storeKeyPair id pair password =>
    apply effect_of_ok
    intro _ after h
    obtain ⟨hid, -, rfl⟩ := Action.storeKeyPair_eq_ok_iff.1 h
    exact .storeKeyPair id pair password device hid
  | storedKeyPair id =>
    apply effect_of_keeps (.storedKeyPair id)
    apply Action.storedKeyPair_keeps
  | loadKeyPair id password =>
    apply effect_of_keeps (.loadKeyPair id password)
    apply Action.loadKeyPair_keeps
  | deleteKeyPair id => apply Effect.deleteKeyPair
  | keyPairIds => apply Effect.nothing
  | exportPublicKey id => apply Effect.nothing
  | storeConversationKey id key version =>
    apply effect_of_ok
    intro _ after h
    obtain ⟨master, current?, hk, hid, hversion, hlive, hcurrent, rfl⟩ :=
      Action.storeConversationKey_eq_ok_iff.1 h
    exact .storeConversationKey id key version device master current? hk hid hversion hlive hcurrent
  | storedConversationKey id =>
    apply effect_of_keeps (.storedConversationKey id)
    apply Action.storedConversationKey_keeps
  | conversationKeyInfo id =>
    apply effect_of_keeps (.conversationKeyInfo id)
    apply Action.conversationKeyInfo_keeps
  | loadConversationKey id =>
    apply effect_of_keeps (.loadConversationKey id)
    apply Action.loadConversationKey_keeps_database
  | deleteConversationKey id => apply Effect.deleteConversationKey
  | conversationIds => apply Effect.nothing
  | rotateConversationKey id secret reason =>
    apply effect_of_ok
    intro record after h
    obtain ⟨master, current?, new, key, hk, hlive, hnew, hkey, hlog, rfl, hafter⟩ :=
      Action.rotateConversationKey_eq_ok h
    rw [hafter]
    exact .rotateConversationKey id secret reason device master current? new key hk hlive hnew hkey
      hlog
  | rotationHistory id =>
    apply effect_of_keeps (.rotationHistory id)
    apply Action.rotationHistory_keeps
  | sealMessage id plaintext =>
    apply effect_of_keeps (.sealMessage id plaintext)
    apply Action.sealMessage_keeps_database
  | openMessage id sealed =>
    apply effect_of_keeps (.openMessage id sealed)
    apply Action.openMessage_keeps_database
  | unlock password =>
    apply effect_of_ok
    intro _ after h
    obtain ⟨key, -, rfl⟩ | ⟨strategy, salt, random, hnone, hstrategy, hsalt, rfl⟩ :=
      Action.unlock_eq_ok h
    · apply Effect.nothing
    · exact .unlock password device strategy salt random hnone hstrategy hsalt
  | createBackup password =>
    apply effect_of_keeps (.createBackup password)
    apply Action.createBackup_keeps_database
  | restoreBackup backup password =>
    apply effect_of_ok
    intro summary after h
    obtain ⟨payload, hpayload, -, rfl⟩ := Action.restoreBackup_eq_ok_iff.1 h
    exact .restoreBackup backup password device payload hpayload
  | clearAll => apply Effect.clearAll

end Operation

/-! ### Runs -/

namespace Database

/-- What operations have made of a database, each on a device on which it is allowed. -/
inductive Run (allowed : (α : Type) → Operation α → Device → Prop) (d : Database) :
    Database → Prop where
  | start : Run allowed d d
  | step {α : Type} (op : Operation α) (device : Device) (h : Run allowed d device.database)
    (ha : allowed α op device) : Run allowed d (op.outcome device).2.database

/-- A database that operations have made from the empty one. -/
def Reachable : Database → Prop :=
  Run (fun _ _ _ => True) .empty

variable {allowed : (α : Type) → Operation α → Device → Prop} {d d' : Database}

/-- What holds at the start of a run and is left true by what an allowed operation does, holds at
the end. -/
theorem Run.invariant {P : Database → Prop} (h : Run allowed d d') (hd : P d)
    (hstep : ∀ (α : Type) (op : Operation α) (device : Device) (d' : Database),
      allowed α op device → P device.database → op.Effect device d' → P d') :
  P d'
  := by
  induction h with
  | start => exact hd
  | step op device _ ha ih => exact hstep _ op device _ ha ih (op.effect device)

theorem Reachable.empty :
  Database.empty.Reachable
  := Run.start

theorem Reachable.step {α : Type} (op : Operation α) (device : Device)
    (h : device.database.Reachable) :
  (op.outcome device).2.database.Reachable
  := Run.step op device h trivial

end Database

end Keyring

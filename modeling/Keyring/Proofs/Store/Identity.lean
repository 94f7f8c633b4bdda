import Keyring.Proofs.Action
import Keyring.Proofs.Checks
import Keyring.Store.Identity

/-!
# Operations on key pairs

A key pair is stored as one row under its id.  All other operations on key pairs, deletion
apart, only read.
-/

namespace Keyring

/-- What is found under an id with a password. -/
def Database.openKeyPair (d : Database) (settings : Settings) (id password : String) :
    Except StoreError (Option KeyPair) :=
  match d.keyPair? id with
  | none => .ok none
  | some row => do
    let record ← row.toRecord
    return some (← record.toKeyPair settings id password)

namespace Action

open ExceptT

theorem storeKeyPair_isAtomic (id : String) (pair : KeyPair) (password : String) :
  (storeKeyPair id pair password).IsAtomic Device.database
  := by
  simp only [storeKeyPair, throw_bind]
  apply IsAtomic.guard
  apply (validatePassword_keeps password).bind_isAtomic
  intro _
  apply (draw_keeps_database _).bind_isAtomic
  intro salt
  apply (draw_keeps_database _).bind_isAtomic
  intro iv
  apply settings_keeps.bind_isAtomic
  intro settings
  apply now_keeps.bind_isAtomic
  intro now
  apply write_isAtomic

/-- A key pair is stored if it has an id and the password is long enough. -/
theorem storeKeyPair_eq_ok_iff {id : String} {pair : KeyPair} {password : String}
    {device after : Device} :
  (storeKeyPair id pair password).outcome device = (.ok (), after) ↔
    id ≠ "" ∧ Password.validate password device.settings.passwordFloor = .ok () ∧
      after = { device.withRandom ((device.random.advance 16).advance 12) with
        database := device.database.putKeyPair <| .ofRecord <|
          .ofKeyPair id pair device.settings.strategy.params password (device.random.next 16)
            ((device.random.advance 16).next 12) device.clock.wall }
  := by
  simp only [storeKeyPair, throw_bind]
  rw [outcome_guard_eq_ok_iff]
  rcases h : Password.validate password device.settings.passwordFloor with e | ⟨⟩
  · simp [outcome_bind_eq_ok_iff, h]
  · simp [outcome_bind_eq_ok_iff, h, @eq_comm _ _ after, and_assoc]

theorem outcome_storedKeyPair (id : String) (device : Device) :
  (storedKeyPair id).outcome device =
    ((device.database.keyPair? id).mapM KeyPairRow.toRecord, device)
  := by
  rw [storedKeyPair, outcome_bind_of_ok (outcome_database device)]
  rcases device.database.keyPair? id with _ | row
  · rfl
  · rcases h : row.toRecord with e | k
    · simp [h]
      rfl
    · simp [h]
      rfl

theorem storedKeyPair_keeps {γ : Type} (view : Device → γ) (id : String) :
  (storedKeyPair id).Keeps view
  := by
  intro device
  rw [outcome_storedKeyPair]

/-- What is found depends on the database and the settings alone. -/
theorem outcome_loadKeyPair (id password : String) (device : Device) :
  (loadKeyPair id password).outcome device =
    (device.database.openKeyPair device.settings id password, device)
  := by
  rw [loadKeyPair, Database.openKeyPair, outcome_bind, outcome_storedKeyPair]
  rcases device.database.keyPair? id with _ | row
  · rfl
  · rw [Option.mapM_some]
    dsimp only
    rcases row.toRecord with e | record
    · rfl
    · have hread : some <$> (.ok record : Except StoreError StoredKeyPair) = .ok (some record) := rfl
      simp only [hread, outcome_bind, outcome_settings, outcome_ofResult, Except.ok_bind]
      rcases record.toKeyPair device.settings id password with e | pair
      · rfl
      · rfl

theorem loadKeyPair_keeps {γ : Type} (view : Device → γ) (id password : String) :
  (loadKeyPair id password).Keeps view
  := by
  intro device
  rw [outcome_loadKeyPair]

theorem outcome_getKeyPair (id password : String) (device : Device) :
  getKeyPair id password device =
    (.ofResult (device.database.openKeyPair device.settings id password), device)
  := by
  have h := outcome_loadKeyPair id password device
  exact congrArg (Prod.map Lookup.ofResult fun after => after) h

@[simp]
theorem outcome_deleteKeyPair (id : String) (device : Device) :
  (deleteKeyPair id).outcome device =
    (.ok (device.database.keyPair? id).isSome,
      { device with database := device.database.eraseKeyPair id })
  := rfl

theorem keyPairIds_keeps {γ : Type} (view : Device → γ) :
  keyPairIds.Keeps view
  := fun _ => rfl

@[simp]
theorem outcome_exportPublicKey (id : String) (device : Device) :
  (exportPublicKey id).outcome device =
    (.ok ((device.database.keyPair? id).map KeyPairRow.publicKey), device)
  := rfl

theorem exportPublicKey_keeps {γ : Type} (view : Device → γ) (id : String) :
  (exportPublicKey id).Keeps view
  := fun _ => rfl

end Action

end Keyring

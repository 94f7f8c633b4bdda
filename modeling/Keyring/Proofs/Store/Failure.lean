import Keyring.Proofs.Sample

/-!
# Failures leave no trace

An operation that fails leaves the tables and the metadata as they were, wherever in its course
it failed.  An unlock that fails, and an attempt to set a master key that fails, leave the
session as it was, with the key that it had.
-/

namespace Keyring

open ExceptT

/-! ### Sessions -/

/-- Bytes of the wrong number are refused before anything changes. -/
theorem SessionAction.setMasterKey_isAtomic (b : Bytes) :
  (setMasterKey b).IsAtomic id
  := by
  unfold setMasterKey
  split
  · exact isAtomic_of_isOk fun _ => rfl
  · apply (keeps_throw _).isAtomic

/-- A password that is too short is refused before anything changes; any other one is taken. -/
theorem SessionAction.deriveMasterKey_isAtomic (password : String) (salt? : Option Salt) :
  (deriveMasterKey password salt?).IsAtomic id
  := by
  unfold deriveMasterKey
  apply keeps_get.bind_isAtomic
  intro host
  have hvalidate : (ofCrypto (Password.validate password host.session.passwordFloor)).Keeps id := by
    intro host'
    rw [outcome_ofCrypto]
  apply hvalidate.bind_isAtomic
  intro _
  apply isAtomic_of_isOk
  intro host'
  rcases salt? with _ | salt
  · rfl
  · rfl

/-- The session and the clocks, which tell what key is in reach. -/
def Host.standing (host : Host) : Session × Clock :=
  (host.session, host.clock)

theorem Host.key?_eq_of_standing {host host' : Host} (h : host'.standing = host.standing) :
  host'.key? = host.key?
  := by
  obtain ⟨hs, hc⟩ := Prod.mk.inj h
  rw [key?, key?, hs, hc]

/-! ### All failures -/

/-- Whatever fails, and however far it came, the tables and the metadata are as before; and an
unlock or an attempt to set the master key that fails leaves the key in reach that was there. -/
theorem failure_changes_nothing :
  (∀ {α : Type} (op : Operation α) (device after : Device) (e : StoreError),
    op.outcome device = (.error e, after) → after.database = device.database) ∧
  (∀ (password : String) (device after : Device) (e : StoreError),
    (Operation.unlock password).outcome device = (.error e, after) →
      after.session = device.session ∧ after.key? = device.key?) ∧
  (∀ (b : Bytes) (host after : Host) (e : StoreError),
    (SessionAction.setMasterKey b).outcome host = (.error e, after) →
      after.session = host.session ∧ after.key? = host.key?) ∧
  ∀ (password : String) (salt? : Option Salt) (host after : Host) (e : StoreError),
    (SessionAction.deriveMasterKey password salt?).outcome host = (.error e, after) →
      after.session = host.session ∧ after.key? = host.key?
  := by
  constructor
  · intro α op device after e h
    apply op.isAtomic device e after h
  constructor
  · intro password device after e h
    have hstanding := Action.unlock_isAtomic (fun device => device.toHost.standing)
      (fun _ _ => rfl) password device e after h
    exact ⟨congrArg Prod.fst hstanding, Host.key?_eq_of_standing hstanding⟩
  constructor
  · intro b host after e h
    obtain rfl := SessionAction.setMasterKey_isAtomic b host e after h
    exact ⟨rfl, rfl⟩
  · intro password salt? host after e h
    obtain rfl := SessionAction.deriveMasterKey_isAtomic password salt? host e after h
    exact ⟨rfl, rfl⟩

/-- A rotation that the log refuses, after the key was replaced already, an unlock with a short
password, and master keys that are none. -/
theorem failure_changes_nothing_after_rotation :
  (∃ after,
    (Operation.rotateConversationKey "c" (List.replicate 32 0) "manual").outcome
      (.sample .rotated) = (.error .database, after) ∧ after.database = .rotated) ∧
  (∃ after, (Operation.unlock "short").outcome (.sample .rotated) =
    (.error (.passwordTooShort 8), after) ∧ after.key? = some (.zero 32)) ∧
  (∃ after, (SessionAction.setMasterKey [1]).outcome .sample =
    (.error (.invalidInput "master key must be 32 bytes, got 1"), after) ∧
      after.key? = some (.zero 32)) ∧
  ∃ after, (SessionAction.deriveMasterKey "short" none).outcome .sample =
    (.error (.passwordTooShort 8), after) ∧ after.key? = some (.zero 32)
  := by
  have hlive : Database.rotated.liveVersion? "c" = .ok none := rfl
  have hnext : Action.nextVersion 0 = .ok 1 := rfl
  have hrotate : (Operation.rotateConversationKey "c" (List.replicate 32 0) "manual").outcome
      (.sample .rotated) = (.error .database, _) :=
    Action.outcome_rotateConversationKey_of_hasRotation "manual" (Device.key?_sample .rotated) hlive
      hnext ConversationKey.derive_sample rfl
  have hunlock : (Operation.unlock "short").outcome (.sample .rotated) =
      (.error (.passwordTooShort 8), .sample .rotated) :=
    Action.outcome_unlock_of_password (e := .passwordTooShort 8) rfl
  have hset : (SessionAction.setMasterKey [1]).outcome .sample =
      (.error (.invalidInput "master key must be 32 bytes, got 1"), .sample) := rfl
  have hderive : (SessionAction.deriveMasterKey "short" none).outcome .sample =
      (.error (.passwordTooShort 8), .sample) := rfl
  exact ⟨⟨_, hrotate, failure_changes_nothing.1 _ _ _ _ hrotate⟩,
    ⟨_, hunlock, (failure_changes_nothing.2.1 _ _ _ _ hunlock).2⟩,
    ⟨_, hset, (failure_changes_nothing.2.2.1 _ _ _ _ hset).2⟩,
    ⟨_, hderive, (failure_changes_nothing.2.2.2 _ _ _ _ _ hderive).2⟩⟩

end Keyring

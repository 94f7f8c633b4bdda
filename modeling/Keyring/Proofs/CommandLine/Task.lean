import Keyring.CommandLine.Run
import Keyring.Proofs.Store.FirstUnlock
import Keyring.Proofs.Store.Operation
import Keyring.Proofs.Store.Reopening
import Keyring.Proofs.Store.Soundness
import Keyring.Proofs.Store.Table

/-!
# Commands that fail

A command that fails leaves the database as it was.  Only one that derives or rotates a key may fail
after it has unlocked the session, and a first unlock stays.
-/

namespace Keyring

open ExceptT

namespace Task

variable {α γ : Type} {view : Device → γ} {device after : Device}

/-! ### Parts of commands -/

theorem outcome_ofAction (x : Action α) (device : Device) :
  (ofAction x).outcome device =
    ((x.outcome device).1.mapError RunError.ofStore, (x.outcome device).2)
  := rfl

theorem outcome_ofAction_eq_ok_iff {x : Action α} {a : α} :
  (ofAction x).outcome device = (.ok a, after) ↔ x.outcome device = (.ok a, after)
  := by
  rw [outcome_ofAction, Prod.mk.injEq, Except.mapError_eq_ok_iff, ← Prod.mk.injEq]

theorem ofAction_keeps {x : Action α} (h : x.Keeps view) :
  (ofAction x).Keeps view
  := h

theorem ofAction_isAtomic {x : Action α} (h : x.IsAtomic view) :
  (ofAction x).IsAtomic view
  := by
  intro device e after hx
  rw [outcome_ofAction] at hx
  rcases hr : x.outcome device with ⟨e' | a, between⟩
  · rw [hr] at hx
    obtain ⟨-, rfl⟩ := Prod.mk.inj hx
    exact h device e' between hr
  · rw [hr] at hx
    cases hx

@[simp]
theorem outcome_ofResult (r : Except RunError α) (device : Device) :
  (ofResult r).outcome device = (r, device)
  := by
  cases r <;> rfl

theorem outcome_ofResult_eq_ok_iff {r : Except RunError α} {a : α} :
  (ofResult r).outcome device = (.ok a, after) ↔ r = .ok a ∧ device = after
  := by
  rw [outcome_ofResult, Prod.mk.injEq]

theorem ofResult_keeps (r : Except RunError α) :
  (ofResult r).Keeps view
  := by
  intro device
  rw [outcome_ofResult]

theorem ofCrypto_keeps (r : Except CryptoError α) :
  (ofCrypto r).Keeps view
  := ofResult_keeps _

theorem require_keeps (e : RunError) (a? : Option α) :
  (require e a?).Keeps view
  := by
  rcases a? with _ | a
  · apply keeps_throw
  · apply keeps_pure

/-- To agree on a secret is to read. -/
theorem agree_keeps (view : Device → γ) (s : Surroundings) (peer : Peer) :
  (agree s peer).Keeps view
  := by
  unfold agree
  apply (require_keeps _ _).bind
  intro publicKey
  apply (ofResult_keeps _).bind
  intro password
  apply (ofAction_keeps (Action.loadKeyPair_keeps view peer.keyId password)).bind
  intro pair?
  apply (require_keeps _ _).bind
  intro pair
  apply ofCrypto_keeps

theorem unlock_isAtomic (s : Surroundings) :
  (unlock s).IsAtomic Device.database
  := by
  unfold unlock
  apply (ofResult_keeps _).bind_isAtomic
  intro password
  apply ofAction_isAtomic
  apply Action.unlock_isAtomic
  intro _ _
  rfl

/-! ### Commands without an unlock -/

theorem createBackup_keeps_database (s : Surroundings) (file? : Option String) :
  (createBackup s file?).Keeps Device.database
  := by
  unfold createBackup
  apply (ofResult_keeps _).bind
  intro password
  apply (ofAction_keeps (Action.createBackup_keeps_database password)).bind
  intro backup
  rcases file? with _ | file
  · apply keeps_pure
  · apply keeps_pure

theorem restoreBackup_isAtomic (s : Surroundings) (text : String) :
  (restoreBackup s text).IsAtomic Device.database
  := by
  unfold restoreBackup
  apply (ofResult_keeps _).bind_isAtomic
  intro backup
  apply (ofResult_keeps _).bind_isAtomic
  intro password
  apply (ofAction_isAtomic (Action.restoreBackup_isAtomic backup password)).bind_of_isOk
  intro _ _
  rfl

theorem unlock_eq_ok_iff {s : Surroundings} :
  (unlock s).outcome device = (.ok (), after) ↔ ∃ password, s.masterPassword = .ok password ∧
    (Action.unlock password).outcome device = (.ok (), after)
  := by
  rw [unlock, outcome_bind_eq_ok_iff]
  constructor
  · rintro ⟨password, between, hpassword, hunlock⟩
    obtain ⟨hmaster, rfl⟩ := outcome_ofResult_eq_ok_iff.1 hpassword
    exact ⟨password, hmaster, outcome_ofAction_eq_ok_iff.1 hunlock⟩
  · rintro ⟨password, hmaster, hunlock⟩
    exact ⟨password, device, outcome_ofResult_eq_ok_iff.2 ⟨hmaster, rfl⟩,
      outcome_ofAction_eq_ok_iff.2 hunlock⟩

end Task

namespace Task

variable {α : Type} {s : Surroundings} {device after : Device} {id : String} {peer : Peer}
  {e : RunError}

/-- To agree on a secret is all that is done before the unlock. -/
theorem outcome_agree_bind {f : SharedSecret → Task α} {r : Except RunError α}
    (h : (agree s peer >>= f).outcome device = (r, after)) :
  (∃ e, r = .error e ∧ after = device) ∨
    ∃ secret, (agree s peer).outcome device = (.ok secret, device) ∧
      (f secret).outcome device = (r, after)
  := by
  have hagree := agree_keeps (fun device => device) s peer device
  rcases hr : (agree s peer).outcome device with ⟨e | secret, between⟩
  · rw [hr] at hagree
    rw [outcome_bind_of_error hr] at h
    obtain ⟨rfl, rfl⟩ := Prod.mk.inj h
    exact .inl ⟨e, rfl, hagree⟩
  · rw [hr] at hagree
    obtain rfl : between = device := hagree
    rw [outcome_bind_of_ok hr] at h
    exact .inr ⟨secret, rfl, h⟩

/-- Whether a database is left by an unlock with the master password of the surroundings, after which
a key was put in for a conversation, perhaps with the time of its rotation. -/
def PutsIn (s : Surroundings) (device : Device) (id : String) (key : ConversationKey)
    (version : UInt32) (rotatedAt : Option Instant) (d : Database) : Prop :=
  ∃ password unlocked master iv createdAt, s.masterPassword = .ok password ∧
    (Action.unlock password).outcome device = (.ok (), unlocked) ∧ unlocked.key? = some master ∧
    version ≠ 0 ∧ d.metadata = unlocked.database.metadata ∧
    d.conversationKeys = (unlocked.database.updateConversationKey <| .ofRecord <| .ofSealed id
      (key.wrapped master iv id version) version createdAt rotatedAt).conversationKeys

/-- What is returned once the session was cleared. -/
theorem eq_of_clear_bind {r report : Report}
    (h : (ofAction (Action.onSession SessionAction.clear) >>= fun _ => pure r).outcome device =
      (.ok report, after)) :
  report = r ∧ after.database = device.database
  := by
  cases h
  exact ⟨rfl, rfl⟩

/-- A rotation that succeeds has put in a key in the new version that it prints. -/
theorem rotateConversationKey_eq_ok {reason : String} {report : Report}
    (h : (rotateConversationKey s id peer reason).outcome device = (.ok report, after)) :
  ∃ (secret : SharedSecret) (record : RotationRecord) (key : ConversationKey),
    (agree s peer).outcome device = (.ok secret, device) ∧
    ConversationKey.derive secret.key.bytes id record.newVersion = .ok key ∧
    PutsIn s device id key record.newVersion (some record.rotatedAt) after.database ∧
    record.conversationId = id ∧ report = .value record.toJson
  := by
  rw [rotateConversationKey] at h
  obtain ⟨_, h, -⟩ | ⟨secret, hagree, h⟩ := outcome_agree_bind h
  · cases h
  obtain ⟨⟨⟩, unlocked, hunlock, h⟩ := outcome_bind_eq_ok_iff.1 h
  obtain ⟨password, hmaster, hunlock⟩ := unlock_eq_ok_iff.1 hunlock
  obtain ⟨record, rotated, hrotate, h⟩ := outcome_bind_eq_ok_iff.1 h
  obtain ⟨master, current?, new, key, hk, -, hnew, hkey, -, rfl, hafter⟩ :=
    Action.rotateConversationKey_eq_ok (outcome_ofAction_eq_ok_iff.1 hrotate)
  have hversion : new ≠ 0 := by
    obtain ⟨hlast, rfl⟩ := Action.nextVersion_eq_ok_iff.1 hnew
    exact UInt32.add_one_ne_zero hlast
  obtain ⟨rfl, hclear⟩ := eq_of_clear_bind h
  have hmetadata := congrArg Database.metadata (hclear.trans hafter)
  have hkeys := congrArg Database.conversationKeys (hclear.trans hafter)
  refine ⟨secret, Action.rotationRecord unlocked id (current?.getD 0) new reason, key, hagree, hkey,
    ?_, rfl, rfl⟩
  exact ⟨password, unlocked, master, unlocked.random.next 12, unlocked.clock.wall, hmaster, hunlock, hk,
    hversion, hmetadata, hkeys⟩

end Task

end Keyring

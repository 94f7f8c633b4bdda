import Keyring.Proofs.Session
import Keyring.Store.Device

/-!
# Running operations of the store

The outcomes of the statements of which the operations of the store are made.  A transaction
that fails gives back the database that it began with.
-/

namespace Keyring

/-- The device with another host. -/
def Device.withHost (device : Device) (host : Host) : Device :=
  { device with toHost := host }

/-- The device with another random source. -/
def Device.withRandom (device : Device) (random : RandomSource) : Device :=
  device.withHost { device.toHost with random := random }

/-- The device with a key installed in its session. -/
def Device.install (device : Device) (key : Key) : Device :=
  device.withHost
    { device.toHost with session := device.session.install device.clock.monotonic key }

namespace Device

@[simp]
theorem toHost_withHost (device : Device) (host : Host) :
  (device.withHost host).toHost = host
  := rfl

@[simp]
theorem settings_withHost (device : Device) (host : Host) :
  (device.withHost host).settings = device.settings
  := rfl

@[simp]
theorem database_withHost (device : Device) (host : Host) :
  (device.withHost host).database = device.database
  := rfl

@[simp]
theorem withHost_withHost (device : Device) (host host' : Host) :
  (device.withHost host).withHost host' = device.withHost host'
  := rfl

@[simp]
theorem settings_install (device : Device) (key : Key) :
  (device.install key).settings = device.settings
  := rfl

/-- A key that was just installed is in reach. -/
@[simp]
theorem key?_install (device : Device) (key : Key) :
  (device.install key).key? = some key
  := by
  simp [install, Host.key?, Session.install, Session.settle, Session.isExpired]

@[simp]
theorem random_withRandom (device : Device) (random : RandomSource) :
  (device.withRandom random).random = random
  := rfl

@[simp]
theorem clock_withRandom (device : Device) (random : RandomSource) :
  (device.withRandom random).clock = device.clock
  := rfl

@[simp]
theorem session_withRandom (device : Device) (random : RandomSource) :
  (device.withRandom random).session = device.session
  := rfl

@[simp]
theorem settings_withRandom (device : Device) (random : RandomSource) :
  (device.withRandom random).settings = device.settings
  := rfl

@[simp]
theorem database_withRandom (device : Device) (random : RandomSource) :
  (device.withRandom random).database = device.database
  := rfl

@[simp]
theorem withRandom_withRandom (device : Device) (random random' : RandomSource) :
  (device.withRandom random).withRandom random' = device.withRandom random'
  := rfl

end Device

namespace Action

open ExceptT (Keeps IsAtomic)

variable {α β γ : Type}

/-! ### Statements -/

@[simp]
theorem outcome_ofResult (r : Except StoreError α) (device : Device) :
  (ofResult r).outcome device = (r, device)
  := by
  cases r <;> rfl

@[simp]
theorem outcome_ofCrypto (r : Except CryptoError α) (device : Device) :
  (ofCrypto r).outcome device = (r.mapError StoreError.ofCrypto, device)
  := outcome_ofResult _ device

theorem outcome_ofResult_of_ok {r : Except StoreError α} {a : α} (h : r = .ok a) (device : Device) :
  (ofResult r).outcome device = (.ok a, device)
  := by
  rw [outcome_ofResult, h]

theorem outcome_ofCrypto_of_ok {r : Except CryptoError α} {a : α} (h : r = .ok a) (device : Device) :
  (ofCrypto r).outcome device = (.ok a, device)
  := by
  rw [outcome_ofCrypto, h]
  rfl

@[simp]
theorem outcome_settings (device : Device) :
  settings.outcome device = (.ok device.settings, device)
  := rfl

@[simp]
theorem outcome_database (device : Device) :
  database.outcome device = (.ok device.database, device)
  := rfl

@[simp]
theorem outcome_now (device : Device) :
  now.outcome device = (.ok device.clock.wall, device)
  := rfl

@[simp]
theorem outcome_write (f : Database → Database) (device : Device) :
  (write f).outcome device = (.ok (), { device with database := f device.database })
  := rfl

@[simp]
theorem outcome_draw (d : Draw α) (device : Device) :
  (draw d).outcome device =
    (.ok (d device.random).1, device.withRandom (d device.random).2)
  := rfl

theorem outcome_onSession (x : SessionAction α) (device : Device) :
  (onSession x).outcome device =
    ((x.outcome device.toHost).1, device.withHost (x.outcome device.toHost).2)
  := rfl

@[simp]
theorem outcome_install (key : Key) (device : Device) :
  (onSession (SessionAction.install key)).outcome device = (.ok (), device.install key)
  := rfl

/-- What a session does on a device, it does on the host of the device. -/
theorem outcome_onSession_eq {x : SessionAction α} {device : Device} {r : Except StoreError α}
    {host : Host} (h : x.outcome device.toHost = (r, host)) :
  (onSession x).outcome device = (r, device.withHost host)
  := by
  rw [outcome_onSession, h]

@[simp]
theorem outcome_validatePassword (password : String) (device : Device) :
  (validatePassword password).outcome device =
    ((Password.validate password device.settings.passwordFloor).mapError StoreError.ofCrypto,
      device)
  := by
  rw [validatePassword, ExceptT.outcome_bind_of_ok (outcome_settings device)]
  apply outcome_ofCrypto

theorem outcome_validatePassword_of_ok {password : String} {device : Device}
    (h : Password.validate password device.settings.passwordFloor = .ok ()) :
  (validatePassword password).outcome device = (.ok (), device)
  := by
  rw [outcome_validatePassword, h]
  rfl

theorem outcome_transaction (x : Action α) (device : Device) :
  (transaction x).outcome device =
    let r := x.outcome device
    (r.1, if r.1.isOk then r.2 else { r.2 with database := device.database })
  := by
  rcases h : x.outcome device with ⟨e | a, after⟩
  · have hrun : x.run device = (.error e, after) := h
    simp only [ExceptT.outcome, transaction, ExceptT.run] at hrun ⊢
    rw [hrun]
    rfl
  · have hrun : x.run device = (.ok a, after) := h
    simp only [ExceptT.outcome, transaction, ExceptT.run] at hrun ⊢
    rw [hrun]
    rfl

/-- A transaction succeeds if what is run within it does. -/
theorem outcome_transaction_eq_ok_iff {x : Action α} {device after : Device} {a : α} :
  (transaction x).outcome device = (.ok a, after) ↔ x.outcome device = (.ok a, after)
  := by
  rw [outcome_transaction]
  rcases x.outcome device with ⟨e | b, between⟩
  · simp
  · simp [Except.isOk, Except.toBool]

/-! ### Views that are kept -/

section

variable {view : Device → γ}

theorem ofResult_keeps (r : Except StoreError α) :
  (ofResult r).Keeps view
  := by
  intro device
  rw [outcome_ofResult]

theorem ofCrypto_keeps (r : Except CryptoError α) :
  (ofCrypto r).Keeps view
  := ofResult_keeps _

theorem settings_keeps :
  settings.Keeps view
  := fun _ => rfl

theorem database_keeps :
  database.Keeps view
  := fun _ => rfl

theorem now_keeps :
  now.Keeps view
  := fun _ => rfl

theorem validatePassword_keeps (password : String) :
  (validatePassword password).Keeps view
  := by
  intro device
  rw [outcome_validatePassword]

theorem write_isAtomic (f : Database → Database) :
  (write f).IsAtomic view
  := ExceptT.isAtomic_of_isOk fun _ => rfl

end

/-- What is done with the session leaves the database as it is. -/
theorem onSession_keeps_database (x : SessionAction α) :
  (onSession x).Keeps Device.database
  := fun _ => rfl

theorem draw_keeps_database (d : Draw α) :
  (draw d).Keeps Device.database
  := fun _ => rfl

/-- Whatever is done within a transaction, a failure undoes its changes of the database. -/
theorem transaction_isAtomic (x : Action α) :
  (transaction x).IsAtomic Device.database
  := by
  intro device e after h
  rw [outcome_transaction] at h
  rcases hx : x.outcome device with ⟨e' | a, between⟩
  · rw [hx] at h
    obtain ⟨-, rfl⟩ := Prod.mk.inj h
    rfl
  · rw [hx] at h
    cases h

end Action

end Keyring

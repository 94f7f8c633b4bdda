import Keyring.Proofs.Action
import Keyring.Store.MasterPassword
import Mathlib.Tactic.Use

/-!
# Unlocking

A first unlock adds its entries to the metadata and installs the key; if it fails, it has only
taken random bytes.  A later unlock writes nothing at all.
-/

namespace Keyring

namespace MasterRecord

/-- The salt of a first unlock, and the random source after it: the recorded salt if there is
one, and a fresh one otherwise. -/
def chooseSalt (r : MasterRecord) (random : RandomSource) :
    Except StoreError (Salt × RandomSource) :=
  match r.salt with
  | some s => (decodeSalt s).map (·, random)
  | none => .ok (random.next 16, random.advance 16)

/-- Nothing opens where there is no sealed value. -/
theorem openCheck_of_none {r : MasterRecord} {settings : Settings} {password : String}
    (h : r.check = none) :
  r.openCheck settings password = .error (.format "master key check missing")
  := by
  simp [openCheck, h]
  rfl

/-- The text of the value that is sealed under a master key. -/
def sealCheck (key : Key) (iv : Gcm.Iv) : String :=
  Base64.encode (Sealed.ofPlaintext key iv Purpose.masterCheck.associatedData checkText).toBytes

end MasterRecord

/-! ### The metadata -/

namespace Database

theorem addMetadata_eq (d : Database) (key value : String) :
  ∃ metadata, d.addMetadata key value = { d with metadata := metadata }
  := by
  unfold addMetadata
  split
  · exact ⟨d.metadata, rfl⟩
  · exact ⟨_, rfl⟩

/-- A first unlock writes metadata only. -/
theorem addMaster_eq (d : Database) (salt : Salt) (params : KdfParams) (check : String) :
  ∃ metadata, d.addMaster salt params check = { d with metadata := metadata }
  := by
  unfold addMaster
  obtain ⟨_, h₁⟩ := d.addMetadata_eq MasterRecord.saltKey (Base64.encode salt.bytes)
  rw [h₁]
  obtain ⟨_, h₂⟩ := addMetadata_eq { d with metadata := _ } MasterRecord.kdfKey
    params.algorithm.name
  rw [h₂]
  obtain ⟨_, h₃⟩ := addMetadata_eq { d with metadata := _ } MasterRecord.paramsKey params.text
  rw [h₃]
  apply addMetadata_eq

end Database

namespace Action

open ExceptT

variable {r : MasterRecord} {password : String} {device : Device}

/-! ### The first unlock -/

/-- A first unlock fails and takes nothing, or finds the strategy and the salt to go by. -/
theorem initialiseMaster_fails_or (r : MasterRecord) (password : String) (device : Device) :
  (∃ e, (initialiseMaster r password).outcome device = (.error e, device)) ∨
    ∃ strategy salt random, r.strategy device.settings = .ok strategy ∧
      r.chooseSalt device.random = .ok (salt, random)
  := by
  rw [initialiseMaster, outcome_bind_of_ok (outcome_settings device)]
  rcases hs : r.strategy device.settings with e | strategy
  · exact .inl ⟨e, outcome_bind_of_error (outcome_ofResult _ device) _⟩
  rw [outcome_bind_of_ok (outcome_ofResult _ device)]
  rcases h : r.salt with _ | s
  · right
    simp [MasterRecord.chooseSalt, h]
  · rcases hd : MasterRecord.decodeSalt s with e | salt
    · left
      simp [outcome_bind, hd]
    · right
      simp [MasterRecord.chooseSalt, h, hd, Except.map]

/-- A first unlock writes salt, cost and sealed value, unless another sealed value is there. -/
theorem outcome_initialiseMaster {strategy : Strategy} {salt : Salt} {random : RandomSource}
    (hs : r.strategy device.settings = .ok strategy)
    (hc : r.chooseSalt device.random = .ok (salt, random)) :
  (initialiseMaster r password).outcome device =
    let key := strategy.derive password salt
    let check := MasterRecord.sealCheck key (random.next 12)
    let database := device.database.addMaster salt strategy.params check
    if database.metadata? MasterRecord.checkKey = some check then
      (.ok (some key), { device.withRandom (random.advance 12) with database := database })
    else
      (.ok none, device.withRandom (random.advance 12))
  := by
  rw [initialiseMaster, outcome_bind_of_ok (outcome_settings device),
    outcome_bind_of_ok (outcome_ofResult_of_ok hs device)]
  rcases h : r.salt with _ | s
  · simp only [MasterRecord.chooseSalt, h, Except.ok.injEq, Prod.mk.injEq] at hc
    obtain ⟨rfl, rfl⟩ := hc
    dsimp only
    rw [outcome_bind_of_ok (outcome_draw _ _), outcome_bind_of_ok (outcome_draw _ _),
      outcome_bind_of_ok (outcome_database _), outcome_ite]
    rfl
  · rcases hd : MasterRecord.decodeSalt s with e' | salt'
    · simp [MasterRecord.chooseSalt, h, hd, Except.map] at hc
    · simp only [MasterRecord.chooseSalt, h, hd, Except.map, Except.ok.injEq,
        Prod.mk.injEq] at hc
      obtain ⟨rfl, rfl⟩ := hc
      dsimp only
      rw [outcome_bind_of_ok (outcome_ofResult_of_ok hd device),
        outcome_bind_of_ok (outcome_draw _ _), outcome_bind_of_ok (outcome_database _), outcome_ite]
      rfl

/-- Whatever comes of a first unlock, the clocks and the session stay as they are; and unless it
yields a key, the database does. -/
theorem initialiseMaster_cases (r : MasterRecord) (password : String) (device : Device) :
  (∃ e, (initialiseMaster r password).outcome device = (.error e, device)) ∨
    (∃ random, (initialiseMaster r password).outcome device =
      (.ok none, device.withRandom random)) ∨
    ∃ key random database, (initialiseMaster r password).outcome device =
      (.ok (some key), { device.withRandom random with database := database })
  := by
  obtain hfails | ⟨strategy, salt, random, hs, hc⟩ := initialiseMaster_fails_or r password device
  · exact .inl hfails
  · right
    rw [outcome_initialiseMaster hs hc]
    dsimp only
    split
    · right
      exact ⟨_, _, _, rfl⟩
    · left
      exact ⟨_, rfl⟩

/-! ### Every unlock -/

/-- An unlock that finds a sealed value. -/
def reopen (password : String) : Action Unit := do
  let r := MasterRecord.ofDatabase (← database)
  let key ← ofResult (r.openCheck (← settings) password)
  onSession (SessionAction.install key)

theorem outcome_reopen (password : String) (device : Device) :
  (reopen password).outcome device =
    match (MasterRecord.ofDatabase device.database).openCheck device.settings password with
    | .ok key => (.ok (), device.install key)
    | .error e => (.error e, device)
  := by
  rw [reopen, outcome_bind_of_ok (outcome_database device),
    outcome_bind_of_ok (outcome_settings device)]
  rcases (MasterRecord.ofDatabase device.database).openCheck device.settings password with e | key
  · rw [outcome_bind_of_error (outcome_ofResult _ device)]
  · rw [outcome_bind_of_ok (outcome_ofResult _ device)]
    rfl

theorem reopen_eq_ok {after : Device} (h : (reopen password).outcome device = (.ok (), after)) :
  ∃ key, (MasterRecord.ofDatabase device.database).openCheck device.settings password = .ok key ∧
    after = device.install key
  := by
  rw [outcome_reopen] at h
  split at h
  next key hkey =>
    obtain ⟨-, rfl⟩ := Prod.mk.inj h
    exact ⟨key, hkey, rfl⟩
  next => cases h

theorem reopen_isAtomic {γ : Type} {view : Device → γ} (password : String) :
  (reopen password).IsAtomic view
  := by
  intro device e after h
  rw [outcome_reopen] at h
  split at h
  · cases h
  · obtain ⟨-, rfl⟩ := Prod.mk.inj h
    rfl

theorem outcome_unlock_of_password {e : CryptoError}
    (hp : Password.validate password device.settings.passwordFloor = .error e) :
  (unlock password).outcome device = (.error (.ofCrypto e), device)
  := by
  have hp' : (validatePassword password).outcome device = (.error (.ofCrypto e), device) := by
    rw [outcome_validatePassword, hp]
    rfl
  rw [unlock, outcome_bind_of_error hp']

/-- An unlock goes by the metadata: with a sealed value it opens that, and without one it makes
a first unlock, unless another one has been faster. -/
theorem outcome_unlock (hp : Password.validate password device.settings.passwordFloor = .ok ()) :
  (unlock password).outcome device =
    if (MasterRecord.ofDatabase device.database).check.isNone then
      match (initialiseMaster (MasterRecord.ofDatabase device.database) password).outcome device with
      | (.ok (some key), after) => (.ok (), after.install key)
      | (.ok none, after) => (reopen password).outcome after
      | (.error e, after) => (.error e, after)
    else (reopen password).outcome device
  := by
  rw [unlock, outcome_bind_of_ok (outcome_validatePassword_of_ok hp),
    outcome_bind_of_ok (outcome_database device)]
  dsimp only
  rw [outcome_ite]
  congr 1
  rcases h : (initialiseMaster (MasterRecord.ofDatabase device.database) password).outcome device
    with ⟨e | key?, after⟩
  · rw [outcome_bind_of_error h]
  · rw [outcome_bind_of_ok h]
    rcases key? with _ | key
    · rfl
    · rfl

/-- Without metadata, all entries are written. -/
theorem metadata?_addMaster {d : Database} (hm : d.metadata = []) (salt : Salt) (params : KdfParams)
    (check : String) :
  (d.addMaster salt params check).metadata? MasterRecord.checkKey = some check
  := by
  simp [Database.addMaster, Database.addMetadata, Database.metadata?, hm, MasterRecord.saltKey,
    MasterRecord.kdfKey, MasterRecord.paramsKey, MasterRecord.checkKey, List.lookup_cons]

/-- The first unlock of a database without metadata installs the key that is derived with a salt
which is drawn for it, and writes metadata only. -/
theorem exists_outcome_unlock (hm : device.database.metadata = [])
    (hp : Password.validate password device.settings.passwordFloor = .ok ()) :
  ∃ metadata, (unlock password).outcome device =
    (.ok (), { (device.withRandom ((device.random.advance 16).advance 12)).install
        (device.settings.strategy.derive password (device.random.next 16)) with
      database := { device.database with metadata := metadata } })
  := by
  have hr : MasterRecord.ofDatabase device.database = ⟨none, none, none, none⟩ := by
    simp [MasterRecord.ofDatabase, Database.metadata?, hm]
  have hs : (MasterRecord.ofDatabase device.database).strategy device.settings =
      .ok device.settings.strategy := by
    rw [hr]
    rfl
  have hc : (MasterRecord.ofDatabase device.database).chooseSalt device.random =
      .ok (device.random.next 16, device.random.advance 16) := by
    rw [hr]
    rfl
  have hcheck : (MasterRecord.ofDatabase device.database).check.isNone = true := by
    rw [hr]
    rfl
  rw [outcome_unlock hp, if_pos hcheck, outcome_initialiseMaster hs hc]
  dsimp only
  rw [if_pos (metadata?_addMaster hm ..)]
  obtain ⟨metadata, he⟩ := device.database.addMaster_eq (device.random.next 16)
    device.settings.strategy.params (MasterRecord.sealCheck
      (device.settings.strategy.derive password (device.random.next 16))
      ((device.random.advance 16).next 12))
  use metadata
  rw [he]
  rfl

/-- An unlock that succeeds has either opened the sealed value or made a first unlock. -/
theorem unlock_eq_ok {after : Device}
    (h : (unlock password).outcome device = (.ok (), after)) :
  (∃ key, (MasterRecord.ofDatabase device.database).openCheck device.settings password = .ok key ∧
      after = device.install key) ∨
    ∃ strategy salt random, (MasterRecord.ofDatabase device.database).check = none ∧
      (MasterRecord.ofDatabase device.database).strategy device.settings = .ok strategy ∧
      (MasterRecord.ofDatabase device.database).chooseSalt device.random = .ok (salt, random) ∧
      after = { (device.withRandom (random.advance 12)).install (strategy.derive password salt) with
        database := device.database.addMaster salt strategy.params
          (MasterRecord.sealCheck (strategy.derive password salt) (random.next 12)) }
  := by
  rcases hp : Password.validate password device.settings.passwordFloor with e' | ⟨⟩
  · rw [outcome_unlock_of_password hp] at h
    cases h
  rw [outcome_unlock hp] at h
  split at h
  next hcheck =>
    have hnone := Option.isNone_iff_eq_none.1 hcheck
    obtain ⟨e, hfails⟩ | ⟨strategy, salt, random, hs, hc⟩ :=
      initialiseMaster_fails_or (MasterRecord.ofDatabase device.database) password device
    · rw [hfails] at h
      cases h
    have hfirst : (initialiseMaster _ password).outcome device = _ := outcome_initialiseMaster hs hc
    dsimp only at hfirst
    split at hfirst
    · rw [hfirst] at h
      obtain ⟨-, rfl⟩ := Prod.mk.inj h
      exact .inr ⟨strategy, salt, random, hnone, hs, hc, rfl⟩
    · -- Nobody else has written a sealed value that could be opened instead.
      rw [hfirst] at h
      obtain ⟨key, hopen, -⟩ := reopen_eq_ok h
      rw [Device.database_withRandom, MasterRecord.openCheck_of_none hnone] at hopen
      cases hopen
  next => exact .inl (reopen_eq_ok h)

theorem unlock_isAtomic {γ : Type} (view : Device → γ)
    (hview : ∀ device random, view (device.withRandom random) = view device) (password : String) :
  (unlock password).IsAtomic view
  := by
  intro device e after h
  rcases hp : Password.validate password device.settings.passwordFloor with e' | ⟨⟩
  · rw [outcome_unlock_of_password hp] at h
    obtain ⟨-, rfl⟩ := Prod.mk.inj h
    rfl
  rw [outcome_unlock hp] at h
  split at h
  · obtain ⟨e', hm⟩ | ⟨random, hm⟩ | ⟨key, random, d, hm⟩ :=
      initialiseMaster_cases (MasterRecord.ofDatabase device.database) password device
    · rw [hm] at h
      obtain ⟨-, rfl⟩ := Prod.mk.inj h
      rfl
    · rw [hm] at h
      apply Eq.trans (reopen_isAtomic password _ e after h)
      apply hview
    · rw [hm] at h
      cases h
  · apply reopen_isAtomic password device e after h

end Action

end Keyring

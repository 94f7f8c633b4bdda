import Keyring.Proofs.Store.KeyPairs
import Keyring.Proofs.Store.Parses
import Keyring.Proofs.Store.Reopening

/-!
# Recorded cost

What is sealed under a password has the cost of the derivation recorded beside it.  Whatever cost a
store is configured with, a cost of its algorithm that is in range leads it to the same key, and a cost
that an operation has recorded is in range: every store of that algorithm opens with it, and takes it
over from a backup.
-/

namespace Keyring

/-! ### The range of a cost -/

namespace KdfParams

variable {p : KdfParams}

/-- Whether no parameter is above its upper bound or below the least value with which its algorithm is
defined. -/
def IsInRange : KdfParams → Prop
  | .argon2id memoryKib iterations parallelism =>
    8 ≤ memoryKib ∧ 8 * parallelism.toNat ≤ memoryKib.toNat ∧ memoryKib ≤ maxMemoryKib ∧
    1 ≤ iterations ∧ iterations ≤ maxIterations ∧ 1 ≤ parallelism ∧ parallelism ≤ maxParallelism
  | .pbkdf2 rounds => 1 ≤ rounds ∧ rounds ≤ maxRounds

theorem shortfall?_argon2id_eq_none_iff {memoryKib iterations parallelism : UInt32} :
  (argon2id memoryKib iterations parallelism).shortfall? = none ↔
    8 ≤ memoryKib ∧ 8 * parallelism.toNat ≤ memoryKib.toNat ∧ 1 ≤ iterations ∧ 1 ≤ parallelism
  := by
  simp only [shortfall?, UInt32.lt_iff_toNat_lt, UInt32.le_iff_toNat_le, UInt32.reduceToNat,
    Bool.or_eq_true, decide_eq_true_iff, ite_eq_iff, reduceCtorEq, and_false, false_or, and_true]
  omega

theorem shortfall?_pbkdf2_eq_none_iff {rounds : UInt32} :
  (pbkdf2 rounds).shortfall? = none ↔ 1 ≤ rounds
  := by
  simp only [shortfall?, UInt32.le_iff_toNat_le, UInt32.reduceToNat, ← UInt32.toNat_inj, ite_eq_iff,
    reduceCtorEq, and_false, false_or, and_true]
  omega

/-- Keys can be derived with exactly the costs in range. -/
theorem isUsable_iff :
  p.isUsable = true ↔ p.IsInRange
  := by
  rw [isUsable, Bool.and_eq_true, Option.isNone_iff_eq_none]
  cases p with
  | argon2id memoryKib iterations parallelism =>
    rw [shortfall?_argon2id_eq_none_iff, isWithinBounds, IsInRange]
    simp only [Bool.and_eq_true, decide_eq_true_iff]
    tauto
  | pbkdf2 rounds =>
    rw [shortfall?_pbkdf2_eq_none_iff, isWithinBounds, decide_eq_true_iff, IsInRange, and_comm]

theorem checkBounds_of_isInRange (h : p.IsInRange) :
  p.checkBounds = .ok ()
  := by
  rw [← isUsable_iff, isUsable, Bool.and_eq_true] at h
  rw [checkBounds, if_pos h.1]

/-- A cost builds exactly if it is in range. -/
theorem exists_build_iff :
  (∃ built, p.build = .ok built) ↔ p.IsInRange
  := by
  simp only [build_eq_ok_iff, ← isUsable_iff]
  constructor
  · rintro ⟨built, rfl⟩
    exact built.isUsable
  · intro h
    exact ⟨⟨p, h⟩, rfl⟩

end KdfParams

/-! ### Opening with a recorded cost -/

namespace Settings

variable {settings : Settings} {p : KdfParams}

/-- A store that opens has the algorithm of its configuration. -/
theorem algorithm_of_ofConfig {c : StoreConfig} (h : ofConfig c = .ok settings) :
  settings.strategy.algorithm = c.kdf.algorithm
  := by
  obtain ⟨strategy, hstrategy, hsettings⟩ := Except.bind_eq_ok_iff.1 h
  cases hsettings
  obtain hparams := KdfParams.build_eq_ok_iff.1 (Except.mapError_eq_ok_iff.1 hstrategy)
  rw [Strategy.algorithm, hparams, KdfConfig.params]
  cases c.kdf.algorithm with
  | argon2id => rfl
  | pbkdf2 => rfl

/-- A recorded cost leads to a strategy exactly if it is one of the configured algorithm, and in
range. -/
theorem exists_strategyFor_iff :
  (∃ strategy, settings.strategyFor (some p) = .ok strategy) ↔
    p.algorithm = settings.strategy.algorithm ∧ p.IsInRange
  := by
  simp only [strategyFor_eq_ok_iff]
  rw [← KdfParams.exists_build_iff]
  constructor
  · rintro ⟨strategy, rfl, halgorithm⟩
    exact ⟨halgorithm, strategy, KdfParams.build_eq_ok_iff.2 rfl⟩
  · rintro ⟨halgorithm, built, hbuilt⟩
    obtain rfl := KdfParams.build_eq_ok_iff.1 hbuilt
    exact ⟨built, rfl, halgorithm⟩

/-- Where a recorded cost leads nowhere, the record is called malformed. -/
theorem exists_strategyFor_eq_format_iff :
  (∃ reason, settings.strategyFor (some p) = .error (.format reason)) ↔
    p.algorithm ≠ settings.strategy.algorithm ∨ ¬p.IsInRange
  := by
  rw [← not_and_or, ← exists_strategyFor_iff]
  constructor
  · rintro ⟨reason, herror⟩ ⟨strategy, hok⟩
    rw [herror] at hok
    cases hok
  · intro hnot
    rcases h : settings.strategyFor (some p) with e | strategy
    · obtain ⟨reason, rfl⟩ := strategyFor_failsOnly settings (some p) e h
      exact ⟨reason, rfl⟩
    · exact absurd ⟨strategy, h⟩ hnot

end Settings

/-! ### Costs that are recorded -/

/-- Whether an operation on a device can seal something under a password and record a cost beside
it. -/
inductive Device.SealsWith (device : Device) (p : KdfParams) : Prop where
  /-- A key pair, with the cost in its row. -/
  | keyPair (id : String) (pair : KeyPair) (password : String) (after : Device) (row : KeyPairRow)
    (h : (Operation.storeKeyPair id pair password).outcome device = (.ok (), after))
    (hrow : after.database.keyPair? id = some row)
    (hp : row.kdfParams.bind KdfParams.ofText? = some p)
  /-- A backup, with the cost in its envelope. -/
  | backup (password : String) (backup : EncryptedBackup) (after : Device)
    (h : (Operation.createBackup password).outcome device = (.ok backup, after))
    (hp : backup.kdfParams = some p)
  /-- The known value of a first unlock, with the cost among the metadata. -/
  | master (password : String) (after : Device)
    (hcheck : (MasterRecord.ofDatabase device.database).check = none)
    (h : (Operation.unlock password).outcome device = (.ok (), after))
    (hp : (MasterRecord.ofDatabase after.database).params.bind KdfParams.ofText? = some p)

/-- A key pair is sealed with the configured cost. -/
theorem Device.sealsWith_of_storeKeyPair {device : Device} {id password : String} (pair : KeyPair)
    (hid : id ≠ "") (hp : Password.validate password device.settings.passwordFloor = .ok ()) :
  device.SealsWith device.settings.strategy.params
  := by
  apply SealsWith.keyPair id pair password _ _ (Action.storeKeyPair_eq_ok_iff.2 ⟨hid, hp, rfl⟩)
  · rw [Database.keyPair?_putKeyPair, if_pos]
    rfl
  · exact KdfParams.ofText?_text _

/-- A first unlock records the cost of its strategy, or finds it recorded. -/
theorem MasterRecord.params_addMaster {d : Database} {settings : Settings} {strategy : Strategy}
    {p : KdfParams} (h : (ofDatabase d).strategy settings = .ok strategy) {salt : Salt} {check : String}
    (hp : (ofDatabase (d.addMaster salt strategy.params check)).params.bind KdfParams.ofText? =
      some p) :
  strategy.params = p
  := by
  rw [ofDatabase_addMaster] at hp
  obtain ⟨-, params?, hread, hstrategy⟩ := strategy_eq_ok_iff.1 h
  rcases htext : (ofDatabase d).params with _ | text
  · simpa [htext, KdfParams.ofText?_text] using hp
  · simp only [htext, Option.some_or, Option.bind_some] at hp
    simp only [htext, Row.readParams, hp] at hread
    cases hread
    exact (Settings.strategyFor_eq_ok_iff.1 hstrategy).1

/-- A cost that is recorded is that of a strategy of the configured algorithm. -/
theorem Device.SealsWith.exists_strategy {device : Device} {p : KdfParams} (h : device.SealsWith p) :
  ∃ strategy : Strategy, strategy.params = p ∧
    strategy.algorithm = device.settings.strategy.algorithm
  := by
  cases h with
  | keyPair id pair password after row h hrow hp =>
    obtain ⟨-, -, rfl⟩ := Action.storeKeyPair_eq_ok_iff.1 h
    dsimp only at hrow
    rw [Database.keyPair?_putKeyPair, if_pos] at hrow
    · cases hrow
      have hparams : KdfParams.ofText? device.settings.strategy.params.text = some p := hp
      rw [KdfParams.ofText?_text] at hparams
      exact ⟨_, Option.some.inj hparams, rfl⟩
    · rfl
  | backup password backup after h hp =>
    obtain ⟨payload, -, -, rfl, -⟩ := Action.createBackup_eq_ok_iff.1 h
    exact ⟨_, Option.some.inj hp, rfl⟩
  | master password after hcheck h hp =>
    obtain ⟨key, hopen, -⟩ | ⟨strategy, salt, random, -, hstrategy, -, rfl⟩ := Action.unlock_eq_ok h
    · rw [MasterRecord.openCheck_of_none hcheck] at hopen
      cases hopen
    · exact ⟨strategy, MasterRecord.params_addMaster hstrategy hp,
        MasterRecord.algorithm_eq_of_strategy hstrategy⟩

/-- A key pair of a backup with a cost of its algorithm and within the upper bounds is taken over. -/
theorem BackupPayload.validateKeyPair_of_checkBounds {k : StoredKeyPair} {p : KdfParams}
    (hid : k.id ≠ "") (hp : k.kdfParams = some p) (halgorithm : p.algorithm = k.kdf)
    (hbounds : p.checkBounds = .ok ()) :
  validateKeyPair k = .ok ()
  := by
  have hempty : k.id.isEmpty = false := by simpa using hid
  simp [validateKeyPair, hempty, hp, halgorithm, hbounds]

/-- A cost builds exactly if it is in range, and gives a strategy with that cost and its algorithm.
Whatever a store is configured with, the cost leads it nowhere, and the record is called malformed,
exactly if the algorithm is another one or the cost does not build; otherwise it leads to a strategy
that derives the same keys as the one that is built.  A cost that is recorded beside something sealed
leads every store that opens with the same algorithm to a strategy with that cost, and a key pair that
carries it is taken over from a backup. -/
theorem recorded_cost_reproduces_key (p : KdfParams) :
  ((∃ built, p.build = .ok built) ↔ p.IsInRange) ∧
  (∀ built, p.build = .ok built → built.params = p ∧ built.algorithm = p.algorithm) ∧
  (∀ settings : Settings,
    ((∃ reason, settings.strategyFor (some p) = .error (.format reason)) ↔
      p.algorithm ≠ settings.strategy.algorithm ∨ ¬∃ built, p.build = .ok built) ∧
    (p.algorithm = settings.strategy.algorithm → ∀ built, p.build = .ok built →
      ∃ strategy, settings.strategyFor (some p) = .ok strategy ∧
        ∀ password salt, strategy.derive password salt = built.derive password salt)) ∧
  ∀ device : Device, device.SealsWith p →
    (∀ c settings, Settings.ofConfig c = .ok settings → c.kdf.algorithm = p.algorithm →
      ∃ strategy, settings.strategyFor (some p) = .ok strategy ∧ strategy.params = p) ∧
    ∀ k : StoredKeyPair, k.id ≠ "" → k.kdf = p.algorithm → k.kdfParams = some p →
      BackupPayload.validateKeyPair k = .ok ()
  := by
  refine ⟨KdfParams.exists_build_iff, ?_, ?_, ?_⟩
  · intro built hbuilt
    obtain rfl := KdfParams.build_eq_ok_iff.1 hbuilt
    exact ⟨rfl, rfl⟩
  · intro settings
    rw [KdfParams.exists_build_iff]
    refine ⟨Settings.exists_strategyFor_eq_format_iff, ?_⟩
    intro halgorithm built hbuilt
    obtain rfl := KdfParams.build_eq_ok_iff.1 hbuilt
    exact ⟨built, Settings.strategyFor_params halgorithm, fun _ _ => rfl⟩
  · intro device hseals
    obtain ⟨strategy, rfl, -⟩ := hseals.exists_strategy
    constructor
    · intro c settings hsettings halgorithm
      have h := (Settings.algorithm_of_ofConfig hsettings).trans halgorithm
      exact ⟨strategy, Settings.strategyFor_params h.symm, rfl⟩
    · intro k hid hkdf hp
      have hrange := KdfParams.isUsable_iff.1 strategy.isUsable
      exact BackupPayload.validateKeyPair_of_checkBounds hid hp hkdf.symm
        (KdfParams.checkBounds_of_isInRange hrange)

/-- The sample device stores a key pair with the default cost.  A store that is configured with less
memory opens with the cost that was recorded. -/
theorem recorded_cost_reproduces_key_sample :
  (Device.sample .empty).SealsWith KdfConfig.standard.params ∧
    ∃ settings strategy, Settings.ofConfig ⟨⟨.argon2id, 16, 1, 1, 1⟩, 12, 0⟩ = .ok settings ∧
      settings.strategyFor (some KdfConfig.standard.params) = .ok strategy ∧
      strategy.params = KdfConfig.standard.params
  := by
  have hid : "me" ≠ "" := by decide
  have hpassword : Password.validate "password" (Device.sample .empty).settings.passwordFloor =
    .ok () := rfl
  have hseals := Device.sealsWith_of_storeKeyPair ⟨.zero 32⟩ hid hpassword
  have hopen : Settings.ofConfig ⟨⟨.argon2id, 16, 1, 1, 1⟩, 12, 0⟩ =
    .ok (Device.retuned .empty).settings := rfl
  obtain ⟨-, -, -, hrecorded⟩ := recorded_cost_reproduces_key KdfConfig.standard.params
  obtain ⟨strategy, hstrategy, hparams⟩ := (hrecorded _ hseals).1 _ _ hopen rfl
  exact ⟨hseals, _, strategy, hopen, hstrategy, hparams⟩

end Keyring

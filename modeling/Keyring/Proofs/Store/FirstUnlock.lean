import Keyring.Proofs.Store.Backup

/-!
# One master password

The first unlock writes its four entries together, and they stay as they are from then on: another
first unlock finds them there and leaves them, even if it had read the metadata before, and nothing
else writes to the metadata.  A later unlock takes salt and cost from the entries, whatever cost is
configured, so that the first password leads to the first key again.
-/

namespace Keyring

/-- The strategy for a given cost is one of the configured algorithm. -/
theorem Settings.algorithm_eq_of_strategyFor {settings : Settings} {params? : Option KdfParams}
    {strategy : Strategy} (h : settings.strategyFor params? = .ok strategy) :
  strategy.algorithm = settings.strategy.algorithm
  := by
  rcases params? with _ | p
  · cases h
    rfl
  · rw [strategyFor] at h
    by_cases ha : p.algorithm = settings.strategy.algorithm
    · rw [if_neg (not_not_intro ha)] at h
      by_cases hp : p = settings.strategy.params
      · rw [if_pos hp] at h
        cases h
        rfl
      · rw [if_neg hp, Except.mapError_eq_ok_iff, KdfParams.build_eq_ok_iff] at h
        rw [← ha, ← h]
        rfl
    · rw [if_pos ha] at h
      cases h

/-! ### The entries -/

namespace MasterRecord

@[simp]
theorem decodeSalt_encode (salt : Salt) :
  decodeSalt (Base64.encode salt.bytes) = .ok salt
  := by
  rw [decodeSalt, Base64.decode_encode]
  simp [bind, Except.bind, pure, Except.pure]

@[simp]
theorem decodeCheck_sealCheck (key : Key) (iv : Gcm.Iv) :
  decodeCheck (sealCheck key iv) =
    .ok (.ofPlaintext key iv Purpose.masterCheck.associatedData checkText)
  := by
  rw [decodeCheck, sealCheck, Base64.decode_encode]
  simp [bind, Except.bind, pure, Except.pure]

/-- The entries that a first unlock writes. -/
def entries (strategy : Strategy) (salt : Salt) (check : String) : List (String × String) :=
  [(saltKey, Base64.encode salt.bytes), (kdfKey, strategy.params.algorithm.name),
    (paramsKey, strategy.params.text), (checkKey, check)]

variable {d : Database} {strategy : Strategy} {salt : Salt} {check : String}

theorem ofDatabase_of_entries (h : d.metadata = entries strategy salt check) :
  ofDatabase d = ⟨some (Base64.encode salt.bytes), some strategy.params.algorithm.name,
    some strategy.params.text, some check⟩
  := by
  simp [ofDatabase, Database.metadata?, h, entries, saltKey, kdfKey, paramsKey, checkKey,
    List.lookup_cons]

/-- A first unlock writes all of its entries where there are none. -/
theorem addMaster_of_nil (h : d.metadata = []) (strategy : Strategy) (salt : Salt) (check : String) :
  d.addMaster salt strategy.params check = { d with metadata := entries strategy salt check }
  := by
  simp [Database.addMaster, Database.addMetadata, Database.metadata?, h, entries, saltKey, kdfKey,
    paramsKey, checkKey, List.lookup_cons]

/-- It leaves the entries of another one. -/
theorem addMaster_of_entries (h : d.metadata = entries strategy salt check) (salt' : Salt)
    (params : KdfParams) (check' : String) :
  d.addMaster salt' params check' = d
  := by
  simp [Database.addMaster, Database.addMetadata, Database.metadata?, h, entries, saltKey, kdfKey,
    paramsKey, checkKey, List.lookup_cons]

/-- The strategy of a record is one of the configured algorithm. -/
theorem algorithm_eq_of_strategy {r : MasterRecord} {settings : Settings} {strategy : Strategy}
    (h : r.strategy settings = .ok strategy) :
  strategy.algorithm = settings.strategy.algorithm
  := by
  have hstrategy : ∃ params?, settings.strategyFor params? = .ok strategy := by
    rw [MasterRecord.strategy] at h
    split at h
    · split at h
      · obtain ⟨_, h', -⟩ := Except.bind_eq_ok_iff.1 h
        cases h'
      · obtain ⟨params?, -, h⟩ := Except.bind_eq_ok_iff.1 h
        exact ⟨params?, h⟩
    · obtain ⟨params?, -, h⟩ := Except.bind_eq_ok_iff.1 h
      exact ⟨params?, h⟩
  obtain ⟨params?, hparams⟩ := hstrategy
  exact Settings.algorithm_eq_of_strategyFor hparams

/-- The strategy of a first unlock is found again by its entries, whatever cost is configured. -/
theorem strategy_of_entries {settings : Settings} (h : d.metadata = entries strategy salt check)
    (ha : strategy.algorithm = settings.strategy.algorithm) :
  (ofDatabase d).strategy settings = .ok strategy
  := by
  have hname : strategy.params.algorithm.name = settings.strategy.algorithm.name :=
    congrArg KdfAlgorithm.name ha
  have hparams := Row.readParams_map_text "the master key" (some strategy.params)
  rw [Option.map_some] at hparams
  rw [ofDatabase_of_entries h, MasterRecord.strategy]
  simp only [hname, ne_eq, not_true_eq_false, if_false, hparams, Except.ok_bind,
    Settings.strategyFor_params ha]

/-- What opens the sealed value of a first unlock is the key that its salt and cost give. -/
theorem openCheck_of_entries {settings : Settings} {key : Key} {iv : Gcm.Iv}
    (h : d.metadata = entries strategy salt (sealCheck key iv))
    (ha : strategy.algorithm = settings.strategy.algorithm) (password : String) :
  (ofDatabase d).openCheck settings password =
    match (Sealed.ofPlaintext key iv Purpose.masterCheck.associatedData checkText).plaintext
      (strategy.derive password salt) Purpose.masterCheck.associatedData with
    | .ok _ => .ok (strategy.derive password salt)
    | .error _ => .error .decryption
  := by
  have hstrategy := strategy_of_entries h ha
  rw [ofDatabase_of_entries h] at hstrategy ⊢
  simp only [openCheck, pure_bind, decodeSalt_encode, decodeCheck_sealCheck, hstrategy,
    Except.ok_bind]
  generalize (Sealed.ofPlaintext key iv Purpose.masterCheck.associatedData checkText).plaintext
    (strategy.derive password salt) Purpose.masterCheck.associatedData = opened
  cases opened with
  | ok text => rfl
  | error e => rfl

end MasterRecord

namespace Database

/-- Whether the sealed value in the metadata opens under a key. -/
def Authenticates (d : Database) (key : Key) : Prop :=
  ∃ check sealed text, d.metadata? MasterRecord.checkKey = some check ∧
    MasterRecord.decodeCheck check = .ok sealed ∧
    sealed.plaintext key Purpose.masterCheck.associatedData = .ok text

/-- The sealed value opens under the key that it was sealed under. -/
theorem authenticates_of_entries {d : Database} {strategy : Strategy} {salt : Salt} {key : Key}
    {iv : Gcm.Iv} (h : d.metadata = MasterRecord.entries strategy salt (MasterRecord.sealCheck key iv)) :
  d.Authenticates key
  := by
  have hcheck := congrArg MasterRecord.check (MasterRecord.ofDatabase_of_entries h)
  exact ⟨_, _, _, hcheck, MasterRecord.decodeCheck_sealCheck key iv,
    Sealed.plaintext_ofPlaintext ..⟩

/-- The sealed value opens under every key that it is found to open under. -/
theorem authenticates_of_openCheck {d : Database} {settings : Settings} {password : String}
    {key : Key} (h : (MasterRecord.ofDatabase d).openCheck settings password = .ok key) :
  d.Authenticates key
  := by
  generalize hr : MasterRecord.ofDatabase d = r at h
  rcases hcheck : r.check with _ | check
  · rw [MasterRecord.openCheck_of_none hcheck] at h
    cases h
  rcases hsalt : r.salt with _ | salt
  · simp [MasterRecord.openCheck, hcheck, hsalt] at h
  simp only [MasterRecord.openCheck, hcheck, hsalt, pure_bind] at h
  obtain ⟨salt, -, h⟩ := Except.bind_eq_ok_iff.1 h
  obtain ⟨sealed, hsealed, h⟩ := Except.bind_eq_ok_iff.1 h
  obtain ⟨strategy, -, h⟩ := Except.bind_eq_ok_iff.1 h
  have hmetadata : d.metadata? MasterRecord.checkKey = some check := by
    rw [← hcheck, ← hr]
    rfl
  split at h
  next text htext =>
    cases h
    exact ⟨check, sealed, text, hmetadata, hsealed, htext⟩
  next => cases h

/-- Whether the metadata are the entries of a first unlock with an algorithm. -/
def HasMaster (a : KdfAlgorithm) (d : Database) : Prop :=
  ∃ strategy salt key iv, strategy.algorithm = a ∧
    d.metadata = MasterRecord.entries strategy salt (MasterRecord.sealCheck key iv)

end Database

/-! ### First unlocks at the same time -/

namespace Action

open ExceptT

/-- A first unlock that goes by metadata which may have been written in the meantime. -/
def unlockFrom (r : MasterRecord) (password : String) : Action Unit := do
  match ← initialiseMaster r password with
  | some key => onSession (SessionAction.install key)
  | none => reopen password

variable {device : Device} {strategy : Strategy} {salt : Salt} {key : Key} {iv : Gcm.Iv}

/-- An unlock that finds no sealed value is one that goes by the metadata as they are. -/
theorem outcome_unlock_of_none {password : String}
    (hp : Password.validate password device.settings.passwordFloor = .ok ())
    (hnone : (MasterRecord.ofDatabase device.database).check = none) :
  (unlock password).outcome device =
    (unlockFrom (MasterRecord.ofDatabase device.database) password).outcome device
  := by
  rw [outcome_unlock hp, if_pos (Option.isNone_iff_eq_none.2 hnone), unlockFrom, outcome_bind]
  rcases (initialiseMaster (MasterRecord.ofDatabase device.database) password).outcome device with
    ⟨e | _ | key, after⟩
  · rfl
  · rfl
  · rfl

/-- Where there are no metadata, a first unlock fails or writes its entries, whatever metadata it
goes by. -/
theorem outcome_unlockFrom_of_nil (h : device.database.metadata = []) (r : MasterRecord)
    (password : String) :
  (∃ e, (unlockFrom r password).outcome device = (.error e, device)) ∨
    ∃ strategy salt iv random, strategy.algorithm = device.settings.strategy.algorithm ∧
      (unlockFrom r password).outcome device =
        (.ok (), { (device.withRandom random).install (strategy.derive password salt) with
          database := { device.database with
            metadata := MasterRecord.entries strategy salt
              (MasterRecord.sealCheck (strategy.derive password salt) iv) } })
  := by
  obtain ⟨e, hfails⟩ | ⟨strategy, salt, random, hs, hc⟩ := initialiseMaster_fails_or r password device
  · exact .inl ⟨e, outcome_bind_of_error hfails _⟩
  right
  refine ⟨strategy, salt, random.next 12, random.advance 12,
    MasterRecord.algorithm_eq_of_strategy hs, ?_⟩
  have hfirst : (initialiseMaster r password).outcome device = _ := outcome_initialiseMaster hs hc
  dsimp only at hfirst
  rw [if_pos (metadata?_addMaster h ..), MasterRecord.addMaster_of_nil h] at hfirst
  exact outcome_bind_of_ok hfirst _

/-- Where there are the entries of a first unlock, another one leaves the database, whatever
metadata it goes by; if it succeeds, the sealed value opens under the key that it installs. -/
theorem outcome_unlockFrom_of_entries
    (h : device.database.metadata = MasterRecord.entries strategy salt
      (MasterRecord.sealCheck key iv)) (r : MasterRecord) (password : String) :
  (∃ e random, (unlockFrom r password).outcome device = (.error e, device.withRandom random)) ∨
    ∃ key random, device.database.Authenticates key ∧
      (unlockFrom r password).outcome device = (.ok (), (device.withRandom random).install key)
  := by
  obtain ⟨e, hfails⟩ | ⟨strategy', salt', random, hs, hc⟩ :=
    initialiseMaster_fails_or r password device
  · exact .inl ⟨e, device.random, outcome_bind_of_error hfails _⟩
  have hfirst : (initialiseMaster r password).outcome device = _ := outcome_initialiseMaster hs hc
  dsimp only at hfirst
  rw [MasterRecord.addMaster_of_entries h] at hfirst
  by_cases hcheck : device.database.metadata? MasterRecord.checkKey =
    some (MasterRecord.sealCheck (strategy'.derive password salt') (random.next 12))
  · right
    rw [if_pos hcheck] at hfirst
    exact ⟨strategy'.derive password salt', random.advance 12,
      ⟨_, _, _, hcheck, MasterRecord.decodeCheck_sealCheck .., Sealed.plaintext_ofPlaintext ..⟩,
      outcome_bind_of_ok hfirst _⟩
  · rw [if_neg hcheck] at hfirst
    have hreopen := outcome_reopen password (device.withRandom (random.advance 12))
    rcases hopen : (MasterRecord.ofDatabase device.database).openCheck device.settings password with
      e | opened
    · left
      simp only [Device.database_withRandom, Device.settings_withRandom, hopen] at hreopen
      exact ⟨e, random.advance 12, (outcome_bind_of_ok hfirst _).trans hreopen⟩
    · right
      simp only [Device.database_withRandom, Device.settings_withRandom, hopen] at hreopen
      exact ⟨opened, random.advance 12, Database.authenticates_of_openCheck hopen,
        (outcome_bind_of_ok hfirst _).trans hreopen⟩

/-- Where there are the entries of a first unlock with a password, an unlock with that password
succeeds and installs the key of the first one, unless the password is too short by now. -/
theorem outcome_unlock_of_entries {password : String}
    (h : device.database.metadata = MasterRecord.entries strategy salt
      (MasterRecord.sealCheck (strategy.derive password salt) iv))
    (ha : strategy.algorithm = device.settings.strategy.algorithm) :
  (unlock password).outcome device =
    match Password.validate password device.settings.passwordFloor with
    | .ok () => (.ok (), device.install (strategy.derive password salt))
    | .error e => (.error (.ofCrypto e), device)
  := by
  rcases hp : Password.validate password device.settings.passwordFloor with e | ⟨⟩
  · exact outcome_unlock_of_password hp
  · have hcheck := congrArg MasterRecord.check (MasterRecord.ofDatabase_of_entries h)
    have hnone : ¬(MasterRecord.ofDatabase device.database).check.isNone := by
      rw [hcheck]
      exact Bool.false_ne_true
    rw [outcome_unlock hp, if_neg hnone, outcome_reopen, MasterRecord.openCheck_of_entries h ha,
      Sealed.plaintext_ofPlaintext]

/-- A first unlock that succeeds installs a key under which the sealed value opens, whatever metadata
it goes by. -/
theorem authenticates_of_unlockFrom {r : MasterRecord} {password : String} {after : Device}
    (h : device.database.metadata = [] ∨
      device.database.HasMaster device.settings.strategy.algorithm)
    (hunlock : (unlockFrom r password).outcome device = (.ok (), after)) :
  ∃ key, after.key? = some key ∧ after.database.Authenticates key
  := by
  obtain h | ⟨_, _, _, _, -, h⟩ := h
  · obtain ⟨e, he⟩ | ⟨strategy, salt, iv, random, -, he⟩ := outcome_unlockFrom_of_nil h r password
    · cases he.symm.trans hunlock
    · cases he.symm.trans hunlock
      exact ⟨_, Device.key?_install .., Database.authenticates_of_entries rfl⟩
  · obtain ⟨e, random, he⟩ | ⟨key, random, hkey, he⟩ := outcome_unlockFrom_of_entries h r password
    · cases he.symm.trans hunlock
    · cases he.symm.trans hunlock
      exact ⟨key, Device.key?_install .., hkey⟩

/-- So does every unlock. -/
theorem authenticates_of_unlock {password : String} {after : Device}
    (h : device.database.metadata = [] ∨
      device.database.HasMaster device.settings.strategy.algorithm)
    (hunlock : (unlock password).outcome device = (.ok (), after)) :
  ∃ key, after.key? = some key ∧ after.database.Authenticates key
  := by
  rcases hp : Password.validate password device.settings.passwordFloor with e | ⟨⟩
  · rw [outcome_unlock_of_password hp] at hunlock
    cases hunlock
  · obtain ⟨key, hopen, rfl⟩ | ⟨_, _, _, hnone, -⟩ := unlock_eq_ok hunlock
    · exact ⟨key, Device.key?_install .., Database.authenticates_of_openCheck hopen⟩
    · rw [outcome_unlock_of_none hp hnone] at hunlock
      exact authenticates_of_unlockFrom h hunlock

end Action

/-! ### What other operations do -/

/-- An operation leaves the metadata as they are, unless it is a first unlock. -/
theorem Operation.Effect.metadata_cases {α : Type} {op : Operation α} {device : Device}
    {d : Database} (h : Effect op device d) :
  d.metadata = device.database.metadata ∨
    ∃ (strategy : Strategy) (salt : Salt) (key : Key) (iv : Gcm.Iv),
      (MasterRecord.ofDatabase device.database).check = none ∧
      strategy.algorithm = device.settings.strategy.algorithm ∧
      d = device.database.addMaster salt strategy.params (MasterRecord.sealCheck key iv)
  := by
  cases h with
  | nothing => exact .inl rfl
  | storeKeyPair => exact .inl rfl
  | deleteKeyPair => exact .inl rfl
  | storeConversationKey => exact .inl rfl
  | deleteConversationKey => exact .inl rfl
  | rotateConversationKey => exact .inl rfl
  | unlock password _ strategy salt random hnone hstrategy =>
    right
    exact ⟨strategy, salt, _, _, hnone, MasterRecord.algorithm_eq_of_strategy hstrategy, rfl⟩
  | restoreBackup => exact .inl (Database.metadata_merge ..)
  | clearAll => exact .inl rfl

/-! ### Runs -/

namespace Database

/-- What devices with one algorithm have made of a database, by operations and by first unlocks
that go by metadata of any time. -/
inductive MasterRun (a : KdfAlgorithm) (d : Database) : Database → Prop where
  | start : MasterRun a d d
  | step {α : Type} (op : Operation α) (device : Device) (h : MasterRun a d device.database)
    (ha : device.settings.strategy.algorithm = a) : MasterRun a d (op.outcome device).2.database
  | unlockFrom (r : MasterRecord) (password : String) (device : Device)
    (h : MasterRun a d device.database) (ha : device.settings.strategy.algorithm = a) :
    MasterRun a d ((Action.unlockFrom r password).outcome device).2.database

variable {a : KdfAlgorithm} {d d' : Database}

/-- There are no metadata, or the entries of one first unlock. -/
theorem MasterRun.hasMaster (h : MasterRun a d d') (hd : d.metadata = []) :
  d'.metadata = [] ∨ d'.HasMaster a
  := by
  induction h with
  | start => exact .inl hd
  | step op device _ ha ih =>
    obtain hsame | ⟨strategy, salt, key, iv, hnone, hs, he⟩ := (op.effect device).metadata_cases
    · rw [HasMaster, hsame]
      exact ih
    · right
      obtain hm | ⟨_, _, _, _, -, hm⟩ := ih
      · refine ⟨strategy, salt, key, iv, hs.trans ha, ?_⟩
        rw [he, MasterRecord.addMaster_of_nil hm]
      · rw [MasterRecord.ofDatabase_of_entries hm] at hnone
        cases hnone
  | unlockFrom r password device _ ha ih =>
    obtain hm | ⟨strategy, salt, key, iv, hs, hm⟩ := ih
    · obtain ⟨e, he⟩ | ⟨strategy, salt, iv, random, hs, he⟩ :=
        Action.outcome_unlockFrom_of_nil hm r password
      · rw [he]
        exact .inl hm
      · rw [he]
        exact .inr ⟨strategy, salt, _, iv, hs.trans ha, rfl⟩
    · right
      obtain ⟨e, random, he⟩ | ⟨_, random, -, he⟩ :=
        Action.outcome_unlockFrom_of_entries hm r password
      · rw [he]
        exact ⟨strategy, salt, key, iv, hs, hm⟩
      · rw [he]
        exact ⟨strategy, salt, key, iv, hs, hm⟩

/-- The entries of a first unlock stay. -/
theorem MasterRun.metadata_eq {strategy : Strategy} {salt : Salt} {key : Key} {iv : Gcm.Iv}
    (h : MasterRun a d d')
    (hd : d.metadata = MasterRecord.entries strategy salt (MasterRecord.sealCheck key iv)) :
  d'.metadata = d.metadata
  := by
  induction h with
  | start => rfl
  | step op device _ _ ih =>
    obtain hsame | ⟨_, _, _, _, hnone, -⟩ := (op.effect device).metadata_cases
    · exact hsame.trans ih
    · rw [MasterRecord.ofDatabase_of_entries (ih.trans hd)] at hnone
      cases hnone
  | unlockFrom r password device _ _ ih =>
    obtain ⟨e, random, he⟩ | ⟨_, random, -, he⟩ :=
      Action.outcome_unlockFrom_of_entries (ih.trans hd) r password
    · rw [he]
      exact ih
    · rw [he]
      exact ih

end Database

/-- On a database that started empty, an unlock that succeeds installs a key under which the sealed
value in the metadata opens, and so does a first unlock that goes by metadata of an earlier time.
After a first unlock the metadata never change, and every later unlock with the same password
installs the same key, unless the password is too short for the settings of its device. -/
theorem master_password_is_fixed {a : KdfAlgorithm} {device : Device}
    (hrun : Database.MasterRun a .empty device.database)
    (ha : device.settings.strategy.algorithm = a) :
  (∀ password after, (Operation.unlock password).outcome device = (.ok (), after) →
    ∃ key, after.key? = some key ∧ after.database.Authenticates key) ∧
  (∀ r password after, (Action.unlockFrom r password).outcome device = (.ok (), after) →
    ∃ key, after.key? = some key ∧ after.database.Authenticates key) ∧
  ∀ password after, (MasterRecord.ofDatabase device.database).check = none →
    (Operation.unlock password).outcome device = (.ok (), after) →
      ∃ key, after.key? = some key ∧ ∀ later : Device,
        Database.MasterRun a after.database later.database →
        later.settings.strategy.algorithm = a →
          later.database.metadata = after.database.metadata ∧
          (Operation.unlock password).outcome later =
            match Password.validate password later.settings.passwordFloor with
            | .ok () => (.ok (), later.install key)
            | .error e => (.error (.ofCrypto e), later)
  := by
  have hmaster := hrun.hasMaster rfl
  rw [← ha] at hmaster
  refine ⟨?_, ?_, ?_⟩
  · intro password after hunlock
    exact Action.authenticates_of_unlock hmaster hunlock
  · intro r password after hunlock
    exact Action.authenticates_of_unlockFrom hmaster hunlock
  · intro password after hnone hunlock
    obtain hm | ⟨_, _, _, _, -, hm⟩ := hmaster
    · obtain ⟨key, hopen, -⟩ | ⟨strategy, salt, random, -, hstrategy, -, rfl⟩ :=
        Action.unlock_eq_ok hunlock
      · rw [MasterRecord.openCheck_of_none hnone] at hopen
        cases hopen
      · refine ⟨strategy.derive password salt, Device.key?_install .., ?_⟩
        intro later hlater halgorithm
        have hs := MasterRecord.algorithm_eq_of_strategy hstrategy
        rw [MasterRecord.addMaster_of_nil hm] at hlater ⊢
        have hsame := hlater.metadata_eq rfl
        refine ⟨hsame, ?_⟩
        exact Action.outcome_unlock_of_entries hsame (hs.trans (ha.trans halgorithm.symm))
    · rw [MasterRecord.ofDatabase_of_entries hm] at hnone
      cases hnone

/-- The sample device sets the password and clears the store; then the password leads to the same key
again. -/
theorem master_password_is_fixed_sample :
  ∃ after key, (Operation.unlock "password").outcome (.sample .empty) = (.ok (), after) ∧
    after.key? = some key ∧
    (Operation.unlock "password").outcome (Operation.clearAll.outcome after).2 =
      (.ok (), (Operation.clearAll.outcome after).2.install key)
  := by
  have hrun : Database.MasterRun Strategy.standard.algorithm .empty (Device.sample .empty).database :=
    .start
  have hp : Password.validate "password" (Device.sample .empty).settings.passwordFloor = .ok () :=
    rfl
  have hm : (Device.sample .empty).database.metadata = [] := rfl
  obtain ⟨metadata, hunlock⟩ := Action.exists_outcome_unlock hm hp
  obtain ⟨-, -, hfixed⟩ := master_password_is_fixed hrun rfl
  obtain ⟨key, hkey, hlater⟩ := hfixed "password" _ rfl hunlock
  refine ⟨_, key, hunlock, hkey, ?_⟩
  exact (hlater _ (.step .clearAll _ .start rfl) rfl).2

/-- A password that was long enough for the first unlock is refused on a device whose settings demand
a longer one. -/
theorem unlock_refused_under_higher_floor :
  ∃ after later : Device,
    (Operation.unlock "password").outcome (.sample .empty) = (.ok (), after) ∧
    later.database = after.database ∧ later.settings.strategy = after.settings.strategy ∧
    (Operation.unlock "password").outcome later = (.error (.passwordTooShort 9), later)
  := by
  have hp : Password.validate "password" (Device.sample .empty).settings.passwordFloor = .ok () :=
    rfl
  have hm : (Device.sample .empty).database.metadata = [] := rfl
  obtain ⟨metadata, hunlock⟩ := Action.exists_outcome_unlock hm hp
  let later : Device := ⟨.sample, ⟨.standard, 9, 0⟩, { Database.empty with metadata := metadata }⟩
  have hshort : Password.validate "password" later.settings.passwordFloor =
    .error (.passwordTooShort 9) := rfl
  exact ⟨_, later, hunlock, rfl, rfl, Action.outcome_unlock_of_password hshort⟩

end Keyring

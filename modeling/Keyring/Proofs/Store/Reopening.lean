import Keyring.Entries
import Keyring.Proofs.Store.FirstUnlock
import Keyring.Proofs.Store.PlainKeys
import Keyring.Proofs.Store.Soundness

/-!
# Unlocking again

A first unlock adds those of its entries that are missing.  Whatever metadata an unlock has found, a
later one with the same password finds the key that it has installed, and with it the keys of
conversations that were stored in the meantime.
-/

namespace Keyring

/-! ### The entries that are missing -/

namespace Database

variable {d : Database} {strategy : Strategy} {salt : Salt} {check : String}

theorem addMetadata_eq_append (d : Database) (e : String × String) :
  d.addMetadata e.1 e.2 = { d with
    metadata := d.metadata ++ [e].filter fun e => (d.metadata? e.1).isNone }
  := by
  rw [addMetadata, List.filter_singleton]
  rcases d.metadata? e.1 with _ | former
  · rfl
  · rw [Option.isSome_some, if_pos rfl, Option.isNone_some, cond_false, List.append_nil]

theorem metadata?_addMetadata_of_ne {key other : String} (h : other ≠ key) (value : String) :
  (d.addMetadata key value).metadata? other = d.metadata? other
  := by
  rw [addMetadata]
  split
  · rfl
  · rw [metadata?, List.lookup_append, List.lookup_cons, beq_false_of_ne h, List.lookup_nil,
      Option.or_none, metadata?]

/-- Entries with different keys are added behind those that are there. -/
theorem foldl_addMetadata {entries : List (String × String)} (h : (entries.map Prod.fst).Nodup)
    (d : Database) :
  entries.foldl (fun d e => d.addMetadata e.1 e.2) d = { d with
    metadata := d.metadata ++ entries.filter fun e => (d.metadata? e.1).isNone }
  := by
  induction entries generalizing d with
  | nil => rw [List.foldl_nil, List.filter_nil, List.append_nil]
  | cons e rest ih =>
    obtain ⟨he, hrest⟩ := List.nodup_cons.1 h
    have hfilter : (rest.filter fun e' => ((d.addMetadata e.1 e.2).metadata? e'.1).isNone) =
        rest.filter fun e' => (d.metadata? e'.1).isNone := by
      apply List.filter_congr
      intro e' he'
      have hne : e'.1 ≠ e.1 := fun heq => he (heq ▸ List.mem_map_of_mem he')
      rw [metadata?_addMetadata_of_ne hne]
    rw [List.foldl_cons, ih hrest, hfilter, addMetadata_eq_append, List.append_assoc,
      ← List.filter_append, List.singleton_append]

/-- A first unlock adds its entries behind those that are there. -/
theorem addMaster_eq_append (d : Database) (strategy : Strategy) (salt : Salt) (check : String) :
  d.addMaster salt strategy.params check = { d with
    metadata := d.metadata ++
      (MasterRecord.entries strategy salt check).filter fun e => (d.metadata? e.1).isNone }
  := by
  have hkeys : ((MasterRecord.entries strategy salt check).map Prod.fst).Nodup := by
    change [MasterRecord.saltKey, MasterRecord.kdfKey, MasterRecord.paramsKey,
      MasterRecord.checkKey].Nodup
    decide
  exact foldl_addMetadata hkeys d

theorem metadata?_addMaster (d : Database) (strategy : Strategy) (salt : Salt) (check key : String) :
  (d.addMaster salt strategy.params check).metadata? key =
    (d.metadata? key).or ((MasterRecord.entries strategy salt check).lookup key)
  := by
  rw [addMaster_eq_append, metadata?, List.lookup_append]
  rcases h : d.metadata.lookup key with _ | value
  · rw [Option.none_or, metadata?, h, Option.none_or]
    apply lookup_filter
    rintro e rfl
    rw [metadata?, h]
    rfl
  · rw [metadata?, h, Option.some_or, Option.some_or]

end Database

namespace MasterRecord

variable {d : Database} {r : MasterRecord} {settings settings' : Settings} {strategy : Strategy}
  {salt : Salt}

/-- What was there stays, and the rest is there from then on. -/
theorem ofDatabase_addMaster (d : Database) (strategy : Strategy) (salt : Salt) (check : String) :
  ofDatabase (d.addMaster salt strategy.params check) =
    ⟨(ofDatabase d).salt.or (some (Base64.encode salt.bytes)),
      (ofDatabase d).kdf.or (some strategy.params.algorithm.name),
      (ofDatabase d).params.or (some strategy.params.text), (ofDatabase d).check.or (some check)⟩
  := by
  simp only [ofDatabase, Database.metadata?_addMaster]
  rfl

/-- A record leads to a strategy if it names the configured algorithm, as far as it names one, and
its cost can be used. -/
theorem strategy_eq_ok_iff :
  r.strategy settings = .ok strategy ↔
    (∀ kdf ∈ r.kdf, kdf = settings.strategy.algorithm.name) ∧
      ∃ params?, Row.readParams "the master key" r.params = .ok params? ∧
        settings.strategyFor params? = .ok strategy
  := by
  rw [MasterRecord.strategy, ← Except.bind_eq_ok_iff]
  rcases r.kdf with _ | kdf
  · simp
  · by_cases h : kdf = settings.strategy.algorithm.name
    · simp [h]
    · simp [h]

/-- The strategy of a first unlock is found again. -/
theorem strategy_addMaster (h : (ofDatabase d).strategy settings = .ok strategy) (salt : Salt)
    (check : String) :
  (ofDatabase (d.addMaster salt strategy.params check)).strategy settings = .ok strategy
  := by
  have ha := algorithm_eq_of_strategy h
  obtain ⟨hkdf, params?, hread, hstrategy⟩ := strategy_eq_ok_iff.1 h
  rw [ofDatabase_addMaster, strategy_eq_ok_iff]
  constructor
  · rcases hk : (ofDatabase d).kdf with _ | kdf
    · rintro _ ⟨⟩
      exact congrArg KdfAlgorithm.name ha
    · rw [hk] at hkdf
      exact hkdf
  · rcases hp : (ofDatabase d).params with _ | text
    · exact ⟨some strategy.params, Row.readParams_map_text _ (some strategy.params),
        Settings.strategyFor_params ha⟩
    · rw [hp] at hread
      exact ⟨params?, hread, hstrategy⟩

/-- The salt of a first unlock is found again. -/
theorem decodeSalt_of_chooseSalt {random random' : RandomSource}
    (h : r.chooseSalt random = .ok (salt, random')) :
  ∃ s, r.salt.or (some (Base64.encode salt.bytes)) = some s ∧ decodeSalt s = .ok salt
  := by
  rw [chooseSalt] at h
  split at h
  next s hs =>
    obtain ⟨salt', hdecode, heq⟩ := Except.map_eq_ok_iff.1 h
    cases heq
    rw [hs]
    exact ⟨s, rfl, hdecode⟩
  next hs =>
    cases h
    rw [hs]
    exact ⟨_, rfl, decodeSalt_encode _⟩

/-- What a first unlock has sealed opens under the key that it has installed. -/
theorem openCheck_addMaster {random random' : RandomSource} (hcheck : (ofDatabase d).check = none)
    (hstrategy : (ofDatabase d).strategy settings = .ok strategy)
    (hsalt : (ofDatabase d).chooseSalt random = .ok (salt, random')) (password : String)
    (iv : Gcm.Iv) :
  (ofDatabase (d.addMaster salt strategy.params
      (sealCheck (strategy.derive password salt) iv))).openCheck settings password =
    .ok (strategy.derive password salt)
  := by
  obtain ⟨s, hs, hdecode⟩ := decodeSalt_of_chooseSalt hsalt
  have hstrategy' := strategy_addMaster hstrategy salt (sealCheck (strategy.derive password salt) iv)
  rw [openCheck, hstrategy', ofDatabase_addMaster, hcheck, hs]
  simp only [Option.none_or, pure_bind, hdecode, decodeCheck_sealCheck, Except.ok_bind,
    Sealed.plaintext_ofPlaintext]
  rfl

end MasterRecord

/-! ### Unlocks -/

namespace Database

end Database

namespace Action

open ExceptT

variable {password : String} {device after : Device} {master : Key}

/-- An unlock that succeeds has installed a key, and leaves a sealed value that opens under it. -/
theorem installed_of_unlock (h : (unlock password).outcome device = (.ok (), after)) :
  ∃ master, after.session = device.session.install device.clock.monotonic master ∧
    after.key? = some master ∧
    (MasterRecord.ofDatabase after.database).openCheck device.settings password = .ok master
  := by
  obtain ⟨key, hopen, rfl⟩ | ⟨strategy, salt, random, hcheck, hstrategy, hsalt, rfl⟩ :=
    unlock_eq_ok h
  · exact ⟨key, rfl, Device.key?_install .., hopen⟩
  · exact ⟨_, rfl, Device.key?_install .., MasterRecord.openCheck_addMaster hcheck hstrategy hsalt ..⟩

end Action

/-! ### Keys of conversations -/

/-- The row of a record can be read with another time of the last rotation, too. -/
theorem ConversationKeyRow.exists_toRecord {k : StoredConversationKey} (hv : k.version ≠ 0)
    {time? : Option String} (h : Row.isInstant? time? = true) :
  ∃ rotatedAt, toRecord { ofRecord k with rotatedAt := time? } =
    .ok { k with rotatedAt := rotatedAt }
  := by
  obtain ⟨rotatedAt, hread⟩ := Row.exists_readInstant? h
  use rotatedAt
  refine Except.bind_eq_ok_iff.2 ⟨_, Row.readInstant_storedText _, ?_⟩
  refine Except.bind_eq_ok_iff.2 ⟨_, hread, ?_⟩
  refine Except.bind_eq_ok_iff.2 ⟨_, Row.readInteger_integer _, ?_⟩
  exact Except.bind_eq_ok_iff.2 ⟨_, Row.readVersion_toNat hv, rfl⟩

namespace Database

variable {d : Database} {id : String}

/-- Whether the time of the last rotation of a conversation can be read, if there is one. -/
def HasRotationTime (d : Database) (id : String) : Prop :=
  Row.isInstant? ((d.conversationKey? id).bind ConversationKeyRow.rotatedAt) = true

/-- A key that was put in wrapped is found under the key that it was wrapped under, if the time of the
last rotation comes with it or can be read. -/
theorem openConversation_updateConversationKey {rotatedAt : Option Instant}
    (h : rotatedAt.isSome = true ∨ d.HasRotationTime id) (key : ConversationKey) (master : Key)
    (iv : Gcm.Iv) {version : UInt32} (hversion : version ≠ 0) (createdAt : Instant) :
  (d.updateConversationKey (.ofRecord
      (.ofSealed id (key.wrapped master iv id version) version createdAt rotatedAt))).openConversation
    master id = .ok (some key)
  := by
  -- Without a time of its own, the key takes over that of the row that it replaces.
  have htime : Row.isInstant? ((rotatedAt.map Instant.storedText).or
      ((d.conversationKey? id).bind ConversationKeyRow.rotatedAt)) = true := by
    rcases rotatedAt with _ | t
    · exact h.resolve_left Bool.false_ne_true
    · rw [Option.map_some, Option.some_or, Row.isInstant?, Instant.ofColumn?_storedText]
      rfl
  obtain ⟨rotatedAt', hread⟩ := ConversationKeyRow.exists_toRecord (k := .ofSealed id
    (key.wrapped master iv id version) version createdAt rotatedAt) hversion htime
  have hrow : (d.updateConversationKey (.ofRecord (.ofSealed id
        (key.wrapped master iv id version) version createdAt rotatedAt))).conversationKey? id = _ :=
    conversationKey?_updateConversationKey rfl
  have hsealed := StoredConversationKey.toSealed_ofSealed id (key.wrapped master iv id version)
    version createdAt rotatedAt'
  have hunwrap : Sealed.unwrapKey master (key.wrapped master iv id version)
      (Purpose.conversationKey id version).associatedData = .ok key.key :=
    Sealed.unwrapKey_ofPlaintext ..
  rw [openConversation, hrow]
  refine Except.bind_eq_ok_iff.2 ⟨_, hread, ?_⟩
  refine Except.bind_eq_ok_iff.2 ⟨_, hsealed, ?_⟩
  dsimp only [StoredConversationKey.ofSealed]
  rw [hunwrap]
  rfl

/-- Whether a lookup of the key of a conversation answers with a result after a later unlock with a
password, on every device with the metadata and the row of the conversation as they are in a database,
whose settings lead to the same strategy as the given ones and allow the password. -/
def Answers (d : Database) (settings : Settings) (password id : String)
    (result : Except StoreError (Option ConversationKey)) : Prop :=
  ∀ later : Device, later.database.metadata = d.metadata →
    later.database.conversationKey? id = d.conversationKey? id →
    (MasterRecord.ofDatabase d).strategy later.settings =
      (MasterRecord.ofDatabase d).strategy settings →
    Password.validate password later.settings.passwordFloor = .ok () →
    ∃ unlocked, (Action.unlock password).outcome later = (.ok (), unlocked) ∧
      ((Action.loadConversationKey id).outcome unlocked).1 = result

end Database

end Keyring

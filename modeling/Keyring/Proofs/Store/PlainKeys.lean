import Keyring.Proofs.Store.NewDevice
import Mathlib.Logic.Function.Basic

/-!
# Keys of conversations in plain

With one master key in reach, the store behaves towards conversations as a plain map would: each
conversation that has a key has it in a version, with the time at which it was created and that of
the last rotation.  Nothing of the wrapping shows.  The log of rotations is the one thing that the
map does not know: a rotation to a version that is in the log already is refused.
-/

namespace Keyring

/-! ### The plain map -/

/-- The key of a conversation as the map has it. -/
structure PlainKey where
  key : ConversationKey
  version : UInt32
  createdAt : Instant
  rotatedAt : Option Instant

/-- Version and times. -/
def PlainKey.info (k : PlainKey) : ConversationKeyInfo :=
  ⟨k.version, k.createdAt, k.rotatedAt⟩

/-- The keys of conversations. -/
abbrev PlainKeys := String → Option PlainKey

namespace PlainKeys

/-- The map without keys. -/
def empty : PlainKeys := fun _ => none

/-- The version of a conversation, which is zero if it has no key. -/
def version (m : PlainKeys) (id : String) : UInt32 :=
  ((m id).map PlainKey.version).getD 0

/-- The key of a conversation, which must be there. -/
def require (m : PlainKeys) (id : String) : Except StoreError ConversationKey :=
  match m id with
  | some k => .ok k.key
  | none => .error (.noConversationKey id)

end PlainKeys

/-- An operation on keys and messages of conversations. -/
inductive KeyOperation : Type → Type where
  | store (id : String) (key : ConversationKey) (version : UInt32) : KeyOperation Unit
  | rotate (id : String) (secret : Bytes) (reason : String) : KeyOperation RotationRecord
  | delete (id : String) : KeyOperation Bool
  | clear : KeyOperation Unit
  | get (id : String) : KeyOperation (Option ConversationKey)
  | info (id : String) : KeyOperation (Option ConversationKeyInfo)
  | sealMessage (id : String) (plaintext : Bytes) : KeyOperation Sealed
  | openMessage (id : String) (sealed : Sealed) : KeyOperation Bytes

namespace KeyOperation

variable {α : Type}

/-- The operation of the store. -/
def operation : KeyOperation α → Operation α
  | store id key version => .storeConversationKey id key version
  | rotate id secret reason => .rotateConversationKey id secret reason
  | delete id => .deleteConversationKey id
  | clear => .clearAll
  | get id => .loadConversationKey id
  | info id => .conversationKeyInfo id
  | sealMessage id plaintext => .sealMessage id plaintext
  | openMessage id sealed => .openMessage id sealed

/-- The operation on the plain map, at a time and with an initialisation vector at hand. -/
def plain (now : Instant) (iv : Gcm.Iv) (m : PlainKeys) :
    KeyOperation α → Except StoreError α × PlainKeys
  | store id key version =>
    if id = "" then (.error (.invalidInput "conversation id must not be empty"), m)
    else if version = 0 then (.error (.invalidInput "key versions start at 1"), m)
    else if version < m.version id then
      (.error (.invalidInput <| s!"conversation {id} is at version {(m.version id).toNat}, " ++
        s!"refusing to store version {version.toNat}"), m)
    else (.ok (), Function.update m id (some ⟨key, version, now, (m id).bind PlainKey.rotatedAt⟩))
  | rotate id secret reason =>
    match Action.nextKey id secret (m.version id) with
    | .ok (new, key) =>
      (.ok ⟨id, m.version id, new, now, reason⟩,
        Function.update m id (some ⟨key, new, now, some now⟩))
    | .error e => (.error e, m)
  | delete id => (.ok (m id).isSome, Function.update m id none)
  | clear => (.ok (), .empty)
  | get id => (.ok ((m id).map PlainKey.key), m)
  | info id => (.ok ((m id).map PlainKey.info), m)
  | sealMessage id plaintext =>
    ((m.require id).map fun key =>
      .ofPlaintext key.key iv (Purpose.message id).associatedData plaintext, m)
  | openMessage id sealed =>
    (m.require id >>= fun key =>
      (sealed.plaintext key.key (Purpose.message id).associatedData).mapError StoreError.ofCrypto, m)

/-- Whether an operation is a rotation to a version that is in the log of a database already. -/
def isLogged (d : Database) (m : PlainKeys) : KeyOperation α → Bool
  | rotate id secret _ =>
    match Action.nextKey id secret (m.version id) with
    | .ok (new, _) => d.hasRotation id (.integer new.toNat)
    | .error _ => false
  | _ => false

end KeyOperation

/-! ### Representing the plain map -/

/-- Whether a row holds the key of a conversation, wrapped under a master key. -/
def ConversationKeyRow.Holds (master : Key) (id : String) (row : ConversationKeyRow)
    (k : PlainKey) : Prop :=
  k.version ≠ 0 ∧ ∃ iv, row = .ofRecord
    (.ofSealed id (k.key.wrapped master iv id k.version) k.version k.createdAt k.rotatedAt)

namespace Database

/-- Whether a database has a conversation with a key, wrapped under a master key, if there is one. -/
def HasKey (master : Key) (d : Database) (id : String) (k? : Option PlainKey) : Prop :=
  Option.Rel (ConversationKeyRow.Holds master id) (d.conversationKey? id) k?

/-- Whether a database has the keys of the plain map, wrapped under a master key. -/
def Represents (master : Key) (d : Database) (m : PlainKeys) : Prop :=
  ∀ id, Option.Rel (ConversationKeyRow.Holds master id) (d.conversationKey? id) (m id)

variable {master : Key} {d d' : Database} {m : PlainKeys} {id : String} {k? : Option PlainKey}

namespace HasKey

theorem none_of_conversationKey? (h : d.conversationKey? id = none) :
  d.HasKey master id none
  := by
  rw [HasKey, h]
  exact .none

/-- Only the row of the conversation matters. -/
theorem congr (h : d.HasKey master id k?) (hsame : d'.conversationKey? id = d.conversationKey? id) :
  d'.HasKey master id k?
  := by
  rw [HasKey, hsame]
  exact h

/-- A conversation has a row that holds its key, or neither. -/
theorem cases (h : d.HasKey master id k?) :
  (d.conversationKey? id = none ∧ k? = none) ∨
    ∃ k iv, k.version ≠ 0 ∧ k? = some k ∧ d.conversationKey? id = some (.ofRecord
      (.ofSealed id (k.key.wrapped master iv id k.version) k.version k.createdAt k.rotatedAt))
  := by
  rw [HasKey] at h
  generalize d.conversationKey? id = row? at h ⊢
  cases h with
  | none => exact .inl ⟨rfl, rfl⟩
  | some hrow =>
    obtain ⟨hversion, iv, rfl⟩ := hrow
    exact .inr ⟨_, iv, hversion, rfl, rfl⟩

theorem isSome_eq (h : d.HasKey master id k?) :
  (d.conversationKey? id).isSome = k?.isSome
  := by
  obtain ⟨hd, rfl⟩ | ⟨k, iv, -, rfl, hd⟩ := h.cases
  · rw [hd]
    rfl
  · rw [hd]
    rfl

theorem liveVersion?_eq (h : d.HasKey master id k?) :
  d.liveVersion? id = .ok (k?.map PlainKey.version)
  := by
  obtain ⟨hd, rfl⟩ | ⟨k, iv, hversion, rfl, hd⟩ := h.cases
  · rw [liveVersion?, hd]
    rfl
  · rw [liveVersion?_of_conversationKey? hd hversion]
    rfl

theorem openConversation_eq (h : d.HasKey master id k?) :
  d.openConversation master id = .ok (k?.map PlainKey.key)
  := by
  obtain ⟨hd, rfl⟩ | ⟨k, iv, hversion, rfl, hd⟩ := h.cases
  · rw [openConversation, hd]
    rfl
  · have hunwrap : Sealed.unwrapKey master (k.key.wrapped master iv id k.version)
        (Purpose.conversationKey id k.version).associatedData = .ok k.key.key :=
      Sealed.unwrapKey_ofPlaintext ..
    rw [openConversation_wrapped hversion hd, hunwrap]
    rfl

theorem requireConversation_eq (h : d.HasKey master id k?) :
  d.requireConversation master id =
    k?.elim (.error (.noConversationKey id)) fun k => .ok k.key
  := by
  rw [requireConversation, h.openConversation_eq]
  rcases k? with _ | k
  · rfl
  · rfl

theorem info_eq (h : d.HasKey master id k?) :
  ((d.conversationKey? id).mapM ConversationKeyRow.toRecord).map
    (Option.map StoredConversationKey.info) = .ok (k?.map PlainKey.info)
  := by
  obtain ⟨hd, rfl⟩ | ⟨k, iv, hversion, rfl, hd⟩ := h.cases
  · rw [hd]
    rfl
  · have hread := ConversationKeyRow.toRecord_ofRecord (k := .ofSealed id
      (k.key.wrapped master iv id k.version) k.version k.createdAt k.rotatedAt) hversion
    rw [hd, Option.mapM_some, hread]
    rfl

/-- The time of the last rotation stands in the row. -/
theorem bind_rotatedAt (h : d.HasKey master id k?) :
  (d.conversationKey? id).bind ConversationKeyRow.rotatedAt =
    (k?.bind PlainKey.rotatedAt).map Instant.storedText
  := by
  obtain ⟨hd, rfl⟩ | ⟨k, iv, -, rfl, hd⟩ := h.cases
  · rw [hd]
    rfl
  · rw [hd]
    rfl

end HasKey

/-- A row that is put in is that of its conversation from then on. -/
theorem conversationKey?_updateConversationKey {row : ConversationKeyRow} {id : String}
    (h : row.conversationId = id) :
  (d.updateConversationKey row).conversationKey? id = some { row with
    rotatedAt := row.rotatedAt.or ((d.conversationKey? id).bind ConversationKeyRow.rotatedAt) }
  := by
  subst h
  exact (Table.find?_put _).trans (if_pos rfl)

theorem conversationKey?_updateConversationKey_of_ne {row : ConversationKeyRow} {id : String}
    (h : row.conversationId ≠ id) :
  (d.updateConversationKey row).conversationKey? id = d.conversationKey? id
  := (Table.find?_put _).trans (if_neg h)

theorem conversationKey?_eraseConversationKey (d : Database) (id other : String) :
  (d.eraseConversationKey id).conversationKey? other =
    if other = id then none else d.conversationKey? other
  := Table.find?_erase id other

/-- A key that is put in is that of its conversation from then on. -/
theorem HasKey.updateConversationKey (h : d.HasKey master id k?) (key : ConversationKey)
    {version : UInt32} (hversion : version ≠ 0) (iv : Gcm.Iv) (createdAt : Instant)
    (rotatedAt : Option Instant) :
  (d.updateConversationKey (.ofRecord
      (.ofSealed id (key.wrapped master iv id version) version createdAt rotatedAt))).HasKey
    master id (some ⟨key, version, createdAt, rotatedAt.or (k?.bind PlainKey.rotatedAt)⟩)
  := by
  rw [HasKey, conversationKey?_updateConversationKey, h.bind_rotatedAt]
  · refine .some ⟨hversion, iv, ?_⟩
    simp only [ConversationKeyRow.ofRecord, StoredConversationKey.ofSealed, Option.map_or]
  · rfl

theorem HasKey.eraseConversationKey (master : Key) (d : Database) (id : String) :
  (d.eraseConversationKey id).HasKey master id none
  := none_of_conversationKey? ((d.conversationKey?_eraseConversationKey id id).trans (if_pos rfl))

namespace Represents

theorem empty :
  Represents master .empty .empty
  := fun _ => .none

theorem hasKey (h : Represents master d m) (id : String) :
  d.HasKey master id (m id)
  := h id

/-- Only the table of conversation keys matters. -/
theorem congr (h : Represents master d m) (hsame : d'.conversationKeys = d.conversationKeys) :
  Represents master d' m
  := by
  intro id
  apply (h.hasKey id).congr
  rw [conversationKey?, hsame]
  rfl

theorem requireConversation_eq (h : Represents master d m) (id : String) :
  d.requireConversation master id = m.require id
  := by
  rw [(h.hasKey id).requireConversation_eq, PlainKeys.require]
  rcases m id with _ | k
  · rfl
  · rfl

/-- A key that is put in is that of its conversation from then on. -/
theorem updateConversationKey (h : Represents master d m) (id : String) (key : ConversationKey)
    {version : UInt32} (hversion : version ≠ 0) (iv : Gcm.Iv) (createdAt : Instant)
    (rotatedAt : Option Instant) :
  Represents master
    (d.updateConversationKey (.ofRecord
      (.ofSealed id (key.wrapped master iv id version) version createdAt rotatedAt)))
    (Function.update m id
      (some ⟨key, version, createdAt, rotatedAt.or ((m id).bind PlainKey.rotatedAt)⟩))
  := by
  intro other
  by_cases hid : other = id
  · obtain rfl := hid
    rw [Function.update_self]
    exact (h.hasKey other).updateConversationKey key hversion iv createdAt rotatedAt
  · rw [Function.update_of_ne hid]
    exact (h.hasKey other).congr (conversationKey?_updateConversationKey_of_ne (Ne.symm hid))

theorem eraseConversationKey (h : Represents master d m) (id : String) :
  Represents master (d.eraseConversationKey id) (Function.update m id none)
  := by
  intro other
  by_cases hid : other = id
  · obtain rfl := hid
    rw [Function.update_self]
    exact HasKey.eraseConversationKey master d other
  · rw [Function.update_of_ne hid]
    apply (h.hasKey other).congr
    rw [conversationKey?_eraseConversationKey, if_neg hid]

end Represents

end Database

/-! ### Steps -/

namespace KeyOperation

open Database (Represents)

variable {α : Type} {master : Key} {device : Device} {m : PlainKeys}

/-- Whether an operation on a device has the same result as on a plain map, and leads to a database
that has the keys of the map after it. -/
def Agrees (master : Key) (device : Device) (m : PlainKeys) (op : KeyOperation α) : Prop :=
  let plain := op.plain device.clock.wall (device.random.next 12) m
  (op.operation.outcome device).1 = plain.1 ∧
    Represents master (op.operation.outcome device).2.database plain.2

theorem agrees_store (h : Represents master device.database m) (hk : device.key? = some master)
    (id : String) (key : ConversationKey) (version : UInt32) :
  (store id key version).Agrees master device m
  := by
  have hstore := Action.outcome_storeConversationKey hk (h.hasKey id).liveVersion?_eq key version
  rw [Agrees, operation, Operation.outcome, Operation.action, hstore, plain]
  dsimp only
  by_cases hid : id = ""
  · rw [if_pos hid, if_pos hid]
    exact ⟨rfl, h⟩
  rw [if_neg hid, if_neg hid]
  by_cases hversion : version = 0
  · rw [if_pos hversion, if_pos hversion]
    exact ⟨rfl, h⟩
  rw [if_neg hversion, if_neg hversion]
  by_cases hlt : version < m.version id
  · rw [if_pos hlt]
    rw [PlainKeys.version] at hlt
    rw [if_pos hlt]
    exact ⟨rfl, h⟩
  · rw [if_neg hlt]
    rw [PlainKeys.version] at hlt
    rw [if_neg hlt]
    exact ⟨rfl, h.updateConversationKey id key hversion _ _ none⟩

theorem agrees_rotate (h : Represents master device.database m) (hk : device.key? = some master)
    (id : String) (secret : Bytes) (reason : String)
    (hlog : (rotate id secret reason).isLogged device.database m = false) :
  (rotate id secret reason).Agrees master device m
  := by
  have hlive := (h.hasKey id).liveVersion?_eq
  rcases hnext : Action.nextKey id secret (m.version id) with e | ⟨new, key⟩
  · have hrotate := Action.outcome_rotateConversationKey_of_error reason hk hlive hnext
    have hatomic := (rotate id secret reason).operation.isAtomic device e _ (Prod.ext hrotate rfl)
    rw [Agrees, plain, hnext]
    exact ⟨hrotate, h.congr (congrArg Database.conversationKeys hatomic)⟩
  · obtain ⟨hnew, hkey⟩ := Action.nextKey_eq_ok_iff.1 hnext
    have hrotate := Action.outcome_rotateConversationKey reason hk hlive hnew hkey
    simp only [isLogged, hnext] at hlog
    rw [hlog] at hrotate
    obtain ⟨hlast, rfl⟩ := Action.nextVersion_eq_ok_iff.1 hnew
    have hput := h.updateConversationKey id key (UInt32.add_one_ne_zero hlast)
      (device.random.next 12) device.clock.wall (some device.clock.wall)
    rw [Agrees, operation, Operation.outcome, Operation.action, hrotate, plain, hnext]
    exact ⟨rfl, hput.congr rfl⟩

/-- What a read of the database gives agrees if the map gives the same. -/
theorem agrees_of_keeps (h : Represents master device.database m) {op : KeyOperation α}
    (hkeeps : op.operation.action.Keeps Device.database)
    (hplain : op.plain device.clock.wall (device.random.next 12) m =
      ((op.operation.outcome device).1, m)) :
  op.Agrees master device m
  := by
  rw [Agrees, hplain]
  exact ⟨rfl, h.congr (congrArg Database.conversationKeys (hkeeps device))⟩

/-- An operation with the master key in reach does what it does on the plain map, unless it is a
rotation that is in the log. -/
theorem agrees (h : Represents master device.database m) (hk : device.key? = some master)
    (op : KeyOperation α) (hlog : op.isLogged device.database m = false) :
  op.Agrees master device m
  := by
  cases op with
  | store id key version => exact agrees_store h hk id key version
  | rotate id secret reason => exact agrees_rotate h hk id secret reason hlog
  | delete id =>
    rw [Agrees, operation, Operation.outcome, Operation.action, Action.outcome_deleteConversationKey,
      plain, (h.hasKey id).isSome_eq]
    exact ⟨rfl, h.eraseConversationKey id⟩
  | clear => exact ⟨rfl, .empty⟩
  | get id =>
    apply agrees_of_keeps h
    · exact Action.loadConversationKey_keeps_database id
    rw [plain, operation, Operation.outcome, Operation.action, Action.outcome_loadConversationKey hk,
      (h.hasKey id).openConversation_eq]
  | info id =>
    apply agrees_of_keeps h
    · exact Action.conversationKeyInfo_keeps _ id
    rw [plain, operation, Operation.outcome, Operation.action, Action.outcome_conversationKeyInfo,
      (h.hasKey id).info_eq]
  | sealMessage id plaintext =>
    apply agrees_of_keeps h
    · exact Action.sealMessage_keeps_database id plaintext
    rw [plain, operation, Operation.outcome, Operation.action, Action.outcome_sealMessage hk,
      h.requireConversation_eq]
  | openMessage id sealed =>
    apply agrees_of_keeps h
    · exact Action.openMessage_keeps_database id sealed
    rw [plain, operation, Operation.outcome, Operation.action, Action.outcome_openMessage hk,
      h.requireConversation_eq]

/-- A rotation that is in the log is refused, and leaves the database as it is. -/
theorem outcome_of_isLogged (h : Represents master device.database m)
    (hk : device.key? = some master) {op : KeyOperation α}
    (hlog : op.isLogged device.database m = true) :
  (op.operation.outcome device).1 = .error .database ∧
    (op.operation.outcome device).2.database = device.database
  := by
  cases op with
  | rotate id secret reason =>
    rcases hnext : Action.nextKey id secret (m.version id) with e | ⟨new, key⟩
    · simp [isLogged, hnext] at hlog
    · obtain ⟨hnew, hkey⟩ := Action.nextKey_eq_ok_iff.1 hnext
      simp only [isLogged, hnext] at hlog
      have hrotate := Action.outcome_rotateConversationKey_of_hasRotation reason hk
        (h.hasKey id).liveVersion?_eq hnew hkey hlog
      rw [operation, Operation.outcome, Operation.action, hrotate]
      exact ⟨rfl, rfl⟩
  | _ => cases hlog

/-- A key is stored in plain if the conversation has an id and the version is at least one and not
older than that of the conversation. -/
theorem plain_store_eq_ok_iff {now : Instant} {iv : Gcm.Iv} {id : String} {key : ConversationKey}
    {version : UInt32} :
  ((store id key version).plain now iv m).1 = .ok () ↔
    id ≠ "" ∧ 1 ≤ version ∧ ∀ k ∈ m id, k.version ≤ version
  := by
  have hversion : 1 ≤ version ↔ version ≠ 0 := by
    rw [UInt32.le_iff_toNat_le, ne_eq, ← UInt32.toNat_inj, UInt32.toNat_one, UInt32.toNat_zero]
    omega
  have hle : (¬version < m.version id) ↔ ∀ k ∈ m id, k.version ≤ version := by
    rw [UInt32.not_lt, PlainKeys.version]
    rcases m id with _ | k
    · simp
    · simp
  rw [hversion, ← hle, plain]
  by_cases hid : id = ""
  · simp [hid]
  · by_cases hzero : version = 0
    · simp [hid, hzero]
    · by_cases hlt : version < m.version id
      · simp [hid, hzero, hlt]
      · simp [hid, hzero, hlt]

end KeyOperation

/-! ### Runs -/

/-- What operations with one master key in reach have made of a database and of the plain map, each
on a device of its own.  Anything else may happen to the other tables in between. -/
inductive KeyRun (master : Key) : Database → PlainKeys → Prop where
  | start : KeyRun master .empty .empty
  | step {α : Type} {m : PlainKeys} (op : KeyOperation α) (device : Device)
    (h : KeyRun master device.database m) (hk : device.key? = some master)
    (hlog : op.isLogged device.database m = false) :
    KeyRun master (op.operation.outcome device).2.database
      (op.plain device.clock.wall (device.random.next 12) m).2
  /-- A rotation that is in the log. -/
  | refused {α : Type} {m : PlainKeys} (op : KeyOperation α) (device : Device)
    (h : KeyRun master device.database m) (hk : device.key? = some master)
    (hlog : op.isLogged device.database m = true) :
    KeyRun master (op.operation.outcome device).2.database m
  | elsewhere {d d' : Database} {m : PlainKeys} (h : KeyRun master d m)
    (hkeys : d'.conversationKeys = d.conversationKeys) (hlog : d'.rotations = d.rotations) :
    KeyRun master d' m

/-- The database has the keys of the plain map all along. -/
theorem KeyRun.represents {master : Key} {d : Database} {m : PlainKeys} (h : KeyRun master d m) :
  d.Represents master m
  := by
  induction h with
  | start => exact .empty
  | step op device _ hk hlog ih => exact (KeyOperation.agrees ih hk op hlog).2
  | refused op device _ hk hlog ih =>
    exact ih.congr (congrArg _ (KeyOperation.outcome_of_isLogged ih hk hlog).2)
  | elsewhere _ hkeys _ ih => exact ih.congr hkeys

/-- With one master key in reach, every operation on keys and messages of conversations has the
result that it has on the plain map, unless it is a rotation to a version that the log has already:
that is refused, and changes nothing.  So a key is found exactly if the map has it, and a key is
stored exactly if its version is not older than that of the map.  What was sealed in a conversation
opens to the same bytes wherever the conversation has the same key. -/
theorem store_agrees_with_plain_keys {master : Key} {device : Device} {m : PlainKeys}
    (hrun : KeyRun master device.database m) (hk : device.key? = some master) :
  (∀ (α : Type) (op : KeyOperation α), op.isLogged device.database m = false →
    (op.operation.outcome device).1 = (op.plain device.clock.wall (device.random.next 12) m).1) ∧
  (∀ (α : Type) (op : KeyOperation α), op.isLogged device.database m = true →
    (op.operation.outcome device).1 = .error .database ∧
      (op.operation.outcome device).2.database = device.database) ∧
  (∀ id, (Action.getConversationKey id device).1 =
    match m id with
    | some k => .found k.key
    | none => .notFound) ∧
  (∀ id key version,
    ((Operation.storeConversationKey id key version).outcome device).1 = .ok () ↔
      id ≠ "" ∧ 1 ≤ version ∧ ∀ k ∈ m id, k.version ≤ version) ∧
  ∀ id plaintext k, m id = some k →
    ∃ sealed, ((Operation.sealMessage id plaintext).outcome device).1 = .ok sealed ∧
      ∀ (later : Device) (m' : PlainKeys) (k' : PlainKey),
        KeyRun master later.database m' → later.key? = some master →
        m' id = some k' → k'.key = k.key →
          ((Operation.openMessage id sealed).outcome later).1 = .ok plaintext
  := by
  have h := hrun.represents
  refine ⟨?_, ?_, ?_, ?_, ?_⟩
  · intro α op hlog
    exact (KeyOperation.agrees h hk op hlog).1
  · intro α op hlog
    exact KeyOperation.outcome_of_isLogged h hk hlog
  · intro id
    rw [Action.getConversationKey_of_key hk, (h.hasKey id).openConversation_eq]
    rcases m id with _ | k
    · rfl
    · rfl
  · intro id key version
    have hstore := (KeyOperation.agrees h hk (.store id key version) rfl).1
    exact (iff_of_eq (congrArg (· = .ok ()) hstore)).trans KeyOperation.plain_store_eq_ok_iff
  · intro id plaintext k hm
    have hseal := (KeyOperation.agrees h hk (.sealMessage id plaintext) rfl).1
    simp only [KeyOperation.plain, PlainKeys.require, hm] at hseal
    refine ⟨_, hseal, ?_⟩
    intro later m' k' hlater hk' hm' hkey
    have hopen := (KeyOperation.agrees hlater.represents hk' (.openMessage id (.ofPlaintext k.key.key
      (device.random.next 12) (Purpose.message id).associatedData plaintext)) rfl).1
    simp only [KeyOperation.plain, PlainKeys.require, hm', Except.ok_bind] at hopen
    rw [hkey, Sealed.plaintext_ofPlaintext] at hopen
    exact hopen

/-- The plain map after the first rotation of the sample conversation. -/
def PlainKeys.sample : PlainKeys :=
  Function.update empty "c" (some ⟨.sample, 1, .epoch, some .epoch⟩)

theorem Action.nextKey_sample :
  nextKey "c" (List.replicate 32 0) 0 = .ok (1, .sample)
  := nextKey_eq_ok_iff.2 ⟨rfl, ConversationKey.derive_sample⟩

theorem KeyRun.kept :
  KeyRun (.zero 32) .kept .sample
  := by
  obtain ⟨after, hrotate, hkept⟩ := Operation.outcome_rotateConversationKey_sample
  have hnext : Action.nextKey "c" (List.replicate 32 0) (PlainKeys.empty.version "c") =
      .ok (1, .sample) := Action.nextKey_sample
  have hlog : (KeyOperation.rotate "c" (List.replicate 32 0) "manual").isLogged
      (Device.sample .empty).database .empty = false := by
    simp only [KeyOperation.isLogged, hnext]
    rfl
  have hrun := KeyRun.step _ (.sample .empty) .start (Device.key?_sample .empty) hlog
  simp only [KeyOperation.plain, hnext, KeyOperation.operation, hrotate] at hrun
  rw [← hkept]
  exact hrun

/-- The key of the sample conversation is found after its first rotation; a message that is sealed
opens.  When the key was deleted, the conversation has none, and the next rotation is refused. -/
theorem store_agrees_with_plain_keys_sample :
  (Action.getConversationKey "c" (.sample .kept)).1 = .found .sample ∧
  (∃ sealed, ((Operation.sealMessage "c" [1, 2]).outcome (.sample .kept)).1 = .ok sealed ∧
    ((Operation.openMessage "c" sealed).outcome (.sample .kept)).1 = .ok [1, 2]) ∧
  (Action.getConversationKey "c" (.sample .rotated)).1 = .notFound ∧
  ((Operation.rotateConversationKey "c" (List.replicate 32 0) "manual").outcome
    (.sample .rotated)).1 = .error .database
  := by
  have hkept : KeyRun (.zero 32) (Device.sample .kept).database .sample := .kept
  have hrotated : KeyRun (.zero 32) (Device.sample .rotated).database
      (Function.update PlainKeys.sample "c" none) := .step (.delete "c") (.sample .kept) hkept rfl rfl
  obtain ⟨-, -, hget, -, hseal⟩ := store_agrees_with_plain_keys hkept (Device.key?_sample .kept)
  obtain ⟨-, hrefused, hget', -⟩ :=
    store_agrees_with_plain_keys hrotated (Device.key?_sample .rotated)
  refine ⟨hget "c", ?_, hget' "c", ?_⟩
  · obtain ⟨sealed, hsealed, hopen⟩ := hseal "c" [1, 2] _ rfl
    exact ⟨sealed, hsealed, hopen (.sample .kept) _ _ hkept (Device.key?_sample .kept) rfl rfl⟩
  · apply (hrefused _ (.rotate "c" (List.replicate 32 0) "manual") _).1
    have hnext : Action.nextKey "c" (List.replicate 32 0)
        (PlainKeys.version (Function.update PlainKeys.sample "c" none) "c") = .ok (1, .sample) :=
      Action.nextKey_sample
    simp only [KeyOperation.isLogged, hnext]
    rfl

end Keyring

import Keyring.Proofs.Store.History
import Keyring.Proofs.Store.Reopening

/-!
# What comes of a rotation

A rotation needs a key in reach, a version after the stored one, a secret of 32 bytes, an id, and a
log that does not have the next version yet, and it fails for the first of these that is missing.  A
failure leaves every row as it was.  A success replaces the row of the conversation, adds one
rotation at the end of the log, and touches no other row.  None of this depends on how the rows
came about, as long as they can be read.
-/

namespace Keyring

/-! ### Rows that can be read -/

theorem ConversationKeyRow.version_of_toRecord {row : ConversationKeyRow} {k : StoredConversationKey}
    (h : row.toRecord = .ok k) :
  Row.readInteger row.version >>= Row.readVersion = .ok k.version
  := by
  obtain ⟨_, -, h⟩ := Except.bind_eq_ok_iff.1 h
  obtain ⟨_, -, h⟩ := Except.bind_eq_ok_iff.1 h
  obtain ⟨i, hi, h⟩ := Except.bind_eq_ok_iff.1 h
  obtain ⟨v, hv, h⟩ := Except.bind_eq_ok_iff.1 h
  cases h
  exact Except.bind_eq_ok_iff.2 ⟨i, hi, hv⟩

/-- The row of a rotation that can be read is well typed, and is known by what is read. -/
theorem RotationRow.entry_of_toRecord {row : RotationRow} {r : RotationRecord}
    (h : row.toRecord = .ok r) :
  row.isWellTyped = true ∧ row.entry = (r.conversationId, .integer r.newVersion.toNat)
  := by
  obtain ⟨_, ht, h⟩ := Except.bind_eq_ok_iff.1 h
  obtain ⟨old, hold, h⟩ := Except.bind_eq_ok_iff.1 h
  obtain ⟨new, hnew, h⟩ := Except.bind_eq_ok_iff.1 h
  obtain ⟨_, -, h⟩ := Except.bind_eq_ok_iff.1 h
  obtain ⟨v, hv, h⟩ := Except.bind_eq_ok_iff.1 h
  cases h
  rw [Row.readInteger_eq_ok_iff] at hold hnew
  constructor
  · rw [isWellTyped, Row.isInstant?_of_readInstant ht, hold, hnew]
    rfl
  · rw [entry, hnew, Row.toNat_of_readVersion_eq_ok hv]

namespace Database

/-- Whether every row gives a record. -/
structure IsReadable (d : Database) : Prop where
  keyPairs : ∀ row ∈ d.keyPairs, ∃ k, row.toRecord = .ok k
  conversationKeys : ∀ row ∈ d.conversationKeys, ∃ k, row.toRecord = .ok k
  rotations : ∀ row ∈ d.rotations, ∃ r, row.toRecord = .ok r

variable {d : Database} {id : String} {records : List RotationRecord}

/-- What operations have made can be read, unless a rotation led to version zero. -/
theorem IsSound.isReadable (h : d.IsSound) (hlog : d.LogIsPositive) :
  d.IsReadable
  where
  keyPairs _ hrow := h.exists_toRecord_keyPair hrow
  conversationKeys _ hrow := h.exists_toRecord_conversationKey hrow
  rotations row hrow := h.exists_toRecord_rotation hrow (hlog row hrow)

namespace IsReadable

theorem exists_liveVersion? (h : d.IsReadable) (id : String) :
  ∃ current?, d.liveVersion? id = .ok current?
  := by
  rw [liveVersion?]
  rcases hrow : d.conversationKey? id with _ | row
  · use none
  · obtain ⟨k, hk⟩ := h.conversationKeys row (Table.mem_of_find? hrow).1
    use some k.version
    dsimp only
    rw [ConversationKeyRow.version_of_toRecord hk]
    rfl

theorem exists_history (h : d.IsReadable) (id : String) :
  ∃ records, d.history id = .ok records
  := by
  have hread : ∀ row ∈ d.rotationsOf id, ∃ r, row.toRecord = .ok r :=
    fun row hrow => h.rotations row (rotationsOf_subset d id hrow)
  have hwell : (d.rotationsOf id).all RotationRow.isWellTyped = true := by
    rw [List.all_eq_true]
    intro row hrow
    obtain ⟨r, hr⟩ := hread row hrow
    exact (RotationRow.entry_of_toRecord hr).1
  obtain ⟨records, hrecords⟩ := Except.exists_mapM_eq_ok hread
  use records
  rw [history, readRotations, if_pos hwell, hrecords]

end IsReadable

/-! ### Histories -/

/-- A history that is read has one record for each row of the conversation. -/
theorem mapM_of_history (h : d.history id = .ok records) :
  (d.rotationsOf id).all RotationRow.isWellTyped = true ∧
    (d.rotationsOf id).mapM RotationRow.toRecord = .ok records
  := by
  rw [history, readRotations] at h
  split at h
  next hwell => exact ⟨hwell, h⟩
  next => cases h

/-- The log has a version of a conversation if a record of the history led to it. -/
theorem hasRotation_iff_of_history (h : d.history id = .ok records) {version : UInt32} :
  d.hasRotation id (.integer version.toNat) = true ↔ ∃ r ∈ records, r.newVersion = version
  := by
  obtain ⟨-, hread⟩ := mapM_of_history h
  rw [hasRotation_eq_true_iff, List.mem_map]
  constructor
  · rintro ⟨row, hrow, hentry⟩
    have hmem : row ∈ d.rotationsOf id :=
      List.mem_filter.2 ⟨hrow, beq_iff_eq.2 (congrArg Prod.fst hentry)⟩
    obtain ⟨r, hr, hrecord⟩ := Except.exists_mem_of_mem_of_mapM_eq_ok hread hmem
    rw [(RotationRow.entry_of_toRecord hrecord).2] at hentry
    have hversion := congrArg Prod.snd hentry
    exact ⟨r, hr, UInt32.toNat_inj.1 (Int.natCast_inj.1 (IntegerCell.integer.inj hversion))⟩
  · rintro ⟨r, hr, rfl⟩
    obtain ⟨row, hrow, hrecord⟩ := Except.exists_mem_of_mapM_eq_ok hread hr
    obtain ⟨hrow, hid⟩ := List.mem_filter.1 hrow
    use row, hrow
    have hentry := (RotationRow.entry_of_toRecord hrecord).2
    have hid' : r.conversationId = id := (congrArg Prod.fst hentry).symm.trans (eq_of_beq hid)
    rw [hentry, hid']

/-- A rotation that is added to the log stands at the end of the history of its conversation. -/
theorem history_concat {d' : Database} {r : RotationRecord}
    (h : d.history r.conversationId = .ok records) (hr : r.newVersion ≠ 0)
    (hadded : d'.rotations = d.rotations ++ [.ofRecord r]) :
  d'.history r.conversationId = .ok (records ++ [r])
  := by
  obtain ⟨hwell, hread⟩ := mapM_of_history h
  have hrows : d'.rotationsOf r.conversationId = d.rotationsOf r.conversationId ++ [.ofRecord r] := by
    have happended : d'.rotations = d.rotations ++ [r].map .ofRecord := hadded
    rw [rotationsOf_append happended, List.filter_singleton, beq_self_eq_true]
    rfl
  have hrecord := RotationRow.toRecord_ofRecord hr
  have hnew : [RotationRow.ofRecord r].mapM RotationRow.toRecord = .ok [r] := by
    rw [List.mapM_cons, hrecord]
    rfl
  have hall : (d'.rotationsOf r.conversationId).all RotationRow.isWellTyped = true := by
    rw [hrows, List.all_append, hwell, List.all_cons, (RotationRow.entry_of_toRecord hrecord).1]
    rfl
  rw [history, readRotations, if_pos hall, hrows, List.mapM_append, hread, hnew]
  rfl

end Database

/-! ### The result of a rotation -/

/-- A key that is put in changes that of no other conversation. -/
theorem Database.eraseConversationKey_updateConversationKey (d : Database) (row : ConversationKeyRow) :
  (d.updateConversationKey row).eraseConversationKey row.conversationId =
    d.eraseConversationKey row.conversationId
  := by
  have hput (new : ConversationKeyRow) : Table.erase ConversationKeyRow.conversationId
      new.conversationId (Table.put ConversationKeyRow.conversationId new d.conversationKeys) =
      Table.erase ConversationKeyRow.conversationId new.conversationId d.conversationKeys :=
    Table.erase_put ..
  have hrows := hput { row with
    rotatedAt := row.rotatedAt.or ((d.conversationKey? row.conversationId).bind
      ConversationKeyRow.rotatedAt) }
  exact congrArg (fun rows => { d with conversationKeys := rows }) hrows

theorem ConversationKey.derive_of_length {secret : Bytes} {id : String} (hsecret : secret.length = 32)
    (hid : id ≠ "") (version : UInt32) :
  derive secret id version = .ok (derived secret id version)
  := derive_eq_ok_iff.2 ⟨hsecret, hid, rfl⟩

/-- What a rotation gives on a device where a conversation has the version `old` and the history
`records`: it asks for one thing after the other. -/
def Device.rotationResult (device : Device) (id : String) (secret : Bytes) (reason : String)
    (old : UInt32) (records : List RotationRecord) : Except StoreError RotationRecord :=
  if device.key? = none then .error .masterKeyNotSet
  else if old = 4294967295 then .error (.invalidInput "key version overflow")
  else if secret.length ≠ 32 then
    .error (.invalidInput s!"shared secret must be 32 bytes, got {secret.length}")
  else if id = "" then .error (.invalidInput "conversation id must not be empty")
  else if ∃ r ∈ records, r.newVersion = old + 1 then .error .database
  else .ok ⟨id, old, old + 1, device.clock.wall, reason⟩

/-- Whether everything that a rotation asks for is there. -/
structure Device.AllowsRotation (device : Device) (id : String) (secret : Bytes) (old : UInt32)
    (records : List RotationRecord) : Prop where
  key?_ne : device.key? ≠ none
  length_secret : secret.length = 32
  id_ne : id ≠ ""
  old_ne : old ≠ 4294967295
  newVersion_ne : ∀ r ∈ records, r.newVersion ≠ old + 1

/-- What a rotation has made of a device when it gives `record` where the history was `records`. -/
structure Device.IsRotated (device after : Device) (secret : Bytes) (records : List RotationRecord)
    (record : RotationRecord) : Prop where
  /-- The version has not wrapped. -/
  toNat_newVersion : record.newVersion.toNat = record.oldVersion.toNat + 1
  exists_stored : ∃ k, (Operation.storedConversationKey record.conversationId).outcome after =
      (.ok (some k), after) ∧
    k.version = record.newVersion ∧ k.createdAt = device.clock.wall ∧
    k.rotatedAt = some device.clock.wall
  key?_eq : after.key? = device.key?
  /-- The key is found as long as the session has the same key in reach. -/
  exists_key : ∃ key,
    ConversationKey.derive secret record.conversationId record.newVersion = .ok key ∧
    ∀ later : Device, later.database = after.database → later.key? = device.key? →
      (Action.getConversationKey record.conversationId later).1 = .found key
  history_eq : (Operation.rotationHistory record.conversationId).outcome after =
    (.ok (records ++ [record]), after)
  rotations_eq : after.database.rotations = device.database.rotations ++ [.ofRecord record]
  keyPairs_eq : after.database.keyPairs = device.database.keyPairs
  metadata_eq : after.database.metadata = device.database.metadata
  /-- The rows of other conversations are the same. -/
  others_eq : (after.database.eraseConversationKey record.conversationId).conversationKeys =
    (device.database.eraseConversationKey record.conversationId).conversationKeys

namespace Device

variable {device : Device} {id : String} {secret : Bytes} {old : UInt32}
  {records : List RotationRecord}

theorem rotationResult_of_allowsRotation (h : device.AllowsRotation id secret old records)
    (reason : String) :
  device.rotationResult id secret reason old records =
    .ok ⟨id, old, old + 1, device.clock.wall, reason⟩
  := by
  have hlog : ¬∃ r ∈ records, r.newVersion = old + 1 := by
    rintro ⟨r, hr, hnew⟩
    exact h.newVersion_ne r hr hnew
  rw [rotationResult, if_neg h.key?_ne, if_neg h.old_ne, if_neg (not_not_intro h.length_secret),
    if_neg h.id_ne, if_neg hlog]

/-- A result is had only where nothing is missing. -/
theorem allowsRotation_of_rotationResult {reason : String} {record : RotationRecord}
    (h : device.rotationResult id secret reason old records = .ok record) :
  device.AllowsRotation id secret old records
  := by
  rw [rotationResult] at h
  split at h
  · cases h
  split at h
  · cases h
  split at h
  · cases h
  split at h
  · cases h
  split at h
  · cases h
  rename_i hkey hlast hsecret hid hlog
  refine ⟨hkey, not_not.1 hsecret, hid, hlast, ?_⟩
  intro r hr hnew
  exact hlog ⟨r, hr, hnew⟩

/-- A device is rotated if the row of the conversation was put in and the rotation was added. -/
theorem isRotated {after : Device} {master : Key} {key : ConversationKey} {reason : String}
    (hkey : device.key? = some master) (hread : device.database.history id = .ok records)
    (hlast : old ≠ 4294967295) (hderive : ConversationKey.derive secret id (old + 1) = .ok key)
    (hafter : after.key? = device.key?)
    (hdatabase : after.database =
      { device.database.updateConversationKey
          (.ofRecord (Action.rotatedRecord device master id key (old + 1))) with
        rotations := device.database.rotations ++
          [.ofRecord (Action.rotationRecord device id old (old + 1) reason)] }) :
  device.IsRotated after secret records ⟨id, old, old + 1, device.clock.wall, reason⟩
  := by
  have hversion := UInt32.add_one_ne_zero hlast
  have hrow : after.database.conversationKey? id =
      some (.ofRecord (Action.rotatedRecord device master id key (old + 1))) := by
    rw [hdatabase]
    exact Database.conversationKey?_updateConversationKey rfl
  have hrotations := congrArg Database.rotations hdatabase
  constructor
  · exact UInt32.toNat_add_one hlast
  · use Action.rotatedRecord device master id key (old + 1)
    refine ⟨?_, rfl, rfl, rfl⟩
    rw [Operation.outcome, Operation.action, Action.outcome_storedConversationKey, hrow,
      Option.mapM_some, ConversationKeyRow.toRecord_ofRecord hversion]
    rfl
  · exact hafter
  · use key, hderive
    -- Any device with the same rows and the same key in reach finds the new key.
    intro later hlater hkey'
    have hopen : after.database.openConversation master id = .ok (some key) := by
      rw [hdatabase]
      exact Database.openConversation_updateConversationKey (.inl rfl) key master
        (device.random.next 12) hversion device.clock.wall
    rw [Action.getConversationKey_of_key (hkey'.trans hkey), hlater, hopen]
    rfl
  · have hhistory : after.database.history id =
        .ok (records ++ [Action.rotationRecord device id old (old + 1) reason]) :=
      Database.history_concat (r := Action.rotationRecord ..) hread hversion hrotations
    have houtcome := Action.outcome_rotationHistory id after
    rw [hhistory] at houtcome
    exact houtcome
  · exact hrotations
  · rw [hdatabase]
    rfl
  · rw [hdatabase]
    rfl
  · have hothers := Database.eraseConversationKey_updateConversationKey device.database
      (.ofRecord (Action.rotatedRecord device master id key (old + 1)))
    rw [hdatabase]
    apply (congrArg Database.conversationKeys hothers :)

end Device

namespace Action

open ExceptT

variable {device : Device} {id : String} {secret : Bytes} {current? : Option UInt32}
  {records : List RotationRecord}

/-- A rotation gives what it is said to give. -/
theorem outcome_rotateConversationKey_eq (hlive : device.database.liveVersion? id = .ok current?)
    (hread : device.database.history id = .ok records) (reason : String) :
  ((rotateConversationKey id secret reason).outcome device).1 =
    device.rotationResult id secret reason (current?.getD 0) records
  := by
  -- The checks of the rotation are gone through one after another, as the result lists them.
  rw [Device.rotationResult]
  rcases hkey : device.key? with _ | master
  · rw [rotateConversationKey, outcome_bind_of_error (outcome_requireSet_of_none hkey)]
    rfl
  rw [if_neg (Option.some_ne_none master)]
  by_cases hlast : current?.getD 0 = 4294967295
  · rw [if_pos hlast]
    apply outcome_rotateConversationKey_of_error reason hkey hlive
    rw [nextKey, nextVersion, if_pos hlast]
    rfl
  have hnew := nextVersion_eq_ok_iff.2 ⟨hlast, rfl⟩
  rw [if_neg hlast]
  by_cases hsecret : secret.length = 32
  · rw [if_neg (not_not_intro hsecret)]
    by_cases hid : id = ""
    · rw [if_pos hid]
      apply outcome_rotateConversationKey_of_error reason hkey hlive
      subst hid
      rw [nextKey, hnew, Except.ok_bind, ConversationKey.derive, if_neg (not_not_intro hsecret)]
      rfl
    · have hderive := ConversationKey.derive_of_length hsecret hid (current?.getD 0 + 1)
      have hlog : device.database.hasRotation id (.integer (current?.getD 0 + 1).toNat) = true ↔ _ :=
        Database.hasRotation_iff_of_history hread
      rw [if_neg hid, outcome_rotateConversationKey reason hkey hlive hnew hderive]
      simp only [hlog]
      split
      · rfl
      · rfl
  · rw [if_pos hsecret]
    apply outcome_rotateConversationKey_of_error reason hkey hlive
    rw [nextKey, hnew, Except.ok_bind, ConversationKey.derive, if_pos hsecret]
    rfl

/-- A rotation for which nothing is missing changes the rows of its conversation. -/
theorem isRotated_of_allowsRotation (hlive : device.database.liveVersion? id = .ok current?)
    (hread : device.database.history id = .ok records)
    (h : device.AllowsRotation id secret (current?.getD 0) records) (reason : String) :
  device.IsRotated ((rotateConversationKey id secret reason).outcome device).2 secret records
    ⟨id, current?.getD 0, current?.getD 0 + 1, device.clock.wall, reason⟩
  := by
  obtain ⟨master, hkey⟩ := Option.ne_none_iff_exists'.1 h.key?_ne
  have hnew := nextVersion_eq_ok_iff.2 ⟨h.old_ne, rfl⟩
  have hderive := ConversationKey.derive_of_length h.length_secret h.id_ne (current?.getD 0 + 1)
  have hlog : ¬device.database.hasRotation id (.integer (current?.getD 0 + 1).toNat) = true := by
    rw [Database.hasRotation_iff_of_history hread]
    rintro ⟨r, hr, hr'⟩
    exact h.newVersion_ne r hr hr'
  have houtcome := outcome_rotateConversationKey reason hkey hlive hnew hderive
  dsimp only at houtcome
  rw [if_neg hlog] at houtcome
  rw [houtcome]
  apply Device.isRotated hkey hread h.old_ne hderive
  · change (device.touched.drawn 12).key? = device.key?
    rw [Host.key?_drawn, Host.key?_touched]
  · rfl

end Action

/-- On rows that can be read, a rotation succeeds if the session has a key in reach, the secret has 32
bytes, the id is not empty, the stored version is not the last one, and no record of the history led
to the next version; a conversation without key is at version zero.  A success gives the record that
then stands at the end of the history, puts in the key that is derived for the next version, and
changes no other row.  A failure is that of the first thing that is missing, and changes no row. -/
theorem rotation_goes_to_next_version {device : Device} (hrows : device.database.IsReadable)
    (id : String) (secret : Bytes) (reason : String) :
  ∃ current? records, device.database.liveVersion? id = .ok current? ∧
    (Operation.rotationHistory id).outcome device = (.ok records, device) ∧
    let old := current?.getD 0
    let outcome := (Operation.rotateConversationKey id secret reason).outcome device
    ((∃ record, outcome.1 = .ok record) ↔ device.AllowsRotation id secret old records) ∧
    outcome.1 = device.rotationResult id secret reason old records ∧
    (∀ record, outcome.1 = .ok record →
      record = ⟨id, old, old + 1, device.clock.wall, reason⟩ ∧
        device.IsRotated outcome.2 secret records record) ∧
    ∀ e, outcome.1 = .error e → outcome.2.database = device.database
  := by
  obtain ⟨current?, hlive⟩ := hrows.exists_liveVersion? id
  obtain ⟨records, hread⟩ := hrows.exists_history id
  use current?, records, hlive
  constructor
  · rw [← hread]
    apply Action.outcome_rotationHistory
  intro old outcome
  have hresult : outcome.1 = device.rotationResult id secret reason old records :=
    Action.outcome_rotateConversationKey_eq hlive hread reason
  refine ⟨?_, hresult, ?_, ?_⟩
  · rw [hresult]
    constructor
    · rintro ⟨record, hrecord⟩
      exact Device.allowsRotation_of_rotationResult hrecord
    · intro hallows
      exact ⟨_, Device.rotationResult_of_allowsRotation hallows reason⟩
  · intro record hrecord
    rw [hresult] at hrecord
    have hallows := Device.allowsRotation_of_rotationResult hrecord
    rw [Device.rotationResult_of_allowsRotation hallows] at hrecord
    cases hrecord
    exact ⟨rfl, Action.isRotated_of_allowsRotation hlive hread hallows reason⟩
  · intro e he
    exact (Operation.rotateConversationKey id secret reason).isAtomic device e outcome.2
      (Prod.ext he rfl)

/-- The sample conversation, which is at version one, is rotated to version two, and not without an
id; when its key was deleted, it is not rotated to version one again. -/
theorem rotation_goes_to_next_version_sample :
  Database.kept.IsReadable ∧ Database.rotated.IsReadable ∧
  (∃ record after, (Operation.rotateConversationKey "c" (List.replicate 32 0) "manual").outcome
      (.sample .kept) = (.ok record, after) ∧ record.newVersion = 2 ∧
    (Operation.rotationHistory "c").outcome after =
      (.ok [⟨"c", 0, 1, .epoch, "manual"⟩, record], after)) ∧
  ((Operation.rotateConversationKey "" (List.replicate 32 0) "manual").outcome (.sample .kept)).1 =
    .error (.invalidInput "conversation id must not be empty") ∧
  ∃ after, (Operation.rotateConversationKey "c" (List.replicate 32 0) "manual").outcome
    (.sample .rotated) = (.error .database, after) ∧ after.database = .rotated
  := by
  have hkept : (Device.sample .kept).database.IsReadable :=
    Database.reachable_kept.isSound.isReadable (List.forall_mem_singleton.2 (by decide))
  have hrotated : (Device.sample .rotated).database.IsReadable :=
    Database.reachable_rotated.isSound.isReadable (List.forall_mem_singleton.2 (by decide))
  refine ⟨hkept, hrotated, ?_, ?_, ?_⟩
  · obtain ⟨current?, records, hlive, hread, hiff, -, hsuccess, -⟩ :=
      rotation_goes_to_next_version hkept "c" (List.replicate 32 0) "manual"
    cases hlive
    cases hread
    have hallows : (Device.sample .kept).AllowsRotation "c" (List.replicate 32 0) 1
        [⟨"c", 0, 1, .epoch, "manual"⟩] := ⟨by decide, rfl, by decide, by decide, by decide⟩
    obtain ⟨record, hrecord⟩ := hiff.2 hallows
    obtain ⟨rfl, hafter⟩ := hsuccess record hrecord
    exact ⟨_, _, Prod.ext hrecord rfl, rfl, hafter.history_eq⟩
  · obtain ⟨current?, records, hlive, hread, -, hresult, -⟩ :=
      rotation_goes_to_next_version hkept "" (List.replicate 32 0) "manual"
    cases hlive
    cases hread
    exact hresult
  · obtain ⟨current?, records, hlive, hread, -, hresult, -, hfailure⟩ :=
      rotation_goes_to_next_version hrotated "c" (List.replicate 32 0)
        "manual"
    cases hlive
    cases hread
    exact ⟨_, Prod.ext hresult rfl, hfailure .database hresult⟩

end Keyring

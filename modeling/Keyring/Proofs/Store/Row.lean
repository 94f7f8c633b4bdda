import Keyring.Proofs.Checks
import Keyring.Proofs.Record
import Keyring.Store.Row

/-!
# Reading rows back

The row of a record gives that record back.  Only a version that may not be zero stands in the way:
a row with such a version gives no record at all.  Of any other row it can be said which columns can be
read, and what makes the others fail.
-/

namespace Keyring

namespace Row

@[simp]
theorem readInstant_storedText (t : Instant) :
  readInstant t.storedText = .ok t
  := by
  rw [readInstant, Instant.ofColumn?_storedText]

@[simp]
theorem readInstant?_map_storedText (t? : Option Instant) :
  readInstant? (t?.map Instant.storedText) = .ok t?
  := by
  cases t? with
  | none => rfl
  | some t =>
    rw [Option.map_some, readInstant?, readInstant_storedText]
    rfl

@[simp]
theorem readInteger_integer (i : Int) :
  readInteger (.integer i) = .ok i
  := rfl

/-- A version that is not zero is read as it was written. -/
theorem readVersion_toNat {v : UInt32} (hv : v ≠ 0) :
  readVersion (v.toNat : Int) = .ok v
  := by
  have hpos : v.toNat ≠ 0 := fun h => hv (UInt32.toNat_inj.1 h)
  have hlt := v.toNat_lt
  rw [readVersion, if_pos (by omega), Int.toNat_natCast, UInt32.ofNat_toNat]

/-- No version is zero. -/
theorem readVersion_zero :
  readVersion 0 = .error (.format "bad key version 0")
  := by
  rw [readVersion, if_neg (by omega)]
  rfl

/-- A version that is read is the integer that was written. -/
theorem toNat_of_readVersion_eq_ok {i : Int} {v : UInt32} (h : readVersion i = .ok v) :
  (v.toNat : Int) = i
  := by
  rw [readVersion] at h
  split at h
  next hi =>
    cases h
    rw [UInt32.toNat_ofNat']
    omega
  next => cases h

@[simp]
theorem readOldVersion_toNat (v : UInt32) :
  readOldVersion (v.toNat : Int) = .ok v
  := by
  have hlt := v.toNat_lt
  rw [readOldVersion, if_pos (by omega), Int.toNat_natCast, UInt32.ofNat_toNat]

@[simp]
theorem readParams_map_text (owner : String) (p? : Option KdfParams) :
  readParams owner (p?.map KdfParams.text) = .ok p?
  := by
  cases p? with
  | none => rfl
  | some p =>
    rw [Option.map_some, readParams, KdfParams.ofText?_text]

/-! ### What columns say -/

theorem exists_readInstant {s : String} (h : isInstant? (some s) = true) :
  ∃ t, readInstant s = .ok t
  := by
  obtain ⟨t, ht⟩ := Option.isSome_iff_exists.1 h
  use t
  rw [readInstant, ht]

theorem readInstant_eq_error {s : String} (h : isInstant? (some s) = false) :
  readInstant s = .error .database
  := by
  rw [readInstant, Option.isNone_iff_eq_none.1 (Option.isSome_eq_false_iff.1 h)]

theorem exists_readInstant? {s? : Option String} (h : isInstant? s? = true) :
  ∃ t?, readInstant? s? = .ok t?
  := by
  rcases s? with _ | s
  · exact ⟨none, rfl⟩
  · obtain ⟨t, ht⟩ := exists_readInstant h
    use some t
    rw [readInstant?, ht]
    rfl

theorem readInstant?_eq_error {s? : Option String} (h : isInstant? s? = false) :
  readInstant? s? = .error .database
  := by
  rcases s? with _ | s
  · cases h
  · rw [readInstant?, readInstant_eq_error h]
    rfl

theorem isInstant?_of_readInstant {s : String} {t : Instant} (h : readInstant s = .ok t) :
  isInstant? (some s) = true
  := by
  by_contra hs
  rw [Bool.not_eq_true] at hs
  cases (readInstant_eq_error hs).symm.trans h

theorem isInstant?_of_readInstant? {s? : Option String} {t? : Option Instant}
    (h : readInstant? s? = .ok t?) :
  isInstant? s? = true
  := by
  by_contra hs
  rw [Bool.not_eq_true] at hs
  cases (readInstant?_eq_error hs).symm.trans h

theorem readInteger_eq_ok_iff {c : IntegerCell} {i : Int} :
  readInteger c = .ok i ↔ c = .integer i
  := by
  cases c with
  | integer j => simp [readInteger, IntegerCell.integer?]
  | real => simp [readInteger, IntegerCell.integer?]
  | text => simp [readInteger, IntegerCell.integer?]

/-- A version is read if it is positive and has at most 32 bits. -/
theorem readVersion_eq_ok_iff {i : Int} {v : UInt32} :
  readVersion i = .ok v ↔ i = v.toNat ∧ v ≠ 0
  := by
  constructor
  · intro h
    have hi := toNat_of_readVersion_eq_ok h
    use hi.symm
    rintro rfl
    subst hi
    cases readVersion_zero.symm.trans h
  · rintro ⟨rfl, hv⟩
    exact readVersion_toNat hv

end Row

/-- A key pair is read back from its row. -/
theorem KeyPairRow.toRecord_ofRecord (k : StoredKeyPair) :
  (ofRecord k).toRecord = .ok k
  := by
  simp [toRecord, ofRecord, bind, Except.bind, pure, Except.pure]

/-- A conversation key is read back from its row, if its version may stand there. -/
theorem ConversationKeyRow.toRecord_ofRecord {k : StoredConversationKey} (hv : k.version ≠ 0) :
  (ofRecord k).toRecord = .ok k
  := by
  simp [toRecord, ofRecord, Row.readVersion_toNat hv, bind, Except.bind, pure, Except.pure]

/-- A rotation is read back from its row, if its new version may stand there. -/
theorem RotationRow.toRecord_ofRecord {r : RotationRecord} (hv : r.newVersion ≠ 0) :
  (ofRecord r).toRecord = .ok r
  := by
  refine Except.bind_eq_ok_iff.2 ⟨_, Row.readInstant_storedText _, ?_⟩
  refine Except.bind_eq_ok_iff.2 ⟨_, Row.readInteger_integer _, ?_⟩
  refine Except.bind_eq_ok_iff.2 ⟨_, Row.readInteger_integer _, ?_⟩
  refine Except.bind_eq_ok_iff.2 ⟨_, Row.readOldVersion_toNat _, ?_⟩
  exact Except.bind_eq_ok_iff.2 ⟨_, Row.readVersion_toNat hv, rfl⟩

theorem RotationRow.newVersion_ofRecord_eq_zero_iff {r : RotationRecord} :
  (ofRecord r).newVersion = .integer 0 ↔ r.newVersion = 0
  := by
  rw [ofRecord, IntegerCell.integer.injEq, ← UInt32.toNat_inj, UInt32.toNat_zero]
  exact Int.natCast_eq_zero

/-- A rotation to version zero is not read back. -/
theorem RotationRow.toRecord_ofRecord_of_zero {r : RotationRecord} (hv : r.newVersion = 0) :
  (ofRecord r).toRecord = .error (.format "bad key version 0")
  := by
  have hversion : Row.readVersion (r.newVersion.toNat : Int) =
      .error (.format "bad key version 0") := by
    rw [hv]
    exact Row.readVersion_zero
  rw [toRecord, ofRecord, Row.readInstant_storedText, Except.ok_bind, Row.readInteger_integer,
    Except.ok_bind, Row.readInteger_integer, Except.ok_bind, Row.readOldVersion_toNat,
    Except.ok_bind, hversion, Except.error_bind]

/-- What is read from the row of a rotation is that rotation. -/
theorem RotationRow.eq_of_toRecord_ofRecord {r s : RotationRecord}
    (h : (ofRecord r).toRecord = .ok s) :
  s = r
  := by
  obtain ⟨_, hrotatedAt, h⟩ := Except.bind_eq_ok_iff.1 h
  obtain ⟨_, hold, h⟩ := Except.bind_eq_ok_iff.1 h
  obtain ⟨_, hnew, h⟩ := Except.bind_eq_ok_iff.1 h
  obtain ⟨old, hold', h⟩ := Except.bind_eq_ok_iff.1 h
  obtain ⟨new, hnew', h⟩ := Except.bind_eq_ok_iff.1 h
  cases (Row.readInstant_storedText _).symm.trans hrotatedAt
  cases hold
  cases hnew
  cases (Row.readOldVersion_toNat _).symm.trans hold'
  have hversion := Int.natCast_inj.1 (Row.toNat_of_readVersion_eq_ok hnew')
  cases UInt32.toNat_inj.1 hversion
  cases h
  rfl

end Keyring

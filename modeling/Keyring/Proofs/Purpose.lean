import Keyring.Proofs.Bytes
import Keyring.Purpose

/-!
# One encoding for each purpose

Ids may hold any text, even a zero byte, and only 32 bits of their length are written down.  Still no
two purposes share their associated data: the first five bytes tell the kinds apart, and what stands
behind an id has a fixed length, so the whole length gives that of the id.  The labels under which
conversation keys are derived are told apart in the same way.
-/

namespace Keyring

namespace Purpose

variable {s t : String} {a b : Bytes}

/-- A counted text in front of a fixed number of bytes is told from every other one.  The number before
it is not needed for this. -/
theorem counted_append_inj (h : a.length = b.length) :
  counted s ++ a = counted t ++ b ↔ s = t ∧ a = b
  := by
  constructor
  · intro heq
    obtain ⟨hcounted, hrest⟩ := List.append_inj' heq h
    have hlength : (Bytes.bigEndian 4 (Bytes.utf8 s).length).length =
      (Bytes.bigEndian 4 (Bytes.utf8 t).length).length := by simp
    exact ⟨Bytes.utf8_inj.1 (List.append_inj hcounted hlength).2, hrest⟩
  · rintro ⟨rfl, rfl⟩
    rfl

/-- So is one that stands between a label with a zero and a version. -/
theorem versioned_inj {label : Bytes} {v w : UInt32} :
  label ++ 0 :: counted s ++ Bytes.bigEndian 4 v.toNat =
      label ++ 0 :: counted t ++ Bytes.bigEndian 4 w.toNat ↔
    s = t ∧ v = w
  := by
  have hlength : (Bytes.bigEndian 4 v.toNat).length = (Bytes.bigEndian 4 w.toNat).length := by simp
  rw [List.append_assoc, List.append_assoc, List.append_cancel_left_eq, List.cons_append,
    List.cons_append, List.cons.injEq, and_iff_right rfl, counted_append_inj hlength,
    Bytes.bigEndian_inj v.toNat_lt w.toNat_lt, UInt32.toNat_inj]

/-- So is a text behind a label with a zero. -/
theorem labelled_inj {label : Bytes} :
  label ++ 0 :: Bytes.utf8 s = label ++ 0 :: Bytes.utf8 t ↔ s = t
  := by
  rw [List.append_cancel_left_eq, List.cons.injEq, and_iff_right rfl, Bytes.utf8_inj]

/-- The five bytes with which the associated data start. -/
def mark : Purpose → Bytes
  | .keyPair _ => Bytes.utf8 "ck-ke"
  | .conversationKey _ _ => Bytes.utf8 "ck-co"
  | .message _ => Bytes.utf8 "ck-me"
  | .backup => Bytes.utf8 "ck-ba"
  | .masterCheck => Bytes.utf8 "ck-ma"

theorem take_associatedData (p : Purpose) :
  p.associatedData.take 5 = p.mark
  := by
  cases p with
  | keyPair id => rfl
  | conversationKey id version => rfl
  | message id => rfl
  | backup => rfl
  | masterCheck => rfl

theorem eq_of_associatedData_eq {p q : Purpose} (h : p.associatedData = q.associatedData) :
  p = q
  := by
  have hmark : p.mark = q.mark := by rw [← take_associatedData, h, take_associatedData]
  -- Two kinds have different marks; only equal kinds are left.
  cases p <;> cases q <;> simp [mark, Bytes.utf8_inj] at hmark
  case keyPair.keyPair id id' => rw [labelled_inj.1 h]
  case conversationKey.conversationKey id version id' version' =>
    obtain ⟨hid, hversion⟩ := versioned_inj.1 h
    rw [hid, hversion]
  case message.message id id' => rw [labelled_inj.1 h]
  case backup.backup => rfl
  case masterCheck.masterCheck => rfl

end Purpose

/-- The associated data determine the purpose, of whatever kind and for whatever id and version; and
the label of a derivation determines conversation and version. -/
theorem purposes_are_told_apart :
  (∀ p q : Purpose, p.associatedData = q.associatedData ↔ p = q) ∧
  ∀ (id id' : String) (version version' : UInt32),
    Purpose.derivationLabel id version = Purpose.derivationLabel id' version' ↔
      id = id' ∧ version = version'
  := by
  constructor
  · intro p q
    constructor
    · exact Purpose.eq_of_associatedData_eq
    · exact congrArg Purpose.associatedData
  · intro id id' version version'
    exact Purpose.versioned_inj

end Keyring

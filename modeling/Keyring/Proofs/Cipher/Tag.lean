import Keyring.Cipher.Gcm
import Keyring.Proofs.Cipher.Aes256
import Keyring.Proofs.Cipher.Ghash

/-!
# What a tag is bound to

Each block goes into the hash by a sum and a product with the hash key.  While this key is not zero, a
change of a single block therefore changes the hash, and so does a change of a single byte, which lies
in one block.  The mask of the hash is the enciphered initialisation vector, so a change of that alone
changes the tag under every key.
-/

namespace Keyring

/-- Lists that differ in exactly one place. -/
def DifferOnce {α : Type} (xs ys : List α) : Prop :=
  ∃ before x y after, xs = before ++ x :: after ∧ ys = before ++ y :: after ∧ x ≠ y

namespace DifferOnce

variable {α : Type} {xs ys : List α}

theorem length_eq (h : DifferOnce xs ys) :
  xs.length = ys.length
  := by
  obtain ⟨before, x, y, after, rfl, rfl, -⟩ := h
  simp

theorem ne (h : DifferOnce xs ys) :
  xs ≠ ys
  := by
  obtain ⟨before, x, y, after, rfl, rfl, hne⟩ := h
  simp [hne]

theorem append_left (before : List α) (h : DifferOnce xs ys) :
  DifferOnce (before ++ xs) (before ++ ys)
  := by
  obtain ⟨before', x, y, after, rfl, rfl, hne⟩ := h
  exists before ++ before', x, y, after
  rw [List.append_assoc, List.append_assoc]
  exact ⟨rfl, rfl, hne⟩

theorem append_right (after : List α) (h : DifferOnce xs ys) :
  DifferOnce (xs ++ after) (ys ++ after)
  := by
  obtain ⟨before, x, y, after', rfl, rfl, hne⟩ := h
  exists before, x, y, after' ++ after
  rw [List.append_assoc, List.append_assoc]
  exact ⟨rfl, rfl, hne⟩

end DifferOnce

/-- To flip a bit is to change one byte. -/
theorem Bytes.differOnce_flipBit {i : Nat} {b : Bytes} (hi : i < 8 * b.length) :
  DifferOnce (flipBit i b) b
  := by
  have hlt : i / 8 < b.length := by omega
  have hbit : ∀ n < 8, (1 : UInt8) <<< UInt8.ofNat n ≠ 0 := by decide
  exists b.take (i / 8), b[i / 8] ^^^ 1 <<< UInt8.ofNat (i % 8), b[i / 8], b.drop (i / 8 + 1)
  refine ⟨?_, ?_, ?_⟩
  · rw [flipBit, List.modify_eq_take_cons_drop hlt]
  · rw [← List.drop_eq_getElem_cons hlt, List.take_append_drop]
  · intro heq
    apply hbit (i % 8) (Nat.mod_lt i (by decide))
    apply (UInt8.xor_right_inj b[i / 8]).1
    rw [heq, UInt8.xor_zero]

namespace Ghash

/-! ### Blocks -/

/-- Blocks are told apart by their elements. -/
theorem ofBytes_inj {a b : Bytes} (ha : a.length = 16) (hb : b.length = 16) :
  ofBytes a = ofBytes b ↔ a = b
  := by
  have hlt {c : Bytes} (hc : c.length = 16) : Bytes.toNatBigEndian c < 2 ^ 128 := by
    have h := Bytes.toNatBigEndian_lt c
    rw [hc] at h
    exact h
  rw [← Bytes.toNatBigEndian_inj (ha.trans hb.symm), ofBytes, ofBytes]
  constructor
  · intro h
    have hnat := congrArg BitVec.toNat h
    rw [BitVec.toNat_ofNat, BitVec.toNat_ofNat, Nat.mod_eq_of_lt (hlt ha), Nat.mod_eq_of_lt (hlt hb)] at hnat
    exact hnat
  · intro h
    rw [h]

/-- Elements are told apart by their blocks. -/
theorem toBlock_injective :
  Function.Injective toBlock
  := by
  intro x y h
  apply BitVec.eq_of_toNat_eq
  exact (Bytes.bigEndian_inj x.isLt y.isLt).1 (congrArg Block.bytes h)

theorem blocks_of_ne_nil {b : Bytes} (h : b ≠ []) :
  blocks b = ofBytes (b.take 16 ++ List.replicate (16 - b.length) 0) :: blocks (b.drop 16)
  := by
  rw [blocks, dif_neg (by simpa using h)]

/-- A change of one byte is a change of one block. -/
theorem differOnce_blocks {b b' : Bytes} (h : DifferOnce b b') :
  DifferOnce (blocks b) (blocks b')
  := by
  have hlength := h.length_eq
  obtain ⟨before, x, y, after, rfl, rfl, hne⟩ := h
  have hnil (z : UInt8) (before : Bytes) : before ++ z :: after ≠ [] := by simp
  -- The whole blocks in front of the changed one are taken away one after another.
  induction hn : before.length using Nat.strong_induction_on generalizing before with
  | _ n ih =>
    subst hn
    rw [blocks_of_ne_nil (hnil x before), blocks_of_ne_nil (hnil y before), hlength]
    by_cases hlt : before.length < 16
    · have htake (z : UInt8) :
          (before ++ z :: after).take 16 = before ++ z :: after.take (15 - before.length) := by
        rw [List.take_append, List.take_of_length_le (Nat.le_of_lt hlt),
          show 16 - before.length = 15 - before.length + 1 by omega, List.take_succ_cons]
      have hdrop (z : UInt8) :
          (before ++ z :: after).drop 16 = after.drop (15 - before.length) := by
        rw [List.drop_append, List.drop_of_length_le (Nat.le_of_lt hlt),
          show 16 - before.length = 15 - before.length + 1 by omega, List.drop_succ_cons,
          List.nil_append]
      rw [hdrop, hdrop]
      refine ⟨[], _, _, blocks (after.drop (15 - before.length)), rfl, rfl, ?_⟩
      rw [Ne, ofBytes_inj, htake, htake]
      · simp [hne]
      · simp; omega
      · simp; omega
    · have htake (z : UInt8) : (before ++ z :: after).take 16 = before.take 16 := by
        rw [List.take_append_of_le_length (by omega)]
      have hdrop (z : UInt8) : (before ++ z :: after).drop 16 = before.drop 16 ++ z :: after := by
        rw [List.drop_append_of_le_length (by omega)]
      rw [htake, htake, hdrop, hdrop]
      apply DifferOnce.append_left [_]
      apply ih (before.drop 16).length _ (before.drop 16) _ rfl
      · rw [List.length_drop]
        omega
      · simp

/-- A change of one byte of the ciphertext or of the associated data is a change of one of the blocks
that are hashed. -/
theorem differOnce_message_ciphertext {associated c c' : Bytes} (h : DifferOnce c c') :
  DifferOnce (message associated c) (message associated c')
  := by
  rw [message, message, h.length_eq, List.append_assoc, List.append_assoc]
  apply DifferOnce.append_left
  apply DifferOnce.append_right
  exact differOnce_blocks h

theorem differOnce_message_associated {a a' ciphertext : Bytes} (h : DifferOnce a a') :
  DifferOnce (message a ciphertext) (message a' ciphertext)
  := by
  rw [message, message, h.length_eq, List.append_assoc, List.append_assoc]
  apply DifferOnce.append_right
  exact differOnce_blocks h

/-! ### Hashes -/

variable {h : Element}

/-- What is hashed before the last blocks is not lost. -/
theorem foldl_injective (hh : h ≠ 0) (xs : List Element) :
  Function.Injective fun y => xs.foldl (fun y x => multiply (y ^^^ x) h) y
  := by
  induction xs with
  | nil => exact Function.injective_id
  | cons x xs ih =>
    intro y z heq
    exact (BitVec.xor_left_inj _).1 (multiply_right_injective hh (ih heq))

/-- A change of one block changes the hash. -/
theorem hash_ne (hh : h ≠ 0) {xs ys : List Element} (hdiffer : DifferOnce xs ys) :
  hash h xs ≠ hash h ys
  := by
  obtain ⟨before, x, y, after, rfl, rfl, hne⟩ := hdiffer
  intro heq
  rw [hash, hash, List.foldl_append, List.foldl_append, List.foldl_cons, List.foldl_cons] at heq
  exact hne ((BitVec.xor_right_inj _).1 (multiply_right_injective hh (foldl_injective hh after heq)))

end Ghash

namespace Gcm

variable {keys : List Aes256.State} {iv iv' : Iv} {associated associated' ciphertext ciphertext' : Bytes}

/-- A counter block tells its initialisation vector. -/
theorem counterBlock_injective (number : UInt32) :
  Function.Injective fun iv : Iv => counterBlock iv number
  := by
  intro iv iv' h
  match iv, iv' with
  | ⟨[x0, x1, x2, x3, x4, x5, x6, x7, x8, x9, x10, x11], _⟩,
    ⟨[y0, y1, y2, y3, y4, y5, y6, y7, y8, y9, y10, y11], _⟩ =>
    obtain ⟨h0, h1, h2, -⟩ := Aes256.State.mk.inj h
    obtain ⟨rfl, rfl, rfl, rfl⟩ := (Aes256.word_inj ..).1 h0
    obtain ⟨rfl, rfl, rfl, rfl⟩ := (Aes256.word_inj ..).1 h1
    obtain ⟨rfl, rfl, rfl, rfl⟩ := (Aes256.word_inj ..).1 h2
    rfl

/-- Different initialisation vectors have different masks. -/
theorem mask_injective (keys : List Aes256.State) :
  Function.Injective (mask keys)
  := by
  intro iv iv' h
  rw [mask, mask, Ghash.ofBytes_inj (Aes256.State.length_bytes _) (Aes256.State.length_bytes _)] at h
  exact counterBlock_injective 1
    (Aes256.encipher_injective keys (Aes256.State.bytes_injective h))

/-- A change of the initialisation vector alone changes the tag. -/
theorem tag_ne_of_iv_ne (hne : iv ≠ iv') :
  tag keys iv associated ciphertext ≠ tag keys iv' associated ciphertext
  := by
  intro h
  exact hne (mask_injective keys ((BitVec.xor_right_inj _).1 (Ghash.toBlock_injective h)))

/-- A change of one hashed block changes the tag, while the hash key is not zero. -/
theorem tag_ne_of_differOnce (hkeys : hashKey keys ≠ 0)
    (hdiffer : DifferOnce (Ghash.message associated ciphertext)
      (Ghash.message associated' ciphertext')) :
  tag keys iv associated ciphertext ≠ tag keys iv associated' ciphertext'
  := by
  intro h
  exact Ghash.hash_ne hkeys hdiffer ((BitVec.xor_left_inj _).1 (Ghash.toBlock_injective h))

end Gcm

end Keyring

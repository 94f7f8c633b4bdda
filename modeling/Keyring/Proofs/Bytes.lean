import Keyring.Bytes
import Mathlib.Data.List.Induction
import Mathlib.Tactic.Ring

/-!
# Numbers in bytes

A number that is written in bytes, most significant byte first, is read back up to the number of
bytes, and every byte string is the one in which its number is written.  So numbers that fit are told
apart by their bytes, and byte strings of one length by their numbers.
-/

namespace Keyring.Bytes

/-- What holds of the first numbers as bytes holds of the bytes below them. -/
theorem forall_lt {m : Nat} {p : UInt8 → Prop} (h : ∀ n < m, p (UInt8.ofNat n)) {x : UInt8}
    (hx : x.toNat < m) :
  p x
  := by
  rw [← UInt8.ofNat_toNat (x := x)]
  exact h x.toNat hx

/-- The number of a byte string that a byte follows. -/
theorem toNatBigEndian_concat (b : Bytes) (x : UInt8) :
  toNatBigEndian (b ++ [x]) = 256 * toNatBigEndian b + x.toNat
  := by
  rw [toNatBigEndian, List.foldl_append]
  rfl

/-- A number is read back as far as there are bytes for it. -/
theorem toNatBigEndian_bigEndian (width n : Nat) :
  toNatBigEndian (bigEndian width n) = n % 256 ^ width
  := by
  induction width generalizing n with
  | zero =>
    rw [pow_zero, Nat.mod_one]
    rfl
  | succ width ih =>
    have hlast : (UInt8.ofNat n).toNat = n % 256 := UInt8.toNat_ofNat'
    rw [bigEndian, toNatBigEndian_concat, ih, hlast, pow_succ', Nat.mod_mul]
    ring

/-- A byte string is the one in which its number is written. -/
theorem bigEndian_toNatBigEndian (b : Bytes) :
  bigEndian b.length (toNatBigEndian b) = b
  := by
  induction b using List.reverseRecOn with
  | nil => rfl
  | append_singleton b x ih =>
    have hx : x.toNat < 256 := x.toNat_lt
    have hquotient : (256 * toNatBigEndian b + x.toNat) / 256 = toNatBigEndian b := by omega
    have hlast : UInt8.ofNat (256 * toNatBigEndian b + x.toNat) = x := by
      apply UInt8.toNat_inj.1
      rw [UInt8.toNat_ofNat']
      omega
    rw [List.length_append, List.length_singleton, toNatBigEndian_concat, bigEndian, hquotient, ih,
      hlast]

theorem toNatBigEndian_lt (b : Bytes) :
  toNatBigEndian b < 256 ^ b.length
  := by
  have h := toNatBigEndian_bigEndian b.length (toNatBigEndian b)
  rw [bigEndian_toNatBigEndian] at h
  rw [h]
  apply Nat.mod_lt
  apply Nat.pow_pos
  decide

/-- Byte strings of one length are told apart by their numbers. -/
theorem toNatBigEndian_inj {a b : Bytes} (h : a.length = b.length) :
  toNatBigEndian a = toNatBigEndian b ↔ a = b
  := by
  constructor
  · intro hn
    rw [← bigEndian_toNatBigEndian a, ← bigEndian_toNatBigEndian b, h, hn]
  · rintro rfl
    rfl

/-- Numbers that fit are told apart by their bytes. -/
theorem bigEndian_inj {width m n : Nat} (hm : m < 256 ^ width) (hn : n < 256 ^ width) :
  bigEndian width m = bigEndian width n ↔ m = n
  := by
  constructor
  · intro h
    have hnumber := congrArg toNatBigEndian h
    rw [toNatBigEndian_bigEndian, toNatBigEndian_bigEndian, Nat.mod_eq_of_lt hm,
      Nat.mod_eq_of_lt hn] at hnumber
    exact hnumber
  · rintro rfl
    rfl

end Keyring.Bytes

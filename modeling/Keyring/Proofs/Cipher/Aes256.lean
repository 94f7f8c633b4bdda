import Keyring.Cipher.Aes256
import Keyring.Proofs.Bytes

/-!
# Enciphering loses nothing

Under any round keys, different blocks are enciphered to different blocks.  Each step of a round can be
undone: the substitution of bytes is an affine map after an inversion that is its own inverse, the mixing
of a column is linear over exclusive or and gives the column back after four times, and the rest moves
bytes and adds a key.
-/

namespace Keyring.Aes256

/-! ### Bytes -/

/-! The inverses of all bytes are compared as numbers, with which they are computed much faster. -/

/-- The double of a byte that is given as a number. -/
def doubleNat (a : Nat) : Nat :=
  bif a.ble 127 then 2 * a else (2 * a).xor 0x11b

/-- `sum` plus the product of `a` and the low `n` bits of `b`, all of them numbers. -/
def multiplyAddNat : (n : Nat) → (a b sum : Nat) → Nat
  | 0, _, _, sum => sum
  | n + 1, a, b, sum =>
    multiplyAddNat n (doubleNat a) (b / 2) (bif (b % 2).beq 0 then sum else sum.xor a)

/-- The product of two bytes that are given as numbers. -/
def multiplyNat (a b : Nat) : Nat := multiplyAddNat 8 a b 0

/-- The inverse of a byte that is given as a number. -/
def inverseNat (a : Nat) : Nat :=
  let a2 := multiplyNat a a
  let a3 := multiplyNat a2 a
  let a6 := multiplyNat a3 a3
  let a7 := multiplyNat a6 a
  let a14 := multiplyNat a7 a7
  let a15 := multiplyNat a14 a
  let a30 := multiplyNat a15 a15
  let a31 := multiplyNat a30 a
  let a62 := multiplyNat a31 a31
  let a63 := multiplyNat a62 a
  let a126 := multiplyNat a63 a63
  let a127 := multiplyNat a126 a
  multiplyNat a127 a127

/-- The affine map of the substitution. -/
def affine (a : UInt8) : UInt8 :=
  let rotate (n : UInt8) := a <<< n ||| a >>> (8 - n)
  a ^^^ rotate 1 ^^^ rotate 2 ^^^ rotate 3 ^^^ rotate 4 ^^^ 0x63

/-- The map that undoes it. -/
def unaffine (a : UInt8) : UInt8 :=
  let rotate (n : UInt8) := a <<< n ||| a >>> (8 - n)
  rotate 1 ^^^ rotate 3 ^^^ rotate 6 ^^^ 0x05

/-- What is checked of one byte after the other. -/
theorem bytes_checked :
  ∀ n < 256, (double (UInt8.ofNat n)).toNat = doubleNat n ∧ inverseNat (inverseNat n) = n ∧
    unaffine (affine (UInt8.ofNat n)) = UInt8.ofNat n
  := by
  decide +kernel

theorem toNat_double (a : UInt8) :
  (double a).toNat = doubleNat a.toNat
  := by
  have h := (bytes_checked a.toNat a.toNat_lt).1
  rw [UInt8.ofNat_toNat] at h
  exact h

theorem toNat_multiplyAdd (n : Nat) (a b sum : UInt8) :
  (multiplyAdd n a b sum).toNat = multiplyAddNat n a.toNat b.toNat sum.toNat
  := by
  induction n generalizing a b sum with
  | zero => rfl
  | succ n ih =>
    have hhalf : (b >>> 1).toNat = b.toNat / 2 := by simp [Nat.shiftRight_eq_div_pow]
    have hlast : b &&& 1 = 0 ↔ b.toNat % 2 = 0 := by simp [← UInt8.toNat_inj]
    rw [multiplyAdd, multiplyAddNat, ih, toNat_double, hhalf]
    by_cases hb : b.toNat % 2 = 0
    · rw [if_pos (hlast.2 hb), hb]
      rfl
    · rw [if_neg fun h => hb (hlast.1 h), Nat.mod_two_ne_zero.1 hb]
      rfl

theorem toNat_multiply (a b : UInt8) :
  (multiply a b).toNat = multiplyNat a.toNat b.toNat
  := toNat_multiplyAdd 8 a b 0

theorem toNat_inverse (a : UInt8) :
  (inverse a).toNat = inverseNat a.toNat
  := by
  simp only [inverse, inverseNat, toNat_multiply]

theorem inverse_inverse (a : UInt8) :
  inverse (inverse a) = a
  := by
  rw [← UInt8.toNat_inj, toNat_inverse, toNat_inverse]
  exact (bytes_checked a.toNat a.toNat_lt).2.1

theorem unaffine_affine (a : UInt8) :
  unaffine (affine a) = a
  := by
  have h := (bytes_checked a.toNat a.toNat_lt).2.2
  rw [UInt8.ofNat_toNat] at h
  exact h

theorem substitute_injective :
  Function.Injective substitute
  := (Function.LeftInverse.injective unaffine_affine).comp
    (Function.LeftInverse.injective inverse_inverse)

/-! ### Words of bytes -/

section

variable (a b c d a' b' c' d' : UInt8)

theorem toBitVec_word :
  (word a b c d).toBitVec = a.toBitVec ++ b.toBitVec ++ c.toBitVec ++ d.toBitVec
  := by
  have ha := a.toNat_lt
  have hb := b.toNat_lt
  have hc := c.toNat_lt
  apply BitVec.eq_of_toNat_eq
  simp only [word, UInt32.toNat_toBitVec, UInt32.toNat_or, UInt32.toNat_shiftLeft,
    UInt8.toNat_toUInt32, BitVec.toNat_append, UInt8.toNat_toBitVec, Nat.shiftLeft_or_distrib,
    ← Nat.shiftLeft_add, UInt32.reduceToNat, Nat.reduceMod]
  -- No byte is moved beyond the end of the word.
  rw [Nat.mod_eq_of_lt (b := 2 ^ 32), Nat.mod_eq_of_lt (b := 2 ^ 32), Nat.mod_eq_of_lt (b := 2 ^ 32)]
  all_goals rw [Nat.shiftLeft_eq]; omega

theorem toNat_word :
  (word a b c d).toNat = ((a.toNat * 2 ^ 8 + b.toNat) * 2 ^ 8 + c.toNat) * 2 ^ 8 + d.toNat
  := by
  rw [← UInt32.toNat_toBitVec, toBitVec_word]
  simp only [BitVec.toNat_append, UInt8.toNat_toBitVec]
  rw [← Nat.shiftLeft_add_eq_or_of_lt b.toNat_lt, ← Nat.shiftLeft_add_eq_or_of_lt c.toNat_lt,
    ← Nat.shiftLeft_add_eq_or_of_lt d.toNat_lt, Nat.shiftLeft_eq, Nat.shiftLeft_eq, Nat.shiftLeft_eq]

theorem word_inj :
  word a b c d = word a' b' c' d' ↔ a = a' ∧ b = b' ∧ c = c' ∧ d = d'
  := by
  have ha := a.toNat_lt
  have ha' := a'.toNat_lt
  have hb := b.toNat_lt
  have hb' := b'.toNat_lt
  have hc := c.toNat_lt
  have hc' := c'.toNat_lt
  have hd := d.toNat_lt
  have hd' := d'.toNat_lt
  simp only [← UInt32.toNat_inj, ← UInt8.toNat_inj, toNat_word]
  omega

/-- A word is made of its bytes. -/
theorem word_bytes (w : UInt32) :
  word (w >>> 24).toUInt8 (w >>> 16).toUInt8 (w >>> 8).toUInt8 w.toUInt8 = w
  := by
  have hw := w.toNat_lt
  simp only [← UInt32.toNat_inj, UInt32.toNat_toUInt8, UInt32.toNat_shiftRight, toNat_word,
    Nat.shiftRight_eq_div_pow, UInt32.reduceToNat, Nat.reduceMod]
  omega

theorem word_xor :
  word a b c d ^^^ word a' b' c' d' = word (a ^^^ a') (b ^^^ b') (c ^^^ c') (d ^^^ d')
  := by
  apply UInt32.toBitVec_inj.1
  rw [UInt32.toBitVec_xor, toBitVec_word, toBitVec_word, toBitVec_word, BitVec.xor_append,
    BitVec.xor_append, BitVec.xor_append]
  rfl

theorem word_and :
  word a b c d &&& word a' b' c' d' = word (a &&& a') (b &&& b') (c &&& c') (d &&& d')
  := by
  apply UInt32.toBitVec_inj.1
  rw [UInt32.toBitVec_and, toBitVec_word, toBitVec_word, toBitVec_word, BitVec.and_append,
    BitVec.and_append, BitVec.and_append]
  rfl

end

/-! ### Mixing a column -/

theorem and_xor (x y z : UInt32) :
  (x ^^^ y) &&& z = (x &&& z) ^^^ (y &&& z)
  := by
  apply UInt32.toNat_inj.1
  rw [UInt32.toNat_and, UInt32.toNat_xor, Nat.and_xor_distrib_right]
  rfl

/-- A byte of which only the last bit may be set. -/
def bit (p : Bool) : UInt8 :=
  if p then 1 else 0

theorem exists_bit (a : UInt8) :
  ∃ p, a &&& 1 = bit p
  := by
  have hand : (a &&& 1).toNat = a.toNat % 2 := by simp
  rcases Nat.mod_two_eq_zero_or_one a.toNat with h | h
  · exact ⟨false, UInt8.toNat_inj.1 (hand.trans h)⟩
  · exact ⟨true, UInt8.toNat_inj.1 (hand.trans h)⟩

theorem bit_xor (p q : Bool) :
  bit p ^^^ bit q = bit (p ^^ q)
  := by
  revert p q
  decide

theorem bit_mul_xor (p q : Bool) :
  bit (p ^^ q) * 0x1b = bit p * 0x1b ^^^ bit q * 0x1b
  := by
  revert p q
  decide

/-- The last bits of the bytes of a word. -/
theorem exists_bits (w : UInt32) :
  ∃ p q r s, w &&& 0x01010101 = word (bit p) (bit q) (bit r) (bit s)
  := by
  have hmask : (0x01010101 : UInt32) = word 1 1 1 1 := by decide
  obtain ⟨p, hp⟩ := exists_bit (w >>> 24).toUInt8
  obtain ⟨q, hq⟩ := exists_bit (w >>> 16).toUInt8
  obtain ⟨r, hr⟩ := exists_bit (w >>> 8).toUInt8
  obtain ⟨s, hs⟩ := exists_bit w.toUInt8
  exists p, q, r, s
  rw [← word_bytes w, hmask, word_and, hp, hq, hr, hs]

/-- The products of single bits stay within their bytes. -/
theorem word_bits_mul (p q r s : Bool) :
  word (bit p) (bit q) (bit r) (bit s) * 0x1b =
    word (bit p * 0x1b) (bit q * 0x1b) (bit r * 0x1b) (bit s * 0x1b)
  := by
  revert p q r s
  decide

theorem bits_mul_xor (x y : UInt32) :
  ((x ^^^ y) &&& 0x01010101) * 0x1b = (x &&& 0x01010101) * 0x1b ^^^ (y &&& 0x01010101) * 0x1b
  := by
  obtain ⟨p, q, r, s, hx⟩ := exists_bits x
  obtain ⟨p', q', r', s', hy⟩ := exists_bits y
  simp only [and_xor, hx, hy, word_xor, bit_xor, word_bits_mul, bit_mul_xor]

theorem doubles_xor (x y : UInt32) :
  doubles (x ^^^ y) = doubles x ^^^ doubles y
  := by
  simp only [doubles, UInt32.shiftLeft_xor, UInt32.shiftRight_xor, bits_mul_xor]
  rw [and_xor]
  ac_rfl

theorem rotateLeft_xor (x y : UInt32) {n : UInt32} (hpos : 0 < n.toNat) (hlt : n.toNat < 32) :
  rotateLeft (x ^^^ y) n = rotateLeft x n ^^^ rotateLeft y n
  := by
  have hleft : n.toNat % 32 = n.toNat := Nat.mod_eq_of_lt hlt
  have hsub : (32 - n).toNat = 32 - n.toNat :=
    UInt32.toNat_sub_of_le 32 n (UInt32.le_iff_toNat_le.2 (Nat.le_of_lt hlt))
  have hright : (32 - n).toNat % 32 = 32 - n.toNat := by omega
  -- A bit comes either from the left or from the right.
  have hend (z : UInt32) (i : Nat) (hi : n.toNat ≤ i) : z.toNat.testBit (32 - n.toNat + i) = false := by
    apply Nat.testBit_lt_two_pow
    apply Nat.lt_of_lt_of_le z.toNat_lt
    apply Nat.pow_le_pow_right (by decide)
    omega
  apply UInt32.toNat_inj.1
  apply Nat.eq_of_testBit_eq
  intro i
  simp only [rotateLeft, UInt32.toNat_or, UInt32.toNat_xor, UInt32.toNat_shiftLeft,
    UInt32.toNat_shiftRight, hleft, hright, Nat.testBit_or, Nat.testBit_xor, Nat.testBit_mod_two_pow,
    Nat.testBit_shiftLeft, Nat.testBit_shiftRight]
  by_cases hi : n.toNat ≤ i
  · simp [hi, hend x i hi, hend y i hi, Bool.and_xor_distrib_left]
  · simp [hi]

theorem mixColumn_xor (x y : UInt32) :
  mixColumn (x ^^^ y) = mixColumn x ^^^ mixColumn y
  := by
  have h8 := rotateLeft_xor x y (n := 8) (by decide) (by decide)
  have h16 := rotateLeft_xor x y (n := 16) (by decide) (by decide)
  have h24 := rotateLeft_xor x y (n := 24) (by decide) (by decide)
  simp only [mixColumn, h8, h16, h24, doubles_xor]
  ac_rfl

/-- A column that is mixed four times. -/
def mixFour (w : UInt32) : UInt32 :=
  mixColumn (mixColumn (mixColumn (mixColumn w)))

theorem mixFour_xor (x y : UInt32) :
  mixFour (x ^^^ y) = mixFour x ^^^ mixFour y
  := by
  simp only [mixFour, mixColumn_xor]

theorem mixFour_byte (a : UInt8) :
  mixFour (word a 0 0 0) = word a 0 0 0 ∧ mixFour (word 0 a 0 0) = word 0 a 0 0 ∧
    mixFour (word 0 0 a 0) = word 0 0 a 0 ∧ mixFour (word 0 0 0 a) = word 0 0 0 a
  := by
  apply Bytes.forall_lt (p := fun a =>
    mixFour (word a 0 0 0) = word a 0 0 0 ∧ mixFour (word 0 a 0 0) = word 0 a 0 0 ∧
      mixFour (word 0 0 a 0) = word 0 0 a 0 ∧ mixFour (word 0 0 0 a) = word 0 0 0 a) _ a.toNat_lt
  decide +kernel

/-- A word is the sum of the words of its bytes. -/
theorem word_eq_xor (a b c d : UInt8) :
  word a b c d = word a 0 0 0 ^^^ word 0 b 0 0 ^^^ word 0 0 c 0 ^^^ word 0 0 0 d
  := by
  simp [word_xor]

/-- A column that is mixed four times is itself again. -/
theorem mixFour_eq (w : UInt32) :
  mixFour w = w
  := by
  rw [← word_bytes w, word_eq_xor, mixFour_xor, mixFour_xor, mixFour_xor, (mixFour_byte _).1,
    (mixFour_byte _).2.1, (mixFour_byte _).2.2.1, (mixFour_byte _).2.2.2]

theorem mixColumn_injective :
  Function.Injective mixColumn
  := by
  intro x y h
  rw [← mixFour_eq x, ← mixFour_eq y, mixFour, mixFour, h]

/-! ### Rounds -/

theorem look_eq (x : UInt32) :
  look x = (substitute x.toUInt8).toUInt32
  := by
  have hx : (x % 256).toNat = x.toUInt8.toNat := by simp
  rw [look, hx, table, Array.getD_eq_getD_getElem?, Array.getElem?_map, Array.getElem?_range,
    if_pos x.toUInt8.toNat_lt, Option.map_some, Option.getD_some, UInt8.ofNat_toNat]

/-- A gathered column has one substituted byte of each of the four. -/
theorem gather_inj {a b c d a' b' c' d' : UInt32} :
  gather a b c d = gather a' b' c' d' ↔
    (a >>> 24).toUInt8 = (a' >>> 24).toUInt8 ∧ (b >>> 16).toUInt8 = (b' >>> 16).toUInt8 ∧
      (c >>> 8).toUInt8 = (c' >>> 8).toUInt8 ∧ d.toUInt8 = d'.toUInt8
  := by
  have hgather (a b c d : UInt32) : gather a b c d =
      word (substitute (a >>> 24).toUInt8) (substitute (b >>> 16).toUInt8)
        (substitute (c >>> 8).toUInt8) (substitute d.toUInt8) := by
    rw [gather, look_eq, look_eq, look_eq, look_eq, word]
  rw [hgather, hgather, word_inj, substitute_injective.eq_iff, substitute_injective.eq_iff,
    substitute_injective.eq_iff, substitute_injective.eq_iff]

/-- Words are told apart by their bytes. -/
theorem eq_of_bytes_eq {x y : UInt32} (h24 : (x >>> 24).toUInt8 = (y >>> 24).toUInt8)
    (h16 : (x >>> 16).toUInt8 = (y >>> 16).toUInt8) (h8 : (x >>> 8).toUInt8 = (y >>> 8).toUInt8)
    (h0 : x.toUInt8 = y.toUInt8) :
  x = y
  := by
  rw [← word_bytes x, ← word_bytes y, h24, h16, h8, h0]

namespace State

theorem eq_of_columns_eq {s t : State} (h0 : s.c0 = t.c0) (h1 : s.c1 = t.c1) (h2 : s.c2 = t.c2)
    (h3 : s.c3 = t.c3) :
  s = t
  := by
  cases s
  cases t
  cases h0
  cases h1
  cases h2
  cases h3
  rfl

theorem add_injective (k : State) :
  Function.Injective fun s : State => s.add k
  := by
  intro s t h
  obtain ⟨h0, h1, h2, h3⟩ := State.mk.inj h
  exact eq_of_columns_eq ((UInt32.xor_left_inj _).1 h0) ((UInt32.xor_left_inj _).1 h1)
    ((UInt32.xor_left_inj _).1 h2) ((UInt32.xor_left_inj _).1 h3)

theorem mixColumns_injective :
  Function.Injective mixColumns
  := by
  intro s t h
  obtain ⟨h0, h1, h2, h3⟩ := State.mk.inj h
  exact eq_of_columns_eq (mixColumn_injective h0) (mixColumn_injective h1) (mixColumn_injective h2)
    (mixColumn_injective h3)

theorem substituteShift_injective :
  Function.Injective substituteShift
  := by
  intro s t h
  obtain ⟨h0, h1, h2, h3⟩ := State.mk.inj h
  -- The first row stays, the others are moved by one, two and three columns.
  obtain ⟨r00, r11, r22, r33⟩ := gather_inj.1 h0
  obtain ⟨r01, r12, r23, r30⟩ := gather_inj.1 h1
  obtain ⟨r02, r13, r20, r31⟩ := gather_inj.1 h2
  obtain ⟨r03, r10, r21, r32⟩ := gather_inj.1 h3
  exact eq_of_columns_eq (eq_of_bytes_eq r00 r10 r20 r30) (eq_of_bytes_eq r01 r11 r21 r31)
    (eq_of_bytes_eq r02 r12 r22 r32) (eq_of_bytes_eq r03 r13 r23 r33)

theorem bytes_injective :
  Function.Injective bytes
  := by
  rintro ⟨x0, x1, x2, x3⟩ ⟨y0, y1, y2, y3⟩ h
  have hlength (x y : UInt32) :
      (Bytes.bigEndian 4 x.toNat).length = (Bytes.bigEndian 4 y.toNat).length := by simp
  have hword (x y : UInt32) (hxy : Bytes.bigEndian 4 x.toNat = Bytes.bigEndian 4 y.toNat) : x = y :=
    UInt32.toNat_inj.1 ((Bytes.bigEndian_inj x.toNat_lt y.toNat_lt).1 hxy)
  simp only [bytes, List.flatMap_cons, List.flatMap_nil, List.append_nil] at h
  obtain ⟨h0, h⟩ := List.append_inj h (hlength x0 y0)
  obtain ⟨h1, h⟩ := List.append_inj h (hlength x1 y1)
  obtain ⟨h2, h3⟩ := List.append_inj h (hlength x2 y2)
  rw [hword x0 y0 h0, hword x1 y1 h1, hword x2 y2 h2, hword x3 y3 h3]

end State

theorem rounds_injective (keys : List State) :
  Function.Injective (rounds keys)
  := by
  induction keys with
  | nil => exact Function.injective_id
  | cons k keys ih =>
    cases keys with
    | nil => exact (State.add_injective k).comp State.substituteShift_injective
    | cons l keys =>
      exact ih.comp ((State.add_injective k).comp
        (State.mixColumns_injective.comp State.substituteShift_injective))

/-- Different blocks are enciphered to different blocks. -/
theorem encipher_injective (keys : List State) :
  Function.Injective (encipher keys)
  := by
  cases keys with
  | nil => exact Function.injective_id
  | cons k keys => exact (rounds_injective keys).comp (State.add_injective k)

end Keyring.Aes256

import Keyring.Base64
import Keyring.Proofs.Bytes
import Mathlib.Tactic.IntervalCases

/-!
# Reading base64 back

A text in base64 consists of the symbols of the sextets of its bytes, and of padding.  The sextets
spell the bytes, the symbols are known by their values, and the padding is just the one that the
reader demands, so that every byte string is read back from its text.
-/

namespace Keyring

/-- Bytes below 128 are the UTF-8 bytes of the characters with these code points. -/
theorem Bytes.utf8_ofList_map {b : Bytes} (h : ∀ x ∈ b, x < 128) :
  utf8 (String.ofList (b.map fun x => Char.ofNat x.toNat)) = b
  := by
  rw [utf8, String.toByteArray_ofList]
  induction b with
  | nil => rfl
  | cons x rest ih =>
    obtain ⟨hx, hrest⟩ := List.forall_mem_cons.1 h
    have hlt : x.toNat < 128 := UInt8.lt_iff_toNat_lt.1 hx
    have hval : (Char.ofNat x.toNat).val = x.toUInt32 := by
      rw [Char.ofNat, dif_pos (Or.inl (by omega))]
      rfl
    have hsize : (Char.ofNat x.toNat).utf8Size = 1 := by
      rw [Char.utf8Size_eq_one_iff, hval, UInt32.le_iff_toNat_le, UInt8.toNat_toUInt32]
      exact Nat.le_of_lt_succ hlt
    rw [List.map_cons, List.utf8Encode_cons, ByteArray.toList_data_append, ih hrest,
      List.utf8Encode_singleton, String.utf8EncodeChar_eq_singleton hsize, hval,
      UInt8.toUInt8_toUInt32, List.toList_data_toByteArray]
    rfl

namespace Base64

/-! ### Sextets -/

/-- The groups of six bits of a byte string; the last one is filled up with zeroes. -/
def sextets : Bytes → Bytes
  | [] => []
  | [a] => [a >>> 2, a <<< 4 &&& 63]
  | [a, b] => [a >>> 2, (a <<< 4 ||| b >>> 4) &&& 63, b <<< 2 &&& 63]
  | a :: b :: c :: rest =>
    a >>> 2 :: ((a <<< 4 ||| b >>> 4) &&& 63) :: ((b <<< 2 ||| c >>> 6) &&& 63) :: (c &&& 63) ::
      sextets rest

/-- A text consists of the symbols of the sextets, and of padding. -/
theorem encodeBytes_eq (b : Bytes) :
  encodeBytes b = (sextets b).map symbol ++ List.replicate ((3 - b.length % 3) % 3) pad
  := by
  induction b using sextets.induct with
  | case1 => rfl
  | case2 a => rfl
  | case3 a b => rfl
  | case4 a b c rest ih =>
    have hlen : (a :: b :: c :: rest).length % 3 = rest.length % 3 := by
      simp only [List.length_cons]
      omega
    rw [encodeBytes, ih, hlen, sextets]
    rfl

/-- A last group of one or two bytes has two or three sextets. -/
theorem length_sextets_mod (b : Bytes) :
  b.length % 3 = 0 ∧ (sextets b).length % 4 = 0 ∨
    b.length % 3 = 1 ∧ (sextets b).length % 4 = 2 ∨
    b.length % 3 = 2 ∧ (sextets b).length % 4 = 3
  := by
  induction b using sextets.induct with
  | case1 => simp [sextets]
  | case2 a => simp [sextets]
  | case3 a b => simp [sextets]
  | case4 a b c rest ih =>
    simp only [sextets, List.length_cons]
    omega

theorem shiftRight_two_lt (a : UInt8) :
  a >>> 2 < 64
  := by
  have hlt := a.toNat_lt
  rw [UInt8.lt_iff_toNat_lt, UInt8.toNat_shiftRight]
  change a.toNat >>> 2 < 64
  rw [Nat.shiftRight_eq_div_pow]
  omega

theorem and_lt (a : UInt8) :
  a &&& 63 < 64
  := by
  rw [UInt8.lt_iff_toNat_lt, UInt8.toNat_and]
  change a.toNat &&& 63 < 64
  rw [Nat.and_two_pow_sub_one_eq_mod a.toNat 6]
  omega

theorem lt_of_mem_sextets {b : Bytes} :
  ∀ v ∈ sextets b, v < 64
  := by
  induction b using sextets.induct with
  | case1 => simp [sextets]
  | case2 a => simp [sextets, shiftRight_two_lt, and_lt]
  | case3 a b => simp [sextets, shiftRight_two_lt, and_lt]
  | case4 a b c rest ih =>
    simp only [sextets, List.forall_mem_cons, shiftRight_two_lt, and_lt, true_and]
    exact ih

/-! ### Bits -/

/-- The first byte of three, from its sextets. -/
theorem unpack_first (a b : UInt8) :
  (a >>> 2) <<< 2 ||| ((a <<< 4 ||| b >>> 4) &&& 63) >>> 4 = a
  := by
  apply UInt8.toBitVec_inj.1
  ext i hi
  interval_cases i <;> simp

theorem unpack_second (a b c : UInt8) :
  ((a <<< 4 ||| b >>> 4) &&& 63) <<< 4 ||| ((b <<< 2 ||| c >>> 6) &&& 63) >>> 2 = b
  := by
  apply UInt8.toBitVec_inj.1
  ext i hi
  interval_cases i <;> simp

theorem unpack_third (b c : UInt8) :
  ((b <<< 2 ||| c >>> 6) &&& 63) <<< 6 ||| (c &&& 63) = c
  := by
  apply UInt8.toBitVec_inj.1
  ext i hi
  interval_cases i <;> simp

/-- The sextets spell the bytes. -/
theorem unpack_sextets (b : Bytes) :
  unpack (sextets b) = b
  := by
  induction b using sextets.induct with
  | case1 => rfl
  | case2 a =>
    have h := unpack_first a 0
    simp at h
    simp [sextets, unpack, h]
  | case3 a b =>
    have h := unpack_second a b 0
    simp at h
    simp [sextets, unpack, unpack_first, h]
  | case4 a b c rest ih =>
    rw [sextets, unpack, unpack_first, unpack_second, unpack_third, ih]

/-- Four more values in front change nothing about the bits of the last one that belong to no byte. -/
theorem getLastD_and_unusedBits (a b c d : UInt8) (values : Bytes) :
  (a :: b :: c :: d :: values).getLastD 0 &&& unusedBits (a :: b :: c :: d :: values).length =
    values.getLastD 0 &&& unusedBits values.length
  := by
  have hlength : (a :: b :: c :: d :: values).length = values.length + 4 := rfl
  rw [hlength, unusedBits, Nat.add_mod_right, ← unusedBits]
  cases values with
  | nil => exact UInt8.and_zero
  | cons v values => rfl

/-- The bits of the last sextet that belong to no byte are zero. -/
theorem getLastD_sextets (b : Bytes) :
  (sextets b).getLastD 0 &&& unusedBits (sextets b).length = 0
  := by
  induction b using sextets.induct with
  | case1 => rfl
  | case2 a =>
    apply UInt8.toBitVec_inj.1
    ext i hi
    simp only [sextets, unusedBits]
    interval_cases i <;> simp
  | case3 a b =>
    apply UInt8.toBitVec_inj.1
    ext i hi
    simp only [sextets, unusedBits]
    interval_cases i <;> simp
  | case4 a b c rest ih =>
    rw [sextets, getLastD_and_unusedBits]
    exact ih

/-! ### Symbols -/

theorem value?_symbol {v : UInt8} (h : v < 64) :
  value? (symbol v) = some v
  := by
  apply Bytes.forall_lt (p := fun v => value? (symbol v) = some v) _ (UInt8.lt_iff_toNat_lt.1 h)
  decide

theorem isSymbol_symbol {v : UInt8} (h : v < 64) :
  isSymbol (symbol v) = true
  := by
  rw [isSymbol, value?_symbol h]
  rfl

theorem symbol_lt {v : UInt8} (h : v < 64) :
  symbol v < 128
  := by
  apply Bytes.forall_lt (p := fun v => symbol v < 128) _ (UInt8.lt_iff_toNat_lt.1 h)
  decide

theorem filterMap_value?_symbol {vs : Bytes} (h : ∀ v ∈ vs, v < 64) :
  (vs.map symbol).filterMap value? = vs
  := by
  induction vs with
  | nil => rfl
  | cons v rest ih =>
    obtain ⟨hv, hrest⟩ := List.forall_mem_cons.1 h
    rw [List.map_cons, List.filterMap_cons_some (value?_symbol hv), ih hrest]

/-- The last symbol stands for the last value. -/
theorem value?_getLastD {values : Bytes} (h : ∀ v ∈ values, v < 64) :
  value? ((values.map symbol).getLastD 65) = some (values.getLastD 0)
  := by
  have h65 : (65 : UInt8) = symbol 0 := by decide
  have hlt : values.getLastD 0 < 64 := by
    rcases List.eq_nil_or_concat values with rfl | ⟨vs, v, rfl⟩
    · decide
    · rw [List.concat_eq_append, List.getLastD_concat]
      exact h v (by simp)
  rw [h65, List.getLastD_map, value?_symbol hlt]

/-- The bytes of a text are those of characters. -/
theorem text_lt {values : Bytes} (h : ∀ v ∈ values, v < 64) (padding : Nat) :
  ∀ x ∈ values.map symbol ++ List.replicate padding pad, x < 128
  := by
  intro x hx
  rw [List.mem_append, List.mem_map, List.mem_replicate] at hx
  rcases hx with ⟨v, hv, rfl⟩ | ⟨-, rfl⟩
  · exact symbol_lt (h v hv)
  · decide

/-! ### The round trip -/

theorem decodeBytes_encodeBytes (b : Bytes) :
  decodeBytes (encodeBytes b) = .ok b
  := by
  have hsymbols : ∀ c ∈ (sextets b).map symbol, isSymbol c = true := by
    intro c hc
    obtain ⟨v, hv, rfl⟩ := List.mem_map.1 hc
    exact isSymbol_symbol (lt_of_mem_sextets v hv)
  have hpad : ∀ n, (List.replicate n pad).takeWhile isSymbol = [] ∧
      (List.replicate n pad).dropWhile isSymbol = List.replicate n pad := by
    intro n
    cases n <;> exact ⟨rfl, rfl⟩
  have hmod := length_sextets_mod b
  have htext : ((sextets b).map symbol ++ List.replicate ((3 - b.length % 3) % 3) pad).length % 4 =
      0 := by
    rw [List.length_append, List.length_map, List.length_replicate]
    omega
  have hpadding : isPadding ((sextets b).map symbol).length
      (List.replicate ((3 - b.length % 3) % 3) pad) = true := by
    rw [isPadding, List.length_map]
    rcases hmod with ⟨h, hs⟩ | ⟨h, hs⟩ | ⟨h, hs⟩ <;> rw [h, hs] <;> rfl
  have hlast : (value? (((sextets b).map symbol).getLastD 65)).getD 0 &&&
      unusedBits ((sextets b).map symbol).length = 0 := by
    rw [value?_getLastD lt_of_mem_sextets, List.length_map]
    exact getLastD_sextets b
  rw [encodeBytes_eq, decodeBytes, List.takeWhile_append_of_pos hsymbols,
    List.dropWhile_append_of_pos hsymbols, (hpad _).1, (hpad _).2, List.append_nil]
  simp only [htext, hpadding, hlast]
  simp [filterMap_value?_symbol lt_of_mem_sextets, unpack_sextets]

theorem encodeBytes_lt {b : Bytes} :
  ∀ c ∈ encodeBytes b, c < 128
  := by
  rw [encodeBytes_eq]
  exact text_lt lt_of_mem_sextets _

/-- Every byte string is read back from its text. -/
@[simp]
theorem decode_encode (b : Bytes) :
  decode (encode b) = .ok b
  := by
  rw [decode, encode, Bytes.utf8_ofList_map encodeBytes_lt, decodeBytes_encodeBytes]

theorem encode_inj {a b : Bytes} :
  encode a = encode b ↔ a = b
  := by
  constructor
  · intro h
    have hdecode := congrArg decode h
    rw [decode_encode, decode_encode] at hdecode
    exact Except.ok.inj hdecode
  · rintro rfl
    rfl

end Base64

end Keyring

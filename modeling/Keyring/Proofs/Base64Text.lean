import Keyring.Proofs.Base64
import Mathlib.Data.List.Basic

/-!
# The one text of a byte string

A byte string has just one text in base64: its symbols spell the bits of the bytes and then zero bits,
no more of them than complete the last symbol, and padding completes the last group of four.  Only
such a text is read, and it is the one that is written.
-/

namespace Keyring.Base64

/-! ### What a text is -/

/-- The symbols in the order of their values. -/
def alphabet : List Char :=
  "ABCDEFGHIJKLMNOPQRSTUVWXYZabcdefghijklmnopqrstuvwxyz0123456789+/".toList

/-- The low `n` bits of a number, the most significant one first. -/
def lowBits (x : Nat) : (n : Nat) → List Bool
  | 0 => []
  | n + 1 => x.testBit n :: lowBits x n

/-- The bits of which bytes consist. -/
def bits (b : Bytes) : List Bool :=
  b.flatMap fun x => lowBits x.toNat 8

/-- The bits for which symbols stand. -/
def symbolBits (symbols : List Char) : List Bool :=
  symbols.flatMap fun c => lowBits (alphabet.idxOf c) 6

/-- Whether a text is the canonical text of a byte string: symbols for its bits and for zero bits that
complete the last symbol, and then padding that completes the last group of four. -/
def IsTextOf (text : String) (b : Bytes) : Prop :=
  ∃ (symbols : List Char) (zeroes padding : Nat),
    text.toList = symbols ++ List.replicate padding '=' ∧
    (∀ c ∈ symbols, c ∈ alphabet) ∧
    symbolBits symbols = bits b ++ List.replicate zeroes false ∧
    zeroes < 6 ∧
    padding < 4 ∧
    4 ∣ symbols.length + padding

/-! ### There is no other text -/

@[simp]
theorem length_lowBits (x n : Nat) :
  (lowBits x n).length = n
  := by
  induction n with
  | zero => rfl
  | succ n ih => rw [lowBits, List.length_cons, ih]

theorem testBit_eq_of_lowBits_eq {x y n : Nat} (h : lowBits x n = lowBits y n) :
  ∀ i < n, x.testBit i = y.testBit i
  := by
  induction n with
  | zero =>
    intro i hi
    omega
  | succ n ih =>
    intro i hi
    obtain ⟨hbit, hrest⟩ := List.cons.inj h
    rcases Nat.lt_succ_iff_lt_or_eq.1 hi with hi | rfl
    · exact ih hrest i hi
    · exact hbit

/-- Numbers that fit are told apart by their bits. -/
theorem eq_of_lowBits_eq {x y n : Nat} (hx : x < 2 ^ n) (hy : y < 2 ^ n)
    (h : lowBits x n = lowBits y n) :
  x = y
  := by
  apply Nat.eq_of_testBit_eq
  intro i
  by_cases hi : i < n
  · exact testBit_eq_of_lowBits_eq h i hi
  · have hpow : 2 ^ n ≤ 2 ^ i := Nat.pow_le_pow_right Nat.two_pos (Nat.le_of_not_lt hi)
    rw [Nat.testBit_lt_two_pow (Nat.lt_of_lt_of_le hx hpow),
      Nat.testBit_lt_two_pow (Nat.lt_of_lt_of_le hy hpow)]

theorem length_flatMap_lowBits {α : Type} (l : List α) (f : α → Nat) (n : Nat) :
  (l.flatMap fun x => lowBits (f x) n).length = n * l.length
  := by
  rw [List.length_flatMap]
  simp only [length_lowBits, List.map_const', List.sum_replicate_nat, Nat.mul_comm]

theorem idxOf_lt {c : Char} (h : c ∈ alphabet) :
  alphabet.idxOf c < 2 ^ 6
  := List.idxOf_lt_length_iff.2 h

/-- Symbols are told apart by the bits for which they stand. -/
theorem eq_of_symbolBits_eq {symbols symbols' : List Char} (hmem : ∀ c ∈ symbols, c ∈ alphabet)
    (hmem' : ∀ c ∈ symbols', c ∈ alphabet) (hlength : symbols.length = symbols'.length)
    (h : symbolBits symbols = symbolBits symbols') :
  symbols = symbols'
  := by
  induction symbols generalizing symbols' with
  | nil => exact (List.length_eq_zero_iff.1 hlength.symm).symm
  | cons c rest ih =>
    cases symbols' with
    | nil => cases hlength
    | cons c' rest' =>
      obtain ⟨hc, hrest⟩ := List.forall_mem_cons.1 hmem
      obtain ⟨hc', hrest'⟩ := List.forall_mem_cons.1 hmem'
      obtain ⟨hhead, htail⟩ := List.append_inj h (by rw [length_lowBits, length_lowBits])
      have hindex := eq_of_lowBits_eq (idxOf_lt hc) (idxOf_lt hc') hhead
      rw [(List.idxOf_inj hc).1 hindex, ih hrest hrest' (Nat.succ.inj hlength) htail]

/-- A byte string has no more than one text. -/
theorem IsTextOf.eq {text text' : String} {b : Bytes} (h : IsTextOf text b)
    (h' : IsTextOf text' b) :
  text = text'
  := by
  obtain ⟨symbols, zeroes, padding, htext, hmem, hbits, hzeroes, hpadding, hdvd⟩ := h
  obtain ⟨symbols', zeroes', padding', htext', hmem', hbits', hzeroes', hpadding', hdvd'⟩ := h'
  -- the bits of the bytes leave no choice for the number of symbols, nor for that of the zeroes
  have hlength := congrArg List.length hbits
  have hlength' := congrArg List.length hbits'
  simp only [symbolBits, bits, List.length_append, length_flatMap_lowBits, List.length_replicate]
    at hlength hlength'
  obtain rfl : zeroes = zeroes' := by omega
  obtain rfl : padding = padding' := by omega
  have hsymbols := eq_of_symbolBits_eq hmem hmem' (by omega) (hbits.trans hbits'.symm)
  rw [← String.toList_inj, htext, htext', hsymbols]

/-! ### What is read is a text -/

/-- A symbol is the symbol of the six bits for which it stands. -/
theorem symbol_of_value? {c v : UInt8} (h : value? c = some v) :
  v < 64 ∧ symbol v = c
  := by
  have hall : (value? c).all (fun v => v < 64 ∧ symbol v = c) = true := by
    apply Bytes.forall_lt (p := fun c => (value? c).all (fun v => v < 64 ∧ symbol v = c) = true) _
      c.toNat_lt
    decide +kernel
  rw [h] at hall
  simpa using hall

theorem idxOf_symbol {v : UInt8} (h : v < 64) :
  alphabet.idxOf (Char.ofNat (symbol v).toNat) = v.toNat
  := by
  apply Bytes.forall_lt (p := fun v => alphabet.idxOf (Char.ofNat (symbol v).toNat) = v.toNat) _
    (UInt8.lt_iff_toNat_lt.1 h)
  decide +kernel

/-- Symbols are the symbols of some values. -/
theorem exists_eq_map_symbol {symbols : Bytes} (h : ∀ c ∈ symbols, isSymbol c = true) :
  ∃ values : Bytes, (∀ v ∈ values, v < 64) ∧ symbols = values.map symbol
  := by
  induction symbols with
  | nil => exact ⟨[], by simp, rfl⟩
  | cons c rest ih =>
    obtain ⟨hc, hrest⟩ := List.forall_mem_cons.1 h
    obtain ⟨v, hv⟩ := Option.isSome_iff_exists.1 hc
    obtain ⟨hlt, hsymbol⟩ := symbol_of_value? hv
    obtain ⟨values, hvalues, rfl⟩ := ih hrest
    use v :: values, List.forall_mem_cons.2 ⟨hlt, hvalues⟩
    rw [List.map_cons, hsymbol]

theorem testBit_toNat (x : UInt8) (i : Nat) :
  x.toNat.testBit i = x.toBitVec.getLsbD i
  := rfl

theorem getElem_of_lt {v : UInt8} (h : v < 64) :
  v.toBitVec[6] = false ∧ v.toBitVec[7] = false
  := by
  have hlt : v.toNat < 2 ^ 6 := UInt8.lt_iff_toNat_lt.1 h
  exact ⟨Nat.testBit_lt_two_pow hlt, Nat.testBit_lt_two_pow (Nat.lt_trans hlt (by decide))⟩

/-- The first byte of three takes all bits of the first value and two of the second one. -/
theorem lowBits_first {a b : UInt8} (hb : b < 64) (l : List Bool) :
  lowBits (a <<< 2 ||| b >>> 4).toNat 8 ++ (lowBits b.toNat 4 ++ l) =
    lowBits a.toNat 6 ++ (lowBits b.toNat 6 ++ l)
  := by
  simp only [lowBits, testBit_toNat]
  simp [getElem_of_lt hb]

theorem lowBits_second {b c : UInt8} (hc : c < 64) (l : List Bool) :
  lowBits (b <<< 4 ||| c >>> 2).toNat 8 ++ (lowBits c.toNat 2 ++ l) =
    lowBits b.toNat 4 ++ (lowBits c.toNat 6 ++ l)
  := by
  simp only [lowBits, testBit_toNat]
  simp [getElem_of_lt hc]

theorem lowBits_third {c d : UInt8} (hd : d < 64) (l : List Bool) :
  lowBits (c <<< 6 ||| d).toNat 8 ++ l = lowBits c.toNat 2 ++ (lowBits d.toNat 6 ++ l)
  := by
  simp only [lowBits, testBit_toNat]
  simp [getElem_of_lt hd]

theorem lowBits_eq_replicate {v : UInt8} (h : v < 64) :
  (v &&& 15 = 0 → lowBits v.toNat 4 = List.replicate 4 false) ∧
    (v &&& 3 = 0 → lowBits v.toNat 2 = List.replicate 2 false)
  := by
  apply Bytes.forall_lt (p := fun v => (v &&& 15 = 0 → lowBits v.toNat 4 = List.replicate 4 false) ∧
    (v &&& 3 = 0 → lowBits v.toNat 2 = List.replicate 2 false)) _ (UInt8.lt_iff_toNat_lt.1 h)
  decide +kernel

/-- Values spell the bits of their bytes, and then zero bits. -/
theorem flatMap_lowBits_eq {values : Bytes} (hlt : ∀ v ∈ values, v < 64)
    (hmod : values.length % 4 ≠ 1)
    (hlast : values.getLastD 0 &&& unusedBits values.length = 0) :
  values.flatMap (fun v => lowBits v.toNat 6) =
    bits (unpack values) ++ List.replicate (6 * values.length % 8) false
  := by
  -- the first four values are three bytes; the last group has two or three values, or none
  induction values using unpack.induct with
  | case1 a b c d rest ih =>
    simp only [List.forall_mem_cons] at hlt
    obtain ⟨-, hb, hc, hd, hrest⟩ := hlt
    have hlength : (a :: b :: c :: d :: rest).length = rest.length + 4 := rfl
    have hzeroes : 6 * (rest.length + 4) % 8 = 6 * rest.length % 8 := by omega
    rw [getLastD_and_unusedBits] at hlast
    have hbits := ih hrest (by omega) hlast
    rw [bits] at hbits
    rw [hlength, hzeroes]
    simp only [unpack, bits, List.flatMap_cons, List.append_assoc, hbits]
    rw [lowBits_third hd, lowBits_second hc, lowBits_first hb]
  | case2 a b c =>
    simp only [List.forall_mem_cons] at hlt
    obtain ⟨-, hb, hc, -⟩ := hlt
    have hzeroes : 6 * [a, b, c].length % 8 = 2 := by simp
    have hlow := (lowBits_eq_replicate hc).2 hlast
    simp only [unpack, bits, List.flatMap_cons, List.flatMap_nil, List.append_assoc, List.nil_append,
      hzeroes, ← hlow]
    rw [← List.append_nil (lowBits c.toNat 2), lowBits_second hc, lowBits_first hb]
  | case3 a b =>
    simp only [List.forall_mem_cons] at hlt
    obtain ⟨-, hb, -⟩ := hlt
    have hzeroes : 6 * [a, b].length % 8 = 4 := by simp
    have hlow := (lowBits_eq_replicate hb).1 hlast
    simp only [unpack, bits, List.flatMap_cons, List.flatMap_nil, List.append_assoc, List.nil_append,
      hzeroes, ← hlow]
    rw [← List.append_nil (lowBits b.toNat 4), lowBits_first hb]
  | case4 values h₁ h₂ h₃ =>
    rcases values with _ | ⟨a, _ | ⟨b, _ | ⟨c, _ | ⟨d, rest⟩⟩⟩⟩
    · rfl
    · exact absurd rfl hmod
    · exact (h₃ a b rfl).elim
    · exact (h₂ a b c rfl).elim
    · exact (h₁ a b c d rest rfl).elim

theorem isPadding_eq_true_iff {n : Nat} {rest : Bytes} :
  isPadding n rest = true ↔
    rest = List.replicate rest.length pad ∧ (rest = [] ∨ 2 ≤ n % 4 ∧ n % 4 + rest.length ≤ 4)
  := by
  simp [isPadding, List.eq_replicate_iff]

/-- Bytes that are read are the symbols of values without unused bits, and the padding of their last
group. -/
theorem exists_of_decodeBytes_eq_ok {text b : Bytes} (h : decodeBytes text = .ok b) :
  ∃ (values : Bytes) (padding : Nat),
    text = values.map symbol ++ List.replicate padding pad ∧
    (∀ v ∈ values, v < 64) ∧
    values.getLastD 0 &&& unusedBits values.length = 0 ∧
    values.length % 4 ≠ 1 ∧
    padding < 4 ∧
    4 ∣ values.length + padding ∧
    unpack values = b
  := by
  obtain ⟨values, hlt, hvalues⟩ := exists_eq_map_symbol
    (List.all_eq_true.1 (List.all_takeWhile (p := isSymbol) (l := text)))
  have htext := List.takeWhile_append_dropWhile (p := isSymbol) (l := text)
  rw [decodeBytes] at h
  generalize List.dropWhile isSymbol text = rest at h htext
  simp only [hvalues] at h htext
  split at h
  · split at h
    · split at h <;> cases h
    · cases h
  split at h
  · cases h
  next hpadding =>
  split at h
  · cases h
  next hlength =>
  split at h
  · cases h
  next hlast =>
  rw [value?_getLastD hlt, List.length_map] at hlast
  rw [filterMap_value?_symbol hlt] at h
  obtain ⟨hrest, hfits⟩ := isPadding_eq_true_iff.1 (by simpa using hpadding)
  rw [← htext, List.length_append, List.length_map] at hlength
  have hcount : values.length % 4 ≠ 1 ∧ rest.length < 4 := by
    rcases hfits with rfl | hfits
    · rw [List.length_nil] at hlength ⊢
      omega
    · omega
  use values, rest.length
  rw [← hrest]
  exact ⟨htext.symm, hlt, not_not.1 hlast, hcount.1, hcount.2, by omega, Except.ok.inj h⟩

/-- What is read from a text is what it is the text of. -/
theorem isTextOf_of_decode_eq_ok {text : String} {b : Bytes} (h : decode text = .ok b) :
  IsTextOf text b
  := by
  obtain ⟨values, padding, hbytes, hlt, hlast, hmod, hpadding, hdvd, rfl⟩ :=
    exists_of_decodeBytes_eq_ok h
  have htext := Bytes.utf8_inj.1 (hbytes.trans (Bytes.utf8_ofList_map (text_lt hlt padding)).symm)
  have hsymbols : symbolBits (values.map fun v => Char.ofNat (symbol v).toNat) =
      values.flatMap fun v => lowBits v.toNat 6 := by
    rw [symbolBits, List.flatMap_map]
    apply List.flatMap_congr
    intro v hv
    rw [idxOf_symbol (hlt v hv)]
  use values.map fun v => Char.ofNat (symbol v).toNat, 6 * values.length % 8, padding
  refine ⟨?_, ?_, ?_, by omega, hpadding, ?_⟩
  · rw [htext, String.toList_ofList, List.map_append, List.map_map, List.map_replicate]
    rfl
  · intro c hc
    obtain ⟨v, hv, rfl⟩ := List.mem_map.1 hc
    apply List.idxOf_lt_length_iff.1
    rw [idxOf_symbol (hlt v hv)]
    exact UInt8.lt_iff_toNat_lt.1 (hlt v hv)
  · rw [hsymbols]
    exact flatMap_lowBits_eq hlt hmod hlast
  · rw [List.length_map]
    exact hdvd

/-! ### Reading and writing -/

/-- The text of a byte string is the one that is written. -/
theorem isTextOf_iff {text : String} {b : Bytes} :
  IsTextOf text b ↔ encode b = text
  := by
  have hencode : IsTextOf (encode b) b := isTextOf_of_decode_eq_ok (decode_encode b)
  constructor
  · intro h
    exact hencode.eq h
  · rintro rfl
    exact hencode

/-- Just the texts of byte strings are read. -/
theorem decode_eq_ok_iff {text : String} {b : Bytes} :
  decode text = .ok b ↔ IsTextOf text b
  := by
  constructor
  · exact isTextOf_of_decode_eq_ok
  · intro h
    rw [← isTextOf_iff.1 h, decode_encode]

end Keyring.Base64

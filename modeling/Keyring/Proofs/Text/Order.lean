import Keyring.Bytes
import Keyring.Proofs.Text.Digits
import Mathlib.Tactic.Ring
import Mathlib.Tactic.SplitIfs

/-!
# The order of texts

Texts are compared character by character, and that is how their UTF-8 bytes are compared.  Decimal
digits come in the order of the numbers that they write if there are equally many of them, and in the
order of the fractions that they write if what follows them comes before all digits.
-/

namespace Keyring

/-! ### Bytes of texts -/

/-- The bytes of a character tell it apart from every later one before they end. -/
theorem utf8EncodeChar_append_lt {c d : Char} (h : c < d) (u v : Bytes) :
  String.utf8EncodeChar c ++ u < String.utf8EncodeChar d ++ v
  := by
  have hlt : c.val.toNat < d.val.toNat := h
  have hmax : d.val.toNat < 1114112 := by
    rcases d.valid with hd | hd <;> omega
  simp only [String.utf8EncodeChar]
  generalize c.val.toNat = m at hlt
  generalize d.val.toNat = n at hlt hmax
  -- a character of more bytes starts with a larger one; among equally many the first that differs counts
  split_ifs
  all_goals
    simp only [List.cons_append, List.cons_lt_cons_iff, UInt8.lt_iff_toNat_lt, ← UInt8.toNat_inj,
      UInt8.toNat_ofNat']
    simp (disch := omega) only [Nat.mod_eq_of_lt]
    omega

theorem flatMap_utf8EncodeChar_lt {s t : List Char} (h : s < t) :
  s.flatMap String.utf8EncodeChar < t.flatMap String.utf8EncodeChar
  := by
  induction s generalizing t with
  | nil =>
    cases t with
    | nil => cases List.not_lt_nil _ h
    | cons d t =>
      obtain ⟨x, rest, hd⟩ := List.exists_cons_of_ne_nil (String.utf8EncodeChar_ne_nil (c := d))
      rw [List.flatMap_cons, hd]
      apply List.nil_lt_cons
  | cons c s ih =>
    cases t with
    | nil => cases List.not_lt_nil _ h
    | cons d t =>
      rw [List.flatMap_cons, List.flatMap_cons]
      obtain hlt | ⟨rfl, hrest⟩ := List.cons_lt_cons_iff.1 h
      · apply utf8EncodeChar_append_lt hlt
      · apply List.append_left_lt
        exact ih hrest

theorem Bytes.utf8_eq_flatMap (s : String) :
  utf8 s = s.toList.flatMap String.utf8EncodeChar
  := by
  obtain ⟨cs, rfl⟩ : ∃ cs, s = String.ofList cs := ⟨s.toList, String.ofList_toList.symm⟩
  rw [utf8, String.toByteArray_ofList, String.toList_ofList, List.utf8Encode,
    List.toList_data_toByteArray]

/-- Texts are in the order of their UTF-8 bytes. -/
theorem Bytes.utf8_lt_of_lt {s t : String} (h : s < t) :
  utf8 s < utf8 t
  := by
  rw [utf8_eq_flatMap, utf8_eq_flatMap]
  apply flatMap_utf8EncodeChar_lt
  exact String.lt_iff.1 h

namespace Text

/-! ### Digits -/

theorem digitsValue_cons (c : Char) (ds : List Char) :
  digitsValue (c :: ds) = 10 ^ ds.length * (c.toNat - 48) + digitsValue ds
  := by
  calc
    digitsValue (c :: ds) = Nat.ofDigitChars 10 ds (10 * 0 + (c.toNat - 48)) := rfl
    _ = 10 ^ ds.length * (10 * 0 + (c.toNat - 48)) + Nat.ofDigitChars 10 ds 0 :=
      Nat.ofDigitChars_eq_ofDigitChars_zero
    _ = 10 ^ ds.length * (c.toNat - 48) + digitsValue ds := by
      rw [Nat.mul_zero, Nat.zero_add]
      rfl

theorem digitsValue_lt {ds : List Char} (hd : ∀ c ∈ ds, c.isDigit = true) :
  digitsValue ds < 10 ^ ds.length
  := by
  induction ds with
  | nil => exact Nat.zero_lt_one
  | cons c ds ih =>
    obtain ⟨hc, hds⟩ := List.forall_mem_cons.1 hd
    obtain ⟨-, hnine⟩ : 48 ≤ c.toNat ∧ c.toNat ≤ 57 := Char.isDigit_iff_toNat.1 hc
    have hle : 10 ^ ds.length * (c.toNat - 48) ≤ 10 ^ ds.length * 9 :=
      Nat.mul_le_mul_left _ (by omega)
    have hrest := ih hds
    rw [digitsValue_cons, List.length_cons, pow_succ]
    omega

/-- Digits are in the order of the fractions that they write, whatever follows if there are at least
as many digits on the left, and otherwise if what follows these comes before all digits. -/
theorem append_lt_append {a b u v : List Char} (ha : ∀ c ∈ a, c.isDigit = true)
    (hb : ∀ c ∈ b, c.isDigit = true)
    (hend : b.length ≤ a.length ∨ ∀ c w, c.isDigit = true → u < c :: w)
    (h : digitsValue a * 10 ^ b.length < digitsValue b * 10 ^ a.length) :
  a ++ u < b ++ v
  := by
  -- Digit by digit: both sides lose their first one, and what follows is compared where one ends.
  induction a generalizing b with
  | nil =>
    cases b with
    | nil => cases h
    | cons d b =>
      obtain hlength | hu := hend
      · cases hlength
      · exact hu d _ (hb d List.mem_cons_self)
  | cons c a ih =>
    cases b with
    | nil =>
      have hzero : digitsValue [] = 0 := rfl
      rw [hzero, Nat.zero_mul] at h
      cases h
    | cons d b =>
      obtain ⟨hc, ha⟩ := List.forall_mem_cons.1 ha
      obtain ⟨hd, hb⟩ := List.forall_mem_cons.1 hb
      have hc : 48 ≤ c.toNat := (Char.isDigit_iff_toNat.1 hc).1
      have hd : 48 ≤ d.toNat := (Char.isDigit_iff_toNat.1 hd).1
      have hvalue : 10 ^ (a.length + b.length) * (c.toNat - 48) + digitsValue a * 10 ^ b.length <
          10 ^ (a.length + b.length) * (d.toNat - 48) + digitsValue b * 10 ^ a.length := by
        rw [digitsValue_cons, digitsValue_cons, List.length_cons, List.length_cons, pow_succ,
          pow_succ] at h
        rw [pow_add]
        apply Nat.lt_of_mul_lt_mul_right (a := 10)
        calc
          _ = _ := by ring
          _ < _ := h
          _ = _ := by ring
      have hsmall : digitsValue b * 10 ^ a.length < 10 ^ (a.length + b.length) := by
        rw [pow_add, mul_comm]
        apply Nat.mul_lt_mul_of_pos_left (digitsValue_lt hb)
        apply Nat.pow_pos
        decide
      rw [List.cons_append, List.cons_append, List.cons_lt_cons_iff]
      obtain hlt | heq | hgt := Nat.lt_trichotomy c.toNat d.toNat
      · exact .inl hlt
      · rw [heq] at hvalue
        refine .inr ⟨Char.toNat_inj.1 heq, ih ha hb ?_ (Nat.lt_of_add_lt_add_left hvalue)⟩
        exact hend.imp_left Nat.le_of_succ_le_succ
      · -- a larger first digit on the left is worth more than all the digits on the right
        have hfirst : 10 ^ (a.length + b.length) * (d.toNat - 48) + 10 ^ (a.length + b.length) ≤
            10 ^ (a.length + b.length) * (c.toNat - 48) := by
          rw [← Nat.mul_succ]
          apply Nat.mul_le_mul_left
          omega
        omega

end Text

end Keyring

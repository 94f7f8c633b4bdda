import Keyring.Text.Digits

/-!
# Digits read back

The decimal digits of a number write that number, also with zeroes before them, and they start with
a zero only if they are that zero.  A reader of digits takes all of them where no further digit
follows.
-/

namespace Keyring.Text

@[simp]
theorem digitsValue_toDigits (n : Nat) :
  digitsValue (Nat.toDigits 10 n) = n
  := Nat.ofDigitChars_ten_toDigits

/-- Zeroes before the digits of a number add nothing. -/
theorem digitsValue_replicate_append (k : Nat) (ds : List Char) :
  digitsValue (List.replicate k '0' ++ ds) = digitsValue ds
  := by
  have h := Nat.ofDigitChars_append (b := 10) (l := List.replicate k '0') (m := ds) 0
  rw [Nat.ofDigitChars_replicate_zero, Nat.mul_zero] at h
  exact h

theorem isDigit_of_mem_toDigits {n : Nat} :
  ∀ c ∈ Nat.toDigits 10 n, c.isDigit = true
  := fun _ hc => Nat.isDigit_of_mem_toDigits (by decide) (by decide) hc

/-- A number starts with a zero only if it is zero. -/
theorem eq_zero_of_head?_toDigits {n : Nat} (h : (Nat.toDigits 10 n).head? = some '0') :
  n = 0
  := by
  induction n using Nat.strongRecOn with
  | ind n ih =>
    by_cases hn : n < 10
    · rw [Nat.toDigits_of_lt_base hn, List.head?_singleton, Option.some.injEq] at h
      have hv := Nat.toNat_digitChar_sub_48_of_lt_ten hn
      rw [h] at hv
      exact hv.symm
    · rw [Nat.toDigits_of_base_le (by decide) (by omega), List.head?_append,
        List.head?_eq_some_head Nat.toDigits_ne_nil, Option.some_or,
        ← List.head?_eq_some_head] at h
      have hz := ih (n / 10) (by omega) h
      omega

/-! ### Where a part of a text ends -/

variable {p : Char → Bool} {s t : List Char}

/-- What has a property is taken up to the first character without it. -/
theorem takeWhile_append_of_head (hx : ∀ c ∈ s, p c = true)
    (hrest : ∀ c ∈ t.head?, p c = false) :
  (s ++ t).takeWhile p = s
  := by
  rw [List.takeWhile_append_of_pos hx]
  rcases t with _ | ⟨c, rest⟩
  · rw [List.takeWhile_nil, List.append_nil]
  · rw [List.takeWhile_cons_of_neg (by simpa using hrest c rfl), List.append_nil]

theorem dropWhile_append_of_head (hx : ∀ c ∈ s, p c = true)
    (hrest : ∀ c ∈ t.head?, p c = false) :
  (s ++ t).dropWhile p = t
  := by
  rw [List.dropWhile_append_of_pos hx]
  rcases t with _ | ⟨c, rest⟩
  · rfl
  · rw [List.dropWhile_cons_of_neg (by simpa using hrest c rfl)]

end Keyring.Text

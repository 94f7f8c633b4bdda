import Keyring.Cipher.Ghash
import Mathlib.FieldTheory.Finite.Extension
import Mathlib.Tactic.ComputeDegree

/-!
# The field of the hash

The bits of an element are the coefficients of a polynomial over the field of two elements, and
the product of two elements is that of their polynomials modulo the one of degree 128.  That this
one is irreducible is seen from the squares of the variable: after 128 squarings it is itself again,
and after 64 it differs from itself by a unit, so every irreducible factor has a degree that divides
128 and not 64.  Hence the elements form a field, and a factor other than zero can be cancelled.
-/

namespace Keyring.Ghash

open Polynomial

/-! ### Polynomials of elements -/

section

variable {R : Type*} [CommRing R] {r : R} {x y v sum : Element} {n : Nat}

/-- The polynomial of the first `n` bits of an element, at `r`. -/
def value (r : R) (n : Nat) (x : Element) : R :=
  ∑ i ∈ Finset.range n, if x.getMsbD i then r ^ i else 0

@[simp]
theorem value_zero (r : R) (n : Nat) :
  value r n 0 = 0
  := by
  simp [value]

theorem map_value {S : Type*} [CommRing S] (f : R →+* S) (r : R) (n : Nat) (x : Element) :
  f (value r n x) = value (f r) n x
  := by
  rw [value, value, map_sum]
  apply Finset.sum_congr rfl
  intro i _
  rw [apply_ite f, map_pow, map_zero]

/-- The first bit is the coefficient of degree zero. -/
theorem value_succ (r : R) (n : Nat) (x : Element) :
  value r (n + 1) x = (if x.msb then 1 else 0 : R) + r * value r n (x <<< 1)
  := by
  rw [value, Finset.sum_range_succ', value, Finset.mul_sum, add_comm, pow_zero, BitVec.msb]
  congr 1
  apply Finset.sum_congr rfl
  intro i _
  rw [BitVec.getMsbD_shiftLeft, mul_ite, mul_zero, pow_succ']

/-- An element that is moved by one bit loses its last bit. -/
theorem value_shiftRight (r : R) (v : Element) :
  value r 128 (v >>> 1) = r * value r 127 v
  := by
  have hfirst : (v >>> 1).getMsbD 0 = false := by simp [BitVec.getMsbD_ushiftRight]
  rw [value, Finset.sum_range_succ', value, Finset.mul_sum, hfirst, if_neg Bool.false_ne_true,
    add_zero]
  apply Finset.sum_congr rfl
  intro i hi
  have hlt : i + 1 < 128 := Nat.succ_lt_succ (Finset.mem_range.1 hi)
  simp [BitVec.getMsbD_ushiftRight, hlt, pow_succ']

theorem value_reduction (r : R) :
  value r 128 reduction = r ^ 7 + r ^ 2 + r + 1
  := by
  have hbits : ∀ i < 128, reduction.getMsbD i = decide (i ∈ ({7, 2, 1, 0} : Finset Nat)) := by
    decide
  have hterms : value r 128 reduction =
      ∑ i ∈ Finset.range 128, if i ∈ ({7, 2, 1, 0} : Finset Nat) then r ^ i else 0 := by
    apply Finset.sum_congr rfl
    intro i hi
    simp only [hbits i (Finset.mem_range.1 hi), decide_eq_true_eq]
  have hinter : Finset.range 128 ∩ {7, 2, 1, 0} = {7, 2, 1, 0} := by decide
  rw [hterms, Finset.sum_ite_mem, hinter]
  simp [add_assoc]

/-- The polynomial of an element with a single bit. -/
theorem value_of_bit {i : Nat} (hi : i < 128) (h : ∀ j < 128, x.getMsbD j = decide (j = i)) :
  value r 128 x = r ^ i
  := by
  have hterms : value r 128 x = ∑ j ∈ Finset.range 128, if j = i then r ^ j else 0 := by
    apply Finset.sum_congr rfl
    intro j hj
    simp only [h j (Finset.mem_range.1 hj), decide_eq_true_eq]
  rw [hterms, Finset.sum_ite_eq', if_pos (Finset.mem_range.2 hi)]

/-- The element whose polynomial is one. -/
def one : Element := 1#128 <<< 127

/-- The element whose polynomial is the variable. -/
def variableElement : Element := 1#128 <<< 126

theorem value_one (r : R) :
  value r 128 one = 1
  := by
  rw [value_of_bit (i := 0) (by decide) (by decide), pow_zero]

theorem value_variableElement (r : R) :
  value r 128 variableElement = r
  := by
  rw [value_of_bit (i := 1) (by decide) (by decide), pow_one]

variable [CharP R 2]

theorem value_xor (r : R) (n : Nat) (x y : Element) :
  value r n (x ^^^ y) = value r n x + value r n y
  := by
  rw [value, value, value, ← Finset.sum_add_distrib]
  apply Finset.sum_congr rfl
  intro i _
  rw [BitVec.getMsbD_xor]
  rcases x.getMsbD i with _ | _ <;> rcases y.getMsbD i with _ | _ <;> simp [CharTwo.add_self_eq_zero]

/-- To move an element by one bit and reduce it is to multiply its polynomial by the variable. -/
theorem value_shift (hr : r ^ 128 = r ^ 7 + r ^ 2 + r + 1) (v : Element) :
  value r 128 (shift v) = r * value r 128 v
  := by
  have hlast : v.getMsbD 127 = v.getLsbD 0 := by simp [BitVec.getMsbD]
  have hsum : value r 128 v = value r 127 v + if v.getLsbD 0 then r ^ 127 else 0 := by
    rw [value, Finset.sum_range_succ, hlast]
    rfl
  rw [hsum, mul_add, shift]
  rcases v.getLsbD 0 with _ | _
  · rw [if_neg Bool.false_ne_true, if_neg Bool.false_ne_true, mul_zero, add_zero, value_shiftRight]
  · rw [if_pos rfl, if_pos rfl, value_xor, value_shiftRight, value_reduction, ← hr, ← pow_succ']

theorem value_multiplyAdd (hr : r ^ 128 = r ^ 7 + r ^ 2 + r + 1) (n : Nat) (x v sum : Element) :
  value r 128 (multiplyAdd n x v sum) = value r 128 sum + value r n x * value r 128 v
  := by
  induction n generalizing x v sum with
  | zero =>
    have hnone : value r 0 x = 0 := Finset.sum_range_zero _
    rw [multiplyAdd, hnone, zero_mul, add_zero]
  | succ n ih =>
    rw [multiplyAdd, ih, value_shift hr, value_succ r n x]
    rcases x.msb with _ | _
    · rw [if_neg Bool.false_ne_true, if_neg Bool.false_ne_true]
      ring
    · rw [if_pos rfl, if_pos rfl, value_xor]
      ring

/-- The polynomial of a product is the product of the polynomials. -/
theorem value_multiply (hr : r ^ 128 = r ^ 7 + r ^ 2 + r + 1) (x y : Element) :
  value r 128 (multiply x y) = value r 128 x * value r 128 y
  := by
  rw [multiply, value_multiplyAdd hr, value_zero, zero_add]

/-! ### Squares of the variable -/

/-- An element that is squared some times. -/
def squares : (n : Nat) → (x : Element) → Element
  | 0, x => x
  | n + 1, x => squares n (multiply x x)

theorem value_squares (hr : r ^ 128 = r ^ 7 + r ^ 2 + r + 1) (n : Nat) (x : Element) :
  value r 128 (squares n x) = value r 128 x ^ 2 ^ n
  := by
  induction n generalizing x with
  | zero => rw [squares, pow_zero, pow_one]
  | succ n ih => rw [squares, ih, value_multiply hr, ← sq, ← pow_mul, ← pow_succ']

theorem squares_add (m n : Nat) (x : Element) :
  squares (m + n) x = squares n (squares m x)
  := by
  induction m generalizing x with
  | zero => rw [Nat.zero_add, squares]
  | succ m ih => rw [Nat.succ_add, squares, squares, ih]

/-- The variable after 64 squarings. -/
def middle : Element := 0x6f9945a9e519a7229d4c1ad657f8a686

/-- The inverse of the difference between that and the variable. -/
def witness : Element := 0x180da934bf53158251c13dbb149f5279

/-- What is computed of these elements. -/
theorem squares_and_witness :
  squares 64 variableElement = middle ∧ squares 64 middle = variableElement ∧
    multiply (middle ^^^ variableElement) witness = one
  := by
  decide +kernel

/-- After 128 squarings the variable is itself again. -/
theorem pow_two_pow_128 (hr : r ^ 128 = r ^ 7 + r ^ 2 + r + 1) :
  r ^ 2 ^ 128 = r
  := by
  have hsquares : squares (64 + 64) variableElement = variableElement := by
    rw [squares_add, squares_and_witness.1, squares_and_witness.2.1]
  have hvalue := value_squares hr (64 + 64) variableElement
  rw [hsquares, value_variableElement] at hvalue
  exact hvalue.symm

/-- After 64 squarings it is not, because the difference has an inverse. -/
theorem pow_two_pow_64_ne [Nontrivial R] (hr : r ^ 128 = r ^ 7 + r ^ 2 + r + 1) :
  r ^ 2 ^ 64 ≠ r
  := by
  intro heq
  have hmiddle := value_squares hr 64 variableElement
  rw [squares_and_witness.1, value_variableElement, heq] at hmiddle
  have hproduct := value_multiply hr (middle ^^^ variableElement) witness
  rw [squares_and_witness.2.2, value_one, value_xor, hmiddle, value_variableElement,
    CharTwo.add_self_eq_zero, zero_mul] at hproduct
  exact one_ne_zero hproduct

end

/-! ### Irreducibility -/

/-- The polynomial that products are reduced by. -/
@[irreducible]
noncomputable def modulus : (ZMod 2)[X] :=
  X ^ 128 + (X ^ 7 + X ^ 2 + X + 1)

theorem natDegree_modulus :
  modulus.natDegree = 128
  := by
  unfold modulus
  compute_degree!

theorem monic_modulus :
  modulus.Monic
  := by
  unfold modulus
  apply monic_X_pow_add
  compute_degree!

instance charP_adjoinRoot (f : (ZMod 2)[X]) [Fact (Irreducible f)] : CharP (AdjoinRoot f) 2 :=
  charP_of_injective_algebraMap (algebraMap (ZMod 2) _).injective 2

/-- At a root of a factor of the modulus, the power of degree 128 is what reduction puts for it. -/
theorem root_pow_128 {f : (ZMod 2)[X]} [Fact (Irreducible f)] (h : f ∣ modulus) :
  AdjoinRoot.root f ^ 128 =
    AdjoinRoot.root f ^ 7 + AdjoinRoot.root f ^ 2 + AdjoinRoot.root f + 1
  := by
  have hzero := AdjoinRoot.mk_eq_zero.2 h
  unfold modulus at hzero
  simp only [map_add, map_pow, map_one, AdjoinRoot.mk_X] at hzero
  exact CharTwo.add_eq_zero.1 hzero

theorem irreducible_modulus :
  Irreducible modulus
  := by
  have hunit : ¬IsUnit modulus := by
    apply not_isUnit_of_natDegree_pos
    rw [natDegree_modulus]
    decide
  -- The degree of an irreducible factor divides 128 but not 64, so that there is no other factor.
  obtain ⟨f, hf, hdvd⟩ := WfDvdMonoid.exists_irreducible_factor hunit monic_modulus.ne_zero
  have := Fact.mk hf
  have hr := root_pow_128 hdvd
  have h128 : f.natDegree ∣ 2 ^ 7 := by
    apply hf.natDegree_dvd_of_dvd_X_pow_card_pow_sub_X
    rw [← AdjoinRoot.mk_eq_zero, map_sub, map_pow, AdjoinRoot.mk_X, Nat.card_zmod, sub_eq_zero]
    exact pow_two_pow_128 hr
  have h64 : ¬f.natDegree ∣ 2 ^ 6 := by
    rw [hf.natDegree_dvd_iff_dvd_X_pow_card_pow_sub_X, ← AdjoinRoot.mk_eq_zero, map_sub, map_pow,
      AdjoinRoot.mk_X, Nat.card_zmod, sub_eq_zero]
    exact pow_two_pow_64_ne hr
  obtain ⟨k, hk, hdegree⟩ := (Nat.dvd_prime_pow Nat.prime_two).1 h128
  have hk7 : k = 7 := by
    by_contra hne
    apply h64
    rw [hdegree]
    exact Nat.pow_dvd_pow 2 (by omega)
  apply (associated_of_dvd_of_natDegree_le hdvd monic_modulus.ne_zero _).irreducible hf
  rw [natDegree_modulus, hdegree, hk7]
  decide

instance fact_irreducible_modulus : Fact (Irreducible modulus) := ⟨irreducible_modulus⟩

/-! ### Cancellation -/

/-- The coefficients of the polynomial of an element are its bits. -/
theorem coeff_value (x : Element) (j : Nat) :
  (value X 128 x : (ZMod 2)[X]).coeff j = if x.getMsbD j then 1 else 0
  := by
  have hterm (i : Nat) : (if x.getMsbD i then X ^ i else 0 : (ZMod 2)[X]).coeff j =
      if j = i then if x.getMsbD i then 1 else 0 else 0 := by
    rw [apply_ite (fun p => coeff p j), coeff_X_pow, coeff_zero]
    split
    · rfl
    · rw [ite_self]
  rw [value, finsetSum_coeff]
  simp only [hterm]
  rw [Finset.sum_ite_eq]
  by_cases hj : j < 128
  · rw [if_pos (Finset.mem_range.2 hj)]
  · have hbit : x.getMsbD j = false := BitVec.getMsbD_of_ge x j (Nat.le_of_not_lt hj)
    rw [if_neg (fun h => hj (Finset.mem_range.1 h)), hbit, if_neg Bool.false_ne_true]

/-- Only the element zero has a polynomial that the modulus divides. -/
theorem eq_zero_of_value_root {x : Element} (h : value (AdjoinRoot.root modulus) 128 x = 0) :
  x = 0
  := by
  have hdvd : modulus ∣ value X 128 x := by
    rw [← AdjoinRoot.mk_eq_zero, map_value, AdjoinRoot.mk_X]
    exact h
  have hdegree : (value X 128 x : (ZMod 2)[X]).degree < modulus.degree := by
    rw [degree_eq_natDegree monic_modulus.ne_zero, natDegree_modulus, degree_lt_iff_coeff_zero]
    intro j hj
    rw [coeff_value, BitVec.getMsbD_of_ge x j hj, if_neg Bool.false_ne_true]
  have hzero := eq_zero_of_dvd_of_degree_lt hdvd hdegree
  apply BitVec.eq_of_getMsbD_eq
  intro j _
  have hcoeff := coeff_value x j
  rw [hzero, coeff_zero] at hcoeff
  rcases hbit : x.getMsbD j with _ | _
  · exact BitVec.getMsbD_zero.symm
  · rw [hbit, if_pos rfl] at hcoeff
    exact absurd hcoeff zero_ne_one

/-- Elements are told apart by their polynomials. -/
theorem value_root_injective :
  Function.Injective (value (AdjoinRoot.root modulus) 128)
  := by
  intro x y h
  have hsum : value (AdjoinRoot.root modulus) 128 (x ^^^ y) = 0 := by
    rw [value_xor, h, CharTwo.add_self_eq_zero]
  exact BitVec.xor_eq_zero_iff.1 (eq_zero_of_value_root hsum)

/-- A factor other than zero can be cancelled. -/
theorem multiply_right_injective {h : Element} (hh : h ≠ 0) :
  Function.Injective fun x => multiply x h
  := by
  intro x y hxy
  have hr := root_pow_128 (dvd_refl modulus)
  have hvalue := congrArg (value (AdjoinRoot.root modulus) 128) hxy
  rw [value_multiply hr, value_multiply hr] at hvalue
  have hne : value (AdjoinRoot.root modulus) 128 h ≠ 0 := by
    intro hzero
    rw [← value_zero (AdjoinRoot.root modulus) 128] at hzero
    exact hh (value_root_injective hzero)
  exact value_root_injective (mul_right_cancel₀ hne hvalue)

end Keyring.Ghash

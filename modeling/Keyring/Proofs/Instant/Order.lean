import Keyring.Proofs.Instant.Text
import Keyring.Proofs.Text.Order
import Mathlib.Tactic.Positivity

/-!
# The order of instants

As long as years have four digits, the texts of instants in the database come in the order of time.
All numbers but the fraction of the second have a fixed count of digits.  Fractions are written in 0, 3,
6 or 9 digits, and the sign of the zone after them comes before the point and before all digits, so that
the digits which a shorter fraction leaves out count as zeroes.
-/

namespace Keyring

/-! ### Dates -/

namespace Date

/-- Whether a date lies before another one. -/
def IsBefore (a b : Date) : Prop :=
  a.year < b.year ∨ a.year = b.year ∧ (a.month < b.month ∨ a.month = b.month ∧ a.day < b.day)

/-- An earlier day lies in an earlier year of the calendar that starts in March, or comes earlier in the
same one. -/
theorem lt_of_parts_lt {cycle year dayOfYear cycle' year' dayOfYear' : Int}
    (hy : 0 ≤ year ∧ year ≤ 399) (hy' : 0 ≤ year' ∧ year' ≤ 399) (hd : 0 ≤ dayOfYear)
    (hd' : dayOfYear' ≤ 365)
    (hleap : dayOfYear' = 365 → isLeapYear (year' + cycle' * 400 + 1) = true)
    (h : cycle * 146097 + (365 * year + year / 4 - year / 100 + dayOfYear) <
      cycle' * 146097 + (365 * year' + year' / 4 - year' / 100 + dayOfYear')) :
  year + cycle * 400 < year' + cycle' * 400 ∨
    year + cycle * 400 = year' + cycle' * 400 ∧ dayOfYear < dayOfYear'
  := by
  obtain hcycle | rfl | hcycle := Int.lt_trichotomy cycle cycle'
  · omega
  · obtain hyear | rfl | hyear := Int.lt_trichotomy year year'
    · omega
    · omega
    · -- the last day of a leap year still comes before the next year
      simp only [isLeapYear, Bool.and_eq_true, Bool.or_eq_true, decide_eq_true_eq] at hleap
      omega
  · omega

/-- An earlier day has an earlier date. -/
theorem isBefore_ofDays {days days' : Int} (h : days < days') :
  (ofDays days).IsBefore (ofDays days')
  := by
  obtain ⟨cycle, year, dayOfYear, month, hy, hy9, hd, hd5, -, hmonth, hdays, he⟩ :=
    exists_parts days
  obtain ⟨cycle', year', dayOfYear', month', hy', hy9', hd', hd5', hleap', hmonth', hdays', he'⟩ :=
    exists_parts days'
  have hlt : cycle * 146097 + (365 * year + year / 4 - year / 100 + dayOfYear) <
      cycle' * 146097 + (365 * year' + year' / 4 - year' / 100 + dayOfYear') := by omega
  have hyears := lt_of_parts_lt ⟨hy, hy9⟩ ⟨hy', hy9'⟩ hd hd5' hleap' hlt
  clear hdays hdays' hlt
  -- January and February stand at the end of the year that starts in March
  rw [he, he', IsBefore]
  split <;> split <;> dsimp only <;> omega

end Date

namespace Instant

open Text

/-- Whether an instant lies before another one. -/
def IsBefore (s t : Instant) : Prop :=
  s.seconds < t.seconds ∨ s.seconds = t.seconds ∧ s.nanos < t.nanos

/-- The year in which an instant lies. -/
def year (t : Instant) : Int :=
  (Date.ofDays (t.seconds / 86400)).year

/-- Whether the year of an instant is written in four digits alone. -/
def HasFourDigitYear (t : Instant) : Prop :=
  0 ≤ t.year ∧ t.year ≤ 9999

instance (t : Instant) : Decidable t.HasFourDigitYear :=
  inferInstanceAs (Decidable (_ ∧ _))

theorem isBefore_or_eq_or_isBefore (s t : Instant) :
  s.IsBefore t ∨ s = t ∨ t.IsBefore s
  := by
  obtain ⟨seconds, nanos, _⟩ := s
  obtain ⟨seconds', nanos', _⟩ := t
  simp only [IsBefore, mk.injEq]
  omega

/-- The first part in which two instants differ is smaller in the earlier one. -/
theorem IsBefore.parts {s t : Instant} (h : s.IsBefore t) :
  let a := Date.ofDays (s.seconds / 86400)
  let b := Date.ofDays (t.seconds / 86400)
  a.year < b.year ∨ a.year = b.year ∧ (a.month < b.month ∨ a.month = b.month ∧
    (a.day < b.day ∨ a.day = b.day ∧
      (s.timeOfDay.1 < t.timeOfDay.1 ∨ s.timeOfDay.1 = t.timeOfDay.1 ∧
        (s.timeOfDay.2.1 < t.timeOfDay.2.1 ∨ s.timeOfDay.2.1 = t.timeOfDay.2.1 ∧
          (s.timeOfDay.2.2 < t.timeOfDay.2.2 ∨ s.timeOfDay.2.2 = t.timeOfDay.2.2 ∧
            s.nanos % 1000000000 < t.nanos % 1000000000)))))
  := by
  intro a b
  by_cases hday : s.seconds / 86400 < t.seconds / 86400
  · have hdate : a.IsBefore b := Date.isBefore_ofDays hday
    rw [Date.IsBefore] at hdate
    omega
  · have hsame : s.seconds / 86400 = t.seconds / 86400 := by
      rcases h with h | h <;> omega
    have hdate : a = b := congrArg Date.ofDays hsame
    obtain ⟨-, -, -, hleap⟩ := s.isValid
    obtain ⟨-, -, -, hleap'⟩ := t.isValid
    refine .inr ⟨congrArg _ hdate, .inr ⟨congrArg _ hdate, .inr ⟨congrArg _ hdate, ?_⟩⟩⟩
    -- within a minute a leap second comes last
    simp only [timeOfDay]
    rcases h with h | h <;> omega

/-! ### Texts -/

/-- Numbers in a fixed count of digits come in their order, and equal ones in the order of what
follows. -/
theorem writePadded_append_lt {width m n : Nat} (hwidth : 0 < width) (hn : n < 10 ^ width)
    {u v : List Char} (h : m < n ∨ m = n ∧ u < v) :
  writePadded width m ++ u < writePadded width n ++ v
  := by
  obtain hlt | ⟨rfl, huv⟩ := h
  · have hm := length_writePadded hwidth (hlt.trans hn)
    have hn := length_writePadded hwidth hn
    apply append_lt_append (isDigit_of_mem_writePadded _ _) (isDigit_of_mem_writePadded _ _)
    · left
      rw [hm, hn]
    · rw [digitsValue_writePadded, digitsValue_writePadded, hm, hn]
      apply Nat.mul_lt_mul_of_pos_right hlt
      apply Nat.pow_pos
      decide
  · exact List.append_left_lt huv

/-- Equal characters before the numbers change nothing. -/
theorem cons_writePadded_append_lt {width m n : Nat} (hwidth : 0 < width) (hn : n < 10 ^ width)
    {u v : List Char} (h : m < n ∨ m = n ∧ u < v) (separator : Char) :
  separator :: (writePadded width m ++ u) < separator :: (writePadded width n ++ v)
  := List.cons_lt_cons_iff.2 (.inr ⟨rfl, writePadded_append_lt hwidth hn h⟩)

/-- Of a fraction that is not zero as many digits are written as are needed, if nine are enough. -/
theorem exists_writeFraction_eq {nanos : Nat} (hpos : nanos ≠ 0) (h : nanos < 1000000000) :
  ∃ width n, 0 < width ∧ width ≤ 9 ∧ writeFraction nanos = '.' :: writePadded width n ∧
    n < 10 ^ width ∧ n * 10 ^ (9 - width) = nanos
  := by
  rw [writeFraction, if_neg hpos]
  split
  · exact ⟨3, nanos / 1000000, by decide, by decide, rfl, by omega, by omega⟩
  split
  · exact ⟨6, nanos / 1000, by decide, by decide, rfl, by omega, by omega⟩
  · exact ⟨9, nanos, by decide, by decide, rfl, by omega, by omega⟩

/-- A fraction in fewer digits is compared as if it were filled up with zeroes. -/
theorem mul_pow_lt_mul_pow {width width' m n : Nat} (hwidth : width ≤ 9) (hwidth' : width' ≤ 9)
    (h : m * 10 ^ (9 - width) < n * 10 ^ (9 - width')) :
  m * 10 ^ width' < n * 10 ^ width
  := by
  have hnine : 10 ^ 9 = 10 ^ (9 - width) * 10 ^ width := by
    rw [← pow_add, Nat.sub_add_cancel hwidth]
  have hnine' : 10 ^ 9 = 10 ^ (9 - width') * 10 ^ width' := by
    rw [← pow_add, Nat.sub_add_cancel hwidth']
  have hpos : 0 < 10 ^ width * 10 ^ width' := by positivity
  apply Nat.lt_of_mul_lt_mul_right (a := 10 ^ 9)
  calc
    m * 10 ^ width' * 10 ^ 9 = m * 10 ^ (9 - width) * (10 ^ width * 10 ^ width') := by
      rw [hnine]
      ring
    _ < n * 10 ^ (9 - width') * (10 ^ width * 10 ^ width') := Nat.mul_lt_mul_of_pos_right h hpos
    _ = n * 10 ^ width * 10 ^ 9 := by
      rw [hnine']
      ring

/-- Fractions of different lengths come in their order, as long as the sign of a zone follows. -/
theorem writeFraction_append_lt {m n : Nat} (h : m < n) (hn : n < 1000000000) (zone : List Char) :
  writeFraction m ++ '+' :: zone < writeFraction n ++ '+' :: zone
  := by
  obtain ⟨width', n, hpos', hwidth', hn', hlt', rfl⟩ := exists_writeFraction_eq (by omega) hn
  rw [hn', List.cons_append]
  by_cases hm : m = 0
  · subst hm
    exact List.cons_lt_cons_iff.2 (.inl (by decide))
  · obtain ⟨width, m, hpos, hwidth, hm', hlt, rfl⟩ := exists_writeFraction_eq hm (by omega)
    rw [hm', List.cons_append]
    refine List.cons_lt_cons_iff.2 (.inr ⟨rfl, ?_⟩)
    apply append_lt_append (isDigit_of_mem_writePadded _ _) (isDigit_of_mem_writePadded _ _)
    · right
      intro c w hc
      have hzero : 48 ≤ c.val.toNat := (Char.isDigit_iff_toNat.1 hc).1
      refine List.cons_lt_cons_iff.2 (.inl ?_)
      rw [Char.lt_def, UInt32.lt_iff_toNat_lt]
      exact Nat.lt_of_lt_of_le (by decide) hzero
    · rw [digitsValue_writePadded, digitsValue_writePadded, length_writePadded hpos hlt,
        length_writePadded hpos' hlt']
      exact mul_pow_lt_mul_pow hwidth hwidth' h

theorem HasFourDigitYear.writeYear_eq {t : Instant} (h : t.HasFourDigitYear) :
  writeYear (Date.ofDays (t.seconds / 86400)).year =
    writePadded 4 (Date.ofDays (t.seconds / 86400)).year.natAbs
  := by
  obtain ⟨hmin, hmax⟩ := h
  rw [year] at hmin hmax
  exact if_pos (by simp [hmin, hmax])

/-- As long as years have four digits, the text of an earlier instant comes before that of a later
one. -/
theorem storedText_lt_of_isBefore {s t : Instant} (hs : s.HasFourDigitYear)
    (ht : t.HasFourDigitYear) (h : s.IsBefore t) :
  s.storedText < t.storedText
  := by
  obtain ⟨hmonth, hday, hhour, hminute, hsecond⟩ := t.parts_lt
  have hnanos : t.nanos % 1000000000 < 1000000000 := Nat.mod_lt _ (by decide)
  have hparts := h.parts
  rw [storedText, storedText, String.lt_iff, String.toList_ofList, String.toList_ofList,
    writeLocal_append, writeLocal_append]
  dsimp only at hparts ⊢
  rw [hs.writeYear_eq, ht.writeYear_eq]
  simp only [HasFourDigitYear, year] at hs ht
  apply writePadded_append_lt (by decide) (by omega)
  refine hparts.imp (by omega) (And.imp (by omega) fun hparts => ?_)
  apply cons_writePadded_append_lt (by decide) hmonth
  refine hparts.imp_right (And.imp_right fun hparts => ?_)
  apply cons_writePadded_append_lt (by decide) hday
  refine hparts.imp_right (And.imp_right fun hparts => ?_)
  apply cons_writePadded_append_lt (by decide) (by omega)
  refine hparts.imp_right (And.imp_right fun hparts => ?_)
  apply cons_writePadded_append_lt (by decide) (by omega)
  refine hparts.imp_right (And.imp_right fun hparts => ?_)
  apply cons_writePadded_append_lt (by decide) (by omega)
  refine hparts.imp_right (And.imp_right fun hparts => ?_)
  exact writeFraction_append_lt hparts hnanos _

/-- Instants are told apart by their texts. -/
theorem storedText_inj {s t : Instant} :
  s.storedText = t.storedText ↔ s = t
  := by
  constructor
  · intro h
    have hread := congrArg ofColumn? h
    rw [ofColumn?_storedText, ofColumn?_storedText] at hread
    exact Option.some.inj hread
  · exact congrArg storedText

/-- As long as years have four digits, the texts of instants come in the order of time. -/
theorem storedText_lt_iff {s t : Instant} (hs : s.HasFourDigitYear) (ht : t.HasFourDigitYear) :
  s.storedText < t.storedText ↔ s.IsBefore t
  := by
  constructor
  · intro h
    obtain hst | rfl | hts := s.isBefore_or_eq_or_isBefore t
    · exact hst
    · cases String.lt_irrefl _ h
    · cases String.lt_asymm h (storedText_lt_of_isBefore ht hs hts)
  · exact storedText_lt_of_isBefore hs ht

end Instant

end Keyring

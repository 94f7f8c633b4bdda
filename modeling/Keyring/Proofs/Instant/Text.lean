import Keyring.Instant.Column
import Keyring.Proofs.Instant.Calendar
import Keyring.Proofs.Text.Digits
import Mathlib.Algebra.Group.Nat.Defs

/-!
# Reading instants back

An instant is read back from its text, to the nanosecond: from the form of records by the reader of
records, and from the form of the database by the reader of columns.  All numbers but the year are
written in a fixed count of digits, which is just what the readers take; the year ends at the hyphen
after it.
-/

namespace Keyring.Instant

open Text

/-! ### Numbers -/

theorem isDigit_of_mem_writePadded (width n : Nat) :
  ∀ c ∈ writePadded width n, c.isDigit = true
  := by
  intro c hc
  rcases List.mem_append.1 hc with hc | hc
  · rw [List.eq_of_mem_replicate hc]
    rfl
  · exact isDigit_of_mem_toDigits c hc

theorem digitsValue_writePadded (width n : Nat) :
  digitsValue (writePadded width n) = n
  := by
  rw [writePadded, digitsValue_replicate_append, digitsValue_toDigits]

/-- A number that fits is written in just as many digits as it is given. -/
theorem length_writePadded {width n : Nat} (hwidth : 0 < width) (h : n < 10 ^ width) :
  (writePadded width n).length = width
  := by
  have hlen := (Nat.length_toDigits_le_iff (b := 10) (by decide) hwidth).2 h
  rw [writePadded, List.length_append, List.length_replicate]
  omega

theorem writePadded_ne_nil (width n : Nat) :
  writePadded width n ≠ []
  := by
  simp [writePadded]

/-- Digits are read as a number, if there are as many as may be, or no digit follows. -/
theorem readNumber_append {width : Nat} {ds rest : List Char} (hd : ∀ c ∈ ds, c.isDigit = true)
    (hne : ds ≠ [])
    (hend : ds.length = width ∨
      ds.length ≤ width ∧ ∀ c ∈ rest.head?, c.isDigit = false) :
  readNumber width (ds ++ rest) = some (digitsValue ds, rest)
  := by
  have htake : ((ds ++ rest).take width).takeWhile Char.isDigit = ds := by
    rcases hend with rfl | ⟨hlen, hrest⟩
    · rw [List.take_left]
      have h := takeWhile_append_of_head (t := []) hd (by simp)
      rwa [List.append_nil] at h
    · rw [List.take_append, List.take_of_length_le hlen]
      apply takeWhile_append_of_head hd
      intro c hc
      apply hrest
      rw [List.head?_take] at hc
      split at hc
      · cases hc
      · exact hc
  rw [readNumber, htake]
  simp [hne]

theorem readNumber_writePadded {n : Nat} (h : n < 100) (rest : List Char) :
  readNumber 2 (writePadded 2 n ++ rest) = some (n, rest)
  := by
  rw [readNumber_append (isDigit_of_mem_writePadded _ _) (writePadded_ne_nil _ _)
    (.inl (length_writePadded (by decide) h)), digitsValue_writePadded]

/-! ### Years -/

/-- A year is read up to the hyphen after it. -/
theorem readYear_writeYear (year : Int) (rest : List Char) :
  readYear (writeYear year ++ '-' :: rest) = some (year, '-' :: rest)
  := by
  have hread : ∀ width, (writePadded 4 year.natAbs).length = width ∨
      (writePadded 4 year.natAbs).length ≤ width →
      readNumber width (writePadded 4 year.natAbs ++ '-' :: rest) =
        some (year.natAbs, '-' :: rest) := by
    intro width hwidth
    rw [readNumber_append (isDigit_of_mem_writePadded _ _) (writePadded_ne_nil _ _)
      (hwidth.imp_right (⟨·, by rintro c ⟨⟩; rfl⟩)), digitsValue_writePadded]
  have hlong : (writePadded 4 year.natAbs).length ≤
      (writePadded 4 year.natAbs ++ '-' :: rest).length := by
    rw [List.length_append]
    omega
  -- A year of four digits is written without a sign and read in four places; every other one has a sign
  -- and is read to its end.
  unfold writeYear
  split
  · rename_i hyear
    simp only [Bool.and_eq_true, decide_eq_true_eq] at hyear
    have hnumber := hread 4 (.inl (length_writePadded (by decide) (by omega)))
    rcases hc : writePadded 4 year.natAbs with _ | ⟨c, ds⟩
    · cases writePadded_ne_nil _ _ hc
    · have hdigit : c.isDigit = true := by
        apply isDigit_of_mem_writePadded 4 year.natAbs
        rw [hc]
        exact List.mem_cons_self
      rw [hc] at hnumber
      rw [List.cons_append] at hnumber ⊢
      have hpositive : (year.natAbs : Int) = year := by omega
      rw [readYear, hnumber]
      · rw [Option.map_some, hpositive]
      · rintro s ⟨⟩
        cases hdigit
      · rintro s ⟨⟩
        cases hdigit
  · rename_i hyear
    simp only [Bool.and_eq_true, decide_eq_true_eq] at hyear
    split
    · have hnegative : -(year.natAbs : Int) = year := by omega
      rw [List.cons_append, readYear, hread _ (.inr hlong), Option.map_some, hnegative]
    · have hpositive : (year.natAbs : Int) = year := by omega
      rw [List.cons_append, readYear, hread _ (.inr hlong), Option.map_some, hpositive]

/-! ### White space -/

theorem isBlank_of_isDigit {c : Char} (h : c.isDigit = true) :
  isBlank c = false
  := by
  simp only [Char.isDigit, ge_iff_le, Bool.and_eq_true, decide_eq_true_eq,
    UInt32.le_iff_toNat_le, Char.toNat_val] at h
  change 48 ≤ c.toNat ∧ c.toNat ≤ 57 at h
  simp only [isBlank, Bool.or_eq_false_iff, Bool.and_eq_false_iff, decide_eq_false_iff_not,
    beq_eq_false_iff_ne]
  omega

theorem skipBlanks_cons {c : Char} (h : isBlank c = false) (s : List Char) :
  skipBlanks (c :: s) = c :: s
  := List.dropWhile_cons_of_neg (by simp [h])

theorem skipBlanks_writePadded (width n : Nat) (rest : List Char) :
  skipBlanks (writePadded width n ++ rest) = writePadded width n ++ rest
  := by
  rcases h : writePadded width n with _ | ⟨c, ds⟩
  · cases writePadded_ne_nil _ _ h
  · apply skipBlanks_cons
    apply isBlank_of_isDigit
    apply isDigit_of_mem_writePadded width n
    rw [h]
    exact List.mem_cons_self

theorem skipBlanks_writeYear (year : Int) (rest : List Char) :
  skipBlanks (writeYear year ++ rest) = writeYear year ++ rest
  := by
  unfold writeYear
  split
  · apply skipBlanks_writePadded
  · split <;> exact skipBlanks_cons rfl _

/-! ### Fractions -/

theorem readFraction_writePadded {width n : Nat} (hpos : 0 < width) (hnine : width ≤ 9)
    (h : n < 10 ^ width) {rest : List Char} (hrest : ∀ c ∈ rest.head?, c.isDigit = false) :
  readFraction ('.' :: writePadded width n ++ rest) = some (n * 10 ^ (9 - width), rest)
  := by
  have hlen := length_writePadded hpos h
  have hdrop : (writePadded width n ++ rest).drop width = rest := List.drop_left' hlen
  have htake : (writePadded width n).take 9 = writePadded width n :=
    List.take_of_length_le (by rw [hlen]; exact hnine)
  rw [List.cons_append, readFraction, takeWhile_append_of_head (isDigit_of_mem_writePadded _ _) hrest]
  simp [writePadded_ne_nil, htake, digitsValue_writePadded, hlen, hdrop]

/-- The digits that are written of a fraction are all that count. -/
theorem readFraction_writeFraction {nanos : Nat} (h : nanos < 1000000000) (rest : List Char)
    (hrest : ∀ c ∈ rest.head?, c.isDigit = false ∧ c ≠ '.') :
  readFraction (writeFraction nanos ++ rest) = some (nanos, rest)
  := by
  have hdigit : ∀ c ∈ rest.head?, c.isDigit = false := fun c hc => (hrest c hc).1
  unfold writeFraction
  split
  · subst nanos
    rcases rest with _ | ⟨c, rest⟩
    · rfl
    · have hdot := (hrest c rfl).2
      simp [readFraction, hdot]
  split
  · rw [readFraction_writePadded (by decide) (by decide) (by omega) hdigit]
    simp
    omega
  split
  · rw [readFraction_writePadded (by decide) (by decide) (by omega) hdigit]
    simp
    omega
  · rw [readFraction_writePadded (by decide) (by decide) (by omega) hdigit]
    simp

/-! ### Parts of an instant -/

/-- The hours, minutes and seconds of an instant; a leap second has the number 60. -/
def timeOfDay (t : Instant) : Nat × Nat × Nat :=
  let second := (t.seconds % 86400).toNat
  (second / 3600, second / 60 % 60, second % 60 + t.nanos / 1000000000)

/-- The text of an instant as its parts follow one another. -/
theorem writeLocal_append (t : Instant) (zone : List Char) :
  t.writeLocal ++ zone =
    let date := Date.ofDays (t.seconds / 86400)
    writeYear date.year ++ '-' :: (writePadded 2 date.month ++ '-' :: (writePadded 2 date.day ++
      'T' :: (writePadded 2 t.timeOfDay.1 ++ ':' :: (writePadded 2 t.timeOfDay.2.1 ++
        ':' :: (writePadded 2 t.timeOfDay.2.2 ++
          (writeFraction (t.nanos % 1000000000) ++ zone))))))
  := by
  simp [writeLocal, timeOfDay]

/-- The date of an instant is a date of the calendar. -/
theorem isValid_date (t : Instant) :
  (Date.ofDays (t.seconds / 86400)).isValid = true
  := by
  obtain ⟨hmin, hmax, -, -⟩ := t.isValid
  apply Date.isValid_ofDays
  · omega
  · omega

/-- All numbers but the year have two digits. -/
theorem parts_lt (t : Instant) :
  (Date.ofDays (t.seconds / 86400)).month < 100 ∧ (Date.ofDays (t.seconds / 86400)).day < 100 ∧
    t.timeOfDay.1 < 24 ∧ t.timeOfDay.2.1 < 60 ∧ t.timeOfDay.2.2 ≤ 60
  := by
  obtain ⟨-, -, hnanos, hleap⟩ := t.isValid
  have hdate := t.isValid_date
  simp only [Date.isValid, Bool.and_eq_true, decide_eq_true_eq] at hdate
  have hday : ∀ year month, Date.daysInMonth year month ≤ 31 := by
    intro year month
    unfold Date.daysInMonth
    split
    · split <;> omega
    all_goals omega
  have hd := hday (Date.ofDays (t.seconds / 86400)).year (Date.ofDays (t.seconds / 86400)).month
  refine ⟨by omega, by omega, ?_, ?_, ?_⟩
  · simp only [timeOfDay]
    omega
  · simp only [timeOfDay]
    omega
  · simp only [timeOfDay]
    omega

/-- The parts of an instant make that instant. -/
theorem ofLocal?_parts (t : Instant) :
  ofLocal? (Date.ofDays (t.seconds / 86400)) t.timeOfDay.1 t.timeOfDay.2.1 t.timeOfDay.2.2
    (t.nanos % 1000000000) 0 = some t
  := by
  obtain ⟨-, -, hhour, hminute, hsecond⟩ := t.parts_lt
  obtain ⟨-, -, hnanos, hleap⟩ := t.isValid
  have hparts : ofParts? t.seconds t.nanos = some t := by
    rw [ofParts?, dif_pos t.isValid]
  rw [ofLocal?, if_pos (by simp [t.isValid_date, hhour, hminute, hsecond]), Date.toDays_ofDays]
  -- A leap second is written as second 60, and kept as nanoseconds beyond the second before.
  by_cases hl : 1000000000 ≤ t.nanos
  · have h60 : t.timeOfDay.2.2 = 60 := by
      simp only [timeOfDay]
      omega
    have hs : t.seconds / 86400 * 86400 +
        ((t.timeOfDay.1 * 3600 + t.timeOfDay.2.1 * 60 + 59 : Nat) : Int) - 0 = t.seconds := by
      simp only [timeOfDay]
      omega
    have hn : 1000000000 + t.nanos % 1000000000 = t.nanos := by omega
    rw [if_pos h60]
    dsimp only
    rw [hs, hn, hparts]
  · have h60 : t.timeOfDay.2.2 ≠ 60 := by
      simp only [timeOfDay]
      omega
    have hs : t.seconds / 86400 * 86400 +
        ((t.timeOfDay.1 * 3600 + t.timeOfDay.2.1 * 60 + t.timeOfDay.2.2 : Nat) : Int) - 0 =
          t.seconds := by
      simp only [timeOfDay]
      omega
    have hn : t.nanos % 1000000000 = t.nanos := by omega
    rw [if_neg h60]
    dsimp only
    rw [hs, hn, hparts]

/-! ### Records -/

theorem readNext_writePadded {separator : Char} (hs : isBlank separator = false) {n : Nat}
    (h : n < 100) (rest : List Char) :
  readNext separator 2 (separator :: (writePadded 2 n ++ rest)) = some (n, rest)
  := by
  rw [readNext, skipBlanks_cons hs]
  simp [expect, skipBlanks_writePadded, readNumber_writePadded h]

/-- An instant is read back from its text in records. -/
@[simp]
theorem ofText?_text (t : Instant) :
  ofText? t.text = some t
  := by
  obtain ⟨hmonth, hday, hhour, hminute, hsecond⟩ := t.parts_lt
  rw [ofText?, text, String.toList_ofList, writeLocal_append, ofChars?, skipBlanks_writeYear,
    readYear_writeYear]
  have hnanos : t.nanos % 1000000000 < 1000000000 := Nat.mod_lt _ (by decide)
  have hfraction := readFraction_writeFraction hnanos ['Z'] (by rintro c ⟨⟩; exact ⟨rfl, by decide⟩)
  have hblank : isBlank '-' = false ∧ isBlank ':' = false ∧ isBlank 'Z' = false := by decide
  simp [readNext_writePadded, hblank, hmonth, hday, skipBlanks_writePadded,
    readNumber_writePadded (show t.timeOfDay.1 < 100 by omega),
    show t.timeOfDay.2.1 < 100 by omega, show t.timeOfDay.2.2 < 100 by omega, hfraction,
    skipBlanks_cons, readZone]
  exact ⟨rfl, t.ofLocal?_parts⟩

/-! ### Columns -/

theorem readLoose_writePadded {n : Nat} (h : n < 100) (rest : List Char) :
  readLoose (writePadded 2 n ++ rest) = some (n, rest)
  := by
  rw [readLoose, skipBlanks_writePadded, readNumber_writePadded h]

/-- An instant is read back from its text in the database. -/
@[simp]
theorem ofColumn?_storedText (t : Instant) :
  ofColumn? t.storedText = some t
  := by
  obtain ⟨hmonth, hday, hhour, hminute, hsecond⟩ := t.parts_lt
  have hnanos : t.nanos % 1000000000 < 1000000000 := Nat.mod_lt _ (by decide)
  have hfraction := readFraction_writeFraction hnanos ['+', '0', '0', ':', '0', '0'] (by rintro c ⟨⟩; exact ⟨rfl, by decide⟩)
  have hzone : looseZone? ['+', '0', '0', ':', '0', '0'] = some 0 := by decide
  rw [ofColumn?, storedText, String.toList_ofList, writeLocal_append, ofLoose?,
    skipBlanks_writeYear, readYear_writeYear]
  simp [expect, readLoose_writePadded, hmonth, hday, readSeconds,
    readLoose_writePadded (show t.timeOfDay.1 < 100 by omega),
    show t.timeOfDay.2.1 < 100 by omega, show t.timeOfDay.2.2 < 100 by omega, hfraction, hzone]
  exact .inl t.ofLocal?_parts

end Keyring.Instant

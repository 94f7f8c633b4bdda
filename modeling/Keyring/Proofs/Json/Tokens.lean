import Keyring.Json.Printer
import Keyring.Json.Reader
import Keyring.Proofs.Text.Digits
import Mathlib.Tactic.IntervalCases
import Mathlib.Tactic.SplitIfs
import Mathlib.Tactic.Use

/-!
# Reading strings and numbers back

A string is read back from its quoted form, whatever characters it has, and a number from its
digits, if what follows them cannot belong to a number.
-/

namespace Keyring.Json

open Text

/-! ### White space -/

/-- White space before a text is skipped. -/
theorem skipSpaces_append {w s : List Char} (hw : ∀ c ∈ w, isSpace c = true) :
  skipSpaces (w ++ s) = skipSpaces s
  := List.dropWhile_append_of_pos hw

theorem skipSpaces_of_head {s : List Char} (h : ∀ c ∈ s.head?, isSpace c = false) :
  skipSpaces s = s
  := dropWhile_append_of_head (s := []) (by simp) h

theorem skipSpaces_cons {c : Char} {s : List Char} (h : isSpace c = false) :
  skipSpaces (c :: s) = c :: s
  := List.dropWhile_cons_of_neg (by simp [h])

/-! ### Strings -/

/-- The code point of a control character is written with two digits. -/
theorem hexPiece?_hexDigit {n : Nat} (h : n < 32) :
  hexPiece? '0' '0' (hexDigit (n / 16)) (hexDigit (n % 16)) = some (.char (Char.ofNat n))
  := by
  interval_cases n <;> rfl

/-- A character is read back from its escaped form. -/
theorem readPieces_escape (read : List Piece) (c : Char) (s : List Char) :
  readPieces read (escape c ++ s) = readPieces (.char c :: read) s
  := by
  unfold escape
  split_ifs with hquote hbackslash _ _ _ _ _ hcontrol
  -- the short escapes
  any_goals
    subst c
    rfl
  · have hp := hexPiece?_hexDigit hcontrol
    rw [Char.ofNat_toNat] at hp
    simp only [List.cons_append, List.nil_append, readPieces, hp]
  · simp [readPieces, hbackslash, hcontrol]

theorem readPieces_flatMap_escape (read : List Piece) (s rest : List Char) :
  readPieces read (s.flatMap escape ++ '"' :: rest) =
    some (read.reverse ++ s.map Piece.char, rest)
  := by
  induction s generalizing read with
  | nil => simp [readPieces]
  | cons c s ih =>
    rw [List.flatMap_cons, List.append_assoc, readPieces_escape, ih]
    simp

theorem joinPieces_map_char (s : List Char) :
  joinPieces (s.map Piece.char) = some s
  := by
  induction s with
  | nil => rfl
  | cons c s ih => rw [List.map_cons, joinPieces, ih, Option.map_some]

/-- A string is read back from its quoted form. -/
theorem readText_writeString (s : String) (rest : List Char) :
  ∃ t, writeString s ++ rest = '"' :: t ∧ readText t = some (some s, rest)
  := by
  use s.toList.flatMap escape ++ '"' :: rest
  constructor
  · simp [writeString]
  · rw [readText, readPieces_flatMap_escape]
    simp [joinPieces_map_char]

/-! ### Numbers -/

/-- Whether a character can stand right after a number without belonging to it. -/
def endsNumber (c : Char) : Bool :=
  !(c.isDigit || c = '.' || c = 'e' || c = 'E')

theorem exists_writeNat_eq_cons (n : Nat) :
  ∃ c s, writeNat n = c :: s ∧ c.isDigit = true
  := by
  rcases hn : writeNat n with _ | ⟨c, s⟩
  · cases Nat.toDigits_ne_nil hn
  · use c, s, rfl
    apply isDigit_of_mem_toDigits (n := n)
    rw [← writeNat, hn]
    exact List.mem_cons_self

theorem isSpace_of_isDigit {c : Char} (hc : c.isDigit = true) :
  isSpace c = false
  := by
  by_contra h
  rw [Bool.not_eq_false, isSpace] at h
  simp at h
  rcases h with ((rfl | rfl) | rfl) | rfl <;> cases hc

theorem readDigits_writeNat (n : Nat) {rest : List Char}
    (hrest : ∀ c ∈ rest.head?, endsNumber c = true) :
  readDigits (writeNat n ++ rest) = some (writeNat n, rest)
  := by
  have hhead : ∀ c ∈ rest.head?, c.isDigit = false := by
    intro c hc
    have h := hrest c hc
    simp [endsNumber] at h
    exact h.1.1.1
  have htake := takeWhile_append_of_head (isDigit_of_mem_toDigits (n := n)) hhead
  have hdrop := dropWhile_append_of_head (isDigit_of_mem_toDigits (n := n)) hhead
  rw [readDigits, writeNat, htake, hdrop]
  simp

theorem readFraction_of_head {rest : List Char} (hrest : ∀ c ∈ rest.head?, endsNumber c = true) :
  readFraction rest = some (none, rest)
  := by
  rcases rest with _ | ⟨c, rest⟩
  · rfl
  · have h := hrest c rfl
    simp [endsNumber] at h
    simp [readFraction, h]

theorem readExponent_of_head {rest : List Char} (hrest : ∀ c ∈ rest.head?, endsNumber c = true) :
  readExponent rest = some (none, rest)
  := by
  rcases rest with _ | ⟨c, rest⟩
  · rfl
  · have h := hrest c rfl
    simp [endsNumber] at h
    simp [readExponent, h]

/-- A number is read back from its digits. -/
theorem readUnsigned_writeNat (n : Nat) {rest : List Char}
    (hrest : ∀ c ∈ rest.head?, endsNumber c = true) :
  readUnsigned false (writeNat n ++ rest) = some (.nat n, rest)
  := by
  have hzero : (writeNat n).head? = some '0' → (writeNat n).length = 1 := by
    intro hhead
    rw [eq_zero_of_head?_toDigits hhead]
    rfl
  have hvalue : digitsValue (writeNat n) = n := digitsValue_toDigits n
  rw [readUnsigned, readDigits_writeNat n hrest]
  simpa [hvalue, readFraction_of_head hrest, readExponent_of_head hrest] using hzero

end Keyring.Json

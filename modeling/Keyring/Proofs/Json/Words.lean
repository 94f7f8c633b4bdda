import Keyring.Proofs.Json.Tokens
import Mathlib.Data.List.TakeWhile

/-!
# Where a word ends

White space, quotes, and the marks of arrays and objects end a word.  A reader of numbers never
reads beyond a word, and what follows the word makes no difference to it.
-/

namespace Keyring.Json

open Text

/-- Whether a character stands for itself between the parts of arrays and objects. -/
def isMark (c : Char) : Bool :=
  c = '[' || c = ']' || c = '{' || c = '}' || c = ',' || c = ':'

/-- Whether a character can stand in a word. -/
def isWordChar (c : Char) : Bool :=
  !(isSpace c || isMark c || c = '"')

/-- Whether no word goes on at the start of a text. -/
def EndsWord (t : List Char) : Prop :=
  ∀ c ∈ t.head?, isWordChar c = false

variable {s t : List Char}

theorem endsWord_nil :
  EndsWord []
  := by
  rintro c ⟨⟩

theorem endsWord_cons {c : Char} (h : isWordChar c = false) (t : List Char) :
  EndsWord (c :: t)
  := by
  rintro _ ⟨⟩
  exact h

theorem endsWord_dropWhile (s : List Char) :
  EndsWord (s.dropWhile isWordChar)
  := by
  intro c hc
  have h := List.head?_dropWhile_not isWordChar s
  rw [Option.mem_def.1 hc] at h
  simpa using h

theorem isWordChar_of_isSpace {c : Char} (h : isSpace c = true) :
  isWordChar c = false
  := by
  rw [isWordChar, h]
  rfl

/-- A digit can stand in a word. -/
theorem isWordChar_of_isDigit {c : Char} (h : c.isDigit = true) :
  isWordChar c = true
  := by
  by_contra hc
  simp only [isWordChar, isSpace, isMark, Bool.not_eq_true', Bool.not_eq_false, Bool.or_eq_true,
    decide_eq_true_iff] at hc
  rcases hc with ((((rfl | rfl) | rfl) | rfl) | (((((rfl | rfl) | rfl) | rfl) | rfl) | rfl)) | rfl
  all_goals cases h

/-- A word ends before a character that can stand in no word. -/
theorem EndsWord.head?_ne (h : EndsWord t) {c : Char} (hc : isWordChar c = true) :
  t.head? ≠ some c
  := by
  intro ht
  rw [h c ht] at hc
  cases hc

theorem EndsWord.isDigit_eq_false (h : EndsWord t) :
  ∀ c ∈ t.head?, c.isDigit = false
  := by
  intro c hc
  by_contra hdigit
  exact h.head?_ne (isWordChar_of_isDigit (by simpa using hdigit)) hc

/-! ### Readers that stop -/

/-- Whether a reader does the same before the end of a word as before the end of a text, and leaves
an end of what it reads. -/
structure StopsAtWords {α : Type} (read : List Char → Option (α × List Char)) : Prop where
  append (s t : List Char) (ht : EndsWord t) : read (s ++ t) = (read s).map fun r => (r.1, r.2 ++ t)
  suffix (s : List Char) (a : α) (rest : List Char) (h : read s = some (a, rest)) : rest <:+ s

section

variable {α β : Type} {read : List Char → Option (α × List Char)}

theorem stopsAtWords_none :
  StopsAtWords fun _ => (none : Option (α × List Char))
  := by
  constructor
  · intro s t _
    rfl
  · rintro s a rest ⟨⟩

theorem stopsAtWords_some (a : α) :
  StopsAtWords fun s => some (a, s)
  := by
  constructor
  · intro s t _
    rfl
  · rintro s _ _ ⟨⟩
    exact List.suffix_refl s

theorem StopsAtWords.bind (h : StopsAtWords read) {f : α → List Char → Option (β × List Char)}
    (hf : ∀ a, StopsAtWords (f a)) :
  StopsAtWords fun s => read s >>= fun r => f r.1 r.2
  := by
  constructor
  · intro s t ht
    rw [h.append s t ht]
    rcases read s with _ | ⟨a, rest⟩
    · rfl
    · exact (hf a).append rest t ht
  · intro s b rest' hb
    obtain ⟨⟨a, rest⟩, ha, hb⟩ := Option.bind_eq_some_iff.1 hb
    exact ((hf a).suffix rest b rest' hb).trans (h.suffix s a rest ha)

theorem StopsAtWords.map (h : StopsAtWords read) (f : α → β) :
  StopsAtWords fun s => (read s).map fun r => (f r.1, r.2)
  := by
  constructor
  · intro s t ht
    rw [h.append s t ht]
    rcases read s with _ | ⟨a, rest⟩
    · rfl
    · rfl
  · intro s b rest hb
    obtain ⟨⟨a, rest'⟩, ha, hb⟩ := Option.map_eq_some_iff.1 hb
    cases hb
    exact h.suffix s a _ ha

/-- What is read before the end of a word is a word. -/
theorem StopsAtWords.exists_word (h : StopsAtWords read) {a : α} {rest : List Char}
    (hs : read s = some (a, rest)) (hrest : EndsWord rest) :
  ∃ w, s = w ++ rest ∧ (∀ c ∈ w, isWordChar c = true) ∧ read w = some (a, [])
  := by
  have hsplit := List.takeWhile_append_dropWhile (p := isWordChar) (l := s)
  have happend := h.append (s.takeWhile isWordChar) _ (endsWord_dropWhile s)
  rw [hsplit, hs] at happend
  obtain ⟨⟨_, left⟩, hread, hleft⟩ := Option.map_eq_some_iff.1 happend.symm
  cases hleft
  -- What the reader leaves of the word is empty, as it would go on at the start of the rest.
  have hnil : left = [] := by
    rcases left with _ | ⟨c, left⟩
    · rfl
    · have hc : c ∈ s.takeWhile isWordChar := (h.suffix _ _ _ hread).subset List.mem_cons_self
      exact absurd rfl (hrest.head?_ne (List.mem_takeWhile_imp hc))
  subst hnil
  exact ⟨_, hsplit.symm, fun c hc => List.mem_takeWhile_imp hc, hread⟩

/-- A reader may look at whether a text starts with a character of a word. -/
theorem StopsAtWords.ite_head? {read' : List Char → Option (α × List Char)} {c : Char}
    (hc : isWordChar c = true) (h : StopsAtWords read) (h' : StopsAtWords read') :
  StopsAtWords fun s => if s.head? = some c then read s.tail else read' s
  := by
  constructor
  · intro s t ht
    rcases s with _ | ⟨x, s⟩
    · rw [List.nil_append, if_neg (ht.head?_ne hc), if_neg (by simp)]
      exact h'.append [] t ht
    · rw [List.cons_append, List.head?_cons, List.head?_cons]
      split_ifs
      · exact h.append s t ht
      · exact h'.append (x :: s) t ht
  · intro s a rest hs
    split_ifs at hs
    · exact (h.suffix _ a rest hs).trans (List.tail_suffix s)
    · exact h'.suffix s a rest hs

end

/-! ### Numbers -/

theorem stopsAtWords_readDigits :
  StopsAtWords readDigits
  := by
  constructor
  · intro s t ht
    have htake : (s ++ t).takeWhile Char.isDigit = s.takeWhile Char.isDigit := by
      induction s with
      | nil => exact takeWhile_append_of_head (s := []) (by simp) ht.isDigit_eq_false
      | cons c s ih => rw [List.cons_append, List.takeWhile_cons, List.takeWhile_cons, ih]
    have hdrop : (s ++ t).dropWhile Char.isDigit = s.dropWhile Char.isDigit ++ t := by
      clear htake
      induction s with
      | nil => exact dropWhile_append_of_head (s := []) (by simp) ht.isDigit_eq_false
      | cons c s ih =>
        rw [List.cons_append, List.dropWhile_cons, List.dropWhile_cons, ih]
        split <;> rfl
    rw [readDigits, readDigits, htake, hdrop]
    split
    · rfl
    · rfl
  · intro s ds rest h
    rw [readDigits] at h
    split at h
    · cases h
    · cases h
      exact List.dropWhile_suffix _

theorem stopsAtWords_readFraction :
  StopsAtWords readFraction
  := by
  have h := (stopsAtWords_readDigits.map some).ite_head? (c := '.') rfl (stopsAtWords_some none)
  convert h using 2 with s
  rcases s with _ | ⟨c, s⟩
  · rfl
  · by_cases hc : c = '.'
    · subst hc
      rfl
    · simp [readFraction, hc]

/-- The digits of an exponent, after its sign. -/
def readSigned : List Char → Option (Option Int × List Char)
  | '-' :: rest => (readDigits rest).map fun r => (some (-(digitsValue r.1 : Int)), r.2)
  | '+' :: rest => (readDigits rest).map fun r => (some (digitsValue r.1 : Int), r.2)
  | rest => (readDigits rest).map fun r => (some (digitsValue r.1 : Int), r.2)

theorem stopsAtWords_readSigned :
  StopsAtWords readSigned
  := by
  have hplain := stopsAtWords_readDigits.map fun ds => some (digitsValue ds : Int)
  have hnegative := stopsAtWords_readDigits.map fun ds => some (-(digitsValue ds : Int))
  have h := hnegative.ite_head? (c := '-') rfl (hplain.ite_head? (c := '+') rfl hplain)
  convert h using 2 with s
  fun_cases readSigned s with
  | case1 rest => rfl
  | case2 rest => rfl
  | case3 s hminus hplus =>
    rw [if_neg, if_neg]
    · intro hs
      obtain ⟨rest, rfl⟩ := List.head?_eq_some_iff.1 hs
      exact hplus rest rfl
    · intro hs
      obtain ⟨rest, rfl⟩ := List.head?_eq_some_iff.1 hs
      exact hminus rest rfl

theorem stopsAtWords_readExponent :
  StopsAtWords readExponent
  := by
  have h := stopsAtWords_readSigned.ite_head? (c := 'e') rfl
    (stopsAtWords_readSigned.ite_head? (c := 'E') rfl (stopsAtWords_some none))
  convert h using 2 with s
  rcases s with _ | ⟨c, s⟩
  · rfl
  · have hcons : readExponent (c :: s) =
      if c = 'e' || c = 'E' then readSigned s else some (none, c :: s) := rfl
    rw [hcons, List.head?_cons, List.tail_cons]
    by_cases he : c = 'e'
    · simp [he]
    · simp [he]

/-- The number with the given parts. -/
def ofParts (negative : Bool) (whole : List Char) (fraction : Option (List Char))
    (exponent : Option Int) : Json :=
  match negative, fraction, exponent with
  | false, none, none => nat (digitsValue whole)
  | _, _, _ =>
    let (mantissa, shift) := significand whole (fraction.getD [])
    decimal negative mantissa (exponent.getD 0 + shift)

/-- A number without its sign has a whole part, a fraction, and an exponent. -/
theorem readUnsigned_eq (negative : Bool) :
  readUnsigned negative = fun s => readDigits s >>= fun r =>
    if r.1.head? = some '0' && r.1.length ≠ 1 then none
    else readFraction r.2 >>= fun r' =>
      (readExponent r'.2).map fun r'' => (ofParts negative r.1 r'.1 r''.1, r''.2)
  := by
  funext s
  rw [readUnsigned]
  congr 1
  funext r
  obtain ⟨whole, s⟩ := r
  dsimp only
  split
  · rfl
  · congr 1
    funext r
    obtain ⟨fraction, s⟩ := r
    dsimp only
    rcases readExponent s with _ | ⟨exponent, s⟩
    · rfl
    · cases negative <;> cases fraction <;> cases exponent <;> rfl

theorem stopsAtWords_readUnsigned (negative : Bool) :
  StopsAtWords (readUnsigned negative)
  := by
  rw [readUnsigned_eq]
  refine stopsAtWords_readDigits.bind (f := fun whole s =>
    if whole.head? = some '0' && whole.length ≠ 1 then none
    else readFraction s >>= fun r' =>
      (readExponent r'.2).map fun r'' => (ofParts negative whole r'.1 r''.1, r''.2)) ?_
  intro whole
  split
  · exact stopsAtWords_none
  · exact stopsAtWords_readFraction.bind fun fraction =>
      stopsAtWords_readExponent.map (ofParts negative whole fraction)

theorem stopsAtWords_readNumber :
  StopsAtWords readNumber
  := by
  have h := (stopsAtWords_readUnsigned true).ite_head? (c := '-') rfl
    (stopsAtWords_readUnsigned false)
  convert h using 2 with s
  rcases s with _ | ⟨c, s⟩
  · rfl
  · by_cases hc : c = '-'
    · subst hc
      rfl
    · simp [readNumber, hc]

end Keyring.Json

import Keyring.Proofs.Json.Words

/-!
# The tokens of a text

A text is split into marks, strings and words, which white space may separate.  Two texts have the
same tokens when they differ in the white space between their tokens only, and in how the characters
of their strings are escaped.
-/

namespace Keyring.Json

open Text

/-- A token of a text. -/
inductive Token where
  | mark (c : Char)
  /-- A string, with its text if it has one. -/
  | string (t? : Option String)
  | word (w : List Char)
  /-- A quote that opens no string. -/
  | broken
deriving DecidableEq

/-! ### Strings -/

variable {s t rest : List Char}

/-- A string ends with its closing quote. -/
theorem suffix_of_readPieces {read ps : List Piece} (h : readPieces read s = some (ps, rest)) :
  '"' :: rest <:+ s
  := by
  fun_induction readPieces read s with
  | case1 read t =>
    cases h
    exact List.suffix_refl _
  | case2 read a b c d t p hp ih =>
    exact (ih h).trans (List.suffix_append ['\\', 'u', a, b, c, d] t)
  | case4 read c t _ x hx ih => exact (ih h).trans (List.suffix_append ['\\', c] t)
  | case7 read c t _ _ _ _ ih => exact (ih h).trans (List.suffix_cons c t)
  | case3 | case5 | case6 | case8 => cases h

/-- A string is read in the same way whatever follows it. -/
theorem readPieces_append {read ps : List Piece} (h : readPieces read s = some (ps, rest))
    (t : List Char) :
  readPieces read (s ++ t) = some (ps, rest ++ t)
  := by
  fun_induction readPieces read s with
  | case1 read s =>
    cases h
    rfl
  | case2 read a b c d s p hp ih => simp [readPieces, hp, ih h]
  | case4 read c s _ x hx ih =>
    have hc : c ≠ 'u' := by
      rintro rfl
      cases hx
    simp [readPieces, hx, hc, ih h]
  | case7 read c s hquote _ _ hc ih =>
    have hbackslash : c ≠ '\\' := by
      rintro rfl
      exact hc rfl
    rw [List.cons_append, readPieces, if_neg hc]
    · exact ih h
    · exact hquote
    · exact fun _ _ _ _ _ h _ => hbackslash h
    · exact fun _ _ h _ => hbackslash h
  | case3 | case5 | case6 | case8 => cases h

theorem suffix_of_readText {t? : Option String} (h : readText s = some (t?, rest)) :
  '"' :: rest <:+ s
  := by
  obtain ⟨⟨ps, _⟩, hps, hr⟩ := Option.map_eq_some_iff.1 h
  cases hr
  exact suffix_of_readPieces hps

theorem length_lt_of_readText {t? : Option String} (h : readText s = some (t?, rest)) :
  rest.length < s.length
  := (suffix_of_readText h).length_le

theorem readText_append {t? : Option String} (h : readText s = some (t?, rest)) (t : List Char) :
  readText (s ++ t) = some (t?, rest ++ t)
  := by
  obtain ⟨⟨ps, _⟩, hps, hr⟩ := Option.map_eq_some_iff.1 h
  cases hr
  rw [readText, readPieces_append hps]
  rfl

/-! ### Tokens -/

/-- The tokens of a text. -/
def tokens : List Char → List Token
  | [] => []
  | c :: s =>
    if isSpace c then tokens s
    else if isMark c then .mark c :: tokens s
    else if c = '"' then
      match _h : readText s with
      | some (t?, rest) => .string t? :: tokens rest
      | none => [.broken]
    else .word (c :: s.takeWhile isWordChar) :: tokens (s.dropWhile isWordChar)
termination_by s => s.length
decreasing_by
  · exact Nat.lt_succ_self _
  · exact Nat.lt_succ_self _
  · exact Nat.lt_succ_of_lt (length_lt_of_readText _h)
  · exact Nat.lt_succ_of_le (List.length_dropWhile_le _ _)

@[simp]
theorem tokens_nil :
  tokens [] = []
  := by
  rw [tokens]

theorem tokens_space {c : Char} (h : isSpace c = true) (s : List Char) :
  tokens (c :: s) = tokens s
  := by
  rw [tokens, if_pos h]

/-- White space before a text adds no token. -/
theorem tokens_skipSpaces (s : List Char) :
  tokens (skipSpaces s) = tokens s
  := by
  induction s with
  | nil => rfl
  | cons c s ih =>
    by_cases hc : isSpace c = true
    · rw [tokens_space hc, skipSpaces, List.dropWhile_cons_of_pos hc]
      exact ih
    · rw [skipSpaces_cons (by simpa using hc)]

theorem isSpace_of_isMark {c : Char} (h : isMark c = true) :
  isSpace c = false
  := by
  simp only [isMark, Bool.or_eq_true, decide_eq_true_iff] at h
  rcases h with ((((rfl | rfl) | rfl) | rfl) | rfl) | rfl
  all_goals rfl

theorem tokens_mark {c : Char} (h : isMark c = true) (s : List Char) :
  tokens (c :: s) = .mark c :: tokens s
  := by
  rw [tokens, if_neg (by simp [isSpace_of_isMark h]), if_pos h]

theorem tokens_string {t? : Option String} (h : readText s = some (t?, rest)) :
  tokens ('"' :: s) = .string t? :: tokens rest
  := by
  rw [tokens, if_neg (by decide), if_neg (by decide), if_pos rfl]
  split
  · case _ t?' rest' h' =>
    rw [h] at h'
    cases h'
    rfl
  · case _ h' =>
    rw [h] at h'
    cases h'

/-- A character of a word starts the word that goes on as far as there are such characters. -/
theorem tokens_wordChar {c : Char} (h : isWordChar c = true) (s : List Char) :
  tokens (c :: s) = .word (c :: s.takeWhile isWordChar) :: tokens (s.dropWhile isWordChar)
  := by
  simp only [isWordChar, Bool.not_eq_true', Bool.or_eq_false_iff, decide_eq_false_iff_not] at h
  obtain ⟨⟨hspace, hmark⟩, hquote⟩ := h
  rw [tokens, if_neg (by simp [hspace]), if_neg (by simp [hmark]), if_neg hquote]

theorem tokens_word {w : List Char} (hw : ∀ c ∈ w, isWordChar c = true) (hne : w ≠ [])
    (hrest : EndsWord rest) :
  tokens (w ++ rest) = .word w :: tokens rest
  := by
  obtain ⟨c, w, rfl⟩ := List.exists_cons_of_ne_nil hne
  rw [List.forall_mem_cons] at hw
  rw [List.cons_append, tokens_wordChar hw.1, takeWhile_append_of_head hw.2 hrest,
    dropWhile_append_of_head hw.2 hrest]

/-! ### The first token -/

/-- A text without tokens is white space. -/
theorem skipSpaces_eq_nil (h : tokens s = []) :
  skipSpaces s = []
  := by
  fun_induction tokens s with
  | case1 => rfl
  | case2 c s hspace ih =>
    rw [skipSpaces, List.dropWhile_cons_of_pos hspace]
    exact ih h
  | case3 | case4 | case5 | case6 => cases h

theorem exists_of_tokens_mark {c : Char} {us : List Token} (h : tokens s = .mark c :: us) :
  ∃ rest, skipSpaces s = c :: rest ∧ tokens rest = us
  := by
  fun_induction tokens s with
  | case2 c s hspace ih =>
    rw [skipSpaces, List.dropWhile_cons_of_pos hspace]
    exact ih h
  | case3 c s hspace hmark _ =>
    cases h
    exact ⟨s, skipSpaces_cons (by simpa using hspace), rfl⟩
  | case1 | case4 | case5 | case6 => cases h

theorem exists_of_tokens_string {t? : Option String} {us : List Token}
    (h : tokens s = .string t? :: us) :
  ∃ t rest, skipSpaces s = '"' :: t ∧ readText t = some (t?, rest) ∧ tokens rest = us
  := by
  fun_induction tokens s with
  | case2 c s hspace ih =>
    rw [skipSpaces, List.dropWhile_cons_of_pos hspace]
    exact ih h
  | case4 s t? rest hread _ _ _ =>
    cases h
    exact ⟨s, rest, skipSpaces_cons rfl, hread, rfl⟩
  | case1 | case3 | case5 | case6 => cases h

theorem exists_of_tokens_word {w : List Char} {us : List Token} (h : tokens s = .word w :: us) :
  ∃ rest, skipSpaces s = w ++ rest ∧ EndsWord rest ∧ tokens rest = us
  := by
  fun_induction tokens s with
  | case2 c s hspace ih =>
    rw [skipSpaces, List.dropWhile_cons_of_pos hspace]
    exact ih h
  | case6 c s hspace _ _ _ =>
    cases h
    refine ⟨_, ?_, endsWord_dropWhile s, rfl⟩
    rw [List.cons_append, List.takeWhile_append_dropWhile, skipSpaces_cons (by simpa using hspace)]
  | case1 | case3 | case4 | case5 => cases h

/-- A text has at least as many characters as tokens. -/
theorem length_tokens_le (s : List Char) :
  (tokens s).length ≤ s.length
  := by
  fun_induction tokens s with
  | case1 => exact Nat.le_refl _
  | case2 c s _ ih => exact Nat.le_succ_of_le ih
  | case3 c s _ _ ih => exact Nat.succ_le_succ ih
  | case4 s t? rest hread _ _ ih =>
    have := length_lt_of_readText hread
    simp only [List.length_cons]
    omega
  | case5 => simp
  | case6 c s _ _ _ ih =>
    have := List.length_dropWhile_le isWordChar s
    simp only [List.length_cons]
    omega

/-! ### White space between tokens -/

theorem EndsWord.reverse_of_suffix (h : EndsWord s.reverse) (ht : t <:+ s) :
  EndsWord t.reverse
  := by
  obtain ⟨q, rfl⟩ := ht
  intro c hc
  apply h
  rw [List.reverse_append, List.head?_append, Option.mem_def.1 hc]
  rfl

/-- A text can be split wherever no string and no word goes on. -/
theorem tokens_append (h : .broken ∉ tokens s) (hst : EndsWord s.reverse ∨ EndsWord t) :
  tokens (s ++ t) = tokens s ++ tokens t
  := by
  fun_induction tokens s with
  | case1 => rfl
  | case2 c s hspace ih =>
    rw [List.cons_append, tokens_space hspace]
    exact ih h (hst.imp_left fun hs => hs.reverse_of_suffix (List.suffix_cons c s))
  | case3 c s _ hmark ih =>
    have hs := ih (List.not_mem_of_not_mem_cons h)
      (hst.imp_left fun hs => hs.reverse_of_suffix (List.suffix_cons c s))
    rw [List.cons_append, tokens_mark hmark, hs]
    rfl
  | case4 s t? rest hread _ _ ih =>
    have hsuffix : rest <:+ '"' :: s :=
      ((List.suffix_cons _ _).trans (suffix_of_readText hread)).trans (List.suffix_cons _ _)
    have hrest := ih (List.not_mem_of_not_mem_cons h)
      (hst.imp_left fun hs => hs.reverse_of_suffix hsuffix)
    rw [List.cons_append, tokens_string (readText_append hread t), hrest]
    rfl
  | case5 => exact absurd List.mem_cons_self h
  | case6 c s hspace hmark hquote ih =>
    have hc : isWordChar c = true := by
      simp [isWordChar, hspace, hmark, hquote]
    have hw : ∀ x ∈ c :: s.takeWhile isWordChar, isWordChar x = true := by
      rw [List.forall_mem_cons]
      exact ⟨hc, fun x hx => List.mem_takeWhile_imp hx⟩
    have hsplit : c :: s = (c :: s.takeWhile isWordChar) ++ s.dropWhile isWordChar := by
      rw [List.cons_append, List.takeWhile_append_dropWhile]
    have hend : EndsWord (s.dropWhile isWordChar ++ t) := by
      rcases hrest : s.dropWhile isWordChar with _ | ⟨x, rest⟩
      · -- The last character belongs to the word, so that the word has to end with what follows.
        rw [hrest, List.append_nil] at hsplit
        refine hst.resolve_left fun hs => ?_
        have hlast : (c :: s).getLast? = some ((c :: s).getLast (List.cons_ne_nil c s)) :=
          List.getLast?_eq_some_getLast _
        rw [← List.head?_reverse] at hlast
        exact hs.head?_ne (hw _ (hsplit ▸ List.getLast_mem _)) hlast
      · have hx := endsWord_dropWhile s
        rw [hrest] at hx
        exact endsWord_cons (hx x rfl) _
    have hrest := ih (List.not_mem_of_not_mem_cons h)
      (hst.imp_left fun hs => hs.reverse_of_suffix ⟨_, hsplit.symm⟩)
    rw [hsplit, List.append_assoc, tokens_word hw (List.cons_ne_nil _ _) hend, hrest]
    rfl

/-- White space between tokens makes no difference. -/
theorem tokens_append_spaces {w : List Char} (hw : ∀ c ∈ w, isSpace c = true)
    (h : .broken ∉ tokens s) (hst : EndsWord s.reverse ∨ EndsWord t) :
  tokens (s ++ (w ++ t)) = tokens (s ++ t)
  := by
  rcases w with _ | ⟨c, w⟩
  · rfl
  · have hend : EndsWord (c :: w ++ t) := endsWord_cons (isWordChar_of_isSpace (hw c (by simp))) _
    have hskip : tokens (c :: w ++ t) = tokens t := by
      rw [← tokens_skipSpaces, skipSpaces_append hw, tokens_skipSpaces]
    rw [tokens_append h (.inr hend), tokens_append h hst, hskip]

/-! ### Texts for tokens -/

namespace Token

/-- Whether a token can stand in a text that is read. -/
def IsProper : Token → Prop
  | mark c => isMark c = true
  | string _ => True
  | word w => w ≠ [] ∧ ∀ c ∈ w, isWordChar c = true
  | broken => False

/-- A text for a token, with a space after a word. -/
def text : Token → List Char
  | mark c => [c]
  | string (some t) => writeString t
  | string none => ['"', '\\', 'u', 'd', '8', '0', '0', '"']
  | word w => w ++ [' ']
  | broken => ['"']

end Token

theorem readText_loneSurrogate (rest : List Char) :
  readText ('\\' :: 'u' :: 'd' :: '8' :: '0' :: '0' :: '"' :: rest) = some (none, rest)
  := rfl

/-- Tokens that can stand in a text are those of the text that they make up. -/
theorem tokens_flatMap_text {ts : List Token} (h : ∀ u ∈ ts, u.IsProper) :
  tokens (ts.flatMap Token.text) = ts
  := by
  induction ts with
  | nil => exact tokens_nil
  | cons u ts ih =>
    rw [List.forall_mem_cons] at h
    have hts := ih h.2
    rw [List.flatMap_cons]
    cases u with
    | mark c =>
      rw [Token.text, List.singleton_append, tokens_mark h.1, hts]
    | string t? =>
      rcases t? with _ | t
      · have hopen := tokens_string (readText_loneSurrogate (ts.flatMap Token.text))
        rw [hts] at hopen
        exact hopen
      · obtain ⟨u, hu, hread⟩ := readText_writeString t (ts.flatMap Token.text)
        rw [Token.text, hu, tokens_string hread, hts]
    | word w =>
      have hend : EndsWord (' ' :: ts.flatMap Token.text) := endsWord_cons rfl _
      rw [Token.text, List.append_assoc, List.singleton_append, tokens_word h.1.2 h.1.1 hend,
        tokens_space rfl, hts]
    | broken => cases h.1

/-- Any tokens that can stand in a text are those of one. -/
theorem exists_tokens_eq {ts : List Token} (h : ∀ u ∈ ts, u.IsProper) :
  ∃ s : String, tokens s.toList = ts
  := by
  use String.ofList (ts.flatMap Token.text)
  rw [String.toList_ofList, tokens_flatMap_text h]

/-- A word that is read to its end is a word. -/
theorem StopsAtWords.isProper {α : Type} {read : List Char → Option (α × List Char)}
    (hread : StopsAtWords read) (hnil : read [] = none) {w : List Char} {a : α}
    (h : read w = some (a, [])) :
  (Token.word w).IsProper
  := by
  obtain ⟨w', hw, hchars, -⟩ := hread.exists_word h endsWord_nil
  rw [List.append_nil] at hw
  subst hw
  refine ⟨?_, hchars⟩
  rintro rfl
  rw [hnil] at h
  cases h

end Keyring.Json

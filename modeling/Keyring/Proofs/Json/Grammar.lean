import Keyring.Proofs.Json.Layout
import Keyring.Proofs.Json.Lexer

/-!
# The grammar of values

A text denotes a value when its tokens spell that value.  The grammar says which tokens do, and it
mentions no white space, no rest of a text, and no bound on the recursion.
-/

namespace Keyring.Json

mutual

/-- Whether tokens spell a value. -/
inductive Spells : Json → List Token → Prop
  | null : Spells null [.word ['n', 'u', 'l', 'l']]
  | isTrue : Spells (bool true) [.word ['t', 'r', 'u', 'e']]
  | isFalse : Spells (bool false) [.word ['f', 'a', 'l', 's', 'e']]
  | number {j : Json} {w : List Char} (h : readNumber w = some (j, [])) : Spells j [.word w]
  | string (t : String) : Spells (string t) [.string (some t)]
  | garbled : Spells garbled [.string none]
  | emptyArray : Spells (array []) [.mark '[', .mark ']']
  | array {items : List Json} {ts : List Token} (h : SpellsItems items ts) :
    Spells (array items) (.mark '[' :: ts)
  | emptyObject : Spells (object []) [.mark '{', .mark '}']
  | object {members : List (Option String × Json)} {ts : List Token}
    (h : SpellsMembers members ts) : Spells (ofMembers members) (.mark '{' :: ts)

/-- Whether tokens spell the items of an array and its end. -/
inductive SpellsItems : List Json → List Token → Prop
  | last {j : Json} {ts : List Token} (h : Spells j ts) : SpellsItems [j] (ts ++ [.mark ']'])
  | more {j : Json} {items : List Json} {ts us : List Token} (h : Spells j ts)
    (hitems : SpellsItems items us) : SpellsItems (j :: items) (ts ++ .mark ',' :: us)

/-- Whether tokens spell the members of an object and its end. -/
inductive SpellsMembers : List (Option String × Json) → List Token → Prop
  | last {name : Option String} {j : Json} {ts : List Token} (h : Spells j ts) :
    SpellsMembers [(name, j)] (.string name :: .mark ':' :: (ts ++ [.mark '}']))
  | more {name : Option String} {j : Json} {members : List (Option String × Json)}
    {ts us : List Token} (h : Spells j ts) (hmembers : SpellsMembers members us) :
    SpellsMembers ((name, j) :: members) (.string name :: .mark ':' :: (ts ++ .mark ',' :: us))

end

/-! ### What is read is spelt -/

variable {s t rest : List Char} {j : Json}

/-- What is read before a mark is read before the end of a word. -/
theorem endsWord_of_skipSpaces {c : Char} (hc : isWordChar c = false)
    (h : skipSpaces s = c :: rest) :
  EndsWord s
  := by
  rcases s with _ | ⟨x, s⟩
  · cases h
  · by_cases hx : isSpace x = true
    · exact endsWord_cons (isWordChar_of_isSpace hx) s
    · rw [skipSpaces_cons (by simpa using hx)] at h
      cases h
      exact endsWord_cons hc _

theorem endsWord_of_skipSpaces_eq_nil (h : skipSpaces s = []) :
  EndsWord s
  := by
  intro c hc
  have hspace := List.dropWhile_eq_nil_iff.1 h c (List.mem_of_mem_head? hc)
  exact isWordChar_of_isSpace hspace

theorem tokens_of_skipSpaces_mark {c : Char} (h : skipSpaces s = c :: rest)
    (hc : isMark c = true) :
  tokens s = .mark c :: tokens rest
  := by
  rw [← tokens_skipSpaces, h, tokens_mark hc]

/-- A word that is read before the end of a word is a token. -/
theorem tokens_of_skipSpaces_word {w : List Char} (h : skipSpaces s = w ++ rest)
    (hw : ∀ c ∈ w, isWordChar c = true) (hne : w ≠ []) (hrest : EndsWord rest) :
  tokens s = .word w :: tokens rest
  := by
  rw [← tokens_skipSpaces, h, tokens_word hw hne hrest]

theorem tokens_of_skipSpaces_literal (w : List Char) (h : skipSpaces s = w ++ rest)
    (hw : w.all isWordChar = true ∧ w ≠ []) (hrest : EndsWord rest) :
  tokens s = [.word w] ++ tokens rest
  := tokens_of_skipSpaces_word h (List.all_eq_true.1 hw.1) hw.2 hrest

/-- Whether whatever is read with so much fuel is spelt by the tokens that the text loses. -/
structure ReadsSpelt (fuel : Nat) : Prop where
  value (s : List Char) (j : Json) (rest : List Char) (h : readValue fuel s = some (j, rest))
    (hrest : EndsWord rest) : ∃ ts, Spells j ts ∧ tokens s = ts ++ tokens rest
  items (s : List Char) (items : List Json) (rest : List Char)
    (h : readItems fuel s = some (items, rest)) :
    ∃ ts, SpellsItems items ts ∧ tokens s = ts ++ tokens rest
  members (s : List Char) (members : List (Option String × Json)) (rest : List Char)
    (h : readMembers fuel s = some (members, rest)) :
    ∃ ts, SpellsMembers members ts ∧ tokens s = ts ++ tokens rest

namespace ReadsSpelt

variable {fuel : Nat}

theorem value_succ (ih : ReadsSpelt fuel) (h : readValue (fuel + 1) s = some (j, rest))
    (hrest : EndsWord rest) :
  ∃ ts, Spells j ts ∧ tokens s = ts ++ tokens rest
  := by
  -- The cases are those of the reader; what starts like nothing else has to be a number.
  rw [readValue] at h
  split at h
  · case _ hs =>
    cases h
    exact ⟨_, .null, tokens_of_skipSpaces_literal ['n', 'u', 'l', 'l'] hs (by decide) hrest⟩
  · case _ hs =>
    cases h
    exact ⟨_, .isTrue, tokens_of_skipSpaces_literal ['t', 'r', 'u', 'e'] hs (by decide) hrest⟩
  · case _ hs =>
    cases h
    exact ⟨_, .isFalse, tokens_of_skipSpaces_literal ['f', 'a', 'l', 's', 'e'] hs (by decide) hrest⟩
  · case _ t hs =>
    obtain ⟨⟨t?, _⟩, hread, hj⟩ := Option.map_eq_some_iff.1 h
    cases hj
    refine ⟨[.string t?], ?_, ?_⟩
    · cases t? with
      | none => exact .garbled
      | some t => exact .string t
    · rw [← tokens_skipSpaces, hs, tokens_string hread]
      rfl
  · case _ t hs =>
    rw [tokens_of_skipSpaces_mark hs rfl]
    split at h
    · case _ t' ht =>
      cases h
      rw [tokens_of_skipSpaces_mark ht rfl]
      exact ⟨_, .emptyArray, rfl⟩
    · obtain ⟨⟨items, _⟩, hread, hj⟩ := Option.map_eq_some_iff.1 h
      cases hj
      obtain ⟨ts, hts, ht⟩ := ih.items _ _ _ hread
      rw [← tokens_skipSpaces t, ht]
      exact ⟨_, .array hts, rfl⟩
  · case _ t hs =>
    rw [tokens_of_skipSpaces_mark hs rfl]
    split at h
    · case _ t' ht =>
      cases h
      rw [tokens_of_skipSpaces_mark ht rfl]
      exact ⟨_, .emptyObject, rfl⟩
    · obtain ⟨⟨members, _⟩, hread, hj⟩ := Option.map_eq_some_iff.1 h
      cases hj
      obtain ⟨ts, hts, ht⟩ := ih.members _ _ _ hread
      rw [← tokens_skipSpaces t, ht]
      exact ⟨_, .object hts, rfl⟩
  · obtain ⟨w, hs, hw, hread⟩ := stopsAtWords_readNumber.exists_word h hrest
    have hne : w ≠ [] := by
      rintro rfl
      cases hread
    exact ⟨_, .number hread, tokens_of_skipSpaces_word hs hw hne hrest⟩

theorem items_succ (ih : ReadsSpelt fuel) {items : List Json}
    (h : readItems (fuel + 1) s = some (items, rest)) :
  ∃ ts, SpellsItems items ts ∧ tokens s = ts ++ tokens rest
  := by
  rw [readItems] at h
  split at h
  · cases h
  · case _ j t hvalue =>
    split at h
    · case _ t' ht =>
      cases h
      obtain ⟨ts, hts, hs⟩ := ih.value _ _ _ hvalue (endsWord_of_skipSpaces rfl ht)
      refine ⟨_, .last hts, ?_⟩
      rw [hs, tokens_of_skipSpaces_mark ht rfl, List.append_assoc]
      rfl
    · case _ t' ht =>
      obtain ⟨⟨items, _⟩, hread, hitems⟩ := Option.map_eq_some_iff.1 h
      cases hitems
      obtain ⟨ts, hts, hs⟩ := ih.value _ _ _ hvalue (endsWord_of_skipSpaces rfl ht)
      obtain ⟨us, hus, ht'⟩ := ih.items _ _ _ hread
      refine ⟨_, .more hts hus, ?_⟩
      rw [hs, tokens_of_skipSpaces_mark ht rfl, ht', List.append_assoc]
      rfl
    · cases h

theorem members_succ (ih : ReadsSpelt fuel) {members : List (Option String × Json)}
    (h : readMembers (fuel + 1) s = some (members, rest)) :
  ∃ ts, SpellsMembers members ts ∧ tokens s = ts ++ tokens rest
  := by
  rw [readMembers] at h
  split at h
  · case _ t hs =>
    split at h
    · cases h
    · case _ name u hname =>
      split at h
      · case _ v hu =>
        have hopen : tokens s = .string name :: .mark ':' :: tokens v := by
          rw [← tokens_skipSpaces, hs, tokens_string hname, tokens_of_skipSpaces_mark hu rfl]
        rw [hopen]
        split at h
        · cases h
        · case _ j x hvalue =>
          split at h
          · case _ x' hx =>
            cases h
            obtain ⟨ts, hts, hv⟩ := ih.value _ _ _ hvalue (endsWord_of_skipSpaces rfl hx)
            refine ⟨_, .last hts, ?_⟩
            rw [hv, tokens_of_skipSpaces_mark hx rfl]
            simp
          · case _ x' hx =>
            obtain ⟨⟨members, _⟩, hread, hmembers⟩ := Option.map_eq_some_iff.1 h
            cases hmembers
            obtain ⟨ts, hts, hv⟩ := ih.value _ _ _ hvalue (endsWord_of_skipSpaces rfl hx)
            obtain ⟨us, hus, hx'⟩ := ih.members _ _ _ hread
            refine ⟨_, .more hts hus, ?_⟩
            rw [hv, tokens_of_skipSpaces_mark hx rfl, hx']
            simp
          · cases h
      · cases h
  · cases h

end ReadsSpelt

/-- Whatever is read is spelt: by induction on the fuel, for the three readers at once. -/
theorem readsSpelt (fuel : Nat) :
  ReadsSpelt fuel
  := by
  induction fuel with
  | zero =>
    constructor
    · rintro s j rest ⟨⟩
    · rintro s items rest ⟨⟩
    · rintro s members rest ⟨⟩
  | succ fuel ih =>
    constructor
    · intro s j rest h hrest
      exact ih.value_succ h hrest
    · intro s items rest h
      exact ih.items_succ h
    · intro s members rest h
      exact ih.members_succ h

/-- A text that is read spells what is read. -/
theorem spells_of_ofChars? (h : ofChars? s = some j) :
  Spells j (tokens s)
  := by
  rw [ofChars?] at h
  split at h
  · case _ j' rest hread =>
    split_ifs at h with hempty
    cases h
    have hend := List.isEmpty_iff.1 hempty
    obtain ⟨ts, hts, hs⟩ := (readsSpelt _).value _ _ _ hread (endsWord_of_skipSpaces_eq_nil hend)
    rw [← tokens_skipSpaces rest, hend, tokens_nil, List.append_nil] at hs
    rw [hs]
    exact hts
  · cases h

/-! ### What is spelt is read -/

/-- Whether whatever few enough tokens spell is read from every text that starts with them. -/
structure ReadsBack (fuel : Nat) : Prop where
  value {s : List Char} {j : Json} {ts us : List Token} (h : Spells j ts)
    (hs : tokens s = ts ++ us) (hfuel : 2 * ts.length ≤ fuel) :
    ∃ rest, readValue fuel s = some (j, rest) ∧ tokens rest = us
  items {s : List Char} {items : List Json} {ts us : List Token} (h : SpellsItems items ts)
    (hs : tokens s = ts ++ us) (hfuel : 2 * ts.length ≤ fuel) :
    ∃ rest, readItems fuel s = some (items, rest) ∧ tokens rest = us
  members {s : List Char} {members : List (Option String × Json)} {ts us : List Token}
    (h : SpellsMembers members ts) (hs : tokens s = ts ++ us) (hfuel : 2 * ts.length ≤ fuel) :
    ∃ rest, readMembers fuel s = some (members, rest) ∧ tokens rest = us

/-- A name is read up to its colon. -/
theorem exists_of_tokens_name {name : Option String} {us : List Token}
    (h : tokens s = .string name :: .mark ':' :: us) :
  ∃ t u v, skipSpaces s = '"' :: t ∧ readText t = some (name, u) ∧ skipSpaces u = ':' :: v ∧
    tokens v = us
  := by
  obtain ⟨t, u, hopen, hname, hu⟩ := exists_of_tokens_string h
  obtain ⟨v, hcolon, hv⟩ := exists_of_tokens_mark hu
  exact ⟨t, u, v, hopen, hname, hcolon, hv⟩

/-- A number starts like no other value. -/
theorem readValue_of_readNumber (fuel : Nat) (h : readNumber (skipSpaces s) = some (j, rest)) :
  readValue (fuel + 1) s = some (j, rest)
  := by
  rw [readValue]
  split
  case _ hs | _ hs | _ hs | _ hs | _ hs | _ hs =>
    rw [hs] at h
    cases h
  case _ => exact h

/-- A value does not start with the end of an array. -/
theorem Spells.exists_cons {ts : List Token} (h : Spells j ts) :
  ∃ u us, ts = u :: us ∧ u ≠ .mark ']'
  := by
  cases h <;> exact ⟨_, _, rfl, by simp⟩

theorem SpellsItems.exists_cons {items : List Json} {ts : List Token} (h : SpellsItems items ts) :
  ∃ u us, ts = u :: us ∧ u ≠ .mark ']'
  := by
  cases h with
  | last h | more h =>
    obtain ⟨u, us, rfl, hu⟩ := h.exists_cons
    exact ⟨u, _, rfl, hu⟩

namespace ReadsBack

variable {fuel : Nat}

theorem value_succ (ih : ReadsBack fuel) {ts us : List Token} (h : Spells j ts)
    (hs : tokens s = ts ++ us) (hfuel : 2 * ts.length ≤ fuel + 1) :
  ∃ rest, readValue (fuel + 1) s = some (j, rest) ∧ tokens rest = us
  := by
  cases h with
  | null | isTrue | isFalse =>
    obtain ⟨rest, hskip, -, hrest⟩ := exists_of_tokens_word hs
    refine ⟨rest, ?_, hrest⟩
    rw [readValue, hskip]
    rfl
  | number hnumber =>
    obtain ⟨rest, hskip, hend, hrest⟩ := exists_of_tokens_word hs
    refine ⟨rest, readValue_of_readNumber fuel ?_, hrest⟩
    rw [hskip, stopsAtWords_readNumber.append _ _ hend, hnumber]
    rfl
  | string | garbled =>
    obtain ⟨t, rest, hskip, hread, hrest⟩ := exists_of_tokens_string hs
    refine ⟨rest, ?_, hrest⟩
    rw [readValue, hskip]
    simp [hread]
  | emptyArray | emptyObject =>
    obtain ⟨t, hskip, ht⟩ := exists_of_tokens_mark hs
    obtain ⟨rest, hskip', hrest⟩ := exists_of_tokens_mark ht
    refine ⟨rest, ?_, hrest⟩
    rw [readValue, hskip]
    simp [hskip']
  | array hitems =>
    obtain ⟨t, hskip, ht⟩ := exists_of_tokens_mark hs
    rw [← tokens_skipSpaces] at ht
    rw [List.length_cons] at hfuel
    -- The bracket pays for the step into the items.
    obtain ⟨rest, hread, hrest⟩ := ih.items hitems ht (by omega)
    obtain ⟨u, us', rfl, hu⟩ := hitems.exists_cons
    refine ⟨rest, ?_, hrest⟩
    simp only [readValue, hskip]
    split
    · case _ hclose =>
      rw [hclose, tokens_mark rfl] at ht
      exact absurd (List.cons.inj ht).1.symm hu
    · rw [hread]
      rfl
  | object hmembers =>
    obtain ⟨t, hskip, ht⟩ := exists_of_tokens_mark hs
    rw [← tokens_skipSpaces] at ht
    rw [List.length_cons] at hfuel
    obtain ⟨rest, hread, hrest⟩ := ih.members hmembers ht (by omega)
    refine ⟨rest, ?_, hrest⟩
    simp only [readValue, hskip]
    split
    · case _ hclose =>
      rw [hclose, tokens_mark rfl] at ht
      cases hmembers <;> cases ht
    · rw [hread]
      rfl

theorem items_succ (ih : ReadsBack fuel) {items : List Json} {ts us : List Token}
    (h : SpellsItems items ts) (hs : tokens s = ts ++ us) (hfuel : 2 * ts.length ≤ fuel + 1) :
  ∃ rest, readItems (fuel + 1) s = some (items, rest) ∧ tokens rest = us
  := by
  cases h with
  | last hvalue =>
    rw [List.length_append] at hfuel
    rw [List.append_assoc] at hs
    obtain ⟨t, hread, ht⟩ := ih.value hvalue hs (by simp at hfuel; omega)
    obtain ⟨rest, hskip, hrest⟩ := exists_of_tokens_mark ht
    exact ⟨rest, Layout.readItems_last hread hskip, hrest⟩
  | more hvalue hitems =>
    rw [List.length_append, List.length_cons] at hfuel
    rw [List.append_assoc] at hs
    obtain ⟨t, hread, ht⟩ := ih.value hvalue hs (by omega)
    obtain ⟨u, hskip, hu⟩ := exists_of_tokens_mark ht
    obtain ⟨rest, hitems, hrest⟩ := ih.items hitems hu (by omega)
    refine ⟨rest, ?_, hrest⟩
    rw [Layout.readItems_more hread hskip, hitems]
    rfl

theorem members_succ (ih : ReadsBack fuel) {members : List (Option String × Json)}
    {ts us : List Token} (h : SpellsMembers members ts) (hs : tokens s = ts ++ us)
    (hfuel : 2 * ts.length ≤ fuel + 1) :
  ∃ rest, readMembers (fuel + 1) s = some (members, rest) ∧ tokens rest = us
  := by
  cases h with
  | last hvalue =>
    simp only [List.length_cons, List.length_append] at hfuel
    simp only [List.cons_append, List.append_assoc] at hs
    obtain ⟨t, u, v, hopen, hname, hcolon, hv⟩ := exists_of_tokens_name hs
    obtain ⟨x, hread, hx⟩ := ih.value hvalue hv (by omega)
    obtain ⟨rest, hclose, hrest⟩ := exists_of_tokens_mark hx
    refine ⟨rest, ?_, hrest⟩
    simp [readMembers, hopen, hname, hcolon, hread, hclose]
  | more hvalue hmembers =>
    simp only [List.length_cons, List.length_append] at hfuel
    simp only [List.cons_append, List.append_assoc] at hs
    obtain ⟨t, u, v, hopen, hname, hcolon, hv⟩ := exists_of_tokens_name hs
    obtain ⟨x, hread, hx⟩ := ih.value hvalue hv (by omega)
    obtain ⟨y, hcomma, hy⟩ := exists_of_tokens_mark hx
    obtain ⟨rest, hmembers, hrest⟩ := ih.members hmembers hy (by omega)
    refine ⟨rest, ?_, hrest⟩
    simp [readMembers, hopen, hname, hcolon, hread, hcomma, hmembers]

end ReadsBack

/-- Whatever is spelt is read: every token leaves fuel for two calls. -/
theorem readsBack (fuel : Nat) :
  ReadsBack fuel
  := by
  induction fuel with
  | zero =>
    constructor
    · intro s j ts us h _ hfuel
      cases h <;> simp at hfuel
    · intro s items ts us h _ hfuel
      cases h <;> simp at hfuel
    · intro s members ts us h _ hfuel
      cases h <;> simp at hfuel
  | succ fuel ih => exact ⟨ih.value_succ, ih.items_succ, ih.members_succ⟩

/-- A text denotes a value exactly when its tokens spell the value. -/
theorem ofChars?_eq_some_iff :
  ofChars? s = some j ↔ Spells j (tokens s)
  := by
  refine ⟨spells_of_ofChars?, fun h => ?_⟩
  have hlength := length_tokens_le s
  obtain ⟨rest, hread, hrest⟩ := (readsBack (2 * s.length + 2)).value h
    (List.append_nil _).symm (by omega)
  rw [ofChars?, hread]
  dsimp only
  rw [skipSpaces_eq_nil hrest]
  rfl

/-- Texts with the same tokens denote the same. -/
theorem ofChars?_congr (h : tokens s = tokens t) :
  ofChars? s = ofChars? t
  := by
  apply Option.ext
  intro j
  rw [ofChars?_eq_some_iff, ofChars?_eq_some_iff, h]

/-! ### What can be spelt -/

mutual

/-- A value is spelt by tokens that can stand in a text. -/
theorem Spells.isProper {j : Json} {ts : List Token} : Spells j ts → ∀ u ∈ ts, u.IsProper
  | .null | .isTrue | .isFalse => by
    rw [List.forall_mem_singleton]
    exact ⟨List.cons_ne_nil _ _, List.all_eq_true.1 rfl⟩
  | .number h => by
    rw [List.forall_mem_singleton]
    exact stopsAtWords_readNumber.isProper rfl h
  | .string _ | .garbled => by
    rw [List.forall_mem_singleton]
    trivial
  | .emptyArray | .emptyObject => by
    rw [List.forall_mem_cons, List.forall_mem_singleton]
    exact ⟨rfl, rfl⟩
  | .array h | .object h => List.forall_mem_cons.2 ⟨rfl, h.isProper⟩

theorem SpellsItems.isProper {items : List Json} {ts : List Token} :
    SpellsItems items ts → ∀ u ∈ ts, u.IsProper
  | .last h => by
    rw [List.forall_mem_append, List.forall_mem_singleton]
    exact ⟨h.isProper, rfl⟩
  | .more h hitems => by
    rw [List.forall_mem_append, List.forall_mem_cons]
    exact ⟨h.isProper, rfl, hitems.isProper⟩

theorem SpellsMembers.isProper {members : List (Option String × Json)} {ts : List Token} :
    SpellsMembers members ts → ∀ u ∈ ts, u.IsProper
  | .last h => by
    rw [List.forall_mem_cons, List.forall_mem_cons, List.forall_mem_append,
      List.forall_mem_singleton]
    exact ⟨trivial, rfl, h.isProper, rfl⟩
  | .more h hmembers => by
    rw [List.forall_mem_cons, List.forall_mem_cons, List.forall_mem_append, List.forall_mem_cons]
    exact ⟨trivial, rfl, h.isProper, rfl, hmembers.isProper⟩

end

/-- Members are spelt by some tokens if there is one and the value of each is. -/
theorem exists_spellsMembers_iff {members : List (Option String × Json)} :
  (∃ ts, SpellsMembers members ts) ↔ members ≠ [] ∧ ∀ m ∈ members, ∃ ts, Spells m.2 ts
  := by
  constructor
  · rintro ⟨ts, h⟩
    induction members generalizing ts with
    | nil => cases h
    | cons m rest ih =>
      cases h with
      | last h => exact ⟨List.cons_ne_nil _ _, List.forall_mem_singleton.2 ⟨_, h⟩⟩
      | more h hrest =>
        exact ⟨List.cons_ne_nil _ _, List.forall_mem_cons.2 ⟨⟨_, h⟩, (ih _ hrest).2⟩⟩
  · rintro ⟨hne, h⟩
    induction members with
    | nil => exact absurd rfl hne
    | cons m rest ih =>
      obtain ⟨⟨ts, hts⟩, hrest⟩ := List.forall_mem_cons.1 h
      rcases rest with _ | ⟨m', rest⟩
      · exact ⟨_, .last hts⟩
      · obtain ⟨us, hus⟩ := ih (List.cons_ne_nil _ _) hrest
        exact ⟨_, .more hts hus⟩

end Keyring.Json

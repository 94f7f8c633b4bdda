import Keyring.Proofs.Json.Grammar

/-!
# The texts of objects

A text is that of an object when its tokens open an object, name its members with their values, and
close it.  What it denotes is said by these members, and every text that denotes anything and starts
with an opening brace is the text of an object.
-/

namespace Keyring.Json

/-- Whether a text is that of an object with the given members, in this order. -/
inductive IsObjectText (s : String) : List (Option String × Json) → Prop
  | empty (h : tokens s.toList = [.mark '{', .mark '}']) : IsObjectText s []
  | members {members : List (Option String × Json)} {ts : List Token}
    (h : tokens s.toList = .mark '{' :: ts) (hts : SpellsMembers members ts) :
    IsObjectText s members

variable {s s' : String} {j : Json} {members : List (Option String × Json)}

/-- The text of an object denotes the object with its members. -/
theorem IsObjectText.ofText?_eq (h : IsObjectText s members) :
  ofText? s = some (ofMembers members)
  := by
  rw [ofText?, ofChars?_eq_some_iff]
  cases h with
  | empty h =>
    rw [h]
    exact .emptyObject
  | members h hts =>
    rw [h]
    exact .object hts

/-- A text that denotes something is that of an object if it starts with a brace. -/
theorem exists_isObjectText (h : (ofText? s).isSome = true)
    (hopen : (tokens s.toList).head? = some (.mark '{')) :
  ∃ members, IsObjectText s members
  := by
  obtain ⟨j, hj⟩ := Option.isSome_iff_exists.1 h
  have hspells := ofChars?_eq_some_iff.1 hj
  obtain ⟨ts, ht⟩ := List.head?_eq_some_iff.1 hopen
  rw [ht] at hspells
  cases hspells with
  | emptyObject => exact ⟨[], .empty ht⟩
  | object hts => exact ⟨_, .members ht hts⟩

/-- Texts that differ in the white space between their tokens denote the same. -/
theorem ofText?_congr (h : tokens s.toList = tokens s'.toList) :
  ofText? s = ofText? s'
  := ofChars?_congr h

/-- A value is that of a text if any tokens spell it. -/
theorem exists_ofText?_iff :
  (∃ s, ofText? s = some j) ↔ ∃ ts, Spells j ts
  := by
  constructor
  · rintro ⟨s, h⟩
    exact ⟨_, ofChars?_eq_some_iff.1 h⟩
  · rintro ⟨ts, h⟩
    obtain ⟨s, rfl⟩ := exists_tokens_eq h.isProper
    exact ⟨s, ofChars?_eq_some_iff.2 h⟩

/-- Any members, in any order, are those of some text of an object, if each value is that of a
text. -/
theorem exists_isObjectText_iff {members : List (Option String × Json)} :
  (∃ s, IsObjectText s members) ↔ ∀ m ∈ members, ∃ s, ofText? s = some m.2
  := by
  simp only [exists_ofText?_iff]
  constructor
  · rintro ⟨s, h⟩
    cases h with
    | empty => simp
    | members _ hts => exact (exists_spellsMembers_iff.1 ⟨_, hts⟩).2
  · intro h
    by_cases hne : members = []
    · subst hne
      obtain ⟨s, hs⟩ := exists_tokens_eq Spells.emptyObject.isProper
      exact ⟨s, .empty hs⟩
    · obtain ⟨ts, hts⟩ := exists_spellsMembers_iff.2 ⟨hne, h⟩
      obtain ⟨s, hs⟩ := exists_tokens_eq (Spells.object hts).isProper
      exact ⟨s, .members hs hts⟩

/-! ### Objects whose names have a text -/

/-- The members of an object as its text has them. -/
def named (members : List (String × Json)) : List (Option String × Json) :=
  members.map fun m => (some m.1, m.2)

theorem ofMembers_named (members : List (String × Json)) :
  ofMembers (named members) = object members
  := Layout.ofMembers_map_some members

/-- An object with a name that has no text cannot be read. -/
theorem ofMembers_eq_garbled (h : ∃ m ∈ members, m.1 = none) :
  ofMembers members = garbled
  := by
  have hnone : (members.mapM fun m => m.1.map fun name => (name, m.2)) = none := by
    induction members with
    | nil =>
      obtain ⟨m, hm, -⟩ := h
      cases hm
    | cons m rest ih =>
      rcases m with ⟨_ | name, j⟩
      · rfl
      · have hrest : ∃ m ∈ rest, m.1 = none := by simpa using h
        rw [List.mapM_cons, ih hrest]
        rfl
  rw [ofMembers, hnone]

/-- Either all names of an object have a text, or one has none. -/
theorem exists_named_or_none (members : List (Option String × Json)) :
  (∃ l, members = named l) ∨ ∃ m ∈ members, m.1 = none
  := by
  induction members with
  | nil => exact .inl ⟨[], rfl⟩
  | cons m rest ih =>
    rcases m with ⟨_ | name, j⟩
    · exact .inr ⟨_, List.mem_cons_self, rfl⟩
    · obtain ⟨l, rfl⟩ | ⟨m, hm, hnone⟩ := ih
      · exact .inl ⟨(name, j) :: l, rfl⟩
      · exact .inr ⟨m, List.mem_cons_of_mem _ hm, hnone⟩

/-- A number is no object. -/
theorem readUnsigned_ne_object {negative : Bool} {s rest : List Char} {l : List (String × Json)} :
  readUnsigned negative s ≠ some (object l, rest)
  := by
  intro h
  rw [readUnsigned_eq] at h
  obtain ⟨⟨whole, t⟩, -, h⟩ := Option.bind_eq_some_iff.1 h
  split at h
  · cases h
  · obtain ⟨⟨fraction, u⟩, -, h⟩ := Option.bind_eq_some_iff.1 h
    obtain ⟨⟨exponent, v⟩, -, h⟩ := Option.map_eq_some_iff.1 h
    have hparts : ofParts negative whole fraction exponent = object l := congrArg Prod.fst h
    cases negative <;> cases fraction <;> cases exponent <;> cases hparts

theorem readNumber_ne_object {s rest : List Char} {l : List (String × Json)} :
  readNumber s ≠ some (object l, rest)
  := by
  fun_cases readNumber s <;> exact readUnsigned_ne_object

/-- A text denotes an object exactly when it is the text of that object. -/
theorem isObjectText_named_iff {l : List (String × Json)} :
  IsObjectText s (named l) ↔ ofText? s = some (object l)
  := by
  constructor
  · intro h
    rw [h.ofText?_eq, ofMembers_named]
  · intro h
    have hspells := ofChars?_eq_some_iff.1 h
    generalize ht : tokens s.toList = ts at hspells
    generalize hj : object l = j at hspells
    cases hspells with
    | emptyObject =>
      cases hj
      exact .empty ht
    | @object members _ hts =>
      obtain ⟨l', rfl⟩ | hnone := exists_named_or_none members
      · rw [ofMembers_named] at hj
        cases hj
        exact .members ht hts
      · rw [ofMembers_eq_garbled hnone] at hj
        cases hj
    | number hnumber =>
      rw [← hj] at hnumber
      exact absurd hnumber readNumber_ne_object
    | null | isTrue | isFalse | string | garbled | emptyArray | array => cases hj

/-- The compact form of an object is the text of that object. -/
theorem isObjectText_compact {l : List (String × Json)} (h : (object l).IsPlain) :
  IsObjectText (object l).compact (named l)
  := isObjectText_named_iff.2 (ofText?_compact h)

end Keyring.Json

import Keyring.Proofs.Checks
import Keyring.Proofs.Json.Tokens

/-!
# Reading values back

The compact form and the indented form differ in their white space only.  A value is written in a
layout, which says what white space stands where, and it is read back from any layout.  This holds
of plain values: other numbers than natural ones, and parts that hold no text, are not read as they
were.
-/

namespace Keyring.Json

/-! ### Plain values -/

mutual

/-- Whether all numbers are natural numbers and all strings hold a text. -/
def IsPlain : Json → Prop
  | null | bool _ | nat _ | string _ => True
  | decimal _ _ _ | garbled => False
  | array items => ArePlain items
  | object members => AreMembersPlain members

/-- Whether all items are plain. -/
def ArePlain : List Json → Prop
  | [] => True
  | j :: rest => IsPlain j ∧ ArePlain rest

/-- Whether all members are plain. -/
def AreMembersPlain : List (String × Json) → Prop
  | [] => True
  | m :: rest => IsPlain m.2 ∧ AreMembersPlain rest

end

theorem arePlain_map {α : Type} {f : α → Json} {xs : List α} (h : ∀ x ∈ xs, (f x).IsPlain) :
  ArePlain (xs.map f)
  := by
  induction xs with
  | nil => trivial
  | cons x xs ih =>
    rw [List.forall_mem_cons] at h
    exact ⟨h.1, ih h.2⟩

/-! ### Layouts -/

/-- The white space between the tokens of a value. -/
structure Layout where
  /-- Before items, members, and the ends of arrays and objects that are so deep. -/
  gap : Nat → List Char
  /-- After colons. -/
  afterColon : List Char
  isSpace_gap : ∀ depth, ∀ c ∈ gap depth, isSpace c = true
  isSpace_afterColon : ∀ c ∈ afterColon, isSpace c = true

namespace Layout

/-- No white space at all. -/
def compact : Layout where
  gap _ := []
  afterColon := []
  isSpace_gap := by simp
  isSpace_afterColon := by simp

/-- A new line for each item and member. -/
def indented : Layout where
  gap := newLine
  afterColon := [' ']
  isSpace_gap := by
    intro depth c hc
    rcases List.mem_cons.1 hc with rfl | hc
    · rfl
    · rw [List.eq_of_mem_replicate hc]
      rfl
  isSpace_afterColon := by simp [isSpace]

@[simp]
theorem gap_compact (depth : Nat) :
  compact.gap depth = []
  := rfl

@[simp]
theorem afterColon_compact :
  compact.afterColon = []
  := rfl

@[simp]
theorem gap_indented (depth : Nat) :
  indented.gap depth = newLine depth
  := rfl

@[simp]
theorem afterColon_indented :
  indented.afterColon = [' ']
  := rfl

mutual

/-- A value that stands at a depth, in a layout. -/
def write (l : Layout) (depth : Nat) : Json → List Char
  | array [] => ['[', ']']
  | array (j :: rest) =>
    '[' :: l.gap (depth + 1) ++ l.write (depth + 1) j ++ l.writeItems depth rest
  | object [] => ['{', '}']
  | object (m :: rest) =>
    '{' :: l.gap (depth + 1) ++ writeString m.1 ++ ':' :: l.afterColon ++
      l.write (depth + 1) m.2 ++ l.writeMembers depth rest
  | j => writeAtom j

/-- The further items of an array, and its end. -/
def writeItems (l : Layout) (depth : Nat) : List Json → List Char
  | [] => l.gap depth ++ [']']
  | j :: rest => ',' :: l.gap (depth + 1) ++ l.write (depth + 1) j ++ l.writeItems depth rest

/-- The further members of an object, and its end. -/
def writeMembers (l : Layout) (depth : Nat) : List (String × Json) → List Char
  | [] => l.gap depth ++ ['}']
  | m :: rest =>
    ',' :: l.gap (depth + 1) ++ writeString m.1 ++ ':' :: l.afterColon ++
      l.write (depth + 1) m.2 ++ l.writeMembers depth rest

end

mutual

/-- The compact form is a layout. -/
theorem write_compact (depth : Nat) : ∀ j : Json, compact.write depth j = writeCompact j
  | null | bool _ | nat _ | string _ | decimal _ _ _ | garbled => by simp [write, writeCompact]
  | array [] | object [] => by simp [write, writeCompact]
  | array (j :: rest) => by
    simp [write, writeCompact, write_compact _ j, writeItems_compact depth rest]
  | object (m :: rest) => by
    simp [write, writeCompact, write_compact _ m.2, writeMembers_compact depth rest]

theorem writeItems_compact (depth : Nat) :
    ∀ items : List Json, compact.writeItems depth items = Json.writeItems items
  | [] => rfl
  | j :: rest => by
    simp [writeItems, Json.writeItems, write_compact _ j, writeItems_compact depth rest]

theorem writeMembers_compact (depth : Nat) :
    ∀ members : List (String × Json), compact.writeMembers depth members = Json.writeMembers members
  | [] => rfl
  | m :: rest => by
    simp [writeMembers, Json.writeMembers, write_compact _ m.2, writeMembers_compact depth rest]

end

mutual

/-- The indented form is a layout. -/
theorem write_indented (depth : Nat) : ∀ j : Json, indented.write depth j = writeIndented depth j
  | null | bool _ | nat _ | string _ | decimal _ _ _ | garbled => by simp [write, writeIndented]
  | array [] | object [] => by simp [write, writeIndented]
  | array (j :: rest) => by
    simp [write, writeIndented, write_indented _ j, writeItems_indented depth rest]
  | object (m :: rest) => by
    simp [write, writeIndented, write_indented _ m.2, writeMembers_indented depth rest]

theorem writeItems_indented (depth : Nat) :
    ∀ items : List Json, indented.writeItems depth items = writeIndentedItems depth items
  | [] => rfl
  | j :: rest => by
    simp [writeItems, writeIndentedItems, write_indented _ j, writeItems_indented depth rest]

theorem writeMembers_indented (depth : Nat) : ∀ members : List (String × Json),
    indented.writeMembers depth members = writeIndentedMembers depth members
  | [] => rfl
  | m :: rest => by
    simp [writeMembers, writeIndentedMembers, write_indented _ m.2,
      writeMembers_indented depth rest]

end

/-! ### Reading -/

variable (l : Layout)

theorem endsNumber_of_isSpace {c : Char} (h : isSpace c = true) :
  endsNumber c = true
  := by
  simp [isSpace] at h
  rcases h with ((rfl | rfl) | rfl) | rfl <;> rfl

/-- What follows an item or member cannot belong to a number. -/
theorem endsNumber_gap_append (depth : Nat) (c : Char) (hc : endsNumber c = true)
    (s : List Char) :
  ∀ x ∈ (l.gap depth ++ c :: s).head?, endsNumber x = true
  := by
  intro x hx
  rcases hg : l.gap depth with _ | ⟨y, ys⟩
  · rw [hg] at hx
    cases hx
    exact hc
  · rw [hg] at hx
    cases hx
    exact endsNumber_of_isSpace (l.isSpace_gap depth _ (by rw [hg]; simp))

/-- A value is read in the same way after white space. -/
theorem readValue_append (fuel : Nat) {w : List Char} (hw : ∀ c ∈ w, isSpace c = true)
    (s : List Char) :
  readValue fuel (w ++ s) = readValue fuel s
  := by
  cases fuel with
  | zero => rfl
  | succ fuel => rw [readValue, readValue, skipSpaces_append hw]

/-- A digit begins a number. -/
theorem readValue_of_isDigit (fuel : Nat) {c : Char} (hc : c.isDigit = true) (s : List Char) :
  readValue (fuel + 1) (c :: s) = readUnsigned false (c :: s)
  := by
  rw [readValue, skipSpaces_cons (isSpace_of_isDigit hc)]
  split
  case _ h | _ h | _ h | _ h | _ h | _ h =>
    cases h
    cases hc
  case _ =>
    rw [readNumber]
    rintro t h
    cases h
    cases hc

theorem readItems_append (fuel : Nat) {w : List Char} (hw : ∀ c ∈ w, isSpace c = true)
    (s : List Char) :
  readItems fuel (w ++ s) = readItems fuel s
  := by
  cases fuel with
  | zero => rfl
  | succ fuel => rw [readItems, readItems, readValue_append fuel hw]

theorem readMembers_append (fuel : Nat) {w : List Char} (hw : ∀ c ∈ w, isSpace c = true)
    (s : List Char) :
  readMembers fuel (w ++ s) = readMembers fuel s
  := by
  cases fuel with
  | zero => rfl
  | succ fuel => rw [readMembers, readMembers, skipSpaces_append hw]

/-! #### One step of the reader -/

/-- An array that does not end at once has items. -/
theorem readValue_array (fuel : Nat) {t s : List Char} {c : Char} (ht : skipSpaces t = c :: s)
    (hc : c ≠ ']') :
  readValue (fuel + 1) ('[' :: t) = (readItems fuel (c :: s)).map fun r => (array r.1, r.2)
  := by
  simp [readValue, skipSpaces_cons, isSpace, ht, hc]

theorem readValue_object (fuel : Nat) {t s : List Char} (ht : skipSpaces t = s)
    (hs : s.head? = some '"') :
  readValue (fuel + 1) ('{' :: t) = (readMembers fuel s).map fun r => (ofMembers r.1, r.2)
  := by
  obtain ⟨u, rfl⟩ := List.head?_eq_some_iff.1 hs
  simp [readValue, skipSpaces_cons, isSpace, ht]

theorem readItems_last {fuel : Nat} {s t rest : List Char} {j : Json}
    (hs : readValue fuel s = some (j, t)) (ht : skipSpaces t = ']' :: rest) :
  readItems (fuel + 1) s = some ([j], rest)
  := by
  simp [readItems, hs, ht]

theorem readItems_more {fuel : Nat} {s t rest : List Char} {j : Json}
    (hs : readValue fuel s = some (j, t)) (ht : skipSpaces t = ',' :: rest) :
  readItems (fuel + 1) s = (readItems fuel rest).map fun r => (j :: r.1, r.2)
  := by
  simp [readItems, hs, ht]

/-- A member is read as its name, a colon, and its value. -/
theorem readMembers_last {fuel : Nat} {name : String} {s t rest : List Char} {j : Json}
    (hs : readValue fuel s = some (j, t)) (ht : skipSpaces t = '}' :: rest) :
  readMembers (fuel + 1) (writeString name ++ ':' :: s) = some ([(some name, j)], rest)
  := by
  obtain ⟨u, hu, hname⟩ := readText_writeString name (':' :: s)
  rw [hu, readMembers, skipSpaces_cons rfl]
  simp [hname, skipSpaces_cons, isSpace, hs, ht]

theorem readMembers_more {fuel : Nat} (name : String) {s t rest : List Char} {j : Json}
    (hs : readValue fuel s = some (j, t)) (ht : skipSpaces t = ',' :: rest) :
  readMembers (fuel + 1) (writeString name ++ ':' :: s) =
    (readMembers fuel rest).map fun r => ((some name, j) :: r.1, r.2)
  := by
  obtain ⟨u, hu, hname⟩ := readText_writeString name (':' :: s)
  rw [hu, readMembers, skipSpaces_cons rfl]
  simp [hname, skipSpaces_cons, isSpace, hs, ht]

/-- The members of an object are known by their names. -/
theorem ofMembers_map_some (members : List (String × Json)) :
  ofMembers (members.map fun m => (some m.1, m.2)) = object members
  := by
  rw [ofMembers, Option.mapM_map_of_forall]
  simp

/-! #### Values -/

theorem write_nat (depth n : Nat) :
  l.write depth (nat n) = writeNat n
  := by
  simp [write, writeAtom]

theorem write_string (depth : Nat) (s : String) :
  l.write depth (string s) = writeString s
  := by
  simp [write, writeAtom]

/-- A value starts with no white space, and not with the end of an array. -/
theorem exists_write_eq_cons (depth : Nat) {j : Json} (h : j.IsPlain) :
  ∃ c s, l.write depth j = c :: s ∧ isSpace c = false ∧ c ≠ ']'
  := by
  cases j with
  | nat n =>
    obtain ⟨c, s, hn, hc⟩ := exists_writeNat_eq_cons n
    rw [write_nat, hn]
    use c, s, rfl, isSpace_of_isDigit hc
    rintro rfl
    cases hc
  | bool b => cases b <;> exact ⟨_, _, rfl, rfl, by decide⟩
  | array items => cases items <;> exact ⟨_, _, rfl, rfl, by decide⟩
  | object members => cases members <;> exact ⟨_, _, rfl, rfl, by decide⟩
  | null | string => exact ⟨_, _, rfl, rfl, by decide⟩
  | decimal | garbled => cases h

/-- Whether a value is read back wherever it is written, if the reader has time enough. -/
def Reads (depth : Nat) (j : Json) : Prop :=
  ∀ (fuel : Nat) (rest : List Char), (∀ c ∈ rest.head?, endsNumber c = true) →
    2 * (l.write depth j).length ≤ fuel →
    readValue (fuel + 1) (l.write depth j ++ rest) = some (j, rest)

mutual

/-- A plain value is read back. -/
theorem reads (depth : Nat) : ∀ j : Json, j.IsPlain → l.Reads depth j
  | null, _ => by
    intro fuel rest _ _
    simp [write, writeAtom, readValue, skipSpaces_cons, isSpace]
  | bool b, _ => by
    intro fuel rest _ _
    cases b <;> simp [write, writeAtom, readValue, skipSpaces_cons, isSpace]
  | nat n, _ => by
    intro fuel rest hrest _
    obtain ⟨c, s, hn, hc⟩ := exists_writeNat_eq_cons n
    have hread := readUnsigned_writeNat n hrest
    rw [hn, List.cons_append] at hread
    rw [write_nat, hn, List.cons_append, readValue_of_isDigit fuel hc, hread]
  | string s, _ => by
    intro fuel rest _ _
    obtain ⟨t, ht, hread⟩ := readText_writeString s rest
    rw [write_string, ht, readValue, skipSpaces_cons rfl]
    simp [hread]
  | array [], _ => by
    intro fuel rest _ _
    simp [write, readValue, skipSpaces_cons, isSpace]
  | object [], _ => by
    intro fuel rest _ _
    simp [write, readValue, skipSpaces_cons, isSpace]
  | array (j :: items), h => by
    intro fuel rest _ hfuel
    rw [write] at hfuel
    simp only [List.length_append, List.length_cons] at hfuel
    obtain ⟨fuel, rfl⟩ : ∃ n, fuel = n + 1 := ⟨fuel - 1, by omega⟩
    have hitems := readItems_write depth items h.2 j (reads (depth + 1) j h.1) fuel rest
      (by rw [List.length_append]; omega)
    obtain ⟨c, s, hj, hspace, hc⟩ := l.exists_write_eq_cons (depth + 1) h.1
    have hskip : skipSpaces (l.gap (depth + 1) ++ l.write (depth + 1) j ++
        l.writeItems depth items ++ rest) = c :: (s ++ l.writeItems depth items ++ rest) := by
      rw [List.append_assoc, List.append_assoc, skipSpaces_append (l.isSpace_gap _), hj,
        List.cons_append, skipSpaces_cons hspace, List.append_assoc]
    rw [hj, List.cons_append, List.cons_append] at hitems
    rw [write, List.cons_append, List.cons_append, List.cons_append,
      readValue_array _ hskip hc, hitems]
    rfl
  | object (m :: members), h => by
    intro fuel rest _ hfuel
    rw [write] at hfuel
    simp only [List.length_append, List.length_cons] at hfuel
    obtain ⟨fuel, rfl⟩ : ∃ n, fuel = n + 1 := ⟨fuel - 1, by omega⟩
    have hmembers := readMembers_write depth members h.2 m (reads (depth + 1) m.2 h.1) fuel rest
      (by rw [List.length_append]; omega)
    have hskip : ∀ s, s.head? = some '"' → skipSpaces (l.gap (depth + 1) ++ s) = s := by
      intro s hs
      rw [skipSpaces_append (l.isSpace_gap _), skipSpaces_of_head]
      rw [hs]
      rintro c ⟨⟩
      rfl
    have hopen := readValue_object (fuel + 1) (hskip (writeString m.1 ++ ':' :: (l.afterColon ++
      (l.write (depth + 1) m.2 ++ (l.writeMembers depth members ++ rest)))) rfl) rfl
    rw [hmembers, Option.map_some, ofMembers_map_some] at hopen
    simpa [write] using hopen

/-- The items of an array are read back, where the first one is. -/
theorem readItems_write (depth : Nat) : ∀ items : List Json, ArePlain items →
    ∀ j : Json, l.Reads (depth + 1) j → ∀ (fuel : Nat) (rest : List Char),
      2 * (l.write (depth + 1) j ++ l.writeItems depth items).length ≤ fuel + 1 →
      readItems (fuel + 1) (l.write (depth + 1) j ++ l.writeItems depth items ++ rest) =
        some (j :: items, rest)
  | [], _, j, hj, fuel, rest, hfuel => by
    simp only [writeItems, List.length_append, List.length_singleton] at hfuel
    obtain ⟨fuel, rfl⟩ : ∃ n, fuel = n + 1 := ⟨fuel - 1, by omega⟩
    have hvalue := hj fuel (l.gap depth ++ ']' :: rest) (l.endsNumber_gap_append depth ']' rfl rest)
      (by omega)
    have hend : skipSpaces (l.gap depth ++ ']' :: rest) = ']' :: rest := by
      rw [skipSpaces_append (l.isSpace_gap depth), skipSpaces_cons rfl]
    simpa [writeItems] using readItems_last hvalue hend
  | j' :: items, h, j, hj, fuel, rest, hfuel => by
    have hj' := reads (depth + 1) j' h.1
    simp only [writeItems, List.length_append, List.length_cons] at hfuel
    obtain ⟨fuel, rfl⟩ : ∃ n, fuel = n + 1 := ⟨fuel - 1, by omega⟩
    have hitems := readItems_write depth items h.2 j' hj' fuel rest
      (by rw [List.length_append]; omega)
    have hvalue := hj fuel
      (',' :: (l.gap (depth + 1) ++ (l.write (depth + 1) j' ++ l.writeItems depth items ++ rest)))
      (by rintro c ⟨⟩; rfl) (by omega)
    have hmore := readItems_more hvalue (skipSpaces_cons rfl)
    rw [readItems_append _ (l.isSpace_gap _), hitems] at hmore
    simpa [writeItems] using hmore

/-- The members of an object are read back, where the first one is. -/
theorem readMembers_write (depth : Nat) : ∀ members : List (String × Json), AreMembersPlain members →
    ∀ m : String × Json, l.Reads (depth + 1) m.2 → ∀ (fuel : Nat) (rest : List Char),
      2 * (l.write (depth + 1) m.2 ++ l.writeMembers depth members).length ≤ fuel →
      readMembers (fuel + 1) (writeString m.1 ++ ':' :: (l.afterColon ++
        (l.write (depth + 1) m.2 ++ (l.writeMembers depth members ++ rest)))) =
        some ((m :: members).map fun m => (some m.1, m.2), rest)
  | [], _, m, hm, fuel, rest, hfuel => by
    simp only [writeMembers, List.length_append, List.length_singleton] at hfuel
    obtain ⟨fuel, rfl⟩ : ∃ n, fuel = n + 1 := ⟨fuel - 1, by omega⟩
    have hvalue := hm fuel (l.gap depth ++ '}' :: rest) (l.endsNumber_gap_append depth '}' rfl rest)
      (by omega)
    rw [← readValue_append _ l.isSpace_afterColon] at hvalue
    have hend : skipSpaces (l.gap depth ++ '}' :: rest) = '}' :: rest := by
      rw [skipSpaces_append (l.isSpace_gap depth), skipSpaces_cons rfl]
    simpa [writeMembers] using readMembers_last hvalue hend
  | m' :: members, h, m, hm, fuel, rest, hfuel => by
    have hm' := reads (depth + 1) m'.2 h.1
    simp only [writeMembers, List.length_append, List.length_cons] at hfuel
    obtain ⟨fuel, rfl⟩ : ∃ n, fuel = n + 1 := ⟨fuel - 1, by omega⟩
    have hmembers := readMembers_write depth members h.2 m' hm' fuel rest
      (by rw [List.length_append]; omega)
    have hvalue := hm fuel (',' :: (l.gap (depth + 1) ++ (writeString m'.1 ++ ':' ::
      (l.afterColon ++ (l.write (depth + 1) m'.2 ++ (l.writeMembers depth members ++ rest))))))
      (by rintro c ⟨⟩; rfl) (by omega)
    rw [← readValue_append _ l.isSpace_afterColon] at hvalue
    have hmore := readMembers_more m.1 hvalue (skipSpaces_cons rfl)
    rw [readMembers_append _ (l.isSpace_gap _), hmembers] at hmore
    simpa [writeMembers] using hmore

end

/-- A plain value is read back from any layout. -/
theorem ofChars?_write (depth : Nat) {j : Json} (h : j.IsPlain) :
  ofChars? (l.write depth j) = some j
  := by
  have hread := l.reads depth j h (2 * (l.write depth j).length + 1) [] (by simp) (by omega)
  rw [List.append_nil] at hread
  rw [ofChars?, hread]
  rfl

end Layout

/-! ### The two forms -/

/-- A plain value is read back from its compact form. -/
@[simp]
theorem ofText?_compact {j : Json} (h : j.IsPlain) :
  ofText? j.compact = some j
  := by
  rw [ofText?, compact, String.toList_ofList, ← Layout.write_compact 0]
  exact Layout.compact.ofChars?_write 0 h

/-- A plain value is read back from its indented form. -/
@[simp]
theorem ofText?_pretty {j : Json} (h : j.IsPlain) :
  ofText? j.pretty = some j
  := by
  rw [ofText?, pretty, String.toList_ofList, ← Layout.write_indented 0]
  exact Layout.indented.ofChars?_write 0 h

end Keyring.Json

import Keyring.Entries
import Keyring.Json.Members
import Keyring.Proofs.Json.ObjectText
import Mathlib.Data.List.Count
import Mathlib.Data.List.Nodup
import Mathlib.Data.List.Perm.Basic

/-!
# What a record sees of an object

A record looks its members up by their names, and it fails when a known member is repeated.  So the
order of the members makes no difference, and neither do members that it does not know.
-/

namespace Keyring

/-- The order of entries makes no difference where no key is repeated. -/
theorem lookup_eq_of_perm {κ α : Type} [BEq κ] [LawfulBEq κ] {entries entries' : List (κ × α)}
    (h : entries.Perm entries') (hnodup : (entries.map Prod.fst).Nodup) (key : κ) :
  entries.lookup key = entries'.lookup key
  := by
  induction h with
  | nil => rfl
  | cons e h ih =>
    rw [List.lookup_cons, List.lookup_cons, ih (List.nodup_cons.1 hnodup).2]
  | swap e e' entries =>
    have hne : e'.1 ≠ e.1 := by
      intro he
      exact (List.nodup_cons.1 hnodup).1 (he ▸ List.mem_cons_self)
    rw [List.lookup_cons, List.lookup_cons, List.lookup_cons, List.lookup_cons]
    by_cases hkey : key = e.1
    · rw [beq_iff_eq.2 hkey, beq_false_of_ne (hkey ▸ hne.symm)]
    · rw [beq_false_of_ne hkey]
  | trans h h' ih ih' =>
    rw [ih hnodup, ih' ((h.map _).nodup_iff.1 hnodup)]

namespace Json

variable {members members' : List (String × Json)} {names : List String}

/-- Members that are put in another order keep their names, or one of them has none anyway. -/
theorem exists_named_perm {ms ms' : List (Option String × Json)} (h : ms.Perm ms') :
  (∃ l l', l.Perm l' ∧ ms = named l ∧ ms' = named l') ∨
    ofMembers ms = garbled ∧ ofMembers ms' = garbled
  := by
  have hinjective : Function.Injective fun m : String × Json => (some m.1, m.2) := by
    rintro ⟨name, j⟩ ⟨name', j'⟩ h
    cases h
    rfl
  have hnone : (∃ m ∈ ms, m.1 = none) ↔ ∃ m ∈ ms', m.1 = none := by
    simp only [h.mem_iff]
  obtain ⟨l, rfl⟩ | hm := exists_named_or_none ms
  · obtain ⟨l', rfl⟩ | hm' := exists_named_or_none ms'
    · exact .inl ⟨l, l', (List.map_perm_map_iff hinjective).1 h, rfl, rfl⟩
    · exact .inr ⟨ofMembers_eq_garbled (hnone.2 hm'), ofMembers_eq_garbled hm'⟩
  · exact .inr ⟨ofMembers_eq_garbled hm, ofMembers_eq_garbled (hnone.1 hm)⟩

theorem count_map_fst_named (name : String) (l : List (String × Json)) :
  ((named l).map Prod.fst).count (some name) = (l.map Prod.fst).count name
  := by
  have hmap : (named l).map Prod.fst = (l.map Prod.fst).map some := by
    simp [named]
  rw [hmap, List.count_map_of_injective _ _ (Option.some_injective _)]

/-- What a record sees of its members: the values under each name. -/
def Members.view (m : Members) : (String → Option Json) × Bool :=
  (m.get?, m.isPositional)

/-- What a record that knows the given names sees of a value. -/
def view (names : List String) (j : Json) : Option ((String → Option Json) × Bool) :=
  (j.members? names).map Members.view

/-- Reading that looks at the members only gives the same for values that look the same. -/
theorem members?_bind_congr {α : Type} {j j' : Json} {read : Members → Option α}
    (hread : ∀ m m' : Members, m.view = m'.view → read m = read m')
    (h : view names j = view names j') :
  j.members? names >>= read = j'.members? names >>= read
  := by
  rw [view, view] at h
  rcases hm : j.members? names with _ | m
  · rw [hm] at h
    rw [Option.map_eq_none_iff.1 h.symm]
  · rw [hm] at h
    obtain ⟨m', hm', hview⟩ := Option.map_eq_some_iff.1 h.symm
    rw [hm']
    exact hread m m' hview.symm

/-- The names that are left when members are left out by their names. -/
theorem map_fst_filter (p : String → Bool) (members : List (String × Json)) :
  (members.filter fun m => p m.1).map Prod.fst = (members.map Prod.fst).filter p
  := by
  rw [List.filter_map]
  rfl

theorem count_fst_filter {p : String → Bool} {name : String} (h : p name = true)
    (members : List (String × Json)) :
  ((members.filter fun m => p m.1).map Prod.fst).count name = (members.map Prod.fst).count name
  := by
  rw [map_fst_filter, List.count_filter h]

/-- The order of the members makes no difference. -/
theorem view_object_perm (h : members.Perm members') (names : List String) :
  view names (object members) = view names (object members')
  := by
  have hfilter := h.filter fun m => names.contains m.1
  have hnodup := (hfilter.map Prod.fst).nodup_iff
  rw [view, view, members?, members?]
  split_ifs with hl hl' hl'
  · have hget := funext (lookup_eq_of_perm hfilter hl)
    exact congrArg (fun get => some (get, false)) hget
  · exact absurd (hnodup.1 hl) hl'
  · exact absurd (hnodup.2 hl') hl
  · rfl

/-- Members that are not known make no difference. -/
theorem members?_append_unknown {extra : List (String × Json)} (h : ∀ m ∈ extra, m.1 ∉ names) :
  (object (extra ++ members)).members? names = (object members).members? names
  := by
  have hextra : extra.filter (fun m => names.contains m.1) = [] := by
    simpa using h
  rw [members?, members?, List.filter_append, hextra, List.nil_append]

/-- A known member that is repeated makes reading fail. -/
theorem members?_eq_none_of_repeated {name : String} (hknown : name ∈ names)
    (h : 1 < (members.map Prod.fst).count name) :
  (object members).members? names = none
  := by
  rw [members?]
  apply if_neg
  intro hnodup
  have hcount := List.nodup_iff_count_le_one.1 hnodup name
  rw [count_fst_filter (List.contains_iff_mem.2 hknown)] at hcount
  omega

/-- The members with one more. -/
def Members.add (m : Members) (name : String) (j : Json) : Members :=
  ⟨(name, j) :: m.present, m.isPositional⟩

theorem Members.isPositional_add (m : Members) (name : String) (j : Json) :
  (m.add name j).isPositional = m.isPositional
  := rfl

theorem Members.get?_add (m : Members) (name : String) (j : Json) (other : String) :
  (m.add name j).get? other = if other = name then some j else m.get? other
  := by
  rw [get?, add, List.lookup_cons]
  by_cases h : other = name
  · rw [if_pos h, beq_iff_eq.2 h]
  · rw [if_neg h, beq_false_of_ne h]
    rfl

/-- A further known member is seen with the others. -/
theorem members?_cons {name : String} (j : Json) (hknown : name ∈ names)
    (hnew : name ∉ members.map Prod.fst) :
  (object ((name, j) :: members)).members? names =
    ((object members).members? names).map fun m => m.add name j
  := by
  have hnew' : name ∉ (members.filter fun m => names.contains m.1).map Prod.fst := by
    rw [map_fst_filter names.contains]
    exact fun h => hnew (List.mem_of_mem_filter h)
  have hcons : (name :: (members.filter fun m => names.contains m.1).map Prod.fst).Nodup ↔
      ((members.filter fun m => names.contains m.1).map Prod.fst).Nodup := by
    rw [List.nodup_cons, and_iff_right hnew']
  rw [members?, members?, List.filter_cons_of_pos (by simpa using hknown)]
  by_cases h : ((members.filter fun m => names.contains m.1).map Prod.fst).Nodup
  · rw [if_pos h]
    exact if_pos (hcons.2 h)
  · rw [if_neg h]
    exact if_neg fun h' => h (hcons.1 h')

/-- The members of an object are found by their names only. -/
theorem of_members?_object {m : Members} (h : (object members).members? names = some m)
    {name : String} (hnew : name ∉ members.map Prod.fst) :
  m.isPositional = false ∧ m.get? name = none
  := by
  rw [members?] at h
  split_ifs at h
  cases h
  refine ⟨rfl, List.lookup_eq_none_iff.2 fun e he => ?_⟩
  have hmem := List.mem_map_of_mem (f := Prod.fst) (List.mem_of_mem_filter he)
  exact bne_iff_ne.2 fun hname => hnew (hname ▸ hmem)

/-- A member that is left out is read as its default. -/
theorem members?_bind_default {α : Type} {name : String} {j : Json} {read : Members → Option α}
    (hknown : name ∈ names) (hnew : name ∉ members.map Prod.fst)
    (hread : ∀ m : Members, m.isPositional = false → m.get? name = none →
      read (m.add name j) = read m) :
  (object ((name, j) :: members)).members? names >>= read = (object members).members? names >>= read
  := by
  rw [members?_cons j hknown hnew]
  rcases hm : (object members).members? names with _ | m
  · rfl
  · obtain ⟨hpositional, hget⟩ := of_members?_object hm hnew
    exact hread m hpositional hget

end Json

end Keyring

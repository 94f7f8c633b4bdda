/-!
# Lists of entries

A list of keys and values.  The value of a key is that of its first entry, so that an entry
which is set replaces those before it.
-/

namespace Keyring

/-- A list of entries with the value of a key set. -/
def setEntry {κ α : Type} [DecidableEq κ] (key : κ) (value : α) (entries : List (κ × α)) :
    List (κ × α) :=
  (key, value) :: entries.filter fun e => e.1 ≠ key

/-- What is left out of a list of entries is not found in it anyway. -/
theorem lookup_filter {κ α : Type} [BEq κ] [LawfulBEq κ] {p : κ × α → Bool} {key : κ}
    (h : ∀ e : κ × α, e.1 = key → p e = true) (entries : List (κ × α)) :
  (entries.filter p).lookup key = entries.lookup key
  := by
  induction entries with
  | nil => rfl
  | cons e rest ih =>
    by_cases hkey : key = e.1
    · rw [List.filter_cons_of_pos (h e hkey.symm), List.lookup_cons, List.lookup_cons, hkey,
        beq_self_eq_true]
    · have hbeq := beq_false_of_ne hkey
      rw [List.filter_cons, List.lookup_cons, hbeq, ← ih]
      split
      · rw [List.lookup_cons, hbeq]
      · rfl

theorem lookup_cons_eq_ite {κ α : Type} [BEq κ] [LawfulBEq κ] [DecidableEq κ] (key other : κ)
    (value : α) (entries : List (κ × α)) :
  List.lookup other ((key, value) :: entries) =
    if other = key then some value else entries.lookup other
  := by
  rw [List.lookup_cons]
  by_cases h : other = key
  · rw [if_pos h, beq_iff_eq.2 h]
  · rw [if_neg h, beq_false_of_ne h]

theorem lookup_setEntry {κ α : Type} [DecidableEq κ] (key other : κ) (value : α)
    (entries : List (κ × α)) :
  (setEntry key value entries).lookup other =
    if other = key then some value else entries.lookup other
  := by
  rw [setEntry, lookup_cons_eq_ite]
  by_cases h : other = key
  · rw [if_pos h, if_pos h]
  · rw [if_neg h, if_neg h]
    exact lookup_filter (fun e he => by simpa [he] using h) entries

end Keyring

import Keyring.Store.Database
import Mathlib.Data.List.Induction
import Mathlib.Data.List.Nodup
import Mathlib.Data.Prod.Lex
import Mathlib.Data.String.Basic

/-!
# Tables

A table is a list of rows, each found by its id.  Putting a row in changes what is found under
its id and nothing else, and no two rows share an id if none did before.  The order in which the
rows stand does not matter for what is found.
-/

namespace Keyring.Table

variable {ρ : Type} {id : ρ → String} {row : ρ} {rows : List ρ}

/-! ### Putting in -/

/-- A row with a new id stands at the end. -/
theorem put_of_forall_ne (h : ∀ r ∈ rows, id r ≠ id row) :
  put id row rows = rows ++ [row]
  := by
  apply if_neg
  simp only [List.any_eq_true, beq_iff_eq, not_exists, not_and]
  exact h

theorem put_of_exists (h : ∃ r ∈ rows, id r = id row) :
  put id row rows = rows.map fun r => if id r == id row then row else r
  := by
  apply if_pos
  simpa using h

/-- A row that is put in stands beside the rows with other ids. -/
theorem mem_put {r : ρ} :
  r ∈ put id row rows ↔ r = row ∨ r ∈ rows ∧ id r ≠ id row
  := by
  -- A row with that id is replaced where it stands; otherwise the new one goes to the end.
  by_cases he : ∃ r ∈ rows, id r = id row
  · rw [put_of_exists he, List.mem_map]
    constructor
    · rintro ⟨s, hs, rfl⟩
      by_cases hid : id s = id row
      · left
        rw [if_pos (beq_iff_eq.2 hid)]
      · right
        rw [if_neg (mt beq_iff_eq.1 hid)]
        exact ⟨hs, hid⟩
    · rintro (rfl | ⟨hr, hid⟩)
      · obtain ⟨s, hs, hid⟩ := he
        exact ⟨s, hs, if_pos (beq_iff_eq.2 hid)⟩
      · exact ⟨r, hr, if_neg (mt beq_iff_eq.1 hid)⟩
  · have hne : ∀ r ∈ rows, id r ≠ id row := by simpa using he
    rw [put_of_forall_ne hne, List.mem_append, List.mem_singleton, or_comm]
    apply or_congr_right
    exact ⟨fun hr => ⟨hr, hne r hr⟩, And.left⟩

/-- A row that is put in has the id of the one whose place it takes. -/
theorem id_replace (id : ρ → String) (row r : ρ) :
  id (if id r == id row then row else r) = id r
  := by
  by_cases h : (id r == id row) = true
  · rw [if_pos h]
    apply (beq_iff_eq.1 h).symm
  · rw [if_neg h]

/-- Putting a row in does not change the ids, apart from a new one at the end. -/
theorem map_put_of_exists (h : ∃ r ∈ rows, id r = id row) :
  (put id row rows).map id = rows.map id
  := by
  rw [put_of_exists h, List.map_map]
  apply List.map_congr_left
  intro r _
  apply id_replace

theorem nodup_put (h : (rows.map id).Nodup) :
  ((put id row rows).map id).Nodup
  := by
  by_cases he : ∃ r ∈ rows, id r = id row
  · rw [map_put_of_exists he]
    apply h
  · have hne : ∀ r ∈ rows, id r ≠ id row := by simpa using he
    rw [put_of_forall_ne hne, List.map_append, List.map_singleton]
    apply h.append (List.nodup_singleton _)
    rw [List.disjoint_singleton, List.mem_map]
    rintro ⟨r, hr, hid⟩
    apply hne r hr hid

/-- A table with rows that are put in one after the other. -/
def putAll (id : ρ → String) (new rows : List ρ) : List ρ :=
  new.foldl (fun rows row => put id row rows) rows

/-- The last row is put into what the others have made. -/
theorem putAll_concat (new rows : List ρ) :
  putAll id (new ++ [row]) rows = put id row (putAll id new rows)
  := List.foldl_concat ..

/-- Rows with new ids that are put in one after the other stand at the end. -/
theorem putAll_of_nodup {new : List ρ} (h : ((rows ++ new).map id).Nodup) :
  putAll id new rows = rows ++ new
  := by
  induction new generalizing rows with
  | nil => exact (List.append_nil rows).symm
  | cons row rest ih =>
    have hsplit : rows ++ row :: rest = (rows ++ [row]) ++ rest := by simp
    have hne : ∀ r ∈ rows, id r ≠ id row := by
      intro r hr hid
      rw [List.map_append, List.map_cons, List.nodup_append] at h
      exact h.2.2 (id r) (List.mem_map_of_mem hr) (id row) List.mem_cons_self hid
    rw [hsplit] at h ⊢
    rw [putAll, List.foldl_cons, put_of_forall_ne hne]
    exact ih h

/-! ### Finding -/

theorem mem_of_find? {key : String} {r : ρ} (h : find? id key rows = some r) :
  r ∈ rows ∧ id r = key
  := by
  have hid := List.find?_some h
  exact ⟨List.mem_of_find?_eq_some h, by simpa using hid⟩

theorem find?_eq_none_iff {key : String} :
  find? id key rows = none ↔ ∀ r ∈ rows, id r ≠ key
  := by
  simp [find?]

/-- A row is found under its id if it is the only one with it. -/
theorem find?_eq_some_iff (h : (rows.map id).Nodup) {key : String} {r : ρ} :
  find? id key rows = some r ↔ r ∈ rows ∧ id r = key
  := by
  constructor
  · apply mem_of_find?
  · rintro ⟨hr, rfl⟩
    rcases hf : find? id (id r) rows with _ | s
    · cases find?_eq_none_iff.1 hf r hr rfl
    · obtain ⟨hs, hid⟩ := mem_of_find? hf
      rw [List.inj_on_of_nodup_map h hs hr hid]

theorem find?_perm {rows' : List ρ} (h : (rows.map id).Nodup) (hp : rows'.Perm rows)
    (key : String) :
  find? id key rows' = find? id key rows
  := by
  have h' : (rows'.map id).Nodup := (hp.map id).nodup_iff.2 h
  apply Option.ext
  intro r
  rw [find?_eq_some_iff h', find?_eq_some_iff h, hp.mem_iff]

/-- Under the id of a row that was put in, it is found; under any other one, what was there. -/
theorem find?_put (key : String) :
  find? id key (put id row rows) = if id row = key then some row else find? id key rows
  := by
  by_cases he : ∃ r ∈ rows, id r = id row
  · have hp : (fun r => id r == key) ∘ (fun r => if id r == id row then row else r) =
        fun r => id r == key := by
      funext r
      rw [Function.comp_apply, id_replace id]
    rw [put_of_exists he, find?, List.find?_map, hp, ← find?]
    rcases hf : find? id key rows with _ | s
    · obtain ⟨r, hr, hid⟩ := he
      have hkey : id row ≠ key := hid ▸ find?_eq_none_iff.1 hf r hr
      rw [if_neg hkey]
      rfl
    · obtain ⟨-, rfl⟩ := mem_of_find? hf
      by_cases hid : id row = id s
      · simp [hid]
      · simp [hid, Ne.symm hid]
  · have hne : ∀ r ∈ rows, id r ≠ id row := by simpa using he
    rw [put_of_forall_ne hne, find?, List.find?_append, ← find?]
    by_cases hid : id row = key
    · subst hid
      rw [find?_eq_none_iff.2 hne]
      simp
    · simp [hid]

/-! ### Putting rows in one after the other -/

section putAll

variable {new : List ρ}

/-- The last row comes before all others. -/
theorem find?_reverse_append_singleton (key : String) :
  find? id key (new ++ [row]).reverse =
    if id row = key then some row else find? id key new.reverse
  := by
  rw [List.reverse_concat, find?]
  by_cases hid : id row = key
  · rw [if_pos hid]
    apply List.find?_cons_of_pos
    exact beq_iff_eq.2 hid
  · rw [if_neg hid]
    apply List.find?_cons_of_neg
    exact mt beq_iff_eq.1 hid

/-- Of the rows with one id, the last one that was put in is found. -/
theorem find?_putAll (new rows : List ρ) (key : String) :
  find? id key (putAll id new rows) = (find? id key new.reverse).or (find? id key rows)
  := by
  induction new using List.reverseRecOn with
  | nil => rfl
  | append_singleton new row ih =>
    rw [putAll_concat, find?_put, ih, find?_reverse_append_singleton]
    by_cases hid : id row = key
    · rw [if_pos hid, if_pos hid]
      rfl
    · rw [if_neg hid, if_neg hid]

/-- Of the rows with one id, the last one that was put in stands in the table. -/
theorem mem_putAll {r : ρ} :
  r ∈ putAll id new rows ↔
    find? id (id r) new.reverse = some r ∨ find? id (id r) new.reverse = none ∧ r ∈ rows
  := by
  induction new using List.reverseRecOn with
  | nil => simp [putAll, find?]
  | append_singleton new row ih =>
    rw [putAll_concat, mem_put, ih, find?_reverse_append_singleton]
    by_cases hid : id row = id r
    · simp [hid, @eq_comm _ r row]
    · have hne : r ≠ row := fun h => hid (congrArg id h.symm)
      simp [hid, Ne.symm hid, hne]

theorem nodup_putAll (new : List ρ) (h : (rows.map id).Nodup) :
  ((putAll id new rows).map id).Nodup
  := by
  induction new generalizing rows with
  | nil => exact h
  | cons row rest ih => exact ih (nodup_put h)

/-- Rows whose ids are all in the table take the places of the rows with these ids. -/
theorem putAll_of_exists (h : ∀ s ∈ new, ∃ r ∈ rows, id r = id s) :
  putAll id new rows = rows.map fun r => (find? id (id r) new.reverse).getD r
  := by
  -- The row that is put in last is the one that stays, so the induction takes away the last one.
  induction new using List.reverseRecOn with
  | nil => exact (List.map_id' rows).symm
  | append_singleton new row ih =>
    have hinit : ∀ s ∈ new, ∃ r ∈ rows, id r = id s :=
      fun s hs => h s (List.mem_append_left _ hs)
    have hid : ∀ r, id ((find? id (id r) new.reverse).getD r) = id r := by
      intro r
      rcases hf : find? id (id r) new.reverse with _ | s
      · rfl
      · exact (mem_of_find? hf).2
    obtain ⟨r, hr, hrow⟩ := h row (List.mem_append_right _ List.mem_cons_self)
    rw [putAll_concat, ih hinit, put_of_exists, List.map_map]
    · apply List.map_congr_left
      intro s _
      rw [Function.comp_apply, hid, find?_reverse_append_singleton]
      by_cases hs : id s = id row
      · simp [hs]
      · simp [hs, Ne.symm hs]
    · exact ⟨_, List.mem_map_of_mem hr, (hid r).trans hrow⟩

/-- Putting the same rows in once more changes nothing. -/
theorem putAll_putAll (new rows : List ρ) :
  putAll id new (putAll id new rows) = putAll id new rows
  := by
  have hids : ∀ s ∈ new, ∃ r ∈ putAll id new rows, id r = id s := by
    intro s hs
    rcases hf : find? id (id s) new.reverse with _ | r
    · cases find?_eq_none_iff.1 hf s (List.mem_reverse.2 hs) rfl
    · obtain ⟨-, hid⟩ := mem_of_find? hf
      exact ⟨r, mem_putAll.2 (.inl (hid ▸ hf)), hid⟩
  rw [putAll_of_exists hids]
  apply (List.map_congr_left _).trans (List.map_id' _)
  intro r hr
  obtain hlast | ⟨hnone, -⟩ := mem_putAll.1 hr
  · rw [hlast]
    rfl
  · rw [hnone]
    rfl

end putAll

/-! ### Deleting -/

theorem mem_erase {key : String} {r : ρ} :
  r ∈ erase id key rows ↔ r ∈ rows ∧ id r ≠ key
  := by
  simp [erase]

/-- Putting a row in changes none of the others. -/
theorem erase_put (row : ρ) (rows : List ρ) :
  erase id (id row) (put id row rows) = erase id (id row) rows
  := by
  by_cases he : ∃ r ∈ rows, id r = id row
  · rw [put_of_exists he, erase, List.filter_map, erase]
    have hkept : (fun r => id r != id row) ∘ (fun r => if id r == id row then row else r) =
        fun r => id r != id row := by
      funext r
      exact congrArg (· != id row) (id_replace id row r)
    rw [hkept]
    have hsame : ∀ r ∈ rows.filter fun r => id r != id row,
        (if id r == id row then row else r) = r := by
      intro r hr
      obtain ⟨-, hid⟩ := List.mem_filter.1 hr
      exact if_neg (mt beq_iff_eq.1 (bne_iff_ne.1 hid))
    exact (List.map_congr_left hsame).trans (List.map_id' _)
  · have hne : ∀ r ∈ rows, id r ≠ id row := by simpa using he
    rw [put_of_forall_ne hne, erase, List.filter_append, List.filter_singleton, bne_self_eq_false]
    exact List.append_nil _

theorem nodup_erase (key : String) (h : (rows.map id).Nodup) :
  ((erase id key rows).map id).Nodup
  := List.Nodup.sublist (List.filter_sublist.map id) h

theorem find?_erase (key other : String) :
  find? id other (erase id key rows) = if other = key then none else find? id other rows
  := by
  by_cases h : other = key
  · subst h
    rw [if_pos rfl]
    apply find?_eq_none_iff.2
    intro r hr
    apply (mem_erase.1 hr).2
  · rw [if_neg h, find?, erase, List.find?_filter, find?]
    congr 1
    funext r
    by_cases hr : id r = other
    · simp [hr, h]
    · simp [hr]

/-! ### Order -/

theorem byId_perm (id : ρ → String) (rows : List ρ) :
  (byId id rows).Perm rows
  := List.mergeSort_perm _ _

theorem pairwise_byId (id : ρ → String) (rows : List ρ) :
  (byId id rows).Pairwise fun r s => id r ≤ id s
  := by
  apply (List.pairwise_mergeSort _ _ rows).imp
  · exact of_decide_eq_true
  · intro r s t hrs hst
    exact decide_eq_true (String.le_trans (of_decide_eq_true hrs) (of_decide_eq_true hst))
  · intro r s
    rw [← Bool.decide_or]
    exact decide_eq_true (String.le_total (id r) (id s))

/-- The same rows have the same order of ids, however they stand. -/
theorem byId_eq_of_perm {rows' : List ρ} (h : (rows.map id).Nodup) (hp : rows'.Perm rows) :
  byId id rows' = byId id rows
  := by
  apply List.Perm.eq_of_pairwise _ (pairwise_byId id rows') (pairwise_byId id rows)
  · exact ((byId_perm id rows').trans hp).trans (byId_perm id rows).symm
  · intro r s hr hs hrs hsr
    have hr' := hp.mem_iff.1 ((byId_perm id rows').mem_iff.1 hr)
    have hs' := (byId_perm id rows).mem_iff.1 hs
    exact List.inj_on_of_nodup_map h hr' hs' (String.le_antisymm hrs hsr)

/-- Where a row stands in the order of a column and of the ids. -/
def place (column id : ρ → String) (r : ρ) : String ×ₗ String :=
  toLex (column r, id r)

theorem byColumn_perm (column id : ρ → String) (rows : List ρ) :
  (byColumn column id rows).Perm rows
  := List.mergeSort_perm _ _

theorem pairwise_byColumn (column id : ρ → String) (rows : List ρ) :
  ((byColumn column id rows).map (place column id)).Pairwise (· ≤ ·)
  := by
  have hle : ∀ r s, (decide (column r < column s) ||
      (column r == column s && decide (id r ≤ id s))) = true ↔
        place column id r ≤ place column id s := by
    intro r s
    simp [place, Prod.Lex.toLex_le_toLex]
  rw [List.pairwise_map]
  apply (List.pairwise_mergeSort _ _ rows).imp
  · intro r s
    exact (hle r s).1
  · intro r s t hrs hst
    exact (hle r t).2 (le_trans ((hle r s).1 hrs) ((hle s t).1 hst))
  · intro r s
    rw [Bool.or_eq_true, hle, hle]
    exact le_total _ _

/-- Rows that stand in the order of a column and of the ids are the table in that order. -/
theorem byColumn_eq_of_perm {column : ρ → String} {rows' : List ρ} (h : (rows.map id).Nodup)
    (hp : rows'.Perm rows) (hrows : (rows'.map (place column id)).Pairwise (· ≤ ·)) :
  byColumn column id rows = rows'
  := by
  have hperm := (byColumn_perm column id rows).trans hp.symm
  have hordered := List.pairwise_map.1 (pairwise_byColumn column id rows)
  apply hperm.eq_of_pairwise _ hordered (List.pairwise_map.1 hrows)
  intro r s hr hs hrs hsr
  have hr' := (byColumn_perm column id rows).mem_iff.1 hr
  have hs' := hp.mem_iff.1 hs
  have hplace := congrArg (fun p => (ofLex p).2) (le_antisymm hrs hsr)
  exact List.inj_on_of_nodup_map h hr' hs' hplace

end Keyring.Table

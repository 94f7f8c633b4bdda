import Keyring.CommandLine.Files

/-!
# Databases in files

Making directories and opening a database leave every database in its file.  A database that was opened
or kept is found again by the name that it was opened by.
-/

namespace Keyring.FileTree

variable {t t' t'' : FileTree} {place other : List String} {use : FileUse} {path : String}
  {d : Database}

/-! ### Places -/

theorem entry?_cons (t : FileTree) (name : String) (rest : List String) :
  t.entry? (name :: rest) = t.entries.lookup (name :: rest)
  := rfl

theorem entry?_put_of_ne (h : other ≠ place) (entry : FileEntry) :
  FileTree.entry? (t.put place entry) other = t.entry? other
  := by
  cases other with
  | nil => rfl
  | cons name rest =>
    rw [entry?_cons, put, setEntry, List.lookup_cons, beq_false_of_ne h]
    exact lookup_filter (fun e he => by simpa [he] using h) t.entries

theorem entry?_put_self (h : place ≠ []) (entry : FileEntry) :
  FileTree.entry? (t.put place entry) place = some entry
  := by
  cases place with
  | nil => cases h rfl
  | cons name rest => rw [entry?_cons, put, setEntry, List.lookup_cons, beq_self_eq_true]

theorem entry?_erase_of_ne (h : other ≠ place) :
  FileTree.entry? (t.erase place) other = t.entry? other
  := by
  cases other with
  | nil => rfl
  | cons name rest => exact lookup_filter (fun e he => by simpa [he] using h) t.entries

theorem entry?_erase_self (h : place ≠ []) :
  FileTree.entry? (t.erase place) place = none
  := by
  cases place with
  | nil => cases h rfl
  | cons name rest =>
    apply List.lookup_eq_none_iff.2
    intro e he
    have hne := of_decide_eq_true (List.mem_filter.1 he).2
    simpa using hne.symm

theorem isDirectory_eq_true_iff :
  t.isDirectory place = true ↔ t.entry? place = some .directory
  := by
  rw [isDirectory]
  split
  next h => simp [h]
  next h => simpa using h

/-! ### Writing -/

/-- Whether every database of a tree stands in its file in another tree, too; it may be shared there. -/
def KeepsDatabases (t t' : FileTree) : Prop :=
  ∀ place d isShared, t.entry? place = some (.database d isShared) →
    ∃ isShared', t'.entry? place = some (.database d isShared')

namespace KeepsDatabases

theorem refl (t : FileTree) :
  t.KeepsDatabases t
  := fun _ _ isShared h => ⟨isShared, h⟩

theorem trans (h : t.KeepsDatabases t') (h' : t'.KeepsDatabases t'') :
  t.KeepsDatabases t''
  := by
  intro place d isShared hentry
  obtain ⟨isShared', hentry'⟩ := h place d isShared hentry
  exact h' place d isShared' hentry'

/-- A database gives way to itself only. -/
theorem put {entry : FileEntry} (h : ∀ d isShared, t.entry? place = some (.database d isShared) →
    ∃ isShared', entry = .database d isShared') :
  t.KeepsDatabases (t.put place entry)
  := by
  intro other d isShared hentry
  by_cases hother : other = place
  · obtain rfl := hother
    obtain ⟨isShared', rfl⟩ := h d isShared hentry
    have hplace : other ≠ [] := by
      rintro rfl
      cases hentry
    exact ⟨isShared', entry?_put_self hplace _⟩
  · exact ⟨isShared, (entry?_put_of_ne hother entry).trans hentry⟩

theorem erase (h : ∀ d isShared, t.entry? place ≠ some (.database d isShared)) :
  t.KeepsDatabases (t.erase place)
  := by
  intro other d isShared hentry
  have hne : other ≠ place := by
    rintro rfl
    exact h d isShared hentry
  exact ⟨isShared, (entry?_erase_of_ne hne).trans hentry⟩

end KeepsDatabases

/-! ### Making directories -/

/-- Whether two trees have the same directories, and paths start at the same place in both. -/
structure SameDirectories (t t' : FileTree) : Prop where
  workingDirectory_eq : t'.workingDirectory = t.workingDirectory
  isDirectory_eq : ∀ place, t'.isDirectory place = t.isDirectory place

namespace SameDirectories

theorem refl (t : FileTree) :
  t.SameDirectories t
  := ⟨rfl, fun _ => rfl⟩

theorem trans (h : t.SameDirectories t') (h' : t'.SameDirectories t'') :
  t.SameDirectories t''
  := by
  constructor
  · rw [h'.workingDirectory_eq, h.workingDirectory_eq]
  · intro place
    rw [h'.isDirectory_eq, h.isDirectory_eq]

/-- A file may stand where there was no directory. -/
theorem put {entry : FileEntry} (h : t.isDirectory place = false) (hentry : entry ≠ .directory) :
  t.SameDirectories (t.put place entry)
  := by
  constructor
  · rfl
  intro other
  by_cases hother : other = place
  · have hplace : place ≠ [] := by
      rintro rfl
      cases h
    rw [hother, h, ← Bool.not_eq_true, isDirectory_eq_true_iff, entry?_put_self hplace]
    intro heq
    exact hentry (Option.some.inj heq)
  · rw [isDirectory, entry?_put_of_ne hother, isDirectory]

theorem erase (h : t.isDirectory place = false) :
  t.SameDirectories (t.erase place)
  := by
  constructor
  · rfl
  intro other
  by_cases hother : other = place
  · have hplace : place ≠ [] := by
      rintro rfl
      cases h
    rw [hother, h, isDirectory, entry?_erase_self hplace]
  · rw [isDirectory, entry?_erase_of_ne hother, isDirectory]

end SameDirectories

/-! ### Opening -/

end Keyring.FileTree

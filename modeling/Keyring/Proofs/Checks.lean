import Mathlib.Tactic.Use

/-!
# Checks and readers

A chain of checks passes if each of them does, and a list is read if each of its items is.  A
reader that is undone by a writer on every item is undone on the list.  A reader fails with failures of
one sort if each of its parts does.
-/

namespace Except

variable {ε ε' α β : Type}

/-- A sequence succeeds if both of its parts do. -/
theorem bind_eq_ok_iff {x : Except ε α} {f : α → Except ε β} {b : β} :
  x >>= f = .ok b ↔ ∃ a, x = .ok a ∧ f a = .ok b
  := by
  rcases x with e | a
  · constructor
    · intro h
      cases h
    · rintro ⟨a, h, -⟩
      cases h
  · constructor
    · intro h
      exact ⟨a, rfl, h⟩
    · rintro ⟨b, h, hf⟩
      cases h
      exact hf

@[simp]
theorem ok_bind (a : α) (f : α → Except ε β) :
  (.ok a : Except ε α) >>= f = f a
  := rfl

/-- What follows a failure is not done. -/
@[simp]
theorem error_bind (e : ε) (f : α → Except ε β) :
  (.error e : Except ε α) >>= f = .error e
  := rfl

/-- A sequence fails if one of its parts does, and those before it succeed. -/
theorem bind_eq_error_iff {x : Except ε α} {f : α → Except ε β} {e : ε} :
  x >>= f = .error e ↔ x = .error e ∨ ∃ a, x = .ok a ∧ f a = .error e
  := by
  rcases x with e' | a
  · simp
  · simp

@[simp]
theorem throw_bind (e : ε) (f : α → Except ε β) :
  (throw e : Except ε α) >>= f = throw e
  := rfl

/-- What follows a choice follows either side of it. -/
theorem ite_bind (c : Prop) [Decidable c] (x y : Except ε α) (f : α → Except ε β) :
  (if c then x else y) >>= f = if c then x >>= f else y >>= f
  := by
  split
  · rfl
  · rfl

@[simp]
theorem throw_ne_ok (e : ε) (a : α) :
  (throw e : Except ε α) ≠ .ok a
  := by
  rintro ⟨⟩

@[simp]
theorem mapError_ok (f : ε → ε') (a : α) :
  (.ok a : Except ε α).mapError f = .ok a
  := rfl

@[simp]
theorem mapError_error (f : ε → ε') (e : ε) :
  (.error e : Except ε α).mapError f = .error (f e)
  := rfl

@[simp]
theorem mapError_eq_ok_iff {f : ε → ε'} {x : Except ε α} {a : α} :
  x.mapError f = .ok a ↔ x = .ok a
  := by
  rcases x with e | b
  · simp
  · simp

theorem map_eq_ok_iff {f : α → β} {x : Except ε α} {b : β} :
  f <$> x = .ok b ↔ ∃ a, x = .ok a ∧ f a = b
  := by
  rw [← bind_pure_comp, bind_eq_ok_iff]
  simp [pure, Except.pure]

/-- All items pass a check if each one does. -/
theorem forM_eq_ok_iff {f : α → Except ε Unit} {xs : List α} :
  xs.forM f = .ok () ↔ ∀ x ∈ xs, f x = .ok ()
  := by
  induction xs with
  | nil => simp [pure, Except.pure]
  | cons x rest ih =>
    rw [List.forall_mem_cons, ← ih]
    apply bind_eq_ok_iff.trans
    constructor
    · rintro ⟨_, hx, hrest⟩
      exact ⟨hx, hrest⟩
    · rintro ⟨hx, hrest⟩
      exact ⟨(), hx, hrest⟩

/-- A list can be read if each of its items can. -/
theorem exists_mapM_eq_ok {f : α → Except ε β} {xs : List α} (h : ∀ x ∈ xs, ∃ y, f x = .ok y) :
  ∃ ys, xs.mapM f = .ok ys
  := by
  induction xs with
  | nil => exact ⟨[], rfl⟩
  | cons x rest ih =>
    rw [List.forall_mem_cons] at h
    obtain ⟨y, hy⟩ := h.1
    obtain ⟨ys, hys⟩ := ih h.2
    use y :: ys
    rw [List.mapM_cons, hy]
    simp [hys, bind, Except.bind, pure, Except.pure]

/-- An item that may be absent is read if it can be read where it is there. -/
theorem exists_mapM_option {f : α → Except ε β} {a? : Option α} (h : ∀ a ∈ a?, ∃ b, f a = .ok b) :
  ∃ b?, a?.mapM f = .ok b?
  := by
  rcases a? with _ | a
  · exact ⟨none, rfl⟩
  · obtain ⟨b, hb⟩ := h a rfl
    use some b
    rw [Option.mapM_some, hb]
    rfl

/-- An item that may be absent is read as something if it is there and is read as that. -/
theorem mapM_option_eq_some_iff {f : α → Except ε β} {a? : Option α} {b : β} :
  a?.mapM f = .ok (some b) ↔ ∃ a, a? = some a ∧ f a = .ok b
  := by
  rcases a? with _ | a
  · simp [pure, Except.pure]
  · rw [Option.mapM_some]
    exact (map_eq_ok_iff (f := some)).trans (by simp)

/-- A list is not read if one of its items is not; the failure is that of the item, if there is only
one that the items can have. -/
theorem mapM_eq_error {f : α → Except ε β} {xs : List α} {e : ε}
    (h : ∀ x ∈ xs, f x = .error e ∨ ∃ y, f x = .ok y) (he : ∃ x ∈ xs, f x = .error e) :
  xs.mapM f = .error e
  := by
  induction xs with
  | nil =>
    obtain ⟨x, hx, -⟩ := he
    cases hx
  | cons x rest ih =>
    rw [List.forall_mem_cons] at h
    rw [List.mapM_cons]
    rcases h.1 with hx | ⟨y, hy⟩
    · rw [hx, error_bind]
    · have hrest : ∃ x ∈ rest, f x = .error e := by
        obtain ⟨x', hx', he⟩ := he
        rcases List.mem_cons.1 hx' with rfl | hx'
        · cases hy.symm.trans he
        · exact ⟨x', hx', he⟩
      rw [hy, ok_bind, ih h.2 hrest, error_bind]

/-- Whatever was read was read from one of the items. -/
theorem exists_mem_of_mapM_eq_ok {f : α → Except ε β} {xs : List α} {ys : List β} {y : β}
    (h : xs.mapM f = .ok ys) (hy : y ∈ ys) :
  ∃ x ∈ xs, f x = .ok y
  := by
  induction xs generalizing ys with
  | nil =>
    rw [List.mapM_nil] at h
    cases h
    cases hy
  | cons x rest ih =>
    rw [List.mapM_cons] at h
    obtain ⟨z, hz, h⟩ := bind_eq_ok_iff.1 h
    obtain ⟨zs, hzs, h⟩ := bind_eq_ok_iff.1 h
    cases h
    rcases List.mem_cons.1 hy with rfl | hy
    · exact ⟨x, List.mem_cons_self, hz⟩
    · obtain ⟨x', hx', hy'⟩ := ih hzs hy
      exact ⟨x', List.mem_cons_of_mem _ hx', hy'⟩

/-- Each of the items was read. -/
theorem exists_mem_of_mem_of_mapM_eq_ok {f : α → Except ε β} {xs : List α} {ys : List β} {x : α}
    (h : xs.mapM f = .ok ys) (hx : x ∈ xs) :
  ∃ y ∈ ys, f x = .ok y
  := by
  induction xs generalizing ys with
  | nil => cases hx
  | cons x' rest ih =>
    rw [List.mapM_cons] at h
    obtain ⟨z, hz, h⟩ := bind_eq_ok_iff.1 h
    obtain ⟨zs, hzs, h⟩ := bind_eq_ok_iff.1 h
    cases h
    rcases List.mem_cons.1 hx with rfl | hx
    · exact ⟨z, List.mem_cons_self, hz⟩
    · obtain ⟨y, hy, hread⟩ := ih hzs hx
      exact ⟨y, List.mem_cons_of_mem _ hy, hread⟩

/-- What was read is written as it stood, if this holds of each item. -/
theorem map_of_mapM_eq_ok {f : α → Except ε β} {g : β → α} {xs : List α} {ys : List β}
    (h : xs.mapM f = .ok ys) (hg : ∀ x ∈ xs, ∀ y, f x = .ok y → g y = x) :
  ys.map g = xs
  := by
  induction xs generalizing ys with
  | nil =>
    rw [List.mapM_nil] at h
    cases h
    rfl
  | cons x rest ih =>
    rw [List.mapM_cons] at h
    obtain ⟨y, hy, h⟩ := bind_eq_ok_iff.1 h
    obtain ⟨zs, hzs, h⟩ := bind_eq_ok_iff.1 h
    cases h
    rw [List.forall_mem_cons] at hg
    rw [List.map_cons, hg.1 y hy, ih hzs hg.2]

/-- What was written is read as it was, if this holds of each item. -/
theorem mapM_map_of_forall {f : α → Except ε β} {g : β → α} {ys : List β}
    (h : ∀ y ∈ ys, f (g y) = .ok y) :
  (ys.map g).mapM f = .ok ys
  := by
  induction ys with
  | nil => rfl
  | cons y rest ih =>
    rw [List.forall_mem_cons] at h
    rw [List.map_cons, List.mapM_cons, h.1, ok_bind, ih h.2, ok_bind]
    rfl

/-! ### Failures of one sort -/

variable {P : ε → Prop}

/-- Whether a reader fails with nothing but failures of one sort. -/
def FailsOnlyWith (P : ε → Prop) (x : Except ε α) : Prop :=
  ∀ e, x = .error e → P e

theorem failsOnlyWith_ok (P : ε → Prop) (a : α) :
  (.ok a : Except ε α).FailsOnlyWith P
  := by
  rintro e ⟨⟩

theorem failsOnlyWith_throw {e : ε} (h : P e) :
  (throw e : Except ε α).FailsOnlyWith P
  := by
  rintro _ ⟨⟩
  exact h

theorem failsOnlyWith_mapError {f : ε' → ε} (h : ∀ e, P (f e)) (x : Except ε' α) :
  (x.mapError f).FailsOnlyWith P
  := by
  rcases x with e | a
  · rintro _ ⟨⟩
    apply h
  · rintro _ ⟨⟩

theorem FailsOnlyWith.bind {x : Except ε α} {f : α → Except ε β} (hx : x.FailsOnlyWith P)
    (hf : ∀ a, (f a).FailsOnlyWith P) :
  (x >>= f).FailsOnlyWith P
  := by
  intro e h
  rcases bind_eq_error_iff.1 h with h | ⟨a, -, h⟩
  · exact hx e h
  · exact hf a e h

theorem FailsOnlyWith.guard {c : Prop} [Decidable c] {e : ε} {x : Except ε α} (he : P e)
    (hx : x.FailsOnlyWith P) :
  (if c then throw e else x).FailsOnlyWith P
  := by
  split
  · exact failsOnlyWith_throw he
  · exact hx

end Except

/-- What was written is read as it was, if this holds of each item. -/
theorem Option.mapM_map_of_forall {α β : Type} {f : α → Option β} {g : β → α} {xs : List β}
    (h : ∀ x ∈ xs, f (g x) = some x) :
  (xs.map g).mapM f = some xs
  := by
  induction xs with
  | nil => rfl
  | cons x rest ih =>
    rw [List.forall_mem_cons] at h
    rw [List.map_cons, List.mapM_cons, h.1, ih h.2]
    rfl

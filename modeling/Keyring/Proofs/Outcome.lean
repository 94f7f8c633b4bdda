/-!
# Outcomes

A computation with a state that can fail has an outcome in every state: a result or a failure,
and the state after it.  The outcome of a sequence follows from those of its parts.  A
computation keeps a view of the state if it leaves it as it is; it is atomic for a view if it
leaves it as it is when it fails.  It yields a property if whatever it returns has that.  It respects
a likeness of states if it does the same in states that are alike.
-/

namespace ExceptT

variable {ε σ α β γ : Type}

/-- The result of a computation in a state, and the state after it. -/
def outcome (x : ExceptT ε (StateM σ) α) (s : σ) : Except ε α × σ :=
  x.run s

@[simp]
theorem outcome_pure (a : α) (s : σ) :
  (pure a : ExceptT ε (StateM σ) α).outcome s = (.ok a, s)
  := rfl

@[simp]
theorem outcome_throw (e : ε) (s : σ) :
  (throw e : ExceptT ε (StateM σ) α).outcome s = (.error e, s)
  := rfl

@[simp]
theorem outcome_get (s : σ) :
  (get : ExceptT ε (StateM σ) σ).outcome s = (.ok s, s)
  := rfl

@[simp]
theorem outcome_set (s s' : σ) :
  (set s' : ExceptT ε (StateM σ) PUnit).outcome s = (.ok ⟨⟩, s')
  := rfl

@[simp]
theorem outcome_modify (f : σ → σ) (s : σ) :
  (modify f : ExceptT ε (StateM σ) PUnit).outcome s = (.ok ⟨⟩, f s)
  := rfl

theorem outcome_bind (x : ExceptT ε (StateM σ) α) (f : α → ExceptT ε (StateM σ) β) (s : σ) :
  (x >>= f).outcome s =
    match x.outcome s with
    | (.ok a, s') => (f a).outcome s'
    | (.error e, s') => (.error e, s')
  := by
  change (match x.outcome s with
    | (r, s') => (ExceptT.bindCont f r s' : Except ε β × σ)) = _
  rcases x.outcome s with ⟨_ | a, s'⟩ <;> rfl

@[simp]
theorem outcome_map (f : α → β) (x : ExceptT ε (StateM σ) α) (s : σ) :
  (f <$> x).outcome s = ((x.outcome s).1.map f, (x.outcome s).2)
  := by
  rw [← bind_pure_comp, outcome_bind]
  rcases x.outcome s with ⟨_ | a, s'⟩ <;> rfl

theorem outcome_ite {c : Prop} [Decidable c] (x y : ExceptT ε (StateM σ) α) (s : σ) :
  (if c then x else y).outcome s = if c then x.outcome s else y.outcome s
  := apply_ite (·.outcome s) c x y

/-- What follows a failure is not run. -/
@[simp]
theorem throw_bind (e : ε) (f : α → ExceptT ε (StateM σ) β) :
  (throw e : ExceptT ε (StateM σ) α) >>= f = throw e
  := rfl

/-- A sequence continues where its first part succeeds. -/
theorem outcome_bind_of_ok {x : ExceptT ε (StateM σ) α} {s s' : σ} {a : α}
    (h : x.outcome s = (.ok a, s')) (f : α → ExceptT ε (StateM σ) β) :
  (x >>= f).outcome s = (f a).outcome s'
  := by
  rw [outcome_bind, h]

/-- A sequence fails where its first part fails. -/
theorem outcome_bind_of_error {x : ExceptT ε (StateM σ) α} {s s' : σ} {e : ε}
    (h : x.outcome s = (.error e, s')) (f : α → ExceptT ε (StateM σ) β) :
  (x >>= f).outcome s = (.error e, s')
  := by
  rw [outcome_bind, h]

/-- A sequence succeeds if both of its parts do. -/
theorem outcome_bind_eq_ok_iff {x : ExceptT ε (StateM σ) α} {f : α → ExceptT ε (StateM σ) β}
    {s s' : σ} {b : β} :
  (x >>= f).outcome s = (.ok b, s') ↔
    ∃ a t, x.outcome s = (.ok a, t) ∧ (f a).outcome t = (.ok b, s')
  := by
  constructor
  · intro h
    rcases hx : x.outcome s with ⟨e | a, t⟩
    · rw [outcome_bind_of_error hx] at h
      cases h
    · rw [outcome_bind_of_ok hx] at h
      exact ⟨a, t, rfl, h⟩
  · rintro ⟨a, t, hx, hf⟩
    rw [outcome_bind_of_ok hx, hf]

/-- What stands behind a check succeeds if the check passes and it succeeds itself. -/
theorem outcome_guard_eq_ok_iff {c : Prop} [Decidable c] {e : ε} {x : ExceptT ε (StateM σ) α}
    {s s' : σ} {a : α} :
  (if c then throw e else x).outcome s = (.ok a, s') ↔ ¬c ∧ x.outcome s = (.ok a, s')
  := by
  by_cases h : c
  · simp [h]
  · simp [h]

/-! ### Properties that are yielded -/

/-- Whether everything that a computation returns has a property. -/
def Yields (P : α → Prop) (x : ExceptT ε (StateM σ) α) : Prop :=
  ∀ s a s', x.outcome s = (.ok a, s') → P a

theorem Yields.bind {P : β → Prop} {f : α → ExceptT ε (StateM σ) β} (h : ∀ a, (f a).Yields P)
    (x : ExceptT ε (StateM σ) α) :
  (x >>= f).Yields P
  := by
  intro s b s' hb
  obtain ⟨a, t, -, hf⟩ := outcome_bind_eq_ok_iff.1 hb
  exact h a t b s' hf

/-! ### Views that are kept -/

/-- Whether a computation leaves a view of the state as it is. -/
def Keeps (view : σ → γ) (x : ExceptT ε (StateM σ) α) : Prop :=
  ∀ s, view (x.outcome s).2 = view s

/-- Whether a computation leaves a view of the state as it is when it fails. -/
def IsAtomic (view : σ → γ) (x : ExceptT ε (StateM σ) α) : Prop :=
  ∀ s e s', x.outcome s = (.error e, s') → view s' = view s

variable {view : σ → γ} {x : ExceptT ε (StateM σ) α} {f : α → ExceptT ε (StateM σ) β}

theorem Keeps.isAtomic (h : x.Keeps view) :
  x.IsAtomic view
  := by
  intro s e s' hx
  have hs := h s
  rw [hx] at hs
  apply hs

theorem keeps_pure (a : α) :
  (pure a : ExceptT ε (StateM σ) α).Keeps view
  := fun _ => rfl

theorem keeps_throw (e : ε) :
  (throw e : ExceptT ε (StateM σ) α).Keeps view
  := fun _ => rfl

theorem keeps_get :
  (get : ExceptT ε (StateM σ) σ).Keeps view
  := fun _ => rfl

theorem Keeps.bind (hx : x.Keeps view) (hf : ∀ a, (f a).Keeps view) :
  (x >>= f).Keeps view
  := by
  intro s
  have hs := hx s
  rcases hr : x.outcome s with ⟨e | a, t⟩
  · rw [outcome_bind_of_error hr]
    rw [hr] at hs
    apply hs
  · rw [outcome_bind_of_ok hr, hf a t]
    rw [hr] at hs
    apply hs

theorem Keeps.guard {c : Prop} [Decidable c] {e : ε} (h : x.Keeps view) :
  (if c then throw e else x).Keeps view
  := by
  by_cases hc : c
  · rw [if_pos hc]
    apply keeps_throw
  · rw [if_neg hc]
    apply h

theorem IsAtomic.guard {c : Prop} [Decidable c] {e : ε} (h : x.IsAtomic view) :
  (if c then throw e else x).IsAtomic view
  := by
  by_cases hc : c
  · rw [if_pos hc]
    apply (keeps_throw e).isAtomic
  · rw [if_neg hc]
    apply h

/-- An atomic computation may follow one that changes nothing. -/
theorem Keeps.bind_isAtomic (hx : x.Keeps view) (hf : ∀ a, (f a).IsAtomic view) :
  (x >>= f).IsAtomic view
  := by
  intro s e s' h
  have hs := hx s
  rcases hr : x.outcome s with ⟨e' | a, t⟩
  · rw [outcome_bind_of_error hr] at h
    rw [hr] at hs
    obtain ⟨-, rfl⟩ := Prod.mk.inj h
    apply hs
  · rw [outcome_bind_of_ok hr] at h
    rw [hr] at hs
    apply Eq.trans (hf a t e s' h) hs

/-- What cannot fail may follow an atomic computation. -/
theorem IsAtomic.bind_of_isOk (hx : x.IsAtomic view) (hf : ∀ a s, ((f a).outcome s).1.isOk = true) :
  (x >>= f).IsAtomic view
  := by
  intro s e s' h
  rcases hr : x.outcome s with ⟨e' | a, t⟩
  · rw [outcome_bind_of_error hr] at h
    obtain ⟨-, rfl⟩ := Prod.mk.inj h
    exact hx s e' t hr
  · rw [outcome_bind_of_ok hr] at h
    have hok := hf a t
    rw [h] at hok
    cases hok

theorem Keeps.mapM {f : α → ExceptT ε (StateM σ) β} (h : ∀ a, (f a).Keeps view) (as : List α) :
  (as.mapM f).Keeps view
  := by
  induction as with
  | nil =>
    rw [List.mapM_nil]
    apply keeps_pure
  | cons a as ih =>
    rw [List.mapM_cons]
    apply (h a).bind
    intro b
    apply ih.bind
    intro bs
    apply keeps_pure

/-- A computation that cannot fail is atomic. -/
theorem isAtomic_of_isOk (h : ∀ s, (x.outcome s).1.isOk = true) :
  x.IsAtomic view
  := by
  intro s e s' hx
  have hok := h s
  rw [hx] at hok
  cases hok

/-! ### States that are alike -/

variable {R : σ → σ → Prop}

/-- Whether a computation gives the same result in states that are alike, and leaves states that are
alike. -/
def Respects (R : σ → σ → Prop) (x : ExceptT ε (StateM σ) α) : Prop :=
  ∀ s t, R s t → (x.outcome s).1 = (x.outcome t).1 ∧ R (x.outcome s).2 (x.outcome t).2

theorem respects_pure (a : α) :
  (pure a : ExceptT ε (StateM σ) α).Respects R
  := fun _ _ h => ⟨rfl, h⟩

theorem respects_throw (e : ε) :
  (throw e : ExceptT ε (StateM σ) α).Respects R
  := fun _ _ h => ⟨rfl, h⟩

theorem Respects.bind {x : ExceptT ε (StateM σ) α} {f : α → ExceptT ε (StateM σ) β}
    (hx : x.Respects R) (hf : ∀ a, (f a).Respects R) :
  (x >>= f).Respects R
  := by
  intro s t h
  obtain ⟨hresult, hafter⟩ := hx s t h
  rw [outcome_bind, outcome_bind]
  rcases hs : x.outcome s with ⟨e | a, s'⟩
  · rcases ht : x.outcome t with ⟨e' | a', t'⟩
    · rw [hs, ht] at hresult hafter
      exact ⟨congrArg Except.error (Except.error.inj hresult), hafter⟩
    · rw [hs, ht] at hresult
      cases hresult
  · rcases ht : x.outcome t with ⟨e' | a', t'⟩
    · rw [hs, ht] at hresult
      cases hresult
    · rw [hs, ht] at hresult hafter
      obtain rfl := Except.ok.inj hresult
      exact hf a s' t' hafter

theorem Respects.guard {c : Prop} [Decidable c] {e : ε} {x : ExceptT ε (StateM σ) α}
    (h : x.Respects R) :
  (if c then throw e else x).Respects R
  := by
  by_cases hc : c
  · rw [if_pos hc]
    apply respects_throw
  · rw [if_neg hc]
    apply h

end ExceptT

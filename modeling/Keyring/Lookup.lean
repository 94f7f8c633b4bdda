import Keyring.Failure

/-!
# Lookups

Looking for something sealed ends in one of three ways: it is found and opens, it is not
there, or it is there and does not open.
-/

namespace Keyring

/-- The outcome of a lookup. -/
inductive Lookup (α : Type) where
  | found (value : α)
  | notFound
  | failed (error : StoreError)

namespace Lookup

variable {α β : Type}

/-- Whether a value was found. -/
def isFound : Lookup α → Bool
  | found _ => true
  | _ => false

/-- Whether there is nothing. -/
def isNotFound : Lookup α → Bool
  | notFound => true
  | _ => false

/-- Whether there is something that does not open. -/
def isFailed : Lookup α → Bool
  | failed _ => true
  | _ => false

/-- The outcome of a computation that yields nothing where there is nothing. -/
def ofResult : Except StoreError (Option α) → Lookup α
  | .ok (some a) => found a
  | .ok none => notFound
  | .error e => failed e

/-- The outcome as the result of a computation. -/
def toResult : Lookup α → Except StoreError (Option α)
  | found a => .ok (some a)
  | notFound => .ok none
  | failed e => .error e

/-- The outcome with a function applied to the value. -/
def map (f : α → β) : Lookup α → Lookup β
  | found a => found (f a)
  | notFound => notFound
  | failed e => failed e

@[simp]
theorem ofResult_toResult (l : Lookup α) :
  ofResult l.toResult = l
  := by
  cases l <;> rfl

@[simp]
theorem toResult_ofResult (r : Except StoreError (Option α)) :
  (ofResult r).toResult = r
  := by
  cases r with
  | error e => rfl
  | ok a => cases a <;> rfl

end Lookup

end Keyring

import Keyring.Instant.Calendar

/-!
# Instants

A point of universal time, to the nanosecond.  Leap seconds are not counted, but an instant may
lie within one: then its nanoseconds, counted from the start of the second before, go on
beyond one second.
-/

namespace Keyring

/-- Whether seconds from the start of 1970 and nanoseconds make an instant: the date lies
within the calendar, and nanoseconds beyond one second occur at the end of a minute only. -/
def Instant.IsValid (seconds : Int) (nanos : Nat) : Prop :=
  Date.toDays ⟨Date.minYear, 1, 1⟩ * 86400 ≤ seconds ∧
    seconds < Date.toDays ⟨Date.maxYear + 1, 1, 1⟩ * 86400 ∧
    nanos < 2000000000 ∧ (1000000000 ≤ nanos → seconds % 60 = 59)

instance (seconds : Int) (nanos : Nat) : Decidable (Instant.IsValid seconds nanos) := by
  unfold Instant.IsValid
  infer_instance

/-- A point of universal time. -/
structure Instant where
  /-- The seconds from the start of 1970. -/
  seconds : Int
  /-- The nanoseconds after that. -/
  nanos : Nat
  isValid : Instant.IsValid seconds nanos
deriving DecidableEq

namespace Instant

/-- The instant of the given parts, if they make one. -/
def ofParts? (seconds : Int) (nanos : Nat) : Option Instant :=
  if h : IsValid seconds nanos then some ⟨seconds, nanos, h⟩ else none

/-- The start of 1970. -/
def epoch : Instant := ⟨0, 0, by decide⟩

instance : Inhabited Instant := ⟨epoch⟩

/-- The instant `n` nanoseconds later; at the end of the calendar time stands still. -/
def addNanos (t : Instant) (n : Nat) : Instant :=
  let total := t.nanos + n
  (ofParts? (t.seconds + (total / 1000000000 : Nat)) (total % 1000000000)).getD t

end Instant

end Keyring

import Keyring.Json.Basic

/-!
# Reading records

A record is written as an object, whose members may stand in any order among others that the
record does not know, or as the array of its members in their declared order.  No known
member may be repeated.  A member with a default may be left out, in an array at the end.
-/

namespace Keyring.Json

/-- The known members of a record that are present. -/
structure Members where
  present : List (String × Json)
  /-- Whether the record is written as an array. -/
  isPositional : Bool

/-- The members of a record with the given names. -/
def members? (names : List String) : Json → Option Members
  | object members =>
    let known := members.filter fun m => names.contains m.1
    if (known.map Prod.fst).Nodup then some ⟨known, false⟩ else none
  | array items => if items.length ≤ names.length then some ⟨names.zip items, true⟩ else none
  | _ => none

namespace Members

/-- The value of a member. -/
def get? (m : Members) (name : String) : Option Json :=
  m.present.lookup name

/-- A member that must be there. -/
def required {α : Type} (m : Members) (name : String) (read : Json → Option α) : Option α :=
  m.get? name >>= read

/-- A member that has a default. -/
def defaulted {α : Type} (m : Members) (name : String) (read : Json → Option α) (default : α) :
    Option α :=
  match m.get? name with
  | some j => read j
  | none => some default

end Members

/-- A value that may be `null`. -/
def nullable? {α : Type} (read : Json → Option α) : Json → Option (Option α)
  | null => some none
  | j => (read j).map some

namespace Members

/-- A member that may be missing or `null`. -/
def optional {α : Type} (m : Members) (name : String) (read : Json → Option α) :
    Option (Option α) :=
  m.defaulted name (nullable? read) none

/-- A member that may be `null`, and missing in an object only. -/
def nullableMember {α : Type} (m : Members) (name : String) (read : Json → Option α) :
    Option (Option α) :=
  if m.isPositional then m.required name (nullable? read) else m.optional name read

end Members

/-! ### Single values -/

/-- A string. -/
def string? : Json → Option String
  | string s => some s
  | _ => none

/-- An integer. -/
def int? : Json → Option Int
  | nat n => some n
  | decimal true mantissa 0 => some (-mantissa)
  | _ => none

/-- A natural number of at most 32 bits. -/
def uint32? : Json → Option UInt32
  | nat n => if n < UInt32.size then some (UInt32.ofNat n) else none
  | _ => none

/-- A natural number of at most 64 bits. -/
def uint64? : Json → Option UInt64
  | nat n => if n < UInt64.size then some (UInt64.ofNat n) else none
  | _ => none

/-- A list. -/
def list? {α : Type} (read : Json → Option α) : Json → Option (List α)
  | array items => items.mapM read
  | _ => none

end Keyring.Json

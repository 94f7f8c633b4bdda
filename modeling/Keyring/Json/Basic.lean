import Keyring.Binary64
import Keyring.Text.Digits

/-!
# JSON values

The values that JSON texts denote.  The members of an object keep their order and may repeat a
name: what that means is up to the reader of the object.  Numbers that are written as natural
numbers stand apart from all others, as records hold no others; of the others the digits count
that fit 64 bits.  A text may be well formed and yet hold escapes that spell no Unicode text;
such a part is `garbled`, and can be skipped but not read.
-/

namespace Keyring

/-- A JSON value. -/
inductive Json where
  | null
  | bool (b : Bool)
  /-- A number written as digits alone. -/
  | nat (n : Nat)
  /-- Any other number, `mantissa * 10 ^ exponent` up to its sign and to further digits. -/
  | decimal (negative : Bool) (mantissa : Nat) (exponent : Int)
  | string (s : String)
  /-- A string, or an object with a member name, that holds a lone surrogate. -/
  | garbled
  | array (items : List Json)
  | object (members : List (String × Json))

namespace Json

/-- An integer. -/
def ofInt : Int → Json
  | .ofNat n => nat n
  | .negSucc n => decimal true (n + 1) 0

/-- The mantissa and the exponent of a number that is written with the digits of a whole part
and of a fraction.  Digits that do not fit 64 bits are dropped. -/
def significand (whole fraction : List Char) : Nat × Int :=
  let (n, left) := Text.leadingDigits UInt64.size 0 whole
  let (n, dropped) := Text.leadingDigits UInt64.size n fraction
  (n, left.length - ((fraction.length : Int) - dropped.length))

/-- Whether `mantissa * 10 ^ exponent` is small enough for a floating-point number of 64 bits,
when both factors are rounded before they are multiplied. -/
def isFloatable (mantissa : Nat) (exponent : Int) : Bool :=
  if mantissa = 0 || exponent < 0 then true
  else if 308 < exponent then false
  else
    let product? := do
      (← Binary64.ofNat? mantissa).mul? (← Binary64.ofNat? (Nat.pow 10 exponent.natAbs))
    product?.isSome

/-- Whether a natural number fits 64 bits or is small enough for a floating-point number. -/
def isFloatableNat (n : Nat) : Bool :=
  if n < UInt64.size then true
  else
    let (mantissa, exponent) := significand (Nat.toDigits 10 n) []
    isFloatable mantissa exponent

mutual

/-- Whether every part of a value can be read, and no more than `levels` arrays and objects
stand within each other. -/
def isReadable (levels : Nat) : Json → Bool
  | null | bool _ | string _ => true
  | nat n => isFloatableNat n
  | decimal _ mantissa exponent => isFloatable mantissa exponent
  | garbled => false
  | array items => 0 < levels && areReadable (levels - 1) items
  | object members => 0 < levels && areMembersReadable (levels - 1) members

/-- Whether all items can be read. -/
def areReadable (levels : Nat) : List Json → Bool
  | [] => true
  | j :: rest => isReadable levels j && areReadable levels rest

/-- Whether all members can be read. -/
def areMembersReadable (levels : Nat) : List (String × Json) → Bool
  | [] => true
  | m :: rest => isReadable levels m.2 && areMembersReadable levels rest

end

end Json

end Keyring

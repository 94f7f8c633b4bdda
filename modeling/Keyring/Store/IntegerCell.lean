import Keyring.Binary64
import Keyring.Text.Digits

/-!
# Columns of integers

A column of integers holds whatever is put into it.  A text that writes a number becomes that
number: an integer if nothing is lost thereby, and a floating-point number otherwise.  Any
other text stays as it is.  Only integers can be read again.
-/

namespace Keyring

/-- The value of a column of integers. -/
inductive IntegerCell where
  | integer (i : Int)
  /-- A floating-point number, which is infinite when it has no magnitude. -/
  | real (isNegative : Bool) (magnitude : Option Binary64)
  | text (s : String)
deriving DecidableEq

/-- A number as a text writes it. -/
structure NumberText where
  isNegative : Bool
  /-- The digits before the point. -/
  whole : List Char
  /-- The digits after the point, if there is one. -/
  fraction : Option (List Char)
  exponent : Option Int
deriving DecidableEq

namespace NumberText

open Text (digitsValue number?)

/-! ### Reading -/

/-- Whether a character may stand around a number. -/
def isSpace (c : Char) : Bool :=
  c = ' ' || ('\t' ≤ c && c ≤ '\r')

/-- A sign, if there is one: whether it is a minus, and the text after it. -/
def readSign : List Char → Bool × List Char
  | '-' :: s => (true, s)
  | '+' :: s => (false, s)
  | s => (false, s)

/-- The digits after a point, if there is one. -/
def readFraction : List Char → Option (List Char) × List Char
  | '.' :: s => (some (s.takeWhile Char.isDigit), s.dropWhile Char.isDigit)
  | s => (none, s)

/-- The exponent that makes up all of a text, which may be empty; `none` for any other text. -/
def readExponent : List Char → Option (Option Int)
  | [] => some none
  | c :: s =>
    if c = 'e' || c = 'E' then
      let (isNegative, digits) := readSign s
      (number? digits).map fun n => some (if isNegative then -(n : Int) else n)
    else none

/-- The number that characters write, with spaces around it. -/
def ofChars? (s : List Char) : Option NumberText := do
  let s := ((s.dropWhile isSpace).reverse.dropWhile isSpace).reverse
  let (isNegative, s) := readSign s
  let whole := s.takeWhile Char.isDigit
  let (fraction, s) := readFraction (s.dropWhile Char.isDigit)
  let exponent ← readExponent s
  if whole.isEmpty && (fraction.getD []).isEmpty then none
  else some ⟨isNegative, whole, fraction, exponent⟩

/-! ### Values -/

/-- Digits are read until their number reaches this one. -/
def enough : Nat := 1844674407370955160

/-- The number that the digits after those of `n` write, as far as they are read, and how many
digits are left. -/
def readDigits (n : Nat) : List Char → Nat × Nat
  | [] => (n, 0)
  | c :: rest =>
    if n < enough then readDigits (10 * n + (c.toNat - 48)) rest else (n, rest.length + 1)

/-- The floating-point number nearest to the magnitude of the number, unless it is too large. -/
def magnitude (t : NumberText) : Option Binary64 :=
  let fraction := t.fraction.getD []
  let (n, left) := readDigits 0 t.whole
  let (n, dropped) := readDigits n fraction
  let exponent := t.exponent.getD 0 + left - ((fraction.length : Int) - dropped)
  if exponent < -400 then Binary64.ofNat? 0
  else if 400 < exponent && n ≠ 0 then none
  else Binary64.ofDecimal? n (min exponent 400)

/-- An integer of which the magnitude is given. -/
def signed (t : NumberText) (n : Nat) : Int :=
  if t.isNegative then -(n : Int) else n

/-- Whether an integer has at most 64 bits with its sign. -/
def fits (i : Int) : Bool :=
  -9223372036854775808 ≤ i && i < 9223372036854775808

/-- The value of a number in a column of integers. -/
def toCell (t : NumberText) : IntegerCell :=
  let i := t.signed (digitsValue t.whole)
  if t.fraction.isNone && t.exponent.isNone && fits i then .integer i
  else
    match t.magnitude.bind Binary64.toNat? with
    | some n =>
      if n < 9223372036854775808 then .integer (t.signed n)
      else .real t.isNegative t.magnitude
    | none => .real t.isNegative t.magnitude

end NumberText

namespace IntegerCell

/-- The value of a text. -/
def ofText (s : String) : IntegerCell :=
  match NumberText.ofChars? s.toList with
  | some t => t.toCell
  | none => .text s

/-- The integer, if the value is one. -/
def integer? : IntegerCell → Option Int
  | integer i => some i
  | _ => none

/-- Whether the value is at least one; texts are larger than all numbers. -/
def isPositive : IntegerCell → Bool
  | integer i => 1 ≤ i
  | real isNegative (some x) => !isNegative && 1 ≤ x.floor
  | real isNegative none => !isNegative
  | text _ => true

end IntegerCell

end Keyring

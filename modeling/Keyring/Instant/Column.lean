import Keyring.Instant.Text

/-!
# Instants in columns

A column of the database holds an instant as a text, which may have been put there by other
hands.  Such a text is read in two ways.  The free one lets blanks stand before numbers, and
lets seconds and zone be absent; a zone that no clock keeps counts as none.  The fixed one
wants every number in full, and allows small letters instead.
-/

namespace Keyring.Instant

open Text (skipBlanks isBlank digitsValue)

/-! ### The free form -/

/-- A number of one or two digits, with blanks before it. -/
def readLoose (s : List Char) : Option (Nat × List Char) :=
  readNumber 2 (skipBlanks s)

/-- The seconds and nanoseconds after the minute, if there are any. -/
def readSeconds : List Char → Option (Nat × Nat × List Char)
  | ':' :: s => do
    let (second, s) ← readLoose s
    let (nanos, s) ← readFraction s
    return (second, nanos, s)
  | s => some (0, 0, s)

/-- Hours and minutes after the sign of a zone, in seconds. -/
def readLooseOffset (s : List Char) : Option (Nat × List Char) := do
  let (hours, s) ← readTwoDigits s
  let (minutes, s) ← readTwoDigits (s.dropWhile fun c => c = ':' || isBlank c)
  if minutes < 60 then some (hours * 3600 + minutes * 60, s) else none

/-- The zone that all of a text denotes, as the seconds by which it is ahead. -/
def looseZone? : List Char → Option Int
  | [] => some 0
  | ['Z'] => some 0
  | s =>
    let offset? (s : List Char) : Option Nat :=
      (readLooseOffset s).bind fun r => if r.2.isEmpty then some r.1 else none
    match skipBlanks s with
    | '+' :: s => (offset? s).map fun n => (n : Int)
    | '-' :: s => (offset? s).map fun n => -(n : Int)
    | '\u2212' :: s => (offset? s).map fun n => -(n : Int)
    | _ => none

/-- The instant that characters denote in the free form. -/
def ofLoose? (s : List Char) : Option Instant := do
  let (year, s) ← readYear (skipBlanks s)
  let (month, s) ← readLoose (← expect '-' s)
  let (day, s) ← readLoose (← expect '-' s)
  let s := match s with
    | 'T' :: s => s
    | s => s
  let (hour, s) ← readLoose s
  let (minute, s) ← readLoose (← expect ':' s)
  let (second, nanos, s) ← readSeconds s
  let zone ← looseZone? s
  let here := ofLocal? ⟨year, month, day⟩ hour minute second nanos
  (if zone.natAbs < 86400 then here zone else none).or (here 0)

/-! ### The fixed form -/

/-- The zone that all of a text denotes, as the seconds by which it is ahead. -/
def fixedZone? : List Char → Option Int
  | ['+', a, b, ':', c, d] =>
    (readOffset [a, b, c, d]).map fun r => (r.1 : Int)
  | [sign, a, b, ':', c, d] =>
    if sign = '-' || sign = '\u2212' then
      (readOffset [a, b, c, d]).map fun r => -(r.1 : Int)
    else none
  | [c] => if c = 'Z' || c = 'z' then some 0 else none
  | _ => none

/-- The instant that characters denote in the fixed form. -/
def ofFixed? : List Char → Option Instant
  | y₁ :: y₂ :: y₃ :: y₄ :: '-' :: m₁ :: m₂ :: '-' :: d₁ :: d₂ :: separator ::
    h₁ :: h₂ :: ':' :: n₁ :: n₂ :: ':' :: s₁ :: s₂ :: rest => do
    let digits := [y₁, y₂, y₃, y₄, m₁, m₂, d₁, d₂, h₁, h₂, n₁, n₂, s₁, s₂]
    if digits.all Char.isDigit && (separator = 'T' || separator = 't' || separator = ' ') then
      let (nanos, rest) ← readFraction rest
      let zone ← fixedZone? rest
      ofLocal? ⟨digitsValue [y₁, y₂, y₃, y₄], digitsValue [m₁, m₂], digitsValue [d₁, d₂]⟩
        (digitsValue [h₁, h₂]) (digitsValue [n₁, n₂]) (digitsValue [s₁, s₂]) nanos zone
    else none
  | _ => none

/-! ### Both forms -/

/-- The instant that the text of a column denotes. -/
def ofColumn? (s : String) : Option Instant :=
  (ofLoose? s.toList).or (ofFixed? s.toList)

end Keyring.Instant

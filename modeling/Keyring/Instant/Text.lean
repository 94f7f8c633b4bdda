import Keyring.Instant.Basic
import Keyring.Text.Blank
import Keyring.Text.Digits

/-!
# Instants as text

An instant is written as date, `T`, time of day and zone, with no fraction of the second or
with 3, 6 or 9 digits of it, whichever is the least exact number.  Years that do not have four
digits carry a sign, and a leap second has the number 60.  The reader accepts more: numbers
with fewer digits, white space, other zones, and any fraction.
-/

namespace Keyring.Instant

open Text (skipBlanks isBlank digitsValue)

/-! ### Writing -/

/-- A number in at least `width` decimal digits. -/
def writePadded (width n : Nat) : List Char :=
  let ds := Nat.toDigits 10 n
  List.replicate (width - ds.length) '0' ++ ds

/-- A year. -/
def writeYear (year : Int) : List Char :=
  if 0 ≤ year && year ≤ 9999 then writePadded 4 year.natAbs
  else (if year < 0 then '-' else '+') :: writePadded 4 year.natAbs

/-- The fraction of a second. -/
def writeFraction (nanos : Nat) : List Char :=
  if nanos = 0 then []
  else if nanos % 1000000 = 0 then '.' :: writePadded 3 (nanos / 1000000)
  else if nanos % 1000 = 0 then '.' :: writePadded 6 (nanos / 1000)
  else '.' :: writePadded 9 nanos

/-- An instant, without its zone. -/
def writeLocal (t : Instant) : List Char :=
  let date := Date.ofDays (t.seconds / 86400)
  let second := (t.seconds % 86400).toNat
  writeYear date.year ++ '-' :: writePadded 2 date.month ++ '-' :: writePadded 2 date.day ++
    'T' :: writePadded 2 (second / 3600) ++ ':' :: writePadded 2 (second / 60 % 60) ++
    ':' :: writePadded 2 (second % 60 + t.nanos / 1000000000) ++
    writeFraction (t.nanos % 1000000000)

/-- The text of an instant in records. -/
def text (t : Instant) : String :=
  String.ofList (t.writeLocal ++ ['Z'])

/-- The text of an instant in the database. -/
def storedText (t : Instant) : String :=
  String.ofList (t.writeLocal ++ ['+', '0', '0', ':', '0', '0'])

/-! ### Reading -/

/-- A number of one to `width` digits. -/
def readNumber (width : Nat) (s : List Char) : Option (Nat × List Char) :=
  let ds := (s.take width).takeWhile Char.isDigit
  if ds.isEmpty then none else some (digitsValue ds, s.drop ds.length)

/-- A year: with a sign any number of digits, without one at most four. -/
def readYear : List Char → Option (Int × List Char)
  | '-' :: s => (readNumber s.length s).map fun r => (-(r.1 : Int), r.2)
  | '+' :: s => (readNumber s.length s).map fun r => ((r.1 : Int), r.2)
  | s => (readNumber 4 s).map fun r => ((r.1 : Int), r.2)

/-- The text after a given character. -/
def expect (c : Char) : List Char → Option (List Char)
  | x :: rest => if x = c then some rest else none
  | [] => none

/-- A number after a separator, with white space around the separator. -/
def readNext (separator : Char) (width : Nat) (s : List Char) : Option (Nat × List Char) := do
  let s ← expect separator (skipBlanks s)
  readNumber width (skipBlanks s)

/-- The nanoseconds of a fraction, if there is one; digits after the ninth are dropped. -/
def readFraction : List Char → Option (Nat × List Char)
  | '.' :: s =>
    let ds := s.takeWhile Char.isDigit
    if ds.isEmpty then none
    else
      let kept := ds.take 9
      some (digitsValue kept * Nat.pow 10 (9 - kept.length), s.drop ds.length)
  | s => some (0, s)

/-- Exactly two digits. -/
def readTwoDigits : List Char → Option (Nat × List Char)
  | a :: b :: s => if a.isDigit && b.isDigit then some (digitsValue [a, b], s) else none
  | _ => none

/-- Hours and minutes after the sign of a zone, in seconds; less than a day. -/
def readOffset (s : List Char) : Option (Nat × List Char) := do
  let (hours, s) ← readTwoDigits s
  let (minutes, s) ← readTwoDigits (s.dropWhile fun c => c = ':' || isBlank c)
  if hours < 24 && minutes < 60 then
    return (hours * 3600 + minutes * 60, s)
  else
    none

/-- A zone, as the seconds by which it is ahead of universal time. -/
def readZone : List Char → Option (Int × List Char)
  | 'Z' :: s => some (0, s)
  | 'z' :: s => some (0, s)
  | '+' :: s => (readOffset s).map fun r => ((r.1 : Int), r.2)
  | '-' :: s => (readOffset s).map fun r => (-(r.1 : Int), r.2)
  | '\u2212' :: s => (readOffset s).map fun r => (-(r.1 : Int), r.2)
  | a :: b :: c :: s =>
    if [a, b, c].map Char.toUpper = ['U', 'T', 'C'] then some (0, s) else none
  | _ => none

/-- The instant of a date, a time of day and a zone, if they exist. -/
def ofLocal? (date : Date) (hour minute second nanos : Nat) (zone : Int) : Option Instant :=
  if date.isValid && hour < 24 && minute < 60 && second ≤ 60 then
    let (second, nanos) := if second = 60 then (59, 1000000000 + nanos) else (second, nanos)
    ofParts? (date.toDays * 86400 + (hour * 3600 + minute * 60 + second : Nat) - zone) nanos
  else none

/-- The instant that characters denote. -/
def ofChars? (s : List Char) : Option Instant := do
  let (year, s) ← readYear (skipBlanks s)
  let (month, s) ← readNext '-' 2 s
  let (day, s) ← readNext '-' 2 s
  let s ← match s with
    | 'T' :: s => some s
    | 't' :: s => some s
    | ' ' :: s => some s
    | _ => none
  let (hour, s) ← readNumber 2 (skipBlanks s)
  let (minute, s) ← readNext ':' 2 s
  let (second, s) ← readNext ':' 2 s
  let (nanos, s) ← readFraction s
  let (zone, s) ← readZone (skipBlanks s)
  if (skipBlanks s).isEmpty then
    ofLocal? ⟨year, month, day⟩ hour minute second nanos zone
  else
    none

/-- The instant that a text denotes. -/
def ofText? (s : String) : Option Instant :=
  ofChars? s.toList

end Keyring.Instant

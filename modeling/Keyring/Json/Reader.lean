import Keyring.Json.Basic
import Keyring.Text.Digits

/-!
# Reading JSON

A text is read strictly: one value, with white space around its tokens, and nothing after it.
Readers of a part return the rest of the text.  The recursion is bounded by the length of the
text, twice, since every item takes at least one character and two calls.
-/

namespace Keyring.Json

open Text (digitsValue hexValue?)

/-- Whether a character is white space between tokens. -/
def isSpace (c : Char) : Bool :=
  c = ' ' || c = '\n' || c = '\r' || c = '\t'

/-- The text without white space at its start. -/
def skipSpaces (s : List Char) : List Char :=
  s.dropWhile isSpace

/-! ### Strings -/

/-- A part of a string. -/
inductive Piece where
  | char (c : Char)
  /-- An escape for one half of a character beyond the basic plane. -/
  | surrogate (u : Nat)

/-- The part that four hexadecimal digits stand for. -/
def hexPiece? (a b c d : Char) : Option Piece := do
  let n := (((← hexValue? a) * 16 + (← hexValue? b)) * 16 + (← hexValue? c)) * 16 + (← hexValue? d)
  return if 0xd800 ≤ n && n ≤ 0xdfff then .surrogate n else .char (Char.ofNat n)

/-- The character that stands for the letter of a short escape. -/
def shortEscape? (c : Char) : Option Char :=
  if c = '"' then some '"'
  else if c = '\\' then some '\\'
  else if c = '/' then some '/'
  else if c = 'b' then some '\x08'
  else if c = 'f' then some '\x0c'
  else if c = 'n' then some '\n'
  else if c = 'r' then some '\r'
  else if c = 't' then some '\t'
  else none

/-- The parts of a string up to its closing quote, after the parts in `read`, which stand in
reverse order. -/
def readPieces : (read : List Piece) → List Char → Option (List Piece × List Char)
  | read, '"' :: rest => some (read.reverse, rest)
  | read, '\\' :: 'u' :: a :: b :: c :: d :: rest =>
    match hexPiece? a b c d with
    | some p => readPieces (p :: read) rest
    | none => none
  | read, '\\' :: c :: rest =>
    match shortEscape? c with
    | some x => readPieces (.char x :: read) rest
    | none => none
  | read, c :: rest =>
    if c = '\\' || c.toNat < 32 then none else readPieces (.char c :: read) rest
  | _, [] => none

/-- The text of the parts, with two halves of a character put together; `none` when a half
stands alone. -/
def joinPieces : List Piece → Option (List Char)
  | [] => some []
  | .char c :: rest => (joinPieces rest).map (c :: ·)
  | .surrogate high :: .surrogate low :: rest =>
    if high < 0xdc00 && 0xdc00 ≤ low then
      (joinPieces rest).map
        (Char.ofNat (0x10000 + (high - 0xd800) * 0x400 + (low - 0xdc00)) :: ·)
    else none
  | .surrogate _ :: _ => none

/-- The text of a string after its opening quote; `none` within the pair when it has no text. -/
def readText (s : List Char) : Option (Option String × List Char) :=
  (readPieces [] s).map fun r => ((joinPieces r.1).map String.ofList, r.2)

/-! ### Numbers -/

/-- The digits at the start of a text, of which there must be one. -/
def readDigits (s : List Char) : Option (List Char × List Char) :=
  let ds := s.takeWhile Char.isDigit
  if ds.isEmpty then none else some (ds, s.dropWhile Char.isDigit)

/-- The digits after a decimal point, if there is one. -/
def readFraction : List Char → Option (Option (List Char) × List Char)
  | '.' :: rest => (readDigits rest).map fun r => (some r.1, r.2)
  | s => some (none, s)

/-- The exponent, if there is one. -/
def readExponent : List Char → Option (Option Int × List Char)
  | c :: rest =>
    if c = 'e' || c = 'E' then
      match rest with
      | '-' :: rest => (readDigits rest).map fun r => (some (-(digitsValue r.1 : Int)), r.2)
      | '+' :: rest => (readDigits rest).map fun r => (some (digitsValue r.1 : Int), r.2)
      | rest => (readDigits rest).map fun r => (some (digitsValue r.1 : Int), r.2)
    else some (none, c :: rest)
  | [] => some (none, [])

/-- A number without its sign.  It does not start with a zero, unless that is all of its whole
part. -/
def readUnsigned (negative : Bool) (s : List Char) : Option (Json × List Char) := do
  let (whole, s) ← readDigits s
  if whole.head? = some '0' && whole.length ≠ 1 then
    none
  else
    let (fraction, s) ← readFraction s
    let (exponent, s) ← readExponent s
    match negative, fraction, exponent with
    | false, none, none => return (.nat (digitsValue whole), s)
    | _, _, _ =>
      let (mantissa, shift) := significand whole (fraction.getD [])
      return (.decimal negative mantissa (exponent.getD 0 + shift), s)

/-- A number. -/
def readNumber : List Char → Option (Json × List Char)
  | '-' :: s => readUnsigned true s
  | s => readUnsigned false s

/-! ### Values -/

/-- The object with the given members, as far as their names have a text. -/
def ofMembers (members : List (Option String × Json)) : Json :=
  match members.mapM fun m => m.1.map fun name => (name, m.2) with
  | some members => .object members
  | none => .garbled

mutual

/-- A value, after white space. -/
def readValue : (fuel : Nat) → List Char → Option (Json × List Char)
  | 0, _ => none
  | fuel + 1, s =>
    match skipSpaces s with
    | 'n' :: 'u' :: 'l' :: 'l' :: rest => some (.null, rest)
    | 't' :: 'r' :: 'u' :: 'e' :: rest => some (.bool true, rest)
    | 'f' :: 'a' :: 'l' :: 's' :: 'e' :: rest => some (.bool false, rest)
    | '"' :: rest =>
      (readText rest).map fun r => (match r.1 with | some t => .string t | none => .garbled, r.2)
    | '[' :: rest =>
      match skipSpaces rest with
      | ']' :: rest => some (.array [], rest)
      | rest => (readItems fuel rest).map fun r => (.array r.1, r.2)
    | '{' :: rest =>
      match skipSpaces rest with
      | '}' :: rest => some (.object [], rest)
      | rest => (readMembers fuel rest).map fun r => (ofMembers r.1, r.2)
    | s => readNumber s

/-- The items of an array up to its end, of which there is at least one. -/
def readItems : (fuel : Nat) → List Char → Option (List Json × List Char)
  | 0, _ => none
  | fuel + 1, s =>
    match readValue fuel s with
    | none => none
    | some (j, s) =>
      match skipSpaces s with
      | ']' :: rest => some ([j], rest)
      | ',' :: rest => (readItems fuel rest).map fun r => (j :: r.1, r.2)
      | _ => none

/-- The members of an object up to its end, of which there is at least one. -/
def readMembers : (fuel : Nat) → List Char → Option (List (Option String × Json) × List Char)
  | 0, _ => none
  | fuel + 1, s =>
    match skipSpaces s with
    | '"' :: rest =>
      match readText rest with
      | none => none
      | some (name, s) =>
        match skipSpaces s with
        | ':' :: rest =>
          match readValue fuel rest with
          | none => none
          | some (j, s) =>
            match skipSpaces s with
            | '}' :: rest => some ([(name, j)], rest)
            | ',' :: rest => (readMembers fuel rest).map fun r => ((name, j) :: r.1, r.2)
            | _ => none
        | _ => none
    | _ => none

end

/-- The value that characters denote. -/
def ofChars? (s : List Char) : Option Json :=
  match readValue (2 * s.length + 2) s with
  | some (j, rest) => if (skipSpaces rest).isEmpty then some j else none
  | none => none

/-- The value that a text denotes. -/
def ofText? (s : String) : Option Json :=
  ofChars? s.toList

end Keyring.Json

import Keyring.Json.Basic

/-!
# Writing JSON

A value is written in a compact form without any white space, or in an indented form with one
item or member on each line.  In strings only what has to be escaped is escaped: quotes,
backslashes and control characters.
-/

namespace Keyring.Json

/-- The hexadecimal digit of a number below 16. -/
def hexDigit (n : Nat) : Char :=
  if n < 10 then Char.ofNat (48 + n) else Char.ofNat (87 + n)

/-- A character as it is written in a string. -/
def escape (c : Char) : List Char :=
  if c = '"' then ['\\', '"']
  else if c = '\\' then ['\\', '\\']
  else if c = '\n' then ['\\', 'n']
  else if c = '\r' then ['\\', 'r']
  else if c = '\t' then ['\\', 't']
  else if c = '\x08' then ['\\', 'b']
  else if c = '\x0c' then ['\\', 'f']
  else if c.toNat < 32 then
    ['\\', 'u', '0', '0', hexDigit (c.toNat / 16), hexDigit (c.toNat % 16)]
  else [c]

/-- A string with its quotes. -/
def writeString (s : String) : List Char :=
  '"' :: s.toList.flatMap escape ++ ['"']

/-- A natural number in decimal digits. -/
def writeNat (n : Nat) : List Char :=
  Nat.toDigits 10 n

/-- An integer in decimal digits. -/
def writeInt (i : Int) : List Char :=
  if i < 0 then '-' :: writeNat i.natAbs else writeNat i.natAbs

/-- A value that is neither array nor object. -/
def writeAtom : Json → List Char
  | null => ['n', 'u', 'l', 'l']
  | bool true => ['t', 'r', 'u', 'e']
  | bool false => ['f', 'a', 'l', 's', 'e']
  | nat n => writeNat n
  | decimal negative mantissa exponent =>
    (if negative then ['-'] else []) ++ writeNat mantissa ++
      if negative && exponent = 0 then [] else 'e' :: writeInt exponent
  | string s => writeString s
  | garbled => ['"', '\\', 'u', 'd', '8', '0', '0', '"']
  | array _ => ['[', ']']
  | object _ => ['{', '}']

/-! ### The compact form -/

mutual

/-- A value in the compact form. -/
def writeCompact : Json → List Char
  | array [] => ['[', ']']
  | array (j :: rest) => '[' :: writeCompact j ++ writeItems rest
  | object [] => ['{', '}']
  | object (m :: rest) =>
    '{' :: writeString m.1 ++ ':' :: writeCompact m.2 ++ writeMembers rest
  | j => writeAtom j

/-- The further items of an array, and its end. -/
def writeItems : List Json → List Char
  | [] => [']']
  | j :: rest => ',' :: writeCompact j ++ writeItems rest

/-- The further members of an object, and its end. -/
def writeMembers : List (String × Json) → List Char
  | [] => ['}']
  | m :: rest => ',' :: writeString m.1 ++ ':' :: writeCompact m.2 ++ writeMembers rest

end

/-- The text of a value in the compact form. -/
def compact (j : Json) : String :=
  String.ofList (writeCompact j)

/-! ### The indented form -/

/-- A new line, indented by `depth` steps of two spaces. -/
def newLine (depth : Nat) : List Char :=
  '\n' :: List.replicate (2 * depth) ' '

mutual

/-- A value in the indented form, itself `depth` steps deep. -/
def writeIndented (depth : Nat) : Json → List Char
  | array [] => ['[', ']']
  | array (j :: rest) =>
    '[' :: newLine (depth + 1) ++ writeIndented (depth + 1) j ++ writeIndentedItems depth rest
  | object [] => ['{', '}']
  | object (m :: rest) =>
    '{' :: newLine (depth + 1) ++ writeString m.1 ++ ':' :: ' ' ::
      writeIndented (depth + 1) m.2 ++ writeIndentedMembers depth rest
  | j => writeAtom j

/-- The further items of an array that is `depth` steps deep, and its end. -/
def writeIndentedItems (depth : Nat) : List Json → List Char
  | [] => newLine depth ++ [']']
  | j :: rest =>
    ',' :: newLine (depth + 1) ++ writeIndented (depth + 1) j ++ writeIndentedItems depth rest

/-- The further members of an object that is `depth` steps deep, and its end. -/
def writeIndentedMembers (depth : Nat) : List (String × Json) → List Char
  | [] => newLine depth ++ ['}']
  | m :: rest =>
    ',' :: newLine (depth + 1) ++ writeString m.1 ++ ':' :: ' ' ::
      writeIndented (depth + 1) m.2 ++ writeIndentedMembers depth rest

end

/-- The text of a value in the indented form. -/
def pretty (j : Json) : String :=
  String.ofList (writeIndented 0 j)

end Keyring.Json

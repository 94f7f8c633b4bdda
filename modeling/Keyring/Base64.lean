import Keyring.Bytes

/-!
# Base64

Texts in the standard alphabet with padding.  Three bytes are written as four symbols of
six bits each; a last group of one or two bytes is filled up with `=`.  Reading is strict:
every byte string has exactly one text, and the text says where it goes wrong otherwise.
-/

namespace Keyring.Base64

/-- Why a text is not base64. -/
inductive DecodeError where
  /-- A byte that is no symbol, or a padding byte where none may stand. -/
  | invalidByte (offset : Nat) (byte : UInt8)
  /-- One symbol is left over after the groups of four. -/
  | invalidLength
  /-- The last symbol has bits that belong to no byte. -/
  | invalidLastSymbol (offset : Nat) (byte : UInt8)
  /-- The padding does not complete the last group. -/
  | invalidPadding
deriving DecidableEq, Repr

/-- The wording of an error. -/
def DecodeError.message : DecodeError → String
  | .invalidByte offset byte => s!"Invalid byte {byte.toNat}, offset {offset}."
  | .invalidLength => "Encoded text cannot have a 6-bit remainder."
  | .invalidLastSymbol offset byte => s!"Invalid last symbol {byte.toNat}, offset {offset}."
  | .invalidPadding => "Invalid padding"

/-- The padding byte, `=`. -/
def pad : UInt8 := 61

/-- The symbol that stands for six bits. -/
def symbol (v : UInt8) : UInt8 :=
  if v < 26 then 65 + v
  else if v < 52 then 97 + (v - 26)
  else if v < 62 then 48 + (v - 52)
  else if v = 62 then 43
  else 47

/-- The six bits that a symbol stands for. -/
def value? (c : UInt8) : Option UInt8 :=
  if 65 ≤ c && c ≤ 90 then some (c - 65)
  else if 97 ≤ c && c ≤ 122 then some (c - 97 + 26)
  else if 48 ≤ c && c ≤ 57 then some (c - 48 + 52)
  else if c = 43 then some 62
  else if c = 47 then some 63
  else none

/-- Whether a byte is one of the 64 symbols. -/
def isSymbol (c : UInt8) : Bool := (value? c).isSome

/-! ### Writing -/

/-- The bytes of the text for `b`. -/
def encodeBytes : Bytes → Bytes
  | [] => []
  | [a] => [symbol (a >>> 2), symbol (a <<< 4 &&& 63), pad, pad]
  | [a, b] => [symbol (a >>> 2), symbol ((a <<< 4 ||| b >>> 4) &&& 63), symbol (b <<< 2 &&& 63), pad]
  | a :: b :: c :: rest =>
    symbol (a >>> 2) :: symbol ((a <<< 4 ||| b >>> 4) &&& 63) ::
      symbol ((b <<< 2 ||| c >>> 6) &&& 63) :: symbol (c &&& 63) :: encodeBytes rest

/-- The text for `b`. -/
def encode (b : Bytes) : String :=
  String.ofList ((encodeBytes b).map fun c => Char.ofNat c.toNat)

/-! ### Reading -/

/-- The bytes that groups of six bits spell; bits left over after the last byte are
dropped. -/
def unpack : Bytes → Bytes
  | a :: b :: c :: d :: rest =>
    (a <<< 2 ||| b >>> 4) :: (b <<< 4 ||| c >>> 2) :: (c <<< 6 ||| d) :: unpack rest
  | [a, b, c] => [a <<< 2 ||| b >>> 4, b <<< 4 ||| c >>> 2]
  | [a, b] => [a <<< 2 ||| b >>> 4]
  | _ => []

/-- The bits of the last of `n` symbols that belong to no byte. -/
def unusedBits (n : Nat) : UInt8 :=
  match n % 4 with
  | 2 => 15
  | 3 => 3
  | _ => 0

/-- Whether `rest` is padding that may follow `n` symbols: at most two `=`, all in the group
that holds the last symbols. -/
def isPadding (n : Nat) (rest : Bytes) : Bool :=
  rest.all (· == pad) && (rest.isEmpty || (2 ≤ n % 4 && n % 4 + rest.length ≤ 4))

/-- The bytes that the UTF-8 bytes of a text spell.  A lone last symbol is reported before
anything else, then the first byte out of place, then missing padding, then bits that are
set in the last symbol and belong to no byte. -/
def decodeBytes (text : Bytes) : Except DecodeError Bytes :=
  let symbols := text.takeWhile isSymbol
  let rest := text.dropWhile isSymbol
  if text.length % 4 = 1 then
    match text.getLast? with
    | some c =>
      if isSymbol c || c == pad then .error .invalidLength
      else .error (.invalidByte (text.length - 1) c)
    | none => .error .invalidLength
  else if !isPadding symbols.length rest then
    .error (.invalidByte symbols.length (rest.headD pad))
  else if text.length % 4 ≠ 0 then
    .error .invalidPadding
  else
    let last := symbols.getLastD 65
    if (value? last).getD 0 &&& unusedBits symbols.length ≠ 0 then
      .error (.invalidLastSymbol (symbols.length - 1) last)
    else
      .ok (unpack (symbols.filterMap value?))

/-- The bytes that a text spells. -/
def decode (text : String) : Except DecodeError Bytes :=
  decodeBytes (Bytes.utf8 text)

/-- The bytes that a text spells, if it is base64. -/
def decode? (text : String) : Option Bytes :=
  (decode text).toOption

end Keyring.Base64

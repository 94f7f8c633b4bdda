import Keyring.Bytes

/-!
# AES-256

The block cipher on blocks of four columns.  A column is a word with the byte of the first row
in its most significant place.  The substitution of bytes is computed from its definition:
inversion in the field of 256 elements followed by an affine map.
-/

namespace Keyring.Aes256

/-! ### Bytes -/

/-- The double of an element of the field of 256 elements. -/
def double (a : UInt8) : UInt8 :=
  if a &&& 0x80 = 0 then a <<< 1 else a <<< 1 ^^^ 0x1b

/-- `sum` plus the product of `a` and the low `n` bits of `b`. -/
def multiplyAdd : (n : Nat) → (a b sum : UInt8) → UInt8
  | 0, _, _, sum => sum
  | n + 1, a, b, sum =>
    multiplyAdd n (double a) (b >>> 1) (if b &&& 1 = 0 then sum else sum ^^^ a)

/-- The product of two elements of the field. -/
def multiply (a b : UInt8) : UInt8 := multiplyAdd 8 a b 0

/-- `a` to the power of 254, the inverse of `a` when `a` is not zero. -/
def inverse (a : UInt8) : UInt8 :=
  let a2 := multiply a a
  let a3 := multiply a2 a
  let a6 := multiply a3 a3
  let a7 := multiply a6 a
  let a14 := multiply a7 a7
  let a15 := multiply a14 a
  let a30 := multiply a15 a15
  let a31 := multiply a30 a
  let a62 := multiply a31 a31
  let a63 := multiply a62 a
  let a126 := multiply a63 a63
  let a127 := multiply a126 a
  multiply a127 a127

/-- The substitution of a byte. -/
def substitute (a : UInt8) : UInt8 :=
  let b := inverse a
  let rotate (n : UInt8) := b <<< n ||| b >>> (8 - n)
  b ^^^ rotate 1 ^^^ rotate 2 ^^^ rotate 3 ^^^ rotate 4 ^^^ 0x63

/-- The substitutions of all bytes. -/
def table : Array UInt32 :=
  (Array.range 256).map fun a => (substitute (UInt8.ofNat a)).toUInt32

/-- The substitution of the lowest byte of a word. -/
@[inline] def look (x : UInt32) : UInt32 :=
  table.getD (x % 256).toNat 0

/-! ### Columns -/

/-- A block, or the key of a round. -/
structure State where
  (c0 c1 c2 c3 : UInt32)

/-- The word with its bits moved left by `n` places, around the end; `n` is 1 to 31. -/
@[inline] def rotateLeft (x n : UInt32) : UInt32 :=
  x <<< n ||| x >>> (32 - n)

/-- The exclusive or of two blocks. -/
@[inline] def State.add (s t : State) : State :=
  ⟨s.c0 ^^^ t.c0, s.c1 ^^^ t.c1, s.c2 ^^^ t.c2, s.c3 ^^^ t.c3⟩

/-- The substituted column whose rows stem from four columns. -/
@[inline] def gather (a b c d : UInt32) : UInt32 :=
  look (a >>> 24) <<< 24 ||| look (b >>> 16) <<< 16 ||| look (c >>> 8) <<< 8 ||| look d

/-- Every byte substituted and the rows shifted. -/
def State.substituteShift (s : State) : State :=
  ⟨gather s.c0 s.c1 s.c2 s.c3, gather s.c1 s.c2 s.c3 s.c0, gather s.c2 s.c3 s.c0 s.c1,
    gather s.c3 s.c0 s.c1 s.c2⟩

/-- The doubles of the four bytes of a column. -/
@[inline] def doubles (w : UInt32) : UInt32 :=
  let high : UInt32 := w >>> 7 &&& 0x01010101
  (w <<< 1 &&& 0xfefefefe) ^^^ high * 0x1b

/-- A column multiplied by the mixing matrix. -/
@[inline] def mixColumn (w : UInt32) : UInt32 :=
  let r := rotateLeft w 8
  doubles (w ^^^ r) ^^^ r ^^^ rotateLeft w 16 ^^^ rotateLeft w 24

/-- All columns multiplied by the mixing matrix. -/
def State.mixColumns (s : State) : State :=
  ⟨mixColumn s.c0, mixColumn s.c1, mixColumn s.c2, mixColumn s.c3⟩

/-! ### Keys and rounds -/

/-- The eight key words after eight key words, as two round keys. -/
def nextKeys (round : UInt32) (k l : State) : State × State :=
  let a0 := k.c0 ^^^ gather (l.c3 <<< 8) (l.c3 <<< 8) (l.c3 <<< 8) (l.c3 >>> 24) ^^^ round <<< 24
  let a1 := k.c1 ^^^ a0
  let a2 := k.c2 ^^^ a1
  let a3 := k.c3 ^^^ a2
  let b0 := l.c0 ^^^ gather a3 a3 a3 a3
  let b1 := l.c1 ^^^ b0
  let b2 := l.c2 ^^^ b1
  let b3 := l.c3 ^^^ b2
  (⟨a0, a1, a2, a3⟩, ⟨b0, b1, b2, b3⟩)

/-- The round keys from two round keys on. -/
def roundKeys : List UInt32 → State → State → List State
  | [], k, _ => [k]
  | round :: rest, k, l =>
    let next := nextKeys round k l
    k :: l :: roundKeys rest next.1 next.2

/-- The word of four bytes, most significant first. -/
def word (a b c d : UInt8) : UInt32 :=
  a.toUInt32 <<< 24 ||| b.toUInt32 <<< 16 ||| c.toUInt32 <<< 8 ||| d.toUInt32

/-- The blocks of a byte string; a last part of less than 16 bytes is filled up with zeroes. -/
def states : Bytes → List State
  | a0 :: a1 :: a2 :: a3 :: b0 :: b1 :: b2 :: b3 :: c0 :: c1 :: c2 :: c3 :: d0 :: d1 :: d2 :: d3 ::
      rest =>
    ⟨word a0 a1 a2 a3, word b0 b1 b2 b3, word c0 c1 c2 c3, word d0 d1 d2 d3⟩ :: states rest
  | [] => []
  | b =>
    let column (i : Nat) :=
      word (b.getD i 0) (b.getD (i + 1) 0) (b.getD (i + 2) 0) (b.getD (i + 3) 0)
    [⟨column 0, column 4, column 8, column 12⟩]

/-- The bytes of a block. -/
def State.bytes (s : State) : Bytes :=
  [s.c0, s.c1, s.c2, s.c3].flatMap fun c => Bytes.bigEndian 4 c.toNat

theorem State.length_bytes (s : State) :
  s.bytes.length = 16
  := by
  simp [State.bytes]

/-- The fifteen round keys of a key. -/
def expand (key : Key) : List State :=
  match states key.bytes with
  | [k, l] => roundKeys [0x01, 0x02, 0x04, 0x08, 0x10, 0x20, 0x40] k l
  | _ => []

/-- The rounds after the first key: all mix the columns but the last. -/
def rounds : List State → State → State
  | [], s => s
  | [k], s => s.substituteShift.add k
  | k :: ks, s => rounds ks (s.substituteShift.mixColumns.add k)

/-- The block enciphered under round keys. -/
def encipher (keys : List State) (s : State) : State :=
  match keys with
  | [] => s
  | k :: ks => rounds ks (s.add k)

end Keyring.Aes256

import Keyring.Bytes

/-!
# BLAKE2b

The unkeyed hash with a digest of 1 to 64 bytes.  A message is cut into 128-byte blocks of
sixteen words each, and every block is mixed into a state of eight words, together with the
number of bytes so far.
-/

namespace Keyring.Blake2b

/-- Sixteen words: a block of the message, or the working state of a round. -/
structure Row where
  (w0 w1 w2 w3 w4 w5 w6 w7 w8 w9 w10 w11 w12 w13 w14 w15 : UInt64)

/-- The eight words of the hash state. -/
structure State where
  (h0 h1 h2 h3 h4 h5 h6 h7 : UInt64)

/-- Four words of the working state. -/
structure Quad where
  (a b c d : UInt64)

/-- The constants that the state starts from. -/
def initial : State :=
  ⟨0x6a09e667f3bcc908, 0xbb67ae8584caa73b, 0x3c6ef372fe94f82b,
    0xa54ff53a5f1d36f1, 0x510e527fade682d1, 0x9b05688c2b3e6c1f,
    0x1f83d9abfb41bd6b, 0x5be0cd19137e2179⟩

/-- For each round, the order in which it takes the words of the block. -/
def schedule : List (List Nat) :=
  [[0, 1, 2, 3, 4, 5, 6, 7, 8, 9, 10, 11, 12, 13, 14, 15],
   [14, 10, 4, 8, 9, 15, 13, 6, 1, 12, 0, 2, 11, 7, 5, 3],
   [11, 8, 12, 0, 5, 2, 15, 13, 10, 14, 3, 6, 7, 1, 9, 4],
   [7, 9, 3, 1, 13, 12, 11, 14, 2, 6, 5, 10, 4, 0, 15, 8],
   [9, 0, 5, 7, 2, 4, 10, 15, 14, 1, 11, 12, 6, 8, 3, 13],
   [2, 12, 6, 10, 0, 11, 8, 3, 4, 13, 7, 5, 15, 14, 1, 9],
   [12, 5, 1, 15, 14, 13, 4, 10, 0, 7, 6, 3, 9, 2, 8, 11],
   [13, 11, 7, 14, 12, 1, 3, 9, 5, 0, 15, 4, 8, 6, 2, 10],
   [6, 15, 14, 9, 11, 3, 0, 8, 12, 2, 13, 7, 1, 4, 10, 5],
   [10, 2, 8, 4, 7, 6, 1, 5, 15, 11, 9, 14, 3, 12, 13, 0],
   [0, 1, 2, 3, 4, 5, 6, 7, 8, 9, 10, 11, 12, 13, 14, 15],
   [14, 10, 4, 8, 9, 15, 13, 6, 1, 12, 0, 2, 11, 7, 5, 3]]

/-- The word with number `i`. -/
def Row.get (m : Row) : (i : Nat) → UInt64
  | 0 => m.w0
  | 1 => m.w1
  | 2 => m.w2
  | 3 => m.w3
  | 4 => m.w4
  | 5 => m.w5
  | 6 => m.w6
  | 7 => m.w7
  | 8 => m.w8
  | 9 => m.w9
  | 10 => m.w10
  | 11 => m.w11
  | 12 => m.w12
  | 13 => m.w13
  | 14 => m.w14
  | _ => m.w15

/-- The words of a block in the given order. -/
def Row.arrange (m : Row) : List Nat → Row
  | [i0, i1, i2, i3, i4, i5, i6, i7, i8, i9, i10, i11, i12, i13, i14, i15] =>
    ⟨m.get i0, m.get i1, m.get i2, m.get i3, m.get i4, m.get i5, m.get i6, m.get i7,
      m.get i8, m.get i9, m.get i10, m.get i11, m.get i12, m.get i13, m.get i14, m.get i15⟩
  | _ => m

/-- The word with its bits moved right by `n` places, around the end; `n` is 1 to 63. -/
@[inline] def rotateRight (x n : UInt64) : UInt64 :=
  x >>> n ||| x <<< (64 - n)

/-- Two words of the block mixed into four words of the working state. -/
@[inline] def mix (a b c d x y : UInt64) : Quad :=
  let a := a + b + x
  let d := rotateRight (d ^^^ a) 32
  let c := c + d
  let b := rotateRight (b ^^^ c) 24
  let a := a + b + y
  let d := rotateRight (d ^^^ a) 16
  let c := c + d
  let b := rotateRight (b ^^^ c) 63
  ⟨a, b, c, d⟩

/-- One round with the block `m`, whose words stand in the order of the round: first the
columns of the working state, then its diagonals. -/
def Row.round (v m : Row) : Row :=
  let x0 := mix v.w0 v.w4 v.w8 v.w12 m.w0 m.w1
  let x1 := mix v.w1 v.w5 v.w9 v.w13 m.w2 m.w3
  let x2 := mix v.w2 v.w6 v.w10 v.w14 m.w4 m.w5
  let x3 := mix v.w3 v.w7 v.w11 v.w15 m.w6 m.w7
  let y0 := mix x0.a x1.b x2.c x3.d m.w8 m.w9
  let y1 := mix x1.a x2.b x3.c x0.d m.w10 m.w11
  let y2 := mix x2.a x3.b x0.c x1.d m.w12 m.w13
  let y3 := mix x3.a x0.b x1.c x2.d m.w14 m.w15
  ⟨y0.a, y1.a, y2.a, y3.a, y3.b, y0.b, y1.b, y2.b,
    y2.c, y3.c, y0.c, y1.c, y1.d, y2.d, y3.d, y0.d⟩

/-- The state with one block mixed in.  `count` is the number of bytes up to the end of the
block, and `last` marks the last block. -/
def compress (h : State) (m : Row) (count : Nat) (last : Bool) : State :=
  let low := UInt64.ofNat count
  let high := UInt64.ofNat (count / UInt64.size)
  let v : Row :=
    ⟨h.h0, h.h1, h.h2, h.h3, h.h4, h.h5, h.h6, h.h7, initial.h0, initial.h1, initial.h2,
      initial.h3, initial.h4 ^^^ low, initial.h5 ^^^ high,
      if last then ~~~ initial.h6 else initial.h6, initial.h7⟩
  let v := schedule.foldl (fun v order => v.round (m.arrange order)) v
  ⟨h.h0 ^^^ v.w0 ^^^ v.w8, h.h1 ^^^ v.w1 ^^^ v.w9, h.h2 ^^^ v.w2 ^^^ v.w10,
    h.h3 ^^^ v.w3 ^^^ v.w11, h.h4 ^^^ v.w4 ^^^ v.w12, h.h5 ^^^ v.w5 ^^^ v.w13,
    h.h6 ^^^ v.w6 ^^^ v.w14, h.h7 ^^^ v.w7 ^^^ v.w15⟩

/-! ### Messages -/

/-- The word of eight bytes, least significant first. -/
def word (a b c d e f g h : UInt8) : UInt64 :=
  a.toUInt64 ||| b.toUInt64 <<< 8 ||| c.toUInt64 <<< 16 ||| d.toUInt64 <<< 24 |||
    e.toUInt64 <<< 32 ||| f.toUInt64 <<< 40 ||| g.toUInt64 <<< 48 ||| h.toUInt64 <<< 56

/-- The words of a byte string whose length is a multiple of eight. -/
def words : Bytes → List UInt64
  | a :: b :: c :: d :: e :: f :: g :: h :: rest => word a b c d e f g h :: words rest
  | _ => []

/-- The rows of a list of words whose length is a multiple of sixteen. -/
def rows : List UInt64 → List Row
  | w0 :: w1 :: w2 :: w3 :: w4 :: w5 :: w6 :: w7 :: w8 :: w9 :: w10 :: w11 :: w12 :: w13 :: w14 :: w15 :: rest =>
    ⟨w0, w1, w2, w3, w4, w5, w6, w7, w8, w9, w10, w11, w12, w13, w14, w15⟩ :: rows rest
  | _ => []

/-- The state with all blocks mixed in; `total` is the length of the message and `count` the
number of bytes before the blocks. -/
def absorb (total : Nat) : (count : Nat) → State → List Row → State
  | _, h, [] => h
  | _, h, [m] => compress h m total true
  | count, h, m :: rest => absorb total (count + 128) (compress h m (count + 128) false) rest

/-- The bytes of a state, eight for each word. -/
def State.bytes (h : State) : Bytes :=
  [h.h0, h.h1, h.h2, h.h3, h.h4, h.h5, h.h6, h.h7].flatMap fun x =>
    Bytes.littleEndian 8 x.toNat

/-- The digest of `size` bytes of a message; `size` is 1 to 64. -/
def hash (size : Nat) (m : Bytes) : Bytes :=
  let filled := if m.isEmpty then 128 else (m.length + 127) / 128 * 128
  let padded := m ++ List.replicate (filled - m.length) 0
  let start : State :=
    { initial with h0 := initial.h0 ^^^ 0x01010000 ^^^ UInt64.ofNat size }
  ((absorb m.length 0 start (rows (words padded))).bytes).take size

theorem State.length_bytes (h : State) :
  h.bytes.length = 64
  := by
  simp [State.bytes]

end Keyring.Blake2b

import Keyring.Hash.Blake2b

/-!
# Argon2id

The memory-hard password hash, version 1.3, with a digest of 32 bytes and neither secret nor
associated data.  The memory is a matrix of pages of 1024 bytes, one row of the matrix for
each lane.  A lane is cut into four segments, and in every pass each page is computed from
the page before it and one other page.  In the first two segments of the first pass the other
page does not depend on the password, afterwards it does.
-/

namespace Keyring.Argon2id

open Blake2b (Row Quad)

/-! ### Pages -/

/-- A page of the memory: 128 words, sixteen in each row. -/
structure Page where
  (r0 r1 r2 r3 r4 r5 r6 r7 : Row)

/-- The row of zeroes. -/
def zeroRow : Row := ⟨0, 0, 0, 0, 0, 0, 0, 0, 0, 0, 0, 0, 0, 0, 0, 0⟩

/-- The page of zeroes. -/
def Page.zero : Page :=
  ⟨zeroRow, zeroRow, zeroRow, zeroRow, zeroRow, zeroRow, zeroRow, zeroRow⟩

/-- The wordwise exclusive or of two rows. -/
def xorRow (a b : Row) : Row :=
  ⟨a.w0 ^^^ b.w0, a.w1 ^^^ b.w1, a.w2 ^^^ b.w2, a.w3 ^^^ b.w3, a.w4 ^^^ b.w4, a.w5 ^^^ b.w5,
    a.w6 ^^^ b.w6, a.w7 ^^^ b.w7, a.w8 ^^^ b.w8, a.w9 ^^^ b.w9, a.w10 ^^^ b.w10,
    a.w11 ^^^ b.w11, a.w12 ^^^ b.w12, a.w13 ^^^ b.w13, a.w14 ^^^ b.w14, a.w15 ^^^ b.w15⟩

/-- The wordwise exclusive or of two pages. -/
def Page.xor (p q : Page) : Page :=
  ⟨xorRow p.r0 q.r0, xorRow p.r1 q.r1, xorRow p.r2 q.r2, xorRow p.r3 q.r3,
    xorRow p.r4 q.r4, xorRow p.r5 q.r5, xorRow p.r6 q.r6, xorRow p.r7 q.r7⟩

/-- The sum of two words and of twice the product of their lower halves. -/
@[inline] def multiplyAdd (x y : UInt64) : UInt64 :=
  x + y + 2 * ((x &&& 0xffffffff) * (y &&& 0xffffffff))

/-- Four words mixed with one another. -/
@[inline] def mix (a b c d : UInt64) : Quad :=
  let a := multiplyAdd a b
  let d := Blake2b.rotateRight (d ^^^ a) 32
  let c := multiplyAdd c d
  let b := Blake2b.rotateRight (b ^^^ c) 24
  let a := multiplyAdd a b
  let d := Blake2b.rotateRight (d ^^^ a) 16
  let c := multiplyAdd c d
  let b := Blake2b.rotateRight (b ^^^ c) 63
  ⟨a, b, c, d⟩

/-- The words of a row mixed with one another, as a matrix of four rows: first its columns,
then its diagonals. -/
def permuteRow (v : Row) : Row :=
  let x0 := mix v.w0 v.w4 v.w8 v.w12
  let x1 := mix v.w1 v.w5 v.w9 v.w13
  let x2 := mix v.w2 v.w6 v.w10 v.w14
  let x3 := mix v.w3 v.w7 v.w11 v.w15
  let y0 := mix x0.a x1.b x2.c x3.d
  let y1 := mix x1.a x2.b x3.c x0.d
  let y2 := mix x2.a x3.b x0.c x1.d
  let y3 := mix x3.a x0.b x1.c x2.d
  ⟨y0.a, y1.a, y2.a, y3.a, y3.b, y0.b, y1.b, y2.b,
    y2.c, y3.c, y0.c, y1.c, y1.d, y2.d, y3.d, y0.d⟩

/-- Every row mixed in itself. -/
def Page.permuteRows (p : Page) : Page :=
  ⟨permuteRow p.r0, permuteRow p.r1, permuteRow p.r2, permuteRow p.r3,
    permuteRow p.r4, permuteRow p.r5, permuteRow p.r6, permuteRow p.r7⟩

/-- The row that takes two words from each row of a page. -/
@[inline] def column (f g : Row → UInt64) (p : Page) : Row :=
  ⟨f p.r0, g p.r0, f p.r1, g p.r1, f p.r2, g p.r2, f p.r3, g p.r3, f p.r4, g p.r4, f p.r5,
    g p.r5, f p.r6, g p.r6, f p.r7, g p.r7⟩

/-- The page as a matrix of pairs of words, with rows and columns exchanged. -/
def Page.transpose (p : Page) : Page :=
  ⟨column Row.w0 Row.w1 p, column Row.w2 Row.w3 p, column Row.w4 Row.w5 p,
    column Row.w6 Row.w7 p, column Row.w8 Row.w9 p, column Row.w10 Row.w11 p,
    column Row.w12 Row.w13 p, column Row.w14 Row.w15 p⟩

/-- The page computed from two pages. -/
def Page.compress (p q : Page) : Page :=
  let sum := p.xor q
  (sum.permuteRows.transpose.permuteRows.transpose).xor sum

/-- The word with number `i`. -/
def Page.get (p : Page) (i : Nat) : UInt64 :=
  let row := match i / 16 with
    | 0 => p.r0
    | 1 => p.r1
    | 2 => p.r2
    | 3 => p.r3
    | 4 => p.r4
    | 5 => p.r5
    | 6 => p.r6
    | _ => p.r7
  row.get (i % 16)

/-- The page of 1024 bytes. -/
def Page.ofBytes (b : Bytes) : Page :=
  match Blake2b.rows (Blake2b.words b) with
  | [r0, r1, r2, r3, r4, r5, r6, r7] => ⟨r0, r1, r2, r3, r4, r5, r6, r7⟩
  | _ => .zero

/-- The bytes of a page. -/
def Page.toBytes (p : Page) : Bytes :=
  (List.range 128).flatMap fun i => Bytes.littleEndian 8 (p.get i).toNat

/-! ### The memory -/

/-- The sizes of one computation. -/
structure Layout where
  /-- The number of passes over the memory. -/
  passes : Nat
  /-- The number of lanes. -/
  lanes : Nat
  /-- The number of pages of a segment. -/
  segment : Nat

/-- The number of pages of a lane. -/
def Layout.lane (l : Layout) : Nat := 4 * l.segment

/-- The number of pages of the memory. -/
def Layout.size (l : Layout) : Nat := l.lanes * l.lane

/-- The memory, one lane after the other. -/
abbrev Memory := Array Page

/-- Where a page stands. -/
structure Position where
  (pass lane slice index : Nat)

/-- The page with number `index` of a lane. -/
def Memory.read (l : Layout) (m : Memory) (lane index : Nat) : Page :=
  m.getD (lane * l.lane + index) .zero

/-- Whether the other page depends on the position alone. -/
def Position.isIndependent (p : Position) : Bool :=
  p.pass == 0 && p.slice < 2

/-- The page of addresses with number `counter` of the segment at a position. -/
def addresses (l : Layout) (p : Position) (counter : Nat) : Page :=
  let words := [p.pass, p.lane, p.slice, l.size, l.passes, 2, counter].map UInt64.ofNat
  let input := match Blake2b.rows (words ++ List.replicate 9 0) with
    | r :: _ => { Page.zero with r0 := r }
    | [] => .zero
  Page.compress .zero (Page.compress .zero input)

/-- The number of pages among which the other page is chosen, in the lane of the position or
in another one. -/
def Position.area (l : Layout) (p : Position) (sameLane : Bool) : Nat :=
  let finished := if p.pass = 0 then p.slice * l.segment else l.lane - l.segment
  if sameLane then finished + p.index - 1
  else if p.index = 0 then finished - 1
  else finished

/-- Lane and number of the other page, from a random word. -/
def Position.other (l : Layout) (p : Position) (random : UInt64) : Nat × Nat :=
  let lane :=
    if p.pass = 0 && p.slice = 0 then p.lane else (random >>> 32).toNat % l.lanes
  let area := p.area l (lane == p.lane)
  let low := random &&& 0xffffffff
  let back := (UInt64.ofNat area * ((low * low) >>> 32)) >>> 32
  let start := if p.pass = 0 || p.slice = 3 then 0 else (p.slice + 1) * l.segment
  (lane, (start + (area - 1 - back.toNat)) % l.lane)

/-- The memory with the page at a position computed; `address` is the current page of
addresses. -/
def step (l : Layout) (p : Position) (address : Page) (m : Memory) : Memory :=
  let column := p.slice * l.segment + p.index
  let previous := m.read l p.lane (if column = 0 then l.lane - 1 else column - 1)
  let random := if p.isIndependent then address.get (p.index % 128) else previous.get 0
  let (lane, index) := p.other l random
  let page := previous.compress (m.read l lane index)
  let page := if p.pass = 0 then page else page.xor (m.read l p.lane column)
  m.setIfInBounds (p.lane * l.lane + column) page

/-- The memory with `n` pages of a segment computed, from the given position on. -/
def fillPages (l : Layout) : (n : Nat) → Position → (address : Page) → Memory → Memory
  | 0, _, _, m => m
  | n + 1, p, address, m =>
    let address :=
      if p.isIndependent && p.index % 128 = 0 then addresses l p (p.index / 128 + 1)
      else address
    fillPages l n { p with index := p.index + 1 } address (step l p address m)

/-- The memory with one segment computed.  The first two pages of a lane are given. -/
def fillSegment (l : Layout) (pass slice lane : Nat) (m : Memory) : Memory :=
  let p : Position := ⟨pass, lane, slice, 0⟩
  if pass = 0 && slice = 0 then
    fillPages l (l.segment - 2) { p with index := 2 } (addresses l p 1) m
  else
    fillPages l l.segment p .zero m

/-- The memory after all passes. -/
def fill (l : Layout) (m : Memory) : Memory :=
  (List.range l.passes).foldl (fun m pass =>
    (List.range 4).foldl (fun m slice =>
      (List.range l.lanes).foldl (fun m lane => fillSegment l pass slice lane m) m) m) m

/-! ### The digest -/

/-- A number in four bytes. -/
def number (n : Nat) : Bytes := Bytes.littleEndian 4 n

/-- `n` further half digests, each the first half of the digest of the digest before, and
then a last digest of `size` bytes. -/
def stretch (size : Nat) : (n : Nat) → (digest : Bytes) → Bytes
  | 0, digest => Blake2b.hash size digest
  | n + 1, digest =>
    let next := Blake2b.hash 64 digest
    next.take 32 ++ stretch size n next

/-- A page of 1024 digest bytes. -/
def longHash (m : Bytes) : Bytes :=
  let first := Blake2b.hash 64 (number 1024 ++ m)
  first.take 32 ++ stretch 64 29 first

/-- The digest from which the memory starts. -/
def seed (memory iterations lanes : Nat) (password salt : Bytes) : Bytes :=
  Blake2b.hash 64 <|
    number lanes ++ number 32 ++ number memory ++ number iterations ++ number 0x13 ++ number 2 ++
      number password.length ++ password ++ number salt.length ++ salt ++ number 0 ++ number 0

/-- The memory before the first pass: two pages in each lane. -/
def initialMemory (l : Layout) (seed : Bytes) : Memory :=
  (List.range l.lanes).foldl (fun m lane =>
    [0, 1].foldl (fun m i =>
      m.setIfInBounds (lane * l.lane + i)
        (Page.ofBytes (longHash (seed ++ number i ++ number lane)))) m)
    (Array.replicate l.size .zero)

/-- The key derived from a password and a salt with `memory` KiB, in the given number of
passes and lanes. -/
def derive (memory iterations lanes : Nat) (password salt : Bytes) : Key :=
  let l : Layout := ⟨iterations, lanes, memory / (4 * lanes)⟩
  let m := fill l (initialMemory l (seed memory iterations lanes password salt))
  let last := (List.range lanes).foldl
    (fun (p : Page) lane => p.xor (m.read l lane (l.lane - 1))) Page.zero
  .padded 32 (Blake2b.hash 32 (number 32 ++ last.toBytes))

end Keyring.Argon2id

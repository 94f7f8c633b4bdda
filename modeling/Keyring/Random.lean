import Keyring.Hash.Hkdf

/-!
# Random bytes

A source of random bytes hands out blocks.  For every length it has an unending row of
blocks, and it counts how many of each length were taken, so no block is handed out twice.
-/

namespace Keyring

/-- A source of random bytes. -/
structure RandomSource where
  /-- The block of `n` bytes with number `k`. -/
  block : (n k : Nat) → Block n
  /-- How many blocks of `n` bytes were taken. -/
  taken : (n : Nat) → Nat
  /-- Why the source cannot be read, if it cannot. -/
  fault? : Option String

namespace RandomSource

/-- The source with the given blocks, none of them taken. -/
def ofBlocks (block : (n k : Nat) → Block n) : RandomSource :=
  ⟨block, fun _ => 0, none⟩

/-- The source whose blocks are derived from secret bytes. -/
def ofEntropy (entropy : Bytes) : RandomSource :=
  let key := Hmac.prepare (Hkdf.extract none entropy).bytes
  .ofBlocks fun n k =>
    .padded n (Hkdf.blocks key (Bytes.bigEndian 8 n ++ Bytes.bigEndian 8 k) ((n + 31) / 32) 1 [])

/-- The source after one more block of `n` bytes was taken. -/
def advance (r : RandomSource) (n : Nat) : RandomSource :=
  { r with taken := fun m => if m = n then r.taken m + 1 else r.taken m }

/-- The next block of `n` bytes. -/
def next (r : RandomSource) (n : Nat) : Block n :=
  r.block n (r.taken n)

end RandomSource

/-- A computation that takes random bytes. -/
abbrev Draw := StateM RandomSource

/-- Take the next block of `n` bytes. -/
def Draw.block (n : Nat) : Draw (Block n) :=
  fun r => (r.next n, r.advance n)

end Keyring

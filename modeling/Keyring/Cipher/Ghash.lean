import Keyring.Bytes

/-!
# The hash of Galois/counter mode

A block of 16 bytes is an element of the field of `2 ^ 128` elements, its first bit the
coefficient of degree zero.  The hash of a list of blocks is their polynomial evaluated at
the hash key.
-/

namespace Keyring.Ghash

/-- An element of the field. -/
abbrev Element := BitVec 128

/-- The reduction polynomial without its leading term. -/
def reduction : Element := 0xe1#128 <<< 120

/-- The element times the variable. -/
def shift (v : Element) : Element :=
  if v.getLsbD 0 then (v >>> 1) ^^^ reduction else v >>> 1

/-- `sum` plus the product of `v` and the first `n` bits of `x`. -/
def multiplyAdd : (n : Nat) → (x v sum : Element) → Element
  | 0, _, _, sum => sum
  | n + 1, x, v, sum =>
    multiplyAdd n (x <<< 1) (shift v) (if x.msb then sum ^^^ v else sum)

/-- The product of two elements. -/
def multiply (x y : Element) : Element := multiplyAdd 128 x y 0

/-- The element written by 16 bytes. -/
def ofBytes (b : Bytes) : Element :=
  BitVec.ofNat 128 (Bytes.toNatBigEndian b)

/-- The 16 bytes of an element. -/
def toBlock (x : Element) : Block 16 :=
  ⟨Bytes.bigEndian 16 x.toNat, Bytes.length_bigEndian 16 x.toNat⟩

/-- `b` cut into blocks of 16 bytes, the last one filled up with zeroes. -/
def blocks (b : Bytes) : List Element :=
  if _h : b.isEmpty then []
  else ofBytes (b.take 16 ++ List.replicate (16 - b.length) 0) :: blocks (b.drop 16)
termination_by b.length
decreasing_by
  cases b with
  | nil => simp at _h
  | cons x b =>
    rw [List.length_drop, List.length_cons]
    omega

/-- The hash of blocks under the hash key `h`. -/
def hash (h : Element) (xs : List Element) : Element :=
  xs.foldl (fun y x => multiply (y ^^^ x) h) 0

/-- The blocks that are hashed for a ciphertext and its associated data: both, filled up to
whole blocks, and their lengths in bits. -/
def message (associated ciphertext : Bytes) : List Element :=
  blocks associated ++ blocks ciphertext ++
    [ofBytes (Bytes.bigEndian 8 (8 * associated.length) ++
      Bytes.bigEndian 8 (8 * ciphertext.length))]

end Keyring.Ghash

import Keyring.Bytes

/-!
# X25519

The multiplication of a point of Curve25519 by a scalar, on the coordinate `u` alone, by the
Montgomery ladder.  Scalars and coordinates are 32 bytes, least significant byte first.
-/

namespace Keyring.Curve25519

/-- The order of the field. -/
def p : Nat := Nat.pow 2 255 - 19

/-- The sum of two elements. -/
def add (a b : Nat) : Nat := (a + b) % p

/-- The difference of two elements. -/
def sub (a b : Nat) : Nat := (a + p - b) % p

/-- The product of two elements. -/
def mul (a b : Nat) : Nat := (a * b) % p

/-- `sum` times `a` to the power of the low `bits` bits of `n`. -/
def powMul : (bits : Nat) → (a n product : Nat) → Nat
  | 0, _, _, product => product
  | bits + 1, a, n, product =>
    powMul bits (mul a a) (n / 2) (if n % 2 = 1 then mul product a else product)

/-- The inverse of an element, and zero for zero. -/
def inverse (a : Nat) : Nat := powMul 255 a (p - 2) 1

/-- Two points with a fixed difference, each as a fraction. -/
structure Ladder where
  (x2 z2 x3 z3 : Nat)

/-- Both points with their parts exchanged. -/
def Ladder.swap (l : Ladder) : Ladder := ⟨l.x3, l.z3, l.x2, l.z2⟩

/-- The double of the first point and the sum of both, where their difference is `u`. -/
def Ladder.step (u : Nat) (l : Ladder) : Ladder :=
  let a := add l.x2 l.z2
  let aa := mul a a
  let b := sub l.x2 l.z2
  let bb := mul b b
  let e := sub aa bb
  let da := mul (sub l.x3 l.z3) a
  let cb := mul (add l.x3 l.z3) b
  let s := add da cb
  let d := sub da cb
  ⟨mul aa bb, mul e (add aa (mul 121665 e)), mul s s, mul u (mul d d)⟩

/-- The ladder over the `bits` lowest bits of the scalar, from the highest of them on. -/
def climb (scalar u : Nat) : (bits : Nat) → Ladder → Ladder
  | 0, l => l
  | bits + 1, l =>
    climb scalar u bits <|
      if scalar.testBit bits then (l.swap.step u).swap else l.step u

/-- The number of a scalar: the lowest three bits and the highest bit are cleared, and the
bit below the highest is set. -/
def scalar (k : Block 32) : Nat :=
  let n := Bytes.toNatLittleEndian k.bytes
  Nat.pow 2 254 + n % Nat.pow 2 254 / 8 * 8

/-- The coordinate of 32 bytes; the highest bit is ignored. -/
def coordinate (u : Block 32) : Nat :=
  Bytes.toNatLittleEndian u.bytes % Nat.pow 2 255 % p

/-- The bytes of a coordinate. -/
def toBlock (u : Nat) : Block 32 :=
  ⟨Bytes.littleEndian 32 u, Bytes.length_littleEndian 32 u⟩

/-- The point `u` times the scalar `k`. -/
def multiply (k u : Block 32) : Block 32 :=
  let x := coordinate u
  let l := climb (scalar k) x 255 ⟨1, 0, x, 1⟩
  toBlock (mul l.x2 (inverse l.z2))

/-- The base point. -/
def base : Block 32 := toBlock 9

end Keyring.Curve25519

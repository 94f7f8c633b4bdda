import Keyring.Cipher.Gcm
import Keyring.Proofs.Cipher.Aes256

/-!
# Enciphering by numbers

The rounds with inverses that are computed as numbers.  They encipher as the rounds do, and what they give
under fixed keys is computed much faster.
-/

namespace Keyring.Aes256

/-- The substitution of the lowest byte of a word. -/
def lookNat (x : UInt32) : UInt32 :=
  (affine (UInt8.ofNat (inverseNat (x.toNat % 256)))).toUInt32

theorem look_eq_lookNat (x : UInt32) :
  look x = lookNat x
  := by
  have hx : x.toNat % 256 = x.toUInt8.toNat := by simp
  rw [look_eq, lookNat, hx, ← toNat_inverse, UInt8.ofNat_toNat]
  rfl

/-- The substituted column whose rows stem from four columns. -/
def gatherNat (a b c d : UInt32) : UInt32 :=
  lookNat (a >>> 24) <<< 24 ||| lookNat (b >>> 16) <<< 16 ||| lookNat (c >>> 8) <<< 8 ||| lookNat d

theorem gather_eq_gatherNat :
  gather = gatherNat
  := by
  funext a b c d
  simp only [gather, gatherNat, look_eq_lookNat]

/-- Every byte substituted and the rows shifted. -/
def State.substituteShiftNat (s : State) : State :=
  ⟨gatherNat s.c0 s.c1 s.c2 s.c3, gatherNat s.c1 s.c2 s.c3 s.c0, gatherNat s.c2 s.c3 s.c0 s.c1,
    gatherNat s.c3 s.c0 s.c1 s.c2⟩

theorem State.substituteShift_eq_substituteShiftNat (s : State) :
  s.substituteShift = s.substituteShiftNat
  := by
  rw [substituteShift, substituteShiftNat, gather_eq_gatherNat]

/-- The eight key words after eight key words, as two round keys. -/
def nextKeysNat (round : UInt32) (k l : State) : State × State :=
  let a0 := k.c0 ^^^ gatherNat (l.c3 <<< 8) (l.c3 <<< 8) (l.c3 <<< 8) (l.c3 >>> 24) ^^^ round <<< 24
  let a1 := k.c1 ^^^ a0
  let a2 := k.c2 ^^^ a1
  let a3 := k.c3 ^^^ a2
  let b0 := l.c0 ^^^ gatherNat a3 a3 a3 a3
  let b1 := l.c1 ^^^ b0
  let b2 := l.c2 ^^^ b1
  let b3 := l.c3 ^^^ b2
  (⟨a0, a1, a2, a3⟩, ⟨b0, b1, b2, b3⟩)

theorem nextKeys_eq_nextKeysNat (round : UInt32) (k l : State) :
  nextKeys round k l = nextKeysNat round k l
  := by
  rw [nextKeys, nextKeysNat, gather_eq_gatherNat]

/-- The round keys from two round keys on. -/
def roundKeysNat : List UInt32 → State → State → List State
  | [], k, _ => [k]
  | round :: rest, k, l =>
    let next := nextKeysNat round k l
    k :: l :: roundKeysNat rest next.1 next.2

theorem roundKeys_eq_roundKeysNat :
  roundKeys = roundKeysNat
  := by
  funext constants k l
  induction constants generalizing k l with
  | nil => rfl
  | cons round rest ih => rw [roundKeys, roundKeysNat, nextKeys_eq_nextKeysNat, ih]

/-- The fifteen round keys of a key. -/
def expandNat (key : Key) : List State :=
  match states key.bytes with
  | [k, l] => roundKeysNat [0x01, 0x02, 0x04, 0x08, 0x10, 0x20, 0x40] k l
  | _ => []

theorem expand_eq_expandNat (key : Key) :
  expand key = expandNat key
  := by
  rw [expand, roundKeys_eq_roundKeysNat]
  rfl

/-- The rounds after the first key. -/
def roundsNat : List State → State → State
  | [], s => s
  | [k], s => s.substituteShiftNat.add k
  | k :: ks, s => roundsNat ks (s.substituteShiftNat.mixColumns.add k)

theorem rounds_eq_roundsNat (keys : List State) (s : State) :
  rounds keys s = roundsNat keys s
  := by
  induction keys generalizing s with
  | nil => rfl
  | cons k keys ih =>
    have hshift := State.substituteShift_eq_substituteShiftNat s
    cases keys with
    | nil => rw [rounds, roundsNat, hshift]
    | cons l keys =>
      rw [rounds, roundsNat, hshift, ih]
      all_goals exact List.cons_ne_nil l keys

/-- The block enciphered under round keys. -/
def encipherNat (keys : List State) (s : State) : State :=
  match keys with
  | [] => s
  | k :: ks => roundsNat ks (s.add k)

theorem encipher_eq_encipherNat (keys : List State) (s : State) :
  encipher keys s = encipherNat keys s
  := by
  cases keys with
  | nil => rfl
  | cons k keys => exact rounds_eq_roundsNat keys (s.add k)

end Keyring.Aes256

namespace Keyring.Gcm

/-- The hash key of the key of zeroes is not zero. -/
theorem hashKey_expand_zero_ne :
  hashKey (Aes256.expand (.zero 32)) ≠ 0
  := by
  rw [hashKey, Aes256.encipher_eq_encipherNat, Aes256.expand_eq_expandNat]
  decide +kernel

end Keyring.Gcm

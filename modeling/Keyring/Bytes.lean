/-!
# Bytes and blocks

A byte string is a list of bytes.  A `Block n` is a byte string of length `n`: keys,
initialisation vectors, tags and salts are blocks, so a value of the wrong length never
gets past the place where it is read.  Numbers are written in a fixed count of bytes,
most or least significant byte first, and text is written in UTF-8.
-/

namespace Keyring

/-- A byte string. -/
abbrev Bytes := List UInt8

/-- A byte string of length `n`. -/
structure Block (n : Nat) where
  bytes : Bytes
  length_bytes : bytes.length = n
deriving DecidableEq

namespace Block

/-- The block that holds the given bytes, when their number is `n`. -/
def ofBytes? (n : Nat) (b : Bytes) : Option (Block n) :=
  if h : b.length = n then some ⟨b, h⟩ else none

/-- The first `n` bytes of `b`, filled up with zeroes where `b` is shorter. -/
def padded (n : Nat) (b : Bytes) : Block n :=
  ⟨b.take n ++ List.replicate (n - b.length) 0, by simp; omega⟩

/-- The block of zeroes. -/
def zero (n : Nat) : Block n :=
  ⟨List.replicate n 0, List.length_replicate⟩

/-- Whether every byte is zero. -/
def isZero {n : Nat} (k : Block n) : Bool :=
  k.bytes.all (· == 0)

instance {n : Nat} : Inhabited (Block n) := ⟨zero n⟩

theorem ext {n : Nat} {k l : Block n} (h : k.bytes = l.bytes) :
  k = l
  := by
  cases k
  cases l
  cases h
  rfl

@[simp]
theorem ofBytes?_bytes {n : Nat} (k : Block n) :
  ofBytes? n k.bytes = some k
  := by
  simp [ofBytes?, k.length_bytes]

theorem ofBytes?_eq_some_iff {n : Nat} {b : Bytes} {k : Block n} :
  ofBytes? n b = some k ↔ k.bytes = b
  := by
  constructor
  · intro h
    unfold ofBytes? at h
    split at h
    · cases h
      rfl
    · cases h
  · rintro rfl
    apply ofBytes?_bytes

end Block

/-- A 32-byte key. -/
abbrev Key := Block 32

/-- A 16-byte salt of a password derivation. -/
abbrev Salt := Block 16

namespace Bytes

/-- The low `8 * width` bits of `n`, most significant byte first. -/
def bigEndian : (width : Nat) → (n : Nat) → Bytes
  | 0, _ => []
  | width + 1, n => bigEndian width (n / 256) ++ [UInt8.ofNat n]

/-- The low `8 * width` bits of `n`, least significant byte first. -/
def littleEndian : (width : Nat) → (n : Nat) → Bytes
  | 0, _ => []
  | width + 1, n => UInt8.ofNat n :: littleEndian width (n / 256)

/-- The number written by `b`, most significant byte first. -/
def toNatBigEndian (b : Bytes) : Nat :=
  b.foldl (fun n x => 256 * n + x.toNat) 0

/-- The number written by `b`, least significant byte first. -/
def toNatLittleEndian (b : Bytes) : Nat :=
  b.foldr (fun x n => 256 * n + x.toNat) 0

/-- The exclusive or of two byte strings, as long as the shorter one. -/
def xor (a b : Bytes) : Bytes :=
  List.zipWith (· ^^^ ·) a b

/-- The UTF-8 bytes of a text. -/
def utf8 (s : String) : Bytes :=
  s.toByteArray.data.toList

/-- The text whose UTF-8 bytes are given, if there is one. -/
def ofUtf8? (b : Bytes) : Option String :=
  String.fromUTF8? ⟨b.toArray⟩

/-- The character with which bytes start, and the number of its bytes. -/
def firstChar? (b : Bytes) : Option (Char × Nat) :=
  [1, 2, 3, 4].findSome? fun n => do
    let s ← ofUtf8? (b.take n)
    return (← s.toList.head?, n)

/-- The characters of bytes, with `none` for each byte that belongs to no character. -/
def characters : (b : Bytes) → List (Option Char)
  | [] => []
  | x :: rest =>
    match firstChar? (x :: rest) with
    | some (c, n) => some c :: characters (rest.drop (n - 1))
    | none => none :: characters rest
termination_by b => b.length
decreasing_by all_goals grind

/-- The bytes with one bit changed; bit `i` is bit `i % 8` of byte `i / 8`, counted from the
least significant one. -/
def flipBit (i : Nat) (b : Bytes) : Bytes :=
  b.modify (i / 8) (· ^^^ (1 <<< UInt8.ofNat (i % 8)))

@[simp]
theorem length_bigEndian (width n : Nat) :
  (bigEndian width n).length = width
  := by
  induction width generalizing n with
  | zero => rfl
  | succ width ih => simp [bigEndian, ih]

@[simp]
theorem length_littleEndian (width n : Nat) :
  (littleEndian width n).length = width
  := by
  induction width generalizing n with
  | zero => rfl
  | succ width ih => simp [littleEndian, ih]

@[simp]
theorem length_flipBit (i : Nat) (b : Bytes) :
  (flipBit i b).length = b.length
  := by
  simp [flipBit]

/-- Different texts have different bytes. -/
theorem utf8_inj {s t : String} :
  utf8 s = utf8 t ↔ s = t
  := by
  constructor
  · intro h
    apply String.toByteArray_inj.1
    apply ByteArray.ext
    apply Array.toList_inj.1
    exact h
  · rintro rfl
    rfl

@[simp]
theorem ofUtf8?_utf8 (s : String) :
  ofUtf8? (utf8 s) = some s
  := by
  unfold ofUtf8? utf8 String.fromUTF8?
  rw [Array.toArray_toList, dif_pos s.isValidUTF8]
  rfl

end Bytes

end Keyring

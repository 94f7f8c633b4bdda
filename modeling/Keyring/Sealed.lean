import Keyring.Cipher.Gcm
import Keyring.Failure
import Keyring.Random

/-!
# Sealed values

A sealed value is a ciphertext with its initialisation vector and its authentication tag.
Sealing takes a fresh initialisation vector from the random source every time.  Opening under
another key, with other associated data, or after any change of the parts fails, and always
in the same way.  As one byte string the parts stand in the order initialisation vector,
ciphertext, tag.
-/

namespace Keyring

open Gcm (Iv Tag)

/-- A sealed value. -/
structure Sealed where
  iv : Iv
  /-- As long as the plaintext. -/
  ciphertext : Bytes
  tag : Tag
deriving DecidableEq

namespace Sealed

/-! ### As one byte string -/

/-- The parts as one byte string. -/
def toBytes (s : Sealed) : Bytes :=
  s.iv.bytes ++ s.ciphertext ++ s.tag.bytes

/-- The parts of a byte string of at least 28 bytes.  A shorter one is reported as a value
that does not open. -/
def ofBytes (b : Bytes) : Except CryptoError Sealed :=
  let rest := b.drop 12
  match Block.ofBytes? 12 (b.take 12), Block.ofBytes? 16 (rest.drop (rest.length - 16)) with
  | some iv, some tag => .ok ⟨iv, rest.take (rest.length - 16), tag⟩
  | _, _ => .error .decryption

/-! ### Sealing and opening -/

/-- The plaintext sealed with a given initialisation vector. -/
def ofPlaintext (key : Key) (iv : Iv) (associated plaintext : Bytes) : Sealed :=
  let r := Gcm.encrypt key iv associated plaintext
  ⟨iv, r.1, r.2⟩

/-- Seal a plaintext with a fresh initialisation vector. -/
def encrypt (key : Key) (plaintext associated : Bytes) : Draw Sealed := do
  let iv ← Draw.block 12
  return ofPlaintext key iv associated plaintext

/-- The plaintext of a sealed value. -/
def plaintext (s : Sealed) (key : Key) (associated : Bytes) : Except CryptoError Bytes :=
  match Gcm.decrypt? key s.iv associated s.ciphertext s.tag with
  | some text => .ok text
  | none => .error .decryption

/-- The plaintext of a sealed value whose parts come as byte strings of any length. -/
def plaintextOfParts (key : Key) (iv ciphertext tag associated : Bytes) : Except CryptoError Bytes :=
  match Block.ofBytes? 12 iv, Block.ofBytes? 16 tag with
  | some iv, some tag => plaintext ⟨iv, ciphertext, tag⟩ key associated
  | _, _ => .error .decryption

/-! ### Wrapped keys -/

/-- Seal a key under another key. -/
def wrapKey (wrapping key : Key) (associated : Bytes) : Draw Sealed :=
  encrypt wrapping key.bytes associated

/-- The key that was sealed under another key. -/
def unwrapKey (wrapping : Key) (s : Sealed) (associated : Bytes) : Except CryptoError Key := do
  let text ← s.plaintext wrapping associated
  match Block.ofBytes? 32 text with
  | some key => return key
  | none => throw (.invalidKey "Unwrapped key wrong length")

end Sealed

end Keyring

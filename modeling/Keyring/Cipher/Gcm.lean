import Keyring.Cipher.Aes256
import Keyring.Cipher.Ghash

/-!
# AES-256 in Galois/counter mode

The plaintext is combined with a keystream, the enciphered numbers from 2 on after the
initialisation vector, so that enciphering twice gives the plaintext back.  The tag is the
hash of ciphertext and associated data, masked with the enciphered number 1.
-/

namespace Keyring.Gcm

/-- An initialisation vector. -/
abbrev Iv := Block 12

/-- An authentication tag. -/
abbrev Tag := Block 16

/-- The block of an initialisation vector and a number. -/
def counterBlock (iv : Iv) (number : UInt32) : Aes256.State :=
  match Aes256.states iv.bytes with
  | s :: _ => { s with c3 := number }
  | [] => ⟨0, 0, 0, number⟩

/-- The `n` enciphered blocks from a number on. -/
def keystream (keys : List Aes256.State) (iv : Iv) : (n : Nat) → (number : UInt32) → Bytes
  | 0, _ => []
  | n + 1, number =>
    (Aes256.encipher keys (counterBlock iv number)).bytes ++ keystream keys iv n (number + 1)

/-- The text combined with the keystream. -/
def crypt (keys : List Aes256.State) (iv : Iv) (text : Bytes) : Bytes :=
  Bytes.xor text (keystream keys iv ((text.length + 15) / 16) 2)

/-- The hash key. -/
def hashKey (keys : List Aes256.State) : Ghash.Element :=
  Ghash.ofBytes (Aes256.encipher keys ⟨0, 0, 0, 0⟩).bytes

/-- The mask of the tag. -/
def mask (keys : List Aes256.State) (iv : Iv) : Ghash.Element :=
  Ghash.ofBytes (Aes256.encipher keys (counterBlock iv 1)).bytes

/-- The tag of a ciphertext and its associated data. -/
def tag (keys : List Aes256.State) (iv : Iv) (associated ciphertext : Bytes) : Tag :=
  Ghash.toBlock
    (Ghash.hash (hashKey keys) (Ghash.message associated ciphertext) ^^^ mask keys iv)

/-- The ciphertext and the tag of a plaintext. -/
def encrypt (key : Key) (iv : Iv) (associated plaintext : Bytes) : Bytes × Tag :=
  let keys := Aes256.expand key
  let ciphertext := crypt keys iv plaintext
  (ciphertext, tag keys iv associated ciphertext)

/-- The plaintext of a ciphertext, when the tag is right. -/
def decrypt? (key : Key) (iv : Iv) (associated ciphertext : Bytes) (t : Tag) : Option Bytes :=
  let keys := Aes256.expand key
  if tag keys iv associated ciphertext = t then some (crypt keys iv ciphertext) else none

theorem length_keystream (keys : List Aes256.State) (iv : Iv) (n : Nat) (number : UInt32) :
  (keystream keys iv n number).length = 16 * n
  := by
  induction n generalizing number with
  | zero => rfl
  | succ n ih =>
    rw [keystream, List.length_append, Aes256.State.length_bytes, ih]
    omega

@[simp]
theorem length_crypt (keys : List Aes256.State) (iv : Iv) (text : Bytes) :
  (crypt keys iv text).length = text.length
  := by
  rw [crypt, Bytes.xor, List.length_zipWith, length_keystream]
  omega

end Keyring.Gcm

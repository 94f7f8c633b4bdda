import Keyring.Cipher.Gcm
import Keyring.Failure

/-!
# Sealed private keys

A sealed private key is kept as one byte string: the salt of the password derivation, the
initialisation vector, and the ciphertext followed by its tag.
-/

namespace Keyring

/-- The parts of a sealed private key. -/
structure PrivateKeyBlob where
  salt : Salt
  iv : Gcm.Iv
  /-- The ciphertext followed by its tag. -/
  ciphertext : Bytes
deriving DecidableEq

namespace PrivateKeyBlob

/-- The parts as one byte string. -/
def toBytes (k : PrivateKeyBlob) : Bytes :=
  k.salt.bytes ++ k.iv.bytes ++ k.ciphertext

/-- The parts of a byte string of more than 28 bytes. -/
def ofBytes (b : Bytes) : Except RecordError PrivateKeyBlob :=
  let tooShort := RecordError.invalidField "encryptedPrivateKey"
    s!"blob too short ({b.length} bytes)"
  if b.length ≤ 28 then .error tooShort
  else
    match Block.ofBytes? 16 (b.take 16), Block.ofBytes? 12 ((b.drop 16).take 12) with
    | some salt, some iv => .ok ⟨salt, iv, b.drop 28⟩
    | _, _ => .error tooShort

/-- The parts in base64. -/
def toBase64 (k : PrivateKeyBlob) : String :=
  Base64.encode k.toBytes

/-- The parts of a text in base64. -/
def ofBase64 (s : String) : Except RecordError PrivateKeyBlob := do
  ofBytes (← (Base64.decode s).mapError .base64)

end PrivateKeyBlob

end Keyring

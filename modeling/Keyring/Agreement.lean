import Keyring.Curve25519
import Keyring.Failure
import Keyring.Random

/-!
# Key agreement

Each member owns a key pair on Curve25519.  Two members combine their own private key with
the public key of the other and arrive at the same shared secret.  Key pairs are generated
only after the random source was checked once.
-/

namespace Keyring

/-- A key pair.  The public key is determined by the private one, so only that is kept, with
the very bits that it was given. -/
structure KeyPair where
  privateKey : Key
deriving DecidableEq

/-- A secret that two members share. -/
structure SharedSecret where
  key : Key
deriving DecidableEq

/-- The key of 32 bytes; `what` names it in the failure. -/
def keyOfBytes (what : String) (b : Bytes) : Except CryptoError Key :=
  match Block.ofBytes? 32 b with
  | some k => .ok k
  | none => .error (.invalidKey s!"{what} must be 32 bytes, got {b.length}")

namespace KeyPair

/-- The public key. -/
def publicKey (k : KeyPair) : Key :=
  Curve25519.multiply k.privateKey Curve25519.base

/-- The public key in base64. -/
def publicBase64 (k : KeyPair) : String :=
  Base64.encode k.publicKey.bytes

/-- The key pair of a private key. -/
def ofPrivateBytes (b : Bytes) : Except CryptoError KeyPair :=
  (keyOfBytes "private key" b).map KeyPair.mk

/-- The key pair of both halves, when they belong together. -/
def ofParts (publicBytes privateBytes : Bytes) : Except CryptoError KeyPair := do
  let k ← ofPrivateBytes privateBytes
  if k.publicKey.bytes = publicBytes then
    return k
  else
    throw (.invalidKey "public key does not match private key")

/-- A description that shows the public key only. -/
def description (k : KeyPair) : String :=
  s!"KeyPair \x7b public: \"{k.publicBase64}\", private: \"<redacted>\" \x7d"

end KeyPair

namespace SharedSecret

/-- The secret shared by the owner of a private key and the owner of a public key.  A public
key of low order, which would make it zero, is refused. -/
def agree (privateBytes peerBytes : Bytes) : Except CryptoError SharedSecret := do
  let privateKey ← keyOfBytes "private key" privateBytes
  let peer ← keyOfBytes "peer public key" peerBytes
  let secret := Curve25519.multiply privateKey peer
  if secret.isZero then
    throw (.invalidKey "peer public key is a low-order point")
  else
    return ⟨secret⟩

/-- A description that hides the secret. -/
def description (_ : SharedSecret) : String := "SharedSecret(<redacted>)"

end SharedSecret

/-- A generator of key pairs. -/
structure KeyGenerator where
  /-- Whether the random source was checked. -/
  isReady : Bool
deriving DecidableEq

namespace KeyGenerator

/-- The generator before the check. -/
def new : KeyGenerator := ⟨false⟩

/-- Check the random source, once: a probe of 32 bytes must be readable and not all zero. -/
def prepare (g : KeyGenerator) : Draw (Except CryptoError KeyGenerator) := do
  if g.isReady then
    return .ok g
  let fault? := (← get).fault?
  let probe ← Draw.block 32
  match fault? with
  | some reason => return .error (.keyGeneration reason)
  | none =>
    if probe.isZero then
      return .error (.keyGeneration "RNG returned an all-zero block")
    else
      return .ok ⟨true⟩

/-- A fresh key pair. -/
def generate (g : KeyGenerator) : Draw (Except CryptoError KeyPair) := do
  if g.isReady then
    return .ok ⟨← Draw.block 32⟩
  else
    return .error .notInitialised

end KeyGenerator

end Keyring

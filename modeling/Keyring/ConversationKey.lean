import Keyring.Failure
import Keyring.Hash.Hkdf
import Keyring.Purpose

/-!
# Conversation keys

The key of a conversation in a version is derived from a shared secret alone, with a fixed
salt, so that all members arrive at it without exchanging anything else.
-/

namespace Keyring

/-- As many bytes as wanted, derived from key material with a salt for `info`. -/
def deriveBytes (material : Bytes) (salt : Option Bytes) (info : Bytes) (length : Nat) :
    Except CryptoError Bytes :=
  match Hkdf.expand? (Hkdf.extract salt material) info length with
  | some b => .ok b
  | none => .error (.keyDerivation "invalid number of blocks, too large output")

/-- The key of one conversation in one version. -/
structure ConversationKey where
  key : Key
deriving DecidableEq

namespace ConversationKey

/-- The salt of every derivation. -/
def salt : Bytes := Bytes.utf8 "cipherkeep-conversation-salt-v1"

/-- The key of 32 bytes. -/
def ofBytes (b : Bytes) : Except CryptoError ConversationKey :=
  match Block.ofBytes? 32 b with
  | some k => .ok ⟨k⟩
  | none => .error (.invalidKey s!"Conversation key must be 32 bytes, got {b.length}")

/-- The key of a conversation in a version. -/
def derive (secret : Bytes) (id : String) (version : UInt32) :
    Except CryptoError ConversationKey :=
  if secret.length ≠ 32 then
    .error (.invalidInput s!"shared secret must be 32 bytes, got {secret.length}")
  else if id.isEmpty then
    .error (.invalidInput "conversation id must not be empty")
  else
    .ok ⟨Hkdf.expandKey (Hkdf.extract (some salt) secret) (Purpose.derivationLabel id version)⟩

/-- A description that hides the key. -/
def description (_ : ConversationKey) : String := "ConversationKey(<redacted>)"

end ConversationKey

end Keyring

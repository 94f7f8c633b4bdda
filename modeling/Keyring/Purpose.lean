import Keyring.Bytes

/-!
# Purposes

Whatever is sealed is bound to its purpose through the associated data, so it does not open
in any other place.  A conversation id is preceded by its length in bytes where something
follows it.
-/

namespace Keyring

/-- What something is sealed for. -/
inductive Purpose where
  /-- The private half of the key pair stored under an id. -/
  | keyPair (id : String)
  /-- The key of a conversation in a version, under the master key. -/
  | conversationKey (id : String) (version : UInt32)
  /-- A message in a conversation. -/
  | message (id : String)
  /-- A backup of the store. -/
  | backup
  /-- The value that a master password is checked against. -/
  | masterCheck
deriving DecidableEq

namespace Purpose

/-- A text with its length in bytes before it, both in a form that ends where it says; of
the length, the lowest 32 bits are kept. -/
def counted (s : String) : Bytes :=
  let b := Bytes.utf8 s
  Bytes.bigEndian 4 b.length ++ b

/-- The associated data for a purpose. -/
def associatedData : Purpose → Bytes
  | .keyPair id => Bytes.utf8 "ck-keypair-v1" ++ 0 :: Bytes.utf8 id
  | .conversationKey id version =>
    Bytes.utf8 "ck-conv-key-v1" ++ 0 :: counted id ++ Bytes.bigEndian 4 version.toNat
  | .message id => Bytes.utf8 "ck-message-v1" ++ 0 :: Bytes.utf8 id
  | .backup => Bytes.utf8 "ck-backup-v1"
  | .masterCheck => Bytes.utf8 "ck-master-check-v1"

/-- The label under which the key of a conversation in a version is derived. -/
def derivationLabel (id : String) (version : UInt32) : Bytes :=
  Bytes.utf8 "ck-conversation-key-v1" ++ 0 :: counted id ++ Bytes.bigEndian 4 version.toNat

end Purpose

end Keyring

/-!
# Commands

What the program can be asked to do, and with which files.
-/

namespace Keyring

/-- Whom to agree on a secret with. -/
structure Peer where
  /-- The id of the own key pair. -/
  keyId : String
  /-- The public key of the other member, in base64. -/
  publicKey : String
deriving DecidableEq

/-- A command. -/
inductive Command where
  | generateKeyPair (id : String)
  | listKeyPairs
  | exportPublicKey (id : String)
  | deleteKeyPair (id : String)
  | deriveConversationKey (id : String) (peer : Peer) (version : UInt32)
  | showConversationKey (id : String)
  | listConversations
  | rotateConversationKey (id : String) (peer : Peer) (reason : String)
  | showRotations (id : String)
  | deleteConversationKey (id : String)
  /-- A backup, to be printed unless there is a file. -/
  | createBackup (file? : Option String)
  | restoreBackup (file : String)
  | clear (isConfirmed : Bool)
deriving DecidableEq

/-- A command with the places to look for its files. -/
structure Invocation where
  dataDirectory? : Option String
  configFile? : Option String
  command : Command
deriving DecidableEq

end Keyring

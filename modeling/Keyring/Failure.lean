import Keyring.Base64

/-!
# Failures

Three layers can fail: the handling of keys and passwords, the reading of records, and the
store.  The store absorbs the failures of the two layers below it.  A failure to open sealed
data never says whether the key was wrong or the data changed.
-/

namespace Keyring

/-- A failure in the handling of keys and passwords. -/
inductive CryptoError where
  /-- Key pairs were asked for before the random source was checked. -/
  | notInitialised
  | keyGeneration (reason : String)
  | encryption
  /-- Sealed data did not open. -/
  | decryption
  | keyDerivation (reason : String)
  | invalidKey (reason : String)
  | invalidInput (reason : String)
  | passwordTooShort (minimum : Nat)
  | base64 (error : Base64.DecodeError)
deriving DecidableEq

/-- The wording of a failure. -/
def CryptoError.message : CryptoError → String
  | .notInitialised => "Crypto backend not initialised (call KeyExchange::ready() first)"
  | .keyGeneration reason => s!"Key generation failed: {reason}"
  | .encryption => "AEAD encryption failed"
  | .decryption => "AEAD decryption failed"
  | .keyDerivation reason => s!"Key derivation failed: {reason}"
  | .invalidKey reason => s!"Invalid key material: {reason}"
  | .invalidInput reason => s!"Invalid input: {reason}"
  | .passwordTooShort minimum => s!"Password must be at least {minimum} characters"
  | .base64 error => s!"Base64 decode error: {error.message}"

/-- A failure in the reading of a record. -/
inductive RecordError where
  /-- The text is not the record's JSON. -/
  | serialisation
  | base64 (error : Base64.DecodeError)
  | invalidField (field reason : String)
deriving DecidableEq

/-- The wording of a failure. -/
def RecordError.message : RecordError → String
  | .serialisation => "Serialisation error: "
  | .base64 error => s!"Base64 decode error: {error.message}"
  | .invalidField field reason => s!"Invalid field {field}: {reason}"

/-- The classes of failures that callers tell apart. -/
inductive ErrorKind where
  /-- Bad input, or a step left out before. -/
  | precondition
  /-- A wrong key or changed data. -/
  | authentication
  /-- Stored or transported data that cannot be read. -/
  | format
  /-- The database, or the machine beneath it. -/
  | storage
deriving DecidableEq

/-- A failure of the store. -/
inductive StoreError where
  /-- The database refused a statement or holds what no statement can read. -/
  | database
  | masterKeyNotSet
  | passwordTooShort (minimum : Nat)
  | invalidInput (reason : String)
  | notInitialised
  | decryption
  | backupDecryption
  | unsupportedBackupVersion (version : UInt32)
  | format (reason : String)
  | noConversationKey (id : String)
  | keyDerivation (reason : String)
  | task (reason : String)
deriving DecidableEq

namespace StoreError

/-- The wording of a failure. -/
def message : StoreError → String
  | .database => "Database error: "
  | .masterKeyNotSet => "Master key not set; unlock the session first"
  | .passwordTooShort minimum => s!"Password must be at least {minimum} characters"
  | .invalidInput reason => s!"Invalid input: {reason}"
  | .notInitialised => "Crypto backend not initialised"
  | .decryption => "Decryption failed"
  | .backupDecryption => "Failed to decrypt backup"
  | .unsupportedBackupVersion version => s!"Unsupported backup version {version.toNat}"
  | .format reason => s!"Malformed stored data: {reason}"
  | .noConversationKey id => s!"No key for conversation {id}"
  | .keyDerivation reason => s!"Key derivation failed: {reason}"
  | .task reason => s!"Background task failed: {reason}"

/-- The class of a failure. -/
def kind : StoreError → ErrorKind
  | .masterKeyNotSet | .passwordTooShort _ | .invalidInput _ | .notInitialised
  | .noConversationKey _ => .precondition
  | .decryption | .backupDecryption => .authentication
  | .unsupportedBackupVersion _ | .format _ => .format
  | .database | .keyDerivation _ | .task _ => .storage

/-- What the store makes of a failure in the handling of keys and passwords. -/
def ofCrypto : CryptoError → StoreError
  | .decryption => .decryption
  | .passwordTooShort minimum => .passwordTooShort minimum
  | .notInitialised => .notInitialised
  | .invalidKey reason | .invalidInput reason => .invalidInput reason
  | .keyDerivation reason | .keyGeneration reason => .keyDerivation reason
  | .encryption => .keyDerivation "AEAD encryption failed"
  | .base64 error => .format error.message

/-- What the store makes of a failure in the reading of a record. -/
def ofRecord (e : RecordError) : StoreError :=
  .format e.message

end StoreError

end Keyring

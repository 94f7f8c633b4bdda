import Keyring.CommandLine.Arguments
import Keyring.CommandLine.DatabaseName
import Keyring.CommandLine.Files
import Keyring.Store.Conversation
import Keyring.Store.Identity
import Keyring.Store.MasterPassword
import Keyring.Store.Recovery
import Keyring.Text.Blank

/-!
# Running commands

A run reads its arguments, finds the data directory and the configuration, opens the database,
carries the command out on it, and in the end keeps the database if it is new or has changed,
whether the command failed or not.  A database that may not be written fails a command that
writes to it.  A run prints only if it succeeds.  Passwords come from the environment; there is
no terminal to ask for them at.
-/

namespace Keyring

/-! ### Failures -/

/-- Why a run failed. -/
inductive RunError where
  | noDataDirectory
  | directory (path : String)
  | configUnreadable (path : String)
  | configMalformed (path : String)
  | noPassword
  | noKeyPair (id : String)
  | noConversationKey (id : String)
  | peerKey
  | backupUnreadable (path : String)
  | backupUnwritable (path : String)
  | notConfirmed
  | ofCrypto (error : CryptoError)
  | ofRecord (error : RecordError)
  | ofStore (error : StoreError)
deriving DecidableEq

/-- The wording of a failure. -/
def RunError.message : RunError → String
  | .noDataDirectory => "cannot determine data directory"
  | .directory path => s!"creating data directory {path}"
  | .configUnreadable path => s!"reading config {path}"
  | .configMalformed path => s!"parsing config {path}"
  | .noPassword => "password prompt: No such device or address (os error 6)"
  | .noKeyPair id => s!"no key pair '{id}'"
  | .noConversationKey id => s!"no key for conversation {id}"
  | .peerKey => "peer public key is not valid base64"
  | .backupUnreadable path => s!"reading backup {path}"
  | .backupUnwritable path => s!"writing backup {path}"
  | .notConfirmed => "refusing to clear the key store without --yes"
  | .ofCrypto error => error.message
  | .ofRecord error => error.message
  | .ofStore error => error.message

/-! ### Surroundings -/

/-- What a run finds on its machine, besides files. -/
structure Surroundings where
  environment : (name : String) → Option String
  random : RandomSource
  clock : Clock

namespace Surroundings

/-- The names of all variables that matter. -/
def variableNames : List String :=
  ["CIPHERKEEP_DATA_DIR", "CIPHERKEEP_PASSWORD", "CIPHERKEEP_MASTER_PASSWORD", "XDG_DATA_HOME",
    "HOME"]

/-- The value of a variable, unless it is empty. -/
def value? (s : Surroundings) (name : String) : Option String :=
  (s.environment name).filter fun v => !v.isEmpty

/-- A path below a directory. -/
def below (directory name : String) : String :=
  if directory.endsWith "/" then directory ++ name else directory ++ "/" ++ name

/-- The data directory of a user who named none. -/
def standardDirectory? (s : Surroundings) : Option String :=
  match (s.environment "XDG_DATA_HOME").filter fun d => d.startsWith "/" with
  | some d => some (below d "cipherkeep")
  | none => (s.value? "HOME").map fun home => below home ".local/share/cipherkeep"

/-- The data directory. -/
def dataDirectory? (s : Surroundings) (given : Option String) : Option String :=
  (given.or (s.value? "CIPHERKEEP_DATA_DIR")).or s.standardDirectory?

/-- The password of a key pair or a backup. -/
def password (s : Surroundings) : Except RunError String :=
  match s.value? "CIPHERKEEP_PASSWORD" with
  | some p => .ok p
  | none => .error .noPassword

/-- The master password. -/
def masterPassword (s : Surroundings) : Except RunError String :=
  match s.value? "CIPHERKEEP_MASTER_PASSWORD" with
  | some p => .ok p
  | none => .error .noPassword

/-- The device that a command runs on. -/
def device (s : Surroundings) (settings : Settings) (d : Database) : Device :=
  ⟨⟨s.random, s.clock, settings.newSession⟩, settings, d⟩

end Surroundings

/-! ### Commands on an open store -/

/-- What a command leaves behind: a text to print, and a text to write to a file. -/
structure Report where
  printed : String
  written? : Option (String × String)
deriving DecidableEq

namespace Report

/-- Nothing. -/
def empty : Report := ⟨"", none⟩

/-- A line to print. -/
def line (s : String) : Report := ⟨s ++ "\n", none⟩

/-- A value to print in the indented form. -/
def value (j : Json) : Report := line j.pretty

end Report

/-- A part of a command. -/
abbrev Task := ExceptT RunError (StateM Device)

namespace Task

variable {α : Type}

/-- An operation of the store. -/
def ofAction (x : Action α) : Task α :=
  ExceptT.adapt RunError.ofStore x

/-- The result of a computation without effects. -/
def ofResult : Except RunError α → Task α
  | .ok a => return a
  | .error e => throw e

/-- The result of a computation that only handles keys. -/
def ofCrypto (r : Except CryptoError α) : Task α :=
  ofResult (r.mapError RunError.ofCrypto)

/-- A value that must be there. -/
def require (e : RunError) : Option α → Task α
  | some a => return a
  | none => throw e

/-- Generate a key pair and store it. -/
def generateKeyPair (s : Surroundings) (id : String) : Task Report := do
  let generator ← ofCrypto (← ofAction (Action.draw KeyGenerator.new.prepare))
  let pair ← ofCrypto (← ofAction (Action.draw generator.generate))
  let password ← ofResult s.password
  ofAction (Action.storeKeyPair id pair password)
  return .line pair.publicBase64

/-- Id and public key of a stored key pair. -/
def keyPairSummary (id : String) : Task Json := do
  let publicKey := (← ofAction (Action.exportPublicKey id)).getD ""
  return .object [("id", .string id), ("publicKey", .string publicKey)]

/-- Agree on a secret with a peer. -/
def agree (s : Surroundings) (peer : Peer) : Task SharedSecret := do
  let publicKey ← require .peerKey (Base64.decode? (Text.trim peer.publicKey))
  let password ← ofResult s.password
  let pair ← require (.noKeyPair peer.keyId)
    (← ofAction (Action.loadKeyPair peer.keyId password))
  ofCrypto (SharedSecret.agree pair.privateKey.bytes publicKey)

/-- Unlock the session. -/
def unlock (s : Surroundings) : Task Unit := do
  let password ← ofResult s.masterPassword
  ofAction (Action.unlock password)

/-- Store the first key of a conversation, or one of a later version. -/
def deriveConversationKey (s : Surroundings) (id : String) (peer : Peer) (version : UInt32) :
    Task Report := do
  let secret ← agree s peer
  let key ← ofAction (Action.ofCrypto (ConversationKey.derive secret.key.bytes id version))
  unlock s
  ofAction (Action.storeConversationKey id key version)
  ofAction (Action.onSession SessionAction.clear)
  return .line s!"stored {id} v{version.toNat}"

/-- Replace the key of a conversation. -/
def rotateConversationKey (s : Surroundings) (id : String) (peer : Peer) (reason : String) :
    Task Report := do
  let secret ← agree s peer
  unlock s
  let record ← ofAction (Action.rotateConversationKey id secret.key.bytes reason)
  ofAction (Action.onSession SessionAction.clear)
  return .value record.toJson

/-- Create a backup, to be written to a file if there is one. -/
def createBackup (s : Surroundings) (file? : Option String) : Task Report := do
  let password ← ofResult s.password
  let backup ← ofAction (Action.createBackup password)
  match file? with
  | some file => return ⟨"", some (file, backup.text)⟩
  | none => return .line backup.text

/-- Restore a backup from its text. -/
def restoreBackup (s : Surroundings) (text : String) : Task Report := do
  let backup ← ofResult ((EncryptedBackup.ofText text).mapError RunError.ofRecord)
  let password ← ofResult s.password
  let n ← ofAction (Action.restoreBackup backup password)
  return .line <| s!"restored {n.keyPairs} key pairs, {n.conversationKeys} conversation keys, " ++
    s!"{n.rotationRecords} rotation records"

/-- Carry out a command; `input` is the text of the file that it reads. -/
def perform (s : Surroundings) (input : String) : Command → Task Report
  | .generateKeyPair id => generateKeyPair s id
  | .listKeyPairs => do
    let ids ← ofAction Action.keyPairIds
    return .value (.array (← ids.mapM keyPairSummary))
  | .exportPublicKey id => do
    return .line (← require (.noKeyPair id) (← ofAction (Action.exportPublicKey id)))
  | .deleteKeyPair id => do
    if ← ofAction (Action.deleteKeyPair id) then return .empty else throw (.noKeyPair id)
  | .deriveConversationKey id peer version => deriveConversationKey s id peer version
  | .showConversationKey id => do
    let info ← require (.noConversationKey id) (← ofAction (Action.conversationKeyInfo id))
    return .value info.toJson
  | .listConversations => do
    let ids ← ofAction Action.conversationIds
    return ⟨String.join (ids.map (· ++ "\n")), none⟩
  | .rotateConversationKey id peer reason => rotateConversationKey s id peer reason
  | .showRotations id => do
    let history ← ofAction (Action.rotationHistory id)
    return .value (.array (history.map RotationRecord.toJson))
  | .deleteConversationKey id => do
    if ← ofAction (Action.deleteConversationKey id) then return .empty
    else throw (.noConversationKey id)
  | .createBackup file? => createBackup s file?
  | .restoreBackup _ => restoreBackup s input
  | .clear isConfirmed => do
    if !isConfirmed then
      throw .notConfirmed
    ofAction Action.clearAll
    return .empty

end Task

/-! ### Runs -/

/-- What a run of the program ends in. -/
structure Outcome where
  exitCode : UInt32
  printed : String
  error? : Option RunError
deriving DecidableEq

namespace Program

variable {m : Type → Type} [Monad m]

/-- The version of the program. -/
def version : String := "cipherkeep 0.1.0"

/-- How the program is used. -/
def usage : String :=
  "Usage: cipherkeep [OPTIONS] <keypair|conversation|backup|clear>"

/-- The configuration: that of a file which was named, or of the file in the data directory if
there is one, or the default. -/
def configuration (files : FileAccess m) (given : Option String) (directory : String) :
    ExceptT RunError m StoreConfig := do
  let standard := Surroundings.below directory "config.json"
  let path := given.getD standard
  if given.isSome || (← files.isPresent standard) then
    let some text ← files.readText path | throw (.configUnreadable path)
    let some config := StoreConfig.ofText? text | throw (.configMalformed path)
    return config
  else
    return .standard

/-- The text of the file that a command reads, if it reads one. -/
def input (files : FileAccess m) : Command → ExceptT RunError m String
  | .restoreBackup file => do
    let some text ← files.readText file | throw (.backupUnreadable file)
    return text
  | _ => return ""

/-- Write what a command leaves for a file. -/
def output (files : FileAccess m) (r : Report) : ExceptT RunError m String := do
  if let some (file, text) := r.written? then
    if !(← files.writeText file text) then
      throw (.backupUnwritable file)
  return r.printed

/-- Whether a command writes to the database, even if the database stays as it is. -/
def isRewriting (command : Command) (result : Except RunError Report) : Bool :=
  match command, result with
  | .deleteKeyPair _, _ | .deleteConversationKey _, _ | .clear true, _ => true
  | .generateKeyPair _, .ok _ | .deriveConversationKey .., .ok _ => true
  | .rotateConversationKey .., .ok _ | .restoreBackup _, .ok _ => true
  | _, _ => false

/-- The result of a command on a database that may not be written. -/
def withoutWriting (command : Command) (before : Database) (result : Except RunError Report)
    (after : Database) : Except RunError Report :=
  if before ≠ after || isRewriting command result then .error (.ofStore .database) else result

/-- Carry out a command on a database, and return what it prints, and the database that it
leaves behind. -/
def attend (files : FileAccess m) (s : Surroundings) (invocation : Invocation)
    (config : StoreConfig) (database : Database) (mayBeWritten : Bool) :
    m (Except RunError String × Database) := do
  match Settings.ofConfig config with
  | .error e => return (.error (.ofStore e), database)
  | .ok settings =>
    match ← (input files invocation.command).run with
    | .error e => return (.error e, database)
    | .ok text =>
      let device := s.device settings database
      let (result, after) := (Task.perform s text invocation.command).run device
      match if mayBeWritten then result
        else withoutWriting invocation.command database result after.database with
      | .error e => return (.error e, after.database)
      | .ok report => return (← (output files report).run, after.database)

/-- Find the configuration and the name of the database. -/
def prepare (files : FileAccess m) (s : Surroundings) (invocation : Invocation) :
    ExceptT RunError m (StoreConfig × DatabaseName) := do
  let some directory := s.dataDirectory? invocation.dataDirectory? | throw .noDataDirectory
  if !(← files.makeDirectories directory) then
    throw (.directory directory)
  let config ← configuration files invocation.configFile? directory
  let some name := DatabaseName.ofString? (Surroundings.below directory "keys.db")
    | throw (.ofStore .database)
  return (config, name)

/-- Carry out a command on the database of a name, and return what it prints. -/
def carryOut (files : FileAccess m) (s : Surroundings) (invocation : Invocation)
    (config : StoreConfig) : DatabaseName → ExceptT RunError m String
  | .transient => do
    let answer : m _ := attend files s invocation config .empty true
    MonadExcept.ofExcept (← answer).1
  | .file path use => do
    let some found ← files.openDatabase path use | throw (.ofStore .database)
    let answer : m _ := attend files s invocation config (found.getD .empty) use.mayBeWritten
    let (result, after) ← answer
    if use.mayBeWritten && found ≠ some after then
      files.saveDatabase path use after
    MonadExcept.ofExcept result

/-- Carry out a command, and return what it prints. -/
def execute (files : FileAccess m) (s : Surroundings) (invocation : Invocation) :
    ExceptT RunError m String := do
  let (config, name) ← prepare files s invocation
  carryOut files s invocation config name

/-- Run the program on its arguments. -/
def run (files : FileAccess m) (s : Surroundings) (arguments : List String) : m Outcome := do
  match Arguments.parse arguments with
  | .error .help => return ⟨0, usage ++ "\n", none⟩
  | .error .version => return ⟨0, version ++ "\n", none⟩
  | .error .misuse => return ⟨2, "", none⟩
  | .ok invocation =>
    match ← (execute files s invocation).run with
    | .ok printed => return ⟨0, printed, none⟩
    | .error e => return ⟨1, "", some e⟩

end Program

end Keyring

import Keyring.Store.Row

/-!
# The database

Three tables and the metadata of the store.  Key pairs and conversation keys are found by
their id, and no two rows of a table share one.  The log of rotations keeps the order in
which it was written, and no two of its rows share both conversation and new version.
-/

namespace Keyring

namespace Table

variable {ρ : Type}

/-- The row with an id. -/
def find? (id : ρ → String) (key : String) (rows : List ρ) : Option ρ :=
  rows.find? fun r => id r == key

/-- The table with a row put in, in the place of the row with the same id if there is one. -/
def put (id : ρ → String) (row : ρ) (rows : List ρ) : List ρ :=
  if rows.any fun r => id r == id row then
    rows.map fun r => if id r == id row then row else r
  else
    rows ++ [row]

/-- The table without the row with an id. -/
def erase (id : ρ → String) (key : String) (rows : List ρ) : List ρ :=
  rows.filter fun r => id r != key

/-- The rows in the order of their ids. -/
def byId (id : ρ → String) (rows : List ρ) : List ρ :=
  rows.mergeSort fun r s => decide (id r ≤ id s)

/-- The rows in the order of a column of texts, and of their ids where that is equal. -/
def byColumn (column id : ρ → String) (rows : List ρ) : List ρ :=
  rows.mergeSort fun r s =>
    decide (column r < column s) || (column r == column s && decide (id r ≤ id s))

end Table

/-- The contents of a database. -/
structure Database where
  keyPairs : List KeyPairRow
  conversationKeys : List ConversationKeyRow
  /-- In the order in which they were written. -/
  rotations : List RotationRow
  /-- Keys and values. -/
  metadata : List (String × String)
deriving DecidableEq

namespace Database

/-- The database without rows. -/
def empty : Database := ⟨[], [], [], []⟩

instance : Inhabited Database := ⟨empty⟩

/-! ### Key pairs -/

/-- The key pair with an id. -/
def keyPair? (d : Database) (id : String) : Option KeyPairRow :=
  Table.find? KeyPairRow.id id d.keyPairs

/-- The database with a key pair put in. -/
def putKeyPair (d : Database) (row : KeyPairRow) : Database :=
  { d with keyPairs := Table.put KeyPairRow.id row d.keyPairs }

/-- The database without the key pair with an id. -/
def eraseKeyPair (d : Database) (id : String) : Database :=
  { d with keyPairs := Table.erase KeyPairRow.id id d.keyPairs }

/-- The ids of the key pairs, in the order of their creation. -/
def keyPairIds (d : Database) : List String :=
  (Table.byColumn KeyPairRow.createdAt KeyPairRow.id d.keyPairs).map KeyPairRow.id

/-! ### Conversation keys -/

/-- The key of a conversation. -/
def conversationKey? (d : Database) (id : String) : Option ConversationKeyRow :=
  Table.find? ConversationKeyRow.conversationId id d.conversationKeys

/-- The database with a conversation key put in. -/
def putConversationKey (d : Database) (row : ConversationKeyRow) : Database :=
  { d with conversationKeys := Table.put ConversationKeyRow.conversationId row d.conversationKeys }

/-- The database with a conversation key put in, which keeps the time of the last rotation
unless it brings one. -/
def updateConversationKey (d : Database) (row : ConversationKeyRow) : Database :=
  let former := (d.conversationKey? row.conversationId).bind ConversationKeyRow.rotatedAt
  d.putConversationKey { row with rotatedAt := row.rotatedAt.or former }

/-- The database without the key of a conversation. -/
def eraseConversationKey (d : Database) (id : String) : Database :=
  { d with
    conversationKeys := Table.erase ConversationKeyRow.conversationId id d.conversationKeys }

/-- The ids of the conversations with a key, in the order of the creation of the keys. -/
def conversationIds (d : Database) : List String :=
  (Table.byColumn ConversationKeyRow.createdAt ConversationKeyRow.conversationId
    d.conversationKeys).map ConversationKeyRow.conversationId

/-! ### Rotations -/

/-- Whether the log has a row for a conversation and a new version. -/
def hasRotation (d : Database) (id : String) (newVersion : IntegerCell) : Bool :=
  d.rotations.any fun r => r.conversationId == id && r.newVersion == newVersion

/-- The database with a row at the end of the log, if the log allows it. -/
def appendRotation? (d : Database) (row : RotationRow) : Option Database :=
  if d.hasRotation row.conversationId row.newVersion then none
  else some { d with rotations := d.rotations ++ [row] }

/-- The rows of a conversation in the log, oldest first. -/
def rotationsOf (d : Database) (id : String) : List RotationRow :=
  d.rotations.filter fun r => r.conversationId == id

/-- The records of rows of the log that are read together. -/
def readRotations (rows : List RotationRow) : Except StoreError (List RotationRecord) :=
  if rows.all RotationRow.isWellTyped then rows.mapM RotationRow.toRecord else .error .database

/-- The rotations of a conversation, oldest first. -/
def history (d : Database) (id : String) : Except StoreError (List RotationRecord) :=
  readRotations (d.rotationsOf id)

/-! ### Metadata -/

/-- The value of an entry. -/
def metadata? (d : Database) (key : String) : Option String :=
  d.metadata.lookup key

/-- The database with an entry, unless there is one already. -/
def addMetadata (d : Database) (key value : String) : Database :=
  if (d.metadata? key).isSome then d else { d with metadata := d.metadata ++ [(key, value)] }

/-- Whether the instants and integers of all rows can be read. -/
def isWellTyped (d : Database) : Bool :=
  d.keyPairs.all KeyPairRow.isWellTyped &&
    d.conversationKeys.all ConversationKeyRow.isWellTyped &&
    d.rotations.all RotationRow.isWellTyped

/-- The database without its rows; the metadata remain. -/
def clear (d : Database) : Database :=
  { empty with metadata := d.metadata }

end Database

end Keyring

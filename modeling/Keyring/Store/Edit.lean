import Keyring.Store.Database

/-!
# Editing rows directly

One column of the rows with a given id is set, past all operations of the store.  The database
itself still refuses what its tables do not allow: an absent value in a column that must have
one, a version below one, and rows that share what must be their own.  Columns are named without
regard to case.
-/

namespace Keyring

/-- The value of a column. -/
inductive Cell where
  | null
  | text (s : String)
  | integer (i : Int)

namespace Cell

/-- The value as a text; integers are written in digits. -/
def text? : Cell → Option String
  | null => none
  | text s => some s
  | integer i => some (toString i)

/-- The value as a text that may be absent. -/
def nullableText? : Cell → Option (Option String)
  | null => some none
  | c => c.text?.map some

/-- The value in a column of integers. -/
def number? : Cell → Option IntegerCell
  | null => none
  | text s => some (.ofText s)
  | integer i => some (.integer i)

end Cell

/-- A way to set a column of a row. -/
abbrev ColumnSetter (ρ : Type) := Cell → ρ → Option ρ

namespace KeyPairRow

/-- How a column is set. -/
def setter? : (column : String) → Option (ColumnSetter KeyPairRow)
  | "id" => some fun c r => c.text?.map ({ r with id := · })
  | "public_key" => some fun c r => c.text?.map ({ r with publicKey := · })
  | "encrypted_private_key" => some fun c r => c.text?.map ({ r with encryptedPrivateKey := · })
  | "kdf" => some fun c r => c.text?.map ({ r with kdf := · })
  | "kdf_params" => some fun c r => c.nullableText?.map ({ r with kdfParams := · })
  | "created_at" => some fun c r => c.text?.map ({ r with createdAt := · })
  | _ => none

end KeyPairRow

namespace ConversationKeyRow

/-- How a column is set. -/
def setter? : (column : String) → Option (ColumnSetter ConversationKeyRow)
  | "conversation_id" => some fun c r => c.text?.map ({ r with conversationId := · })
  | "encrypted_key" => some fun c r => c.text?.map ({ r with encryptedKey := · })
  | "iv" => some fun c r => c.text?.map ({ r with iv := · })
  | "tag" => some fun c r => c.text?.map ({ r with tag := · })
  | "version" => some fun c r =>
    (c.number?.filter IntegerCell.isPositive).map fun v => { r with version := v }
  | "created_at" => some fun c r => c.text?.map ({ r with createdAt := · })
  | "rotated_at" => some fun c r => c.nullableText?.map ({ r with rotatedAt := · })
  | _ => none

end ConversationKeyRow

namespace RotationRow

/-- How a column is set. -/
def setter? : (column : String) → Option (ColumnSetter RotationRow)
  | "conversation_id" => some fun c r => c.text?.map ({ r with conversationId := · })
  | "old_version" => some fun c r => c.number?.map ({ r with oldVersion := · })
  | "new_version" => some fun c r => c.number?.map ({ r with newVersion := · })
  | "rotated_at" => some fun c r => c.text?.map ({ r with rotatedAt := · })
  | "reason" => some fun c r => c.text?.map ({ r with reason := · })
  | _ => none

/-- The log with another number for the only row of a conversation.  The log is in the order of
the numbers, which count from one, and no two rows share one. -/
def renumber? (id : String) (cell : Cell) (rows : List RotationRow) : Option (List RotationRow) :=
  match rows.filter fun r => r.conversationId == id with
  | [] => some rows
  | [row] => do
    let number ← cell.number? >>= IntegerCell.integer?
    let others := rows.filter fun r => r.conversationId != id
    if number < 1 then return row :: others
    else if rows.length < number then return others ++ [row]
    else if rows[number.toNat - 1]? = some row then return rows
    else none
  | _ => none

end RotationRow

namespace Table

variable {ρ : Type}

/-- The table with the rows of an id changed. -/
def change? (id : ρ → String) (key : String) (f : ρ → Option ρ) (rows : List ρ) :
    Option (List ρ) :=
  rows.mapM fun r => if id r == key then f r else some r

end Table

namespace Database

/-- How a column of the metadata is set. -/
def metadataSetter? : (column : String) → Option (ColumnSetter (String × String))
  | "key" => some fun c e => c.text?.map (·, e.2)
  | "value" => some fun c e => c.text?.map (e.1, ·)
  | _ => none

/-- How many rows of a table have an id. -/
def countRows (d : Database) (table key : String) : Nat :=
  match table with
  | "key_pairs" => d.keyPairs.countP fun r => r.id == key
  | "conversation_keys" => d.conversationKeys.countP fun r => r.conversationId == key
  | "rotation_history" => d.rotations.countP fun r => r.conversationId == key
  | "store_meta" => d.metadata.countP fun r => r.1 == key
  | _ => 0

/-- The database with a column set in the rows of an id, if the tables allow it. -/
def setColumn? (d : Database) (table key column : String) (cell : Cell) : Option Database := do
  let column := column.toLower
  match table with
  | "key_pairs" =>
    let f ← KeyPairRow.setter? column
    let rows ← Table.change? KeyPairRow.id key (f cell) d.keyPairs
    if (rows.map KeyPairRow.id).Nodup then return { d with keyPairs := rows } else none
  | "conversation_keys" =>
    let f ← ConversationKeyRow.setter? column
    let rows ← Table.change? ConversationKeyRow.conversationId key (f cell) d.conversationKeys
    if (rows.map ConversationKeyRow.conversationId).Nodup then
      return { d with conversationKeys := rows }
    else none
  | "rotation_history" =>
    let rows ←
      if column = "seq" then RotationRow.renumber? key cell d.rotations
      else do
        let f ← RotationRow.setter? column
        Table.change? RotationRow.conversationId key (f cell) d.rotations
    if (rows.map fun r => (r.conversationId, r.newVersion)).Nodup then
      return { d with rotations := rows }
    else none
  | "store_meta" =>
    let f ← metadataSetter? column
    let entries ← Table.change? Prod.fst key (f cell) d.metadata
    if (entries.map Prod.fst).Nodup then return { d with metadata := entries } else none
  | _ => none

/-- The database without the rows of an id. -/
def eraseRows (d : Database) (table key : String) : Database :=
  match table with
  | "key_pairs" => d.eraseKeyPair key
  | "conversation_keys" => d.eraseConversationKey key
  | "rotation_history" =>
    { d with rotations := d.rotations.filter fun r => r.conversationId != key }
  | "store_meta" => { d with metadata := d.metadata.filter fun e => e.1 != key }
  | _ => d

end Database

end Keyring

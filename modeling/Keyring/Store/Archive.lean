import Keyring.Store.Database

/-!
# Databases as texts

The text of a database is an object with one list for each table, in which each row is an
object with its columns.
-/

namespace Keyring

namespace IntegerCell

/-- A value; a floating-point number is a list of its parts. -/
def toJson : IntegerCell → Json
  | integer i => .ofInt i
  | text s => .string s
  | real isNegative none => .array [.bool isNegative]
  | real isNegative (some x) => .array [.bool isNegative, .nat x.mantissa, .ofInt x.exponent]

/-- The value that was written. -/
def ofJson? : Json → Option IntegerCell
  | .string s => some (text s)
  | .array [.bool isNegative] => some (real isNegative none)
  | .array [.bool isNegative, .nat mantissa, exponent] =>
    exponent.int?.map fun e => real isNegative (some ⟨mantissa, e⟩)
  | j => j.int?.map integer

end IntegerCell

namespace KeyPairRow

/-- A row as an object. -/
def toJson (r : KeyPairRow) : Json :=
  .object [("id", .string r.id), ("public_key", .string r.publicKey),
    ("encrypted_private_key", .string r.encryptedPrivateKey), ("kdf", .string r.kdf),
    ("kdf_params", Json.ofOption Json.string r.kdfParams), ("created_at", .string r.createdAt)]

/-- The row of an object. -/
def ofJson? (j : Json) : Option KeyPairRow := do
  let m ← j.members?
    ["id", "public_key", "encrypted_private_key", "kdf", "kdf_params", "created_at"]
  return {
    id := ← m.required "id" Json.string?
    publicKey := ← m.required "public_key" Json.string?
    encryptedPrivateKey := ← m.required "encrypted_private_key" Json.string?
    kdf := ← m.required "kdf" Json.string?
    kdfParams := ← m.optional "kdf_params" Json.string?
    createdAt := ← m.required "created_at" Json.string? }

end KeyPairRow

namespace ConversationKeyRow

/-- A row as an object. -/
def toJson (r : ConversationKeyRow) : Json :=
  .object [("conversation_id", .string r.conversationId),
    ("encrypted_key", .string r.encryptedKey), ("iv", .string r.iv), ("tag", .string r.tag),
    ("version", r.version.toJson), ("created_at", .string r.createdAt),
    ("rotated_at", Json.ofOption Json.string r.rotatedAt)]

/-- The row of an object. -/
def ofJson? (j : Json) : Option ConversationKeyRow := do
  let m ← j.members?
    ["conversation_id", "encrypted_key", "iv", "tag", "version", "created_at", "rotated_at"]
  return {
    conversationId := ← m.required "conversation_id" Json.string?
    encryptedKey := ← m.required "encrypted_key" Json.string?
    iv := ← m.required "iv" Json.string?
    tag := ← m.required "tag" Json.string?
    version := ← m.required "version" IntegerCell.ofJson?
    createdAt := ← m.required "created_at" Json.string?
    rotatedAt := ← m.optional "rotated_at" Json.string? }

end ConversationKeyRow

namespace RotationRow

/-- A row as an object. -/
def toJson (r : RotationRow) : Json :=
  .object [("conversation_id", .string r.conversationId), ("old_version", r.oldVersion.toJson),
    ("new_version", r.newVersion.toJson), ("rotated_at", .string r.rotatedAt),
    ("reason", .string r.reason)]

/-- The row of an object. -/
def ofJson? (j : Json) : Option RotationRow := do
  let m ← j.members? ["conversation_id", "old_version", "new_version", "rotated_at", "reason"]
  return {
    conversationId := ← m.required "conversation_id" Json.string?
    oldVersion := ← m.required "old_version" IntegerCell.ofJson?
    newVersion := ← m.required "new_version" IntegerCell.ofJson?
    rotatedAt := ← m.required "rotated_at" Json.string?
    reason := ← m.required "reason" Json.string? }

end RotationRow

namespace Database

/-- The database as an object. -/
def toJson (d : Database) : Json :=
  .object [("key_pairs", .array (d.keyPairs.map KeyPairRow.toJson)),
    ("conversation_keys", .array (d.conversationKeys.map ConversationKeyRow.toJson)),
    ("rotation_history", .array (d.rotations.map RotationRow.toJson)),
    ("store_meta", .object (d.metadata.map fun e => (e.1, .string e.2)))]

/-- The metadata of an object. -/
def metadataOfJson? : Json → Option (List (String × String))
  | .object members => members.mapM fun m => m.2.string?.map (m.1, ·)
  | _ => none

/-- The database of an object. -/
def ofJson? (j : Json) : Option Database := do
  let m ← j.members? ["key_pairs", "conversation_keys", "rotation_history", "store_meta"]
  return {
    keyPairs := ← m.required "key_pairs" (Json.list? KeyPairRow.ofJson?)
    conversationKeys := ←
      m.required "conversation_keys" (Json.list? ConversationKeyRow.ofJson?)
    rotations := ← m.required "rotation_history" (Json.list? RotationRow.ofJson?)
    metadata := ← m.required "store_meta" metadataOfJson? }

/-- The text of a database. -/
def text (d : Database) : String := d.toJson.compact

/-- The database of a text; no text at all is a database without rows. -/
def ofText? (s : String) : Option Database :=
  if s.isEmpty then some empty else Json.ofText? s >>= ofJson?

end Database

end Keyring

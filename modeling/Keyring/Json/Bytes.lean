import Keyring.Bytes
import Keyring.Json.Reader

/-!
# Reading JSON from bytes

Bytes are read as the text that they are in UTF-8.  Bytes that are no text may still hold a
value: within a string that nobody reads any bytes may stand, just as escapes that spell no
text.  Each stray byte of a string is therefore replaced by such escapes.
-/

namespace Keyring.Json

/-- Where a character of a text stands. -/
inductive Place where
  | outside
  | inString
  /-- Right after a backslash in a string. -/
  | escaped

namespace Place

/-- The place after a character. -/
def next : Place → Char → Place
  | outside, c => if c = '"' then inString else outside
  | inString, c => if c = '"' then outside else if c = '\\' then escaped else inString
  | escaped, _ => inString

end Place

/-- Two escapes that spell no text, whatever stands before and after them. -/
def strayEscape : List Char :=
  ['\\', 'u', 'd', 'c', '0', '0', '\\', 'u', 'd', 'c', '0', '0']

/-- The text with escapes in the place of its stray bytes, unless one stands where no string
can have it. -/
def mend : Place → List (Option Char) → Option (List Char)
  | _, [] => some []
  | place, some c :: rest => (mend (place.next c) rest).map (c :: ·)
  | .inString, none :: rest => (mend .inString rest).map (strayEscape ++ ·)
  | _, none :: _ => none

/-- The value that bytes denote. -/
def ofBytes? (b : Bytes) : Option Json :=
  match Bytes.ofUtf8? b with
  | some s => ofText? s
  | none => mend .outside b.characters >>= ofChars?

@[simp]
theorem ofBytes?_utf8 (s : String) :
  ofBytes? (Bytes.utf8 s) = ofText? s
  := by
  simp [ofBytes?]

end Keyring.Json

import Keyring.Bytes
import Keyring.Text.Digits

/-!
# Names of databases

A database is named by the path of its file.  A name that starts with `file:` is a locator
instead: a path with escapes, perhaps after the name of this machine, then options after a
question mark, and a remark after a number sign.  The options say how the file is used.  A
database without a path is in no file.
-/

namespace Keyring

/-- How the file of a database is used. -/
structure FileUse where
  /-- Whether the file is made if it is not there. -/
  mayBeMade : Bool
  /-- Whether the database may be changed. -/
  mayBeWritten : Bool
  /-- Whether the file is taken for one that nobody changes. -/
  isFrozen : Bool
  /-- Whether other programs that use the file are not heeded. -/
  isAlone : Bool
deriving DecidableEq

/-- What the name of a database stands for. -/
inductive DatabaseName where
  /-- The database of a file. -/
  | file (path : String) (use : FileUse)
  /-- A database that nobody keeps. -/
  | transient
deriving DecidableEq

namespace DatabaseName

open Text (digitsValue hexValue?)

/-! ### Escapes -/

/-- The bytes of a text with escapes, up to the first escape for the byte zero. -/
def unescapeBytes : List Char → Bytes
  | '%' :: a :: b :: rest =>
    match hexValue? a, hexValue? b with
    | some x, some y =>
      if x = 0 && y = 0 then [] else UInt8.ofNat (16 * x + y) :: unescapeBytes rest
    | _, _ => Bytes.utf8 "%" ++ unescapeBytes (a :: b :: rest)
  | c :: rest => Bytes.utf8 (String.singleton c) ++ unescapeBytes rest
  | [] => []

/-- The text that is written with escapes. -/
def unescape? (s : List Char) : Option String :=
  Bytes.ofUtf8? (unescapeBytes s)

/-! ### Options -/

/-- The text before the first occurrence of a character, and the text after it. -/
def cut (c : Char) (s : List Char) : List Char × List Char :=
  (s.takeWhile (· != c), (s.dropWhile (· != c)).drop 1)

/-- Name and value of an option. -/
def readOption? (s : List Char) : Option (String × String) := do
  let (name, value) := cut '=' s
  return (← unescape? name, ← unescape? value)

/-- The options that stand after a question mark, but for those without a name. -/
def readOptions? (s : List Char) : Option (List (String × String)) :=
  (((String.ofList s).splitOn "&").mapM fun o => readOption? o.toList).map fun options =>
    options.filter fun o => o.1 ≠ ""

/-- The values of all options of a name. -/
def valuesOf (name : String) (options : List (String × String)) : List String :=
  (options.filter fun o => o.1 = name).map Prod.snd

/-- Whether an option says yes: by a number whose last eight bits are not all zero, or by a
word.  The first option of a name counts. -/
def isOn (name : String) (options : List (String × String)) : Bool :=
  match (valuesOf name options).head? with
  | none => false
  | some value =>
    let digits := value.toList.takeWhile Char.isDigit
    if digits.isEmpty then ["on", "yes", "true"].contains value.toLower
    else
      let n := digitsValue digits
      n < 2147483648 && n % 256 ≠ 0

/-- What may be done with a database. -/
inductive Mode where
  | read
  | write
  /-- Write, also to a file that is not there yet. -/
  | make
  /-- Whatever is done, keep no file. -/
  | memory
deriving DecidableEq

namespace Mode

/-- The mode of a name. -/
def ofName? : (name : String) → Option Mode
  | "ro" => some read
  | "rw" => some write
  | "rwc" => some make
  | "memory" => some memory
  | _ => none

/-- Whether one mode may follow another: it must not allow more. -/
def mayFollow : (earlier later : Mode) → Bool
  | _, memory | memory, _ | _, read | make, _ | write, write => true
  | _, _ => false

end Mode

/-- The mode that options leave: the last that they name, if each may follow the one before. -/
def readMode? (options : List (String × String)) : Option Mode :=
  (valuesOf "mode" options).foldlM (fun earlier name => do
    let later ← Mode.ofName? name
    if earlier.mayFollow later then return later else none) .make

/-- Whether the options for a cache are known; they change nothing that shows. -/
def isCacheKnown (options : List (String × String)) : Bool :=
  (valuesOf "cache" options).all ["shared", "private"].contains

/-- Ways to use files. -/
inductive FileSystem where
  | shared
  /-- Without heed to other programs. -/
  | alone
  /-- There are no files. -/
  | absent
deriving DecidableEq

/-- The way to use files that options leave: the last that they name. -/
def readFileSystem? (options : List (String × String)) : Option FileSystem :=
  match (valuesOf "vfs" options).getLast? with
  | none | some "unix" | some "unix-excl" => some .shared
  | some "unix-none" | some "unix-dotfile" => some .alone
  | some "memdb" => some .absent
  | some _ => none

/-! ### Names -/

/-- The database that a path names under options.  A database that nobody keeps is new, and so
must be written. -/
def ofPath? (path : String) (options : List (String × String)) : Option DatabaseName := do
  let mode ← readMode? options
  let system ← readFileSystem? options
  let use : FileUse := {
    mayBeMade := mode = .make
    mayBeWritten := mode ≠ .read && !isOn "immutable" options
    isFrozen := isOn "immutable" options
    isAlone := system = .alone || isOn "nolock" options }
  if !isCacheKnown options then none
  else if mode = .memory || path = "" || path = ":memory:" then
    if mode = .read then none else return transient
  else if system = .absent then
    if use.mayBeWritten then return transient else none
  else return file path use

/-- The part of a locator after the name of this machine, if that stands there and no other. -/
def skipMachine? : List Char → Option (List Char)
  | '/' :: '/' :: s =>
    let machine := String.ofList (s.takeWhile (· != '/'))
    if machine = "" || machine = "localhost" then some (s.dropWhile (· != '/')) else none
  | s => some s

/-- The database that a locator names, without its start `file:`. -/
def ofLocator? (s : List Char) : Option DatabaseName := do
  let s := (← skipMachine? s).takeWhile (· != '#')
  let (path, options) := cut '?' s
  ofPath? (← unescape? path) (← readOptions? options)

/-- The database of a name. -/
def ofString? (name : String) : Option DatabaseName :=
  match name.toList with
  | 'f' :: 'i' :: 'l' :: 'e' :: ':' :: s => ofLocator? s
  | _ => ofPath? name []

end DatabaseName

end Keyring

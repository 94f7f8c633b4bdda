import Keyring.CommandLine.DatabaseName
import Keyring.Entries
import Keyring.Store.Database

/-!
# Files

What a command asks of files is a short list of requests.  A file tree answers them in the way
of a machine with directories: every part of a path but the last must name a directory, a
single dot stays in it, and two dots leave it.  A file holds a text or a database, and the void
keeps nothing.  Names and paths have a greatest length.
-/

namespace Keyring

/-- Requests to files, which are named by paths. -/
structure FileAccess (m : Type → Type) where
  /-- Whether there is a file or a directory. -/
  isPresent : (path : String) → m Bool
  /-- The text of a file, if it can be read. -/
  readText : (path : String) → m (Option String)
  /-- Write a text to a file, and return whether that was possible. -/
  writeText : (path content : String) → m Bool
  /-- Make a directory with those above it, and return whether it is there then. -/
  makeDirectories : (path : String) → m Bool
  /-- The database of a file, if the file can hold one and can be used so; it is `none` as long
  as nothing was written.  A file that is not there is made if it may be made. -/
  openDatabase : (path : String) → (use : FileUse) → m (Option (Option Database))
  /-- Keep a database in the file that it was opened from. -/
  saveDatabase : (path : String) → (use : FileUse) → Database → m Unit

/-- Whether a file with a text still counts as one in which nothing was written. -/
def isUnwritten (content : String) : Bool :=
  content.utf8ByteSize ≤ 1

/-- What stands under a name in a file tree. -/
inductive FileEntry where
  | directory
  | text (content : String)
  /-- A database, and whether programs share it. -/
  | database (content : Database) (isShared : Bool)
  /-- A file that is empty whatever is written to it. -/
  | void

/-- Directories and files. -/
structure FileTree where
  /-- The entries below the root, each with the names on the way from the root to it. -/
  entries : List (List String × FileEntry)
  /-- Where paths start that do not start at the root. -/
  workingDirectory : List String

namespace FileTree

/-! ### Places -/

/-- The entry at a place. -/
def entry? (t : FileTree) : (place : List String) → Option FileEntry
  | [] => some .directory
  | name :: rest => t.entries.lookup (name :: rest)

/-- Whether there is a directory at a place. -/
def isDirectory (t : FileTree) (place : List String) : Bool :=
  match t.entry? place with
  | some .directory => true
  | _ => false

/-- The tree with an entry put at a place. -/
def put (t : FileTree) (place : List String) (entry : FileEntry) : FileTree :=
  { t with entries := setEntry place entry t.entries }

/-- The tree without the entry at a place. -/
def erase (t : FileTree) (place : List String) : FileTree :=
  { t with entries := t.entries.filter fun e => e.1 ≠ place }

/-- The place that one part of a path leads to. -/
def follow (place : List String) (part : String) : List String :=
  if part = "" || part = "." then place
  else if part = ".." then place.dropLast
  else place ++ [part]

/-- Where a path starts. -/
def start (t : FileTree) (path : String) : List String :=
  if path.startsWith "/" then [] else t.workingDirectory

/-! ### Paths -/

/-- The greatest length of a name, in bytes. -/
def nameLimit : Nat := 255

/-- The greatest length of a path, in bytes. -/
def pathLimit : Nat := 4095

/-- Why a path leads nowhere. -/
inductive PathError where
  /-- A directory on the way is not there. -/
  | missing
  /-- Something on the way is no directory, or a name is too long. -/
  | unusable
deriving DecidableEq

/-- The place that the parts of a path lead to. -/
def walk (t : FileTree) (place : List String) :
    (parts : List String) → Except PathError (List String)
  | [] => .ok place
  | part :: rest =>
    match t.entry? place with
    | none => .error .missing
    | some .directory =>
      if nameLimit < part.utf8ByteSize then .error .unusable else t.walk (follow place part) rest
    | some _ => .error .unusable

/-- The place that a path leads to; the last part need not be there. -/
def place (t : FileTree) (path : String) : Except PathError (List String) :=
  if pathLimit < path.utf8ByteSize then .error .unusable
  else t.walk (t.start path) (path.splitOn "/")

/-- The place that a path leads to, if it leads anywhere. -/
def place? (t : FileTree) (path : String) : Option (List String) :=
  (t.place path).toOption

/-! ### Texts -/

/-- Whether there is a file or a directory. -/
def isPresent (t : FileTree) (path : String) : Bool :=
  (t.place? path >>= t.entry?).isSome

/-- The text of a file. -/
def text? (t : FileTree) (path : String) : Option String :=
  match t.place? path >>= t.entry? with
  | some (.text content) => some content
  | some .void => some ""
  | _ => none

/-- The tree with a text written to a file. -/
def writeText? (t : FileTree) (path content : String) : Option FileTree :=
  match t.place? path with
  | some place =>
    match t.entry? place with
    | some .directory => none
    | some .void => some t
    | _ => some (t.put place (.text content))
  | none => none

/-! ### Directories -/

/-- What comes of making one directory. -/
inductive Making where
  | made (after : FileTree)
  /-- Something has the name already. -/
  | taken
  | failed (error : PathError)

/-- Make one directory. -/
def makeDirectory (t : FileTree) (path : String) : Making :=
  match (path.splitOn "/").reverse.dropWhile (· = "") with
  | [] => .taken
  | name :: above =>
    match t.place (String.intercalate "/" (above.reverse ++ [""])) with
    | .error e => .failed e
    | .ok place =>
      if pathLimit < path.utf8ByteSize then .failed .unusable
      else if name = "." || name = ".." then .taken
      else if nameLimit < name.utf8ByteSize then .failed .unusable
      else if (t.entry? (place ++ [name])).isSome then .taken
      else .made (t.put (place ++ [name]) .directory)

/-- The paths of the directories above the one of a path, nearest first. -/
def pathsAbove (path : String) : List String :=
  let names := (path.splitOn "/").filter fun part => part ≠ "" && part ≠ "."
  let root := if path.startsWith "/" then "/" else ""
  (List.range (names.length - 1)).reverse.map fun n =>
    root ++ String.intercalate "/" (names.take (n + 1))

/-- Make one directory, and return whether it is there then. -/
def provideDirectory (t : FileTree) (path : String) : Bool × FileTree :=
  match t.makeDirectory path with
  | .made after => (true, after)
  | .taken => ((t.place? path).any t.isDirectory, t)
  | .failed _ => (false, t)

/-- Make a directory, after those above it if there is none to make it in. -/
def makeAlong (t : FileTree) (path : String) : (above : List String) → Bool × FileTree
  | [] => t.provideDirectory path
  | next :: rest =>
    match t.makeDirectory path with
    | .failed .missing =>
      match t.makeAlong next rest with
      | (true, after) => after.provideDirectory path
      | (false, after) => (false, after)
    | _ => t.provideDirectory path

/-- Make a directory with those above it. -/
def makeDirectories (t : FileTree) (path : String) : Bool × FileTree :=
  t.makeAlong path (pathsAbove path)

/-! ### Databases -/

/-- The greatest length of the path of a database from the root, in bytes. -/
def databasePathLimit : Nat := 504

/-- The place of the file of a database.  Two dots cancel the name before them, whether that is
there or not. -/
def databasePlace? (t : FileTree) (path : String) : Option (List String) :=
  let place := (path.splitOn "/").foldl follow (t.start path)
  let length := place.foldl (fun n name => n + name.utf8ByteSize + 1) 0
  if length ≤ databasePathLimit && t.isDirectory place.dropLast &&
    place.all (·.utf8ByteSize ≤ nameLimit) then some place else none

/-- Whether a database that programs share, or do not share, can be used so.  One who is alone
does not use what others share, unless it is frozen; and what nobody shares is shared from then
on, so it must be written, unless it is frozen. -/
def isUsable (use : FileUse) (isShared : Bool) : Bool :=
  use.isFrozen || (if isShared then !use.isAlone else use.isAlone || use.mayBeWritten)

/-- The database of a file at a place, and the tree in which there is the file. -/
def openAt (t : FileTree) (place : List String) (use : FileUse) :
    Option (Option Database) × FileTree :=
  let unwritten : Option (Option Database) := if use.mayBeWritten then some none else none
  match t.entry? place with
  | some (.database d isShared) =>
    if isUsable use isShared then
      (some (some d), t.put place (.database d (isShared || !(use.isFrozen || use.isAlone))))
    else (none, t)
  | some (.text content) => (if isUnwritten content then unwritten else none, t)
  | some _ => (none, t)
  | none => if use.mayBeMade then (unwritten, t.put place (.text "")) else (none, t)

/-- The place of a file that goes along with the file of a database. -/
def beside (place : List String) (ending : String) : List String :=
  place.dropLast ++ [place.getLastD "" ++ ending]

/-- Whether a file was left that says how to undo what an earlier use did not finish. -/
def isUnfinished (t : FileTree) (place : List String) : Bool :=
  match t.entry? (beside place "-journal") with
  | some (.text content) => content ≠ ""
  | _ => false

/-- Whether something that stands beside the file of a database keeps it from being used. -/
def isBlocked (t : FileTree) (place : List String) (use : FileUse) : Bool :=
  !use.isFrozen &&
    (t.isDirectory (beside place "-journal") || t.isDirectory (beside place "-wal") ||
      (!use.mayBeWritten && t.isUnfinished place))

/-- The database of a file, and the tree in which there is the file.  What an earlier use did not
finish is cleared away. -/
def openDatabase (t : FileTree) (path : String) (use : FileUse) :
    Option (Option Database) × FileTree :=
  match t.databasePlace? path with
  | none => (none, t)
  | some place =>
    let (found, after) := t.openAt place use
    if t.isBlocked place use then (none, after)
    else if found.isSome && !use.isFrozen && t.isUnfinished place then
      (found, after.erase (beside place "-journal"))
    else (found, after)

/-- The tree with a database kept in a file. -/
def saveDatabase (t : FileTree) (path : String) (use : FileUse) (d : Database) : FileTree :=
  match t.databasePlace? path with
  | some place => t.put place (.database d !use.isAlone)
  | none => t

/-- The requests to a file tree. -/
def access : FileAccess (StateM FileTree) where
  isPresent path := fun t => (t.isPresent path, t)
  readText path := fun t => (t.text? path, t)
  writeText path content := fun t =>
    match t.writeText? path content with
    | some after => (true, after)
    | none => (false, t)
  makeDirectories path := fun t => t.makeDirectories path
  openDatabase path use := fun t => t.openDatabase path use
  saveDatabase path use d := fun t => ((), t.saveDatabase path use d)

end FileTree

end Keyring

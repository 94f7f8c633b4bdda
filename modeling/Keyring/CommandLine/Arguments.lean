import Keyring.CommandLine.Command
import Keyring.Text.Digits

/-!
# Arguments

The arguments of the program name a command in one or two words, each of them followed by
options and operands in any order.  An option may stand at most once among the arguments of a
word.  The options that name files may stand after every word, and count where they stand
last.  In the place of a word, `help` asks for help on the words after it.  Reading stops at the
first argument that asks for help or for the version, or that does not fit.
-/

namespace Keyring.Arguments

/-- Why there is no command to run. -/
inductive Halt where
  | help
  | version
  /-- Some argument does not fit, or is missing. -/
  | misuse
deriving DecidableEq

/-! ### Kinds of values -/

/-- What an option or an operand takes. -/
inductive Kind where
  /-- No value at all. -/
  | flag
  /-- Nothing more is read. -/
  | halt (reason : Halt)
  | text
  /-- A text that is not empty. -/
  | path
  /-- An integer of 32 bits without sign. -/
  | word
deriving DecidableEq

/-- The integer of 32 bits without sign that a text writes, with a sign or without. -/
def readWord? (s : String) : Option UInt32 := do
  let n ← match s.toList with
    | '+' :: ds => Text.number? ds
    | '-' :: ds => (Text.number? ds).filter (· = 0)
    | ds => Text.number? ds
  if n < UInt32.size then some (UInt32.ofNat n) else none

/-- Whether a value is of a kind. -/
def Kind.accepts : Kind → String → Bool
  | .text, _ => true
  | .path, s => !s.isEmpty
  | .word, s => (readWord? s).isSome
  | _, _ => false

/-! ### Tokens -/

/-- What an argument is, by its looks. -/
inductive Token where
  | operand
  /-- All arguments after this one are operands. -/
  | stop
  /-- An option with the value that is attached to it. -/
  | long (name : String) (value? : Option String)
  /-- An option of one letter. -/
  | short (letter : Char)
deriving DecidableEq

/-- What an argument is. -/
def Token.ofString (s : String) : Token :=
  match s.toList with
  | ['-', '-'] => .stop
  | '-' :: '-' :: rest =>
    let value? := match rest.dropWhile (· != '=') with
      | _ :: value => some (String.ofList value)
      | [] => none
    .long (String.ofList (rest.takeWhile (· != '='))) value?
  | '-' :: letter :: _ => .short letter
  | _ => .operand

/-! ### Levels -/

/-- Options with what they take. -/
abbrev Options := List (String × Kind)

/-- What was read of the arguments that follow a word. -/
structure Level where
  options : List (String × String)
  operands : List String
  /-- The arguments from the next word on. -/
  rest : List String

namespace Level

/-- The level of which nothing was read yet. -/
def empty : Level := ⟨[], [], []⟩

/-- The value of an option. -/
def option? (l : Level) (name : String) : Option String :=
  l.options.lookup name

/-- The level with one more option. -/
def addOption (l : Level) (name value : String) : Level :=
  { l with options := (name, value) :: l.options }

/-- The level with more operands. -/
def addOperands (l : Level) (values : List String) : Level :=
  { l with operands := l.operands ++ values }

/-- Read a level with the given options, and with operands of the given kinds at most. -/
def read (known : Options) (kinds : List Kind) (l : Level) : List String → Except Halt Level
  | [] => .ok l
  | token :: rest =>
    match Token.ofString token with
    | .operand =>
      match kinds with
      | [] => .ok { l with rest := token :: rest }
      | kind :: kinds =>
        if kind.accepts token then read known kinds (l.addOperands [token]) rest
        else .error .misuse
    | .stop =>
      if rest.length ≤ kinds.length && (kinds.zip rest).all fun o => o.1.accepts o.2 then
        .ok (l.addOperands rest)
      else .error .misuse
    | .short letter =>
      match (if letter = 'h' then known.lookup "help"
        else if letter = 'V' then known.lookup "version" else none) with
      | some (.halt reason) => .error reason
      | _ => .error .misuse
    | .long name value? =>
      match known.lookup name with
      | none => .error .misuse
      | some kind =>
        if (l.option? name).isSome then .error .misuse
        else
          match kind, value? with
          | .halt reason, none => .error reason
          | .halt _, some _ => .error .misuse
          | .flag, none => read known kinds (l.addOption name "") rest
          | .flag, some _ => .error .misuse
          | kind, some value =>
            if kind.accepts value then read known kinds (l.addOption name value) rest
            else .error .misuse
          | kind, none =>
            match rest with
            | [] => .error .misuse
            | value :: rest =>
              if Token.ofString value = .operand && kind.accepts value then
                read known kinds (l.addOption name value) rest
              else .error .misuse

/-- The next word, with the arguments after it; `isTopic` tells on what there is help. -/
def word (l : Level) (isTopic : List String → Bool) : Except Halt (String × List String) :=
  match l.rest with
  | [] => .error .misuse
  | "help" :: words => .error (if isTopic words then .help else .misuse)
  | w :: rest => .ok (w, rest)

end Level

/-! ### Forms of commands -/

/-- The options that may stand after every word. -/
def common : Options :=
  [("data-dir", .path), ("config", .path), ("help", .halt .help)]

/-- What follows the last word of a command. -/
structure Form where
  options : Options
  operands : List Kind
  /-- The command of what was read. -/
  command? : Level → Option Command

namespace Form

/-- A command without options and operands. -/
def plain (c : Command) : Form := ⟨[], [], fun _ => some c⟩

/-- A command with an operand only. -/
def single (kind : Kind) (command : String → Command) : Form :=
  ⟨[], [kind], fun l => l.operands.head?.map command⟩

/-- The options that name a peer. -/
def peerOptions : Options := [("key-id", .text), ("peer", .text)]

/-- The peer of a level. -/
def peer? (l : Level) : Option Peer := do
  return ⟨← l.option? "key-id", ← l.option? "peer"⟩

/-- Deriving the key of a conversation. -/
def derive : Form where
  options := ("version", .word) :: peerOptions
  operands := [.text]
  command? l := do
    let version ← readWord? ((l.option? "version").getD "1")
    return .deriveConversationKey (← l.operands.head?) (← peer? l) version

/-- Rotating the key of a conversation. -/
def rotate : Form where
  options := ("reason", .text) :: peerOptions
  operands := [.text]
  command? l := do
    let reason := (l.option? "reason").getD "manual"
    return .rotateConversationKey (← l.operands.head?) (← peer? l) reason

/-- Creating a backup. -/
def create : Form where
  options := [("out", .path)]
  operands := []
  command? l := some (.createBackup (l.option? "out"))

/-- Deleting everything. -/
def clear : Form where
  options := [("yes", .flag)]
  operands := []
  command? l := some (.clear (l.option? "yes").isSome)

/-- The commands of two words. -/
def groups : List (String × List (String × Form)) :=
  [("keypair", [
      ("generate", single .text .generateKeyPair),
      ("list", plain .listKeyPairs),
      ("export", single .text .exportPublicKey),
      ("delete", single .text .deleteKeyPair)]),
    ("conversation", [
      ("derive", derive),
      ("info", single .text .showConversationKey),
      ("list", plain .listConversations),
      ("rotate", rotate),
      ("history", single .text .showRotations),
      ("delete", single .text .deleteConversationKey)]),
    ("backup", [
      ("create", create),
      ("restore", single .path .restoreBackup)])]

/-- The command that the arguments after its last word ask for, and the options among them. -/
def read (f : Form) (tokens : List String) : Except Halt (Command × List (String × String)) := do
  let l ← Level.read (f.options ++ common) f.operands .empty tokens
  let isComplete := l.rest.isEmpty && l.operands.length = f.operands.length
  match f.command? l with
  | some c => if isComplete then return (c, l.options) else throw .misuse
  | none => throw .misuse

end Form

/-! ### All arguments -/

/-- The form of the commands of one word. -/
def form? (word : String) : Option Form :=
  if word = "clear" then some .clear else none

/-- Whether there is help on words that follow the word of a group. -/
def isTopicAmong (forms : List (String × Form)) : List String → Bool
  | [] => true
  | [word] => word = "help" || (forms.lookup word).isSome
  | _ => false

/-- Whether there is help on words. -/
def isTopic : List String → Bool
  | [] => true
  | first :: rest =>
    match Form.groups.lookup first with
    | some forms => isTopicAmong forms rest
    | none => (first = "help" || (form? first).isSome) && rest.isEmpty

/-- A command with the options that were found, those that count first. -/
def invocation (command : Command) (options : List (String × String)) : Invocation :=
  ⟨options.lookup "data-dir", options.lookup "config", command⟩

/-- What the arguments of the program ask for. -/
def parse (tokens : List String) : Except Halt Invocation := do
  let top ← Level.read (("version", .halt .version) :: common) [] .empty tokens
  let (first, rest) ← top.word isTopic
  match form? first with
  | some form =>
    let (command, options) ← form.read rest
    return invocation command (options ++ top.options)
  | none =>
    let some forms := Form.groups.lookup first | throw .misuse
    let middle ← Level.read common [] .empty rest
    let (second, rest) ← middle.word (isTopicAmong forms)
    let some form := forms.lookup second | throw .misuse
    let (command, options) ← form.read rest
    return invocation command (options ++ middle.options ++ top.options)

end Keyring.Arguments

import Keyring.Json.Members
import Keyring.Json.Printer
import Keyring.Json.Reader
import Keyring.Password.Strategy

/-!
# Records of cost parameters

An algorithm is recorded by its name.  Cost parameters are recorded as an object that names
its algorithm in one of its members, wherever that stands, or as an array that starts with
the name.  Such a record is read as a whole before its members are looked at, so that even a
member that it does not know has to be readable.
-/

namespace Keyring

/-! ### Algorithms -/

namespace KdfAlgorithm

/-- The record of an algorithm. -/
def toJson (a : KdfAlgorithm) : Json := .string a.name

/-- The algorithm of a record: its name, or an object that holds `null` under that name. -/
def ofJson? : Json → Option KdfAlgorithm
  | .string s => ofName? s
  | .object [(s, .null)] => ofName? s
  | _ => none

end KdfAlgorithm

/-! ### Cost parameters -/

namespace KdfParams

/-- The record of cost parameters. -/
def toJson (p : KdfParams) : Json :=
  match p with
  | .argon2id memoryKib iterations parallelism =>
    .object [("algorithm", p.algorithm.toJson), ("memoryKib", .nat memoryKib.toNat),
      ("iterations", .nat iterations.toNat), ("parallelism", .nat parallelism.toNat)]
  | .pbkdf2 rounds => .object [("algorithm", p.algorithm.toJson), ("rounds", .nat rounds.toNat)]

/-- The most arrays and objects that may stand within each other in a text that is read as a
whole. -/
def maxLevels : Nat := 127

/-- The members of a record other than the algorithm, and the name of the algorithm. -/
def split? : Json → Option (String × Json)
  | .object members =>
    match members.filter fun m => m.1 = "algorithm" with
    | [(_, .string name)] => some (name, .object (members.filter fun m => m.1 ≠ "algorithm"))
    | _ => none
  | .array (.string name :: items) => some (name, .array items)
  | _ => none

/-- The cost parameters of a record that stands within `depth` arrays and objects. -/
def ofJson? (depth : Nat) (j : Json) : Option KdfParams := do
  if !j.isReadable (maxLevels - depth) then
    none
  let (name, rest) ← split? j
  match ← KdfAlgorithm.ofName? name with
  | .argon2id =>
    let m ← rest.members? ["memoryKib", "iterations", "parallelism"]
    return .argon2id (← m.required "memoryKib" Json.uint32?)
      (← m.required "iterations" Json.uint32?) (← m.required "parallelism" Json.uint32?)
  | .pbkdf2 =>
    let m ← rest.members? ["rounds"]
    return .pbkdf2 (← m.required "rounds" Json.uint32?)

/-- The text of cost parameters in the database. -/
def text (p : KdfParams) : String := p.toJson.compact

/-- The cost parameters that a text records. -/
def ofText? (s : String) : Option KdfParams := Json.ofText? s >>= ofJson? 0

end KdfParams

/-! ### Choices -/

namespace KdfConfig

/-- The record of a choice. -/
def toJson (c : KdfConfig) : Json :=
  .object [("algorithm", c.algorithm.toJson), ("memory_kib", .nat c.memoryKib.toNat),
    ("iterations", .nat c.iterations.toNat), ("parallelism", .nat c.parallelism.toNat),
    ("pbkdf2_rounds", .nat c.rounds.toNat)]

/-- The choice of a record; what is missing is taken from the default choice. -/
def ofJson? (j : Json) : Option KdfConfig := do
  let m ← j.members? ["algorithm", "memory_kib", "iterations", "parallelism", "pbkdf2_rounds"]
  return {
    algorithm := ← m.defaulted "algorithm" KdfAlgorithm.ofJson? standard.algorithm
    memoryKib := ← m.defaulted "memory_kib" Json.uint32? standard.memoryKib
    iterations := ← m.defaulted "iterations" Json.uint32? standard.iterations
    parallelism := ← m.defaulted "parallelism" Json.uint32? standard.parallelism
    rounds := ← m.defaulted "pbkdf2_rounds" Json.uint32? standard.rounds }

/-- The choice that a text records. -/
def ofText? (s : String) : Option KdfConfig := Json.ofText? s >>= ofJson?

end KdfConfig

end Keyring

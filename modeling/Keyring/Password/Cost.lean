import Keyring.Failure

/-!
# Password derivations and their cost

A key is derived from a password by one of two algorithms, each with its cost parameters.
Parameters may come from outside, so they are checked against an upper bound, and against the
least values with which the algorithm is defined, before anything is derived.
-/

namespace Keyring

/-- An algorithm that derives keys from passwords. -/
inductive KdfAlgorithm where
  /-- Memory-hard; the default. -/
  | argon2id
  /-- For machines that cannot run the other one; of reduced security. -/
  | pbkdf2
deriving DecidableEq

namespace KdfAlgorithm

/-- The name under which an algorithm is recorded. -/
def name : KdfAlgorithm → String
  | .argon2id => "argon2id"
  | .pbkdf2 => "pbkdf2-sha256"

/-- The algorithm with a name. -/
def ofName? (s : String) : Option KdfAlgorithm :=
  if s = "argon2id" then some .argon2id
  else if s = "pbkdf2-sha256" then some .pbkdf2
  else none

/-- The default algorithm. -/
def standard : KdfAlgorithm := .argon2id

@[simp]
theorem ofName?_name (a : KdfAlgorithm) :
  ofName? a.name = some a
  := by
  cases a <;> decide

theorem ofName?_eq_some_iff {s : String} {a : KdfAlgorithm} :
  ofName? s = some a ↔ s = a.name
  := by
  constructor
  · intro h
    unfold ofName? at h
    split at h
    · cases h
      assumption
    · split at h
      · cases h
        assumption
      · cases h
  · rintro rfl
    apply ofName?_name

end KdfAlgorithm

/-- An algorithm with its cost: everything but password and salt that a derived key depends
on. -/
inductive KdfParams where
  | argon2id (memoryKib iterations parallelism : UInt32)
  | pbkdf2 (rounds : UInt32)
deriving DecidableEq

namespace KdfParams

/-- The largest memory, in KiB. -/
def maxMemoryKib : UInt32 := 1048576

/-- The largest number of passes. -/
def maxIterations : UInt32 := 64

/-- The largest number of lanes. -/
def maxParallelism : UInt32 := 16

/-- The largest number of rounds. -/
def maxRounds : UInt32 := 10000000

/-- The algorithm. -/
def algorithm : KdfParams → KdfAlgorithm
  | .argon2id _ _ _ => .argon2id
  | .pbkdf2 _ => .pbkdf2

/-- A description of the parameters. -/
def description : KdfParams → String
  | .argon2id memoryKib iterations parallelism =>
    s!"Argon2id \x7b memory_kib: {memoryKib.toNat}, iterations: {iterations.toNat}, " ++
      s!"parallelism: {parallelism.toNat} \x7d"
  | .pbkdf2 rounds => s!"Pbkdf2Sha256 \x7b rounds: {rounds.toNat} \x7d"

/-- Whether no parameter is above its upper bound. -/
def isWithinBounds : KdfParams → Bool
  | .argon2id memoryKib iterations parallelism =>
    memoryKib ≤ maxMemoryKib && iterations ≤ maxIterations && parallelism ≤ maxParallelism
  | .pbkdf2 rounds => rounds ≤ maxRounds

/-- Refuse parameters above their upper bounds. -/
def checkBounds (p : KdfParams) : Except CryptoError Unit :=
  if p.isWithinBounds then .ok ()
  else .error (.invalidInput s!"kdf parameters out of range: {p.description}")

/-- Which of the least values is not reached, if one is not: the first of memory, passes and
lanes, or the rounds. -/
def shortfall? : KdfParams → Option String
  | .argon2id memoryKib iterations parallelism =>
    if memoryKib < 8 || memoryKib.toNat < 8 * parallelism.toNat then
      some "argon2 params: memory cost is too small"
    else if iterations < 1 then some "argon2 params: time cost is too small"
    else if parallelism < 1 then some "argon2 params: not enough threads"
    else none
  | .pbkdf2 rounds => if rounds = 0 then some "pbkdf2 rounds must be non-zero" else none

/-- Whether keys can be derived with the parameters. -/
def isUsable (p : KdfParams) : Bool :=
  p.isWithinBounds && p.shortfall?.isNone

end KdfParams

/-- The choice of an algorithm together with the cost of either one. -/
structure KdfConfig where
  algorithm : KdfAlgorithm
  memoryKib : UInt32
  iterations : UInt32
  parallelism : UInt32
  rounds : UInt32
deriving DecidableEq

namespace KdfConfig

/-- The default choice: 64 MiB in three passes and one lane. -/
def standard : KdfConfig := ⟨.argon2id, 65536, 3, 1, 600000⟩

/-- A cheap choice, for trials only. -/
def insecureFast : KdfConfig := ⟨.argon2id, 1024, 1, 1, 1000⟩

/-- The parameters of the chosen algorithm. -/
def params (c : KdfConfig) : KdfParams :=
  match c.algorithm with
  | .argon2id => .argon2id c.memoryKib c.iterations c.parallelism
  | .pbkdf2 => .pbkdf2 c.rounds

end KdfConfig

end Keyring

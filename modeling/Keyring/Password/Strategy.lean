import Keyring.Hash.Argon2id
import Keyring.Hash.Pbkdf2
import Keyring.Password.Cost

/-!
# Deriving keys from passwords

A strategy is a set of cost parameters that passed all checks, so deriving with it cannot
fail: the key is a function of the parameters, the password and the salt.
-/

namespace Keyring

/-- Cost parameters with which keys can be derived. -/
structure Strategy where
  params : KdfParams
  isUsable : params.isUsable = true
deriving DecidableEq

namespace KdfParams

/-- The key derived from a password and a salt. -/
def derive (p : KdfParams) (password : String) (salt : Salt) : Key :=
  match p with
  | .argon2id memoryKib iterations parallelism =>
    Argon2id.derive memoryKib.toNat iterations.toNat parallelism.toNat (Bytes.utf8 password)
      salt.bytes
  | .pbkdf2 rounds => Pbkdf2.derive (Bytes.utf8 password) salt.bytes rounds.toNat

/-- The strategy with the given parameters.  The upper bounds are checked before the least
values. -/
def build (p : KdfParams) : Except CryptoError Strategy :=
  if h : p.isUsable = true then .ok ⟨p, h⟩
  else do
    p.checkBounds
    throw (.keyDerivation (p.shortfall?.getD ""))

end KdfParams

namespace Strategy

/-- The strategy with the default cost. -/
def standard : Strategy := ⟨KdfConfig.standard.params, by decide⟩

/-- The algorithm. -/
def algorithm (s : Strategy) : KdfAlgorithm := s.params.algorithm

/-- Whether the algorithm is weaker than the memory-hard one. -/
def isReducedSecurity (s : Strategy) : Bool := s.algorithm = .pbkdf2

/-- The key derived from a password and a salt. -/
def derive (s : Strategy) (password : String) (salt : Salt) : Key :=
  s.params.derive password salt

/-- A description of the strategy, without its cost. -/
def description (s : Strategy) : String :=
  let algorithm := match s.algorithm with
    | .argon2id => "Argon2id"
    | .pbkdf2 => "Pbkdf2Sha256"
  s!"PasswordKdf \x7b algorithm: {algorithm}, reduced_security: {s.isReducedSecurity} \x7d"

end Strategy

namespace Password

/-- The least number of characters of any password. -/
def leastLength : Nat := 8

/-- Refuse a password with less than `minimum` characters, and in any case with less than
eight. -/
def validate (password : String) (minimum : Nat) : Except CryptoError Unit :=
  let minimum := max minimum leastLength
  if password.length < minimum then .error (.passwordTooShort minimum) else .ok ()

end Password

end Keyring

import Keyring.Hash.Hmac

/-!
# PBKDF2 with HMAC-SHA-256

One key of output: the exclusive or of `rounds` codes, each the code of the one before it,
and the first the code of the salt followed by the block number one.
-/

namespace Keyring.Pbkdf2

open Sha256 Hmac

/-- The wordwise exclusive or of two states. -/
@[inline] def xor (s t : State) : State :=
  ⟨s.a ^^^ t.a, s.b ^^^ t.b, s.c ^^^ t.c, s.d ^^^ t.d, s.e ^^^ t.e, s.f ^^^ t.f, s.g ^^^ t.g,
    s.h ^^^ t.h⟩

/-- `n` further rounds, with `sum` the codes so far and `last` the latest of them. -/
def further (key : PreparedKey) : (n : Nat) → (sum last : State) → State
  | 0, sum, _ => sum
  | n + 1, sum, last =>
    let next := key.macOfMac last
    further key n (xor sum next) next

/-- The key derived from a password and a salt in the given number of rounds. -/
def derive (password salt : Bytes) (rounds : Nat) : Key :=
  let key := prepare password
  let first := key.mac (salt ++ Bytes.bigEndian 4 1)
  (further key (rounds - 1) first first).toBlock

end Keyring.Pbkdf2

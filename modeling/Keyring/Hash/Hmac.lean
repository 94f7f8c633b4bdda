import Keyring.Hash.Sha256

/-!
# HMAC with SHA-256

A key is prepared once: its two halves are the hash states after the padded key, so that
a message costs only its own blocks and one more.
-/

namespace Keyring.Hmac

open Sha256

/-- A prepared key: the states after the inner and the outer padded key. -/
structure PreparedKey where
  inner : State
  outer : State

/-- The key in one block: a key of more than 64 bytes is hashed first. -/
def blockOf (key : Bytes) : Bytes :=
  let key := if key.length > 64 then (Sha256.hash key).bytes else key
  key ++ List.replicate (64 - key.length) 0

/-- Prepare a key. -/
def prepare (key : Bytes) : PreparedKey :=
  let block := blockOf key
  ⟨absorb initial (block.map (· ^^^ 0x36)), absorb initial (block.map (· ^^^ 0x5c))⟩

/-- The last block of a hash over one block and one digest. -/
def digestBlock (s : State) : Window :=
  ⟨s.a, s.b, s.c, s.d, s.e, s.f, s.g, s.h, 0x80000000, 0, 0, 0, 0, 0, 0, 768⟩

/-- The code of a message, as a state. -/
def PreparedKey.mac (key : PreparedKey) (m : Bytes) : State :=
  let inner := absorb key.inner (m ++ padding (64 + m.length))
  compress key.outer (digestBlock inner)

/-- The code of a message that is itself a code. -/
def PreparedKey.macOfMac (key : PreparedKey) (m : State) : State :=
  compress key.outer (digestBlock (compress key.inner (digestBlock m)))

/-- The code of a message under a key. -/
def hmac (key m : Bytes) : Block 32 :=
  ((prepare key).mac m).toBlock

end Keyring.Hmac

import Keyring.Hash.Hmac

/-!
# HKDF with SHA-256

Key material is extracted into one key with the salt, and expanded into as many bytes as
wanted, up to 255 digests.
-/

namespace Keyring.Hkdf

/-- The longest output, 255 digests. -/
def maxLength : Nat := 255 * 32

/-- The key extracted from key material; without a salt, 32 zeroes serve. -/
def extract (salt : Option Bytes) (material : Bytes) : Block 32 :=
  Hmac.hmac (salt.getD (List.replicate 32 0)) material

/-- `count` blocks of output, the first of them with number `index`, after the block `previous`. -/
def blocks (key : Hmac.PreparedKey) (info : Bytes) :
    (count : Nat) → (index : Nat) → (previous : Bytes) → Bytes
  | 0, _, _ => []
  | count + 1, index, previous =>
    let block := (key.mac (previous ++ info ++ [UInt8.ofNat index])).toBlock.bytes
    block ++ blocks key info count (index + 1) block

/-- The first `length` bytes of output for `info`; `none` when that is too many. -/
def expand? (key : Block 32) (info : Bytes) (length : Nat) : Option Bytes :=
  if length > maxLength then none
  else some ((blocks (Hmac.prepare key.bytes) info ((length + 31) / 32) 1 []).take length)

/-- One key of output for `info`. -/
def expandKey (key : Block 32) (info : Bytes) : Key :=
  ((Hmac.prepare key.bytes).mac (info ++ [1])).toBlock

end Keyring.Hkdf

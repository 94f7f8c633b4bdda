import Keyring.Failure
import Keyring.Instant.Basic
import Keyring.Password.Strategy
import Keyring.Random

/-!
# Sessions

A session holds the master key, under which conversation keys are wrapped.  It starts without
one and loses it when it is cleared, or when it was idle for longer than its timeout.  The
timeout is noticed late: an expired key stays in place, out of reach, until the session is
next asked for it.
-/

namespace Keyring

/-- The clocks of a machine. -/
structure Clock where
  /-- The time of day, which can be set. -/
  wall : Instant
  /-- The nanoseconds since some moment in the past. -/
  monotonic : Nat

/-- Both clocks some nanoseconds later. -/
def Clock.advance (c : Clock) (nanos : Nat) : Clock :=
  ⟨c.wall.addNanos nanos, c.monotonic + nanos⟩

/-- A master key, with the moment it was last used. -/
structure HeldKey where
  key : Key
  lastActivity : Nat
deriving DecidableEq

/-- A session. -/
structure Session where
  /-- How the session derives a key from a password. -/
  strategy : Strategy
  /-- The least length of passwords. -/
  passwordFloor : Nat
  /-- The idle seconds after which the key is lost, or zero for never. -/
  autoLockSeconds : UInt64
  held : Option HeldKey
deriving DecidableEq

namespace Session

/-- A session without a key. -/
def new (strategy : Strategy) (passwordFloor : Nat) (autoLockSeconds : UInt64) : Session :=
  ⟨strategy, passwordFloor, autoLockSeconds, none⟩

/-- Whether a key is out of reach at the moment `now`. -/
def isExpired (s : Session) (now : Nat) (h : HeldKey) : Bool :=
  s.autoLockSeconds ≠ 0 && s.autoLockSeconds.toNat * 1000000000 < now - h.lastActivity

/-- The session with a key installed. -/
def install (s : Session) (now : Nat) (key : Key) : Session :=
  { s with held := some ⟨key, now⟩ }

/-- The session without its key. -/
def clear (s : Session) : Session :=
  { s with held := none }

/-- The session after it noticed whether its key expired. -/
def settle (s : Session) (now : Nat) : Session :=
  match s.held with
  | some h => if s.isExpired now h then s.clear else s
  | none => s

/-- The session with its idle time starting anew. -/
def touch (s : Session) (now : Nat) : Session :=
  { s with held := s.held.map fun h => { h with lastActivity := now } }

/-- The whole seconds until the key is lost, as far as there is one; without a timeout, the
largest number of 64 bits. -/
def timeUntilLock (s : Session) (now : Nat) : Option Nat :=
  s.held.map fun h =>
    if s.autoLockSeconds = 0 then 18446744073709551615
    else s.autoLockSeconds.toNat - (now - h.lastActivity) / 1000000000

/-- A description without the key. -/
def description (s : Session) : String :=
  s!"Session \x7b kdf: {s.strategy.description}, .. \x7d"

end Session

/-! ### Using a session -/

/-- What a session runs on. -/
structure Host where
  random : RandomSource
  clock : Clock
  session : Session

/-- An operation of a session. -/
abbrev SessionAction := ExceptT StoreError (StateM Host)

namespace SessionAction

/-- Take random bytes. -/
def draw {α : Type} (d : Draw α) : SessionAction α := do
  let host ← get
  let (a, random) := d.run host.random
  set { host with random := random }
  return a

/-- Change the session, with the monotonic clock at hand. -/
def change (f : Session → Nat → Session) : SessionAction Unit :=
  modify fun host => { host with session := f host.session host.clock.monotonic }

/-- The result of a computation that only handles keys and passwords. -/
def ofCrypto {α : Type} : Except CryptoError α → SessionAction α
  | .ok a => return a
  | .error e => throw (.ofCrypto e)

/-- Whether the session has a key in reach.  One that expired is lost now. -/
def isSet : SessionAction Bool := do
  change Session.settle
  return (← get).session.held.isSome

/-- Fail unless the session has a key in reach. -/
def requireSet : SessionAction Unit := do
  if !(← isSet) then
    throw .masterKeyNotSet

/-- The master key.  Its idle time starts anew. -/
def masterKey : SessionAction Key := do
  requireSet
  match (← get).session.held with
  | some h =>
    change Session.touch
    return h.key
  | none => throw .masterKeyNotSet

/-- Install a key. -/
def install (key : Key) : SessionAction Unit :=
  change fun s now => s.install now key

/-- Install the key of 32 bytes. -/
def setMasterKey (b : Bytes) : SessionAction Unit :=
  match Block.ofBytes? 32 b with
  | some key => install key
  | none => throw (.invalidInput s!"master key must be 32 bytes, got {b.length}")

/-- Install the key derived from a password and a salt, and return the salt.  Without a salt a
fresh one is taken. -/
def deriveMasterKey (password : String) (salt? : Option Salt) : SessionAction Salt := do
  let session := (← get).session
  ofCrypto (Password.validate password session.passwordFloor)
  let salt ← match salt? with
    | some salt => pure salt
    | none => draw (Draw.block 16)
  install (session.strategy.derive password salt)
  return salt

/-- Forget the key. -/
def clear : SessionAction Unit :=
  change fun s _ => s.clear

/-- Start the idle time anew. -/
def touch : SessionAction Unit :=
  change Session.touch

/-- Set the timeout. -/
def setAutoLock (seconds : UInt64) : SessionAction Unit :=
  change fun s _ => { s with autoLockSeconds := seconds }

/-- The whole seconds until the key is lost. -/
def timeUntilLock : SessionAction (Option Nat) := do
  let host ← get
  return host.session.timeUntilLock host.clock.monotonic

end SessionAction

end Keyring

import Keyring.Lookup
import Keyring.Record.Config
import Keyring.Session
import Keyring.Store.Database

/-!
# Devices

An operation of the store runs on a device: the settings and the database of the store, one
session, a random source and the clocks.  An operation that fails keeps what it has drawn at
random and what the session has noticed; the database it leaves as it was, because what is
written within a transaction takes effect only if all of it succeeds.
-/

namespace Keyring

/-- What a configuration amounts to once it is accepted. -/
structure Settings where
  /-- How new keys are derived from passwords. -/
  strategy : Strategy
  passwordFloor : Nat
  autoLockSeconds : UInt64
deriving DecidableEq

namespace Settings

/-- The settings of a configuration. -/
def ofConfig (c : StoreConfig) : Except StoreError Settings := do
  let strategy ← c.kdf.params.build.mapError StoreError.ofCrypto
  return ⟨strategy, c.passwordFloor, c.autoLockSeconds⟩

/-- A session without a key. -/
def newSession (s : Settings) : Session :=
  .new s.strategy s.passwordFloor s.autoLockSeconds

/-- A description of the store, without its cost. -/
def description (s : Settings) : String :=
  s!"Store \x7b kdf: {s.strategy.description}, .. \x7d"

/-- The strategy that opens something sealed with the given cost; the configured one, if no
cost was recorded. -/
def strategyFor (s : Settings) : Option KdfParams → Except StoreError Strategy
  | none => .ok s.strategy
  | some p =>
    if p.algorithm ≠ s.strategy.algorithm then
      .error (.format
        s!"sealed with {p.algorithm.name}, store is configured for {s.strategy.algorithm.name}")
    else if p = s.strategy.params then .ok s.strategy
    else p.build.mapError fun e => .format s!"stored kdf parameters: {e.message}"

end Settings

/-- What an operation of the store runs on. -/
structure Device extends Host where
  settings : Settings
  database : Database

/-- An operation of the store. -/
abbrev Action := ExceptT StoreError (StateM Device)

namespace Action

variable {α : Type}

/-- An operation of the session. -/
def onSession (x : SessionAction α) : Action α := fun device =>
  let (result, host) := x.run device.toHost
  (result, { device with toHost := host })

/-- Take random bytes. -/
def draw (d : Draw α) : Action α :=
  onSession (SessionAction.draw d)

/-- The result of a computation without effects. -/
def ofResult : Except StoreError α → Action α
  | .ok a => return a
  | .error e => throw e

/-- The result of a computation that only handles keys and passwords. -/
def ofCrypto (r : Except CryptoError α) : Action α :=
  ofResult (r.mapError StoreError.ofCrypto)

/-- The result of reading a record. -/
def ofRecord (r : Except RecordError α) : Action α :=
  ofResult (r.mapError StoreError.ofRecord)

/-- The settings of the store. -/
def settings : Action Settings := return (← get).settings

/-- The contents of the database. -/
def database : Action Database := return (← get).database

/-- The time of day. -/
def now : Action Instant := return (← get).clock.wall

/-- Change the contents of the database. -/
def write (f : Database → Database) : Action Unit :=
  modify fun device => { device with database := f device.database }

/-- Run an operation whose changes of the database take effect only if it succeeds. -/
def transaction (x : Action α) : Action α := fun device =>
  let (result, after) := x.run device
  match result with
  | .ok _ => (result, after)
  | .error _ => (result, { after with database := device.database })

/-- Refuse a password that is shorter than the settings demand. -/
def validatePassword (password : String) : Action Unit := do
  ofCrypto (Password.validate password (← settings).passwordFloor)

/-- The outcome of looking for something sealed. -/
def lookup (x : Action (Option α)) : StateM Device (Lookup α) := do
  return .ofResult (← x.run)

end Action

end Keyring

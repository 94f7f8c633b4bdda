import Keyring.Entries
import Keyring.Store.Device

/-!
# Workspaces

Several stores and sessions on one machine, all by name.  Stores that are opened on the same
file share its database; a store without a file has a database of its own.  A clone of a
session shares everything with the session that it was cloned from.
-/

namespace Keyring

/-- Where a database is kept. -/
inductive Place where
  | file (name : String)
  | memory (number : Nat)
deriving DecidableEq

/-- A store that is open. -/
structure OpenStore where
  settings : Settings
  place : Place

/-- The stores and sessions of a machine. -/
structure Workspace where
  random : RandomSource
  clock : Clock
  databases : List (Place × Database)
  stores : List (String × OpenStore)
  /-- For each name of a session its slot. -/
  names : List (String × Nat)
  slots : List (Nat × Session)

namespace Workspace

/-- A machine without stores and sessions. -/
def new (random : RandomSource) (wall : Instant) : Workspace :=
  ⟨random, ⟨wall, 0⟩, [], [], [], []⟩

/-- The contents of the database at a place. -/
def database (w : Workspace) (place : Place) : Database :=
  (w.databases.lookup place).getD .empty

/-- Open a store under a name, in place of the store that had it.  The database exists from
then on, even if the configuration is refused. -/
def openStore (w : Workspace) (name : String) (file : Option String) (config : StoreConfig) :
    Except StoreError Unit × Workspace :=
  let place := match file with
    | some file => Place.file file
    | none => Place.memory w.databases.length
  let w := { w with
    databases := setEntry place (w.database place) w.databases
    stores := w.stores.filter fun e => e.1 ≠ name }
  match Settings.ofConfig config with
  | .ok settings => (.ok (), { w with stores := (name, ⟨settings, place⟩) :: w.stores })
  | .error e => (.error e, w)

/-- The workspace with a session under a name. -/
def addSession (w : Workspace) (name : String) (session : Session) : Workspace :=
  let slot := w.slots.length
  { w with names := setEntry name slot w.names, slots := (slot, session) :: w.slots }

/-- The workspace with a further name for a session, if the session exists. -/
def cloneSession? (w : Workspace) (name clone : String) : Option Workspace :=
  (w.names.lookup name).map fun slot => { w with names := setEntry clone slot w.names }

/-- Run an operation of a session, if the session exists. -/
def runSession? {α : Type} (w : Workspace) (name : String) (x : SessionAction α) :
    Option (Except StoreError α × Workspace) := do
  let slot ← w.names.lookup name
  let session ← w.slots.lookup slot
  let (result, host) := x.run ⟨w.random, w.clock, session⟩
  return (result, { w with
    random := host.random
    slots := setEntry slot host.session w.slots })

/-- Run a computation on a store and a session, if both exist. -/
def runDevice? {α : Type} (w : Workspace) (store session : String) (x : StateM Device α) :
    Option (α × Workspace) := do
  let opened ← w.stores.lookup store
  let slot ← w.names.lookup session
  let held ← w.slots.lookup slot
  let (result, device) :=
    x.run ⟨⟨w.random, w.clock, held⟩, opened.settings, w.database opened.place⟩
  return (result, { w with
    random := device.random
    databases := setEntry opened.place device.database w.databases
    slots := setEntry slot device.session w.slots })

/-- Both clocks some nanoseconds later. -/
def advance (w : Workspace) (nanos : Nat) : Workspace :=
  { w with clock := w.clock.advance nanos }

/-- The clock of the time of day set. -/
def setWall (w : Workspace) (wall : Instant) : Workspace :=
  { w with clock := { w.clock with wall := wall } }

end Workspace

end Keyring

import Keyring.Proofs.Store.KeyReach
import Keyring.Proofs.Store.Reopening

/-!
# Which key a session uses

What happens on a machine is followed with a history for each session: which key was installed in it
last, and when its key was used last.  The history is made from what was asked of the session, under
its own name or under that of a clone, and not from what the session holds.  Whatever happened, a
session holds no key but the one of its history; so an operation that needs a key takes the one that
was installed last in its own session, and fails if none was, if it was cleared, or if the session was
idle for too long.
-/

namespace Keyring

/-! ### Requests to a session -/

/-- A request to a session, with a result in the given type. -/
inductive SessionRequest : Type → Type where
  | setMasterKey (b : Bytes) : SessionRequest Unit
  | deriveMasterKey (password : String) (salt? : Option Salt) : SessionRequest Salt
  | masterKey : SessionRequest Key
  | isSet : SessionRequest Bool
  | touch : SessionRequest Unit
  | clear : SessionRequest Unit
  | setAutoLock (seconds : UInt64) : SessionRequest Unit
  | timeUntilLock : SessionRequest (Option Nat)

/-- How a request runs. -/
def SessionRequest.action {α : Type} : SessionRequest α → SessionAction α
  | setMasterKey b => SessionAction.setMasterKey b
  | deriveMasterKey password salt? => SessionAction.deriveMasterKey password salt?
  | masterKey => SessionAction.masterKey
  | isSet => SessionAction.isSet
  | touch => SessionAction.touch
  | clear => SessionAction.clear
  | setAutoLock seconds => SessionAction.setAutoLock seconds
  | timeUntilLock => SessionAction.timeUntilLock

namespace SessionAction

/-- A key is installed if it has 32 bytes. -/
theorem outcome_setMasterKey (b : Bytes) (host : Host) :
  (setMasterKey b).outcome host =
    match Block.ofBytes? 32 b with
    | some key => (.ok (), { host with session := host.session.install host.clock.monotonic key })
    | none => (.error (.invalidInput s!"master key must be 32 bytes, got {b.length}"), host)
  := by
  rw [setMasterKey]
  rcases Block.ofBytes? 32 b with _ | key
  · rfl
  · rfl

/-- The key of a password is installed if the password is long enough. -/
theorem outcome_deriveMasterKey (password : String) (salt? : Option Salt) (host : Host) :
  (deriveMasterKey password salt?).outcome host =
    match Password.validate password host.session.passwordFloor with
    | .ok _ =>
      let salt := salt?.getD (host.random.next 16)
      (.ok salt, { host with
        random := if salt?.isSome then host.random else host.random.advance 16
        session := host.session.install host.clock.monotonic
          (host.session.strategy.derive password salt) })
    | .error e => (.error (.ofCrypto e), host)
  := by
  rw [deriveMasterKey, ExceptT.outcome_bind_of_ok (ExceptT.outcome_get host)]
  rcases h : Password.validate password host.session.passwordFloor with e | ⟨⟩
  · simp [ExceptT.outcome_bind, h]
  · rcases salt? with _ | salt
    · simp [ExceptT.outcome_bind, h, Except.map]
    · simp [ExceptT.outcome_bind, h, Except.map]

end SessionAction

/-! ### Histories -/

/-- What is known of the keys of a session from what was asked of it. -/
structure KeyHistory where
  /-- The key that was installed last, unless the session was cleared since then. -/
  installed : Option Key
  /-- The moment at which a key was installed or taken, or the idle time started anew, for the last
  time. -/
  used : Nat

namespace KeyHistory

/-- The history of a new session. -/
def blank : KeyHistory := ⟨none, 0⟩

/-- Whether a session holds nothing that its history does not know of. -/
def Covers (h : KeyHistory) (s : Session) : Prop :=
  ∀ k, s.held = some k → h.installed = some k.key ∧ k.lastActivity ≤ h.used

end KeyHistory

/-- The history after a request. -/
def SessionRequest.history {α : Type} (r : SessionRequest α) (host : Host) (h : KeyHistory) :
    KeyHistory :=
  let now := host.clock.monotonic
  match r with
  | setMasterKey b =>
    match Block.ofBytes? 32 b with
    | some key => ⟨some key, now⟩
    | none => h
  | deriveMasterKey password salt? =>
    match ((SessionAction.deriveMasterKey password salt?).outcome host).1 with
    | .ok salt => ⟨some (host.session.strategy.derive password salt), now⟩
    | .error _ => h
  | masterKey =>
    match (SessionAction.masterKey.outcome host).1 with
    | .ok _ => ⟨h.installed, now⟩
    | .error _ => h
  | touch => ⟨h.installed, now⟩
  | clear => ⟨none, h.used⟩
  | isSet | setAutoLock _ | timeUntilLock => h

/-- The history after an operation of a store.  An unlock installs the key that opens what then is in
the metadata.  Another operation takes the key if it does not leave the session as it was, or as it is
once it noticed that its key expired. -/
def Operation.history {α : Type} (op : Operation α) (device : Device) (h : KeyHistory) : KeyHistory :=
  let now := device.clock.monotonic
  match op with
  | unlock password =>
    match (Action.unlock password).outcome device with
    | (.ok _, after) =>
      ⟨((MasterRecord.ofDatabase after.database).openCheck device.settings password).toOption, now⟩
    | (.error _, _) => h
  | _ =>
    let after := (op.outcome device).2.session
    if after = device.session ∨ after = device.session.settle now then h else ⟨h.installed, now⟩

theorem Operation.history_of_not_installsKey {α : Type} {op : Operation α} (hop : ¬op.InstallsKey)
    (device : Device) (h : KeyHistory) :
  op.history device h =
    if (op.outcome device).2.session = device.session ∨
      (op.outcome device).2.session = device.session.settle device.clock.monotonic then h
    else ⟨h.installed, device.clock.monotonic⟩
  := by
  cases op with
  | unlock password => exact absurd trivial hop
  | _ => rfl

namespace KeyHistory

variable {α : Type} {h : KeyHistory} {s s' : Session} {now : Nat}

theorem Covers.of_held_eq_none (hs : s.held = none) :
  h.Covers s
  := by
  intro k hk
  rw [hs] at hk
  cases hk

theorem Covers.settle (hs : h.Covers s) :
  h.Covers (s.settle now)
  := fun k hk => hs k (Session.held_of_held_settle hk)

theorem Covers.touch (hs : h.Covers s) :
  KeyHistory.Covers ⟨h.installed, now⟩ (s.touch now)
  := by
  intro k hk
  obtain ⟨k', hk', rfl⟩ := Option.map_eq_some_iff.1 hk
  exact ⟨(hs k' hk').1, Nat.le_refl now⟩

theorem covers_install (s : Session) (now : Nat) (key : Key) :
  Covers ⟨some key, now⟩ (s.install now key)
  := by
  rintro k ⟨⟩
  exact ⟨rfl, Nat.le_refl now⟩

/-- A request is covered by the history after it. -/
theorem Covers.request {host : Host} (hs : h.Covers host.session) (r : SessionRequest α) :
  (r.history host h).Covers (r.action.outcome host).2.session
  := by
  cases r with
  | setMasterKey b =>
    rw [SessionRequest.action, SessionAction.outcome_setMasterKey]
    dsimp only [SessionRequest.history]
    rcases Block.ofBytes? 32 b with _ | key
    · exact hs
    · exact covers_install host.session host.clock.monotonic key
  | deriveMasterKey password salt? =>
    rw [SessionRequest.action]
    simp only [SessionRequest.history, SessionAction.outcome_deriveMasterKey]
    rcases Password.validate password host.session.passwordFloor with e | _
    · exact hs
    · exact covers_install host.session host.clock.monotonic _
  | masterKey =>
    rw [SessionRequest.action]
    simp only [SessionRequest.history, SessionAction.outcome_masterKey]
    rcases host.key? with _ | key
    · exact hs.settle
    · exact hs.settle.touch
  | isSet => exact hs.settle
  | touch => exact hs.touch
  | clear => exact .of_held_eq_none rfl
  | setAutoLock seconds => exact hs
  | timeUntilLock => exact hs

/-- An operation is covered by the history after it. -/
theorem Covers.operation {device : Device} (hs : h.Covers device.session) (op : Operation α) :
  (op.history device h).Covers (op.outcome device).2.session
  := by
  -- Only an unlock installs a key.  Whatever else an operation does, it leaves the session, lets it
  -- notice that its key expired, or takes the key; the history tells these apart in the same way.
  by_cases hinstalls : op.InstallsKey
  · cases op with
    | unlock password =>
      rw [Operation.outcome, Operation.action, Operation.history]
      rcases hrun : (Action.unlock password).outcome device with ⟨e | ⟨⟩, after⟩
      · have hkept := Action.unlock_isAtomic (fun d => d.session) (fun _ _ => rfl) password device e
          after hrun
        dsimp only at hkept ⊢
        rw [hkept]
        exact hs
      · obtain ⟨key, hsession, -, hopen⟩ := Action.installed_of_unlock hrun
        dsimp only
        rw [hopen, hsession]
        exact covers_install device.session device.clock.monotonic key
    | _ => cases hinstalls
  · have hhandled := Operation.isHandled hinstalls device
    rw [Operation.history_of_not_installsKey hinstalls]
    split
    next hsession =>
      rcases hsession with hsession | hsession
      · rw [hsession]
        exact hs
      · rw [hsession]
        exact hs.settle
    next hsession =>
      generalize (op.outcome device).2.session = after at hhandled hsession
      cases hhandled with
      | kept => exact absurd (.inl rfl) hsession
      | noticed => exact absurd (.inr rfl) hsession
      | taken => exact hs.settle.touch

end KeyHistory

/-! ### Runs -/

namespace Workspace

/-- The device on which an operation runs. -/
def device (w : Workspace) (opened : OpenStore) (s : Session) : Device :=
  ⟨⟨w.random, w.clock, s⟩, opened.settings, w.database opened.place⟩

/-- The machine after a computation that has left a device. -/
def leaving (w : Workspace) (opened : OpenStore) (slot : Nat) (device : Device) : Workspace :=
  { w with
    random := device.random
    databases := setEntry opened.place device.database w.databases
    slots := setEntry slot device.session w.slots }

/-- What happened on a machine, with a history for each session. -/
inductive Run : Workspace → (Nat → KeyHistory) → Prop where
  | start (random : RandomSource) (wall : Instant) : Run (.new random wall) fun _ => .blank
  | openStore {w : Workspace} {histories : Nat → KeyHistory} (name : String) (file : Option String)
    (config : StoreConfig) (h : Run w histories) : Run (w.openStore name file config).2 histories
  | newSession {w : Workspace} {histories : Nat → KeyHistory} (name : String) (strategy : Strategy)
    (passwordFloor : Nat) (autoLockSeconds : UInt64) (h : Run w histories) :
    Run (w.addSession name (.new strategy passwordFloor autoLockSeconds))
      (Function.update histories w.slots.length .blank)
  | cloneSession {w w' : Workspace} {histories : Nat → KeyHistory} (name clone : String)
    (h : Run w histories) (hclone : w.cloneSession? name clone = some w') : Run w' histories
  | advance {w : Workspace} {histories : Nat → KeyHistory} (nanos : Nat) (h : Run w histories) :
    Run (w.advance nanos) histories
  | setWall {w : Workspace} {histories : Nat → KeyHistory} (wall : Instant) (h : Run w histories) :
    Run (w.setWall wall) histories
  /-- What is stored changes behind the back of the store. -/
  | edit {w : Workspace} {histories : Nat → KeyHistory} (place : Place) (d : Database)
    (h : Run w histories) : Run { w with databases := setEntry place d w.databases } histories
  | request {α : Type} {w w' : Workspace} {histories : Nat → KeyHistory} {slot : Nat} {s : Session}
    {result : Except StoreError α} (name : String) (r : SessionRequest α) (h : Run w histories)
    (hname : w.names.lookup name = some slot) (hslot : w.slots.lookup slot = some s)
    (hrun : w.runSession? name r.action = some (result, w')) :
    Run w' (Function.update histories slot (r.history ⟨w.random, w.clock, s⟩ (histories slot)))
  | operation {α : Type} {w w' : Workspace} {histories : Nat → KeyHistory} {slot : Nat} {s : Session}
    {opened : OpenStore} {result : Except StoreError α} (store name : String) (op : Operation α)
    (h : Run w histories) (hstore : w.stores.lookup store = some opened)
    (hname : w.names.lookup name = some slot) (hslot : w.slots.lookup slot = some s)
    (hrun : w.runDevice? store name op.action.run = some (result, w')) :
    Run w' (Function.update histories slot (op.history (w.device opened s) (histories slot)))

variable {w w' : Workspace} {histories : Nat → KeyHistory} {slot : Nat} {s : Session}
  {store name : String} {opened : OpenStore}

theorem runDevice?_eq {α : Type} (hstore : w.stores.lookup store = some opened)
    (hname : w.names.lookup name = some slot) (hslot : w.slots.lookup slot = some s)
    (x : StateM Device α) :
  w.runDevice? store name x =
    some ((x (w.device opened s)).1, w.leaving opened slot (x (w.device opened s)).2)
  := by
  rw [runDevice?, hstore, hname]
  dsimp only [bind, Option.bind]
  rw [hslot]
  rfl

theorem slots_openStore (w : Workspace) (name : String) (file : Option String)
    (config : StoreConfig) :
  (w.openStore name file config).2.slots = w.slots
  := by
  unfold openStore
  dsimp only
  split
  · rfl
  · rfl

theorem clock_openStore (w : Workspace) (name : String) (file : Option String)
    (config : StoreConfig) :
  (w.openStore name file config).2.clock = w.clock
  := by
  unfold openStore
  dsimp only
  split
  · rfl
  · rfl

/-- Whether something holds of the clock, the slots and the histories of a new machine, and stays true:
as time passes, when a session is added, and when the session in a slot answers a request or is there for
an operation. -/
structure IsInvariant (P : Nat → List (Nat × Session) → (Nat → KeyHistory) → Prop) : Prop where
  start : P 0 [] fun _ => .blank
  later {now : Nat} {slots : List (Nat × Session)} {histories : Nat → KeyHistory}
    (h : P now slots histories) (nanos : Nat) : P (now + nanos) slots histories
  newSession {now : Nat} {slots : List (Nat × Session)} {histories : Nat → KeyHistory}
    (h : P now slots histories) (strategy : Strategy) (passwordFloor : Nat)
    (autoLockSeconds : UInt64) :
    P now ((slots.length, .new strategy passwordFloor autoLockSeconds) :: slots)
      (Function.update histories slots.length .blank)
  request {α : Type} {slots : List (Nat × Session)} {histories : Nat → KeyHistory} {slot : Nat}
    (host : Host) (h : P host.clock.monotonic slots histories)
    (hslot : slots.lookup slot = some host.session) (r : SessionRequest α) :
    P host.clock.monotonic (setEntry slot (r.action.outcome host).2.session slots)
      (Function.update histories slot (r.history host (histories slot)))
  operation {α : Type} {slots : List (Nat × Session)} {histories : Nat → KeyHistory} {slot : Nat}
    (device : Device) (h : P device.clock.monotonic slots histories)
    (hslot : slots.lookup slot = some device.session) (op : Operation α) :
    P device.clock.monotonic (setEntry slot (op.outcome device).2.session slots)
      (Function.update histories slot (op.history device (histories slot)))

/-- An invariant holds along every run. -/
theorem Run.invariant {P : Nat → List (Nat × Session) → (Nat → KeyHistory) → Prop}
    (h : w.Run histories) (hP : IsInvariant P) :
  P w.clock.monotonic w.slots histories
  := by
  induction h with
  | start random wall => exact hP.start
  | openStore name file config h ih =>
    rw [clock_openStore, slots_openStore]
    exact ih
  | newSession name strategy passwordFloor autoLockSeconds h ih =>
    exact hP.newSession ih strategy passwordFloor autoLockSeconds
  | cloneSession name clone h hclone ih =>
    -- The clone is a second name for a slot that exists.
    obtain ⟨_, -, rfl⟩ := Option.map_eq_some_iff.1 hclone
    exact ih
  | advance nanos h ih => exact hP.later ih nanos
  | setWall wall h ih => exact ih
  | edit place d h ih => exact ih
  | request name r h hname hslot hrun ih =>
    rw [runSession?_eq hname hslot] at hrun
    cases hrun
    exact hP.request ⟨_, _, _⟩ ih hslot r
  | operation store name op h hstore hname hslot hrun ih =>
    rw [runDevice?_eq hstore hname hslot] at hrun
    cases hrun
    exact hP.operation (device _ _ _) ih hslot op

/-! ### Coverage -/

/-- Whether every session is covered by the history of its slot. -/
def AreCovered (slots : List (Nat × Session)) (histories : Nat → KeyHistory) : Prop :=
  ∀ slot s, slots.lookup slot = some s → (histories slot).Covers s

/-- A session takes its slot with a history of its own. -/
theorem AreCovered.update {slots slots' : List (Nat × Session)} (h : AreCovered slots histories)
    {history : KeyHistory} (hs : history.Covers s)
    (hlookup : ∀ other, slots'.lookup other = if other = slot then some s else slots.lookup other) :
  AreCovered slots' (Function.update histories slot history)
  := by
  intro other s' hother
  rw [hlookup] at hother
  rw [Function.update_apply]
  split at hother
  next hsame =>
    cases hother
    rw [if_pos hsame]
    exact hs
  next hne =>
    rw [if_neg hne]
    exact h other s' hother

theorem isInvariant_areCovered :
  IsInvariant fun _ slots histories => AreCovered slots histories
  where
    start := fun _ _ hslot => nomatch hslot
    later h _ := h
    newSession {_ slots _} h _ _ _ := h.update (.of_held_eq_none rfl) (lookup_cons_eq_ite _ · _ slots)
    request _ h hslot r := h.update ((h _ _ hslot).request r) fun _ => lookup_setEntry ..
    operation _ h hslot op := h.update ((h _ _ hslot).operation op) fun _ => lookup_setEntry ..

/-- Whatever happened, every session is covered by its history. -/
theorem Run.areCovered (h : w.Run histories) :
  AreCovered w.slots histories
  := h.invariant isInvariant_areCovered

/-! ### Operations of a store -/

theorem key?_eq (hslot : w.slots.lookup slot = some s) (opened : OpenStore) :
  w.key? slot = (w.device opened s).key?
  := by
  rw [key?, hslot]
  rfl

end Workspace

end Keyring

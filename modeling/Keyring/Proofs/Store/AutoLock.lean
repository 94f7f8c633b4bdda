import Keyring.Proofs.Session
import Keyring.Store.Workspace
import Mathlib.Tactic.Use

/-!
# When an idle session is locked for good

A session that was idle for longer than its timeout has no key in reach.  The expired key stays in
its place until a call notices: one that asks whether there is a key, or one that takes the key.
From then on nothing but an installation brings a key back.  Before, starting the idle time anew does
not look whether the key expired, and brings the old key back.
-/

namespace Keyring

/-! ### Locked sessions -/

namespace Session

variable {s : Session} {now later : Nat}

/-- Whether a session has no key in reach. -/
def IsLocked (s : Session) (now : Nat) : Prop :=
  ∀ k, s.held = some k → s.isExpired now k = true

theorem isLocked_of_held_eq_none (h : s.held = none) (now : Nat) :
  s.IsLocked now
  := by
  intro k hk
  rw [h] at hk
  cases hk

/-- A locked session that notices holds no key. -/
theorem held_settle_eq_none_iff :
  (s.settle now).held = none ↔ s.IsLocked now
  := by
  rcases hheld : s.held with _ | k
  · simp [settle, IsLocked, hheld]
  · by_cases he : s.isExpired now k = true
    · simp [settle, IsLocked, hheld, he, clear]
    · simp [settle, IsLocked, hheld, he]

/-- A key that expired stays so. -/
theorem IsLocked.mono (h : s.IsLocked now) (hle : now ≤ later) :
  s.IsLocked later
  := by
  intro k hk
  have hexpired := h k hk
  rw [isExpired, Bool.and_eq_true, decide_eq_true_iff, decide_eq_true_iff] at hexpired ⊢
  exact ⟨hexpired.1, by omega⟩

/-- A session whose timeout has passed since its key was used is locked. -/
theorem isLocked_of_lt {start : Nat} (ht : s.autoLockSeconds ≠ 0)
    (hstart : ∀ k, s.held = some k → k.lastActivity ≤ start)
    (hlt : s.autoLockSeconds.toNat * 1000000000 < now - start) :
  s.IsLocked now
  := by
  intro k hk
  have hused := hstart k hk
  rw [isExpired, Bool.and_eq_true, decide_eq_true_iff, decide_eq_true_iff]
  exact ⟨ht, by omega⟩

theorem touch_of_held_eq_none (h : s.held = none) (now : Nat) :
  s.touch now = s
  := by
  obtain ⟨strategy, passwordFloor, autoLockSeconds, held⟩ := s
  obtain rfl : held = none := h
  rfl

/-- A session holds a key after it noticed only if it held it before. -/
theorem held_of_held_settle {k : HeldKey} (h : (s.settle now).held = some k) :
  s.held = some k
  := by
  rw [settle] at h
  split at h
  next hheld =>
    split at h
    · cases h
    · exact h
  next => exact h

theorem autoLockSeconds_settle (s : Session) (now : Nat) :
  (s.settle now).autoLockSeconds = s.autoLockSeconds
  := by
  rw [settle]
  split
  · split
    · rfl
    · rfl
  · rfl

/-- The key that is held after a touch was used at that moment. -/
theorem lastActivity_of_held_touch {k : HeldKey} (h : (s.touch now).held = some k) :
  k.lastActivity = now
  := by
  obtain ⟨k', -, rfl⟩ := Option.map_eq_some_iff.1 h
  rfl

end Session

theorem Host.key?_eq_none_iff {host : Host} :
  host.key? = none ↔ host.session.IsLocked host.clock.monotonic
  := by
  rw [key?, Option.map_eq_none_iff, Session.held_settle_eq_none_iff]

/-! ### Calls of a session -/

/-- A call of a session. -/
inductive SessionCall where
  | isSet
  | withKey
  | touch
  | timeUntilLock
  | clear
  | install (key : Key)

namespace SessionCall

/-- How a call runs. -/
def action : SessionCall → SessionAction Unit
  | isSet => (fun _ => ()) <$> SessionAction.isSet
  | withKey => (fun _ => ()) <$> SessionAction.masterKey
  | touch => SessionAction.touch
  | timeUntilLock => (fun _ => ()) <$> SessionAction.timeUntilLock
  | clear => SessionAction.clear
  | install key => SessionAction.install key

/-- The session after a call. -/
def session (s : Session) (now : Nat) : SessionCall → Session
  | isSet => s.settle now
  | withKey => (s.settle now).touch now
  | touch => s.touch now
  | timeUntilLock => s
  | clear => s.clear
  | install key => s.install now key

/-- Whether a call leaves the idle time running. -/
def IsIdle : SessionCall → Prop
  | isSet | timeUntilLock | clear => True
  | withKey | touch | install _ => False

/-- Whether a call is neither a touch nor an installation. -/
def TouchesNothing : SessionCall → Prop
  | isSet | withKey | timeUntilLock | clear => True
  | touch | install _ => False

/-- Whether a call is no installation. -/
def InstallsNothing : SessionCall → Prop
  | isSet | withKey | touch | timeUntilLock | clear => True
  | install _ => False

/-- Whether a call takes an expired key out of its place. -/
def Notices : SessionCall → Prop
  | isSet | withKey | clear => True
  | touch | timeUntilLock | install _ => False

variable {c : SessionCall} {s : Session} {now : Nat}

/-- A call changes nothing but the session. -/
theorem outcome_action (c : SessionCall) (host : Host) :
  (c.action.outcome host).2 = { host with session := c.session host.session host.clock.monotonic }
  := by
  cases c with
  | isSet => rfl
  | withKey =>
    rw [action, ExceptT.outcome_map, SessionAction.outcome_masterKey]
    rcases hkey : host.key? with _ | key
    · have hlocked := Session.held_settle_eq_none_iff.2 (Host.key?_eq_none_iff.1 hkey)
      rw [session, Session.touch_of_held_eq_none hlocked]
      rfl
    · rfl
  | touch => rfl
  | timeUntilLock => rfl
  | clear => rfl
  | install key => rfl

theorem autoLockSeconds_session (c : SessionCall) (s : Session) (now : Nat) :
  (c.session s now).autoLockSeconds = s.autoLockSeconds
  := by
  cases c with
  | isSet => exact s.autoLockSeconds_settle now
  | withKey => exact s.autoLockSeconds_settle now
  | touch => rfl
  | timeUntilLock => rfl
  | clear => rfl
  | install key => rfl

/-- If the key was used no later than now, then this is so after a call. -/
theorem lastActivity_session_le (c : SessionCall)
    (h : ∀ k, s.held = some k → k.lastActivity ≤ now) {k : HeldKey}
    (hk : (c.session s now).held = some k) :
  k.lastActivity ≤ now
  := by
  cases c with
  | isSet => exact h k (Session.held_of_held_settle hk)
  | withKey => exact Nat.le_of_eq (Session.lastActivity_of_held_touch hk)
  | touch => exact Nat.le_of_eq (Session.lastActivity_of_held_touch hk)
  | timeUntilLock => exact h k hk
  | clear => cases hk
  | install key =>
    cases hk
    exact Nat.le_refl now

/-- A key that is held after an idle call was held before, with the time of its last use. -/
theorem IsIdle.held_of_held_session (h : c.IsIdle) {k : HeldKey}
    (hk : (c.session s now).held = some k) :
  s.held = some k
  := by
  cases c with
  | isSet => exact Session.held_of_held_settle hk
  | timeUntilLock => exact hk
  | clear => cases hk
  | withKey => cases h
  | touch => cases h
  | install key => cases h

/-- A call that notices takes the key of a locked session away. -/
theorem Notices.held_session (h : c.Notices) (hs : s.IsLocked now) :
  (c.session s now).held = none
  := by
  have hsettled := Session.held_settle_eq_none_iff.2 hs
  cases c with
  | isSet => exact hsettled
  | withKey => rw [session, Session.touch_of_held_eq_none hsettled, hsettled]
  | clear => rfl
  | touch => cases h
  | timeUntilLock => cases h
  | install key => cases h

/-- A locked session stays locked, unless it is touched or a key is installed. -/
theorem TouchesNothing.isLocked_session (h : c.TouchesNothing) (hs : s.IsLocked now) :
  (c.session s now).IsLocked now
  := by
  cases c with
  | isSet =>
    have hnone := Notices.held_session (c := isSet) trivial hs
    exact Session.isLocked_of_held_eq_none hnone now
  | withKey =>
    have hnone := Notices.held_session (c := withKey) trivial hs
    exact Session.isLocked_of_held_eq_none hnone now
  | timeUntilLock => exact hs
  | clear => exact Session.isLocked_of_held_eq_none rfl now
  | touch => cases h
  | install key => cases h

/-- A session without a key stays without one, unless a key is installed. -/
theorem InstallsNothing.held_session (h : c.InstallsNothing) (hs : s.held = none) :
  (c.session s now).held = none
  := by
  have hlocked := Session.isLocked_of_held_eq_none hs now
  cases c with
  | isSet => exact Notices.held_session (c := isSet) trivial hlocked
  | withKey => exact Notices.held_session (c := withKey) trivial hlocked
  | touch => rw [session, Session.touch_of_held_eq_none hs, hs]
  | timeUntilLock => exact hs
  | clear => rfl
  | install key => cases h

end SessionCall

/-! ### Sessions of a workspace -/

/-- What happens to the sessions of a workspace. -/
inductive SessionEvent where
  | call (name : String) (c : SessionCall)
  | clone (name clone : String)
  | advance (nanos : Nat)

/-- The call that an event makes on the session in a slot. -/
def SessionEvent.callOn? (slot : Nat) (w : Workspace) : SessionEvent → Option SessionCall
  | call name c => if w.names.lookup name = some slot then some c else none
  | clone _ _ => none
  | advance _ => none

namespace Workspace

variable {w w' : Workspace} {slot : Nat} {s : Session} {name : String}

/-- The workspace after an event. -/
def react (w : Workspace) : SessionEvent → Workspace
  | .call name c => ((w.runSession? name c.action).map Prod.snd).getD w
  | .clone name clone => (w.cloneSession? name clone).getD w
  | .advance nanos => w.advance nanos

/-- The key in reach of the session in a slot. -/
def key? (w : Workspace) (slot : Nat) : Option Key :=
  (w.slots.lookup slot).bind fun s => Host.key? ⟨w.random, w.clock, s⟩

/-- Whether a key is in reach, or no key, under whatever name the session in a slot is asked. -/
structure Reaches (w : Workspace) (slot : Nat) (key? : Option Key) : Prop where
  key?_eq : w.key? slot = key?
  isSet : ∀ name, w.names.lookup name = some slot →
    (w.runSession? name SessionAction.isSet).map Prod.fst = some (.ok key?.isSome)
  masterKey : ∀ name, w.names.lookup name = some slot →
    (w.runSession? name SessionAction.masterKey).map Prod.fst =
      some (key?.elim (.error .masterKeyNotSet) .ok)

theorem runSession?_eq {α : Type} (hname : w.names.lookup name = some slot)
    (hslot : w.slots.lookup slot = some s) (x : SessionAction α) :
  w.runSession? name x =
    let outcome := x.outcome ⟨w.random, w.clock, s⟩
    some (outcome.1, { w with
      random := outcome.2.random
      slots := setEntry slot outcome.2.session w.slots })
  := by
  rw [runSession?, hname]
  dsimp only [bind, Option.bind]
  rw [hslot]
  rfl

/-- The key in reach is in reach under all names. -/
theorem reaches_key? (hslot : w.slots.lookup slot = some s) :
  w.Reaches slot (w.key? slot)
  := by
  have hkey : w.key? slot = Host.key? ⟨w.random, w.clock, s⟩ := by
    rw [key?, hslot]
    rfl
  rw [hkey]
  constructor
  · exact hkey
  · intro name hname
    rw [runSession?_eq hname hslot, SessionAction.outcome_isSet]
    rfl
  · intro name hname
    rw [runSession?_eq hname hslot, SessionAction.outcome_masterKey]
    rcases Host.key? ⟨w.random, w.clock, s⟩ with _ | key
    · rfl
    · rfl

/-- A locked session has no key in reach. -/
theorem reaches_none (hslot : w.slots.lookup slot = some s) (h : s.IsLocked w.clock.monotonic) :
  w.Reaches slot none
  := by
  have hreaches := reaches_key? hslot
  have hnone : Host.key? ⟨w.random, w.clock, s⟩ = none := Host.key?_eq_none_iff.2 h
  rw [key?, hslot, Option.bind_some, hnone] at hreaches
  exact hreaches

/-! ### Events -/

/-- A call changes the session that has the name, and nothing else. -/
theorem react_call (hname : w.names.lookup name = some slot) (hslot : w.slots.lookup slot = some s)
    (c : SessionCall) :
  w.react (.call name c) =
    { w with slots := setEntry slot (c.session s w.clock.monotonic) w.slots }
  := by
  rw [react, runSession?_eq hname hslot]
  dsimp only
  rw [c.outcome_action]
  rfl

theorem lookup_react_call (hname : w.names.lookup name = some slot)
    (hslot : w.slots.lookup slot = some s) (c : SessionCall) :
  (w.react (.call name c)).slots.lookup slot = some (c.session s w.clock.monotonic)
  := by
  rw [react_call hname hslot, lookup_setEntry, if_pos rfl]

/-- A touch brings the key that is held into reach, whether it expired or not. -/
theorem reaches_react_touch (hname : w.names.lookup name = some slot)
    (hslot : w.slots.lookup slot = some s) {k : HeldKey} (hk : s.held = some k) :
  (w.react (.call name .touch)).Reaches slot (some k.key)
  := by
  have hslot' := lookup_react_call hname hslot .touch
  have hkey : (w.react (.call name .touch)).key? slot = some k.key := by
    rw [key?, hslot', react_call hname hslot, Option.bind_some, Host.key?, SessionCall.session,
      Session.settle_touch, Session.touch, hk]
    rfl
  rw [← hkey]
  exact reaches_key? hslot'

/-- A name has a session, or a call under it changes nothing. -/
theorem exists_session_or_react_call (w : Workspace) (name : String) (c : SessionCall) :
  (∃ slot s, w.names.lookup name = some slot ∧ w.slots.lookup slot = some s) ∨
    w.react (.call name c) = w ∧
      ∀ slot, w.names.lookup name = some slot → w.slots.lookup slot = none
  := by
  rcases hname : w.names.lookup name with _ | slot
  · right
    rw [react, runSession?, hname]
    exact ⟨rfl, fun _ h => nomatch h⟩
  · rcases hslot : w.slots.lookup slot with _ | s
    · right
      rw [react, runSession?, hname]
      dsimp only [bind, Option.bind]
      rw [hslot]
      refine ⟨rfl, ?_⟩
      rintro _ ⟨⟩
      exact hslot
    · exact .inl ⟨slot, s, rfl, hslot⟩

theorem react_clone (w : Workspace) (name clone : String) :
  ∃ names, w.react (.clone name clone) = { w with names := names }
  := by
  rw [react, cloneSession?]
  rcases w.names.lookup name with _ | slot
  · exact ⟨w.names, rfl⟩
  · exact ⟨_, rfl⟩

/-- An event changes the session in a slot as the call does that it makes on it, and leaves the session
if it makes none. -/
theorem lookup_react (w : Workspace) (e : SessionEvent) (slot : Nat) :
  (w.react e).slots.lookup slot =
    (w.slots.lookup slot).map fun s =>
      (e.callOn? slot w).elim s (SessionCall.session s w.clock.monotonic)
  := by
  cases e with
  | call name c =>
    rw [SessionEvent.callOn?]
    obtain ⟨other, s, hname, hslot⟩ | ⟨hreact, hnone⟩ := w.exists_session_or_react_call name c
    · rw [react_call hname hslot, lookup_setEntry, hname]
      -- The name may be one of another slot, which is the only one that changes then.
      by_cases hother : slot = other
      · subst hother
        simp [hslot]
      · simp [hother, Ne.symm hother]
    · rw [hreact]
      by_cases hname : w.names.lookup name = some slot
      · rw [hnone slot hname]
        rfl
      · rw [if_neg hname]
        exact Option.map_id'.symm
  | clone name clone =>
    obtain ⟨names, hreact⟩ := w.react_clone name clone
    rw [hreact]
    exact Option.map_id'.symm
  | advance nanos => exact Option.map_id'.symm

theorem clock_react_call (w : Workspace) (name : String) (c : SessionCall) :
  (w.react (.call name c)).clock = w.clock
  := by
  obtain ⟨slot, s, hname, hslot⟩ | ⟨hreact, -⟩ := w.exists_session_or_react_call name c
  · rw [react_call hname hslot]
  · rw [hreact]

theorem clock_react_clone (w : Workspace) (name clone : String) :
  (w.react (.clone name clone)).clock = w.clock
  := by
  obtain ⟨names, hreact⟩ := w.react_clone name clone
  rw [hreact]

/-- No event puts the clock back. -/
theorem monotonic_le_react (w : Workspace) (e : SessionEvent) :
  w.clock.monotonic ≤ (w.react e).clock.monotonic
  := by
  cases e with
  | call name c => exact Nat.le_of_eq (congrArg Clock.monotonic (w.clock_react_call name c).symm)
  | clone name clone =>
    exact Nat.le_of_eq (congrArg Clock.monotonic (w.clock_react_clone name clone).symm)
  | advance nanos => exact Nat.le_add_right ..

/-! ### Runs -/

/-- What events have made of a workspace, of which those on a session in a slot are allowed. -/
inductive SessionRun (slot : Nat) (allowed : SessionCall → Prop) (w : Workspace) :
    Workspace → Prop where
  | start : SessionRun slot allowed w w
  | step {w' : Workspace} (e : SessionEvent) (h : SessionRun slot allowed w w')
    (ha : ∀ c, e.callOn? slot w' = some c → allowed c) : SessionRun slot allowed w (w'.react e)

/-- What holds of a session at the start of a run, and is left true by time and by allowed calls, holds
at the end. -/
theorem SessionRun.invariant {allowed : SessionCall → Prop} {P : Session → Nat → Prop}
    (h : w.SessionRun slot allowed w') (hslot : w.slots.lookup slot = some s)
    (hP : P s w.clock.monotonic)
    (hcall : ∀ (c : SessionCall) (s : Session) (now : Nat), allowed c → P s now →
      P (c.session s now) now)
    (hlater : ∀ (s : Session) (now later : Nat), now ≤ later → P s now → P s later) :
  ∃ s', w'.slots.lookup slot = some s' ∧ P s' w'.clock.monotonic
  := by
  induction h with
  | start => exact ⟨s, hslot, hP⟩
  | step e h ha ih =>
    rename_i w'
    obtain ⟨s', hslot', hP'⟩ := ih
    have hlookup := w'.lookup_react e slot
    rw [hslot'] at hlookup
    refine ⟨_, hlookup, ?_⟩
    apply hlater _ _ _ (w'.monotonic_le_react e)
    rcases hc : e.callOn? slot w' with _ | c
    · exact hP'
    · exact hcall c s' _ (ha c hc) hP'

/-- In a run, the timeout stays, and the key that is held was used no later than now. -/
theorem SessionRun.exists_used {allowed : SessionCall → Prop} (h : w.SessionRun slot allowed w')
    (hslot : w.slots.lookup slot = some s)
    (hused : ∀ k, s.held = some k → k.lastActivity ≤ w.clock.monotonic) :
  ∃ s', w'.slots.lookup slot = some s' ∧ s'.autoLockSeconds = s.autoLockSeconds ∧
    ∀ k, s'.held = some k → k.lastActivity ≤ w'.clock.monotonic
  := by
  apply h.invariant (P := fun s' now => s'.autoLockSeconds = s.autoLockSeconds ∧
    ∀ k, s'.held = some k → k.lastActivity ≤ now) hslot
  · exact ⟨rfl, hused⟩
  · rintro c s' now - ⟨ht, hused⟩
    exact ⟨(c.autoLockSeconds_session s' now).trans ht, fun k => c.lastActivity_session_le hused⟩
  · rintro s' now later hle ⟨ht, hused⟩
    exact ⟨ht, fun k hk => Nat.le_trans (hused k hk) hle⟩

/-- A session that is idle for longer than its timeout is locked. -/
theorem SessionRun.exists_isLocked (h : w.SessionRun slot SessionCall.IsIdle w')
    (hslot : w.slots.lookup slot = some s) (ht : s.autoLockSeconds ≠ 0)
    (hused : ∀ k, s.held = some k → k.lastActivity ≤ w.clock.monotonic)
    (hlong : s.autoLockSeconds.toNat * 1000000000 < w'.clock.monotonic - w.clock.monotonic) :
  ∃ s', w'.slots.lookup slot = some s' ∧ s'.IsLocked w'.clock.monotonic
  := by
  obtain ⟨s', hslot', ht', hused'⟩ := h.invariant
    (P := fun s' _ => s'.autoLockSeconds = s.autoLockSeconds ∧
      ∀ k, s'.held = some k → k.lastActivity ≤ w.clock.monotonic) hslot ⟨rfl, hused⟩
    (fun c s' now hc hP => ⟨(c.autoLockSeconds_session s' now).trans hP.1,
      fun k hk => hP.2 k (hc.held_of_held_session hk)⟩)
    (fun _ _ _ _ hP => hP)
  use s', hslot'
  rw [← ht'] at ht hlong
  exact Session.isLocked_of_lt ht hused' hlong

end Workspace

/-- Take a session that begins without a key and has a timeout, after any calls of it and its clones.
If it is then left idle for longer than the timeout, no key is in reach.  None comes into reach again
as long as the session is not touched and no key is installed; and from the first call on that
notices, none comes into reach as long as no key is installed.  But if the expired key was not noticed
yet, a touch brings it into reach again. -/
theorem auto_lock_is_final_once_noticed {w w₁ w₂ : Workspace} {slot : Nat} {s : Session}
    (hslot : w.slots.lookup slot = some s) (hheld : s.held = none) (ht : s.autoLockSeconds ≠ 0)
    (hrun : w.SessionRun slot (fun _ => True) w₁)
    (hidle : w₁.SessionRun slot SessionCall.IsIdle w₂)
    (hlong : s.autoLockSeconds.toNat * 1000000000 < w₂.clock.monotonic - w₁.clock.monotonic) :
  w₂.Reaches slot none ∧
  (∀ w₃, w₂.SessionRun slot SessionCall.TouchesNothing w₃ →
    w₃.Reaches slot none ∧
    ∀ name c, w₃.names.lookup name = some slot → c.Notices →
      ∀ w₄, (w₃.react (.call name c)).SessionRun slot SessionCall.InstallsNothing w₄ →
        w₄.Reaches slot none) ∧
  ∀ name s₂ k, w₂.names.lookup name = some slot → w₂.slots.lookup slot = some s₂ →
    s₂.held = some k → (w₂.react (.call name .touch)).Reaches slot (some k.key)
  := by
  have hused : ∀ k, s.held = some k → k.lastActivity ≤ w.clock.monotonic := by
    intro k hk
    rw [hheld] at hk
    cases hk
  obtain ⟨s₁, hslot₁, ht₁, hused₁⟩ := hrun.exists_used hslot hused
  rw [← ht₁] at ht hlong
  obtain ⟨s₂, hslot₂, hlocked₂⟩ := hidle.exists_isLocked hslot₁ ht hused₁ hlong
  refine ⟨Workspace.reaches_none hslot₂ hlocked₂, ?_, ?_⟩
  · intro w₃ hrun₃
    obtain ⟨s₃, hslot₃, hlocked₃⟩ := hrun₃.invariant (P := Session.IsLocked) hslot₂ hlocked₂
      (fun c s now hc hs => hc.isLocked_session hs) (fun s now later hle hs => hs.mono hle)
    use Workspace.reaches_none hslot₃ hlocked₃
    intro name c hname hc w₄ hrun₄
    have hnone := hc.held_session hlocked₃
    obtain ⟨s₄, hslot₄, hnone₄⟩ := hrun₄.invariant (P := fun s _ => s.held = none)
      (Workspace.lookup_react_call hname hslot₃ c) hnone
      (fun c s now hc hs => hc.held_session hs) (fun _ _ _ _ hs => hs)
    exact Workspace.reaches_none hslot₄ (Session.isLocked_of_held_eq_none hnone₄ _)
  · intro name s₂ k hname hslot₂ hk
    exact Workspace.reaches_react_touch hname hslot₂ hk

/-- A workspace with a session that has a timeout of one second, and with a clone of it. -/
def Workspace.sample : Workspace where
  random := .ofBlocks fun n _ => .zero n
  clock := ⟨.epoch, 0⟩
  databases := []
  stores := []
  names := [("session", 0), ("clone", 0)]
  slots := [(0, .new .standard 8 1)]

/-- The sample session with the key of zeroes installed, a second and a nanosecond ago. -/
def Workspace.locked : Workspace :=
  (sample.react (.call "session" (.install (.zero 32)))).react (.advance 1000000001)

/-- The locked sample session has no key in reach.  Touched through its clone, it has the old one in
reach again; but not if it was asked for a key before. -/
theorem auto_lock_is_final_once_noticed_sample :
  Workspace.locked.Reaches 0 none ∧
    (Workspace.locked.react (.call "clone" .touch)).Reaches 0 (some (.zero 32)) ∧
    ((Workspace.locked.react (.call "session" .isSet)).react (.call "clone" .touch)).Reaches 0 none
  := by
  have hslot : Workspace.sample.slots.lookup 0 = some (.new .standard 8 1) := rfl
  have hrun : Workspace.sample.SessionRun 0 (fun _ => True)
      (Workspace.sample.react (.call "session" (.install (.zero 32)))) :=
    .step _ .start fun _ _ => trivial
  have hidle : (Workspace.sample.react (.call "session" (.install (.zero 32)))).SessionRun 0
      SessionCall.IsIdle .locked := .step _ .start fun _ hc => nomatch hc
  obtain ⟨hlocked, hfinal, hrevived⟩ :=
    auto_lock_is_final_once_noticed hslot rfl (by decide) hrun hidle (by decide)
  use hlocked, hrevived "clone" _ ⟨.zero 32, 0⟩ rfl rfl rfl
  obtain ⟨-, hnoticed⟩ := hfinal .locked .start
  apply hnoticed "session" .isSet rfl trivial
  apply Workspace.SessionRun.step _ .start
  intro c hc
  cases hc
  trivial

end Keyring

import Keyring.Proofs.Store.KeyHistory

/-!
# The time until a session is locked

A session tells how many whole seconds are left until it is locked, which is never more than a second
from the truth: left alone, it keeps its key for all but the last of these seconds, and loses it once
they have passed.  A session without a key tells no time.  It tells none exactly if no key is in reach,
unless it is overdue: then its key expired, but nothing noticed yet, and the time it tells is zero.
-/

namespace Keyring

/-! ### Overdue sessions -/

namespace Session

variable {s : Session} {now later n : Nat} {k : HeldKey}

/-- Whether a session still holds a key that expired. -/
def IsOverdue (s : Session) (now : Nat) : Prop :=
  ∃ k, s.held = some k ∧ s.isExpired now k = true

theorem timeUntilLock_eq_none_iff :
  s.timeUntilLock now = none ↔ s.held = none
  := Option.map_eq_none_iff

theorem timeUntilLock_of_timeout (hk : s.held = some k) (ht : s.autoLockSeconds ≠ 0) :
  s.timeUntilLock now =
    some (s.autoLockSeconds.toNat - (now - k.lastActivity) / 1000000000)
  := by
  rw [timeUntilLock, hk, Option.map_some, if_neg ht]

theorem isExpired_iff :
  s.isExpired now k = true ↔
    s.autoLockSeconds ≠ 0 ∧ s.autoLockSeconds.toNat * 1000000000 < now - k.lastActivity
  := by
  rw [isExpired, Bool.and_eq_true, decide_eq_true_iff, decide_eq_true_iff]

/-- A session without a key in reach holds none, or is overdue. -/
theorem isLocked_iff :
  s.IsLocked now ↔ s.held = none ∨ s.IsOverdue now
  := by
  rcases hheld : s.held with _ | k
  · simp [IsLocked, hheld]
  · simp [IsLocked, IsOverdue, hheld]

theorem IsOverdue.timeUntilLock (h : s.IsOverdue now) :
  s.timeUntilLock now = some 0
  := by
  obtain ⟨k, hk, hexpired⟩ := h
  obtain ⟨ht, hlong⟩ := isExpired_iff.1 hexpired
  rw [timeUntilLock_of_timeout hk ht]
  congr 1
  omega

theorem not_isOverdue_of_held_eq_none (h : s.held = none) :
  ¬s.IsOverdue now
  := by
  rintro ⟨k, hk, -⟩
  rw [h] at hk
  cases hk

theorem not_isOverdue_settle (s : Session) (now : Nat) :
  ¬(s.settle now).IsOverdue now
  := by
  intro h
  have hlocked := held_settle_eq_none_iff.2 (isLocked_iff.2 (.inr h))
  rw [settle_settle] at hlocked
  exact not_isOverdue_of_held_eq_none hlocked h

theorem not_isOverdue_touch (s : Session) (now : Nat) :
  ¬(s.touch now).IsOverdue now
  := by
  rw [← settle_touch]
  exact not_isOverdue_settle _ now

/-- A key that is left alone for all but the last of the seconds that are told does not expire. -/
theorem not_isLocked_of_timeUntilLock (hn : s.timeUntilLock now = some n)
    (ht : s.autoLockSeconds ≠ 0) (hpos : 1 ≤ n) (hidle : later - now ≤ (n - 1) * 1000000000) :
  ¬s.IsLocked later
  := by
  rcases hk : s.held with _ | k
  · rw [timeUntilLock_eq_none_iff.2 hk] at hn
    cases hn
  · rw [timeUntilLock_of_timeout hk ht, Option.some.injEq] at hn
    intro hlocked
    obtain ⟨-, hlong⟩ := isExpired_iff.1 (hlocked k hk)
    omega

/-- A key that is left alone for more than the seconds that are told expires. -/
theorem isLocked_of_timeUntilLock (hn : s.timeUntilLock now = some n)
    (ht : s.autoLockSeconds ≠ 0) (hused : ∀ k, s.held = some k → k.lastActivity ≤ now)
    (hidle : n * 1000000000 < later - now) :
  s.IsLocked later
  := by
  intro k hk
  rw [timeUntilLock_of_timeout hk ht, Option.some.injEq] at hn
  rw [← hn, Nat.sub_mul] at hidle
  have hle := hused k hk
  have hpast := Nat.div_mul_le_self (now - k.lastActivity) 1000000000
  exact isExpired_iff.2 ⟨ht, by omega⟩

end Session

/-! ### Asking a session -/

namespace SessionCall

variable {c : SessionCall} {s : Session} {now : Nat}

/-- Whether a call only asks for the state of a session. -/
def IsQuestion : SessionCall → Prop
  | isSet | timeUntilLock => True
  | withKey | touch | clear | install _ => False

theorem IsQuestion.installsNothing (h : c.IsQuestion) :
  c.InstallsNothing
  := by
  cases c with
  | isSet => trivial
  | timeUntilLock => trivial
  | _ => cases h

/-- A session that was asked is as before, or has lost a key that expired. -/
theorem IsQuestion.session_cases (h : c.IsQuestion) (s : Session) (now : Nat) :
  c.session s now = s ∨ c.session s now = s.clear ∧ s.IsOverdue now
  := by
  cases c with
  | isSet =>
    rw [session, Session.settle]
    rcases hheld : s.held with _ | k
    · exact .inl rfl
    · by_cases hexpired : s.isExpired now k = true
      · exact .inr ⟨if_pos hexpired, k, hheld, hexpired⟩
      · exact .inl (if_neg hexpired)
  | timeUntilLock => exact .inl rfl
  | _ => cases h

/-- A session that was called to notice is not overdue. -/
theorem Notices.not_isOverdue (h : c.Notices) (s : Session) (now : Nat) :
  ¬(c.session s now).IsOverdue now
  := by
  cases c with
  | isSet => exact Session.not_isOverdue_settle s now
  | withKey => exact Session.not_isOverdue_touch _ now
  | clear => exact Session.not_isOverdue_of_held_eq_none rfl
  | _ => cases h

end SessionCall

namespace KeyHistory

/-- No request puts the last use of a key into the future. -/
theorem used_request_le {α : Type} {h : KeyHistory} {host : Host}
    (hle : h.used ≤ host.clock.monotonic) (r : SessionRequest α) :
  (r.history host h).used ≤ host.clock.monotonic
  := by
  cases r with
  | setMasterKey _ | deriveMasterKey _ _ | masterKey =>
    dsimp only [SessionRequest.history]
    split
    · exact Nat.le_refl _
    · exact hle
  | touch => exact Nat.le_refl _
  | _ => exact hle

theorem used_operation_le {α : Type} {h : KeyHistory} {device : Device}
    (hle : h.used ≤ device.clock.monotonic) (op : Operation α) :
  (op.history device h).used ≤ device.clock.monotonic
  := by
  by_cases hinstalls : op.InstallsKey
  · cases op with
    | unlock password =>
      rw [Operation.history]
      split
      · exact Nat.le_refl _
      · exact hle
    | _ => cases hinstalls
  · rw [Operation.history_of_not_installsKey hinstalls]
    split
    · exact hle
    · exact Nat.le_refl _

/-- A slot takes a history in which no use is in the future. -/
theorem used_update_le {histories : Nat → KeyHistory} {now slot : Nat} {h : KeyHistory}
    (hle : ∀ other, (histories other).used ≤ now) (hused : h.used ≤ now) (other : Nat) :
  (Function.update histories slot h other).used ≤ now
  := by
  rw [Function.update_apply]
  split
  · exact hused
  · exact hle other

end KeyHistory

/-! ### Sessions of a machine -/

namespace Workspace

variable {w w' : Workspace} {histories : Nat → KeyHistory} {slot : Nat} {s : Session} {name : String}

theorem isInvariant_used_le :
  IsInvariant fun now _ histories => ∀ slot, (histories slot).used ≤ now
  where
    start := fun _ => Nat.le_refl 0
    later h nanos slot := Nat.le_trans (h slot) (Nat.le_add_right _ nanos)
    newSession h _ _ _ := KeyHistory.used_update_le h (Nat.zero_le _)
    request _ h _ r := KeyHistory.used_update_le h (KeyHistory.used_request_le (h _) r)
    operation _ h _ op := KeyHistory.used_update_le h (KeyHistory.used_operation_le (h _) op)

/-- Whatever happened, the keys of all sessions were used in the past. -/
theorem Run.used_le (h : w.Run histories) (slot : Nat) :
  (histories slot).used ≤ w.clock.monotonic
  := h.invariant isInvariant_used_le slot

/-- Whatever happened, a key that a session holds was used in the past. -/
theorem Run.lastActivity_le (h : w.Run histories) (hslot : w.slots.lookup slot = some s) {k : HeldKey}
    (hk : s.held = some k) :
  k.lastActivity ≤ w.clock.monotonic
  := Nat.le_trans (h.areCovered slot s hslot k hk).2 (h.used_le slot)

/-- A session that is only asked has the key in reach that it would have if it had been left alone. -/
theorem SessionRun.reaches_of_questions (h : w.SessionRun slot SessionCall.IsQuestion w')
    (hslot : w.slots.lookup slot = some s) :
  w'.Reaches slot ((s.settle w'.clock.monotonic).held.map HeldKey.key)
  := by
  have hinvariant : ∃ s', w'.slots.lookup slot = some s' ∧
      (s' = s ∨ s'.held = none ∧ s.IsLocked w'.clock.monotonic) := by
    apply h.invariant (P := fun s' now => s' = s ∨ s'.held = none ∧ s.IsLocked now) hslot (.inl rfl)
    · rintro c s' now hc (rfl | ⟨hnone, hlocked⟩)
      · obtain hsame | ⟨hcleared, hoverdue⟩ := hc.session_cases s' now
        · exact .inl hsame
        · rw [hcleared]
          exact .inr ⟨rfl, Session.isLocked_iff.2 (.inr hoverdue)⟩
      · exact .inr ⟨hc.installsNothing.held_session hnone, hlocked⟩
    · rintro s' now later hle (hsame | ⟨hnone, hlocked⟩)
      · exact .inl hsame
      · exact .inr ⟨hnone, hlocked.mono hle⟩
  obtain ⟨s', hslot', hs'⟩ := hinvariant
  have hkey : w'.key? slot = (s.settle w'.clock.monotonic).held.map HeldKey.key := by
    rw [key?, hslot', Option.bind_some]
    rcases hs' with rfl | ⟨hnone, hlocked⟩
    · rfl
    · rw [Session.held_settle_eq_none_iff.2 hlocked]
      exact Host.key?_eq_none_iff.2 (Session.isLocked_of_held_eq_none hnone _)
  rw [← hkey]
  exact reaches_key? hslot'

/-- Whether a request is answered so by the session with a name. -/
def Answers {α : Type} (w : Workspace) (name : String) (x : SessionAction α) (a : α) : Prop :=
  (w.runSession? name x).map Prod.fst = some (.ok a)

theorem answers_timeUntilLock (hname : w.names.lookup name = some slot)
    (hslot : w.slots.lookup slot = some s) :
  w.Answers name SessionAction.timeUntilLock (s.timeUntilLock w.clock.monotonic)
  := by
  rw [Answers, runSession?_eq hname hslot]
  rfl

theorem answers_isSet (hname : w.names.lookup name = some slot)
    (hslot : w.slots.lookup slot = some s) :
  w.Answers name SessionAction.isSet (s.settle w.clock.monotonic).held.isSome
  := by
  rw [Answers, runSession?_eq hname hslot]
  rfl

end Workspace

/-- Whatever happened on a machine, ask a session, under any of its names, for the time until it is
locked and for whether it has a key.  It tells no time exactly if it has no key, unless it is overdue;
then it tells that no second is left, but has no key any more.  A session that was called to notice is
not overdue.  If a session with a timeout tells a time, then it still has its key as long as it is left
alone, or only asked, for all but the last of these seconds, and has none once more than these seconds
have passed. -/
theorem time_until_lock_is_true_unless_overdue {w : Workspace} {histories : Nat → KeyHistory}
    {name : String} {slot : Nat} {s : Session} (h : w.Run histories)
    (hname : w.names.lookup name = some slot) (hslot : w.slots.lookup slot = some s) :
  ∃ left? isSet,
    w.Answers name SessionAction.timeUntilLock left? ∧ w.Answers name SessionAction.isSet isSet ∧
    (¬s.IsOverdue w.clock.monotonic → (left? = none ↔ isSet = false)) ∧
    (s.IsOverdue w.clock.monotonic → left? = some 0 ∧ isSet = false) ∧
    (∀ c s', c.Notices → (w.react (.call name c)).slots.lookup slot = some s' →
      ¬s'.IsOverdue w.clock.monotonic) ∧
    ∀ n, left? = some n → s.autoLockSeconds ≠ 0 →
      ∀ w', w.SessionRun slot SessionCall.IsQuestion w' →
        (1 ≤ n → w'.clock.monotonic - w.clock.monotonic ≤ (n - 1) * 1000000000 →
          ∃ k, s.held = some k ∧ w'.Reaches slot (some k.key)) ∧
        (n * 1000000000 < w'.clock.monotonic - w.clock.monotonic → w'.Reaches slot none)
  := by
  have hset : (s.settle w.clock.monotonic).held.isSome = false ↔
      s.held = none ∨ s.IsOverdue w.clock.monotonic := by
    rw [Option.isSome_eq_false_iff, Option.isNone_iff_eq_none, Session.held_settle_eq_none_iff,
      Session.isLocked_iff]
  refine ⟨_, _, Workspace.answers_timeUntilLock hname hslot, Workspace.answers_isSet hname hslot,
    ?_, ?_, ?_, ?_⟩
  · intro hdue
    rw [Session.timeUntilLock_eq_none_iff, hset, or_iff_left hdue]
  · intro hoverdue
    exact ⟨hoverdue.timeUntilLock, hset.2 (.inr hoverdue)⟩
  · intro c s' hc hs'
    rw [Workspace.lookup_react_call hname hslot] at hs'
    cases hs'
    exact hc.not_isOverdue s _
  · intro n hn ht w' hrun
    have hreaches := hrun.reaches_of_questions hslot
    constructor
    · intro hpos hidle
      have hopen := Session.not_isLocked_of_timeUntilLock hn ht hpos hidle
      rw [← Session.held_settle_eq_none_iff] at hopen
      obtain ⟨k, hk⟩ := Option.ne_none_iff_exists'.1 hopen
      rw [hk] at hreaches
      exact ⟨k, Session.held_of_held_settle hk, hreaches⟩
    · intro hidle
      have hlocked := Session.isLocked_of_timeUntilLock hn ht (fun k => h.lastActivity_le hslot) hidle
      rw [Session.held_settle_eq_none_iff.2 hlocked] at hreaches
      exact hreaches

/-- A session with a timeout of one second is left alone for a second and a nanosecond after a key was
installed: it tells that no second is left, and has no key. -/
theorem time_until_lock_is_true_unless_overdue_sample :
  ∃ (w : Workspace) (histories : Nat → KeyHistory), w.Run histories ∧
    w.Answers "session" SessionAction.timeUntilLock (some 0) ∧
    w.Answers "session" SessionAction.isSet false
  := by
  have hsession := (Workspace.Run.start (.ofBlocks fun n _ => .zero n) .epoch).newSession "session"
    .standard 8 1
  have hinstall := hsession.request "session" (.setMasterKey (List.replicate 32 0)) rfl rfl rfl
  have hlater := hinstall.advance 1000000001
  obtain ⟨left?, isSet, hleft, hset, -, hoverdue, -⟩ := time_until_lock_is_true_unless_overdue hlater
    (rfl : List.lookup "session" _ = some _) rfl
  obtain ⟨rfl, rfl⟩ := hoverdue ⟨_, rfl, by decide⟩
  exact ⟨_, _, hlater, hleft, hset⟩

end Keyring

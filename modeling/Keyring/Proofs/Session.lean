import Keyring.Proofs.Outcome
import Keyring.Session

/-!
# Keys in reach

A session may hold a key that expired and was not noticed yet.  The key in reach is the one
that a session holds after it noticed; every operation that needs a key takes this one, and
fails if there is none.
-/

namespace Keyring

namespace Session

/-- A session that noticed has nothing more to notice. -/
@[simp]
theorem settle_settle (s : Session) (now : Nat) :
  (s.settle now).settle now = s.settle now
  := by
  rcases h : s.held with _ | k
  · simp [settle, h]
  · by_cases he : s.isExpired now k
    · simp [settle, h, he, clear]
    · simp [settle, h, he]

/-- A key that was just used is not expired. -/
theorem settle_touch (s : Session) (now : Nat) :
  (s.touch now).settle now = s.touch now
  := by
  rcases h : s.held with _ | k
  · simp [settle, touch, h]
  · simp [settle, touch, h, isExpired]

@[simp]
theorem touch_touch (s : Session) (now : Nat) :
  (s.touch now).touch now = s.touch now
  := by
  rw [touch, touch, Option.map_map]
  rfl

end Session

namespace Host

/-- The key in reach. -/
def key? (host : Host) : Option Key :=
  (host.session.settle host.clock.monotonic).held.map HeldKey.key

/-- The host after its session noticed whether its key expired. -/
def settled (host : Host) : Host :=
  { host with session := host.session.settle host.clock.monotonic }

/-- The host after the key in reach was used. -/
def touched (host : Host) : Host :=
  { host with
    session := (host.session.settle host.clock.monotonic).touch host.clock.monotonic }

/-- The host after a block of `n` bytes was taken. -/
def drawn (host : Host) (n : Nat) : Host :=
  { host with random := host.random.advance n }

@[simp]
theorem settled_settled (host : Host) :
  host.settled.settled = host.settled
  := by
  simp [settled]

@[simp]
theorem key?_settled (host : Host) :
  host.settled.key? = host.key?
  := by
  simp [settled, key?]

@[simp]
theorem touched_settled (host : Host) :
  host.settled.touched = host.touched
  := by
  simp [settled, touched]

@[simp]
theorem key?_touched (host : Host) :
  host.touched.key? = host.key?
  := by
  rw [key?, touched, Session.settle_touch, Session.touch, Option.map_map]
  rfl

@[simp]
theorem key?_drawn (host : Host) (n : Nat) :
  (host.drawn n).key? = host.key?
  := rfl

@[simp]
theorem drawn_random (host : Host) (n : Nat) :
  (host.drawn n).random = host.random.advance n
  := rfl

@[simp]
theorem drawn_clock (host : Host) (n : Nat) :
  (host.drawn n).clock = host.clock
  := rfl

@[simp]
theorem settled_random (host : Host) :
  host.settled.random = host.random
  := rfl

@[simp]
theorem settled_clock (host : Host) :
  host.settled.clock = host.clock
  := rfl

@[simp]
theorem touched_random (host : Host) :
  host.touched.random = host.random
  := rfl

@[simp]
theorem touched_clock (host : Host) :
  host.touched.clock = host.clock
  := rfl

end Host

/-! ### Statements -/

@[simp]
theorem Draw.block_apply (n : Nat) (r : RandomSource) :
  Draw.block n r = (r.next n, r.advance n)
  := rfl

namespace SessionAction

@[simp]
theorem outcome_change (f : Session → Nat → Session) (host : Host) :
  (change f).outcome host =
    (.ok (), { host with session := f host.session host.clock.monotonic })
  := rfl

@[simp]
theorem outcome_draw {α : Type} (d : Draw α) (host : Host) :
  (draw d).outcome host = (.ok (d host.random).1, { host with random := (d host.random).2 })
  := rfl

@[simp]
theorem outcome_ofCrypto {α : Type} (r : Except CryptoError α) (host : Host) :
  (ofCrypto r).outcome host = (r.mapError StoreError.ofCrypto, host)
  := by
  cases r <;> rfl

@[simp]
theorem outcome_install (key : Key) (host : Host) :
  (install key).outcome host =
    (.ok (), { host with session := host.session.install host.clock.monotonic key })
  := rfl

theorem outcome_isSet (host : Host) :
  isSet.outcome host = (.ok host.key?.isSome, host.settled)
  := by
  rw [isSet, ExceptT.outcome_bind_of_ok (outcome_change _ _),
    ExceptT.outcome_bind_of_ok (ExceptT.outcome_get _), Host.key?, Option.isSome_map]
  rfl

/-- A key is demanded: the session notices, and there must be one in reach. -/
@[simp]
theorem outcome_requireSet (host : Host) :
  requireSet.outcome host =
    (if host.key?.isSome then .ok () else .error .masterKeyNotSet, host.settled)
  := by
  rw [requireSet, ExceptT.outcome_bind_of_ok (outcome_isSet host)]
  cases host.key?.isSome <;> rfl

/-- The master key is the key in reach. -/
theorem outcome_masterKey (host : Host) :
  masterKey.outcome host =
    match host.key? with
    | some key => (.ok key, host.touched)
    | none => (.error .masterKeyNotSet, host.settled)
  := by
  rcases h : (host.session.settle host.clock.monotonic).held with _ | k
  · have hk : host.key? = none := by simp [Host.key?, h]
    rw [hk, masterKey, ExceptT.outcome_bind_of_error]
    simp [hk]
  · have hk : host.key? = some k.key := by simp [Host.key?, h]
    have hs : requireSet.outcome host = (.ok (), host.settled) := by simp [hk]
    have hm : host.settled.session.held = some k := h
    rw [hk, masterKey, ExceptT.outcome_bind_of_ok hs,
      ExceptT.outcome_bind_of_ok (ExceptT.outcome_get _), hm]
    rfl

end SessionAction

end Keyring

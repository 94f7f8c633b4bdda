import Keyring.Proofs.Store.Merge
import Keyring.Proofs.Store.PlainKeys

/-!
# Members that share a conversation

Two members each keep a conversation in a store of their own, under a master key of their own.
Whenever they make a key, each combines the own private key with the public key of the other, and
both arrive at the same secret.  Key and version then depend on the secrets and on the earlier steps
alone: not on the master key, the settings, the clocks or the random bytes of either member.  So what
one member sees of the conversation in plain, the other one sees too.
-/

namespace Keyring

/-! ### One conversation in plain -/

/-- The secret of the owner of a key pair and the owner of another one. -/
def KeyPair.agree (own peer : KeyPair) : Except CryptoError SharedSecret :=
  SharedSecret.agree own.privateKey.bytes peer.publicKey.bytes

/-- Whether the two owners arrive at the same point. -/
def KeyPair.Meets (own peer : KeyPair) : Prop :=
  Curve25519.multiply own.privateKey peer.publicKey =
    Curve25519.multiply peer.privateKey own.publicKey

instance (own peer : KeyPair) : Decidable (own.Meets peer) :=
  inferInstanceAs (Decidable (_ = _))

theorem KeyPair.agree_eq (own peer : KeyPair) :
  own.agree peer =
    let secret := Curve25519.multiply own.privateKey peer.publicKey
    if secret.isZero then .error (.invalidKey "peer public key is a low-order point")
    else .ok ⟨secret⟩
  := by
  rw [agree, SharedSecret.agree, keyOfBytes, keyOfBytes, Block.ofBytes?_bytes, Block.ofBytes?_bytes,
    Except.ok_bind, Except.ok_bind]
  generalize Curve25519.multiply own.privateKey peer.publicKey = secret
  rcases secret.isZero with _ | _
  · rfl
  · rfl

/-- Owners that arrive at the same point have the same secret, or neither has one. -/
theorem KeyPair.Meets.agree_comm {own peer : KeyPair} (h : own.Meets peer) :
  peer.agree own = own.agree peer
  := by
  rw [agree_eq, agree_eq, h]

/-- A conversation as its members see it: the key in its version, and the versions to which
rotations have led. -/
structure PlainConversation where
  current : Option (ConversationKey × UInt32)
  logged : List UInt32

/-- The version of a conversation, which is zero if it has no key. -/
def PlainConversation.version (s : PlainConversation) : UInt32 :=
  (s.current.map Prod.snd).getD 0

/-- A step that a member takes on a conversation together with a peer: it stores a key derived for a
version of the conversation, rotates the conversation, or deletes its key. -/
inductive SharedStep : Type → Type where
  | store (own peer : KeyPair) (derived version : UInt32) : SharedStep Unit
  | rotate (own peer : KeyPair) (reason : String) : SharedStep RotationRecord
  | delete : SharedStep Bool

namespace SharedStep

variable {α : Type} {id : String} {s : PlainConversation}

/-- The step as the peer takes it. -/
def mirror : SharedStep α → SharedStep α
  | store own peer derived version => store peer own derived version
  | rotate own peer reason => rotate peer own reason
  | delete => delete

/-- Whether both members arrive at the same point. -/
def Meets : SharedStep α → Prop
  | store own peer _ _ => own.Meets peer
  | rotate own peer _ => own.Meets peer
  | delete => True

/-- How a step runs. -/
def action (id : String) : SharedStep α → Action α
  | store own peer derived version => do
    let secret ← Action.ofCrypto (own.agree peer)
    let key ← Action.ofCrypto (ConversationKey.derive secret.key.bytes id derived)
    Action.storeConversationKey id key version
  | rotate own peer reason => do
    let secret ← Action.ofCrypto (own.agree peer)
    Action.rotateConversationKey id secret.key.bytes reason
  | delete => Action.deleteConversationKey id

/-- The result of a step without the time at which it was taken. -/
def untimed : SharedStep α → α → α
  | rotate _ _ _, record => { record with rotatedAt := .epoch }
  | store _ _ _ _, result => result
  | delete, result => result

/-- The step on the conversation in plain. -/
def plain (id : String) (s : PlainConversation) :
    SharedStep α → Except StoreError α × PlainConversation
  | store own peer derived version =>
    match own.agree peer >>= fun secret => ConversationKey.derive secret.key.bytes id derived with
    | .error e => (.error (.ofCrypto e), s)
    | .ok key =>
      if version = 0 then (.error (.invalidInput "key versions start at 1"), s)
      else if version < s.version then
        (.error (.invalidInput <| s!"conversation {id} is at version {s.version.toNat}, " ++
          s!"refusing to store version {version.toNat}"), s)
      else (.ok (), { s with current := some (key, version) })
  | rotate own peer reason =>
    match own.agree peer with
    | .error e => (.error (.ofCrypto e), s)
    | .ok secret =>
      match Action.nextKey id secret.key.bytes s.version with
      | .error e => (.error e, s)
      | .ok (new, key) =>
        if new ∈ s.logged then (.error .database, s)
        else (.ok ⟨id, s.version, new, .epoch, reason⟩, ⟨some (key, new), s.logged ++ [new]⟩)
  | delete => (.ok s.current.isSome, { s with current := none })

/-- Both members take the same step in plain. -/
theorem Meets.plain_mirror {st : SharedStep α} (h : st.Meets) (id : String)
    (s : PlainConversation) :
  st.mirror.plain id s = st.plain id s
  := by
  cases st with
  | store own peer derived version =>
    rw [mirror, plain, plain, KeyPair.Meets.agree_comm h]
  | rotate own peer reason =>
    rw [mirror, plain, plain, KeyPair.Meets.agree_comm h]
  | delete => rfl

theorem untimed_mirror (st : SharedStep α) :
  st.mirror.untimed = st.untimed
  := by
  cases st with
  | store => rfl
  | rotate => rfl
  | delete => rfl

end SharedStep

/-! ### Keeping a conversation -/

/-- Key and version of a plain key. -/
def PlainKey.content (k : PlainKey) : ConversationKey × UInt32 :=
  (k.key, k.version)

/-- Whether a database has a conversation as its members see it, wrapped under a master key. -/
structure Database.HasConversation (master : Key) (id : String) (d : Database)
    (s : PlainConversation) : Prop where
  hasKey : ∃ k?, d.HasKey master id k? ∧ k?.map PlainKey.content = s.current
  hasRotation_iff : ∀ version : UInt32,
    d.hasRotation id (.integer version.toNat) = true ↔ version ∈ s.logged

namespace Database

variable {master : Key} {id : String} {d d' : Database} {s : PlainConversation}

namespace HasConversation

/-- A conversation without a key and without rotations. -/
theorem start (hrow : d.conversationKey? id = none) (hlog : d.rotationsOf id = []) :
  d.HasConversation master id ⟨none, []⟩
  := by
  constructor
  · exact ⟨none, .none_of_conversationKey? hrow, rfl⟩
  · intro version
    rw [hasRotation_eq_any_rotationsOf, hlog]
    simp

/-- Only the row and the log of the conversation matter. -/
theorem congr (h : d.HasConversation master id s)
    (hrow : d'.conversationKey? id = d.conversationKey? id)
    (hlog : d'.rotationsOf id = d.rotationsOf id) :
  d'.HasConversation master id s
  := by
  obtain ⟨k?, hk, hcontent⟩ := h.hasKey
  constructor
  · exact ⟨k?, hk.congr hrow, hcontent⟩
  · intro version
    rw [hasRotation_eq_any_rotationsOf, hlog, ← hasRotation_eq_any_rotationsOf]
    exact h.hasRotation_iff version

theorem liveVersion?_eq (h : d.HasConversation master id s) :
  d.liveVersion? id = .ok (s.current.map Prod.snd)
  := by
  obtain ⟨k?, hk, hcontent⟩ := h.hasKey
  rw [hk.liveVersion?_eq, ← hcontent, Option.map_map]
  rfl

theorem openConversation_eq (h : d.HasConversation master id s) :
  d.openConversation master id = .ok (s.current.map Prod.fst)
  := by
  obtain ⟨k?, hk, hcontent⟩ := h.hasKey
  rw [hk.openConversation_eq, ← hcontent, Option.map_map]
  rfl

theorem requireConversation_eq (h : d.HasConversation master id s) :
  d.requireConversation master id =
    s.current.elim (.error (.noConversationKey id)) fun current => .ok current.1
  := by
  obtain ⟨k?, hk, hcontent⟩ := h.hasKey
  rw [hk.requireConversation_eq, ← hcontent, Option.elim_map]
  rfl

/-- A key that is put in is that of the conversation from then on. -/
theorem updateConversationKey (h : d.HasConversation master id s) (key : ConversationKey)
    {version : UInt32} (hversion : version ≠ 0) (iv : Gcm.Iv) (createdAt : Instant)
    (rotatedAt : Option Instant) :
  (d.updateConversationKey (.ofRecord
      (.ofSealed id (key.wrapped master iv id version) version createdAt rotatedAt))).HasConversation
    master id { s with current := some (key, version) }
  := by
  obtain ⟨k?, hk, -⟩ := h.hasKey
  exact ⟨⟨_, hk.updateConversationKey key hversion iv createdAt rotatedAt, rfl⟩, h.hasRotation_iff⟩

theorem eraseConversationKey (h : d.HasConversation master id s) :
  (d.eraseConversationKey id).HasConversation master id { s with current := none }
  := ⟨⟨none, .eraseConversationKey master d id, rfl⟩, h.hasRotation_iff⟩

/-- The version of an entry is logged from then on. -/
theorem appendRotation (h : d.HasConversation master id s) {r : RotationRecord}
    (hr : r.conversationId = id) :
  { d with rotations := d.rotations ++ [RotationRow.ofRecord r] }.HasConversation master id
    { s with logged := s.logged ++ [r.newVersion] }
  := by
  obtain ⟨k?, hk, hcontent⟩ := h.hasKey
  constructor
  · exact ⟨k?, hk.congr rfl, hcontent⟩
  · intro version
    have hentry : (r.entry == (id, version)) = true ↔ version ∈ [r.newVersion] := by
      rw [beq_iff_eq, RotationRecord.entry, hr, Prod.mk.injEq, List.mem_singleton, @eq_comm _ version]
      exact and_iff_right rfl
    rw [hasRotation_append, Bool.or_eq_true, h.hasRotation_iff, hentry, List.mem_append]

end HasConversation

end Database

/-! ### Steps -/

namespace SharedStep

open Database (HasConversation)

variable {α : Type} {master : Key} {device : Device} {id : String} {s : PlainConversation}

/-- Whether a step on a device does, but for the time, what it does in plain. -/
def Refines (master : Key) (id : String) (device : Device) (s : PlainConversation)
    (st : SharedStep α) : Prop :=
  ((st.action id).outcome device).1.map st.untimed = (st.plain id s).1 ∧
    ((st.action id).outcome device).2.database.HasConversation master id (st.plain id s).2

theorem refines_store (h : device.database.HasConversation master id s)
    (hk : device.key? = some master) (own peer : KeyPair) (derived version : UInt32) :
  (store own peer derived version).Refines master id device s
  := by
  rw [Refines, action, plain]
  rcases hsecret : own.agree peer with e | secret
  · rw [ExceptT.outcome_bind_of_error (Action.outcome_ofCrypto _ _)]
    exact ⟨rfl, h⟩
  rw [ExceptT.outcome_bind_of_ok (Action.outcome_ofCrypto _ _), Except.ok_bind]
  rcases hkey : ConversationKey.derive secret.key.bytes id derived with e | key
  · rw [ExceptT.outcome_bind_of_error (Action.outcome_ofCrypto _ _)]
    exact ⟨rfl, h⟩
  rw [ExceptT.outcome_bind_of_ok (Action.outcome_ofCrypto _ _)]
  have hid := (ConversationKey.derive_eq_ok_iff.1 hkey).2.1
  have hstore := Action.outcome_storeConversationKey hk h.liveVersion?_eq key version
  rw [if_neg hid] at hstore
  rw [hstore]
  dsimp only
  by_cases hversion : version = 0
  · rw [if_pos hversion, if_pos hversion]
    exact ⟨rfl, h⟩
  rw [if_neg hversion, if_neg hversion, ← PlainConversation.version]
  by_cases hlt : version < s.version
  · rw [if_pos hlt, if_pos hlt]
    exact ⟨rfl, h⟩
  · rw [if_neg hlt, if_neg hlt]
    exact ⟨rfl, h.updateConversationKey key hversion _ _ none⟩

theorem refines_rotate (h : device.database.HasConversation master id s)
    (hk : device.key? = some master) (own peer : KeyPair) (reason : String) :
  (rotate own peer reason).Refines master id device s
  := by
  rw [Refines, action, plain]
  -- Four things can come of a rotation, in plain as in the store: no secret, no next key, a version that
  -- the log has already, or a new key.
  rcases hsecret : own.agree peer with e | secret
  · rw [ExceptT.outcome_bind_of_error (Action.outcome_ofCrypto _ _)]
    exact ⟨rfl, h⟩
  rw [ExceptT.outcome_bind_of_ok (Action.outcome_ofCrypto _ _)]
  dsimp only
  have hlive := h.liveVersion?_eq
  rcases hnext : Action.nextKey id secret.key.bytes s.version with e | ⟨new, key⟩
  · have hrotate := Action.outcome_rotateConversationKey_of_error reason hk hlive hnext
    have hatomic := Action.rotateConversationKey_isAtomic id secret.key.bytes reason device e _
      (Prod.ext hrotate rfl)
    rw [hrotate, hatomic]
    exact ⟨rfl, h⟩
  obtain ⟨hnew, hkey⟩ := Action.nextKey_eq_ok_iff.1 hnext
  dsimp only
  by_cases hlog : new ∈ s.logged
  · have hrotate := Action.outcome_rotateConversationKey_of_hasRotation reason hk hlive hnew hkey
      ((h.hasRotation_iff new).2 hlog)
    rw [if_pos hlog, hrotate]
    exact ⟨rfl, h⟩
  · have hrotate := Action.outcome_rotateConversationKey reason hk hlive hnew hkey
    rw [if_neg (mt (h.hasRotation_iff new).1 hlog)] at hrotate
    obtain ⟨hlast, rfl⟩ := Action.nextVersion_eq_ok_iff.1 hnew
    have hput := h.updateConversationKey key (UInt32.add_one_ne_zero hlast)
      (device.random.next 12) device.clock.wall (some device.clock.wall)
    rw [if_neg hlog, hrotate]
    exact ⟨rfl, hput.appendRotation (r := Action.rotationRecord device id _ _ reason) rfl⟩

/-- A step with the master key in reach does what it does in plain. -/
theorem refines (h : device.database.HasConversation master id s) (hk : device.key? = some master)
    (st : SharedStep α) :
  st.Refines master id device s
  := by
  cases st with
  | store own peer derived version => exact refines_store h hk own peer derived version
  | rotate own peer reason => exact refines_rotate h hk own peer reason
  | delete =>
    obtain ⟨k?, hk?, hcontent⟩ := h.hasKey
    rw [Refines, action, plain, Action.outcome_deleteConversationKey, hk?.isSome_eq, ← hcontent,
      Option.isSome_map]
    exact ⟨rfl, h.eraseConversationKey⟩

end SharedStep

/-! ### Runs -/

/-- What common steps of two members have made of a conversation in plain and of their databases, each
under a master key of its own and on a device of its own.  Both begin with neither a key nor rotations
of the conversation; anything that leaves these alone may happen to either database in between. -/
inductive SharedRun (mine theirs : Key) (id : String) :
    PlainConversation → Database → Database → Prop where
  | start {d d' : Database} (hrow : d.conversationKey? id = none) (hlog : d.rotationsOf id = [])
    (hrow' : d'.conversationKey? id = none) (hlog' : d'.rotationsOf id = []) :
    SharedRun mine theirs id ⟨none, []⟩ d d'
  | step {α : Type} {s : PlainConversation} (st : SharedStep α) (device peer : Device)
    (h : SharedRun mine theirs id s device.database peer.database)
    (hk : device.key? = some mine) (hk' : peer.key? = some theirs) (hst : st.Meets) :
    SharedRun mine theirs id (st.plain id s).2 ((st.action id).outcome device).2.database
      ((st.mirror.action id).outcome peer).2.database
  | elsewhere {s : PlainConversation} {d d' e e' : Database} (h : SharedRun mine theirs id s d d')
    (hrow : e.conversationKey? id = d.conversationKey? id)
    (hlog : e.rotationsOf id = d.rotationsOf id)
    (hrow' : e'.conversationKey? id = d'.conversationKey? id)
    (hlog' : e'.rotationsOf id = d'.rotationsOf id) :
    SharedRun mine theirs id s e e'

/-- Both members have the conversation that the steps make in plain. -/
theorem SharedRun.hasConversation {mine theirs : Key} {id : String} {s : PlainConversation}
    {d d' : Database} (h : SharedRun mine theirs id s d d') :
  d.HasConversation mine id s ∧ d'.HasConversation theirs id s
  := by
  induction h with
  | start hrow hlog hrow' hlog' => exact ⟨.start hrow hlog, .start hrow' hlog'⟩
  | step st device peer _ hk hk' hst ih =>
    have hpeer := (st.mirror.refines ih.2 hk').2
    rw [hst.plain_mirror] at hpeer
    exact ⟨(st.refines ih.1 hk).2, hpeer⟩
  | elsewhere _ hrow hlog hrow' hlog' ih =>
    exact ⟨ih.1.congr hrow hlog, ih.2.congr hrow' hlog'⟩

/-- Whether a device, which has a conversation in a version with a key or not at all, seals messages
that another one opens. -/
def Device.SealsFor (device peer : Device) (id : String) (current : Option (ConversationKey × UInt32)) :
    Prop :=
  match current with
  | none => ∀ plaintext, ((Operation.sealMessage id plaintext).outcome device).1 =
      .error (.noConversationKey id)
  | some _ => ∀ plaintext, ∃ sealed,
      ((Operation.sealMessage id plaintext).outcome device).1 = .ok sealed ∧
        ((Operation.openMessage id sealed).outcome peer).1 = .ok plaintext

/-- Members with the same conversation seal for each other. -/
theorem Device.sealsFor_of_hasConversation {mine theirs : Key} {id : String} {device peer : Device}
    {s : PlainConversation} (hk : device.key? = some mine) (hk' : peer.key? = some theirs)
    (h : device.database.HasConversation mine id s)
    (h' : peer.database.HasConversation theirs id s) :
  device.SealsFor peer id s.current
  := by
  have hseal := Action.outcome_sealMessage hk id
  have hopen := Action.outcome_openMessage hk' id
  rw [h.requireConversation_eq] at hseal
  rw [h'.requireConversation_eq] at hopen
  generalize s.current = current at hseal hopen ⊢
  rcases current with _ | ⟨key, version⟩
  · exact hseal
  · intro plaintext
    refine ⟨_, hseal plaintext, (hopen _).trans ?_⟩
    rw [Option.elim_some, Except.ok_bind, Sealed.plaintext_ofPlaintext]
    rfl

/-- What a device finds of a conversation in plain. -/
theorem Database.HasConversation.getConversationKey {master : Key} {id : String} {device : Device}
    {s : PlainConversation} (h : device.database.HasConversation master id s)
    (hk : device.key? = some master) :
  (Action.getConversationKey id device).1 =
    s.current.elim .notFound fun current => .found current.1
  := by
  rw [Action.getConversationKey_of_key hk, h.openConversation_eq]
  rcases s.current with _ | current
  · rfl
  · rfl

/-- Members that share a conversation have the same results in every common step, but for the time
at which each of them takes it, and fail alike: they do what the step does in plain.  They have the
same version of the conversation and find the same key, which are those that the steps before have
made in plain, and what one of them seals, the other one opens. -/
theorem members_converge {mine theirs : Key} {id : String} {s : PlainConversation}
    {device peer : Device} (h : SharedRun mine theirs id s device.database peer.database)
    (hk : device.key? = some mine) (hk' : peer.key? = some theirs) :
  (∀ (α : Type) (st : SharedStep α), st.Meets →
    ((st.action id).outcome device).1.map st.untimed = (st.plain id s).1 ∧
      ((st.mirror.action id).outcome peer).1.map st.untimed = (st.plain id s).1) ∧
  (device.database.liveVersion? id = .ok (s.current.map Prod.snd) ∧
    peer.database.liveVersion? id = .ok (s.current.map Prod.snd)) ∧
  ((Action.getConversationKey id device).1 = s.current.elim .notFound (.found ·.1) ∧
    (Action.getConversationKey id peer).1 = s.current.elim .notFound (.found ·.1)) ∧
  device.SealsFor peer id s.current ∧ peer.SealsFor device id s.current
  := by
  obtain ⟨hmine, htheirs⟩ := h.hasConversation
  refine ⟨?_, ⟨hmine.liveVersion?_eq, htheirs.liveVersion?_eq⟩, ⟨?_, ?_⟩, ?_, ?_⟩
  · intro α st hst
    have hpeer := (st.mirror.refines htheirs hk').1
    rw [hst.plain_mirror, st.untimed_mirror] at hpeer
    exact ⟨(st.refines hmine hk).1, hpeer⟩
  · exact hmine.getConversationKey hk
  · exact htheirs.getConversationKey hk'
  · exact Device.sealsFor_of_hasConversation hk hk' hmine htheirs
  · exact Device.sealsFor_of_hasConversation hk' hk htheirs hmine

/-- A key pair other than the one of zeroes. -/
def KeyPair.ones : KeyPair :=
  ⟨⟨List.replicate 32 1, List.length_replicate⟩⟩

/-- A device with another master key than the sample device, and with other settings, clocks and random
bytes. -/
def Device.peer (d : Database) : Device where
  random := .ofBlocks fun n _ => ⟨List.replicate n 1, List.length_replicate⟩
  clock := ⟨Instant.epoch.addNanos 7, 7⟩
  session := (Session.new .standard 12 60).install 7 KeyPair.ones.privateKey
  settings := ⟨⟨.argon2id 32 2 1, by decide⟩, 12, 60⟩
  database := d

/-- A rotation by the owners of the key pairs of zeroes and of ones. -/
def SharedStep.sample : SharedStep RotationRecord :=
  .rotate ⟨.zero 32⟩ .ones "manual"

theorem SharedStep.meets_sample :
  sample.Meets
  := by
  have hmeets : KeyPair.Meets ⟨.zero 32⟩ .ones := by decide +kernel
  exact hmeets

/-- The rotation leads to version 1. -/
theorem SharedStep.exists_plain_sample :
  ∃ key, sample.plain "c" ⟨none, []⟩ =
    (.ok ⟨"c", 0, 1, .epoch, "manual"⟩, ⟨some (key, 1), [1]⟩)
  := by
  have hzero : (Curve25519.multiply (.zero 32) KeyPair.ones.publicKey).isZero = false := by
    decide +kernel
  have hsecret := KeyPair.agree_eq ⟨.zero 32⟩ .ones
  dsimp only at hsecret
  rw [hzero, if_neg Bool.false_ne_true] at hsecret
  generalize Curve25519.multiply (.zero 32) KeyPair.ones.publicKey = secret at hsecret
  have hkey : ConversationKey.derive secret.bytes "c" 1 = .ok (.derived secret.bytes "c" 1) :=
    ConversationKey.derive_eq_ok_iff.2 ⟨secret.length_bytes, by decide, rfl⟩
  have hnext : Action.nextKey "c" secret.bytes (PlainConversation.version ⟨none, []⟩) =
    .ok (1, .derived secret.bytes "c" 1) := Action.nextKey_eq_ok_iff.2 ⟨rfl, hkey⟩
  use .derived secret.bytes "c" 1
  rw [sample, plain, hsecret]
  dsimp only
  rw [hnext]
  rfl

/-- The sample device and another one rotate a conversation together: they find the same key for it in
version 1, and the one opens what the other one sealed. -/
theorem members_converge_sample :
  ∃ (d d' : Database) (key : ConversationKey) (sealed : Sealed),
    ((SharedStep.sample.action "c").outcome (.sample .empty)).2.database = d ∧
    ((SharedStep.sample.mirror.action "c").outcome (.peer .empty)).2.database = d' ∧
    (d.liveVersion? "c" = .ok (some 1) ∧ d'.liveVersion? "c" = .ok (some 1)) ∧
    (Action.getConversationKey "c" (.sample d)).1 = .found key ∧
    (Action.getConversationKey "c" (.peer d')).1 = .found key ∧
    ((Operation.sealMessage "c" [1, 2]).outcome (.sample d)).1 = .ok sealed ∧
    ((Operation.openMessage "c" sealed).outcome (.peer d')).1 = .ok [1, 2]
  := by
  have hk (d : Database) : (Device.sample d).key? = some (.zero 32) := rfl
  have hk' (d : Database) : (Device.peer d).key? = some KeyPair.ones.privateKey := rfl
  have hempty : SharedRun (.zero 32) KeyPair.ones.privateKey "c" ⟨none, []⟩
      (Device.sample .empty).database (Device.peer .empty).database := .start rfl rfl rfl rfl
  have hrun := hempty.step .sample _ _ (hk .empty) (hk' .empty) SharedStep.meets_sample
  obtain ⟨key, hplain⟩ := SharedStep.exists_plain_sample
  rw [hplain] at hrun
  generalize hd : ((SharedStep.sample.action "c").outcome (.sample .empty)).2.database = d at hrun
  generalize hd' : ((SharedStep.sample.mirror.action "c").outcome (.peer .empty)).2.database = d'
    at hrun
  have hlast : SharedRun (.zero 32) KeyPair.ones.privateKey "c" ⟨some (key, 1), [1]⟩
      (Device.sample d).database (Device.peer d').database := hrun
  obtain ⟨-, hlive, ⟨hfound, hfound'⟩, hseals, -⟩ := members_converge hlast (hk d) (hk' d')
  obtain ⟨sealed, hseal, hopen⟩ := hseals [1, 2]
  exact ⟨d, d', key, sealed, rfl, rfl, hlive, hfound, hfound', hseal, hopen⟩

end Keyring

import Keyring.Proofs.Action
import Keyring.Sealed

/-!
# Encryptions on record

A script is an operation of the store whose encryptions, and whose draws of salts, are steps of their
own; every other step takes neither initialisation vectors nor salts.  A script runs as the operation
that is made of its steps, and it has a journal: the encryptions and the salts of one run, also of one
that fails further on.  Whatever the script, each of its encryptions has taken a block of 12 bytes that
nothing else takes, and each of its salts one of 16.
-/

namespace Keyring

/-! ### Blocks that are taken one after another -/

namespace RandomSource

/-- Whether `bs` are the blocks of `n` bytes that were taken from one state of the source to another. -/
def Draws (before after : RandomSource) (n : Nat) (bs : List (Block n)) : Prop :=
  after.taken n = before.taken n + bs.length ∧
    bs = (List.range' (before.taken n) bs.length).map (before.block n)

/-- Whether the source repeats no block of `n` bytes among those that it hands out from one state to
another. -/
def NeverRepeats (before after : RandomSource) (n : Nat) : Prop :=
  ∀ i j, before.taken n ≤ i → i < j → j < after.taken n → before.block n i ≠ before.block n j

variable {before between after : RandomSource} {n : Nat} {bs cs : List (Block n)}

theorem draws_nil (h : after.taken n = before.taken n) :
  before.Draws after n []
  := ⟨h, rfl⟩

theorem draws_next (h : after.taken n = before.taken n + 1) :
  before.Draws after n [before.next n]
  := ⟨h, rfl⟩

theorem Draws.append (h : before.Draws between n bs) (hblock : between.block = before.block)
    (h' : between.Draws after n cs) :
  before.Draws after n (bs ++ cs)
  := by
  obtain ⟨htaken, hbs⟩ := h
  obtain ⟨htaken', hcs⟩ := h'
  rw [htaken, hblock] at hcs
  constructor
  · rw [htaken', htaken, List.length_append]
    omega
  · rw [List.length_append, ← List.range'_append_1, List.map_append, ← hbs, ← hcs]

/-- Blocks that the source does not repeat are different. -/
theorem Draws.nodup (h : before.Draws after n bs) (hr : before.NeverRepeats after n) :
  bs.Nodup
  := by
  rw [h.2, List.nodup_iff_pairwise_ne, List.pairwise_map]
  refine List.Pairwise.imp_of_mem ?_ (List.pairwise_lt_range' (s := before.taken n))
  intro i j hi hj hlt
  have hi' := List.mem_range'_1.1 hi
  have hj' := List.mem_range'_1.1 hj
  exact hr i j hi'.1 hlt (by rw [h.1]; exact hj'.2)

end RandomSource

/-! ### Journals -/

/-- An encryption: what goes into it, and what comes out. -/
structure Encryption where
  key : Key
  plaintext : Bytes
  associated : Bytes
  sealed : Sealed

/-- The encryption of a plaintext with an initialisation vector. -/
def Encryption.ofPlaintext (key : Key) (iv : Gcm.Iv) (associated plaintext : Bytes) : Encryption :=
  ⟨key, plaintext, associated, .ofPlaintext key iv associated plaintext⟩

/-- What a journal takes down. -/
inductive Event where
  | encryption (e : Encryption)
  | salt (salt : Salt)

namespace Event

def iv? : Event → Option Gcm.Iv
  | encryption e => some e.sealed.iv
  | salt _ => none

def salt? : Event → Option Salt
  | encryption _ => none
  | salt s => some s

end Event

/-- Whether a journal accounts for all initialisation vectors and salts that were taken from one state
of the random source to another, each of them once and in this order. -/
structure Accounts (before after : RandomSource) (journal : List Event) : Prop where
  block_eq : after.block = before.block
  ivs : before.Draws after 12 (journal.filterMap Event.iv?)
  salts : before.Draws after 16 (journal.filterMap Event.salt?)
  sealed : ∀ e, .encryption e ∈ journal →
    e.sealed = .ofPlaintext e.key e.sealed.iv e.associated e.plaintext

theorem Accounts.nil {before after : RandomSource} (hblock : after.block = before.block)
    (hiv : after.taken 12 = before.taken 12) (hsalt : after.taken 16 = before.taken 16) :
  Accounts before after []
  := by
  constructor
  · exact hblock
  · exact RandomSource.draws_nil hiv
  · exact RandomSource.draws_nil hsalt
  · intro e he
    cases he

theorem Accounts.append {before between after : RandomSource} {journal journal' : List Event}
    (h : Accounts before between journal) (h' : Accounts between after journal') :
  Accounts before after (journal ++ journal')
  := by
  constructor
  · rw [h'.block_eq, h.block_eq]
  · rw [List.filterMap_append]
    exact h.ivs.append h.block_eq h'.ivs
  · rw [List.filterMap_append]
    exact h.salts.append h.block_eq h'.salts
  · intro e he
    rcases List.mem_append.1 he with he | he
    · exact h.sealed e he
    · exact h'.sealed e he

/-! ### Scripts -/

/-- What initialisation vectors and salts are taken from. -/
def Device.ledger (device : Device) : ((n k : Nat) → Block n) × Nat × Nat :=
  (device.random.block, device.random.taken 12, device.random.taken 16)

/-- An operation of the store whose encryptions and salts are steps of their own. -/
inductive Script : Type → Type 1 where
  /-- A step that takes neither initialisation vectors nor salts. -/
  | act {α : Type} (x : Action α) (h : x.Keeps Device.ledger) : Script α
  | encrypt (key : Key) (plaintext associated : Bytes) : Script Sealed
  | salt : Script Salt
  | bind {α β : Type} (s : Script α) (f : α → Script β) : Script β
  | transaction {α : Type} (s : Script α) : Script α

namespace Script

open ExceptT

variable {α β : Type}

instance : Monad Script where
  pure a := act (pure a) (keeps_pure a)
  bind := bind

/-- The operation that is made of the steps. -/
def action {α : Type} : Script α → Action α
  | act x _ => x
  | encrypt key plaintext associated => Action.draw (Sealed.encrypt key plaintext associated)
  | salt => Action.draw (Draw.block 16)
  | bind s f => s.action >>= fun a => (f a).action
  | transaction s => Action.transaction s.action

/-- The result of a script on a device, and the device after it. -/
def outcome (s : Script α) (device : Device) : Except StoreError α × Device :=
  s.action.outcome device

/-- What a script encrypts on a device, and the salts that it draws there. -/
def journal {α : Type} : Script α → Device → List Event
  | act _ _, _ => []
  | encrypt key plaintext associated, device =>
    [.encryption
      ⟨key, plaintext, associated, (Sealed.encrypt key plaintext associated device.random).1⟩]
  | salt, device => [.salt (Draw.block 16 device.random).1]
  | bind s f, device =>
    s.journal device ++
      match s.outcome device with
      | (.ok a, after) => (f a).journal after
      | (.error _, _) => []
  | transaction s, device => s.journal device

theorem journal_bind_of_ok {s : Script α} {device between : Device} {a : α}
    (h : s.outcome device = (.ok a, between)) (f : α → Script β) :
  (bind s f).journal device = s.journal device ++ (f a).journal between
  := by
  rw [journal, h]

theorem journal_bind_of_error {s : Script α} {device between : Device} {e : StoreError}
    (h : s.outcome device = (.error e, between)) (f : α → Script β) :
  (bind s f).journal device = s.journal device
  := by
  rw [journal, h, List.append_nil]

/-- What was taken down stays there. -/
theorem mem_journal_bind {s : Script α} {device : Device} {event : Event}
    (h : event ∈ s.journal device) (f : α → Script β) :
  event ∈ (bind s f).journal device
  := by
  rw [journal]
  exact List.mem_append_left _ h

/-- The journal of a script accounts for what the script takes, also when it fails. -/
theorem accounts (s : Script α) (device : Device) :
  Accounts device.random (s.outcome device).2.random (s.journal device)
  := by
  induction s generalizing device with
  | act x h =>
    obtain ⟨hblock, htaken⟩ := Prod.mk.inj (h device)
    obtain ⟨hiv, hsalt⟩ := Prod.mk.inj htaken
    exact .nil hblock hiv hsalt
  | encrypt key plaintext associated =>
    refine ⟨rfl, RandomSource.draws_next rfl, RandomSource.draws_nil rfl, ?_⟩
    intro e he
    cases List.mem_singleton.1 he
    rfl
  | salt =>
    refine ⟨rfl, RandomSource.draws_nil rfl, RandomSource.draws_next rfl, ?_⟩
    intro e he
    cases List.mem_singleton.1 he
  | bind s f ihs ihf =>
    have hs := ihs device
    rcases hresult : s.outcome device with ⟨e | a, between⟩
    · rw [hresult] at hs
      have houtcome : (bind s f).outcome device = (.error e, between) :=
        outcome_bind_of_error hresult fun a => (f a).action
      rw [journal_bind_of_error hresult, houtcome]
      exact hs
    · rw [hresult] at hs
      have houtcome : (bind s f).outcome device = (f a).outcome between :=
        outcome_bind_of_ok hresult fun a => (f a).action
      rw [journal_bind_of_ok hresult, houtcome]
      exact hs.append (ihf a between)
  | transaction s ih =>
    -- A transaction that fails takes back what it wrote, but not what it took.
    have hrandom : ((transaction s).outcome device).2.random = (s.outcome device).2.random := by
      rw [outcome, action, Action.outcome_transaction]
      dsimp only
      split
      · rfl
      · rfl
    rw [hrandom]
    exact ih device

end Script

end Keyring

import Keyring.Proofs.Sample
import Keyring.Proofs.Store.KeyPairs
import Keyring.Proofs.Store.KeyReach
import Keyring.Proofs.Store.PlainKeys
import Keyring.Proofs.Store.Table

/-!
# Independent operations

An operation that names a key pair or a conversation is about nothing else: it leaves the rows of all
others, and the order in which these are listed.  Nor does it see anything of them.  So two operations
that name different things may be done in either order: they give the same results and leave the same.
-/

namespace Keyring

/-! ### Listings -/

namespace Table

variable {ρ : Type} {id column : ρ → String} {rows : List ρ}

/-- Rows that are left out do not change the order of the others. -/
theorem map_byColumn_erase (column id : ρ → String) (key : String) (rows : List ρ) :
  (byColumn column id (erase id key rows)).map id =
    ((byColumn column id rows).map id).filter fun i => i != key
  := by
  have hperm : ((byColumn column id (erase id key rows)).map (place column id)).Perm
      ((erase id key (byColumn column id rows)).map (place column id)) := by
    apply List.Perm.map
    exact (byColumn_perm column id _).trans ((byColumn_perm column id rows).symm.filter _)
  have hsorted : ((erase id key (byColumn column id rows)).map (place column id)).Pairwise (· ≤ ·) :=
    (pairwise_byColumn column id rows).sublist (List.filter_sublist.map _)
  have hplaces := hperm.eq_of_pairwise (fun _ _ _ _ => le_antisymm)
    (pairwise_byColumn column id _) hsorted
  have hids := congrArg (List.map fun p => (ofLex p).2) hplaces
  rw [List.map_map, List.map_map] at hids
  rw [List.filter_map]
  exact hids

/-- Nothing more is left out a second time. -/
theorem erase_erase (key : String) (rows : List ρ) :
  erase id key (erase id key rows) = erase id key rows
  := by
  rw [erase, erase, List.filter_filter]
  simp only [Bool.and_self]

end Table

/-! ### What operations are about -/

/-- What an operation can be about. -/
inductive Subject where
  /-- The key pair with an id. -/
  | keyPair (id : String)
  /-- The conversation with an id, that is its key and its rotations. -/
  | conversation (id : String)
deriving DecidableEq

/-- The key pair or the conversation that an operation names, if it names one.  (To look a key up is to
load it and to say how that ends.) -/
def Operation.subject? {α : Type} : Operation α → Option Subject
  | storeKeyPair id _ _ | storedKeyPair id | loadKeyPair id _ | deleteKeyPair id
  | exportPublicKey id => some (.keyPair id)
  | storeConversationKey id _ _ | storedConversationKey id | conversationKeyInfo id
  | loadConversationKey id | deleteConversationKey id | rotateConversationKey id _ _
  | rotationHistory id | sealMessage id _ | openMessage id _ => some (.conversation id)
  | _ => none

namespace Database

variable {d d' d'' : Database} {x y : Subject}

/-- The database without the rows of a subject. -/
def without (d : Database) : Subject → Database
  | .keyPair id => d.eraseKeyPair id
  | .conversation id =>
    { d.eraseConversationKey id with rotations := d.rotations.filter fun r => r.conversationId != id }

/-- The ids of all other key pairs stand in the same order. -/
theorem keyPairIds_without (d : Database) (x : Subject) :
  (d.without x).keyPairIds = d.keyPairIds.filter fun id => Subject.keyPair id != x
  := by
  cases x with
  | keyPair id =>
    refine (Table.map_byColumn_erase _ _ id d.keyPairs).trans ?_
    apply List.filter_congr
    intro i _
    simp [bne]
  | conversation id =>
    symm
    apply List.filter_eq_self.2
    simp

/-- The ids of all other conversations stand in the same order. -/
theorem conversationIds_without (d : Database) (x : Subject) :
  (d.without x).conversationIds = d.conversationIds.filter fun id => Subject.conversation id != x
  := by
  cases x with
  | keyPair id =>
    symm
    apply List.filter_eq_self.2
    simp
  | conversation id =>
    refine (Table.map_byColumn_erase _ _ id d.conversationKeys).trans ?_
    apply List.filter_congr
    intro i _
    simp [bne]

section

variable {id : String}

theorem without_putKeyPair {row : KeyPairRow} (hrow : row.id = id) (d : Database) :
  (d.putKeyPair row).without (.keyPair id) = d.without (.keyPair id)
  := by
  subst hrow
  rw [without, without, eraseKeyPair, putKeyPair, Table.erase_put]
  rfl

theorem without_eraseKeyPair (id : String) (d : Database) :
  (d.eraseKeyPair id).without (.keyPair id) = d.without (.keyPair id)
  := by
  rw [without, without, eraseKeyPair, eraseKeyPair, Table.erase_erase]

theorem without_putConversationKey {row : ConversationKeyRow} (hrow : row.conversationId = id)
    (d : Database) :
  (d.putConversationKey row).without (.conversation id) = d.without (.conversation id)
  := by
  subst hrow
  rw [without, without, eraseConversationKey, putConversationKey, Table.erase_put]
  rfl

theorem without_eraseConversationKey (id : String) (d : Database) :
  (d.eraseConversationKey id).without (.conversation id) = d.without (.conversation id)
  := by
  rw [without, without, eraseConversationKey, eraseConversationKey, Table.erase_erase]

theorem without_appendRotation {row : RotationRow} (hrow : row.conversationId = id) (d : Database) :
  { d with rotations := d.rotations ++ [row] }.without (.conversation id) =
    d.without (.conversation id)
  := by
  simp [without, eraseConversationKey, hrow]

end

/-- Whether two databases have the same row under an id, and for a conversation the same
rotations. -/
def SameOn (x : Subject) (d d' : Database) : Prop :=
  match x with
  | .keyPair id => d'.keyPair? id = d.keyPair? id
  | .conversation id =>
    d'.conversationKey? id = d.conversationKey? id ∧ d'.rotationsOf id = d.rotationsOf id

/-- Whether two databases differ in nothing but the rows of a subject: all other rows are the same and in
the same order, and so are the ids of all others where they are listed. -/
structure SameBeside (x : Subject) (d d' : Database) : Prop where
  without_eq : d'.without x = d.without x
  keyPairIds_eq : (d'.keyPairIds.filter fun id => Subject.keyPair id != x) =
    d.keyPairIds.filter fun id => Subject.keyPair id != x
  conversationIds_eq : (d'.conversationIds.filter fun id => Subject.conversation id != x) =
    d.conversationIds.filter fun id => Subject.conversation id != x

theorem SameBeside.metadata_eq (h : SameBeside x d d') :
  d'.metadata = d.metadata
  := by
  have hmetadata := congrArg Database.metadata h.without_eq
  cases x with
  | keyPair id => exact hmetadata
  | conversation id => exact hmetadata

/-- Whether two databases have the same metadata, and the same rows and rotations under all ids. -/
structure SameRows (d d' : Database) : Prop where
  metadata_eq : d'.metadata = d.metadata
  sameOn (x : Subject) : SameOn x d d'

theorem SameOn.refl (x : Subject) (d : Database) :
  SameOn x d d
  := by
  cases x with
  | keyPair id => rfl
  | conversation id => exact ⟨rfl, rfl⟩

theorem SameOn.symm (h : SameOn x d d') :
  SameOn x d' d
  := by
  cases x with
  | keyPair id => exact Eq.symm h
  | conversation id => exact ⟨h.1.symm, h.2.symm⟩

theorem SameOn.trans (h : SameOn x d d') (h' : SameOn x d' d'') :
  SameOn x d d''
  := by
  cases x with
  | keyPair id => exact Eq.trans h' h
  | conversation id => exact ⟨h'.1.trans h.1, h'.2.trans h.2⟩

/-- What is left out is not missed elsewhere. -/
theorem sameOn_without (hyx : y ≠ x) (d : Database) :
  SameOn y d (d.without x)
  := by
  cases x with
  | keyPair id =>
    cases y with
    | keyPair other =>
      have hne : other ≠ id := fun h => hyx (congrArg Subject.keyPair h)
      exact (Table.find?_erase ..).trans (if_neg hne)
    | conversation other => exact ⟨rfl, rfl⟩
  | conversation id =>
    cases y with
    | keyPair other => rfl
    | conversation other =>
      have hne : other ≠ id := fun h => hyx (congrArg Subject.conversation h)
      refine ⟨(Table.find?_erase ..).trans (if_neg hne), ?_⟩
      refine List.filter_filter.trans (List.filter_congr ?_)
      intro r _
      by_cases hr : r.conversationId = other
      · simp [hr, hne]
      · simp [hr]

/-- Databases that differ in nothing but a subject are the same on all others. -/
theorem SameBeside.sameOn (h : SameBeside x d d') (hyx : y ≠ x) :
  SameOn y d d'
  := by
  have hd := sameOn_without hyx d
  rw [← h.without_eq] at hd
  exact hd.trans (sameOn_without hyx d').symm

end Database

namespace Operation

variable {α β : Type} {op : Operation α} {x : Subject}

/-- An operation leaves all but what it is about. -/
theorem Effect.without_eq {device : Device} {d : Database} (h : Effect op device d)
    (hx : op.subject? = some x) :
  d.without x = device.database.without x
  := by
  cases h with
  | nothing => rfl
  | storeKeyPair =>
    cases hx
    exact Database.without_putKeyPair rfl _
  | deleteKeyPair =>
    cases hx
    apply Database.without_eraseKeyPair
  | storeConversationKey =>
    cases hx
    exact Database.without_putConversationKey rfl _
  | deleteConversationKey =>
    cases hx
    apply Database.without_eraseConversationKey
  | rotateConversationKey =>
    cases hx
    refine (Database.without_appendRotation rfl _).trans ?_
    exact Database.without_putConversationKey rfl _
  | unlock => cases hx
  | restoreBackup => cases hx
  | clearAll => cases hx

/-- The ids of all others are listed as before. -/
theorem sameBeside (hx : op.subject? = some x) (device : Device) :
  Database.SameBeside x device.database (op.outcome device).2.database
  := by
  have h := (op.effect device).without_eq hx
  refine ⟨h, ?_, ?_⟩
  · rw [← Database.keyPairIds_without, ← Database.keyPairIds_without, h]
  · rw [← Database.conversationIds_without, ← Database.conversationIds_without, h]

end Operation

/-! ### What operations see -/

/-- Databases with the same key and the same rotations of a conversation stay so where the same is
written for it. -/
theorem Database.isLikeness_sameOn (id : String) :
  IsLikeness (SameOn (.conversation id)) id
  := by
  constructor
  · exact And.left
  · exact And.right
  · rintro d d' ⟨hrow, hlog⟩ row hid
    refine ⟨?_, hlog⟩
    rw [conversationKey?_updateConversationKey hid, conversationKey?_updateConversationKey hid, hrow]
  · rintro d d' ⟨-, hlog⟩
    refine ⟨?_, hlog⟩
    rw [conversationKey?_eraseConversationKey, conversationKey?_eraseConversationKey, if_pos rfl,
      if_pos rfl]
  · rintro d d' ⟨hrow, hlog⟩ row -
    refine ⟨hrow, ?_⟩
    rw [rotationsOf, rotationsOf, List.filter_append, List.filter_append]
    exact congrArg (· ++ _) hlog

namespace Action

open ExceptT

variable {start : Device} (id : String)

theorem respects_storeKeyPair (pair : KeyPair) (password : String) :
  (storeKeyPair id pair password).Respects (Device.Alike (Database.SameOn (.keyPair id)) start)
  := by
  simp only [storeKeyPair, throw_bind]
  apply Respects.guard
  apply Respects.bind
  · exact respects_settings.bind fun _ => respects_ofCrypto _
  intro _
  apply (respects_draw _).bind
  intro salt
  apply (respects_draw _).bind
  intro iv
  apply respects_settings.bind
  intro settings
  apply respects_now.bind
  intro wall
  apply respects_write
  intro d d' _
  rw [Database.SameOn, Database.keyPair?_putKeyPair, Database.keyPair?_putKeyPair, if_pos, if_pos]
  · rfl
  · rfl

theorem respects_storedKeyPair :
  (storedKeyPair id).Respects (Device.Alike (Database.SameOn (.keyPair id)) start)
  := by
  intro d d' h
  rw [outcome_storedKeyPair, outcome_storedKeyPair, h.database]
  exact ⟨rfl, h⟩

theorem respects_loadKeyPair (password : String) :
  (loadKeyPair id password).Respects (Device.Alike (Database.SameOn (.keyPair id)) start)
  := by
  intro d d' h
  rw [outcome_loadKeyPair, outcome_loadKeyPair, Database.openKeyPair, Database.openKeyPair, h.database,
    h.settings_eq]
  exact ⟨rfl, h⟩

theorem respects_exportPublicKey :
  (exportPublicKey id).Respects (Device.Alike (Database.SameOn (.keyPair id)) start)
  := by
  intro d d' h
  rw [outcome_exportPublicKey, outcome_exportPublicKey, h.database]
  exact ⟨rfl, h⟩

theorem respects_deleteKeyPair :
  (deleteKeyPair id).Respects (Device.Alike (Database.SameOn (.keyPair id)) start)
  := by
  intro d d' h
  rw [outcome_deleteKeyPair, outcome_deleteKeyPair, h.database]
  refine ⟨rfl, { h with database := ?_ }⟩
  exact (Table.find?_erase ..).trans ((if_pos rfl).trans
    ((Table.find?_erase ..).trans (if_pos rfl)).symm)

end Action

/-- Whether two devices differ in nothing but their databases and their sessions, in which the same key
is in reach. -/
structure Device.SharesMoment (d d' : Device) : Prop where
  random_eq : d'.random = d.random
  clock_eq : d'.clock = d.clock
  settings_eq : d'.settings = d.settings
  key?_eq : d'.key? = d.key?

namespace Operation

variable {α β : Type} {a : Operation α} {b : Operation β} {x y : Subject}

/-- An operation does the same where what it is about is the same. -/
theorem respects_of_subject (hx : a.subject? = some x) (start : Device) :
  a.action.Respects (Device.Alike (Database.SameOn x) start)
  := by
  have hA := Database.isLikeness_sameOn
  cases a with
  | storeKeyPair id pair password =>
    cases hx
    exact Action.respects_storeKeyPair id pair password
  | storedKeyPair id =>
    cases hx
    exact Action.respects_storedKeyPair id
  | loadKeyPair id password =>
    cases hx
    exact Action.respects_loadKeyPair id password
  | deleteKeyPair id =>
    cases hx
    exact Action.respects_deleteKeyPair id
  | exportPublicKey id =>
    cases hx
    exact Action.respects_exportPublicKey id
  | storeConversationKey id key version =>
    cases hx
    exact Action.respects_storeConversationKey (hA id) key version
  | storedConversationKey id =>
    cases hx
    exact Action.respects_storedConversationKey (hA id)
  | conversationKeyInfo id =>
    cases hx
    exact Action.respects_conversationKeyInfo (hA id)
  | loadConversationKey id =>
    cases hx
    exact Action.respects_loadConversationKey (hA id)
  | deleteConversationKey id =>
    cases hx
    exact Action.respects_deleteConversationKey (hA id)
  | rotateConversationKey id secret reason =>
    cases hx
    exact Action.respects_rotateConversationKey (hA id) secret reason
  | rotationHistory id =>
    cases hx
    exact Action.respects_rotationHistory (hA id)
  | sealMessage id plaintext =>
    cases hx
    exact Action.respects_sealMessage (hA id) plaintext
  | openMessage id sealed =>
    cases hx
    exact Action.respects_openMessage (hA id) sealed
  | _ => cases hx

theorem result_eq_of_sameOn (hx : a.subject? = some x) {d d' : Device} (h : d.SharesMoment d')
    (hsame : Database.SameOn x d.database d'.database) :
  (a.outcome d).1 = (a.outcome d').1 ∧
    Database.SameOn x (a.outcome d).2.database (a.outcome d').2.database
  := by
  obtain ⟨hresult, hafter⟩ := respects_of_subject hx d d d'
    ⟨h.random_eq, h.clock_eq, h.settings_eq, h.key?_eq, hsame, rfl, rfl, .kept⟩
  exact ⟨hresult, hafter.database⟩

/-- What an operation leaves of a device. -/
theorem leaves_of_subject (hx : a.subject? = some x) (d : Device) :
  (a.outcome d).2.clock = d.clock ∧ (a.outcome d).2.settings = d.settings ∧
    (a.outcome d).2.key? = d.key?
  := by
  have hself : Device.Alike (Database.SameOn x) d d d :=
    ⟨rfl, rfl, rfl, rfl, .refl x d.database, rfl, rfl, .kept⟩
  have hafter := (respects_of_subject hx d d d hself).2
  exact ⟨hafter.clock_eq_start, hafter.settings_eq_start, hafter.key?_eq_start⟩

/-- Of two operations that are about different things, the later one does what it does if it comes
first, and both orders leave the same. -/
theorem outcomes_eq_in_either_order (ha : a.subject? = some x) (hb : b.subject? = some y) (hxy : x ≠ y)
    {p p' q q' : Device} (hp : p.SharesMoment p') (hq : q.SharesMoment q')
    (hstart : q.database = p.database) (hq' : q'.database = (a.outcome p).2.database)
    (hp' : p'.database = (b.outcome q).2.database) :
  (a.outcome p').1 = (a.outcome p).1 ∧ (b.outcome q').1 = (b.outcome q).1 ∧
    (b.outcome q').2.database.SameRows (a.outcome p').2.database
  := by
  have hafter : Database.SameOn y q.database q'.database := by
    rw [hq', hstart]
    exact (sameBeside ha p).sameOn hxy.symm
  have hafter' : Database.SameOn x p.database p'.database := by
    rw [hp', ← hstart]
    exact (sameBeside hb q).sameOn hxy
  obtain ⟨hresult, hlast⟩ := result_eq_of_sameOn hb hq hafter
  obtain ⟨hresult', hlast'⟩ := result_eq_of_sameOn ha hp hafter'
  have hbeside := sameBeside hb q'
  have hbeside' := sameBeside ha p'
  rw [hq'] at hbeside
  rw [hp'] at hbeside'
  refine ⟨hresult'.symm, hresult.symm, ?_, ?_⟩
  · rw [hbeside.metadata_eq, hbeside'.metadata_eq, (sameBeside ha p).metadata_eq,
      (sameBeside hb q).metadata_eq, hstart]
  -- The later of two operations leaves what the earlier one is about, in either order.
  · intro z
    by_cases hx : z = x
    · subst hx
      exact (hbeside.sameOn hxy).symm.trans hlast'
    · by_cases hy : z = y
      · subst hy
        exact hlast.symm.trans (hbeside'.sameOn hx)
      · have hmiddle := ((sameBeside ha p).sameOn hx).symm
        rw [← hstart] at hmiddle
        exact (hbeside.sameOn hy).symm.trans
          ((hmiddle.trans ((sameBeside hb q).sameOn hy)).trans (hbeside'.sameOn hx))

end Operation

/-- The device with random bytes and a time of day of its own. -/
def Device.given (device : Device) (random : RandomSource) (wall : Instant) : Device :=
  { device with random := random, clock := { device.clock with wall := wall } }

/-- After an operation of the same moment, an operation finds its own moment as before. -/
theorem Device.sharesMoment_given {α : Type} {a : Operation α} {x : Subject} (ha : a.subject? = some x)
    (device : Device) (random random' : RandomSource) (wall wall' : Instant) :
  (device.given random wall).SharesMoment
    ((a.outcome (device.given random' wall')).2.given random wall)
  := by
  obtain ⟨hclock, hsettings, hkey⟩ := Operation.leaves_of_subject ha (device.given random' wall')
  refine ⟨rfl, ?_, hsettings, hkey⟩
  rw [given, hclock]
  rfl

/-- An operation that names a key pair or a conversation leaves the rows of everything else as they
are, the metadata, and the order in which all others are listed.  Let two operations name different
ones, and run each of them either first or after the other one, with the same random bytes, the same
clocks, the same settings and the same key in reach both times: then it ends in the same way both times,
and in the end the same rows and rotations are found under every id.  So it is where both run in one
session at one moment, each with random bytes and a time of day of its own. -/
theorem operations_are_independent {α β : Type} {a : Operation α} {b : Operation β} {x y : Subject}
    (ha : a.subject? = some x) (hb : b.subject? = some y) (hxy : x ≠ y) :
  (∀ device, Database.SameBeside x device.database (a.outcome device).2.database) ∧
  (∀ p p' q q' : Device, p.SharesMoment p' → q.SharesMoment q' → q.database = p.database →
    q'.database = (a.outcome p).2.database → p'.database = (b.outcome q).2.database →
    (a.outcome p').1 = (a.outcome p).1 ∧ (b.outcome q').1 = (b.outcome q).1 ∧
      (b.outcome q').2.database.SameRows (a.outcome p').2.database) ∧
  ∀ (device : Device) (random random' : RandomSource) (wall wall' : Instant),
    let first := a.outcome (device.given random wall)
    let second := b.outcome (first.2.given random' wall')
    let first' := b.outcome (device.given random' wall')
    let second' := a.outcome (first'.2.given random wall)
    second'.1 = first.1 ∧ second.1 = first'.1 ∧ second.2.database.SameRows second'.2.database
  := by
  refine ⟨a.sameBeside ha, ?_, ?_⟩
  · intro p p' q q' hp hq hstart hq' hp'
    exact Operation.outcomes_eq_in_either_order ha hb hxy hp hq hstart hq' hp'
  · intro device random random' wall wall'
    exact Operation.outcomes_eq_in_either_order ha hb hxy (device.sharesMoment_given hb ..)
      (device.sharesMoment_given ha ..) rfl rfl rfl

/-- On the sample device, the conversation `cc` is rotated, and a key pair is stored under the same
id. -/
theorem operations_are_independent_sample :
  let rotation := Operation.rotateConversationKey "cc" (List.replicate 32 0) "manual"
  let storing := Operation.storeKeyPair "cc" ⟨.zero 32⟩ "password"
  let rotated := (rotation.outcome (.sample .empty)).2
  let stored := (storing.outcome (.sample .empty)).2
  rotation.subject? = some (.conversation "cc") ∧ storing.subject? = some (.keyPair "cc") ∧
    (storing.outcome (.sample rotated.database)).2.database.SameRows
      (rotation.outcome (.sample stored.database)).2.database
  := by
  intro rotation storing rotated stored
  have hrotation : rotation.subject? = some (.conversation "cc") := rfl
  have hstoring : storing.subject? = some (.keyPair "cc") := rfl
  have hne : Subject.conversation "cc" ≠ .keyPair "cc" := by simp
  obtain ⟨-, hcommute, -⟩ := operations_are_independent hrotation hstoring hne
  have hmoment (d d' : Database) : (Device.sample d).SharesMoment (.sample d') :=
    ⟨rfl, rfl, rfl, rfl⟩
  exact ⟨hrotation, hstoring, (hcommute (.sample .empty) (.sample stored.database) (.sample .empty)
    (.sample rotated.database) (hmoment _ _) (hmoment _ _) rfl rfl rfl).2.2⟩

end Keyring

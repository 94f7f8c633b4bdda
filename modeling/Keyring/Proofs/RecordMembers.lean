import Keyring.Proofs.Json.Members
import Keyring.Proofs.Record
import Keyring.Record.Config

/-!
# Records depend on their members only

However the text of a record is laid out, and in whatever order its members stand, the same is read
from it.  Members that the record does not know make no difference, except for cost parameters,
which are read as a whole first.
-/

namespace Keyring

open Json (IsObjectText Members named object ofMembers tokens view)

/-! ### What records have in common -/

/-- The records that are written as objects. -/
inductive RecordType where
  | encryptedBackup
  | backupPayload
  | storedKeyPair
  | storedConversationKey
  | rotationRecord
  | kdfParams
  | storeConfig
deriving DecidableEq

/-- The names of the cost parameters of an algorithm. -/
def KdfAlgorithm.memberNames : KdfAlgorithm → List String
  | argon2id => ["memoryKib", "iterations", "parallelism"]
  | pbkdf2 => ["rounds"]

namespace RecordType

/-- What a record says. -/
def Value : RecordType → Type
  | encryptedBackup => EncryptedBackup
  | backupPayload => BackupPayload
  | storedKeyPair => StoredKeyPair
  | storedConversationKey => StoredConversationKey
  | rotationRecord => RotationRecord
  | kdfParams => KdfParams
  | storeConfig => StoreConfig

/-- What a text records. -/
def ofText? : (t : RecordType) → String → Option t.Value
  | encryptedBackup, s => (EncryptedBackup.ofText s).toOption
  | backupPayload, s => BackupPayload.ofText? s
  | storedKeyPair, s => StoredKeyPair.ofText? s
  | storedConversationKey, s => StoredConversationKey.ofText? s
  | rotationRecord, s => RotationRecord.ofText? s
  | kdfParams, s => KdfParams.ofText? s
  | storeConfig, s => StoreConfig.ofText? s

/-- What a value records. -/
def ofJson? : (t : RecordType) → Json → Option t.Value
  | encryptedBackup, j => EncryptedBackup.ofJson? j
  | backupPayload, j => BackupPayload.ofJson? j
  | storedKeyPair, j => StoredKeyPair.ofJson? 0 j
  | storedConversationKey, j => StoredConversationKey.ofJson? j
  | rotationRecord, j => RotationRecord.ofJson? j
  | kdfParams, j => KdfParams.ofJson? 0 j
  | storeConfig, j => StoreConfig.ofJson? j

/-- The names of the members that a record may have. -/
def names : RecordType → List String
  | encryptedBackup => ["version", "encryptedData", "iv", "salt", "createdAt", "kdf", "kdfParams"]
  | backupPayload =>
    ["formatVersion", "createdAt", "keyPairs", "conversationKeys", "rotationHistory"]
  | storedKeyPair => ["id", "publicKey", "encryptedPrivateKey", "kdf", "kdfParams", "createdAt"]
  | storedConversationKey =>
    ["conversationId", "encryptedKey", "iv", "tag", "version", "createdAt", "rotatedAt"]
  | rotationRecord => ["conversationId", "oldVersion", "newVersion", "rotatedAt", "reason"]
  | kdfParams =>
    "algorithm" :: (KdfAlgorithm.argon2id.memberNames ++ KdfAlgorithm.pbkdf2.memberNames)
  | storeConfig => ["kdf", "min_password_len", "auto_lock_secs"]

/-- The members that may be left out, with what they are read as then. -/
def defaults : RecordType → List (String × Json)
  | encryptedBackup | storedKeyPair => [("kdf", .string "argon2id"), ("kdfParams", .null)]
  | backupPayload => [("rotationHistory", .array [])]
  | storedConversationKey => [("rotatedAt", .null)]
  | storeConfig =>
    [("kdf", KdfConfig.standard.toJson), ("min_password_len", .nat 8), ("auto_lock_secs", .nat 0)]
  | rotationRecord | kdfParams => []

theorem ofText?_eq (t : RecordType) (s : String) :
  t.ofText? s = Json.ofText? s >>= t.ofJson?
  := by
  cases t with
  | encryptedBackup =>
    change (EncryptedBackup.ofText s).toOption = Json.ofText? s >>= EncryptedBackup.ofJson?
    rw [EncryptedBackup.ofText]
    rcases Json.ofText? s >>= EncryptedBackup.ofJson? with _ | b
    · rfl
    · rfl
  | _ => rfl

/-- A record looks at the members that it knows, and at their values only. -/
theorem ofJson?_congr {t : RecordType} (ht : t ≠ kdfParams) {j j' : Json}
    (h : view t.names j = view t.names j') :
  t.ofJson? j = t.ofJson? j'
  := by
  have hget {m m' : Members} (hview : m.view = m'.view) : m.get? = m'.get? :=
    congrArg Prod.fst hview
  have hpositional {m m' : Members} (hview : m.view = m'.view) :
    m.isPositional = m'.isPositional := congrArg Prod.snd hview
  cases t with
  | kdfParams => exact absurd rfl ht
  | encryptedBackup | backupPayload | storedKeyPair | storedConversationKey | rotationRecord
    | storeConfig =>
    refine Json.members?_bind_congr (fun m m' hview => ?_) h
    simp only [Members.required, Members.nullableMember, Members.optional, Members.defaulted,
      hget hview, hpositional hview]

/-- A member that is left out is read as its default. -/
theorem ofJson?_default {t : RecordType} {name : String} {j : Json} {l : List (String × Json)}
    (hdefault : (name, j) ∈ t.defaults) (hnew : name ∉ l.map Prod.fst) :
  t.ofJson? (.object ((name, j) :: l)) = t.ofJson? (.object l)
  := by
  have hkdf : KdfAlgorithm.ofJson? (.string "argon2id") = some .standard :=
    KdfAlgorithm.ofJson?_toJson .standard
  have hlength : Json.uint64? (.nat 8) = some StoreConfig.standard.minPasswordLength := rfl
  have hseconds : Json.uint64? (.nat 0) = some StoreConfig.standard.autoLockSeconds := rfl
  cases t with
  | encryptedBackup | storedKeyPair =>
    simp only [defaults, List.mem_cons, List.not_mem_nil, or_false, Prod.mk.injEq] at hdefault
    rcases hdefault with ⟨rfl, rfl⟩ | ⟨rfl, rfl⟩
    · refine Json.members?_bind_default (by decide) hnew fun m _ hget => ?_
      simp [Members.required, Members.defaulted, Members.optional, Members.get?_add, hget, hkdf]
    · refine Json.members?_bind_default (by decide) hnew fun m _ hget => ?_
      simp [Members.required, Members.defaulted, Members.optional, Members.get?_add, hget,
        Json.nullable?]
  | backupPayload =>
    simp only [defaults, List.mem_cons, List.not_mem_nil, or_false, Prod.mk.injEq] at hdefault
    obtain ⟨rfl, rfl⟩ := hdefault
    refine Json.members?_bind_default (by decide) hnew fun m _ hget => ?_
    simp [Members.required, Members.defaulted, Members.get?_add, hget, Json.list?]
  | storedConversationKey =>
    simp only [defaults, List.mem_cons, List.not_mem_nil, or_false, Prod.mk.injEq] at hdefault
    obtain ⟨rfl, rfl⟩ := hdefault
    refine Json.members?_bind_default (by decide) hnew fun m hpositional hget => ?_
    simp [Members.required, Members.nullableMember, Members.optional, Members.defaulted,
      Members.get?_add, hget, hpositional, Members.isPositional_add, Json.nullable?]
  | storeConfig =>
    simp only [defaults, List.mem_cons, List.not_mem_nil, or_false, Prod.mk.injEq] at hdefault
    rcases hdefault with ⟨rfl, rfl⟩ | ⟨rfl, rfl⟩ | ⟨rfl, rfl⟩
    · refine Json.members?_bind_default (by decide) hnew fun m _ hget => ?_
      simp [Members.defaulted, Members.get?_add, hget, KdfConfig.ofJson?_toJson]
    · refine Json.members?_bind_default (by decide) hnew fun m _ hget => ?_
      simp [Members.defaulted, Members.get?_add, hget, hlength]
    · refine Json.members?_bind_default (by decide) hnew fun m _ hget => ?_
      simp [Members.defaulted, Members.get?_add, hget, hseconds]
  | rotationRecord | kdfParams => cases hdefault

end RecordType

/-! ### Cost parameters -/

namespace Json

theorem areMembersReadable_eq_all (levels : Nat) (l : List (String × Json)) :
  areMembersReadable levels l = l.all fun m => isReadable levels m.2
  := by
  induction l with
  | nil => rfl
  | cons m rest ih => rw [areMembersReadable, ih, List.all_cons]

theorem isReadable_object_perm {l l' : List (String × Json)} (h : l.Perm l') (levels : Nat) :
  isReadable levels (object l) = isReadable levels (object l')
  := by
  rw [isReadable, isReadable, areMembersReadable_eq_all, areMembersReadable_eq_all, h.all_eq]

end Json

namespace KdfParams

/-- The cost parameters of an algorithm among members. -/
def ofMembers? : KdfAlgorithm → Members → Option KdfParams
  | .argon2id, m => do
    return .argon2id (← m.required "memoryKib" Json.uint32?)
      (← m.required "iterations" Json.uint32?) (← m.required "parallelism" Json.uint32?)
  | .pbkdf2, m => do
    return .pbkdf2 (← m.required "rounds" Json.uint32?)

/-- Cost parameters are read in steps: the algorithm, and then what it needs. -/
theorem ofJson?_eq_some_iff {depth : Nat} {j : Json} {p : KdfParams} :
  ofJson? depth j = some p ↔ j.isReadable (maxLevels - depth) = true ∧
    ∃ a rest, split? j = some (KdfAlgorithm.name a, rest) ∧
      (rest.members? a.memberNames >>= ofMembers? a) = some p
  := by
  have hsteps : ofJson? depth j = if j.isReadable (maxLevels - depth) = true then
      split? j >>= fun r => KdfAlgorithm.ofName? r.1 >>= fun a =>
        r.2.members? a.memberNames >>= ofMembers? a
      else none := by
    rw [ofJson?]
    rcases j.isReadable (maxLevels - depth) with _ | _
    · rfl
    · rcases split? j with _ | ⟨name, rest⟩
      · rfl
      · change KdfAlgorithm.ofName? name >>= _ = KdfAlgorithm.ofName? name >>= _
        congr 1
        funext a
        cases a <;> rfl
  rw [hsteps]
  split_ifs with hreadable
  · constructor
    · intro h
      obtain ⟨⟨name, rest⟩, hsplit, h⟩ := Option.bind_eq_some_iff.1 h
      obtain ⟨a, hname, h⟩ := Option.bind_eq_some_iff.1 h
      have hname : name = a.name := KdfAlgorithm.ofName?_eq_some_iff.1 hname
      exact ⟨hreadable, a, rest, hname ▸ hsplit, h⟩
    · rintro ⟨-, a, rest, hsplit, h⟩
      rw [hsplit, Option.bind_eq_bind, Option.bind_some, KdfAlgorithm.ofName?_name]
      exact h
  · constructor
    · rintro ⟨⟩
    · rintro ⟨h, -⟩
      exact absurd h hreadable

theorem split?_object_eq_some_iff {l : List (String × Json)} {name : String} {rest : Json} :
  split? (.object l) = some (name, rest) ↔
    l.filter (fun m => m.1 = "algorithm") = [("algorithm", .string name)] ∧
      rest = .object (l.filter fun m => m.1 ≠ "algorithm")
  := by
  rw [split?]
  constructor
  · intro h
    split at h
    · case _ key name' hfilter =>
      cases h
      have hmem : (key, Json.string name) ∈ l.filter fun m => m.1 = "algorithm" := by
        rw [hfilter]
        exact List.mem_singleton_self _
      have hkey : key = "algorithm" := by simpa using (List.mem_filter.1 hmem).2
      rw [hkey] at hfilter
      exact ⟨hfilter, rfl⟩
    · cases h
  · rintro ⟨hfilter, rfl⟩
    rw [hfilter]

/-- Cost parameters are read in the same way in any order of the members. -/
theorem ofJson?_object_of_perm {depth : Nat} {l l' : List (String × Json)} (h : l.Perm l')
    {p : KdfParams} (hp : ofJson? depth (.object l) = some p) :
  ofJson? depth (.object l') = some p
  := by
  obtain ⟨hreadable, a, rest, hsplit, hread⟩ := ofJson?_eq_some_iff.1 hp
  obtain ⟨hfilter, rfl⟩ := split?_object_eq_some_iff.1 hsplit
  refine ofJson?_eq_some_iff.2 ⟨?_, a, .object (l'.filter fun m => m.1 ≠ "algorithm"), ?_, ?_⟩
  · rw [← Json.isReadable_object_perm h, hreadable]
  · refine split?_object_eq_some_iff.2 ⟨?_, rfl⟩
    have hperm := h.filter fun m => m.1 = "algorithm"
    rw [hfilter] at hperm
    exact (List.singleton_perm.1 hperm).symm
  · rw [← hread]
    symm
    refine Json.members?_bind_congr (fun m m' hview => ?_) (Json.view_object_perm (h.filter _) _)
    have hget : m.get? = m'.get? := congrArg Prod.fst hview
    cases a <;> simp only [ofMembers?, Members.required, hget]

theorem ofJson?_object_perm {l l' : List (String × Json)} (h : l.Perm l') (depth : Nat) :
  ofJson? depth (.object l) = ofJson? depth (.object l')
  := Option.ext fun _ => ⟨ofJson?_object_of_perm h, ofJson?_object_of_perm h.symm⟩

/-- An algorithm that is named twice makes reading fail. -/
theorem ofJson?_eq_none_of_repeated_algorithm {depth : Nat} {l : List (String × Json)}
    (h : 1 < (l.map Prod.fst).count "algorithm") :
  ofJson? depth (.object l) = none
  := by
  rw [Option.eq_none_iff_forall_ne_some]
  intro p hp
  obtain ⟨-, a, rest, hsplit, -⟩ := ofJson?_eq_some_iff.1 hp
  obtain ⟨hfilter, -⟩ := split?_object_eq_some_iff.1 hsplit
  rw [← Json.count_fst_filter (p := (· = "algorithm")) rfl, hfilter] at h
  simp at h

/-- The algorithm that is read is the one that a member names. -/
theorem eq_of_split?_object {l : List (String × Json)} {a a' : KdfAlgorithm} {rest : Json}
    (h : ("algorithm", .string a.name) ∈ l) (hsplit : split? (.object l) = some (a'.name, rest)) :
  a' = a
  := by
  have hmem : ("algorithm", Json.string a.name) ∈ l.filter fun m => m.1 = "algorithm" :=
    List.mem_filter.2 ⟨h, decide_eq_true rfl⟩
  rw [(split?_object_eq_some_iff.1 hsplit).1, List.mem_singleton, Prod.mk.injEq,
    Json.string.injEq] at hmem
  have hname := KdfAlgorithm.ofName?_name a
  rw [hmem.2, KdfAlgorithm.ofName?_name] at hname
  exact Option.some.inj hname

/-- A member that the algorithm needs makes reading fail when it is repeated. -/
theorem ofJson?_eq_none_of_repeated {depth : Nat} {l : List (String × Json)} {a : KdfAlgorithm}
    {name : String} (ha : ("algorithm", .string a.name) ∈ l) (hname : name ∈ a.memberNames)
    (h : 1 < (l.map Prod.fst).count name) :
  ofJson? depth (.object l) = none
  := by
  rw [Option.eq_none_iff_forall_ne_some]
  intro p hp
  obtain ⟨-, a', rest, hsplit, hread⟩ := ofJson?_eq_some_iff.1 hp
  obtain rfl := eq_of_split?_object ha hsplit
  obtain ⟨-, rfl⟩ := split?_object_eq_some_iff.1 hsplit
  have hne : name ≠ "algorithm" := by
    rintro rfl
    cases a' <;> exact absurd hname (by decide)
  rw [← Json.count_fst_filter (p := (· ≠ "algorithm")) (by simpa using hne)] at h
  rw [Json.members?_eq_none_of_repeated hname h] at hread
  cases hread

/-- What the algorithm does not need is skipped, repeated or not, as long as it can be read. -/
theorem ofJson?_append_unneeded {depth : Nat} {l extra : List (String × Json)} {a : KdfAlgorithm}
    (ha : ("algorithm", .string a.name) ∈ l)
    (hextra : ∀ m ∈ extra, m.1 ≠ "algorithm" ∧ m.1 ∉ a.memberNames)
    (hreadable : ∀ m ∈ extra, m.2.isReadable (maxLevels - depth - 1) = true) :
  ofJson? depth (.object (extra ++ l)) = ofJson? depth (.object l)
  := by
  have hall : (Json.object (extra ++ l)).isReadable (maxLevels - depth) =
      (Json.object l).isReadable (maxLevels - depth) := by
    rw [Json.isReadable, Json.isReadable, Json.areMembersReadable_eq_all,
      Json.areMembersReadable_eq_all, List.all_append, List.all_eq_true.2 hreadable, Bool.true_and]
  have hnone : extra.filter (fun m => m.1 = "algorithm") = [] := by
    simpa using fun m j hm => (hextra (m, j) hm).1
  have hself : extra.filter (fun m => m.1 ≠ "algorithm") = extra := by
    simpa using fun m j hm => (hextra (m, j) hm).1
  have hmembers (r : List (String × Json)) :
      (Json.object (extra ++ r)).members? a.memberNames = (Json.object r).members? a.memberNames :=
    Json.members?_append_unknown fun m hm => (hextra m hm).2
  -- The reader splits the members into those that are called `algorithm` and the rest: what is added is
  -- all in the rest, and is unknown there.
  apply Option.ext
  intro p
  rw [ofJson?_eq_some_iff, ofJson?_eq_some_iff, hall]
  apply and_congr_right
  intro _
  constructor
  · rintro ⟨a', rest, hsplit, hread⟩
    obtain rfl := eq_of_split?_object (List.mem_append_right _ ha) hsplit
    obtain ⟨hfilter, rfl⟩ := split?_object_eq_some_iff.1 hsplit
    rw [List.filter_append, hnone, List.nil_append] at hfilter
    rw [List.filter_append, hself, hmembers] at hread
    exact ⟨a', _, split?_object_eq_some_iff.2 ⟨hfilter, rfl⟩, hread⟩
  · rintro ⟨a', rest, hsplit, hread⟩
    obtain rfl := eq_of_split?_object ha hsplit
    obtain ⟨hfilter, rfl⟩ := split?_object_eq_some_iff.1 hsplit
    refine ⟨a', _, split?_object_eq_some_iff.2 ⟨?_, rfl⟩, ?_⟩
    · rw [List.filter_append, hnone, List.nil_append, hfilter]
    · rw [List.filter_append, hself, hmembers, hread]

end KdfParams

/-! ### Texts of records -/

namespace RecordType

variable {t : RecordType} {s s' : String} {members members' : List (Option String × Json)}

/-- A record is read from the members that its text has. -/
theorem ofText?_of_isObjectText (h : IsObjectText s members) :
  t.ofText? s = t.ofJson? (ofMembers members)
  := by
  rw [ofText?_eq, h.ofText?_eq]
  rfl

theorem ofJson?_garbled (t : RecordType) :
  t.ofJson? .garbled = none
  := by
  cases t <;> rfl

/-- A record of which no members are seen is not read. -/
theorem ofJson?_eq_none (ht : t ≠ kdfParams) {j : Json} (h : j.members? t.names = none) :
  t.ofJson? j = none
  := by
  have hview : view t.names j = view t.names .garbled := by
    rw [view, h]
    rfl
  rw [ofJson?_congr ht hview, ofJson?_garbled]

theorem ofJson?_object_perm {l l' : List (String × Json)} (h : l.Perm l') (t : RecordType) :
  t.ofJson? (.object l) = t.ofJson? (.object l')
  := by
  by_cases ht : t = kdfParams
  · subst ht
    exact KdfParams.ofJson?_object_perm h 0
  · exact ofJson?_congr ht (Json.view_object_perm h _)

/-- The order of the members makes no difference. -/
theorem ofJson?_ofMembers_perm (h : members.Perm members') (t : RecordType) :
  t.ofJson? (ofMembers members) = t.ofJson? (ofMembers members')
  := by
  obtain ⟨l, l', hperm, rfl, rfl⟩ | ⟨hm, hm'⟩ := Json.exists_named_perm h
  · rw [Json.ofMembers_named, Json.ofMembers_named, ofJson?_object_perm hperm]
  · rw [hm, hm']

/-- An object with a name that has no text is no record. -/
theorem ofJson?_ofMembers_eq_none (h : ∃ m ∈ members, m.1 = none) (t : RecordType) :
  t.ofJson? (ofMembers members) = none
  := by
  rw [Json.ofMembers_eq_garbled h, ofJson?_garbled]

/-- What makes no difference among members whose names have texts makes none among any members. -/
theorem ofJson?_ofMembers_append {extra : List (String × Json)}
    (h : ∀ l, members = named l → t.ofJson? (.object (extra ++ l)) = t.ofJson? (.object l)) :
  t.ofJson? (ofMembers (named extra ++ members)) = t.ofJson? (ofMembers members)
  := by
  obtain ⟨l, rfl⟩ | hnone := Json.exists_named_or_none members
  · have hnamed : named extra ++ named l = named (extra ++ l) := List.map_append.symm
    rw [hnamed, Json.ofMembers_named, Json.ofMembers_named, h l rfl]
  · have hnone' : ∃ m ∈ named extra ++ members, m.1 = none := by
      obtain ⟨m, hm, hname⟩ := hnone
      exact ⟨m, List.mem_append_right _ hm, hname⟩
    rw [ofJson?_ofMembers_eq_none hnone, ofJson?_ofMembers_eq_none hnone']

/-- Members that the record does not know make no difference. -/
theorem ofJson?_ofMembers_unknown (ht : t ≠ kdfParams) {extra : List (String × Json)}
    (h : ∀ m ∈ extra, m.1 ∉ t.names) :
  t.ofJson? (ofMembers (named extra ++ members)) = t.ofJson? (ofMembers members)
  := by
  apply ofJson?_ofMembers_append
  intro l _
  apply ofJson?_congr ht
  rw [view, view, Json.members?_append_unknown h]

/-- Members that the algorithm of cost parameters does not need make no difference. -/
theorem ofJson?_ofMembers_unneeded {extra : List (String × Json)} {a : KdfAlgorithm}
    (ha : (some "algorithm", .string a.name) ∈ members)
    (hextra : ∀ m ∈ extra, m.1 ≠ "algorithm" ∧ m.1 ∉ a.memberNames)
    (hreadable : ∀ m ∈ extra, m.2.isReadable (KdfParams.maxLevels - 1) = true) :
  kdfParams.ofJson? (ofMembers (named extra ++ members)) = kdfParams.ofJson? (ofMembers members)
  := by
  apply ofJson?_ofMembers_append
  rintro l rfl
  have ha : ("algorithm", Json.string a.name) ∈ l := by simpa [named] using ha
  exact KdfParams.ofJson?_append_unneeded ha hextra hreadable

/-- White space may stand wherever no string and no word goes on. -/
theorem ofText?_append_spaces {w : String} (hw : ∀ c ∈ w.toList, Json.isSpace c = true)
    (hs : .broken ∉ tokens s.toList)
    (hends : Json.EndsWord s.toList.reverse ∨ Json.EndsWord s'.toList) (t : RecordType) :
  t.ofText? (s ++ w ++ s') = t.ofText? (s ++ s')
  := by
  have htokens : tokens (s ++ w ++ s').toList = tokens (s ++ s').toList := by
    rw [String.toList_append, String.toList_append, String.toList_append, List.append_assoc,
      Json.tokens_append_spaces hw hs hends]
  rw [ofText?_eq, ofText?_eq, Json.ofText?_congr htokens]

/-- Whether a record with the given members looks at a name.  Cost parameters look at those that
belong to the algorithm that they name. -/
def LooksAt (t : RecordType) (members : List (Option String × Json)) (name : String) : Prop :=
  name ∈ t.names ∧
    (t = kdfParams → name = "algorithm" ∨
      ∃ a : KdfAlgorithm, (some "algorithm", .string a.name) ∈ members ∧ name ∈ a.memberNames)

/-- A record is not read when a member that it looks at is repeated. -/
theorem ofJson?_ofMembers_repeated {name : String} (h : t.LooksAt members name)
    (hrepeated : 1 < (members.map Prod.fst).count (some name)) :
  t.ofJson? (ofMembers members) = none
  := by
  obtain ⟨l, rfl⟩ | hnone := Json.exists_named_or_none members
  · rw [Json.count_map_fst_named] at hrepeated
    rw [Json.ofMembers_named]
    by_cases ht : t = kdfParams
    · subst ht
      obtain rfl | ⟨a, ha, hname⟩ := h.2 rfl
      · exact KdfParams.ofJson?_eq_none_of_repeated_algorithm hrepeated
      · have ha : ("algorithm", Json.string a.name) ∈ l := by simpa [named] using ha
        exact KdfParams.ofJson?_eq_none_of_repeated ha hname hrepeated
    · exact ofJson?_eq_none ht (Json.members?_eq_none_of_repeated h.1 hrepeated)
  · exact ofJson?_ofMembers_eq_none hnone t

/-- A member that is left out is read as its default. -/
theorem ofJson?_ofMembers_default {name : String} {j : Json} (h : (name, j) ∈ t.defaults)
    (hnew : some name ∉ members.map Prod.fst) :
  t.ofJson? (ofMembers (named [(name, j)] ++ members)) = t.ofJson? (ofMembers members)
  := by
  apply ofJson?_ofMembers_append
  rintro l rfl
  have hnew : name ∉ l.map Prod.fst := by simpa [named] using hnew
  exact ofJson?_default h hnew

/-- What is read from the text of an object depends on its members only. -/
structure DependsOnMembers (t : RecordType) : Prop where
  /-- Only the tokens of a text count, and not the white space between them. -/
  whiteSpace {s s' : String} (h : tokens s.toList = tokens s'.toList) : t.ofText? s = t.ofText? s'
  /-- White space may be put in wherever no string and no word goes on. -/
  spaces {s w s' : String} (hw : ∀ c ∈ w.toList, Json.isSpace c = true)
    (hs : .broken ∉ tokens s.toList)
    (hends : Json.EndsWord s.toList.reverse ∨ Json.EndsWord s'.toList) :
    t.ofText? (s ++ w ++ s') = t.ofText? (s ++ s')
  /-- The members may stand in any order. -/
  order {s s' : String} {members members' : List (Option String × Json)}
    (hs : IsObjectText s members) (hs' : IsObjectText s' members') (h : members.Perm members') :
    t.ofText? s = t.ofText? s'
  /-- Members with unknown names may stand among the others, whatever their values are. -/
  unknown {s s' : String} {members members' : List (Option String × Json)}
    {extra : List (String × Json)} (hs : IsObjectText s members) (hs' : IsObjectText s' members')
    (ht : t ≠ kdfParams) (hextra : ∀ m ∈ extra, m.1 ∉ t.names)
    (h : members'.Perm (named extra ++ members)) : t.ofText? s = t.ofText? s'
  /-- Members that the algorithm of cost parameters does not need may stand among the others, repeated
  or not, as long as they can be read. -/
  unneeded {s s' : String} {members members' : List (Option String × Json)}
    {extra : List (String × Json)} {a : KdfAlgorithm} (hs : IsObjectText s members)
    (hs' : IsObjectText s' members') (ht : t = kdfParams)
    (ha : (some "algorithm", .string a.name) ∈ members)
    (hextra : ∀ m ∈ extra, m.1 ≠ "algorithm" ∧ m.1 ∉ a.memberNames)
    (hreadable : ∀ m ∈ extra, m.2.isReadable (KdfParams.maxLevels - 1) = true)
    (h : members'.Perm (named extra ++ members)) : t.ofText? s = t.ofText? s'
  /-- No member that is looked at may be repeated. -/
  repeated {s : String} {members : List (Option String × Json)} {name : String}
    (hs : IsObjectText s members) (hname : t.LooksAt members name)
    (h : 1 < (members.map Prod.fst).count (some name)) : t.ofText? s = none
  /-- A member that may be left out is read as its default then. -/
  missing {s s' : String} {members members' : List (Option String × Json)} {name : String}
    {j : Json} (hs : IsObjectText s members) (hs' : IsObjectText s' members')
    (hj : (name, j) ∈ t.defaults) (hname : some name ∉ members.map Prod.fst)
    (h : members'.Perm (named [(name, j)] ++ members)) : t.ofText? s = t.ofText? s'

end RecordType

open RecordType

/-- Every record depends on its members only. -/
theorem records_depend_on_members (t : RecordType) :
  t.DependsOnMembers
  := by
  constructor
  case whiteSpace =>
    intro s s' h
    rw [ofText?_eq, ofText?_eq, Json.ofText?_congr h]
  case spaces =>
    intro s w s' hw hs hends
    exact ofText?_append_spaces hw hs hends t
  case order =>
    intro s s' members members' hs hs' h
    rw [ofText?_of_isObjectText hs, ofText?_of_isObjectText hs', ofJson?_ofMembers_perm h]
  case unknown =>
    intro s s' members members' extra hs hs' ht hextra h
    rw [ofText?_of_isObjectText hs, ofText?_of_isObjectText hs', ofJson?_ofMembers_perm h,
      ofJson?_ofMembers_unknown ht hextra]
  case unneeded =>
    intro s s' members members' extra a hs hs' ht ha hextra hreadable h
    subst ht
    rw [ofText?_of_isObjectText hs, ofText?_of_isObjectText hs', ofJson?_ofMembers_perm h,
      ofJson?_ofMembers_unneeded ha hextra hreadable]
  case repeated =>
    intro s members name hs hname h
    rw [ofText?_of_isObjectText hs, ofJson?_ofMembers_repeated hname h]
  case missing =>
    intro s s' members members' name j hs hs' hj hname h
    rw [ofText?_of_isObjectText hs, ofText?_of_isObjectText hs', ofJson?_ofMembers_perm h,
      ofJson?_ofMembers_default hj hname]

/-- The cost parameters of an algorithm. -/
def argonMembers : List (String × Json) :=
  [("algorithm", .string "argon2id"), ("memoryKib", .nat 16), ("iterations", .nat 1),
    ("parallelism", .nat 1)]

/-- A cost parameter of the other algorithm, twice. -/
def roundsTwice : List (String × Json) :=
  [("rounds", .nat 1), ("rounds", .nat 2)]

/-- The configuration with a least length only and the cost parameters of an algorithm, laid out and
filled up in several ways. -/
theorem records_depend_on_members_sample :
  storeConfig.ofText? (object [("min_password_len", .nat 12)]).compact =
      some (StoreConfig.mk .standard 12 0) ∧
    storeConfig.ofText? (" " ++ (object [("min_password_len", .nat 12)]).compact) =
      storeConfig.ofText? (object [("min_password_len", .nat 12)]).compact ∧
    storeConfig.ofText? ("\x7b" ++ "\n " ++ "\"min_password_len\":12\x7d") =
      storeConfig.ofText? ("\x7b" ++ "\"min_password_len\":12\x7d") ∧
    storeConfig.ofText?
        (object [("auto_lock_secs", .nat 0), ("min_password_len", .nat 12)]).compact =
      storeConfig.ofText?
        (object [("min_password_len", .nat 12), ("auto_lock_secs", .nat 0)]).compact ∧
    storeConfig.ofText? (object [("min_password_len", .nat 12)]).compact =
      storeConfig.ofText?
        (object [("color", .array [.null]), ("min_password_len", .nat 12)]).compact ∧
    kdfParams.ofText? (object argonMembers).compact =
      kdfParams.ofText? (object (roundsTwice ++ argonMembers)).compact ∧
    storeConfig.ofText?
        (object [("min_password_len", .nat 12), ("min_password_len", .nat 12)]).compact = none ∧
    storeConfig.ofText? (object [("min_password_len", .nat 12)]).compact =
      storeConfig.ofText?
        (object [("auto_lock_secs", .nat 0), ("min_password_len", .nat 12)]).compact
  := by
  have hplain : IsObjectText (object [("min_password_len", .nat 12)]).compact
    (named [("min_password_len", .nat 12)]) :=
    Json.isObjectText_compact (by simp [Json.IsPlain, Json.AreMembersPlain])
  have hfull : IsObjectText
    (object [("auto_lock_secs", .nat 0), ("min_password_len", .nat 12)]).compact
    (named [("auto_lock_secs", .nat 0), ("min_password_len", .nat 12)]) :=
    Json.isObjectText_compact (by simp [Json.IsPlain, Json.AreMembersPlain])
  refine ⟨?_, ?_, ?_, ?_, ?_, ?_, ?_, ?_⟩
  · rw [ofText?_of_isObjectText hplain, Json.ofMembers_named]
    rfl
  · apply (records_depend_on_members storeConfig).whiteSpace
    rw [String.toList_append]
    exact Json.tokens_space rfl _
  · apply (records_depend_on_members storeConfig).spaces
    · exact List.all_eq_true.1 rfl
    · change .broken ∉ tokens ['{']
      rw [Json.tokens_mark rfl, Json.tokens_nil]
      simp
    · exact .inl (Json.endsWord_cons rfl [])
  · exact (records_depend_on_members storeConfig).order hfull
      (Json.isObjectText_compact (by simp [Json.IsPlain, Json.AreMembersPlain])) (.swap _ _ _)
  · have hcolor : ∀ m ∈ [("color", Json.array [.null])], m.1 ∉ storeConfig.names := by decide
    exact (records_depend_on_members storeConfig).unknown hplain
      (Json.isObjectText_compact (by simp [Json.IsPlain, Json.AreMembersPlain, Json.ArePlain]))
      (by decide) hcolor (.refl _)
  · have hcost : IsObjectText (object argonMembers).compact (named argonMembers) :=
      Json.isObjectText_compact (by simp [argonMembers, Json.IsPlain, Json.AreMembersPlain])
    have hmore : IsObjectText (object (roundsTwice ++ argonMembers)).compact
        (named (roundsTwice ++ argonMembers)) :=
      Json.isObjectText_compact
        (by simp [argonMembers, roundsTwice, Json.IsPlain, Json.AreMembersPlain])
    have halgorithm : (some "algorithm", .string KdfAlgorithm.argon2id.name) ∈ named argonMembers :=
      List.mem_cons_self
    have hunneeded : ∀ m ∈ roundsTwice,
        m.1 ≠ "algorithm" ∧ m.1 ∉ KdfAlgorithm.argon2id.memberNames := by decide
    have hreadable : ∀ m ∈ roundsTwice, m.2.isReadable (KdfParams.maxLevels - 1) = true := by decide
    exact (records_depend_on_members kdfParams).unneeded hcost hmore rfl halgorithm hunneeded hreadable
      (.refl _)
  · have hname (members : List (Option String × Json)) :
      storeConfig.LooksAt members "min_password_len" := ⟨by decide, by rintro ⟨⟩⟩
    exact (records_depend_on_members storeConfig).repeated
      (Json.isObjectText_compact (by simp [Json.IsPlain, Json.AreMembersPlain])) (hname _)
      (by decide)
  · have hzero : ("auto_lock_secs", Json.nat 0) ∈ storeConfig.defaults := by simp [defaults]
    exact (records_depend_on_members storeConfig).missing hplain hfull hzero (by decide) (.refl _)

/-- A name of cost parameters may be repeated that the algorithm does not need. -/
theorem unneeded_member_may_be_repeated :
  (object (argonMembers ++ roundsTwice)).compact =
      "\x7b\"algorithm\":\"argon2id\",\"memoryKib\":16,\"iterations\":1,\"parallelism\":1," ++
        "\"rounds\":1,\"rounds\":2\x7d" ∧
    IsObjectText (object (argonMembers ++ roundsTwice)).compact
      (named (argonMembers ++ roundsTwice)) ∧
    "rounds" ∈ kdfParams.names ∧
    1 < ((named (argonMembers ++ roundsTwice)).map Prod.fst).count (some "rounds") ∧
    kdfParams.ofText? (object (argonMembers ++ roundsTwice)).compact =
      some (KdfParams.argon2id 16 1 1)
  := by
  have htext : IsObjectText (object (argonMembers ++ roundsTwice)).compact
      (named (argonMembers ++ roundsTwice)) :=
    Json.isObjectText_compact
      (by simp [argonMembers, roundsTwice, Json.IsPlain, Json.AreMembersPlain])
  refine ⟨by decide +kernel, htext, by decide, by decide, ?_⟩
  rw [ofText?_of_isObjectText htext, Json.ofMembers_named]
  rfl

end Keyring

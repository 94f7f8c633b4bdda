import Keyring.Proofs.Sample
import Keyring.Proofs.Store.Soundness

/-!
# When a rotation is refused

A rotation goes from the stored version of a conversation to the next one and is entered into the
log under it.  The log outlives the key: when a conversation starts again at the first version,
or when a recovery puts an older key in its place, the next version may be in the log already, and
then the rotation is refused.  As long as neither happens, the stored version is ahead of the log
and no rotation is refused.
-/

namespace Keyring

/-! ### Versions of sound databases -/

namespace Database

variable {d : Database} {id : String}

/-- The version of a conversation whose key was put in is the one of that key. -/
theorem liveVersion?_putConversationKey (id : String) {k : StoredConversationKey} (hv : k.version ≠ 0) :
  (d.putConversationKey (.ofRecord k)).liveVersion? id =
    if k.conversationId = id then .ok (some k.version) else d.liveVersion? id
  := by
  have hfind : (d.putConversationKey (.ofRecord k)).conversationKey? id = _ := Table.find?_put id
  by_cases hid : k.conversationId = id
  · have hid' : (ConversationKeyRow.ofRecord k).conversationId = id := hid
    rw [if_pos hid'] at hfind
    rw [if_pos hid, liveVersion?_of_conversationKey? hfind hv]
  · have hid' : ¬(ConversationKeyRow.ofRecord k).conversationId = id := hid
    rw [if_neg hid'] at hfind
    rw [if_neg hid, liveVersion?, hfind]
    rfl

theorem IsSound.liveVersion?_updateConversationKey (h : d.IsSound) (id : String)
    {k : StoredConversationKey} (hv : k.version ≠ 0) :
  (d.updateConversationKey (.ofRecord k)).liveVersion? id =
    if k.conversationId = id then .ok (some k.version) else d.liveVersion? id
  := by
  obtain ⟨rotatedAt, he⟩ := h.updateConversationKey_eq k
  rw [he]
  exact liveVersion?_putConversationKey id (k := { k with rotatedAt := rotatedAt }) hv

/-- A rotation puts its conversation to the next version, whatever it enters into the log. -/
theorem IsSound.liveVersion?_rotated {device : Device} (h : device.database.IsSound) (master : Key)
    (other : String) (key : ConversationKey) {current new : UInt32}
    (hnew : Action.nextVersion current = .ok new) (rotations : List RotationRow) (id : String) :
  ({ device.database.updateConversationKey
      (.ofRecord (Action.rotatedRecord device master other key new)) with
    rotations := rotations } : Database).liveVersion? id =
    if other = id then .ok (some new) else device.database.liveVersion? id
  := by
  obtain ⟨hlast, rfl⟩ := Action.nextVersion_eq_ok_iff.1 hnew
  exact h.liveVersion?_updateConversationKey id
    (k := Action.rotatedRecord device master other key (current + 1)) (UInt32.add_one_ne_zero hlast)

theorem liveVersion?_eraseConversationKey (other : String) (h : id ≠ other) :
  (d.eraseConversationKey other).liveVersion? id = d.liveVersion? id
  := by
  rw [liveVersion?, conversationKey?, eraseConversationKey, Table.find?_erase, if_neg h]
  rfl

theorem liveVersion?_eraseConversationKey_self (d : Database) (id : String) :
  (d.eraseConversationKey id).liveVersion? id = .ok none
  := by
  rw [liveVersion?, conversationKey?, eraseConversationKey, Table.find?_erase, if_pos rfl]

/-- The version of a conversation can be read. -/
theorem IsSound.exists_liveVersion? (h : d.IsSound) (id : String) :
  ∃ current?, d.liveVersion? id = .ok current?
  := by
  rcases hf : d.conversationKey? id with _ | row
  · use none
    rw [liveVersion?, hf]
  · obtain ⟨k, rfl, hk⟩ := h.conversationKeys row (Table.mem_of_find? hf).1
    have hv := (BackupPayload.validateConversationKey_eq_ok_iff.1 hk).2
    exact ⟨some k.version, liveVersion?_of_conversationKey? hf hv⟩

/-! ### The log behind the stored version -/

/-- Whether all rotations of a conversation in the log led at most to its stored version. -/
def LogIsBehind (id : String) (d : Database) : Prop :=
  ∀ r, RotationRow.ofRecord r ∈ d.rotations → r.conversationId = id →
    ∃ current, d.liveVersion? id = .ok (some current) ∧ r.newVersion ≤ current

theorem LogIsBehind.of_rotationsOf_eq_nil (h : d.rotationsOf id = []) :
  d.LogIsBehind id
  := by
  rintro r hr rfl
  have hmem : RotationRow.ofRecord r ∈ d.rotationsOf r.conversationId :=
    List.mem_filter.2 ⟨hr, by simp [RotationRow.ofRecord]⟩
  rw [h] at hmem
  cases hmem

/-- Nothing but the log and the stored version matters, and the version may grow. -/
theorem LogIsBehind.mono {d' : Database} (h : d.LogIsBehind id)
    (hrotations : d'.rotations = d.rotations)
    (hlive : ∀ current, d.liveVersion? id = .ok (some current) →
      ∃ current', d'.liveVersion? id = .ok (some current') ∧ current ≤ current') :
  d'.LogIsBehind id
  := by
  intro r hr hid
  rw [hrotations] at hr
  obtain ⟨current, hcurrent, hle⟩ := h r hr hid
  obtain ⟨current', hcurrent', hle'⟩ := hlive current hcurrent
  use current', hcurrent'
  exact UInt32.le_trans hle hle'

/-- A key that is put in leaves the log behind, unless it is older than the stored one. -/
theorem LogIsBehind.updateConversationKey (h : d.LogIsBehind id) (hd : d.IsSound)
    {k : StoredConversationKey} (hversion : k.version ≠ 0) {current? : Option UInt32}
    (hlive : d.liveVersion? k.conversationId = .ok current?)
    (hcurrent : ∀ current ∈ current?, current ≤ k.version) :
  (d.updateConversationKey (.ofRecord k)).LogIsBehind id
  := by
  apply h.mono
  · rfl
  intro current hid
  rw [hd.liveVersion?_updateConversationKey id hversion]
  by_cases hk : k.conversationId = id
  · rw [hk, hid] at hlive
    cases hlive
    exact ⟨k.version, if_pos hk, hcurrent current rfl⟩
  · exact ⟨current, (if_neg hk).trans hid, UInt32.le_refl _⟩

/-- An entry leaves the log behind if its version is stored. -/
theorem LogIsBehind.appendRotation (h : d.LogIsBehind id) {r : RotationRecord}
    (hr : d.liveVersion? r.conversationId = .ok (some r.newVersion)) :
  { d with rotations := d.rotations ++ [RotationRow.ofRecord r] }.LogIsBehind id
  := by
  rintro s hs rfl
  rcases List.mem_append.1 hs with hs | hs
  · exact h s hs rfl
  · have he := congrArg RotationRow.entry (List.mem_singleton.1 hs)
    obtain ⟨hid, hv⟩ := RotationRow.entry_ofRecord_eq_iff.1 he
    have hid' : s.conversationId = r.conversationId := hid
    rw [← hid'] at hr
    exact ⟨r.newVersion, hr, UInt32.le_of_eq hv⟩

/-- Where the log is behind, it does not have the next version. -/
theorem LogIsBehind.hasRotation_eq_false (h : d.LogIsBehind id) (hd : d.IsSound)
    {current? : Option UInt32} (hlive : d.liveVersion? id = .ok current?)
    (hlast : current?.getD 0 ≠ 4294967295) :
  d.hasRotation id (.integer (current?.getD 0 + 1).toNat) = false
  := by
  rw [hasRotation_eq_false_iff]
  intro hmem
  obtain ⟨row, hrow, he⟩ := List.mem_map.1 hmem
  obtain ⟨r, rfl⟩ := hd.rotations row hrow
  obtain ⟨hid, hnew⟩ := RotationRow.entry_ofRecord_eq_iff.1 he
  obtain ⟨current, hcurrent, hle⟩ := h r hrow hid
  rw [hlive] at hcurrent
  cases hcurrent
  have hlt := UInt32.toNat_add_one hlast
  rw [hnew, UInt32.le_iff_toNat_le] at hle
  simp only [Option.getD_some] at hle hlt
  omega

end Database

/-- Whether an operation neither deletes the key of a conversation nor is a recovery. -/
def Operation.KeepsAhead (id : String) (α : Type) (op : Operation α) (_ : Device) : Prop :=
  match op with
  | .deleteConversationKey other => id ≠ other
  | .restoreBackup _ _ => False
  | _ => True

/-- The log stays behind, whatever else is done. -/
theorem Operation.Effect.logIsBehind {α : Type} {op : Operation α} {device : Device} {d : Database}
    {id : String} (h : Effect op device d) (hop : op.KeepsAhead id α device)
    (hd : device.database.IsSound) (hlog : device.database.LogIsBehind id) :
  d.LogIsBehind id
  := by
  cases h with
  | nothing => exact hlog
  | storeKeyPair => exact hlog.mono rfl fun current h => ⟨current, h, UInt32.le_refl _⟩
  | deleteKeyPair => exact hlog.mono rfl fun current h => ⟨current, h, UInt32.le_refl _⟩
  | storeConversationKey other key version _ master current? _ _ hversion hlive hcurrent =>
    exact hlog.updateConversationKey hd (k := .ofSealed ..) hversion hlive hcurrent
  | deleteConversationKey other =>
    apply hlog.mono
    · rfl
    intro current h
    use current
    rw [Database.liveVersion?_eraseConversationKey other hop]
    exact ⟨h, UInt32.le_refl _⟩
  | rotateConversationKey other secret reason _ master current? new key _ hlive hnew _ _ =>
    obtain ⟨hlast, rfl⟩ := Action.nextVersion_eq_ok_iff.1 hnew
    have hnext := UInt32.add_one_ne_zero hlast
    have hcurrent : ∀ current ∈ current?, current ≤ current?.getD 0 + 1 := by
      rintro current ⟨⟩
      have hlt := UInt32.toNat_add_one hlast
      rw [UInt32.le_iff_toNat_le]
      simp only [Option.getD_some] at hlt ⊢
      omega
    have hput := hd.liveVersion?_rotated master other key hnew device.database.rotations other
    have hbehind := hlog.updateConversationKey hd
      (k := Action.rotatedRecord device master other key _) hnext hlive hcurrent
    exact hbehind.appendRotation (r := Action.rotationRecord device other _ _ reason)
      (hput.trans (if_pos rfl))
  | unlock _ _ strategy salt =>
    obtain ⟨metadata, he⟩ := device.database.addMaster_eq salt strategy.params _
    rw [he]
    exact hlog.mono rfl fun current h => ⟨current, h, UInt32.le_refl _⟩
  | restoreBackup => cases hop
  | clearAll => exact .of_rotationsOf_eq_nil rfl

/-! ### Rotations -/

/-- A rotation for which everything is at hand goes to the next version, unless the log has an entry
of that version; then it is refused, and the database stays as it was.  In a run that began
without entries of the conversation, and in which its key was not deleted and nothing was restored,
the log never has one. -/
theorem rotation_succeeds_unless_logged {device : Device} {master : Key} {id : String}
    {secret : Bytes} (reason : String) (hdevice : device.database.Reachable)
    (hkey : device.key? = some master) (hid : id ≠ "") (hsecret : secret.length = 32) :
  ∃ current?, device.database.liveVersion? id = .ok current? ∧
    (current?.getD 0 ≠ 4294967295 →
      let old := current?.getD 0
      let isLogged := device.database.hasRotation id (.integer (old + 1).toNat)
      let rotate := Operation.rotateConversationKey id secret reason
      (isLogged = false → ∃ after,
        rotate.outcome device = (.ok ⟨id, old, old + 1, device.clock.wall, reason⟩, after) ∧
          after.database.liveVersion? id = .ok (some (old + 1))) ∧
      (isLogged = true → ∃ after,
        rotate.outcome device = (.error .database, after) ∧ after.database = device.database) ∧
      ∀ start : Database, start.Reachable → start.rotationsOf id = [] →
        start.Run (Operation.KeepsAhead id) device.database → isLogged = false)
  := by
  have hd := hdevice.isSound
  obtain ⟨current?, hlive⟩ := hd.exists_liveVersion? id
  use current?, hlive
  intro hlast
  have hnew := Action.nextVersion_eq_ok_iff.2 ⟨hlast, rfl⟩
  have hderive : ConversationKey.derive secret id (current?.getD 0 + 1) =
      .ok (.derived secret id (current?.getD 0 + 1)) :=
    ConversationKey.derive_eq_ok_iff.2 ⟨hsecret, hid, rfl⟩
  refine ⟨?_, ?_, ?_⟩
  · intro hlog
    have hrotate := Action.outcome_rotateConversationKey reason hkey hlive hnew hderive
    rw [hlog] at hrotate
    have hput := hd.liveVersion?_updateConversationKey id
      (k := Action.rotatedRecord device master id (.derived secret id (current?.getD 0 + 1)) _)
      (UInt32.add_one_ne_zero hlast)
    exact ⟨_, hrotate, hput.trans (if_pos rfl)⟩
  · intro hlog
    have hrotate := Action.outcome_rotateConversationKey_of_hasRotation reason hkey hlive hnew
      hderive hlog
    exact ⟨_, hrotate, rfl⟩
  · intro start hstart hnil hrun
    have hbehind : device.database.IsSound ∧ device.database.LogIsBehind id := by
      apply hrun.invariant (P := fun d => d.IsSound ∧ d.LogIsBehind id)
      · exact ⟨hstart.isSound, .of_rotationsOf_eq_nil hnil⟩
      · intro α op device d' hop hP he
        exact ⟨he.isSound hP.1, he.logIsBehind hop hP.1 hP.2⟩
    exact hbehind.2.hasRotation_eq_false hd hlive hlast

/-- The first rotation of a conversation succeeds; when its key was deleted after that, the next one
is refused, though it is at version zero again. -/
theorem rotation_succeeds_unless_logged_sample :
  (∃ after, (Operation.rotateConversationKey "c" (List.replicate 32 0) "manual").outcome
    (.sample .empty) = (.ok ⟨"c", 0, 1, .epoch, "manual"⟩, after)) ∧
  ∃ after, (Operation.rotateConversationKey "c" (List.replicate 32 0) "manual").outcome
    (.sample .rotated) = (.error .database, after) ∧ after.database = .rotated
  := by
  have hsecret : (List.replicate 32 (0 : UInt8)).length = 32 := List.length_replicate
  constructor
  · have hempty : (Device.sample .empty).database.Reachable := .empty
    obtain ⟨current?, hlive, h⟩ := rotation_succeeds_unless_logged "manual" hempty
      (Device.key?_sample _) (by decide : "c" ≠ "") hsecret
    cases hlive
    obtain ⟨after, hrotate, -⟩ := (h (by decide)).1 rfl
    exact ⟨after, hrotate⟩
  · have hrotated : (Device.sample .rotated).database.Reachable := Database.reachable_rotated
    obtain ⟨current?, hlive, h⟩ := rotation_succeeds_unless_logged "manual" hrotated
      (Device.key?_sample _) (by decide : "c" ≠ "") hsecret
    cases hlive
    exact (h (by decide)).2.1 rfl

end Keyring

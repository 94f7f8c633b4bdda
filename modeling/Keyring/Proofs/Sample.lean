import Keyring.Proofs.Store.Operation

/-!
# A sample device

A device on which results can be seen at work: it holds the master key of zeroes, its random
blocks are all zero, and its clocks stand at the start of 1970.  On it the conversation `c` is
rotated for the first time, and then its key may be deleted.
-/

namespace Keyring

/-- A session in which the master key of zeroes was installed. -/
def Session.sample : Session :=
  (Session.new .standard 8 0).install 0 (.zero 32)

/-- A host with the sample session. -/
def Host.sample : Host :=
  ⟨.ofBlocks fun n _ => .zero n, ⟨.epoch, 0⟩, .sample⟩

/-- A device with the sample host and a database. -/
def Device.sample (d : Database) : Device :=
  ⟨.sample, ⟨.standard, 8, 0⟩, d⟩

@[simp]
theorem Device.key?_sample (d : Database) :
  (sample d).key? = some (.zero 32)
  := rfl

@[simp]
theorem Device.database_sample (d : Database) :
  (sample d).database = d
  := rfl

/-- The key that a secret of zeroes gives for the conversation `c`. -/
def ConversationKey.sample : ConversationKey :=
  .derived (List.replicate 32 0) "c" 1

/-- The database after the conversation `c` was rotated for the first time and its key deleted. -/
def Database.rotated : Database :=
  { empty with rotations := [⟨"c", .integer 0, .integer 1, Instant.epoch.storedText, "manual"⟩] }

/-- The database after the conversation `c` was rotated for the first time. -/
def Database.kept : Database :=
  { rotated with
    conversationKeys :=
      [.ofRecord (Action.rotatedRecord (.sample .empty) (.zero 32) "c" .sample 1)] }

theorem ConversationKey.derive_sample :
  derive (List.replicate 32 0) "c" 1 = .ok sample
  := derive_eq_ok_iff.2 ⟨rfl, by decide, rfl⟩

/-- The first rotation of the conversation. -/
theorem Operation.outcome_rotateConversationKey_sample :
  ∃ after, (rotateConversationKey "c" (List.replicate 32 0) "manual").outcome (.sample .empty) =
    (.ok ⟨"c", 0, 1, .epoch, "manual"⟩, after) ∧ after.database = .kept
  := by
  have hlive : Database.empty.liveVersion? "c" = .ok none := rfl
  have hnext : Action.nextVersion 0 = .ok 1 := rfl
  have hrotate := Action.outcome_rotateConversationKey "manual" (Device.key?_sample .empty) hlive
    hnext ConversationKey.derive_sample
  exact ⟨_, hrotate, rfl⟩

theorem Database.reachable_kept :
  Database.kept.Reachable
  := by
  obtain ⟨after, hrotate, hkept⟩ := Operation.outcome_rotateConversationKey_sample
  have hfirst := Reachable.step (.rotateConversationKey "c" (List.replicate 32 0) "manual")
    (.sample .empty) .empty
  rw [hrotate] at hfirst
  rw [← hkept]
  exact hfirst

/-- A rotation of a conversation whose key is then deleted leads to a database with its log alone. -/
theorem Database.reachable_rotated :
  Database.rotated.Reachable
  := Reachable.step (.deleteConversationKey "c") (.sample _) reachable_kept

end Keyring

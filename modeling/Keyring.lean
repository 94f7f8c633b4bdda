import Keyring.Main
import Keyring.Store.Edit
import Keyring.Store.Workspace
import Keyring.Proofs.Action
import Keyring.Proofs.Outcome
import Keyring.Proofs.Session
import Keyring.Proofs.Store.Identity
import Keyring.Proofs.Store.Conversation
import Keyring.Proofs.Store.MasterPassword
import Keyring.Proofs.Store.Recovery
import Keyring.Proofs.Store.Operation
import Keyring.Proofs.Sample
import Keyring.Proofs.Store.Failure
import Keyring.Proofs.Base64
import Keyring.Proofs.Base64Text
import Keyring.Proofs.Instant.Calendar
import Keyring.Proofs.Instant.Text
import Keyring.Proofs.Instant.Order
import Keyring.Proofs.Json.Layout
import Keyring.Proofs.Record
import Keyring.Proofs.Sealed
import Keyring.Proofs.PrivateKeyBlob
import Keyring.Proofs.Store.Backup
import Keyring.Proofs.Store.NewDevice
import Keyring.Proofs.Store.Rotation
import Keyring.Proofs.Store.Versions
import Keyring.Proofs.Store.Readability
import Keyring.Proofs.Store.FirstUnlock
import Keyring.Proofs.Store.PlainKeys
import Keyring.Proofs.Store.KeyPairs
import Keyring.Proofs.Store.Restore
import Keyring.Proofs.Store.Members
import Keyring.Proofs.Store.AutoLock
import Keyring.Proofs.RecordText
import Keyring.Proofs.Store.History
import Keyring.Proofs.Store.VersionOrder
import Keyring.Proofs.Store.WrongPassword
import Keyring.Proofs.Bytes
import Keyring.Proofs.Text.Order
import Keyring.Proofs.Purpose
import Keyring.Proofs.Cipher.Ghash
import Keyring.Proofs.Cipher.Aes256
import Keyring.Proofs.Cipher.Numbers
import Keyring.Proofs.Cipher.Tag
import Keyring.Proofs.Tampering
import Keyring.Proofs.Store.Script
import Keyring.Proofs.Store.Journal
import Keyring.Proofs.Store.Freshness
import Keyring.Proofs.Store.Reopening
import Keyring.Proofs.Store.RotationOutcome
import Keyring.Proofs.Store.Parses
import Keyring.Proofs.Store.FailClosed
import Keyring.Proofs.Store.KeyReach
import Keyring.Proofs.Store.KeyHistory
import Keyring.Proofs.Store.LockTime
import Keyring.Proofs.Store.RecordedCost
import Keyring.Proofs.Store.Independence
import Keyring.Proofs.Store.Listing
import Keyring.Proofs.RecordMembers
import Keyring.Proofs.CommandLine.Files
import Keyring.Proofs.CommandLine.Task
import Keyring.Proofs.CommandLine.Run
import Keyring.Proofs.CommandLine.Intact

import Keyring.Proofs.Base64Text
import Keyring.Proofs.Sealed
import Keyring.Record.PrivateKeyBlob

/-!
# Blobs

A sealed value and a sealed private key are each kept as one byte string, the latter also as a text in
base64.  A byte string that is long enough has parts, and no other parts have these bytes; a text has
parts if it is the one text of such a byte string.  So nothing is lost or added by reading what was
written, nor by writing what was read.
-/

namespace Keyring

namespace PrivateKeyBlob

/-- The parts are found again in their bytes, if there is a ciphertext. -/
theorem ofBytes_toBytes {k : PrivateKeyBlob} (h : k.ciphertext ≠ []) :
  ofBytes k.toBytes = .ok k
  := by
  obtain ⟨salt, iv, ciphertext⟩ := k
  have hpos : 0 < ciphertext.length := List.length_pos_iff.2 h
  have hsalt : (salt.bytes ++ (iv.bytes ++ ciphertext)).take 16 = salt.bytes :=
    List.take_left' salt.length_bytes
  have hrest : (salt.bytes ++ (iv.bytes ++ ciphertext)).drop 16 = iv.bytes ++ ciphertext :=
    List.drop_left' salt.length_bytes
  have hiv : (iv.bytes ++ ciphertext).take 12 = iv.bytes := List.take_left' iv.length_bytes
  have hciphertext : (salt.bytes ++ (iv.bytes ++ ciphertext)).drop 28 = ciphertext := by
    rw [show (28 : Nat) = 16 + 12 from rfl, ← List.drop_drop, hrest]
    exact List.drop_left' iv.length_bytes
  have hlong : ¬(salt.bytes ++ (iv.bytes ++ ciphertext)).length ≤ 28 := by
    rw [List.length_append, List.length_append, salt.length_bytes, iv.length_bytes]
    omega
  simp only [ofBytes, toBytes, List.append_assoc, if_neg hlong, hsalt, hrest, hiv, hciphertext,
    Block.ofBytes?_bytes]

theorem toBytes_of_ofBytes {b : Bytes} {k : PrivateKeyBlob} (h : ofBytes b = .ok k) :
  k.toBytes = b
  := by
  rw [ofBytes] at h
  split at h
  · cases h
  split at h
  next salt iv hsalt hiv =>
    cases h
    rw [toBytes, Block.ofBytes?_eq_some_iff.1 hsalt, Block.ofBytes?_eq_some_iff.1 hiv,
      List.append_assoc, show (28 : Nat) = 16 + 12 from rfl, ← List.drop_drop,
      List.take_append_drop, List.take_append_drop]
  next => cases h

/-- A byte string is read if it is longer than a salt and an initialisation vector. -/
theorem exists_ofBytes_eq_ok_iff {b : Bytes} :
  (∃ k, ofBytes b = .ok k) ↔ 28 < b.length
  := by
  constructor
  · rintro ⟨k, h⟩
    rw [ofBytes] at h
    split at h
    · cases h
    · omega
  · intro h
    have hsalt : (b.take 16).length = 16 := by
      rw [List.length_take]
      omega
    have hiv : ((b.drop 16).take 12).length = 12 := by
      rw [List.length_take, List.length_drop]
      omega
    use ⟨⟨_, hsalt⟩, ⟨_, hiv⟩, b.drop 28⟩
    rw [ofBytes, if_neg (Nat.not_le_of_lt h), Block.ofBytes?, dif_pos hsalt, Block.ofBytes?,
      dif_pos hiv]

theorem ofBase64_toBase64 {k : PrivateKeyBlob} (h : k.ciphertext ≠ []) :
  ofBase64 k.toBase64 = .ok k
  := by
  rw [ofBase64, toBase64, Base64.decode_encode]
  exact ofBytes_toBytes h

/-- A text is read if it is the text of a byte string that is read. -/
theorem ofBase64_eq_ok_iff_isTextOf {text : String} {k : PrivateKeyBlob} :
  ofBase64 text = .ok k ↔ ∃ b, Base64.IsTextOf text b ∧ ofBytes b = .ok k
  := by
  simp only [ofBase64, Except.bind_eq_ok_iff, Except.mapError_eq_ok_iff, Base64.decode_eq_ok_iff]

/-- A text that is read is the one in which its parts are written. -/
theorem toBase64_of_ofBase64 {text : String} {k : PrivateKeyBlob} (h : ofBase64 text = .ok k) :
  k.toBase64 = text
  := by
  obtain ⟨b, htext, hb⟩ := ofBase64_eq_ok_iff_isTextOf.1 h
  rw [toBase64, toBytes_of_ofBytes hb]
  exact Base64.isTextOf_iff.1 htext

theorem toBase64_inj {salt salt' : Salt} {iv iv' : Gcm.Iv}
    {ciphertext ciphertext' : Bytes}
    (h : toBase64 ⟨salt, iv, ciphertext⟩ = toBase64 ⟨salt', iv', ciphertext'⟩) :
  salt = salt' ∧ iv = iv' ∧ ciphertext = ciphertext'
  := by
  have hbytes := Base64.encode_inj.1 h
  rw [toBytes, toBytes, List.append_assoc, List.append_assoc] at hbytes
  obtain ⟨hsalt, hbytes⟩ := List.append_inj hbytes (salt.length_bytes.trans salt'.length_bytes.symm)
  obtain ⟨hiv, hciphertext⟩ := List.append_inj hbytes (iv.length_bytes.trans iv'.length_bytes.symm)
  exact ⟨Block.ext hsalt, Block.ext hiv, hciphertext⟩

end PrivateKeyBlob

/-- A byte string is read as a sealed value if it has at least 28 bytes, and as a sealed private key if
it has more.  What is read has just the bytes that were read, and bytes that were written are read as
what they are, a sealed private key if it has a ciphertext.  A text is read as a sealed private key if
it is the canonical text of more than 28 bytes; it is the text in which the key is written again, so
that no other text is read as the same key. -/
theorem blobs_are_read_as_they_are_written :
  (∀ b : Bytes, (∃ s, Sealed.ofBytes b = .ok s) ↔ 28 ≤ b.length) ∧
  (∀ b : Bytes, (∃ k, PrivateKeyBlob.ofBytes b = .ok k) ↔ 28 < b.length) ∧
  (∀ (b : Bytes) (s : Sealed), Sealed.ofBytes b = .ok s → s.toBytes = b) ∧
  (∀ (b : Bytes) (k : PrivateKeyBlob), PrivateKeyBlob.ofBytes b = .ok k → k.toBytes = b) ∧
  (∀ s : Sealed, Sealed.ofBytes s.toBytes = .ok s) ∧
  (∀ k : PrivateKeyBlob, k.ciphertext ≠ [] → PrivateKeyBlob.ofBytes k.toBytes = .ok k) ∧
  (∀ text : String, (∃ k, PrivateKeyBlob.ofBase64 text = .ok k) ↔
    ∃ b : Bytes, 28 < b.length ∧ Base64.IsTextOf text b) ∧
  (∀ (text : String) (k : PrivateKeyBlob), PrivateKeyBlob.ofBase64 text = .ok k →
    Base64.IsTextOf text k.toBytes ∧ k.toBase64 = text) ∧
  (∀ (text text' : String) (k : PrivateKeyBlob), PrivateKeyBlob.ofBase64 text = .ok k →
    PrivateKeyBlob.ofBase64 text' = .ok k → text = text')
  := by
  refine ⟨?_, fun b => PrivateKeyBlob.exists_ofBytes_eq_ok_iff, fun b s => Sealed.toBytes_of_ofBytes,
    fun b k => PrivateKeyBlob.toBytes_of_ofBytes, Sealed.ofBytes_toBytes,
    fun k => PrivateKeyBlob.ofBytes_toBytes, ?_, ?_, ?_⟩
  · intro b
    simp only [Sealed.ofBytes_eq_ok_iff, Sealed.exists_toBytes_iff]
  · intro text
    constructor
    · rintro ⟨k, hk⟩
      obtain ⟨b, htext, hb⟩ := PrivateKeyBlob.ofBase64_eq_ok_iff_isTextOf.1 hk
      exact ⟨b, PrivateKeyBlob.exists_ofBytes_eq_ok_iff.1 ⟨k, hb⟩, htext⟩
    · rintro ⟨b, hlong, htext⟩
      obtain ⟨k, hb⟩ := PrivateKeyBlob.exists_ofBytes_eq_ok_iff.2 hlong
      exact ⟨k, PrivateKeyBlob.ofBase64_eq_ok_iff_isTextOf.2 ⟨b, htext, hb⟩⟩
  · intro text k hk
    have htext := PrivateKeyBlob.toBase64_of_ofBase64 hk
    exact ⟨Base64.isTextOf_iff.2 htext, htext⟩
  · intro text text' k hk hk'
    rw [← PrivateKeyBlob.toBase64_of_ofBase64 hk, PrivateKeyBlob.toBase64_of_ofBase64 hk']

/-- A sealed value may have 28 bytes, a sealed private key may not.  The text of 29 bytes is read and
written again; a text with another bit behind the last byte is not read as the same key. -/
theorem blobs_are_read_as_they_are_written_zero :
  let k : PrivateKeyBlob := ⟨.zero 16, .zero 12, [1]⟩
  let text := "AAAAAAAAAAAAAAAAAAAAAAAAAAAAAAAAAAAAAAE="
  (∃ s, Sealed.ofBytes (List.replicate 28 0) = .ok s ∧ s.toBytes = List.replicate 28 0) ∧
  (¬∃ k, PrivateKeyBlob.ofBytes (List.replicate 28 0) = .ok k) ∧
  PrivateKeyBlob.ofBytes k.toBytes = .ok k ∧
  PrivateKeyBlob.ofBase64 text = .ok k ∧
  k.toBase64 = text ∧
  PrivateKeyBlob.ofBase64 "AAAAAAAAAAAAAAAAAAAAAAAAAAAAAAAAAAAAAAF=" ≠ .ok k
  := by
  intro k text
  obtain ⟨hsealed, hkey, hbytes, -, -, hwritten, -, htext, hone⟩ := blobs_are_read_as_they_are_written
  have hread : PrivateKeyBlob.ofBase64 text = .ok k := by decide +kernel
  obtain ⟨s, hs⟩ := (hsealed (List.replicate 28 0)).2 (by decide)
  refine ⟨⟨s, hs, hbytes _ s hs⟩, ?_, hwritten k (by decide), hread, (htext text k hread).2, ?_⟩
  · intro h
    exact absurd ((hkey _).1 h) (by decide)
  · intro h
    exact absurd (hone _ _ k hread h) (by decide)

end Keyring

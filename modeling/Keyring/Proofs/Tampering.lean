import Keyring.Proofs.Cipher.Numbers
import Keyring.Proofs.Cipher.Tag
import Keyring.Proofs.Sealed

/-!
# Changed values do not open

The bytes of a sealed value are cut up by their number alone, so a change that keeps the number is a
change of one of the parts.  The tag of the changed value is then no longer the tag that stands in it.
-/

namespace List

/-- What is modified in the first of two lists stays in it. -/
theorem modify_append_left {α : Type} {f : α → α} {i : Nat} {xs : List α} (hi : i < xs.length)
    (ys : List α) :
  (xs ++ ys).modify i f = xs.modify i f ++ ys
  := by
  have hi' : i < (xs ++ ys).length := by
    rw [List.length_append]
    omega
  rw [List.modify_eq_take_cons_drop hi, List.modify_eq_take_cons_drop hi',
    List.take_append_of_le_length (Nat.le_of_lt hi), List.drop_append_of_le_length hi,
    List.getElem_append_left hi, List.append_assoc, List.cons_append]

end List

namespace Keyring

/-! ### Changed bytes -/

/-- A flipped bit of two byte strings in a row is one of the first or one of the second. -/
theorem Bytes.flipBit_append (i : Nat) (a b : Bytes) :
  flipBit i (a ++ b) = if i < 8 * a.length then flipBit i a ++ b else a ++ flipBit (i - 8 * a.length) b
  := by
  split
  · exact List.modify_append_left (by omega) b
  · have hbyte : i / 8 = a.length + (i - 8 * a.length) / 8 := by omega
    have hbit : i % 8 = (i - 8 * a.length) % 8 := by omega
    rw [flipBit, hbyte, hbit]
    apply List.modifyTailIdx_add

/-- A block with one bit changed. -/
def Block.flipBit {n : Nat} (i : Nat) (k : Block n) : Block n :=
  ⟨Bytes.flipBit i k.bytes, by rw [Bytes.length_flipBit, k.length_bytes]⟩

theorem Block.flipBit_ne {n i : Nat} (hi : i < 8 * n) (k : Block n) :
  k.flipBit i ≠ k
  := by
  intro h
  rw [← k.length_bytes] at hi
  exact (Bytes.differOnce_flipBit hi).ne (congrArg Block.bytes h)

namespace Sealed

/-- The plaintext of a sealed value that comes as one byte string. -/
def plaintextOfBytes (b : Bytes) (key : Key) (associated : Bytes) : Except CryptoError Bytes := do
  let s ← ofBytes b
  s.plaintext key associated

/-- A value with a wrong tag does not open. -/
theorem plaintextOfBytes_eq_error {s : Sealed} {key : Key} {associated : Bytes}
    (h : Gcm.tag (Aes256.expand key) s.iv associated s.ciphertext ≠ s.tag) :
  plaintextOfBytes s.toBytes key associated = .error .decryption
  := by
  rw [plaintextOfBytes, ofBytes_toBytes, Except.ok_bind, plaintext, Gcm.decrypt?, if_neg h]

/-- A flipped bit is one of the initialisation vector, of the ciphertext or of the tag. -/
theorem flipBit_toBytes (i : Nat) (s : Sealed) :
  Bytes.flipBit i s.toBytes =
    if i < 96 then toBytes { s with iv := s.iv.flipBit i }
    else if i < 96 + 8 * s.ciphertext.length then
      toBytes { s with ciphertext := Bytes.flipBit (i - 96) s.ciphertext }
    else toBytes { s with tag := s.tag.flipBit (i - 96 - 8 * s.ciphertext.length) }
  := by
  rw [toBytes, List.append_assoc, Bytes.flipBit_append, Bytes.flipBit_append, s.iv.length_bytes]
  split
  · rw [toBytes, List.append_assoc]
    rfl
  · by_cases hi : i < 96 + 8 * s.ciphertext.length
    · rw [if_pos hi, if_pos (by omega), toBytes, List.append_assoc]
    · rw [if_neg hi, if_neg (by omega), toBytes, List.append_assoc]
      rfl

/-! ### Detection -/

variable (key : Key) (iv : Gcm.Iv) (associated text : Bytes)

/-- Another initialisation vector is detected under every key. -/
theorem plaintextOfBytes_of_iv_ne {iv' : Gcm.Iv} (h : iv' ≠ iv) :
  plaintextOfBytes (toBytes { ofPlaintext key iv associated text with iv := iv' }) key associated =
    .error .decryption
  := plaintextOfBytes_eq_error (Gcm.tag_ne_of_iv_ne h)

/-- So is another tag. -/
theorem plaintextOfBytes_of_tag_ne {tag' : Gcm.Tag} (h : tag' ≠ (ofPlaintext key iv associated text).tag) :
  plaintextOfBytes (toBytes { ofPlaintext key iv associated text with tag := tag' }) key associated =
    .error .decryption
  := plaintextOfBytes_eq_error h.symm

variable {key}

/-- A ciphertext with one changed byte is detected while the hash key is not zero. -/
theorem plaintextOfBytes_of_differOnce_ciphertext (hkey : Gcm.hashKey (Aes256.expand key) ≠ 0)
    {ciphertext' : Bytes} (h : DifferOnce ciphertext' (ofPlaintext key iv associated text).ciphertext) :
  plaintextOfBytes (toBytes { ofPlaintext key iv associated text with ciphertext := ciphertext' }) key
    associated = .error .decryption
  := plaintextOfBytes_eq_error (Gcm.tag_ne_of_differOnce hkey (Ghash.differOnce_message_ciphertext h))

/-- So are associated data with one changed byte. -/
theorem plaintextOfBytes_of_differOnce_associated (hkey : Gcm.hashKey (Aes256.expand key) ≠ 0)
    {associated' : Bytes} (h : DifferOnce associated' associated) :
  plaintextOfBytes (ofPlaintext key iv associated text).toBytes key associated' = .error .decryption
  := plaintextOfBytes_eq_error (Gcm.tag_ne_of_differOnce hkey (Ghash.differOnce_message_associated h))

/-- So is every flipped bit of the byte string. -/
theorem plaintextOfBytes_flipBit (hkey : Gcm.hashKey (Aes256.expand key) ≠ 0) {i : Nat}
    (hi : i < 8 * (ofPlaintext key iv associated text).toBytes.length) :
  plaintextOfBytes (Bytes.flipBit i (ofPlaintext key iv associated text).toBytes) key associated =
    .error .decryption
  := by
  have hiv := (ofPlaintext key iv associated text).iv.length_bytes
  have htag := (ofPlaintext key iv associated text).tag.length_bytes
  rw [toBytes, List.length_append, List.length_append] at hi
  rw [flipBit_toBytes]
  split
  · exact plaintextOfBytes_of_iv_ne key iv associated text (Block.flipBit_ne (by omega) _)
  split
  · apply plaintextOfBytes_of_differOnce_ciphertext iv associated text hkey
    apply Bytes.differOnce_flipBit
    omega
  · exact plaintextOfBytes_of_tag_ne key iv associated text (Block.flipBit_ne (by omega) _)

end Sealed

/-- Whatever is sealed, with whatever random bytes: under a key whose hash key is not zero, no single
bit of the sealed bytes or of the associated data can be flipped unnoticed; and under every key, neither
the initialisation vector nor the tag can be replaced. -/
theorem tampering_is_detected (key : Key) (text associated : Bytes) (random : RandomSource) :
  let s := ((Sealed.encrypt key text associated).run random).1
  (∀ iv : Gcm.Iv, iv ≠ s.iv →
    Sealed.plaintextOfBytes (Sealed.toBytes { s with iv := iv }) key associated =
      .error .decryption) ∧
  (∀ tag : Gcm.Tag, tag ≠ s.tag →
    Sealed.plaintextOfBytes (Sealed.toBytes { s with tag := tag }) key associated =
      .error .decryption) ∧
  (Gcm.hashKey (Aes256.expand key) ≠ 0 →
    (∀ i < 8 * s.toBytes.length,
      Sealed.plaintextOfBytes (Bytes.flipBit i s.toBytes) key associated = .error .decryption) ∧
    ∀ i < 8 * associated.length,
      Sealed.plaintextOfBytes s.toBytes key (Bytes.flipBit i associated) = .error .decryption)
  := by
  intro s
  have hs : s = .ofPlaintext key (random.next 12) associated text := rfl
  rw [hs]
  refine ⟨?_, ?_, ?_⟩
  · intro iv hiv
    exact Sealed.plaintextOfBytes_of_iv_ne key _ associated text hiv
  · intro tag htag
    exact Sealed.plaintextOfBytes_of_tag_ne key _ associated text htag
  · intro hkey
    constructor
    · intro i hi
      exact Sealed.plaintextOfBytes_flipBit _ associated text hkey hi
    · intro i hi
      exact Sealed.plaintextOfBytes_of_differOnce_associated _ associated text hkey
        (Bytes.differOnce_flipBit hi)

/-- The hash key of the key of zeroes is not zero, so its sealed values are protected. -/
theorem tampering_is_detected_zero :
  Gcm.hashKey (Aes256.expand (.zero 32)) ≠ 0 ∧
  ∀ i < 8 * ((Sealed.encrypt (.zero 32) [7] []).run (.ofBlocks fun n _ => .zero n)).1.toBytes.length,
    Sealed.plaintextOfBytes
      (Bytes.flipBit i ((Sealed.encrypt (.zero 32) [7] []).run (.ofBlocks fun n _ => .zero n)).1.toBytes)
      (.zero 32) [] = .error .decryption
  := by
  have hkey := Gcm.hashKey_expand_zero_ne
  exact ⟨hkey, ((tampering_is_detected (.zero 32) [7] [] (.ofBlocks fun n _ => .zero n)).2.2 hkey).1⟩

end Keyring

import Keyring.Proofs.Checks
import Keyring.Sealed

/-!
# Opening what was sealed

Enciphering twice gives the text back, and the tag depends on key, initialisation vector,
associated data and ciphertext alone.  What was sealed therefore opens under the same key and with
the same associated data, in whatever form its parts were kept.
-/

namespace Keyring

theorem Bytes.xor_xor {a b : Bytes} (h : a.length ≤ b.length) :
  xor (xor a b) b = a
  := by
  induction a generalizing b with
  | nil => rfl
  | cons x a ih =>
    cases b with
    | nil => cases h
    | cons y b =>
      have hx : x ^^^ y ^^^ y = x := by rw [UInt8.xor_assoc, UInt8.xor_self, UInt8.xor_zero]
      have ha := ih (Nat.le_of_succ_le_succ h)
      rw [xor] at ha
      rw [xor, xor, List.zipWith_cons_cons, List.zipWith_cons_cons, hx]
      exact congrArg (x :: ·) ha

namespace Gcm

/-- Enciphering twice gives the text back. -/
theorem crypt_crypt (keys : List Aes256.State) (iv : Iv) (text : Bytes) :
  crypt keys iv (crypt keys iv text) = text
  := by
  rw [crypt, length_crypt, crypt]
  apply Bytes.xor_xor
  rw [length_keystream]
  omega

theorem decrypt?_encrypt (key : Key) (iv : Iv) (associated plaintext : Bytes) :
  decrypt? key iv associated (encrypt key iv associated plaintext).1
    (encrypt key iv associated plaintext).2 = some plaintext
  := by
  rw [decrypt?, encrypt, if_pos rfl, crypt_crypt]

/-- If two keys encipher a text in the same way, their keystreams begin with the same byte. -/
theorem head?_keystream_eq_of_crypt_eq {keys keys' : List Aes256.State} {iv : Iv} {text : Bytes}
    (h : crypt keys iv text = crypt keys' iv text) (ht : text ≠ []) :
  (keystream keys iv ((text.length + 15) / 16) 2).head? =
    (keystream keys' iv ((text.length + 15) / 16) 2).head?
  := by
  obtain ⟨t, rest, rfl⟩ := List.exists_cons_of_ne_nil ht
  have hlength := length_keystream keys iv (((t :: rest).length + 15) / 16) 2
  have hlength' := length_keystream keys' iv (((t :: rest).length + 15) / 16) 2
  rw [crypt, crypt] at h
  rcases hs : keystream keys iv (((t :: rest).length + 15) / 16) 2 with _ | ⟨a, as⟩
  · rw [hs, List.length_nil, List.length_cons] at hlength
    omega
  rcases hs' : keystream keys' iv (((t :: rest).length + 15) / 16) 2 with _ | ⟨b, bs⟩
  · rw [hs', List.length_nil, List.length_cons] at hlength'
    omega
  rw [hs, hs', Bytes.xor, Bytes.xor, List.zipWith_cons_cons, List.zipWith_cons_cons,
    List.cons.injEq, UInt8.xor_right_inj] at h
  rw [List.head?_cons, List.head?_cons, h.1]

/-- What is long enough ends with a tag. -/
theorem exists_append_tag {b : Bytes} (h : 16 ≤ b.length) :
  ∃ (ciphertext : Bytes) (tag : Tag), b = ciphertext ++ tag.bytes
  := by
  have hlength : (b.drop (b.length - 16)).length = 16 := by
    rw [List.length_drop]
    omega
  exact ⟨b.take (b.length - 16), ⟨_, hlength⟩, (List.take_append_drop _ _).symm⟩

end Gcm

namespace Sealed

variable {key : Key} {associated : Bytes}

theorem not_length_ciphertext_tag_lt (s : Sealed) :
  ¬(s.ciphertext ++ s.tag.bytes).length < 16
  := by
  rw [List.length_append, s.tag.length_bytes]
  omega

/-- A tag behind the ciphertext is cut off again by its length. -/
theorem take_ciphertext_tag (s : Sealed) :
  (s.ciphertext ++ s.tag.bytes).take ((s.ciphertext ++ s.tag.bytes).length - 16) = s.ciphertext
  := by
  apply List.take_left'
  rw [List.length_append, s.tag.length_bytes]
  omega

theorem drop_ciphertext_tag (s : Sealed) :
  (s.ciphertext ++ s.tag.bytes).drop ((s.ciphertext ++ s.tag.bytes).length - 16) = s.tag.bytes
  := by
  apply List.drop_left'
  rw [List.length_append, s.tag.length_bytes]
  omega

/-- A sealed value is found again in its bytes. -/
@[simp]
theorem ofBytes_toBytes (s : Sealed) :
  ofBytes s.toBytes = .ok s
  := by
  have hiv : (s.iv.bytes ++ (s.ciphertext ++ s.tag.bytes)).take 12 = s.iv.bytes :=
    List.take_left' s.iv.length_bytes
  have hrest : (s.iv.bytes ++ (s.ciphertext ++ s.tag.bytes)).drop 12 = s.ciphertext ++ s.tag.bytes :=
    List.drop_left' s.iv.length_bytes
  simp only [ofBytes, toBytes, List.append_assoc, hiv, hrest, take_ciphertext_tag,
    drop_ciphertext_tag, Block.ofBytes?_bytes]

theorem toBytes_of_ofBytes {b : Bytes} {s : Sealed} (h : ofBytes b = .ok s) :
  s.toBytes = b
  := by
  rw [ofBytes] at h
  split at h
  next iv tag hiv htag =>
    cases h
    rw [toBytes, Block.ofBytes?_eq_some_iff.1 hiv, Block.ofBytes?_eq_some_iff.1 htag,
      List.append_assoc, List.take_append_drop, List.take_append_drop]
  next => cases h

/-- Bytes are read as the sealed value whose bytes they are. -/
theorem ofBytes_eq_ok_iff {b : Bytes} {s : Sealed} :
  ofBytes b = .ok s ↔ s.toBytes = b
  := by
  constructor
  · exact toBytes_of_ofBytes
  · rintro rfl
    exact ofBytes_toBytes s

theorem toBytes_inj {s t : Sealed} :
  s.toBytes = t.toBytes ↔ s = t
  := by
  constructor
  · intro h
    have hparsed := congrArg ofBytes h
    rw [ofBytes_toBytes, ofBytes_toBytes] at hparsed
    exact Except.ok.inj hparsed
  · rintro rfl
    rfl

/-- A sealed value is told by its initialisation vector and by the ciphertext with the tag. -/
theorem ext_of_append {s t : Sealed} (hiv : s.iv.bytes = t.iv.bytes)
    (h : s.ciphertext ++ s.tag.bytes = t.ciphertext ++ t.tag.bytes) :
  s = t
  := by
  apply toBytes_inj.1
  rw [toBytes, toBytes, List.append_assoc, List.append_assoc, hiv, h]

/-- The bytes of sealed values are any bytes from 28 on. -/
theorem exists_toBytes_iff {b : Bytes} :
  (∃ s : Sealed, s.toBytes = b) ↔ 28 ≤ b.length
  := by
  constructor
  · rintro ⟨s, rfl⟩
    simp only [toBytes, List.length_append, s.iv.length_bytes, s.tag.length_bytes]
    omega
  · intro h
    have hiv : (b.take 12).length = 12 := by
      rw [List.length_take]
      omega
    have htag : 16 ≤ (b.drop 12).length := by
      rw [List.length_drop]
      omega
    obtain ⟨ciphertext, tag, hrest⟩ := Gcm.exists_append_tag htag
    use ⟨⟨_, hiv⟩, ciphertext, tag⟩
    rw [toBytes, List.append_assoc, ← hrest, List.take_append_drop]

/-- What was sealed opens. -/
@[simp]
theorem plaintext_ofPlaintext (key : Key) (iv : Gcm.Iv) (associated text : Bytes) :
  (ofPlaintext key iv associated text).plaintext key associated = .ok text
  := by
  simp [plaintext, ofPlaintext, Gcm.decrypt?_encrypt]

/-- A sealed value opens in the same way when its parts come as byte strings. -/
theorem plaintextOfParts_bytes (s : Sealed) (key : Key) (associated : Bytes) :
  plaintextOfParts key s.iv.bytes s.ciphertext s.tag.bytes associated = s.plaintext key associated
  := by
  rw [plaintextOfParts, Block.ofBytes?_bytes, Block.ofBytes?_bytes]

/-- What was sealed opens when its parts come as byte strings. -/
theorem plaintextOfParts_ofPlaintext (key : Key) (iv : Gcm.Iv) (associated text : Bytes) :
  plaintextOfParts key iv.bytes (ofPlaintext key iv associated text).ciphertext
    (ofPlaintext key iv associated text).tag.bytes associated = .ok text
  := by
  rw [← plaintext_ofPlaintext key iv associated text]
  exact plaintextOfParts_bytes (ofPlaintext key iv associated text) key associated

/-- A wrapped key is unwrapped under the key that wrapped it. -/
theorem unwrapKey_ofPlaintext (wrapping key : Key) (iv : Gcm.Iv) (associated : Bytes) :
  unwrapKey wrapping (ofPlaintext wrapping iv associated key.bytes) associated = .ok key
  := by
  rw [unwrapKey, plaintext_ofPlaintext]
  simp [bind, Except.bind, pure, Except.pure]

/-- A sealed value opens to the text that its ciphertext gives under the key, if at all. -/
theorem eq_crypt_of_plaintext_eq_ok {s : Sealed} {text : Bytes}
    (h : s.plaintext key associated = .ok text) :
  text = Gcm.crypt (Aes256.expand key) s.iv s.ciphertext
  := by
  rw [plaintext, Gcm.decrypt?] at h
  split at h
  · rename_i hopened
    split at hopened
    · cases h
      exact (Option.some.inj hopened).symm
    · cases hopened
  · cases h

/-- A wrapped key that is unwrapped under another key is the same one only if both keys encipher it in
the same way. -/
theorem crypt_eq_of_unwrapKey_eq_ok {wrapping wrapping' key : Key} {iv : Gcm.Iv}
    (h : unwrapKey wrapping' (ofPlaintext wrapping iv associated key.bytes) associated = .ok key) :
  Gcm.crypt (Aes256.expand wrapping) iv key.bytes =
    Gcm.crypt (Aes256.expand wrapping') iv key.bytes
  := by
  obtain ⟨text, htext, h⟩ := Except.bind_eq_ok_iff.1 h
  rcases hb : Block.ofBytes? 32 text with _ | key'
  · rw [hb] at h
    cases h
  · rw [hb] at h
    cases h
    rw [← Block.ofBytes?_eq_some_iff.1 hb] at htext
    have hcrypt := eq_crypt_of_plaintext_eq_ok htext
    have htwice := congrArg (Gcm.crypt (Aes256.expand wrapping') iv) hcrypt
    rw [ofPlaintext, Gcm.encrypt, Gcm.crypt_crypt] at htwice
    exact htwice.symm

/-! ### Lengths -/

/-- Parts of a wrong length do not open. -/
theorem plaintextOfParts_of_length_ne {iv tag : Bytes} (h : iv.length ≠ 12 ∨ tag.length ≠ 16)
    (key : Key) (ciphertext associated : Bytes) :
  plaintextOfParts key iv ciphertext tag associated = .error .decryption
  := by
  rw [plaintextOfParts]
  rcases h with h | h
  · rw [Block.ofBytes?, dif_neg h]
  · have htag : Block.ofBytes? 16 tag = none := dif_neg h
    rw [htag]
    -- without a tag nothing opens, whatever the initialisation vector is
    rcases Block.ofBytes? 12 iv with _ | iv
    · rfl
    · rfl

/-- What a wrapped key is unwrapped to is what opens. -/
theorem unwrapKey_eq_ok_iff {wrapping key : Key} {sealed : Sealed} {associated : Bytes} :
  unwrapKey wrapping sealed associated = .ok key ↔
    sealed.plaintext wrapping associated = .ok key.bytes
  := by
  rw [unwrapKey, Except.bind_eq_ok_iff]
  constructor
  · rintro ⟨text, htext, h⟩
    rcases hk : Block.ofBytes? 32 text with _ | k
    · rw [hk] at h
      cases h
    · rw [hk] at h
      cases h
      rw [Block.ofBytes?_eq_some_iff.1 hk]
      exact htext
  · intro h
    use key.bytes, h
    rw [Block.ofBytes?_bytes]
    rfl

/-- A text is unwrapped as the key that it is, if it is as long as a key. -/
theorem unwrapKey_ofPlaintext_text (wrapping : Key) (iv : Gcm.Iv) (associated text : Bytes) :
  unwrapKey wrapping (ofPlaintext wrapping iv associated text) associated =
    if h : text.length = 32 then .ok ⟨text, h⟩ else .error (.invalidKey "Unwrapped key wrong length")
  := by
  split
  · rename_i h
    exact unwrapKey_ofPlaintext wrapping ⟨text, h⟩ iv associated
  · rename_i h
    have hkey : Block.ofBytes? 32 text = none := dif_neg h
    rw [unwrapKey, plaintext_ofPlaintext, Except.ok_bind, hkey]
    rfl

/-- Whatever is sealed, with whatever random bytes, has a ciphertext of the length of the text and is
found again in its bytes.  It opens to the text when its parts come one by one, when they come as one
byte string, and when the tag stands behind the ciphertext.  Unwrapped, it is the text where that is
as long as a key, and is refused where it is not.  Parts of a wrong length never open. -/
theorem encrypt_opens (key : Key) (text associated : Bytes) (random : RandomSource) :
  let s := ((encrypt key text associated).run random).1
  let tagged := s.ciphertext ++ s.tag.bytes
  s.ciphertext.length = text.length ∧
  ofBytes s.toBytes = .ok s ∧
  plaintextOfParts key s.iv.bytes s.ciphertext s.tag.bytes associated = .ok text ∧
  (ofBytes s.toBytes >>= fun parsed => parsed.plaintext key associated) = .ok text ∧
  plaintextOfParts key s.iv.bytes (tagged.take (tagged.length - 16))
    (tagged.drop (tagged.length - 16)) associated = .ok text ∧
  unwrapKey key s associated =
    (if h : text.length = 32 then .ok ⟨text, h⟩
      else .error (.invalidKey "Unwrapped key wrong length")) ∧
  ∀ (other : Key) (iv ciphertext tag data : Bytes), iv.length ≠ 12 ∨ tag.length ≠ 16 →
    plaintextOfParts other iv ciphertext tag data = .error .decryption
  := by
  intro s tagged
  have hs : s = ofPlaintext key (random.next 12) associated text := rfl
  have hparts : plaintextOfParts key s.iv.bytes s.ciphertext s.tag.bytes associated = .ok text := by
    rw [hs]
    exact plaintextOfParts_ofPlaintext key (random.next 12) associated text
  refine ⟨?_, ofBytes_toBytes s, hparts, ?_, ?_, ?_, ?_⟩
  · apply Gcm.length_crypt
  · rw [ofBytes_toBytes, Except.ok_bind, hs, plaintext_ofPlaintext]
  · rw [take_ciphertext_tag, drop_ciphertext_tag, hparts]
  · rw [hs]
    apply unwrapKey_ofPlaintext_text
  · intro other iv ciphertext tag data h
    exact plaintextOfParts_of_length_ne h other ciphertext data

/-- A sealed empty text opens, and its tag without the last byte does not. -/
theorem encrypt_opens_empty :
  let s := ((encrypt (.zero 32) [] [7]).run (.ofBlocks fun n _ => .zero n)).1
  plaintextOfParts (.zero 32) s.iv.bytes s.ciphertext s.tag.bytes [7] = .ok [] ∧
  s.tag.bytes.dropLast.length ≠ 16 ∧
  plaintextOfParts (.zero 32) s.iv.bytes s.ciphertext s.tag.bytes.dropLast [7] = .error .decryption
  := by
  intro s
  have htag : s.tag.bytes.dropLast.length ≠ 16 := by
    rw [List.length_dropLast, s.tag.length_bytes]
    decide
  obtain ⟨-, -, hparts, -, -, -, hlength⟩ :=
    encrypt_opens (.zero 32) [] [7] (.ofBlocks fun n _ => .zero n)
  exact ⟨hparts, htag, hlength _ _ _ _ _ (.inr htag)⟩

end Sealed

end Keyring

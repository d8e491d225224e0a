/-
What was encrypted is decrypted again.

A key stream that is combined with a message twice leaves the message
(`ChaCha20.apply_apply`), so a sealed message with its own tag opens to what was
sealed (`Aead.unsealed?_of_sealed?`). A ciphertext is written with the salt of
its keys, and whoever reads it has both again (`Salted.parse_write`).
-/
import ModelProtection.Crypto.DerivedKeys
import ModelProtection.Proofs.Text.Cutting
import ModelProtection.Proofs.Text.Digits

set_option autoImplicit false

namespace ModelProtection

/-! ## The stream cipher -/

namespace ChaCha20

/-- A stream that is at least as long as the message cancels itself. -/
theorem zipWith_xor_zipWith_xor (message stream : Bytes) (h : message.length ≤ stream.length) :
    (message.zipWith (· ^^^ ·) stream).zipWith (· ^^^ ·) stream = message := by
  induction message generalizing stream with
  | nil => rfl
  | cons b message ih =>
    cases stream with
    | nil => cases h
    | cons s stream =>
      simp only [List.zipWith_cons_cons]
      rw [ih stream (Nat.le_of_succ_le_succ h), UInt8.xor_assoc, UInt8.xor_self, UInt8.xor_zero]

theorem apply_apply (key : Octets 32) (nonce : Octets 12) (counter : Nat) (message : Bytes) :
    apply key nonce counter (apply key nonce counter message) = message := by
  rw [apply, length_apply, apply]
  refine zipWith_xor_zipWith_xor _ _ ?_
  -- enough blocks are generated to cover the message
  rw [length_stream, blockSize]
  omega

end ChaCha20

/-! ## Authenticated encryption -/

namespace Aead

variable {key : Octets 32} {nonce : Octets 12} {message ciphertext : Bytes}

theorem sealed?_eq_some (h : tooLong message.length = false) :
    ∃ ciphertext, sealed? key nonce message = some ciphertext := by
  unfold sealed?
  rw [h]
  exact ⟨_, rfl⟩

theorem length_of_sealed? (h : sealed? key nonce message = some ciphertext) :
    ciphertext.length = message.length + tagSize := by
  unfold sealed? at h
  split at h
  · cases h
  · cases h
    rw [List.length_append, ChaCha20.length_apply, Octets.length_toList, tagSize]

/-- Bytes with their own tag behind them are opened. -/
theorem unsealed?_append_tag {encrypted : Bytes} (h : tooLong encrypted.length = false) :
    unsealed? key nonce (encrypted ++ (tag key nonce encrypted).toList)
      = some (ChaCha20.apply key nonce 1 encrypted) := by
  have hlength : (encrypted ++ (tag key nonce encrypted).toList).length
      = encrypted.length + tagSize := by
    rw [List.length_append, Octets.length_toList, tagSize]
  rw [unsealed?, hlength, if_neg (by omega)]
  simp only [Nat.add_sub_cancel, List.take_left, List.drop_left, if_true, h, Bool.false_eq_true,
    if_false]

theorem unsealed?_of_sealed? (h : sealed? key nonce message = some ciphertext) :
    unsealed? key nonce ciphertext = some message := by
  unfold sealed? at h
  split at h
  · cases h
  · rename_i hshort
    cases h
    -- the cipher keeps the length, so what could be sealed is not too long to be opened
    have hshort' : tooLong (ChaCha20.apply key nonce 1 message).length = false := by
      rw [ChaCha20.length_apply]
      exact Bool.eq_false_iff.2 hshort
    rw [unsealed?_append_tag hshort', ChaCha20.apply_apply]

end Aead

/-! ## Derived keys -/

namespace DerivedKeys

variable {k : DerivedKeys} {message ciphertext : Bytes}

theorem encrypt_eq_ok (h : Aead.tooLong message.length = false) :
    ∃ ciphertext, k.encrypt message = .ok ciphertext := by
  obtain ⟨ciphertext, hsealed⟩ : ∃ ciphertext,
      Aead.sealed? k.cipherKey k.nonce message = some ciphertext := Aead.sealed?_eq_some h
  exact ⟨ciphertext, by rw [encrypt, hsealed]⟩

theorem sealed?_of_encrypt (h : k.encrypt message = .ok ciphertext) :
    Aead.sealed? k.cipherKey k.nonce message = some ciphertext := by
  unfold encrypt at h
  split at h
  · rename_i hsealed
    cases h
    exact hsealed
  · cases h

theorem length_of_encrypt (h : k.encrypt message = .ok ciphertext) :
    ciphertext.length = message.length + Aead.tagSize :=
  Aead.length_of_sealed? (sealed?_of_encrypt h)

end DerivedKeys

/-! ## Written ciphertexts -/

namespace Salted

theorem parse_write (s : Salted) : parse s.write = .ok s := by
  have htake : (s.salt.toList ++ s.body).take DerivedKeys.saltSize = s.salt.toList :=
    List.take_left' s.salt.length_toList
  have hdrop : (s.salt.toList ++ s.body).drop DerivedKeys.saltSize = s.body :=
    List.drop_left' s.salt.length_toList
  rw [parse, write, Base64.encode, String.toList_ofList,
    Space.trim_eq_self (Base64.encodeChars_not_space _), Base64.decode_encodeChars]
  simp only [htake, hdrop, Octets.ofList?_toList]

/-- The length of a written ciphertext: four symbols for three bytes of it and of its salt. -/
theorem byteLength_write (s : Salted) :
    (textBytes s.write).length = 4 * ((s.body.length + 18) / 3) := by
  rw [write, Base64.length_textBytes_encode, List.length_append, s.salt.length_toList,
    DerivedKeys.saltSize]
  omega

/-- A content key that is wrapped takes 88 bytes, with its tag and the salt. -/
theorem byteLength_write_key {keys : DerivedKeys} {key : Octets 32}
    {salt : Octets DerivedKeys.saltSize} {body : Bytes} (h : keys.encrypt key.toList = .ok body) :
    (textBytes (write ⟨salt, body⟩)).length = 88 := by
  rw [byteLength_write, DerivedKeys.length_of_encrypt h, Octets.length_toList, Aead.tagSize]

end Salted

end ModelProtection

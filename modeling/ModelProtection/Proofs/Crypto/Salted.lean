/-
What is decrypted was encrypted.

`Cipher` says that a sealed message opens to what was sealed. Here is the other
direction: whatever opens is the sealed form of what it opens to, since the tag
is recomputed and the cipher undoes itself. So opening and sealing are one
relation (`Aead.unsealed?_eq_some_iff`), and the same holds one level up for
derived keys and for written texts.

Which keys are derived is said by HKDF alone (`DerivedKeys.OfHkdf`): they are the
bytes that it gives for the key, the salt and the label, cut in three. The keys
that the library expands are these (`DerivedKeys.ofHkdf_iff`).

`Salted.Carries` names the relation between a text and the message it carries.
It is said with these keys and the writer's words only, Base64 of the salt and of
the sealed message, so it does not depend on what the reader happens to accept.
That the reader accepts just these texts is `Salted.carries_of_parse` with its
converse.
-/
import ModelProtection.Proofs.Crypto.Cipher
import ModelProtection.Proofs.Text.Canonical

set_option autoImplicit false

namespace ModelProtection

/-! ## Authenticated encryption -/

namespace Aead

variable {key : Octets 32} {nonce : Octets 12} {message ciphertext : Bytes}

theorem sealed?_of_unsealed? (h : unsealed? key nonce ciphertext = some message) :
    sealed? key nonce message = some ciphertext := by
  unfold unsealed? at h
  by_cases hshort : ciphertext.length < tagSize
  · rw [if_pos hshort] at h
    cases h
  rw [if_neg hshort] at h
  dsimp only at h
  split at h
  · cases h
  · rename_i hlong
    split at h
    · rename_i htag
      cases h
      have hlength : (ciphertext.take (ciphertext.length - tagSize)).length
          = ciphertext.length - tagSize := List.length_take_of_le (Nat.sub_le _ _)
      unfold sealed?
      -- encrypting once more gives the bytes under the tag back, and the tag is over those
      rw [ChaCha20.length_apply, hlength, if_neg hlong, ChaCha20.apply_apply]
      dsimp only
      rw [htag, List.take_append_drop]
    · cases h

theorem unsealed?_eq_some_iff :
    unsealed? key nonce ciphertext = some message ↔ sealed? key nonce message = some ciphertext :=
  ⟨sealed?_of_unsealed?, unsealed?_of_sealed?⟩

theorem sealed?_eq_none_iff : sealed? key nonce message = none ↔ tooLong message.length = true := by
  unfold sealed?
  by_cases h : tooLong message.length = true
  · simp [h]
  · simp [h]

end Aead

/-! ## Derived keys -/

namespace DerivedKeys

variable {k k' : DerivedKeys} {message ciphertext : Bytes} {key : Octets 32} {salt : Octets saltSize}
  {use : KeyUse}

/-- Keys are derived from a key and a salt for a use: one after the other, the key that encrypts, its
nonce and the key that authenticates are the bytes that HKDF gives for the salt, the key and the label
of the use. -/
def OfHkdf (k : DerivedKeys) (key : Octets 32) (salt : Octets saltSize) (use : KeyUse) : Prop :=
  k.cipherKey.toList ++ k.nonce.toList ++ k.macKey.toList
    = (Hkdf.derive 76 salt.toList key.toList (textBytes use.label)).toList

theorem OfHkdf.unique (h : k.OfHkdf key salt use) (h' : k'.OfHkdf key salt use) : k = k' := by
  obtain ⟨cipherKey, nonce, macKey⟩ := k
  obtain ⟨cipherKey', nonce', macKey'⟩ := k'
  have heq : (cipherKey.toList ++ nonce.toList) ++ macKey.toList
      = (cipherKey'.toList ++ nonce'.toList) ++ macKey'.toList := h.trans h'.symm
  -- the three have their lengths by their types
  obtain ⟨hfirst, hmac⟩ := List.append_inj' heq (macKey.length_eq.trans macKey'.length_eq.symm)
  obtain ⟨hcipher, hnonce⟩ := List.append_inj' hfirst (nonce.length_eq.trans nonce'.length_eq.symm)
  rw [Octets.ext_toList hcipher, Octets.ext_toList hnonce, Octets.ext_toList hmac]

theorem ofHkdf_expand (key : Octets 32) (salt : Octets saltSize) (use : KeyUse) :
    (expand key salt use).OfHkdf key salt use := by
  let expanded : Octets 76 := Hkdf.derive 76 salt.toList key.toList (textBytes use.label)
  show (expanded.toList.drop 0).take 32 ++ (expanded.toList.drop 32).take 12
    ++ (expanded.toList.drop 44).take 32 = expanded.toList
  have hlength : (expanded.toList.drop 44).length = 32 := by
    rw [List.length_drop, expanded.length_eq]
  have hlast : (expanded.toList.drop 44).take 32 = (expanded.toList.drop 32).drop 12 := by
    rw [List.drop_drop, List.take_of_length_le (Nat.le_of_eq hlength)]
  rw [hlast, List.append_assoc, List.take_append_drop, List.drop_zero, List.take_append_drop]

/-- The keys that are expanded are those of HKDF. -/
theorem ofHkdf_iff : k.OfHkdf key salt use ↔ k = expand key salt use := by
  constructor
  · intro h
    exact h.unique (ofHkdf_expand key salt use)
  · rintro rfl
    exact ofHkdf_expand key salt use

theorem encrypt_eq_ok_iff :
    k.encrypt message = .ok ciphertext
      ↔ Aead.sealed? k.cipherKey k.nonce message = some ciphertext := by
  constructor
  · exact sealed?_of_encrypt
  · intro h
    rw [encrypt, h]

theorem decrypt_eq_ok_iff :
    k.decrypt ciphertext = .ok message ↔ k.encrypt message = .ok ciphertext := by
  rw [encrypt_eq_ok_iff, ← Aead.unsealed?_eq_some_iff]
  unfold decrypt
  cases Aead.unsealed? k.cipherKey k.nonce ciphertext with
  | none => exact ⟨nofun, nofun⟩
  | some opened => simp

end DerivedKeys

/-! ## Written ciphertexts -/

namespace Salted

variable {text : String} {key : Octets 32} {use : KeyUse} {salt : Octets DerivedKeys.saltSize}
  {message : Bytes}

/-- What is written is read, with white space around it or without, and nothing else is. -/
theorem parse_eq_ok_iff {s : Salted} :
    parse text = .ok s ↔ Space.trim text.toList = Base64.encodeChars (s.salt.toList ++ s.body) := by
  constructor
  · intro h
    unfold parse at h
    cases hbytes : Base64.decode (Utf8.encode (Space.trim text.toList)) with
    | error e =>
      rw [hbytes] at h
      cases h
    | ok bytes =>
      rw [hbytes] at h
      dsimp only at h
      split at h
      · rename_i salt hsalt
        cases h
        rw [Octets.ofList?_eq_some_iff.1 hsalt, List.take_append_drop]
        exact Base64.decode_eq_ok_iff.1 hbytes
      · cases h
  · intro h
    -- to the reader the text is the same as the one without white space
    have hwrite := parse_write s
    unfold parse at hwrite ⊢
    rw [write, Base64.encode, String.toList_ofList,
      Space.trim_eq_self (Base64.encodeChars_not_space _), ← h] at hwrite
    exact hwrite

/-- A text carries a message under the keys of a salt: but for white space around it, it is Base64 of
the salt and of the message as it is sealed under the keys. -/
def Carries (key : Octets 32) (use : KeyUse) (salt : Octets DerivedKeys.saltSize) (message : Bytes)
    (text : String) : Prop :=
  ∃ (keys : DerivedKeys) (body : Bytes), keys.OfHkdf key salt use
    ∧ Aead.sealed? keys.cipherKey keys.nonce message = some body
    ∧ Space.trim text.toList = Base64.encodeChars (salt.toList ++ body)

theorem carries_iff :
    Carries key use salt message text
      ↔ ∃ body, (DerivedKeys.expand key salt use).encrypt message = .ok body
        ∧ Space.trim text.toList = Base64.encodeChars (salt.toList ++ body) := by
  constructor
  · rintro ⟨keys, body, hkeys, hbody, htext⟩
    obtain rfl := DerivedKeys.ofHkdf_iff.1 hkeys
    exact ⟨body, DerivedKeys.encrypt_eq_ok_iff.2 hbody, htext⟩
  · rintro ⟨body, hbody, htext⟩
    exact ⟨_, body, DerivedKeys.ofHkdf_expand key salt use, DerivedKeys.encrypt_eq_ok_iff.1 hbody,
      htext⟩

/-- A text that was written carries what was encrypted, whatever white space is put around it. -/
theorem carries_surrounded {body : Bytes} {before after : List Char}
    (hbefore : ∀ c ∈ before, Space.isSpace c = true) (hafter : ∀ c ∈ after, Space.isSpace c = true)
    (hbody : (DerivedKeys.expand key salt use).encrypt message = .ok body) :
    Carries key use salt message
      (String.ofList (before ++ (write ⟨salt, body⟩).toList ++ after)) := by
  refine carries_iff.2 ⟨body, hbody, ?_⟩
  rw [String.toList_ofList, write, Base64.encode, String.toList_ofList]
  exact Space.trim_surrounded hbefore hafter (Base64.encodeChars_not_space _)

theorem carries_write {body : Bytes}
    (hbody : (DerivedKeys.expand key salt use).encrypt message = .ok body) :
    Carries key use salt message (write ⟨salt, body⟩) :=
  carries_iff.2 ⟨body, hbody, parse_eq_ok_iff.1 (parse_write _)⟩

/-- A text has the salt under whose keys it carries a message. -/
theorem Carries.exists_parse (h : Carries key use salt message text) :
    ∃ body, parse text = .ok ⟨salt, body⟩
      ∧ (DerivedKeys.expand key salt use).decrypt body = .ok message := by
  obtain ⟨body, hbody, htext⟩ := carries_iff.1 h
  exact ⟨body, parse_eq_ok_iff.2 htext, DerivedKeys.decrypt_eq_ok_iff.2 hbody⟩

/-- What a reader opens a text to is what the text carries. -/
theorem carries_of_parse {body : Bytes} (hparse : parse text = .ok ⟨salt, body⟩)
    (h : (DerivedKeys.expand key salt use).decrypt body = .ok message) :
    Carries key use salt message text :=
  carries_iff.2 ⟨body, DerivedKeys.decrypt_eq_ok_iff.1 h, parse_eq_ok_iff.1 hparse⟩

/-- A text carries nothing under another salt than its own. -/
theorem Carries.salt_eq {salt' : Octets DerivedKeys.saltSize} {body : Bytes}
    (h : Carries key use salt message text) (hparse : parse text = .ok ⟨salt', body⟩) :
    salt = salt' := by
  obtain ⟨body', hparse', -⟩ := h.exists_parse
  rw [hparse'] at hparse
  exact congrArg Salted.salt (Except.ok.inj hparse)

/-- There is one text for a message and a salt, up to white space around it, unless the message is too
long for the cipher; then there is none. -/
theorem exists_written (key : Octets 32) (use : KeyUse) (salt : Octets DerivedKeys.saltSize)
    (message : Bytes) :
    ∃ written : Option (List Char), (written = none ↔ Aead.tooLong message.length = true)
      ∧ ∀ text, Carries key use salt message text ↔ written = some (Space.trim text.toList) := by
  let keys := DerivedKeys.expand key salt use
  refine ⟨(Aead.sealed? keys.cipherKey keys.nonce message).map fun body =>
    Base64.encodeChars (salt.toList ++ body), ?_, ?_⟩
  · rw [Option.map_eq_none_iff, Aead.sealed?_eq_none_iff]
  · intro text
    rw [Option.map_eq_some_iff, carries_iff]
    exact exists_congr fun body => and_congr DerivedKeys.encrypt_eq_ok_iff eq_comm

end Salted

end ModelProtection

/-
Texts that are never escaped.

Base64, hexadecimal digits and GUIDs are made of characters that stand for
themselves inside a string, so such a text is as long in a document as it is by
itself. Of any other text it is only known that it grows at most six times.
-/
import ModelProtection.Metadata
import ModelProtection.Proofs.Envelope
import ModelProtection.Proofs.Guid
import ModelProtection.Proofs.Json.Size

set_option autoImplicit false

namespace ModelProtection

open Json

theorem escapedLength_le (s : String) : escapedLength s ≤ 6 * byteLength s :=
  length_escape_le s.toList

theorem escapedLength_of_escapeChar {s : String} (h : ∀ c ∈ s.toList, escapeChar c = [c]) :
    escapedLength s = byteLength s := by
  rw [escapedLength, escape_eq_self_of_escapeChar h]
  rfl

theorem escapedLength_of_plain {s : String} (h : ∀ c ∈ s.toList, isPlain c = true) :
    escapedLength s = byteLength s :=
  escapedLength_of_escapeChar fun c hc => escapeChar_eq_self (h c hc)

/-- A text of one character over and over. -/
theorem escapedLength_replicate (n : Nat) (c : Char) :
    escapedLength (String.ofList (List.replicate n c)) = n * (Utf8.encode (escapeChar c)).length := by
  rw [escapedLength, String.toList_ofList]
  induction n with
  | zero => rw [Nat.zero_mul]; rfl
  | succ n ih =>
    rw [List.replicate_succ, escape, List.flatMap_cons, ← escape, Utf8.encode_append,
      List.length_append, ih, Nat.succ_mul, Nat.add_comm]

theorem byteLength_replicate (n : Nat) {c : Char} (h : c.val.toNat < 0x80) :
    byteLength (String.ofList (List.replicate n c)) = n := by
  have hone : c.utf8Size = 1 :=
    Char.utf8Size_eq_one_iff.2 (UInt32.le_iff_toNat_le.2 (Nat.le_of_lt_succ h))
  rw [byteLength, textBytes_ofList, Utf8.length_encode_replicate, hone, Nat.mul_one]

/-! ## Digits -/

theorem isPlain_symbol : ∀ n < 64, isPlain (Base64.symbol n) = true := by decide

/-- Base64 is never escaped. -/
theorem escapedLength_base64 (l : Bytes) :
    escapedLength (Base64.encode l) = byteLength (Base64.encode l) := by
  refine escapedLength_of_plain fun c hc => ?_
  rw [Base64.encode, String.toList_ofList] at hc
  rcases Base64.mem_encodeChars hc with ⟨n, hn, rfl⟩ | rfl
  · exact isPlain_symbol n hn
  · decide

theorem isPlain_of_isDigit {c : Char} (h : Hex.isDigit c = true) : isPlain c = true := by
  have hquote : c ≠ '"' := by
    rintro rfl
    revert h
    decide
  have hslash : c ≠ '\\' := by
    rintro rfl
    revert h
    decide
  have hcode : 32 ≤ c.toNat := by
    have hrange := (Hex.digit_range h).1
    have : c.toNat = c.val.toNat := rfl
    omega
  simp only [isPlain, hquote, hslash, hcode, ne_eq, not_false_eq_true, decide_true, Bool.and_self]

/-- A digest is never escaped. -/
theorem escapedLength_hex (l : Bytes) : escapedLength (Hex.encode l) = 2 * l.length := by
  rw [escapedLength_of_plain fun c hc => ?_, byteLength, Hex.length_textBytes_encode]
  rw [Hex.encode, String.toList_ofList] at hc
  exact isPlain_of_isDigit (List.all_eq_true.1 (Hex.all_isDigit_encodeChars l) c hc)

/-! ## GUIDs -/

/-- The text of a GUID, and any text that is read as one, is never escaped. -/
theorem isPlain_of_wellFormed {l : List Char} {i : Nat} (h : Guid.wellFormed i l = true) :
    ∀ c ∈ l, isPlain c = true := by
  intro c hc
  rcases Guid.mem_of_wellFormed h c hc with rfl | hdigit
  · decide
  · exact isPlain_of_isDigit hdigit

theorem escapedLength_of_parse {s : String} {g : Guid} (h : Guid.parse s = .ok g) :
    escapedLength s = Guid.textLength ∧ byteLength s = Guid.textLength := by
  obtain ⟨hlength, hform⟩ := Guid.grammatical_iff.1 (Guid.grammatical_of_parse h)
  rw [escapedLength_of_plain (isPlain_of_wellFormed hform)]
  exact ⟨hlength, hlength⟩

theorem escapedLength_canonical (g : Guid) : escapedLength g.canonical = Guid.textLength :=
  (escapedLength_of_parse (Guid.parse_canonical g)).1

end ModelProtection

/-
The written form of a certificate.

A certificate is found again in every text in whose armour its symbols stand. The
reader throws all white space away before it looks at a symbol, so how the
symbols are spread over lines is free, and so is what surrounds the armour. The
writer makes one choice among these: full lines, and what is left over on a last
line (`lines_wrapped`).

Because the certificate that is read is the one that was written, down to the
nanoseconds of its two instants, the text of its body is the one that was signed.
-/
import ModelProtection.Proofs.Certificate

set_option autoImplicit false

namespace ModelProtection

namespace Certificate

/-! ## Lines -/

/-- The lines of a text that is put on lines: full ones, and a last one that is not empty. -/
structure Rows (text : List Char) (rows : List (List Char)) : Prop where
  flatten_eq : rows.flatten = text
  full : ∀ row ∈ rows.dropLast, row.length = columns
  last : ∃ row, rows.getLast? = some row ∧ 1 ≤ row.length ∧ row.length ≤ columns

theorem Rows.singleton {row : List Char} (hne : row ≠ []) (hlength : row.length ≤ columns) :
    Rows row [row] where
  flatten_eq := List.append_nil row
  full := nofun
  last := ⟨row, rfl, List.length_pos_iff.2 hne, hlength⟩

theorem Rows.cons {row text : List Char} {rows : List (List Char)} (h : Rows text rows)
    (hrow : row.length = columns) : Rows (row ++ text) (row :: rows) := by
  obtain ⟨last, hlast, hlength⟩ := h.last
  have hne : rows ≠ [] := by
    rintro rfl
    cases hlast
  refine ⟨?_, ?_, last, ?_, hlength⟩
  · rw [List.flatten_cons, h.flatten_eq]
  · rw [List.dropLast_cons_of_ne_nil hne]
    exact List.forall_mem_cons.2 ⟨hrow, h.full⟩
  · rw [List.getLast?_cons, hlast]
    rfl

/-- Each line takes as much as it can, so only what is left over at the end may take less. -/
theorem lines_wrapped {fuel : Nat} {text : List Char} (hfuel : text.length ≤ fuel) (hne : text ≠ [])
    (hplain : '\n' ∉ text) :
    ∃ rows, Rows text rows
      ∧ ∀ rest, lines (wrapped fuel text ++ rest) = rows ++ lines rest := by
  induction fuel generalizing text with
  | zero => exact absurd (List.eq_nil_of_length_eq_zero (Nat.le_zero.1 hfuel)) hne
  | succ fuel ih =>
    obtain ⟨c, l, rfl⟩ := List.exists_cons_of_ne_nil hne
    have htake : '\n' ∉ (c :: l).take columns := fun h => hplain (List.mem_of_mem_take h)
    by_cases hshort : (c :: l).length ≤ columns
    · -- the last line
      refine ⟨[c :: l], Rows.singleton hne hshort, ?_⟩
      intro rest
      rw [List.take_of_length_le hshort] at htake
      have hend : wrapped fuel [] = [] := by cases fuel <;> rfl
      rw [wrapped, List.take_of_length_le hshort, List.drop_of_length_le hshort, hend,
        List.append_assoc]
      exact lines_cons htake rest
    · have hlong : columns < (c :: l).length := Nat.lt_of_not_le hshort
      have hrest : ((c :: l).drop columns).length ≤ fuel := by
        rw [List.length_drop]
        simp only [columns, List.length_cons] at hfuel ⊢
        omega
      have hrestNe : (c :: l).drop columns ≠ [] := by
        rw [← List.length_pos_iff, List.length_drop]
        omega
      have hrow : ((c :: l).take columns).length = columns := by
        rw [List.length_take]
        omega
      obtain ⟨rows, hrows, hlines⟩ := ih hrest hrestNe fun h => hplain (List.mem_of_mem_drop h)
      have hcons := hrows.cons hrow
      rw [List.take_append_drop] at hcons
      refine ⟨_, hcons, ?_⟩
      intro rest
      rw [wrapped, List.append_assoc, List.cons_append, lines_cons htake, hlines, List.cons_append]

theorem symbols_ne_nil (c : Certificate) : c.symbols ≠ [] := by
  intro h
  -- a certificate whose armour is empty would be read from no text at all
  have hdecode := Base64.decode_encodeChars (Utf8.encode c.toJson.compact)
  rw [← symbols, h] at hdecode
  have hempty : Utf8.encode c.toJson.compact = [] := (Except.ok.inj hdecode).symm
  have hlength := length_compact_toJson c
  rw [hempty] at hlength
  exact absurd hlength (by simp)

theorem newline_notMem_symbols (c : Certificate) : '\n' ∉ c.symbols := by
  intro h
  have hspace := Base64.encodeChars_not_space _ _ h
  exact absurd hspace (by decide)

theorem lines_write (c : Certificate) :
    ∃ rows, Rows c.symbols rows ∧ lines c.write.toList = beginLine :: rows ++ [endLine, []] := by
  obtain ⟨rows, hrows, hlines⟩ :=
    lines_wrapped (Nat.le_refl _) (symbols_ne_nil c) (newline_notMem_symbols c)
  refine ⟨rows, hrows, ?_⟩
  rw [write_eq, List.append_assoc, List.append_assoc, List.cons_append, lines_cons (by decide),
    hlines, lines_cons (by decide)]
  rfl

end Certificate

/-- **Certificates survive as text.** A certificate is read from its written form as it was: its
subject and its key whatever characters they have, its two instants to the nanosecond in years of any
sign and in leap seconds, and its signature. The written form has full lines of 64 symbols and the
rest on a last one. The certificate is also read when its symbols are spread in any other way by white
space, and when white space surrounds the armour. So what is signed when a certificate is issued is
what the body of the certificate that is read is checked against. -/
theorem certificate_text_round_trip (c : Certificate) :
    Certificate.parse c.write = .ok c
    ∧ (∃ rows, Certificate.Rows c.symbols rows
        ∧ lines c.write.toList = Certificate.beginLine :: rows ++ [Certificate.endLine, []])
    ∧ (∀ before inside after : List Char, (∀ d ∈ before, Space.isSpace d = true) →
        (∀ d ∈ after, Space.isSpace d = true) → Space.strip inside = c.symbols →
        Certificate.parse (String.ofList
          (before ++ (Certificate.beginLine ++ inside ++ Certificate.endLine) ++ after)) = .ok c)
    ∧ ∀ (seed : Octets 32) (subject : String) (notBefore notAfter : Instant),
        let issued := Certificate.issueBetween seed subject notBefore notAfter
        ∃ read, Certificate.parse issued.write = .ok read
          ∧ read.body.signedBytes = issued.body.signedBytes
          ∧ read.signature = Ed25519.sign seed read.body.signedBytes := by
  refine ⟨Certificate.parse_write c, Certificate.lines_write c, ?_, ?_⟩
  · intro before inside after hbefore hafter hinside
    apply Certificate.parse_of_unwrap?
    rw [String.toList_ofList, Certificate.unwrap?_surrounded hbefore hafter, hinside]
  · intro seed subject notBefore notAfter
    exact ⟨_, Certificate.parse_write _, rfl, rfl⟩

end ModelProtection

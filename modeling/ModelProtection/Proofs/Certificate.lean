/-
A written certificate is read.

The symbols of a certificate stand on lines between two lines of armour. Neither
line and no symbol is white space, so what is cut out and stripped is exactly the
symbols, and what they spell is the compact text of the certificate. Its two
instants are read as the timestamps that they are written as.
-/
import ModelProtection.Certificate
import ModelProtection.Proofs.Json.Records
import ModelProtection.Proofs.Text.Cutting
import ModelProtection.Proofs.Text.Digits
import ModelProtection.Proofs.Time.Timestamp

set_option autoImplicit false

namespace ModelProtection

/-! ## Armour -/

namespace Space

/-- The white space around a text is trimmed and no more, if the text has none at its ends. -/
theorem trim_between {a b : Char} {before after : List Char} (ha : isSpace a = false)
    (hb : isSpace b = false) (hbefore : ∀ c ∈ before, isSpace c = true)
    (hafter : ∀ c ∈ after, isSpace c = true) (l : List Char) :
    trim (before ++ a :: (l ++ [b]) ++ after) = a :: (l ++ [b]) := by
  have hstart : trimStart (before ++ a :: (l ++ [b]) ++ after) = a :: (l ++ [b]) ++ after := by
    rw [trimStart, List.append_assoc, List.dropWhile_append_of_pos hbefore, List.cons_append,
      List.dropWhile_cons_of_neg (by rw [ha]; decide)]
  have hreverse : ∀ c ∈ after.reverse, isSpace c = true := by
    intro c hc
    exact hafter c (List.mem_reverse.1 hc)
  rw [trim, hstart, trimEnd, List.reverse_append, List.dropWhile_append_of_pos hreverse,
    ← List.cons_append, List.reverse_append, List.reverse_singleton, List.singleton_append,
    List.dropWhile_cons_of_neg (by rw [hb]; decide), List.reverse_cons, List.reverse_reverse]

theorem strip_append (a b : List Char) : strip (a ++ b) = strip a ++ strip b := List.filter_append a b

theorem strip_newline_cons (l : List Char) : strip ('\n' :: l) = strip l :=
  List.filter_cons_of_neg (by decide)

theorem strip_eq_self {l : List Char} (h : ∀ c ∈ l, isSpace c = false) : strip l = l :=
  List.filter_eq_self.2 fun c hc => by rw [h c hc]; rfl

end Space

namespace Certificate

/-- The line ends go when a text on lines is stripped. Each line takes a character at least, so the
length of the text is fuel enough. -/
theorem strip_wrapped {fuel : Nat} {l : List Char} (hfuel : l.length ≤ fuel)
    (h : ∀ c ∈ l, Space.isSpace c = false) : Space.strip (wrapped fuel l) = l := by
  induction fuel generalizing l with
  | zero => rw [List.eq_nil_of_length_eq_zero (Nat.le_zero.1 hfuel), wrapped]; rfl
  | succ fuel ih =>
    cases l with
    | nil => rw [wrapped]; rfl
    | cons c l =>
      have hrest : ((c :: l).drop columns).length ≤ fuel := by
        rw [List.length_drop]
        simp only [columns, List.length_cons] at hfuel ⊢
        omega
      rw [wrapped, Space.strip_append, Space.strip_newline_cons, ih hrest fun d hd => h d (List.mem_of_mem_drop hd),
        Space.strip_eq_self fun d hd => h d (List.mem_of_mem_take hd), List.take_append_drop]

/-- White space around the armour, and in what stands in it, does not matter. -/
theorem unwrap?_surrounded {before after : List Char} (hbefore : ∀ c ∈ before, Space.isSpace c = true)
    (hafter : ∀ c ∈ after, Space.isSpace c = true) (inside : List Char) :
    unwrap? (before ++ (beginLine ++ inside ++ endLine) ++ after) = some (Space.strip inside) := by
  -- armour starts and ends with a dash, so trimming stops there
  obtain ⟨a, start, hstart, ha⟩ : ∃ a l, beginLine = a :: l ∧ Space.isSpace a = false :=
    ⟨'-', _, rfl, by decide⟩
  obtain ⟨b, last, hlast, hb⟩ : ∃ b l, endLine = l ++ [b] ∧ Space.isSpace b = false :=
    ⟨'-', "-----END MODELSEAL CERTIFICATE----".toList, rfl, by decide⟩
  have htrim : Space.trim (before ++ (beginLine ++ inside ++ endLine) ++ after)
      = beginLine ++ inside ++ endLine := by
    have := Space.trim_between ha hb hbefore hafter (start ++ inside ++ last)
    rw [hstart, hlast]
    simpa only [List.cons_append, List.append_assoc] using this
  rw [unwrap?, htrim, List.append_assoc, afterStart?_append, Option.bind_some, beforeEnd?_append,
    Option.map_some]

theorem write_eq (c : Certificate) :
    c.write.toList
      = beginLine ++ '\n' :: wrapped c.symbols.length c.symbols ++ endLine ++ ['\n'] := by
  rw [write, String.toList_ofList]

/-- What stands in the armour of a written certificate. -/
theorem unwrap?_write (c : Certificate) : unwrap? c.write.toList = some c.symbols := by
  have hsymbols : ∀ c' ∈ c.symbols, Space.isSpace c' = false := Base64.encodeChars_not_space _
  have hend : ∀ c ∈ ['\n'], Space.isSpace c = true := List.forall_mem_singleton.2 rfl
  have hbefore : ∀ c ∈ ([] : List Char), Space.isSpace c = true := nofun
  have hunwrap := unwrap?_surrounded hbefore hend
    ('\n' :: wrapped c.symbols.length c.symbols)
  rw [List.nil_append] at hunwrap
  rw [write_eq, hunwrap, Space.strip_newline_cons, strip_wrapped (Nat.le_refl _) hsymbols]

/-- The line ends take at most as much as the text. -/
theorem length_wrapped_le (fuel : Nat) (l : List Char) :
    (Utf8.encode (wrapped fuel l)).length ≤ 2 * (Utf8.encode l).length := by
  induction fuel generalizing l with
  | zero => cases l <;> exact Nat.zero_le _
  | succ fuel ih =>
    cases l with
    | nil => exact Nat.zero_le _
    | cons c l =>
      have hline := congrArg (List.length ∘ Utf8.encode) (List.take_append_drop columns (c :: l))
      simp only [Function.comp_apply, Utf8.encode_append, List.length_append] at hline
      -- a line is never empty, so its line end is paid for by one of its characters
      have hpos : 0 < (Utf8.encode ((c :: l).take columns)).length := by
        rw [columns, List.take_succ_cons, Utf8.encode_cons, List.length_append,
          String.length_utf8EncodeChar]
        exact Nat.lt_of_lt_of_le c.utf8Size_pos (Nat.le_add_right _ _)
      have hnewline : (String.utf8EncodeChar '\n').length = 1 := by decide
      have hrest := ih ((c :: l).drop columns)
      rw [wrapped, Utf8.encode_append, Utf8.encode_cons, List.length_append, List.length_append,
        hnewline, ← hline]
      omega

open Json in
theorem length_compact_toJson (c : Certificate) :
    (Utf8.encode c.toJson.compact).length
      = escapedLength c.body.subject + escapedLength c.body.publicKey
        + escapedLength c.body.notBefore.timestamp + escapedLength c.body.notAfter.timestamp
        + escapedLength (Hex.encode c.signature.toList) + 85 := by
  -- the 85 bytes are the keys, the quotes and the marks between members
  have hkeys : escapedLength "body" = 4 ∧ escapedLength "signature" = 9
      ∧ escapedLength "subject" = 7 ∧ escapedLength "public_key" = 10
      ∧ escapedLength "not_before" = 10 ∧ escapedLength "not_after" = 9 := by decide
  simp only [toJson, Body.toJson, length_compact_object, length_compactMembers_cons,
    length_compactMembers_nil, length_compact_text, hkeys, if_true, Bool.false_eq_true, if_false]
  omega

/-- The size of a written certificate is bounded by that of its compact text. -/
theorem length_textBytes_write_le (c : Certificate) :
    (textBytes c.write).length ≤ 4 * (Utf8.encode c.toJson.compact).length + 100 := by
  have hsymbols : (Utf8.encode c.symbols).length
      = 4 * (((Utf8.encode c.toJson.compact).length + 2) / 3) := by
    rw [symbols, Base64.encode_encodeChars, Base64.length_encodeBytes]
  have hwrapped := length_wrapped_le c.symbols.length c.symbols
  have hbegin : (Utf8.encode beginLine).length = 37 := by decide
  have hend : (Utf8.encode endLine).length = 35 := by decide
  have hnewline : (String.utf8EncodeChar '\n').length = 1 := by decide
  rw [write, textBytes_ofList]
  simp only [Utf8.encode_append, Utf8.encode_cons, Utf8.encode_nil, List.length_append,
    List.length_nil, hbegin, hend, hnewline]
  omega

theorem publicKey_issueBetween (seed : Octets 32) (subject : String) (notBefore notAfter : Instant) :
    (issueBetween seed subject notBefore notAfter).body.publicKey
      = Hex.encode (Ed25519.publicKey seed).toList := rfl

/-! ## The text in the armour -/

open Json

theorem readInstant_compact (t : Instant) (rest : Bytes) :
    readInstant (Utf8.encode (compact (.text t.timestamp)) ++ rest) = .ok (t, rest) := by
  simp only [readInstant, readSpelled, readTextAs_compact, bind, Except.bind,
    Timestamp.parse_timestamp, mapError_ok, pure, Except.pure]

theorem bodyRecord_read (b : Body) (rest : Bytes) :
    bodyRecord.read (Utf8.encode b.toJson.compact ++ rest) = .ok (b, rest) :=
  Record.read_compact
    (.cons rfl rfl (fun rest => Field.read_of (readTextAs_compact _ b.subject rest))
      (.cons rfl rfl (fun rest => Field.read_of (readTextAs_compact _ b.publicKey rest))
        (.cons rfl rfl (fun rest => Field.read_of (readInstant_compact b.notBefore rest))
          (.cons rfl rfl (fun rest => Field.read_of (readInstant_compact b.notAfter rest)) (.nil _)))))
    rfl rest

theorem record_read (c : Certificate) (rest : Bytes) :
    record.read (Utf8.encode c.toJson.compact ++ rest)
      = .ok ((c.body, Hex.encode c.signature.toList), rest) :=
  Record.read_compact
    (.cons rfl rfl (fun rest => Field.read_of (bodyRecord_read c.body rest))
      (.cons rfl rfl (fun rest => Field.read_of (readTextAs_compact _ _ rest)) (.nil _)))
    rfl rest

/-- A text in whose armour the symbols of a certificate stand is read as that certificate. -/
theorem parse_of_unwrap? {text : String} {c : Certificate}
    (h : unwrap? text.toList = some c.symbols) : parse text = .ok c := by
  have hread := record_read c []
  rw [List.append_nil] at hread
  have hall : readAll record.read (Utf8.encode c.toJson.compact)
      = .ok (c.body, Hex.encode c.signature.toList) := by
    simp only [readAll, hread, bind, Except.bind]
    rfl
  simp only [parse, h, symbols, Base64.decode_encodeChars, hall, Hex.decode_encode,
    Octets.ofList?_toList, mapError_ok, bind, Except.bind, pure, Except.pure]

/-- A certificate is read from its written form. -/
theorem parse_write (c : Certificate) : parse c.write = .ok c :=
  parse_of_unwrap? (unwrap?_write c)

end Certificate

end ModelProtection

/-
How long indented text is.

A document is written into a buffer whose capacity was computed from the lengths
of its texts, so the length of the indented text has to be known from the tree. A
character is escaped in one of three ways (`escapeChar_cases`), so a text grows at
most six times (`length_escape_le`), and not at all if it has nothing to escape
(`escape_eq_self`). Everything around the texts is counted piece by piece (`size`).
-/
import ModelProtection.Json.Scan
import ModelProtection.Json.Tree
import ModelProtection.Proofs.Text.Utf8

set_option autoImplicit false

namespace ModelProtection

namespace Json

/-! ## Escapes -/

/-- Whether a character stands for itself inside a string. -/
def isPlain (c : Char) : Bool := c ≠ '"' && c ≠ '\\' && 32 ≤ c.toNat

theorem escapeChar_eq_self {c : Char} (h : isPlain c = true) : escapeChar c = [c] := by
  simp only [isPlain, Bool.and_eq_true, decide_eq_true_eq, ne_eq, decide_not, Bool.not_eq_true',
    decide_eq_false_iff_not] at h
  obtain ⟨⟨hquote, hslash⟩, hcode⟩ := h
  -- the characters with an escape of one letter are the two marks and control characters
  have hne : ∀ d : Char, d.toNat < 32 → c ≠ d := by
    rintro d hd rfl
    omega
  rw [escapeChar, if_neg hquote, if_neg hslash, if_neg (hne _ (by decide)),
    if_neg (hne _ (by decide)), if_neg (hne _ (by decide)), if_neg (hne _ (by decide)),
    if_neg (hne _ (by decide)), if_neg (by omega)]

/-- A text of characters that are not escaped is not escaped. -/
theorem escape_eq_self_of_escapeChar {l : List Char} (h : ∀ c ∈ l, escapeChar c = [c]) :
    escape l = l := by
  induction l with
  | nil => rfl
  | cons c l ih =>
    rw [escape, List.flatMap_cons, h c List.mem_cons_self, ← escape,
      ih fun d hd => h d (List.mem_cons_of_mem _ hd), List.singleton_append]

theorem escape_eq_self {l : List Char} (h : ∀ c ∈ l, isPlain c = true) : escape l = l :=
  escape_eq_self_of_escapeChar fun c hc => escapeChar_eq_self (h c hc)

/-- A character stands for itself, or for it stands an escape of one letter or the escape of its code. -/
theorem escapeChar_cases (c : Char) :
    (isPlain c = true ∧ escapeChar c = [c])
      ∨ (∃ e, shortEscape? e = some c ∧ Utf8.encode (escapeChar c) = [0x5C, e])
      ∨ (c.toNat < 32 ∧ escapeChar c = ['\\', 'u', '0', '0'] ++ controlDigits c.toNat) := by
  by_cases hplain : isPlain c = true
  · exact .inl ⟨hplain, escapeChar_eq_self hplain⟩
  refine .inr ?_
  have hshort : ∀ e d, shortEscape? e = some d → Utf8.encode (escapeChar d) = [0x5C, e] → c = d →
      ∃ e, shortEscape? e = some c ∧ Utf8.encode (escapeChar c) = [0x5C, e] := by
    rintro e _ hd htext rfl
    exact ⟨e, hd, htext⟩
  by_cases hquote : c = '"'
  · exact .inl (hshort 0x22 '"' rfl rfl hquote)
  by_cases hslash : c = '\\'
  · exact .inl (hshort 0x5C '\\' rfl rfl hslash)
  -- what is left is not plain because of its code
  have hcode : c.toNat < 32 := by
    refine Nat.lt_of_not_le fun hle => hplain ?_
    simp only [isPlain, hquote, hslash, hle, ne_eq, not_false_eq_true, decide_true, Bool.and_self]
  by_cases hb : c = '\x08'
  · exact .inl (hshort 0x62 '\x08' rfl rfl hb)
  by_cases hf : c = '\x0c'
  · exact .inl (hshort 0x66 '\x0c' rfl rfl hf)
  by_cases hn : c = '\n'
  · exact .inl (hshort 0x6E '\n' rfl rfl hn)
  by_cases hr : c = '\r'
  · exact .inl (hshort 0x72 '\r' rfl rfl hr)
  by_cases ht : c = '\t'
  · exact .inl (hshort 0x74 '\t' rfl rfl ht)
  refine .inr ⟨hcode, ?_⟩
  rw [escapeChar, if_neg hquote, if_neg hslash, if_neg hb, if_neg hf, if_neg hn, if_neg hr, if_neg ht,
    if_pos hcode]

theorem length_control : ∀ n < 32,
    (Utf8.encode (['\\', 'u', '0', '0'] ++ controlDigits n)).length = 6 := by decide

theorem length_escapeChar_le (c : Char) :
    (Utf8.encode (escapeChar c)).length ≤ 6 * (String.utf8EncodeChar c).length := by
  have hpos : 1 ≤ (String.utf8EncodeChar c).length := by
    rw [String.length_utf8EncodeChar]
    exact Char.utf8Size_pos c
  rcases escapeChar_cases c with ⟨-, hself⟩ | ⟨e, -, hshort⟩ | ⟨hcode, hcontrol⟩
  · rw [hself, Utf8.encode_cons, Utf8.encode_nil, List.append_nil]
    omega
  · rw [hshort, List.length_cons, List.length_singleton]
    omega
  · rw [hcontrol, length_control _ hcode]
    omega

/-- A text grows at most six times. -/
theorem length_escape_le (l : List Char) :
    (Utf8.encode (escape l)).length ≤ 6 * (Utf8.encode l).length := by
  induction l with
  | nil => exact Nat.le_refl _
  | cons c l ih =>
    have hc := length_escapeChar_le c
    rw [escape, List.flatMap_cons, ← escape, Utf8.encode_append, Utf8.encode_cons,
      List.length_append, List.length_append]
    omega

/-! ## Pieces -/

/-- The number of bytes in some pieces. -/
def size (pieces : List (List Char)) : Nat := (Utf8.encode pieces.flatten).length

@[simp] theorem size_nil : size [] = 0 := rfl

@[simp] theorem size_cons (piece : List Char) (pieces : List (List Char)) :
    size (piece :: pieces) = (Utf8.encode piece).length + size pieces := by
  rw [size, List.flatten_cons, Utf8.encode_append, List.length_append, size]

@[simp] theorem size_append (a b : List (List Char)) : size (a ++ b) = size a + size b := by
  rw [size, List.flatten_append, Utf8.encode_append, List.length_append, size, size]

/-- The number of bytes between the quotes of a string. -/
def escapedLength (s : String) : Nat := (Utf8.encode (escape s.toList)).length

@[simp] theorem size_quotedPieces (s : String) : size (quotedPieces s) = escapedLength s + 2 := by
  have hquote : (Utf8.encode ['"']).length = 1 := by decide
  simp only [quotedPieces, size_cons, size_nil, hquote, escapedLength]
  omega

@[simp] theorem size_text (s : String) (depth : Nat) :
    size (pieces depth (.text s)) = escapedLength s + 2 := by
  rw [pieces, size_quotedPieces]

theorem length_encode_ascii {l : List Char} (h : ∀ c ∈ l, c.val.toNat < 0x80) :
    (Utf8.encode l).length = l.length := by
  rw [Utf8.encode_ascii h, List.length_map]

@[simp] theorem length_lineBreak (depth : Nat) :
    (Utf8.encode (lineBreak depth)).length = 1 + 2 * depth := by
  have hascii : ∀ c ∈ lineBreak depth, c.val.toNat < 0x80 := by
    intro c hc
    rcases List.mem_cons.1 hc with rfl | hc
    · decide
    · rw [List.eq_of_mem_replicate hc]
      decide
  rw [length_encode_ascii hascii, lineBreak, List.length_cons, List.length_replicate, Nat.add_comm]

/-- A separator takes a byte for the comma, where there is one, and a new line. -/
theorem length_separator (first : Bool) (depth : Nat) :
    (Utf8.encode ((if first then [] else [',']) ++ lineBreak depth)).length
      = (if first then 0 else 1) + (1 + 2 * depth) := by
  cases first with
  | true => simp
  | false =>
    have hcomma : (Utf8.encode [',']).length = 1 := by decide
    rw [if_neg (by decide), Utf8.encode_append, List.length_append, hcomma, length_lineBreak]
    rfl

/-- A member takes its separator, its key in quotes with a colon and a blank, and its value. -/
theorem size_memberPieces_cons (depth : Nat) (first : Bool) (k : String) (v : Json)
    (l : List (String × Json)) :
    size (memberPieces depth first ((k, v) :: l))
      = (if first then 0 else 1) + (1 + 2 * (depth + 1)) + (escapedLength k + 4)
        + size (pieces (depth + 1) v) + size (memberPieces depth false l) := by
  have hcolon : (Utf8.encode [':', ' ']).length = 2 := by decide
  simp only [memberPieces, size_cons, size_append, size_quotedPieces, List.cons_append, hcolon,
    length_separator]
  omega

theorem size_object (depth : Nat) (m : String × Json) (l : List (String × Json)) :
    size (pieces depth (.object (m :: l)))
      = 2 + (1 + 2 * depth) + size (memberPieces depth true (m :: l)) := by
  have hopen : (Utf8.encode ['\x7b']).length = 1 := by decide
  have hclose : (Utf8.encode ['\x7d']).length = 1 := by decide
  simp only [pieces, size_cons, size_append, size_nil, List.cons_append, hopen, hclose,
    length_lineBreak]
  omega

/-- An element takes its separator and its value. -/
theorem size_elementPieces_cons (depth : Nat) (first : Bool) (v : Json) (l : List Json) :
    size (elementPieces depth first (v :: l))
      = (if first then 0 else 1) + (1 + 2 * (depth + 1)) + size (pieces (depth + 1) v)
        + size (elementPieces depth false l) := by
  simp only [elementPieces, size_cons, size_append, List.cons_append, length_separator]
  omega

theorem size_list (depth : Nat) (v : Json) (l : List Json) :
    size (pieces depth (.list (v :: l)))
      = 2 + (1 + 2 * depth) + size (elementPieces depth true (v :: l)) := by
  have hopen : (Utf8.encode ['[']).length = 1 := by decide
  have hclose : (Utf8.encode [']']).length = 1 := by decide
  simp only [pieces, size_cons, size_append, size_nil, List.cons_append, hopen, hclose,
    length_lineBreak]
  omega

theorem size_list_le (depth : Nat) (l : List Json) :
    size (pieces depth (.list l)) ≤ 2 + (1 + 2 * depth) + size (elementPieces depth true l) := by
  have hempty : (Utf8.encode ['[', ']']).length = 2 := by decide
  cases l with
  | nil =>
    simp only [pieces, size_cons, size_nil, hempty]
    omega
  | cons v l => exact Nat.le_of_eq (size_list depth v l)

/-! ## The compact form -/

theorem length_compact_text (s : String) :
    (Utf8.encode (compact (.text s))).length = escapedLength s + 2 := size_quotedPieces s

theorem length_compactMembers_nil (first : Bool) : (Utf8.encode (compactMembers first [])).length = 0 :=
  rfl

/-- A member takes the comma before it, its key in quotes with a colon, and its value. -/
theorem length_compactMembers_cons (first : Bool) (k : String) (v : Json) (l : List (String × Json)) :
    (Utf8.encode (compactMembers first ((k, v) :: l))).length
      = (if first then 0 else 1) + (escapedLength k + 3) + (Utf8.encode (compact v)).length
        + (Utf8.encode (compactMembers false l)).length := by
  have hcomma : (Utf8.encode (if first then [] else [','])).length = if first then 0 else 1 := by
    cases first <;> decide
  have hcolon : (String.utf8EncodeChar ':').length = 1 := by decide
  have hkey : (Utf8.encode (quotedPieces k).flatten).length = escapedLength k + 2 := size_quotedPieces k
  simp only [compactMembers, Utf8.encode_append, Utf8.encode_cons, List.length_append, hcomma, hcolon,
    hkey]
  omega

theorem length_compact_object (l : List (String × Json)) :
    (Utf8.encode (compact (.object l))).length = (Utf8.encode (compactMembers true l)).length + 2 := by
  have hopen : (String.utf8EncodeChar '\x7b').length = 1 := by decide
  have hclose : (Utf8.encode ['\x7d']).length = 1 := by decide
  rw [compact, List.cons_append, Utf8.encode_cons, Utf8.encode_append, List.length_append,
    List.length_append, hopen, hclose]
  omega

end Json

end ModelProtection

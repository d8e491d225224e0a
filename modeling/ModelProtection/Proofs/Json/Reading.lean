/-
Reading what was written.

Inside a string every character is written as an escape or as itself, and either
way the reader takes back exactly its bytes (`stringBytes_escapeChar`). So a
string ends at the first quote that was written as its end, whatever it is made
of. `readTree` is a reader for trees of strings, lists and objects; it gives back
the tree whose indented text it is shown (`parse_pretty`).
-/
import ModelProtection.Json.Record
import ModelProtection.Proofs.Json.Size

set_option autoImplicit false

namespace ModelProtection

namespace Json

/-! ## Strings -/

theorem stringBytes_quote (l : Bytes) : stringBytes (0x22 :: l) = .ok ([], l) := by
  rw [stringBytes.eq_def]
  rfl

/-- A byte that is neither a quote, nor a backslash, nor a control character stands for itself. -/
theorem stringBytes_plain {b : UInt8} (l : Bytes) (hquote : b ≠ 0x22) (hslash : b ≠ 0x5C)
    (hcode : ¬ b < 0x20) :
    stringBytes (b :: l) = (stringBytes l).map fun p => (b :: p.1, p.2) := by
  have hquote' : b ≠ ascii '"' := hquote
  have hslash' : b ≠ ascii '\\' := hslash
  rw [stringBytes.eq_def]
  simp only [hquote', if_false, hslash', hcode]
  cases stringBytes l <;> rfl

theorem stringBytes_plains {a : Bytes} (l : Bytes)
    (h : ∀ b ∈ a, b ≠ 0x22 ∧ b ≠ 0x5C ∧ ¬ b < 0x20) :
    stringBytes (a ++ l) = (stringBytes l).map fun p => (a ++ p.1, p.2) := by
  induction a with
  | nil =>
    rw [List.nil_append]
    cases stringBytes l <;> rfl
  | cons b a ih =>
    obtain ⟨hquote, hslash, hcode⟩ := h b List.mem_cons_self
    rw [List.cons_append, stringBytes_plain _ hquote hslash hcode,
      ih fun c hc => h c (List.mem_cons_of_mem _ hc)]
    cases stringBytes l <;> rfl

/-- An escape of one letter. -/
theorem stringBytes_short {e : UInt8} {c : Char} (l : Bytes) (h : shortEscape? e = some c) :
    stringBytes (0x5C :: e :: l)
      = (stringBytes l).map fun p => (String.utf8EncodeChar c ++ p.1, p.2) := by
  have hu : e ≠ ascii 'u' := by
    rintro rfl
    have hnone : shortEscape? (ascii 'u') = none := rfl
    rw [hnone] at h
    cases h
  have hslash : (0x5C : UInt8) = ascii '\\' := rfl
  rw [stringBytes.eq_def]
  simp only [hslash, if_true, hu, if_false, h]
  cases stringBytes l <;> rfl

/-- An escape of four digits that is no surrogate. -/
theorem stringBytes_unicode {a b c d : UInt8} {n : Nat} (l : Bytes) (h : hexFour? a b c d = some n)
    (hn : n < 0xD800) :
    stringBytes (0x5C :: 0x75 :: a :: b :: c :: d :: l)
      = (stringBytes l).map fun p => (String.utf8EncodeChar (Char.ofNat n) ++ p.1, p.2) := by
  have hslash : (0x5C : UInt8) = ascii '\\' := rfl
  have hu : (0x75 : UInt8) = ascii 'u' := rfl
  have hescape : ∃ h', unicodeEscape (a :: b :: c :: d :: l) = .ok ⟨(Char.ofNat n, l), h'⟩ := by
    have htrail : (0xDC00 ≤ n && n ≤ 0xDFFF) = false := by
      rw [decide_eq_false (show ¬ 0xDC00 ≤ n by omega), Bool.false_and]
    have hlead : (n < 0xD800 || 0xDBFF < n) = true := by
      rw [decide_eq_true hn, Bool.true_or]
    refine ⟨by simp only [List.length_cons]; omega, ?_⟩
    simp only [unicodeEscape, hexFour, h, htrail, hlead, Bool.false_eq_true, if_false, if_true]
  obtain ⟨h', hescape⟩ := hescape
  rw [stringBytes.eq_def]
  simp only [hslash, if_true, hu, hescape]
  cases stringBytes l <;> rfl

/-- The digits of a control character are read as its code. -/
theorem hexFour?_control : ∀ n < 32,
    hexFour? 0x30 0x30 (UInt8.ofNat (Nat.digitChar (n / 16)).toNat)
      (UInt8.ofNat (Nat.digitChar (n % 16)).toNat) = some n := by decide

theorem encode_control : ∀ n < 32, Utf8.encode (['\\', 'u', '0', '0'] ++ controlDigits n)
    = [0x5C, 0x75, 0x30, 0x30, UInt8.ofNat (Nat.digitChar (n / 16)).toNat,
      UInt8.ofNat (Nat.digitChar (n % 16)).toNat] := by decide

theorem plain_utf8EncodeChar {c : Char} (h : isPlain c = true) :
    ∀ b ∈ String.utf8EncodeChar c, b ≠ 0x22 ∧ b ≠ 0x5C ∧ ¬ b < 0x20 := by
  simp only [isPlain, Bool.and_eq_true, decide_eq_true_eq] at h
  obtain ⟨⟨hquote, hslash⟩, hcode⟩ := h
  have hcode' : 32 ≤ c.val.toNat := hcode
  have hne : ∀ d : Char, c ≠ d → c.val.toNat ≠ d.val.toNat := fun d hd he =>
    hd (Char.ext (UInt32.toNat_inj.1 he))
  have hquote' := hne '"' hquote
  have hslash' := hne '\\' hslash
  have h22 : ('"' : Char).val.toNat = 0x22 := rfl
  have h5C : ('\\' : Char).val.toNat = 0x5C := rfl
  intro b hb
  have hlt : (0x20 : UInt8).toNat = 32 := rfl
  -- a byte of `c` is `c` itself or has its highest bit set, and no special byte has
  have hb' := Utf8.mem_utf8EncodeChar hb
  refine ⟨?_, ?_, ?_⟩
  · rintro rfl
    have : (0x22 : UInt8).toNat = 0x22 := rfl
    omega
  · rintro rfl
    have : (0x5C : UInt8).toNat = 0x5C := rfl
    omega
  · rw [UInt8.lt_iff_toNat_lt]
    omega

/-- A character is read back from its place in a string. -/
theorem stringBytes_escapeChar (c : Char) (l : Bytes) :
    stringBytes (Utf8.encode (escapeChar c) ++ l)
      = (stringBytes l).map fun p => (String.utf8EncodeChar c ++ p.1, p.2) := by
  rcases escapeChar_cases c with ⟨hplain, hself⟩ | ⟨e, hletter, hshort⟩ | ⟨hcode, hcontrol⟩
  · rw [hself, Utf8.encode_cons, Utf8.encode_nil, List.append_nil]
    exact stringBytes_plains l (plain_utf8EncodeChar hplain)
  · rw [hshort]
    exact stringBytes_short l hletter
  · -- the code of a control character is far below the surrogates
    have hread := stringBytes_unicode l (hexFour?_control c.toNat hcode) (by omega)
    rw [Char.ofNat_toNat] at hread
    rw [hcontrol, encode_control c.toNat hcode]
    exact hread

theorem stringBytes_escape (s : List Char) (l : Bytes) :
    stringBytes (Utf8.encode (escape s) ++ 0x22 :: l) = .ok (Utf8.encode s, l) := by
  induction s with
  | nil => exact stringBytes_quote l
  | cons c s ih =>
    rw [escape, List.flatMap_cons, ← escape, Utf8.encode_append, List.append_assoc,
      stringBytes_escapeChar, ih]
    rfl

/-- A string is read back behind its opening quote. -/
theorem readString_escape (s : String) (l : Bytes) :
    readString (Utf8.encode (escape s.toList) ++ 0x22 :: l) = .ok (s, l) := by
  have hdecode := Utf8.decode_textBytes s
  rw [textBytes] at hdecode
  simp only [readString, stringBytes_escape, hdecode]

/-! ## Trees -/

/-- What stands before the next item of a list or an object is taken: its end, or, for all items but
the first, a comma. On the left is an item, on the right what is behind the end. -/
def nextItem (frame : Frame) (first : Bool) (l : Bytes) : Except Error (Bytes ⊕ Bytes) :=
  match skipBlank l with
  | [] => .error (match frame with | .list => .endInList | .object => .endInObject)
  | b :: rest =>
    if b = frame.closer then .ok (.inr rest)
    else if first then .ok (.inl (b :: rest))
    else if b = ascii ',' then .ok (.inl rest)
    else .error (match frame with | .list => .noCommaInList | .object => .noCommaInObject)

mutual

/-- Reads a tree of strings, lists and objects. `fuel` bounds what is read; every string, element and
member takes at least one byte. -/
def readTree : Nat → Reader Json
  | 0, _ => .error .endInValue
  | fuel + 1, l =>
    match skipBlank l with
    | [] => .error .endInValue
    | b :: rest =>
      if b = ascii '"' then (readString rest).map fun p => (.text p.1, p.2)
      else if b = ascii '[' then (readElements fuel true rest).map fun p => (.list p.1, p.2)
      else if b = ascii '\x7b' then (readMembers fuel true rest).map fun p => (.object p.1, p.2)
      else .error .noValue

/-- Reads the elements of a list and its end. -/
def readElements : Nat → Bool → Reader (List Json)
  | 0, _, _ => .error .endInList
  | fuel + 1, first, l => do
    let rest ← nextItem .list first l
    match rest with
    | .inr rest => return ([], rest)
    | .inl rest =>
      let (v, rest) ← readTree fuel rest
      let (vs, rest) ← readElements fuel false rest
      return (v :: vs, rest)

/-- Reads the members of an object and its end. -/
def readMembers : Nat → Bool → Reader (List (String × Json))
  | 0, _, _ => .error .endInObject
  | fuel + 1, first, l => do
    let rest ← nextItem .object first l
    match rest with
    | .inr rest => return ([], rest)
    | .inl rest =>
      let (k, rest) ← readText rest
      let rest ← colon rest
      let (v, rest) ← readTree fuel rest
      let (vs, rest) ← readMembers fuel false rest
      return ((k, v) :: vs, rest)

end

/-- The tree that a whole text spells. -/
def parse (l : Bytes) : Except Error Json := readAll (readTree (l.length + 1)) l

/-! ### White space -/

theorem skipBlank_cons {b : UInt8} (h : isBlank b = false) (l : Bytes) :
    skipBlank (b :: l) = b :: l := by
  rw [skipBlank, List.dropWhile_cons_of_neg (by rw [h]; decide)]

theorem skipBlank_lineBreak (depth : Nat) (l : Bytes) :
    skipBlank (Utf8.encode (lineBreak depth) ++ l) = skipBlank l := by
  have hblanks : ∀ n, Utf8.encode (List.replicate n ' ') = List.replicate n 0x20 := by
    intro n
    rw [Utf8.encode_ascii, List.map_replicate]
    · rfl
    · intro c hc
      rw [List.eq_of_mem_replicate hc]
      decide
  have hskip : ∀ n, skipBlank (List.replicate n 0x20 ++ l) = skipBlank l := by
    intro n
    induction n with
    | zero => rfl
    | succ n ih =>
      rw [List.replicate_succ, List.cons_append, skipBlank, List.dropWhile_cons_of_pos (by decide)]
      exact ih
  rw [lineBreak, Utf8.encode_cons, hblanks]
  exact hskip _

/-- A reader of trees looks behind the white space. -/
theorem readTree_congr (fuel : Nat) {l l' : Bytes} (h : skipBlank l = skipBlank l') :
    readTree fuel l = readTree fuel l' := by
  cases fuel with
  | zero => rfl
  | succ fuel => simp only [readTree, h]

theorem readTextAs_quote (expected : String) {s : String} {l rest : Bytes}
    (h : skipBlank l = 0x22 :: (Utf8.encode (escape s.toList) ++ 0x22 :: rest)) :
    readTextAs expected l = .ok (s, rest) := by
  have hquote : (0x22 : UInt8) = ascii '"' := rfl
  simp only [readTextAs, h]
  rw [if_pos hquote, readString_escape]

/-! ### Items -/

/-- The end of a list or an object stands on a line of its own. -/
theorem nextItem_end (frame : Frame) (first : Bool) (depth : Nat) (l : Bytes) :
    nextItem frame first (Utf8.encode (lineBreak depth) ++ frame.closer :: l) = .ok (.inr l) := by
  have hblank : isBlank frame.closer = false := by cases frame <;> rfl
  simp only [nextItem, skipBlank_lineBreak, skipBlank_cons hblank, if_true]

/-- An item stands behind its separator. -/
theorem nextItem_separator (frame : Frame) (first : Bool) (depth : Nat) {b : UInt8}
    (hblank : isBlank b = false) (hend : b ≠ frame.closer) (l : Bytes) :
    ∃ rest, nextItem frame first
        (Utf8.encode ((if first then [] else [',']) ++ lineBreak depth) ++ b :: l) = .ok (.inl rest)
      ∧ skipBlank rest = b :: l := by
  cases first with
  | true =>
    refine ⟨b :: l, ?_, skipBlank_cons hblank l⟩
    simp only [if_true, List.nil_append, nextItem, skipBlank_lineBreak, skipBlank_cons hblank, hend,
      if_false]
  | false =>
    refine ⟨Utf8.encode (lineBreak depth) ++ b :: l, ?_, ?_⟩
    · have hcomma : Utf8.encode [','] = [0x2C] := rfl
      have hne : (0x2C : UInt8) ≠ frame.closer := by cases frame <;> decide
      have hmark : (0x2C : UInt8) = ascii ',' := rfl
      rw [if_neg Bool.false_ne_true, Utf8.encode_append, hcomma, List.append_assoc,
        List.singleton_append]
      simp only [nextItem, skipBlank_cons (b := 0x2C) rfl, if_neg hne, Bool.false_eq_true, if_false]
      rw [if_pos hmark]
    · rw [skipBlank_lineBreak, skipBlank_cons hblank]

/-- A value starts with a mark that is neither white space nor an end. -/
theorem exists_pieces_cons (depth : Nat) (v : Json) :
    ∃ b l, Utf8.encode (pieces depth v).flatten = b :: l ∧ isBlank b = false
      ∧ ∀ frame : Frame, b ≠ frame.closer := by
  have hquote : ∀ frame : Frame, (0x22 : UInt8) ≠ frame.closer := by
    intro frame
    cases frame <;> decide
  have hlist : ∀ frame : Frame, (0x5B : UInt8) ≠ frame.closer := by
    intro frame
    cases frame <;> decide
  have hobject : ∀ frame : Frame, (0x7B : UInt8) ≠ frame.closer := by
    intro frame
    cases frame <;> decide
  match v with
  | .text s => exact ⟨0x22, _, by rw [pieces, quotedPieces]; rfl, rfl, hquote⟩
  | .list [] => exact ⟨0x5B, _, by rw [pieces]; rfl, rfl, hlist⟩
  | .list (v :: l) => exact ⟨0x5B, _, by rw [pieces]; rfl, rfl, hlist⟩
  | .object [] => exact ⟨0x7B, _, by rw [pieces]; rfl, rfl, hobject⟩
  | .object (m :: l) => exact ⟨0x7B, _, by rw [pieces]; rfl, rfl, hobject⟩

/-! ### Whole trees

One induction over trees, lists of elements and lists of members. The fuel is
the number of bytes: a value, an element and a member each take some. -/

theorem size_pieces_pos (depth : Nat) (v : Json) : 0 < size (pieces depth v) := by
  obtain ⟨b, l, hcons, -, -⟩ := exists_pieces_cons depth v
  rw [size, hcons]
  exact Nat.succ_pos _

/-- The mark behind a string or an opening mark is taken off the text of a value. -/
theorem encode_cons_flatten (piece : List Char) (ps : List (List Char)) :
    Utf8.encode (piece :: ps).flatten = Utf8.encode piece ++ Utf8.encode ps.flatten := by
  rw [List.flatten_cons, Utf8.encode_append]

mutual

theorem readTree_pieces : ∀ (v : Json) (depth fuel : Nat) (rest : Bytes),
    size (pieces depth v) ≤ fuel →
    readTree fuel (Utf8.encode (pieces depth v).flatten ++ rest) = .ok (v, rest)
  | v, depth, 0, _, h => absurd (size_pieces_pos depth v) (by omega)
  | .text s, depth, fuel + 1, rest, _ => by
    have htext : Utf8.encode (pieces depth (.text s)).flatten ++ rest
        = 0x22 :: (Utf8.encode (escape s.toList) ++ 0x22 :: rest) := by
      simp only [pieces, quotedPieces, encode_cons_flatten, List.append_assoc]
      rfl
    have hquote : (0x22 : UInt8) = ascii '"' := rfl
    simp only [htext, readTree, skipBlank_cons (b := 0x22) rfl]
    rw [if_pos hquote, readString_escape]
    rfl
  | .list [], depth, fuel + 1, rest, h => by
    have htext : Utf8.encode (pieces depth (.list [])).flatten ++ rest = 0x5B :: 0x5D :: rest := rfl
    have hsize : size (pieces depth (.list [])) = 2 := rfl
    obtain ⟨fuel, rfl⟩ : ∃ n, fuel = n + 1 := ⟨fuel - 1, by omega⟩
    rw [htext]
    rfl
  | .list (v :: l), depth, fuel + 1, rest, h => by
    -- the mark at the start pays for the unit of fuel that the list itself takes
    have htext : Utf8.encode (pieces depth (.list (v :: l))).flatten ++ rest
        = 0x5B :: (Utf8.encode (elementPieces depth true (v :: l)).flatten
            ++ (Utf8.encode (lineBreak depth) ++ 0x5D :: rest)) := by
      rw [pieces, List.cons_append, encode_cons_flatten, List.flatten_append, Utf8.encode_append,
        encode_cons_flatten, List.append_assoc, List.append_assoc, List.append_assoc]
      rfl
    have hquote : (0x5B : UInt8) ≠ ascii '"' := by decide
    have hopen : (0x5B : UInt8) = ascii '[' := rfl
    rw [size_list] at h
    simp only [htext, readTree, skipBlank_cons (b := 0x5B) rfl]
    rw [if_neg hquote, if_pos hopen, readElements_pieces (v :: l) depth true fuel rest (by omega)]
    rfl
  | .object [], depth, fuel + 1, rest, h => by
    have htext : Utf8.encode (pieces depth (.object [])).flatten ++ rest = 0x7B :: 0x7D :: rest := rfl
    have hsize : size (pieces depth (.object [])) = 2 := rfl
    obtain ⟨fuel, rfl⟩ : ∃ n, fuel = n + 1 := ⟨fuel - 1, by omega⟩
    rw [htext]
    rfl
  | .object (m :: l), depth, fuel + 1, rest, h => by
    have htext : Utf8.encode (pieces depth (.object (m :: l))).flatten ++ rest
        = 0x7B :: (Utf8.encode (memberPieces depth true (m :: l)).flatten
            ++ (Utf8.encode (lineBreak depth) ++ 0x7D :: rest)) := by
      rw [pieces, List.cons_append, encode_cons_flatten, List.flatten_append, Utf8.encode_append,
        encode_cons_flatten, List.append_assoc, List.append_assoc, List.append_assoc]
      rfl
    have hquote : (0x7B : UInt8) ≠ ascii '"' := by decide
    have hlist : (0x7B : UInt8) ≠ ascii '[' := by decide
    have hopen : (0x7B : UInt8) = ascii '\x7b' := rfl
    rw [size_object] at h
    simp only [htext, readTree, skipBlank_cons (b := 0x7B) rfl]
    rw [if_neg hquote, if_neg hlist, if_pos hopen,
      readMembers_pieces (m :: l) depth true fuel rest (by omega)]
    rfl

theorem readElements_pieces : ∀ (l : List Json) (depth : Nat) (first : Bool) (fuel : Nat)
    (rest : Bytes), size (elementPieces depth first l) + 1 ≤ fuel →
    readElements fuel first (Utf8.encode (elementPieces depth first l).flatten
      ++ (Utf8.encode (lineBreak depth) ++ 0x5D :: rest)) = .ok (l, rest)
  | _, _, _, 0, _, h => absurd h (by omega)
  | [], depth, first, fuel + 1, rest, _ => by
    have hend := nextItem_end .list first depth rest
    rw [elementPieces, List.flatten_nil, Utf8.encode_nil, List.nil_append, readElements]
    change nextItem .list first (Utf8.encode (lineBreak depth) ++ 0x5D :: rest) = _ at hend
    rw [hend]
    rfl
  | v :: l, depth, first, fuel + 1, rest, h => by
    rw [size_elementPieces_cons] at h
    have hvalue := readTree_pieces v (depth + 1) fuel
      (Utf8.encode (elementPieces depth false l).flatten
        ++ (Utf8.encode (lineBreak depth) ++ 0x5D :: rest)) (by omega)
    have hrest := readElements_pieces l depth false fuel rest (by omega)
    obtain ⟨b, bytes, hcons, hblank, hend⟩ := exists_pieces_cons (depth + 1) v
    obtain ⟨start, hitem, hstart⟩ := nextItem_separator .list first (depth + 1) hblank (hend .list)
      (bytes ++ (Utf8.encode (elementPieces depth false l).flatten
        ++ (Utf8.encode (lineBreak depth) ++ 0x5D :: rest)))
    -- the reader of elements hands on what is behind the comma, white space and all
    rw [hcons, List.cons_append] at hvalue
    rw [← skipBlank_cons hblank] at hstart
    rw [← readTree_congr fuel hstart] at hvalue
    simp only [elementPieces, List.cons_append, List.flatten_cons, List.flatten_append,
      Utf8.encode_append, List.append_assoc, hcons] at hitem ⊢
    simp only [readElements, hitem, hvalue, hrest, bind, Except.bind, pure, Except.pure]

theorem readMembers_pieces : ∀ (l : List (String × Json)) (depth : Nat) (first : Bool) (fuel : Nat)
    (rest : Bytes), size (memberPieces depth first l) + 1 ≤ fuel →
    readMembers fuel first (Utf8.encode (memberPieces depth first l).flatten
      ++ (Utf8.encode (lineBreak depth) ++ 0x7D :: rest)) = .ok (l, rest)
  | _, _, _, 0, _, h => absurd h (by omega)
  | [], depth, first, fuel + 1, rest, _ => by
    have hend := nextItem_end .object first depth rest
    rw [memberPieces, List.flatten_nil, Utf8.encode_nil, List.nil_append, readMembers]
    change nextItem .object first (Utf8.encode (lineBreak depth) ++ 0x7D :: rest) = _ at hend
    rw [hend]
    rfl
  | (k, v) :: l, depth, first, fuel + 1, rest, h => by
    rw [size_memberPieces_cons] at h
    have hvalue := readTree_pieces v (depth + 1) fuel
      (Utf8.encode (memberPieces depth false l).flatten
        ++ (Utf8.encode (lineBreak depth) ++ 0x7D :: rest)) (by omega)
    have hrest := readMembers_pieces l depth false fuel rest (by omega)
    obtain ⟨start, hitem, hstart⟩ := nextItem_separator .object first (depth + 1) (b := 0x22) rfl
      (by decide) (Utf8.encode (escape k.toList) ++ 0x22 :: (0x3A :: 0x20 ::
        (Utf8.encode (pieces (depth + 1) v).flatten ++ (Utf8.encode (memberPieces depth false l).flatten
          ++ (Utf8.encode (lineBreak depth) ++ 0x7D :: rest)))))
    -- behind the separator come the key, the colon with its blank, and the value
    have hkey : readText start = _ := readTextAs_quote _ hstart
    have hcolon : ∀ bytes, colon (0x3A :: bytes) = .ok bytes := fun _ => rfl
    have hblank : ∀ bytes, skipBlank (0x20 :: bytes) = skipBlank bytes := fun _ => rfl
    rw [← readTree_congr fuel (hblank _)] at hvalue
    have htext : Utf8.encode (memberPieces depth first ((k, v) :: l)).flatten
          ++ (Utf8.encode (lineBreak depth) ++ 0x7D :: rest)
        = Utf8.encode ((if first then [] else [',']) ++ lineBreak (depth + 1)) ++ 0x22 ::
          (Utf8.encode (escape k.toList) ++ 0x22 :: (0x3A :: 0x20 ::
            (Utf8.encode (pieces (depth + 1) v).flatten
              ++ (Utf8.encode (memberPieces depth false l).flatten
                ++ (Utf8.encode (lineBreak depth) ++ 0x7D :: rest))))) := by
      simp only [memberPieces, quotedPieces, List.cons_append, List.nil_append, encode_cons_flatten,
        List.flatten_append, Utf8.encode_append, List.append_assoc]
      rfl
    rw [htext]
    simp only [readMembers, hitem, hkey, hcolon, hvalue, hrest, bind, Except.bind, pure, Except.pure]

end

/-- The indented text of a tree spells the tree. -/
theorem parse_pretty (v : Json) : parse (Utf8.encode v.pretty) = .ok v := by
  have hread := readTree_pieces v 0 ((Utf8.encode v.pretty).length + 1) [] (Nat.le_succ _)
  rw [List.append_nil, ← pretty] at hread
  simp only [parse, readAll, hread, bind, Except.bind]
  rfl

end Json

end ModelProtection

/-
Reading records.

A record takes the members of an object one after the other (`Takes`): each key
names a field that has not been read, and the value is one that the field reads.
How the members are laid out does not matter to a reader, so a record is read from
the compact text of an object (`read_compact`) and from the indented one
(`read_pieces`) alike.
-/
import ModelProtection.Proofs.Json.Reading

set_option autoImplicit false

namespace ModelProtection

namespace Json

/-! ## Fields -/

theorem readTextAs_compact (expected s : String) (rest : Bytes) :
    readTextAs expected (Utf8.encode (compact (.text s)) ++ rest) = .ok (s, rest) := by
  refine readTextAs_quote expected ?_
  simp only [compact, quotedPieces, encode_cons_flatten, List.append_assoc]
  exact skipBlank_cons rfl _

/-- A string is read from the indented text behind its colon. -/
theorem readTextAs_pieces (expected s : String) (depth : Nat) (rest : Bytes) :
    readTextAs expected (Utf8.encode (' ' :: (pieces depth (.text s)).flatten) ++ rest)
      = .ok (s, rest) := by
  refine readTextAs_quote expected ?_
  have hblank : ∀ l, skipBlank (Utf8.encode (' ' :: l) ++ rest) = skipBlank (Utf8.encode l ++ rest) :=
    fun _ => rfl
  rw [hblank]
  simp only [pieces, quotedPieces, encode_cons_flatten, List.append_assoc]
  exact skipBlank_cons rfl _

theorem Field.read_of {σ α : Type} {name : String} {reader : Reader α} {get : σ → Option α}
    {set : α → σ → σ} {s : σ} {l rest : Bytes} {a : α} (h : reader l = .ok (a, rest)) :
    (Field.of name reader get set).read s l = .ok (set a s, rest) := by
  simp only [Field.of, h]
  rfl

namespace Record

variable {σ α : Type} {r : Record σ α}

/-- A record that is being read takes members whose values are written in a form. -/
inductive Takes (r : Record σ α) (form : Json → List Char) : σ → List (String × Json) → σ → Prop where
  /-- There are no members. -/
  | nil (s : σ) : Takes r form s [] s
  /-- A field takes the first member. -/
  | cons {s s₁ s' : σ} {f : Field σ} {k : String} {v : Json} {l : List (String × Json)}
    (hfield : r.fields.find? (·.name == k) = some f) (hnew : f.present s = false)
    (hread : ∀ rest, f.read s (Utf8.encode (form v) ++ rest) = .ok (s₁, rest))
    (htail : Takes r form s₁ l s') : Takes r form s ((k, v) :: l) s'

/-! ## One member -/

/-- A key, a colon and a value. -/
theorem members_key {s s₁ : σ} {f : Field σ} {k : String} (fuel : Nat) {text rest : Bytes}
    (hfield : r.fields.find? (·.name == k) = some f) (hnew : f.present s = false)
    (hread : f.read s text = .ok (s₁, rest)) :
    members.key r fuel s (0x22 :: (Utf8.encode (escape k.toList) ++ 0x22 :: 0x3A :: text))
      = r.members fuel false s₁ rest := by
  have hquote : ¬ (0x22 : UInt8) ≠ ascii '"' := by decide
  have hcolon : colon (0x3A :: text) = .ok text := rfl
  simp only [members.key, if_neg hquote, readString_escape, hfield, hnew, Bool.false_eq_true, if_false,
    hcolon, hread]

/-- The first member stands behind white space. -/
theorem members_first {s : σ} {fuel : Nat} {l text : Bytes} (h : skipBlank l = 0x22 :: text) :
    r.members (fuel + 1) true s l = members.key r fuel s (0x22 :: text) := by
  have hend : (0x22 : UInt8) ≠ ascii '\x7d' := by decide
  simp only [members, h, if_neg hend, if_true]

/-- A later member stands behind a comma and white space. -/
theorem members_next {s : σ} {fuel : Nat} {l text : Bytes} (h : skipBlank l = 0x22 :: text) :
    r.members (fuel + 1) false s (0x2C :: l) = members.key r fuel s (0x22 :: text) := by
  have hcomma : (0x2C : UInt8) = ascii ',' := rfl
  have hend : ascii ',' ≠ ascii '\x7d' := by decide
  have hend' : (0x22 : UInt8) ≠ ascii '\x7d' := by decide
  have hblank : skipBlank (ascii ',' :: l) = ascii ',' :: l := skipBlank_cons rfl l
  rw [hcomma]
  simp only [members, hblank, if_neg hend, Bool.false_eq_true, if_false, if_true, h, if_neg hend']

/-- The end of the object stands behind white space. -/
theorem members_end {s : σ} {fuel : Nat} {first : Bool} {l text : Bytes}
    (h : skipBlank l = 0x7D :: text) : r.members (fuel + 1) first s l = .ok (s, 0x7D :: text) := by
  have hend : (0x7D : UInt8) = ascii '\x7d' := rfl
  simp only [members, h, if_pos hend]

/-! ## All members -/

theorem members_compact {s s' : σ} {l : List (String × Json)} (h : r.Takes compact s l s')
    (first : Bool) {fuel : Nat} (hfuel : l.length < fuel) (rest : Bytes) :
    r.members fuel first s (Utf8.encode (compactMembers first l) ++ 0x7D :: rest)
      = .ok (s', 0x7D :: rest) := by
  -- along the members that are taken; each costs a unit of fuel, and the end costs one more
  induction h generalizing first fuel with
  | nil s =>
    obtain ⟨fuel, rfl⟩ : ∃ n, fuel = n + 1 := ⟨fuel - 1, by omega⟩
    rw [compactMembers]
    exact members_end (skipBlank_cons rfl rest)
  | @cons s s₁ s' f k v l hfield hnew hread htail ih =>
    rw [List.length_cons] at hfuel
    obtain ⟨fuel, rfl⟩ : ∃ n, fuel = n + 1 := ⟨fuel - 1, by omega⟩
    have hmember := (members_key fuel hfield hnew
      (hread (Utf8.encode (compactMembers false l) ++ 0x7D :: rest))).trans
      (ih false (by omega))
    have htext : Utf8.encode (compactMembers first ((k, v) :: l)) ++ 0x7D :: rest
        = Utf8.encode (if first then [] else [',']) ++ 0x22 :: (Utf8.encode (escape k.toList) ++
          0x22 :: 0x3A :: (Utf8.encode (compact v)
            ++ (Utf8.encode (compactMembers false l) ++ 0x7D :: rest))) := by
      simp only [compactMembers, quotedPieces, encode_cons_flatten, Utf8.encode_append,
        Utf8.encode_cons, List.append_assoc, List.cons_append]
      rfl
    rw [htext]
    cases first with
    | true => exact (members_first (skipBlank_cons rfl _)).trans hmember
    | false => exact (members_next (skipBlank_cons rfl _)).trans hmember

theorem members_pieces {depth : Nat} {s s' : σ} {l : List (String × Json)}
    (h : r.Takes (fun v => ' ' :: (pieces (depth + 1) v).flatten) s l s') (first : Bool) {fuel : Nat}
    (hfuel : l.length < fuel) (rest : Bytes) :
    r.members fuel first s (Utf8.encode (memberPieces depth first l).flatten
        ++ (Utf8.encode (lineBreak depth) ++ 0x7D :: rest)) = .ok (s', 0x7D :: rest) := by
  induction h generalizing first fuel with
  | nil s =>
    obtain ⟨fuel, rfl⟩ : ∃ n, fuel = n + 1 := ⟨fuel - 1, by omega⟩
    rw [memberPieces]
    refine members_end ?_
    rw [List.flatten_nil, Utf8.encode_nil, List.nil_append, skipBlank_lineBreak]
    exact skipBlank_cons rfl rest
  | @cons s s₁ s' f k v l hfield hnew hread htail ih =>
    rw [List.length_cons] at hfuel
    obtain ⟨fuel, rfl⟩ : ∃ n, fuel = n + 1 := ⟨fuel - 1, by omega⟩
    have hmember := (members_key fuel hfield hnew
      (hread (Utf8.encode (memberPieces depth false l).flatten
        ++ (Utf8.encode (lineBreak depth) ++ 0x7D :: rest)))).trans (ih false (by omega))
    have htext : Utf8.encode (memberPieces depth first ((k, v) :: l)).flatten
          ++ (Utf8.encode (lineBreak depth) ++ 0x7D :: rest)
        = Utf8.encode (if first then [] else [',']) ++ (Utf8.encode (lineBreak (depth + 1))
          ++ 0x22 :: (Utf8.encode (escape k.toList) ++ 0x22 :: 0x3A ::
            (Utf8.encode (' ' :: (pieces (depth + 1) v).flatten)
              ++ (Utf8.encode (memberPieces depth false l).flatten
                ++ (Utf8.encode (lineBreak depth) ++ 0x7D :: rest))))) := by
      simp only [memberPieces, quotedPieces, List.cons_append, List.nil_append, encode_cons_flatten,
        List.flatten_append, Utf8.encode_append, List.append_assoc]
      rfl
    have hstart : ∀ text, skipBlank (Utf8.encode (lineBreak (depth + 1)) ++ 0x22 :: text)
        = 0x22 :: text := by
      intro text
      rw [skipBlank_lineBreak, skipBlank_cons rfl]
    rw [htext]
    cases first with
    | true => exact (members_first (hstart _)).trans hmember
    | false => exact (members_next (hstart _)).trans hmember

/-! ## Whole objects -/

/-- An object whose members are taken is read. -/
theorem read_object {s : σ} {a : α} {l text rest : Bytes} (hopen : skipBlank l = 0x7B :: text)
    (hmembers : r.members (text.length + 1) true r.empty text = .ok (s, 0x7D :: rest))
    (hcomplete : r.complete s = .ok a) : r.read l = .ok (a, rest) := by
  have hlist : (0x7B : UInt8) ≠ ascii '[' := by decide
  have hobject : (0x7B : UInt8) = ascii '\x7b' := rfl
  have hclose : closeObject (0x7D :: rest) = .ok rest := rfl
  simp only [read, hopen, if_neg hlist, if_pos hobject, bind, Except.bind, hmembers, hcomplete, hclose,
    pure, Except.pure]

/-- Every member takes some bytes. -/
theorem length_le_compactMembers (first : Bool) (l : List (String × Json)) :
    l.length ≤ (Utf8.encode (compactMembers first l)).length := by
  induction l generalizing first with
  | nil => exact Nat.zero_le _
  | cons m l ih =>
    obtain ⟨k, v⟩ := m
    have hcolon : (Utf8.encode (':' :: compact v)).length = 1 + (Utf8.encode (compact v)).length := by
      rw [Utf8.encode_cons, List.length_append]
      rfl
    have hrest := ih false
    rw [compactMembers, Utf8.encode_append, Utf8.encode_append, Utf8.encode_append, List.length_append,
      List.length_append, List.length_append, List.length_cons, hcolon]
    omega

theorem read_compact {s : σ} {a : α} {l : List (String × Json)} (h : r.Takes compact r.empty l s)
    (hcomplete : r.complete s = .ok a) (rest : Bytes) :
    r.read (Utf8.encode (compact (.object l)) ++ rest) = .ok (a, rest) := by
  have htext : Utf8.encode (compact (.object l)) ++ rest
      = 0x7B :: (Utf8.encode (compactMembers true l) ++ 0x7D :: rest) := by
    simp only [compact, Utf8.encode_append, Utf8.encode_cons, List.append_assoc, List.cons_append]
    rfl
  rw [htext]
  refine read_object (skipBlank_cons rfl _) (members_compact h true ?_ rest) hcomplete
  have := length_le_compactMembers true l
  rw [List.length_append]
  omega

theorem length_le_memberPieces (depth : Nat) (first : Bool) (l : List (String × Json)) :
    l.length ≤ size (memberPieces depth first l) := by
  induction l generalizing first with
  | nil => exact Nat.zero_le _
  | cons m l ih =>
    obtain ⟨k, v⟩ := m
    have hrest := ih false
    rw [size_memberPieces_cons, List.length_cons]
    omega

theorem read_pieces (depth : Nat) {s : σ} {a : α} {m : String × Json} {l : List (String × Json)}
    (h : r.Takes (fun v => ' ' :: (pieces (depth + 1) v).flatten) r.empty (m :: l) s)
    (hcomplete : r.complete s = .ok a) (rest : Bytes) :
    r.read (Utf8.encode (pieces depth (.object (m :: l))).flatten ++ rest) = .ok (a, rest) := by
  have htext : Utf8.encode (pieces depth (.object (m :: l))).flatten ++ rest
      = 0x7B :: (Utf8.encode (memberPieces depth true (m :: l)).flatten
          ++ (Utf8.encode (lineBreak depth) ++ 0x7D :: rest)) := by
    rw [pieces, List.cons_append, encode_cons_flatten, List.flatten_append, Utf8.encode_append,
      encode_cons_flatten, List.append_assoc, List.append_assoc, List.append_assoc]
    rfl
  rw [htext]
  refine read_object (skipBlank_cons rfl _) (members_pieces h true ?_ rest) hcomplete
  have hmembers := length_le_memberPieces depth true (m :: l)
  rw [size] at hmembers
  rw [List.length_append]
  omega

end Record

end Json

end ModelProtection

/-
How a sealed document ends.

An armour block has four line ends, the first and the last of which are its own
first and last byte. Counting line ends from the back is therefore enough to find
where the block starts, whatever stands in front of it: the document and the tag
are known from the bytes (`eq_of_sealedBytes_eq`), also for a tag that no reader
would take, as long as it stays on its line.

What follows an armour block does not go unnoticed either. The result opens only
if a second block follows, and then the document in it reaches over the first
(`prefix_data_of_append`). The two blocks may share a line end, the last of the
first and the first of the second, but no more than that: no other line of a block
starts like a mark (`not_mark_of_body`).
-/
import ModelProtection.Proofs.Envelope.Exact
import ModelProtection.Proofs.Text.Canonical

set_option autoImplicit false

namespace ModelProtection

namespace Envelope

/-! ## Line ends -/

/-- The bytes of an armour block between its first and its last line end. -/
def body (kind : Kind) (tag : String) : Bytes :=
  Utf8.encode (header kind) ++ 0x0A :: (textBytes tag ++ 0x0A :: Utf8.encode (footer kind))

theorem sealedBytes_eq (e : Envelope) :
    e.sealedBytes = e.data ++ 0x0A :: (body e.kind e.tag ++ [0x0A]) := by
  rw [sealedBytes, encode_newline_cons, armourText, Utf8.encode_append, encode_newline_cons,
    Utf8.encode_append, encode_newline_cons, Utf8.encode_append, encode_newline_cons, Utf8.encode_nil]
  simp only [body, textBytes, List.append_assoc, List.cons_append]

theorem count_header (kind : Kind) : (Utf8.encode (header kind)).count 0x0A = 0 :=
  List.count_eq_zero.2 (newline_notMem fun _ => mem_header)

theorem count_footer (kind : Kind) : (Utf8.encode (footer kind)).count 0x0A = 0 :=
  List.count_eq_zero.2 (newline_notMem fun _ => mem_footer)

theorem newline_notMem_tag {tag : String} (h : IsTag tag) : (0x0A : UInt8) ∉ textBytes tag := by
  refine newline_notMem fun c hc => ?_
  obtain ⟨hascii, hnewline, -⟩ := mem_tag (isTag_iff.2 h) hc
  exact ⟨hascii, hnewline⟩

variable {kind kind' : Kind} {tag tag' : String}

theorem count_body (h : (0x0A : UInt8) ∉ textBytes tag) : (body kind tag).count 0x0A = 2 := by
  rw [body, List.count_append, List.count_cons_self, List.count_append, List.count_cons_self,
    count_header, count_footer, List.count_eq_zero.2 h]

theorem eq_of_body_eq (h : (0x0A : UInt8) ∉ textBytes tag) (h' : (0x0A : UInt8) ∉ textBytes tag')
    (heq : body kind tag = body kind' tag') : kind = kind' ∧ tag = tag' := by
  have hrest : ∀ {kind : Kind} {tag : String}, (0x0A : UInt8) ∉ textBytes tag →
      (textBytes tag ++ 0x0A :: Utf8.encode (footer kind)).count 0x0A = 1 := by
    intro kind tag h
    rw [List.count_append, List.count_cons_self, count_footer, List.count_eq_zero.2 h]
  obtain ⟨hheader, hrests⟩ := eq_of_count_eq heq ((hrest h).trans (hrest h').symm)
  obtain ⟨htag, -⟩ := eq_of_count_eq hrests ((count_footer kind).trans (count_footer kind').symm)
  refine ⟨?_, String.toList_injective (Utf8.encode_injective htag)⟩
  -- the labels have different lengths
  have hlength := congrArg List.length (Utf8.encode_injective hheader)
  cases kind <;> cases kind'
  · rfl
  · exact absurd hlength (by decide)
  · exact absurd hlength (by decide)
  · rfl

/-- A document and its tag are known from the sealed form, if the tag stays on its line. -/
theorem eq_of_sealedBytes_eq {e e' : Envelope} (h : (0x0A : UInt8) ∉ textBytes e.tag)
    (h' : (0x0A : UInt8) ∉ textBytes e'.tag) (heq : e.sealedBytes = e'.sealedBytes) : e = e' := by
  rw [sealedBytes_eq, sealedBytes_eq] at heq
  have hcount : (body e.kind e.tag ++ [0x0A]).count 0x0A
      = (body e'.kind e'.tag ++ [0x0A]).count 0x0A := by
    rw [List.count_append, List.count_append, count_body h, count_body h']
  obtain ⟨hdata, hbody⟩ := eq_of_count_eq heq hcount
  obtain ⟨hkind, htag⟩ := eq_of_body_eq h h' (List.append_cancel_right hbody)
  obtain ⟨data, kind, tag⟩ := e
  obtain ⟨data', kind', tag'⟩ := e'
  cases hdata
  cases hkind
  cases htag
  rfl

/-! ## Bytes behind the armour -/

/-- Behind a line end inside an armour block stands the tag or the last line, and neither starts like
a mark. -/
theorem not_mark_of_body (h : IsTag tag) {m r : Bytes} (hbody : body kind tag = m ++ 0x0A :: r)
    (l : Bytes) : markBytes.isPrefixOf (r ++ l) = false := by
  have hnewline := newline_notMem_tag h
  have hcount : (body kind tag).count 0x0A = 2 := count_body hnewline
  rw [hbody, List.count_append, List.count_cons_self] at hcount
  have hcases : r.count 0x0A = 1 ∨ r.count 0x0A = 0 := by omega
  rcases hcases with hone | hzero
  · have htail : (textBytes tag ++ 0x0A :: Utf8.encode (footer kind)).count 0x0A = r.count 0x0A := by
      rw [List.count_append, List.count_cons_self, count_footer, List.count_eq_zero.2 hnewline, hone]
    obtain ⟨-, rfl⟩ := eq_of_count_eq hbody htail
    rw [List.append_assoc]
    exact markBytes_isPrefixOf_tag (isTag_iff.2 h) _
  · have hfooter : (Utf8.encode (footer kind)).count 0x0A = r.count 0x0A := by
      rw [count_footer, hzero]
    rw [body, ← List.cons_append, ← List.append_assoc] at hbody
    obtain ⟨-, rfl⟩ := eq_of_count_eq hbody hfooter
    exact markBytes_isPrefixOf_footer kind l

theorem markBytes_prefix_body (kind : Kind) (tag : String) : markBytes <+: body kind tag := by
  rw [body, header, Utf8.encode_append, List.append_assoc]
  exact List.prefix_append _ _

/-- A second block does not start inside a first one that ends inside it. -/
theorem not_overlap (h : IsTag tag) (h' : IsTag tag') {data data' r x : Bytes}
    (hsecond : body kind' tag' = r ++ 0x0A :: x) :
    data ++ 0x0A :: body kind tag ≠ data' ++ 0x0A :: r := by
  intro hfirst
  have hnewline := newline_notMem_tag h
  have hcount : (body kind' tag').count 0x0A = 2 := count_body (newline_notMem_tag h')
  rw [hsecond, List.count_append, List.count_cons_self] at hcount
  have hmark := markBytes_prefix_body kind' tag'
  rw [hsecond, ← List.isPrefixOf_iff_prefix] at hmark
  -- too few line ends are left for the second block to start where the first does, or earlier
  obtain ⟨m, rfl⟩ : data <+: data' := by
    refine prefix_of_count_le hfirst.symm ?_
    rw [count_body hnewline]
    omega
  rw [List.append_assoc] at hfirst
  cases m with
  | nil =>
    obtain ⟨-, rfl⟩ := List.cons.inj (List.append_cancel_left hfirst)
    rw [count_body hnewline] at hcount
    omega
  | cons y m =>
    obtain ⟨-, hbody⟩ := List.cons.inj (List.append_cancel_left hfirst)
    rw [not_mark_of_body h hbody] at hmark
    cases hmark

/-- What stands behind an armour block and still opens has a mark, and the document in it reaches over
the block. -/
theorem prefix_data_of_append {e e' : Envelope} {x : Bytes} (htag : IsTag e.tag) (hx : x ≠ [])
    (h : decode (e.sealedBytes ++ x) = .ok e') :
    e.data ++ 0x0A :: body e.kind e.tag <+: e'.data ∧ markBytes <:+: x := by
  obtain ⟨htag', heq⟩ := decode_eq_ok_iff.1 h
  have hcuts : (e.data ++ 0x0A :: body e.kind e.tag) ++ 0x0A :: x
      = e'.data ++ 0x0A :: (body e'.kind e'.tag ++ [0x0A]) := by
    rw [← sealedBytes_eq e', ← heq, sealedBytes_eq e]
    simp only [List.append_assoc, List.cons_append, List.nil_append]
  -- the second block starts at the last line end of the first, behind it, or in front of it
  have hbehind : ∀ m, e'.data = (e.data ++ 0x0A :: body e.kind e.tag) ++ m →
      0x0A :: x = m ++ 0x0A :: (body e'.kind e'.tag ++ [0x0A]) →
      e.data ++ 0x0A :: body e.kind e.tag <+: e'.data ∧ markBytes <:+: x := by
    intro m hdata hrest
    refine ⟨⟨m, hdata.symm⟩, ?_⟩
    have hmark := (markBytes_prefix_body e'.kind e'.tag).trans (List.prefix_append _ [0x0A])
    cases m with
    | nil =>
      obtain ⟨-, rfl⟩ := List.cons.inj hrest
      exact hmark.isInfix
    | cons y m =>
      obtain ⟨-, rfl⟩ := List.cons.inj hrest
      exact hmark.isInfix.trans (List.suffix_append_of_suffix (List.suffix_cons _ _)).isInfix
  rcases List.append_eq_append_iff.1 hcuts with ⟨m, hdata, hrest⟩ | ⟨m, hdata, hrest⟩
  · exact hbehind m hdata hrest
  · cases m with
    | nil =>
      rw [List.append_nil] at hdata
      exact hbehind [] (by rw [List.append_nil, hdata]) hrest.symm
    | cons y r =>
      obtain ⟨rfl, hbody⟩ := List.cons.inj hrest
      -- the last line end of the second block is the last byte of what was added
      obtain ⟨x', z, rfl⟩ : ∃ x' z, x = x' ++ [z] := ⟨_, _, (List.dropLast_concat_getLast hx).symm⟩
      rw [List.append_eq, ← List.cons_append, ← List.append_assoc] at hbody
      exact absurd hdata (not_overlap htag htag' (List.append_inj' hbody rfl).1)

end Envelope

end ModelProtection

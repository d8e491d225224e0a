/-
What cutting a text finds.

A text that was put together from parts is cut into the same parts again, as
long as the separator stands in none of them. For the lines of an armour block
this is `lines_cons`. For its start it is `splitAtLast?_append`: a pattern is
found where the text was joined if it starts the second part and stands nowhere
further on. Nothing is asked of the first part, so the document in front of an
armour block may hold armour blocks of its own. Where two such texts are the same,
the separators behind the places at which they were joined are counted
(`eq_of_count_eq`).
-/
import ModelProtection.Text.Line
import ModelProtection.Text.Space

set_option autoImplicit false

namespace ModelProtection

section Pieces

variable {α : Type} [BEq α] [LawfulBEq α]

/-! ## Pieces -/

theorem piecesAt_append_cons {separator : α} {a : List α} (h : separator ∉ a) (b : List α) :
    piecesAt separator (a ++ separator :: b) = a :: piecesAt separator b := by
  induction a with
  | nil => simp [piecesAt]
  | cons x a ih =>
    have hx : (x == separator) = false := by
      refine beq_eq_false_iff_ne.2 fun he => h ?_
      rw [← he]
      exact List.mem_cons_self
    rw [List.cons_append, piecesAt, if_neg (by simp [hx]),
      ih fun hm => h (List.mem_cons_of_mem _ hm)]

omit [LawfulBEq α] in
theorem piecesAt_eq_splitOn (separator : α) (l : List α) :
    piecesAt separator l = l.splitOn separator := by
  rw [List.splitOn]
  induction l with
  | nil => rfl
  | cons a l ih =>
    rw [piecesAt, List.splitOnP_cons_eq_if_modifyHead, ih]
    by_cases ha : (a == separator) = true
    · rw [if_pos ha, if_pos ha]
    · rw [if_neg ha, if_neg ha]
      cases hpieces : List.splitOnP (· == separator) l with
      | nil => exact absurd hpieces (List.splitOnP_ne_nil _ _)
      | cons first others => rfl

theorem getLastD_piecesAt {separator : α} {l : List α} (h : separator ∉ l) :
    (piecesAt separator l).getLastD [] = l := by
  rw [piecesAt_eq_splitOn, List.splitOn_eq_singleton h]
  rfl

/-- The last piece is what follows the last separator, whatever stands in front of it. -/
theorem getLastD_piecesAt_append_cons {separator : α} (a : List α) {b : List α}
    (h : separator ∉ b) : (piecesAt separator (a ++ separator :: b)).getLastD [] = b := by
  rw [piecesAt_eq_splitOn, List.splitOn_append_cons_self, List.splitOn_eq_singleton h,
    List.getLastD_concat]

omit [BEq α] [LawfulBEq α] in
/-- The last place of an element is the first one from behind. -/
theorem exists_last_append {x : α} {l : List α} (h : x ∈ l) :
    ∃ before after, l = before ++ x :: after ∧ x ∉ after := by
  obtain ⟨after, before, hreverse, hafter⟩ := List.eq_append_cons_of_mem (List.mem_reverse.2 h)
  refine ⟨before.reverse, after.reverse, ?_, mt List.mem_reverse.1 hafter⟩
  rw [← List.reverse_reverse l, hreverse, List.reverse_append, List.reverse_cons, List.append_assoc,
    List.singleton_append]

/-- Nothing is lost when a list is cut. -/
theorem intercalate_piecesAt (separator : α) (l : List α) :
    [separator].intercalate (piecesAt separator l) = l := by
  rw [piecesAt_eq_splitOn, List.intercalate_splitOn]

theorem afterStart?_append (start l : List α) : afterStart? start (start ++ l) = some l := by
  rw [afterStart?, if_pos (List.isPrefixOf_iff_prefix.2 (List.prefix_append start l)),
    List.drop_left]

theorem beforeEnd?_append (l ending : List α) : beforeEnd? ending (l ++ ending) = some l := by
  rw [beforeEnd?, if_pos (List.isSuffixOf_iff_suffix.2 (List.suffix_append l ending)),
    List.length_append, Nat.add_sub_cancel, List.take_left]

theorem eq_append_of_afterStart? {start l rest : List α} (h : afterStart? start l = some rest) :
    l = start ++ rest := by
  rw [afterStart?] at h
  split at h
  · rename_i hstart
    cases h
    exact (List.prefix_iff_eq_append.1 (List.isPrefixOf_iff_prefix.1 hstart)).symm
  · cases h

theorem eq_append_of_beforeEnd? {ending l rest : List α} (h : beforeEnd? ending l = some rest) :
    l = rest ++ ending := by
  rw [beforeEnd?] at h
  split at h
  · rename_i hending
    cases h
    exact (List.suffix_iff_eq_append.1 (List.isSuffixOf_iff_suffix.1 hending)).symm
  · cases h

/-! ## The last place of a pattern -/

/-- A list is split where a pattern starts, and nothing is lost. -/
theorem eq_append_of_splitAtLast? {pattern l before after : List α}
    (h : splitAtLast? pattern l = some (before, after)) : l = before ++ after ∧ pattern <+: after := by
  induction l generalizing before with
  | nil =>
    rw [splitAtLast?] at h
    split at h
    · rename_i hstart
      cases h
      exact ⟨rfl, List.isPrefixOf_iff_prefix.1 hstart⟩
    · cases h
  | cons a l ih =>
    rw [splitAtLast?] at h
    split at h
    · rename_i before' after' hlater
      cases h
      obtain ⟨rfl, hstart⟩ := ih hlater
      exact ⟨rfl, hstart⟩
    · split at h
      · rename_i hstart
        cases h
        exact ⟨rfl, List.isPrefixOf_iff_prefix.1 hstart⟩
      · cases h

omit [LawfulBEq α] in
/-- A pattern that starts the second of two lists, and stands nowhere further on, is last found
there. -/
theorem splitAtLast?_append {pattern : List α} (a : List α) {x : α} {b : List α}
    (hstart : pattern.isPrefixOf (x :: b) = true) (hlater : splitAtLast? pattern b = none) :
    splitAtLast? pattern (a ++ x :: b) = some (a, x :: b) := by
  -- the search looks behind an element before it looks at it, so a place further on always wins
  induction a with
  | nil => rw [List.nil_append, splitAtLast?, hlater, if_pos hstart]
  | cons y a ih => rw [List.cons_append, splitAtLast?, ih]

/-- A pattern does not stand where its first element does not. -/
theorem splitAtLast?_append_of_notMem {x : α} {pattern a b : List α} (ha : x ∉ a)
    (hb : splitAtLast? (x :: pattern) b = none) :
    splitAtLast? (x :: pattern) (a ++ b) = none := by
  induction a with
  | nil => exact hb
  | cons y a ih =>
    have hne : (x == y) = false := by
      refine beq_eq_false_iff_ne.2 fun he => ha ?_
      rw [he]
      exact List.mem_cons_self
    have hnot : ¬ (x :: pattern).isPrefixOf (y :: (a ++ b)) = true := by
      simp [List.isPrefixOf, hne]
    rw [List.cons_append, splitAtLast?, ih fun hm => ha (List.mem_cons_of_mem _ hm), if_neg hnot]

/-- A pattern does not stand where only its first element does. -/
theorem splitAtLast?_cons_of_not_isPrefixOf {x : α} {pattern b : List α}
    (hnot : pattern.isPrefixOf b = false) (hb : splitAtLast? (x :: pattern) b = none) :
    splitAtLast? (x :: pattern) (x :: b) = none := by
  have hnot' : ¬ (x :: pattern).isPrefixOf (x :: b) = true := by simp [List.isPrefixOf, hnot]
  rw [splitAtLast?, hb, if_neg hnot']

/-! ## Two cuts of one list -/

/-- Of two places of a separator, the one with fewer separators behind it is further on. -/
theorem prefix_of_count_le {x : α} {a b a' b' : List α} (h : a ++ x :: b = a' ++ x :: b')
    (hcount : b.count x ≤ b'.count x) : a' <+: a := by
  rcases List.append_eq_append_iff.1 h with ⟨m, rfl, hb⟩ | ⟨m, rfl, -⟩
  · cases m with
    | nil => exact (List.append_nil a).symm ▸ List.prefix_refl a
    | cons y m =>
      -- the separator of the second cut would stand behind that of the first
      obtain ⟨rfl, hrest⟩ := List.cons.inj hb
      rw [hrest, List.append_eq, List.count_append, List.count_cons_self] at hcount
      omega
  · exact List.prefix_append a' m

/-- A place of a separator is known by the number of separators behind it. -/
theorem eq_of_count_eq {x : α} {a b a' b' : List α} (h : a ++ x :: b = a' ++ x :: b')
    (hcount : b.count x = b'.count x) : a = a' ∧ b = b' := by
  have hle := (prefix_of_count_le h (Nat.le_of_eq hcount)).length_le
  have hprefix := prefix_of_count_le h.symm (Nat.le_of_eq hcount.symm)
  obtain rfl := hprefix.eq_of_length_le hle
  exact ⟨rfl, (List.cons.inj (List.append_cancel_left h)).2⟩

end Pieces

/-- The first line of a text. -/
theorem lines_cons {a : List Char} (h : '\n' ∉ a) (b : List Char) :
    lines (a ++ '\n' :: b) = a :: lines b :=
  piecesAt_append_cons h b

/-! ## White space -/

namespace Space

theorem dropWhile_eq_self {l : List Char} (h : ∀ c ∈ l, isSpace c = false) :
    l.dropWhile isSpace = l := by
  cases l with
  | nil => rfl
  | cons c l => rw [List.dropWhile_cons, h c List.mem_cons_self, if_neg (by decide)]

/-- A text without white space is not trimmed. -/
theorem trim_eq_self {l : List Char} (h : ∀ c ∈ l, isSpace c = false) : trim l = l := by
  rw [trim, trimStart, dropWhile_eq_self h, trimEnd,
    dropWhile_eq_self fun c hc => h c (List.mem_reverse.1 hc), List.reverse_reverse]

end Space

end ModelProtection

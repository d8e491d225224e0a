/-
The layout of indented text.

The writer hands out its text in pieces, and decides for each element whether a
comma comes before it. A reader of the text sees items instead: what stands in a
list or an object, with commas between, each on a line of its own. `indented` is
the text as the reader sees it, and it is what the pieces make together
(`pretty_eq_indented`).
-/
import ModelProtection.Json.Tree

set_option autoImplicit false

namespace ModelProtection

namespace Json

/-- Items between two marks. Each stands on a line of its own, one step deeper than the marks, and a
comma is after all but the last; without items there is no line. -/
def enclosed (opener closer : Char) (depth : Nat) : List (List Char) → List Char
  | [] => [opener, closer]
  | item :: items =>
    opener :: lineBreak (depth + 1)
      ++ (',' :: lineBreak (depth + 1)).intercalate (item :: items) ++ lineBreak depth ++ [closer]

/-- A string in its quotes. -/
def quoted (s : String) : List Char := '"' :: escape s.toList ++ ['"']

mutual

/-- The text of a value that stands at a depth. -/
def indented (depth : Nat) : Json → List Char
  | .text s => quoted s
  | .list l => enclosed '[' ']' depth (elementTexts (depth + 1) l)
  | .object l => enclosed '\x7b' '\x7d' depth (memberTexts (depth + 1) l)

/-- The texts of elements that stand at a depth. -/
def elementTexts (depth : Nat) : List Json → List (List Char)
  | [] => []
  | v :: l => indented depth v :: elementTexts depth l

/-- The texts of members that stand at a depth: the key, a colon, a blank and the value. -/
def memberTexts (depth : Nat) : List (String × Json) → List (List Char)
  | [] => []
  | (k, v) :: l => (quoted k ++ ':' :: ' ' :: indented depth v) :: memberTexts depth l

end

/-! ## The pieces of a text -/

/-- What the pieces of items make: before each there is a line break, and a comma before that unless
the item is the first. -/
def itemLines (depth : Nat) (first : Bool) : List (List Char) → List Char
  | [] => []
  | item :: items =>
    (if first then [] else [',']) ++ lineBreak (depth + 1) ++ item ++ itemLines depth false items

/-- Commas before all items but the first are commas between the items. -/
theorem itemLines_cons (depth : Nat) (item : List Char) (items : List (List Char)) :
    itemLines depth true (item :: items)
      = lineBreak (depth + 1) ++ (',' :: lineBreak (depth + 1)).intercalate (item :: items) := by
  have hrest : ∀ item, item ++ itemLines depth false items
      = (',' :: lineBreak (depth + 1)).intercalate (item :: items) := by
    induction items with
    | nil =>
      intro item
      rw [itemLines, List.append_nil, List.intercalate_singleton]
    | cons next items ih =>
      intro item
      rw [List.intercalate_cons_cons, ← ih next, itemLines, List.append_assoc, List.append_assoc,
        List.append_assoc]
      rfl
  rw [itemLines, if_pos rfl, List.nil_append, List.append_assoc, hrest]

theorem enclosed_cons (opener closer : Char) (depth : Nat) (item : List Char)
    (items : List (List Char)) :
    enclosed opener closer depth (item :: items)
      = opener :: itemLines depth true (item :: items) ++ lineBreak depth ++ [closer] := by
  rw [enclosed, itemLines_cons]
  rfl

theorem flatten_quotedPieces (s : String) : (quotedPieces s).flatten = quoted s := by
  simp only [quotedPieces, quoted, List.flatten_cons, List.flatten_nil, List.append_nil,
    List.nil_append, List.cons_append]

mutual

theorem flatten_pieces : ∀ (v : Json) (depth : Nat), (pieces depth v).flatten = indented depth v
  | .text s, depth => by rw [pieces, indented, flatten_quotedPieces]
  | .list [], depth => rfl
  | .list (v :: l), depth => by
    have hitems := flatten_elementPieces (v :: l) depth true
    rw [elementTexts] at hitems
    simp only [pieces, indented, elementTexts, enclosed_cons, List.flatten_append, List.flatten_cons,
      List.flatten_nil, List.append_nil, hitems, List.append_assoc, List.cons_append, List.nil_append]
  | .object [], depth => rfl
  | .object ((k, v) :: l), depth => by
    have hitems := flatten_memberPieces ((k, v) :: l) depth true
    rw [memberTexts] at hitems
    simp only [pieces, indented, memberTexts, enclosed_cons, List.flatten_append, List.flatten_cons,
      List.flatten_nil, List.append_nil, hitems, List.append_assoc, List.cons_append, List.nil_append]

theorem flatten_elementPieces : ∀ (l : List Json) (depth : Nat) (first : Bool),
    (elementPieces depth first l).flatten = itemLines depth first (elementTexts (depth + 1) l)
  | [], _, _ => rfl
  | v :: l, depth, first => by
    rw [elementPieces, elementTexts, itemLines, List.cons_append, List.flatten_cons, List.flatten_append,
      flatten_pieces v (depth + 1), flatten_elementPieces l depth false]
    simp only [List.append_assoc]

theorem flatten_memberPieces : ∀ (l : List (String × Json)) (depth : Nat) (first : Bool),
    (memberPieces depth first l).flatten = itemLines depth first (memberTexts (depth + 1) l)
  | [], _, _ => rfl
  | (k, v) :: l, depth, first => by
    rw [memberPieces, memberTexts, itemLines]
    simp only [List.cons_append, List.flatten_cons, List.flatten_append, flatten_quotedPieces,
      flatten_pieces v (depth + 1), flatten_memberPieces l depth false, List.append_assoc,
      List.nil_append]

end

/-- What the pieces of a tree make is its indented text. -/
theorem pretty_eq_indented (v : Json) : v.pretty = v.indented 0 := flatten_pieces v 0

end Json

end ModelProtection

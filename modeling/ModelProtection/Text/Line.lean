/-
Cutting text.

A list is cut at a separator into pieces, of which there is always one more than
there are separators, and a known beginning or ending is taken off it. The lines
of a text are its pieces between line ends.
-/
set_option autoImplicit false

namespace ModelProtection

section Pieces

variable {α : Type} [BEq α]

/-- The pieces of a list between the places where `separator` stands. -/
def piecesAt (separator : α) : List α → List (List α)
  | [] => [[]]
  | a :: l =>
    if a == separator then [] :: piecesAt separator l
    else
      match piecesAt separator l with
      | [] => [[a]]
      | first :: others => (a :: first) :: others

/-- What follows a beginning, if the list has it. -/
def afterStart? (start l : List α) : Option (List α) :=
  if start.isPrefixOf l then some (l.drop start.length) else none

/-- What is in front of an ending, if the list has it. -/
def beforeEnd? (ending l : List α) : Option (List α) :=
  if ending.isSuffixOf l then some (l.take (l.length - ending.length)) else none

/-- The list in front of the last place where `pattern` stands, and the list from there on. -/
def splitAtLast? (pattern : List α) : List α → Option (List α × List α)
  | [] => if pattern.isPrefixOf [] then some ([], []) else none
  | a :: l =>
    match splitAtLast? pattern l with
    | some (before, after) => some (a :: before, after)
    | none => if pattern.isPrefixOf (a :: l) then some ([], a :: l) else none

end Pieces

/-- The lines of a text, without their ends. -/
def lines : List Char → List (List Char) := piecesAt '\n'

end ModelProtection

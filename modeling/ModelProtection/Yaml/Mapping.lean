/-
Flat mappings.

A text holds one document, and the document is empty or one mapping from scalars
to scalars, indented or between braces. Tags are written out, and aliases are
replaced by the scalars that they stand for.
-/
import ModelProtection.Text.Line
import ModelProtection.Yaml.Token

set_option autoImplicit false

namespace ModelProtection

namespace Yaml

/-- A scalar of a document. -/
structure Scalar where
  /-- The text. -/
  text : String
  /-- Whether it is written without quotes and not as a block. -/
  isPlain : Bool
  /-- The tag, written out. -/
  tag : Option Bytes := none
deriving DecidableEq

/-- The scalar that stands where nothing is written. -/
def Scalar.empty : Scalar := { text := "", isPlain := true }

/-! ## Nodes -/

/-- A key or a value. -/
inductive Node where
  /-- A scalar with its anchor. -/
  | scalar (anchor : Option (List Char)) (scalar : Scalar)
  /-- A name that stands for a node in front. -/
  | alias (name : List Char)
deriving DecidableEq

/-- The node that stands where nothing is written. -/
def Node.empty : Node := .scalar none .empty

/-- A node, or a mark between nodes. -/
inductive Item where
  /-- A node. -/
  | node (node : Node)
  /-- The beginning of an indented mapping with its anchor. -/
  | blockStart (anchor : Option (List Char))
  /-- The end of an indented mapping. -/
  | blockEnd
  /-- The beginning of a mapping between braces with its anchor. -/
  | flowStart (anchor : Option (List Char))
  /-- The end of a mapping between braces. -/
  | flowEnd
  /-- A comma. -/
  | separator
  /-- The beginning of a key. -/
  | key
  /-- The beginning of a value. -/
  | value
deriving DecidableEq

/-- The handles of tags and what they stand for. -/
abbrev Handles := List (List Char × Bytes)

/-- The handles that every document has. -/
def defaultHandles : Handles :=
  [(['!'], textBytes "!"), (['!', '!'], textBytes "tag:yaml.org,2002:")]

/-- What stands in front of a node. -/
structure Properties where
  /-- The anchor. -/
  anchor : Option (List Char) := none
  /-- The tag, written out. -/
  tag : Option Bytes := none

namespace Properties

/-- Whether nothing stands there. -/
def isEmpty (p : Properties) : Bool := p.anchor.isNone && p.tag.isNone

/-- The node with these properties of which nothing else is written. -/
def bare (p : Properties) : List Item :=
  if p.isEmpty then [] else [.node (.scalar p.anchor { Scalar.empty with tag := p.tag })]

/-- The scalar with these properties. The tag that is an exclamation mark alone says nothing about a
scalar that is written. -/
def scalar (p : Properties) (isPlain : Bool) (text : List Char) : Item :=
  let tag := if p.tag = some (textBytes "!") then none else p.tag
  .node (.scalar p.anchor { text := String.ofList text, isPlain, tag })

end Properties

/-- Puts nodes together from their properties and what they are. Tokens between documents are no
items. -/
def itemsFrom (handles : Handles) : Properties → List Token → Option (List Item)
  | p, [] => some p.bare
  | p, t :: l =>
    match t with
    | .anchor name =>
      if p.anchor.isNone then itemsFrom handles { p with anchor := some name } l
      else (itemsFrom handles { anchor := some name } l).map (p.bare ++ ·)
    | .tag handle suffix => do
      let start ← if handle.isEmpty then some [] else handles.lookup handle
      let tag := some (start ++ suffix)
      if p.tag.isNone then itemsFrom handles { p with tag } l
      else (itemsFrom handles { tag } l).map (p.bare ++ ·)
    | .scalar isPlain text => (itemsFrom handles {} l).map (p.scalar isPlain text :: ·)
    | .blockStart => (itemsFrom handles {} l).map (.blockStart p.anchor :: ·)
    | .flowStart => (itemsFrom handles {} l).map (.flowStart p.anchor :: ·)
    | .alias name => (itemsFrom handles {} l).map (p.bare ++ .node (.alias name) :: ·)
    | .blockEnd => (itemsFrom handles {} l).map (p.bare ++ .blockEnd :: ·)
    | .flowEnd => (itemsFrom handles {} l).map (p.bare ++ .flowEnd :: ·)
    | .separator => (itemsFrom handles {} l).map (p.bare ++ .separator :: ·)
    | .key => (itemsFrom handles {} l).map (p.bare ++ .key :: ·)
    | .value => (itemsFrom handles {} l).map (p.bare ++ .value :: ·)
    | .version .. => none
    | .handle .. => none
    | .documentStart => none
    | .documentEnd => none

/-! ## Entries -/

/-- A key and its value. -/
abbrev Entry (α : Type) := α × α

/-- The entry behind the mark of a key. A missing key or value is the empty node. -/
def entry? : List Item → Option (Entry Node)
  | [.node k, .value, .node v] => some (k, v)
  | [.node k, .value] => some (k, .empty)
  | [.node k] => some (k, .empty)
  | [.value, .node v] => some (.empty, v)
  | [.value] => some (.empty, .empty)
  | [] => some (.empty, .empty)
  | _ => none

/-- The entry between two commas. A node without a mark is a key without a value. -/
def flowEntry? : List Item → Option (Entry Node)
  | .key :: l => entry? l
  | [.node k] => some (k, .empty)
  | _ => none

/-- The entries of an indented mapping. A key stands in front of each. -/
def blockEntries? (l : List Item) : Option (List (Entry Node)) :=
  match piecesAt .key l with
  | [] :: pieces => pieces.mapM entry?
  | _ => none

/-- The entries of a mapping between braces. A comma may stand behind the last one. -/
def flowEntries? (l : List Item) : Option (List (Entry Node)) :=
  let pieces := piecesAt .separator l
  (if pieces.getLast? = some [] then pieces.dropLast else pieces).mapM flowEntry?

/-- The items in front of the last one, if the last one is `closer` and no other is. -/
def enclosed? (closer : Item) (l : List Item) : Option (List Item) :=
  if l.getLast? = some closer ∧ closer ∉ l.dropLast then some l.dropLast else none

/-- The anchor and the entries of the node of a document. A node of which nothing is written but its
properties has no entries. -/
def root? : List Item → Option (Option (List Char) × List (Entry Node))
  | .blockStart anchor :: l => do return (anchor, ← blockEntries? (← enclosed? .blockEnd l))
  | .flowStart anchor :: l => do return (anchor, ← flowEntries? (← enclosed? .flowEnd l))
  | [.node (.scalar anchor s)] => if s.isPlain && s.text.isEmpty then some (anchor, []) else none
  | _ => none

/-! ## Aliases -/

/-- The anchors of a document. Each has the number of different names in front of it, and an alias
stands for the last node with the number of its name. A name that is used again takes a new
number, which the next new name takes as well. -/
structure Anchors where
  /-- The names and their numbers. -/
  numbers : List (List Char × Nat) := []
  /-- The nodes with their numbers, the last one first. A mapping is no scalar. -/
  targets : List (Nat × Option Scalar) := []

namespace Anchors

/-- The anchors with one more. -/
def add (a : Anchors) (name : Option (List Char)) (target : Option Scalar) : Anchors :=
  match name with
  | none => a
  | some name =>
    let number := a.numbers.length
    { numbers := (name, number) :: a.numbers.filter (·.1 ≠ name)
      targets := (number, target) :: a.targets }

/-- What is known about nodes in their order, in front of each: a scalar, or the number of an
alias. -/
def collect : Anchors → List Node → Option (Anchors × List (Scalar ⊕ Nat))
  | a, [] => some (a, [])
  | a, .scalar anchor s :: l => do
    let (a, r) ← collect (a.add anchor (some s)) l
    return (a, .inl s :: r)
  | a, .alias name :: l => do
    let number ← a.numbers.lookup name
    let (a, r) ← collect a l
    return (a, .inr number :: r)

/-- The scalar that a node is or stands for. -/
def scalar? (a : Anchors) : Scalar ⊕ Nat → Option Scalar
  | .inl s => some s
  | .inr number => (a.targets.lookup number).join

end Anchors

/-- Every second element of a list with the one behind it. -/
def paired {α : Type} : List α → List (α × α)
  | a :: b :: l => (a, b) :: paired l
  | _ => []

/-- The entries of a mapping as scalars. -/
def resolve? (anchor : Option (List Char)) (entries : List (Entry Node)) :
    Option (List (Entry Scalar)) := do
  let anchors : Anchors := {}
  let (anchors, nodes) ← (anchors.add anchor none).collect (entries.flatMap fun (k, v) => [k, v])
  return paired (← nodes.mapM anchors.scalar?)

/-! ## Documents -/

/-- Whether a token stands between documents. -/
def isOutside : Token → Bool
  | .documentStart => true
  | .documentEnd => true
  | .version .. => true
  | .handle .. => true
  | _ => false

/-- Whether a token is a directive. -/
def isDirective : Token → Bool
  | .version .. => true
  | .handle .. => true
  | _ => false

/-- What directives say: the version, if one does, and the handles. A text of another version than
1.1 and 1.2 is refused, and so is what is said twice. -/
def handles? : List Token → Option Handles
  | [] => some []
  | .version major minor :: l =>
    if major = 1 ∧ (minor = 1 ∨ minor = 2) ∧ l.all (fun t => t matches .handle ..) then handles? l
    else none
  | .handle name start :: l => do
    let others ← handles? l
    if (others.lookup name).isSome then none else some ((name, start) :: others)
  | _ => none

/-- The items of the one document in a list of tokens. Without a mark in front there are no
directives, and a document of which nothing is written has a mark or is all there is. -/
def document? (l : List Token) : Option (List Item) := do
  let directives := l.takeWhile isDirective
  let handles ← handles? directives
  let l := l.dropWhile isDirective
  let content ← match l with
    | .documentStart :: l => some l
    | l => if directives.isEmpty ∧ l.head? ≠ some .documentEnd then some l else none
  if (content.dropWhile (!isOutside ·)).all (· == .documentEnd) then
    itemsFrom (handles ++ defaultHandles) {} (content.takeWhile (!isOutside ·))
  else none

/-- The entries of the flat mapping that a text holds. An empty document has none. -/
def flatMapping? (text : String) : Option (List (Entry Scalar)) := do
  match ← document? (← tokens? text.toList) with
  | [] => return []
  | items =>
    let (anchor, entries) ← root? items
    resolve? anchor entries

end Yaml

end ModelProtection

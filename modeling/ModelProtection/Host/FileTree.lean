/-
Trees of files.

A tree knows what stands at each location; a location is the list of names that
leads there from the root. A path is followed name by name: each name but the
last must lead to a directory, an empty name or a dot stays, two dots go up. A
path that ends with a slash can only mean a directory. Reading and writing a
whole file are the only operations, and writing makes the file if its directory
is there.
-/
import ModelProtection.Host.Path

set_option autoImplicit false

namespace ModelProtection

/-- Why a file could not be read or written. -/
inductive FileError where
  /-- Nothing stands at the path. -/
  | notFound
  /-- A name that leads on stands for a file. -/
  | notDirectory
  /-- A directory stands where a file is wanted. -/
  | isDirectory
  /-- A name or the path is too long. -/
  | nameTooLong
  /-- The path has a zero byte. -/
  | zeroByte
  /-- Anything else that a system reports. -/
  | reported (text : String)
deriving DecidableEq, Repr

/-- The wording of an error. -/
def FileError.message : FileError → String
  | .notFound => "No such file or directory (os error 2)"
  | .notDirectory => "Not a directory (os error 20)"
  | .isDirectory => "Is a directory (os error 21)"
  | .nameTooLong => "File name too long (os error 36)"
  | .zeroByte => "file name contained an unexpected NUL byte"
  | .reported text => text

instance : ToString FileError := ⟨FileError.message⟩

/-- The names that lead from the root to a place in a tree. -/
abbrev Location := List Bytes

/-- What stands at a location. -/
inductive Node where
  /-- A file with its content. -/
  | file (content : Bytes)
  /-- A directory. -/
  | directory
deriving DecidableEq

/-- A tree of files. -/
structure FileTree where
  /-- What stands where. The root is a directory in any case. -/
  entries : List (Location × Node)
  /-- The directory at which relative paths start. -/
  workingDirectory : Location

namespace FileTree

/-! ## Locations -/

/-- What stands at a location. -/
def node? (t : FileTree) (l : Location) : Option Node :=
  if l = [] then some .directory else t.entries.lookup l

/-- The tree with `node` at a location. -/
def put (t : FileTree) (l : Location) (node : Node) : FileTree :=
  { t with entries := (l, node) :: t.entries.filter (·.1 ≠ l) }

theorem lookup_filter_ne {l l' : Location} (h : l' ≠ l) (entries : List (Location × Node)) :
    (entries.filter (·.1 ≠ l)).lookup l' = entries.lookup l' := by
  induction entries with
  | nil => rfl
  | cons e entries ih =>
    obtain ⟨k, node⟩ := e
    by_cases hk : k = l
    · have hne : (l' == k) = false := beq_false_of_ne (by rw [hk]; exact h)
      simp only [List.lookup_cons, hne]
      rw [List.filter_cons_of_neg (by simp [hk])]
      exact ih
    · rw [List.filter_cons_of_pos (by simp [hk])]
      simp only [List.lookup_cons, ih]

@[simp] theorem node?_put_self {t : FileTree} {l : Location} {node : Node} (h : l ≠ []) :
    (t.put l node).node? l = some node := by
  simp [node?, put, h]

theorem node?_put_of_ne {t : FileTree} {l l' : Location} {node : Node} (h : l' ≠ l) :
    (t.put l node).node? l' = t.node? l' := by
  have hb : (l' == l) = false := beq_false_of_ne h
  simp only [node?, put, List.lookup_cons, hb]
  rw [lookup_filter_ne h]

/-! ## Paths -/

/-- The most bytes in a name. -/
def mostName : Nat := 255

/-- The most bytes in a path. -/
def mostPath : Nat := 4095

/-- The name that stays where it is. -/
def dot : Bytes := [0x2E]

/-- The name that goes up. -/
def dots : Bytes := [0x2E, 0x2E]

/-- The place that a name leads to from a directory. -/
def enter (l : Location) (name : Bytes) : Except FileError Location :=
  if name = dot then .ok l
  else if name = dots then .ok l.dropLast
  else if mostName < name.length then .error .nameTooLong
  else .ok (l ++ [name])

/-- The directory that a list of names leads to. -/
def descend (t : FileTree) (l : Location) : List Bytes → Except FileError Location
  | [] => .ok l
  | name :: names =>
    match enter l name with
    | .error e => .error e
    | .ok next =>
      match t.node? next with
      | some .directory => t.descend next names
      | some (.file _) => .error .notDirectory
      | none => .error .notFound

/-- The last step of a path. -/
structure LastStep where
  /-- The directory from which the step is taken. -/
  directory : Location
  /-- The name, or a dot where the path names the directory itself. -/
  name : Bytes
  /-- Whether the path ends with a slash. -/
  slashed : Bool

/-- Follows a path up to its last step. -/
def lastStep (t : FileTree) (p : Path) : Except FileError LastStep :=
  if p.toBytes.contains 0 then .error .zeroByte
  else if p.toBytes = [] then .error .notFound
  else if mostPath < p.toBytes.length then .error .nameTooLong
  else
    let start := if p.isAbsolute then [] else t.workingDirectory
    let names := p.names
    match t.descend start names.dropLast with
    | .error e => .error e
    | .ok directory => .ok ⟨directory, names.getLastD dot, p.endsWithSlash⟩

/-- What stands at a path. -/
def find (t : FileTree) (p : Path) : Except FileError Node :=
  match t.lastStep p with
  | .error e => .error e
  | .ok step =>
    match enter step.directory step.name with
    | .error e => .error e
    | .ok l =>
      match t.node? l with
      | none => .error .notFound
      | some (.file content) => if step.slashed then .error .notDirectory else .ok (.file content)
      | some .directory => .ok .directory

/-- Whether something stands at a path. -/
def has (t : FileTree) (p : Path) : Bool :=
  match t.find p with
  | .ok _ => true
  | .error _ => false

/-- The content of the file at a path. -/
def read (t : FileTree) (p : Path) : Except FileError Bytes :=
  match t.find p with
  | .error e => .error e
  | .ok .directory => .error .isDirectory
  | .ok (.file content) => .ok content

/-- The location of the file that is written at a path. -/
def writable (t : FileTree) (p : Path) : Except FileError Location :=
  match t.lastStep p with
  | .error e => .error e
  | .ok step =>
    if step.slashed then .error .isDirectory
    else
      match enter step.directory step.name with
      | .error e => .error e
      | .ok l => if t.node? l = some .directory then .error .isDirectory else .ok l

/-- The tree with new content in the file at a path. -/
def write (t : FileTree) (p : Path) (content : Bytes) : Except FileError FileTree :=
  (t.writable p).map fun l => t.put l (.file content)

end FileTree

end ModelProtection

/-
Writing a file changes that file and nothing else.

Which location a path leads to depends on the directories of a tree and on
nothing else. A write puts a file where no directory stands, so the tree that it
leaves has the same directories (`SameDirectories`): every path that could be
written still leads to the same place, the file that was written is read back at
its own path, and all other locations hold what they held.
-/
import ModelProtection.Host.World

set_option autoImplicit false

namespace ModelProtection

namespace FileTree

/-! ## Directories -/

/-- Two trees with the same directories, seen from the same one. -/
structure SameDirectories (t t' : FileTree) : Prop where
  /-- The same locations are directories. -/
  node? : ∀ l, t'.node? l = some .directory ↔ t.node? l = some .directory
  /-- Relative paths start at the same place. -/
  workingDirectory : t'.workingDirectory = t.workingDirectory

/-- A step of a path leads on if there is a directory. -/
theorem descend_cons_eq_ok_iff {t : FileTree} {start l : Location} {name : Bytes}
    {names : List Bytes} :
    t.descend start (name :: names) = .ok l ↔ ∃ next, enter start name = .ok next
      ∧ t.node? next = some .directory ∧ t.descend next names = .ok l := by
  rw [descend]
  cases hnext : enter start name with
  | error e => exact ⟨nofun, fun ⟨_, h, _⟩ => nomatch h⟩
  | ok next =>
    constructor
    · intro h
      refine ⟨next, rfl, ?_⟩
      dsimp only at h
      split at h
      · rename_i hnode
        exact ⟨hnode, h⟩
      · cases h
      · cases h
    · rintro ⟨_, hnext', hnode, h⟩
      cases hnext'
      dsimp only
      rw [hnode]
      exact h

theorem descend_eq_ok_iff {t t' : FileTree} (h : SameDirectories t t') {start l : Location}
    {names : List Bytes} : t'.descend start names = .ok l ↔ t.descend start names = .ok l := by
  induction names generalizing start with
  | nil => exact Iff.rfl
  | cons name names ih =>
    rw [descend_cons_eq_ok_iff, descend_cons_eq_ok_iff]
    exact exists_congr fun next => and_congr Iff.rfl (and_congr (h.node? next) ih)

theorem lastStep_eq_ok_iff {t t' : FileTree} (h : SameDirectories t t') {p : Path} {s : LastStep} :
    t'.lastStep p = .ok s ↔ t.lastStep p = .ok s := by
  simp only [lastStep, h.workingDirectory]
  -- a path with a zero byte, an empty one and one that is too long fail in both
  split
  · exact Iff.rfl
  split
  · exact Iff.rfl
  split
  · exact Iff.rfl
  have hdescend : ∀ l,
      t'.descend (if p.isAbsolute then [] else t.workingDirectory) p.names.dropLast = .ok l
        ↔ t.descend (if p.isAbsolute then [] else t.workingDirectory) p.names.dropLast = .ok l :=
    fun _ => descend_eq_ok_iff h
  constructor
  · intro hs
    split at hs
    · cases hs
    · rename_i l hl
      rw [(hdescend l).1 hl]
      exact hs
  · intro hs
    split at hs
    · cases hs
    · rename_i l hl
      rw [(hdescend l).2 hl]
      exact hs

/-- What it takes for a path to be written. -/
theorem writable_eq_ok_iff {t : FileTree} {p : Path} {l : Location} :
    t.writable p = .ok l ↔ ∃ s, t.lastStep p = .ok s ∧ s.slashed = false
      ∧ enter s.directory s.name = .ok l ∧ t.node? l ≠ some .directory := by
  constructor
  · intro h
    unfold writable at h
    split at h
    · cases h
    rename_i s hs
    split at h
    · cases h
    rename_i hslash
    split at h
    · cases h
    rename_i l' hl'
    split at h
    · cases h
    rename_i hnode
    cases h
    exact ⟨s, hs, Bool.eq_false_iff.2 hslash, hl', hnode⟩
  · rintro ⟨s, hs, hslash, hl, hnode⟩
    simp only [writable, hs, hslash, Bool.false_eq_true, if_false, hl, if_neg hnode]

/-- Paths that can be written lead to the same places where the directories are the same. -/
theorem writable_eq_ok_iff_of_sameDirectories {t t' : FileTree} (h : SameDirectories t t') {p : Path}
    {l : Location} : t'.writable p = .ok l ↔ t.writable p = .ok l := by
  rw [writable_eq_ok_iff, writable_eq_ok_iff]
  refine exists_congr fun s => and_congr (lastStep_eq_ok_iff h) (and_congr Iff.rfl
    (and_congr Iff.rfl (not_congr (h.node? l))))

/-! ## Writing -/

variable {t t' : FileTree} {p : Path} {l : Location} {content : Bytes}

theorem ne_root_of_writable (h : t.writable p = .ok l) : l ≠ [] := by
  rintro rfl
  obtain ⟨-, -, -, -, hnode⟩ := writable_eq_ok_iff.1 h
  exact hnode rfl

theorem write_eq_ok_iff :
    t.write p content = .ok t' ↔ ∃ l, t.writable p = .ok l ∧ t' = t.put l (.file content) := by
  unfold write
  cases t.writable p with
  | error e => exact ⟨nofun, nofun⟩
  | ok l => exact ⟨fun h => ⟨l, rfl, by cases h; rfl⟩, fun ⟨_, h, h'⟩ => by cases h; rw [h']; rfl⟩

/-- A path that can be written is written. -/
theorem write_of_writable (h : t.writable p = .ok l) (content : Bytes) :
    t.write p content = .ok (t.put l (.file content)) :=
  write_eq_ok_iff.2 ⟨l, h, rfl⟩

theorem sameDirectories_put (h : t.node? l ≠ some .directory) (hl : l ≠ []) (content : Bytes) :
    SameDirectories t (t.put l (.file content)) where
  node? l' := by
    -- at the place itself there is a file now, and no directory was there before
    by_cases hl' : l' = l
    · subst hl'
      rw [node?_put_self hl]
      exact iff_of_false nofun h
    · rw [node?_put_of_ne hl']
  workingDirectory := rfl

theorem sameDirectories_of_writable (h : t.writable p = .ok l) (content : Bytes) :
    SameDirectories t (t.put l (.file content)) := by
  obtain ⟨-, -, -, -, hnode⟩ := writable_eq_ok_iff.1 h
  exact sameDirectories_put hnode (ne_root_of_writable h) content

/-- The file at a path that can be written is read at that path. -/
theorem read_of_writable (h : t.writable p = .ok l) (hfile : t.node? l = some (.file content)) :
    t.read p = .ok content := by
  obtain ⟨s, hs, hslash, hl, -⟩ := writable_eq_ok_iff.1 h
  simp only [read, find, hs, hl, hfile, hslash, Bool.false_eq_true, if_false]

/-- Where nothing stands at a path and the path can be written, the file is a new one. -/
theorem node?_eq_none_of_writable (h : t.writable p = .ok l) (hhas : t.has p = false) :
    t.node? l = none := by
  obtain ⟨s, hs, hslash, hl, hdirectory⟩ := writable_eq_ok_iff.1 h
  cases hnode : t.node? l with
  | none => rfl
  | some node =>
    cases node with
    | directory => exact absurd hnode hdirectory
    | file content =>
      simp only [has, find, hs, hl, hnode, hslash, Bool.false_eq_true, if_false] at hhas
      cases hhas

/-- What is written is read back. -/
theorem read_write (h : t.write p content = .ok t') : t'.read p = .ok content := by
  obtain ⟨l, hl, rfl⟩ := write_eq_ok_iff.1 h
  exact read_of_writable
    ((writable_eq_ok_iff_of_sameDirectories (sameDirectories_of_writable hl content)).2 hl)
    (node?_put_self (ne_root_of_writable hl))

/-- After two writes the second file holds what was written, the first one does unless it is the same
file, and everything else is as it was. -/
theorem write_write {t₁ t₂ : FileTree} {p q : Path} {a b : Bytes} (hp : t.write p a = .ok t₁)
    (hq : t₁.write q b = .ok t₂) :
    ∃ l l', t.writable p = .ok l ∧ t.writable q = .ok l'
      ∧ t₂.read p = .ok (if l = l' then b else a) ∧ t₂.read q = .ok b
      ∧ ∀ m, m ≠ l → m ≠ l' → t₂.node? m = t.node? m := by
  have hread := read_write hq
  obtain ⟨l, hl, rfl⟩ := write_eq_ok_iff.1 hp
  obtain ⟨l', hl', rfl⟩ := write_eq_ok_iff.1 hq
  have hsame := sameDirectories_of_writable hl a
  have hsame' := sameDirectories_of_writable hl' b
  refine ⟨l, l', hl, (writable_eq_ok_iff_of_sameDirectories hsame).1 hl', ?_, hread, ?_⟩
  · -- both paths lead where they led before the writes
    have hplace := (writable_eq_ok_iff_of_sameDirectories hsame').2
      ((writable_eq_ok_iff_of_sameDirectories hsame).2 hl)
    refine read_of_writable hplace ?_
    by_cases hll' : l = l'
    · subst hll'
      rw [if_pos rfl, node?_put_self (ne_root_of_writable hl)]
    · rw [if_neg hll', node?_put_of_ne hll', node?_put_self (ne_root_of_writable hl)]
  · intro m hm hm'
    rw [node?_put_of_ne hm', node?_put_of_ne hm]

end FileTree

end ModelProtection

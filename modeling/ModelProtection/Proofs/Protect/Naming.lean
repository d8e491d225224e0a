/-
The names of files in documents.

A document records a file under what follows the last slash of its path
(`IsBase`), cut to the bound of names. The path is any bytes, and its bound is that
of the text in which each malformed part takes the three bytes of a mark; the name is
part of the same text. So once a request has been accepted no name of its files is cut.
-/
import ModelProtection.Proofs.Protect.Totality
import ModelProtection.Proofs.Text.Boundary
import ModelProtection.Proofs.Text.Cutting

set_option autoImplicit false

namespace ModelProtection

/-! ## The last name of a path -/

namespace Path

variable {p : Path} {base : String}

/-- A text is what follows the last slash of a path that is shown as text, or all of it if there is no
slash. -/
structure IsBase (p : Path) (base : String) : Prop where
  ends : p.shown.toList = base.toList ∨ ∃ before, p.shown.toList = before ++ '/' :: base.toList
  no_slash : '/' ∉ base.toList

theorem IsBase.eq_baseName (h : p.IsBase base) : base = p.baseName := by
  apply String.toList_inj.1
  rw [baseName, String.toList_ofList, afterLastSlash]
  rcases h.ends with hall | ⟨before, hends⟩
  · rw [hall, getLastD_piecesAt h.no_slash]
  · rw [hends, getLastD_piecesAt_append_cons before h.no_slash]

theorem isBase_baseName (p : Path) : p.IsBase p.baseName := by
  have hbase : ∃ base, p.IsBase base := by
    by_cases hslash : '/' ∈ p.shown.toList
    · obtain ⟨before, after, hends, hafter⟩ := exists_last_append hslash
      refine ⟨String.ofList after, .inr ⟨before, ?_⟩, ?_⟩
      · rwa [String.toList_ofList]
      · rwa [String.toList_ofList]
    · exact ⟨p.shown, .inl rfl, hslash⟩
  obtain ⟨base, h⟩ := hbase
  rwa [← h.eq_baseName]

/-- The last name is no longer than the path. -/
theorem byteLength_baseName_le (p : Path) : byteLength p.baseName ≤ byteLength p.shown := by
  rw [byteLength, byteLength, textBytes, textBytes]
  rcases (isBase_baseName p).ends with hall | ⟨before, hends⟩
  · exact Nat.le_of_eq (by rw [hall])
  · rw [hends, Utf8.encode_append, Utf8.encode_cons, List.length_append, List.length_append]
    omega

theorem slash_notMem_artifactName (p : Path) : '/' ∉ p.artifactName.toList := by
  intro h
  have hstarts := (Bound.cut_truncate p.baseName Bound.name).starts
  exact (isBase_baseName p).no_slash (hstarts.subset h)

end Path

/-! ## The names in a request -/

namespace ProtectRequest

variable {r : ProtectRequest}

theorem forM_eq_ok_iff {check : Path → Except Bound.Error Unit} {paths : List Path} :
    paths.forM check = .ok () ↔ ∀ p ∈ paths, check p = .ok () := by
  induction paths with
  | nil => exact iff_of_true rfl fun _ hp => absurd hp List.not_mem_nil
  | cons p paths ih =>
    rw [List.forall_mem_cons, ← ih]
    constructor
    · intro h
      obtain ⟨⟨⟩, hfirst, hrest⟩ := eq_ok_of_bind h
      exact ⟨hfirst, hrest⟩
    · rintro ⟨hfirst, hrest⟩
      show (check p >>= fun _ => paths.forM check) = .ok ()
      rw [hfirst]
      exact hrest

theorem byteLength_shown_le (h : r.validate = .ok ()) :
    ∀ p ∈ r.inputs, byteLength p.shown ≤ Bound.path := by
  rw [validate] at h
  split at h
  · cases h
  obtain ⟨⟨⟩, hinputs, -⟩ := eq_ok_of_bind h
  intro p hp
  exact Bound.le_of_require (forM_eq_ok_iff.1 (eq_ok_of_bound hinputs) p hp)

/-- The files of a request are checked on their own. -/
theorem validate_withInputs (h : r.validate = .ok ()) {paths : List Path} (hne : paths ≠ [])
    (hpaths : ∀ p ∈ paths, requirePath "model file path" p = .ok ()) :
    { r with inputs := paths }.validate = .ok () := by
  rw [validate] at h ⊢
  split at h
  · cases h
  obtain ⟨⟨⟩, -, hrest⟩ := eq_ok_of_bind h
  rw [if_neg (by rwa [List.isEmpty_iff]), forM_eq_ok_iff.2 hpaths]
  exact hrest

theorem artifactName_eq_baseName (h : r.validate = .ok ()) {p : Path} (hp : p ∈ r.inputs) :
    p.artifactName = p.baseName := by
  apply Bound.truncate_eq_self
  -- the bound of paths and the bound of names are the same
  exact Nat.le_trans p.byteLength_baseName_le (byteLength_shown_le h p hp)

end ProtectRequest

/-! ## Paths that are no text -/

namespace Path

/-- A path of bytes that begin no character. -/
def malformed (n : Nat) : Path := ⟨List.replicate n 0xFF⟩

theorem shown_malformed (n : Nat) :
    (malformed n).shown = String.ofList (List.replicate n Utf8.replacement) :=
  Utf8.decodeLossy_replicate n

theorem byteLength_shown_malformed (n : Nat) : byteLength (malformed n).shown = n * 3 := by
  rw [shown_malformed, byteLength, textBytes_ofList]
  exact Utf8.length_encode_replicate n Utf8.replacement

theorem isBase_malformed (n : Nat) : (malformed n).IsBase (malformed n).shown := by
  refine ⟨.inl rfl, fun hslash => ?_⟩
  rw [shown_malformed, String.toList_ofList] at hslash
  exact absurd (List.eq_of_mem_replicate hslash) (by decide)

/-- The next mark would not fit any more. -/
theorem cut_malformed {n most : Nat} (hfits : n * 3 ≤ most) (hlong : most < (n + 1) * 3) :
    Bound.Cut (malformed (n + 1)).shown most (malformed n).shown := by
  refine ⟨?_, by rwa [byteLength_shown_malformed], ?_⟩
  · rw [shown_malformed, shown_malformed, String.toList_ofList, String.toList_ofList,
      List.replicate_succ']
    exact List.prefix_append _ _
  · intro q hq hwithin
    rw [shown_malformed, String.toList_ofList, List.prefix_replicate_iff] at hq
    rw [byteLength_shown_malformed]
    rw [byteLength, textBytes, hq.2, Utf8.length_encode_replicate] at hwithin ⊢
    have hwidth : Utf8.replacement.utf8Size = 3 := rfl
    rw [hwidth] at hwithin ⊢
    omega

end Path

/-! ## Recorded names -/

/-- **Names in documents are the longest starts of last names.** The boundaries of a text are the lengths
of its starts. Going back from any offset a boundary is met before the offset would drop below zero, and
a text that is cut there is its longest start within the bound. So the name under which a file is
recorded is the longest start within 256 bytes of what follows the last slash of its path, and it has no
slash; and for the files of a request that is accepted it is all that follows the last slash. -/
theorem artifact_names_longest :
    (∀ (value : String) (most : Nat),
      (∀ i, Utf8.isBoundary (textBytes value) i = true
        ↔ ∃ q : String, q.toList <+: value.toList ∧ byteLength q = i)
      ∧ (∃ i ≤ most, Utf8.lastBoundary? (textBytes value) most = some i)
      ∧ Bound.truncate? value most = some (Bound.truncate value most)
      ∧ Bound.Cut value most (Bound.truncate value most))
    ∧ (∀ p : Path, ∃ base, p.IsBase base ∧ Bound.Cut base 256 p.artifactName
      ∧ '/' ∉ p.artifactName.toList)
    ∧ ∀ r : ProtectRequest, r.validate = .ok () → ∀ p ∈ r.inputs, p.IsBase p.artifactName := by
  refine ⟨?_, ?_, ?_⟩
  · intro value most
    refine ⟨?_, ?_, Bound.truncate?_eq value most, Bound.cut_truncate value most⟩
    · intro i
      rw [textBytes, Utf8.isBoundary_iff]
      constructor
      · rintro ⟨a, b, hvalue, hlength⟩
        refine ⟨String.ofList a, ⟨b, ?_⟩, ?_⟩
        · rw [String.toList_ofList, hvalue]
        · rw [byteLength, textBytes_ofList, hlength]
      · rintro ⟨q, ⟨rest, hrest⟩, hlength⟩
        exact ⟨q.toList, rest, hrest.symm, hlength⟩
    · obtain ⟨i, hi, hlast⟩ := Utf8.exists_lastBoundary? (textBytes value) most
      exact ⟨i, hlast.le, hi⟩
  · intro p
    exact ⟨p.baseName, p.isBase_baseName, Bound.cut_truncate p.baseName 256,
      p.slash_notMem_artifactName⟩
  · intro r hvalid p hp
    rw [ProtectRequest.artifactName_eq_baseName hvalid hp]
    exact p.isBase_baseName

/-- Of 85 bytes that begin no character, each shown as a mark of three bytes, the name is whole; the name
of 86 is cut to that of 85. -/
theorem artifact_names_longest_of_malformed :
    { sampleRequest with inputs := [.malformed 85] }.validate = .ok ()
      ∧ (Path.malformed 85).artifactName = (Path.malformed 85).shown
      ∧ byteLength (Path.malformed 86).shown = 258
      ∧ (Path.malformed 86).artifactName = (Path.malformed 85).shown := by
  have hpath : ProtectRequest.requirePath "model file path" (.malformed 85) = .ok () := by
    rw [ProtectRequest.requirePath, Bound.require, Path.byteLength_shown_malformed]
    rfl
  have hvalid : { sampleRequest with inputs := [.malformed 85] }.validate = .ok () := by
    apply ProtectRequest.validate_withInputs validate_sampleRequest (List.cons_ne_nil _ _)
    intro p hp
    rwa [List.mem_singleton.1 hp]
  obtain ⟨-, hnames, haccepted⟩ := artifact_names_longest
  refine ⟨hvalid, ?_, Path.byteLength_shown_malformed 86, ?_⟩
  · have hbase := haccepted _ hvalid (.malformed 85) List.mem_cons_self
    rw [hbase.eq_baseName, ← (Path.isBase_malformed 85).eq_baseName]
  · obtain ⟨base, hbase, hcut, -⟩ := hnames (.malformed 86)
    rw [hbase.eq_baseName, ← (Path.isBase_malformed 86).eq_baseName] at hcut
    exact hcut.unique (Path.cut_malformed (by decide) (by decide))

end ModelProtection

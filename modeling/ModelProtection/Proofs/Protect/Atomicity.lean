/-
A run that fails leaves the files alone.

Of the files of a world a run that fails changes at most the protected model, and
that only if it fails in its last stage. Then the model is there as a whole: it is
opened as a signed document, and what was signed is the entire text of a model
document for the request. A request that is refused has no effect at all.
-/
import ModelProtection.Proofs.Protect.Effects

set_option autoImplicit false

namespace ModelProtection

variable {r : ProtectRequest} {live : Nat} {w w' : World}

/-- What is left when the license is not built: the signed model, and everything else as it was. -/
structure LeavesModel (r : ProtectRequest) (w w' : World) (k : Keystore) (d : ModelDocument)
    (location : Location) : Prop where
  /-- The identity is the one in the keystore. -/
  identity : Keystore.load r.keystore (w.files.read r.keystore) = .ok k
  /-- The model is the file at its path. -/
  writable : w.files.writable r.protectedModelPath = .ok location
  /-- The whole document is there with its signature. -/
  model : ∃ bytes, w'.files.read r.protectedModelPath = .ok bytes ∧ OpensModel r k d bytes
  /-- Nothing else has changed. -/
  frame : ∀ l ≠ location, w'.files.node? l = w.files.node? l

/-- A model that is built is the file at its path, and nothing else has changed. -/
theorem BuildsModel.leavesModel {k : Keystore} {key : Octets 32} {full : Prop}
    {context : ProtectionContext} {signed : Bytes} {w₀ w₁ : World}
    (hload : Keystore.load r.keystore (w.files.read r.keystore) = .ok k)
    (h : BuildsModel k key full ⟨r.protectedModelPath, r.trailingByte⟩ (InputFile.ofPaths r.inputs)
      r.metadata w₀ (.ok (context, signed)) w₁) (hbefore : w₀.files = w.files)
    (hafter : w'.files = w₁.files) :
    ∃ d location, LeavesModel r w w' k d location := by
  obtain ⟨d, total, w₂, hdraft, -, rfl, hwrite, -⟩ := h.of_ok
  rw [hbefore] at hwrite
  obtain ⟨location, hlocation, htree⟩ := FileTree.write_eq_ok_iff.1 hwrite
  refine ⟨d, location, hload, hlocation, ⟨_, ?_, hdraft.opensModel⟩, ?_⟩
  · rw [hafter, FileTree.read_write hwrite]
  · intro l hl
    rw [hafter, htree, FileTree.node?_put_of_ne hl]

/-- What the stage at which a run fails says about the files. -/
theorem Protects.files_of_error {e : StageError} (h : Protects r live w (.error e) w') :
    (e.stage = .validateRequest ∧ w' = w)
      ∨ (e.stage ≠ .validateRequest ∧ e.stage ≠ .masterLicense ∧ w'.files = w.files)
      ∨ (e.stage = .masterLicense ∧ ∃ k d location, LeavesModel r w w' k d location) := by
  cases h with
  | invalid => exact .inl ⟨rfl, rfl⟩
  | identityFull => exact .inr (.inl ⟨nofun, nofun, rfl⟩)
  | identity => exact .inr (.inl ⟨nofun, nofun, rfl⟩)
  | contentFull => exact .inr (.inl ⟨nofun, nofun, rfl⟩)
  | model _ _ hmodel => exact .inr (.inl ⟨nofun, nofun, hmodel.files_eq⟩)
  | @license k _ _ _ _ _ _ hload hmodel hlicense =>
    exact .inr (.inr ⟨rfl, k, hmodel.leavesModel hload rfl hlicense.files_eq⟩)

/-- **A run that fails is atomic.** A request that is refused changes neither the service nor the
world; a failure before the last stage changes no file; a failure in the last stage has changed at
most the file of the protected model, and that is complete. -/
theorem protect_failure_atomic (r : ProtectRequest) (t : SlotTable) (w : World) :
    match (protect r : OnWorld (Except StageError ProtectOutcome)) t w with
    | ((.ok _, _), _) => True
    | ((.error e, t'), w') =>
      match e.stage with
      | .validateRequest => t' = t ∧ w' = w
      | .loadIdentity | .generateContentKey | .protectedModel => w'.files = w.files
      | .masterLicense => ∃ k d location, LeavesModel r w w' k d location := by
  obtain ⟨result, t', w', hrun, hprotects, htable⟩ := protect_runs r t w
  rw [hrun]
  cases result with
  | ok _ => trivial
  | error e =>
    have hfiles := hprotects.files_of_error
    -- only a request that is refused is reported at the first stage, and then no service is started
    have hsame : e.stage = .validateRequest → t' = t := by
      intro hstage
      rcases htable with ⟨_, -, rfl⟩ | ⟨hvalid, -⟩
      · rfl
      · cases hprotects with
        | invalid h => rw [hvalid] at h; cases h
        | _ => cases hstage
    obtain ⟨stage, error⟩ := e
    cases stage with
    | validateRequest =>
      rcases hfiles with ⟨-, rfl⟩ | ⟨hne, -⟩ | ⟨hstage, -⟩
      · exact ⟨hsame rfl, rfl⟩
      · exact absurd rfl hne
      · cases hstage
    | masterLicense =>
      rcases hfiles with ⟨hstage, -⟩ | ⟨-, hne, -⟩ | ⟨-, hmodel⟩
      · cases hstage
      · exact absurd rfl hne
      · exact hmodel
    | _ =>
      rcases hfiles with ⟨hstage, -⟩ | ⟨-, -, hfiles⟩ | ⟨hstage, -⟩
      · cases hstage
      · exact hfiles
      · cases hstage

end ModelProtection

/-
No random byte is used twice.

A run draws its random bytes in segments, one after the other: the content key, a
salt for each file, the GUID of the model and the salt of the wrapped key. What is
drawn by parts of the run in turn is drawn by the run as a whole
(`World.Draws.append`), so the segments of a run lie in the stream side by side,
and each of them is found again in the documents at a place of its own. A run that
fails stops somewhere along the way; it has drawn the first of the segments and
nothing else (`World.DrawsFirst`).
-/
import ModelProtection.Proofs.Crypto.Salted
import ModelProtection.Proofs.Protect.Outputs

set_option autoImplicit false

namespace ModelProtection

variable {w w' w₁ : World} {k : Keystore} {key : Octets 32} {policy : TrailingByte} {full : Prop}

/-! ## Drawing -/

namespace World

theorem toList_nextRandom_add (w : World) (m n : Nat) :
    (w.nextRandom (m + n)).toList
      = (w.nextRandom m).toList ++ ((w.afterDraw m).nextRandom n).toList := by
  simp only [nextRandom, Octets.ofFn, afterDraw, List.range_add, List.map_append, List.map_map,
    Function.comp_def, Nat.add_assoc]

/-- Random bytes are drawn from one world to another in segments that lie side by side, the first of
them where the stream stood, and no others are. -/
structure Draws (w : World) (segments : List Bytes) (w' : World) : Prop where
  /-- The stream is the same. -/
  random_eq : w'.random = w.random
  /-- As many bytes are drawn as the segments have. -/
  drawn_eq : w'.drawn = w.drawn + segments.flatten.length
  /-- Together the segments are what is next in the stream. -/
  flatten_eq : segments.flatten = (w.nextRandom segments.flatten.length).toList

namespace Draws

variable {a b : List Bytes}

theorem nil (hrandom : w'.random = w.random) (hdrawn : w'.drawn = w.drawn) : w.Draws [] w' :=
  ⟨hrandom, hdrawn, rfl⟩

theorem one (w : World) (n : Nat) : w.Draws [(w.nextRandom n).toList] (w.afterDraw n) where
  random_eq := rfl
  drawn_eq := by rw [List.flatten_singleton, Octets.length_toList, afterDraw]
  flatten_eq := by rw [List.flatten_singleton, Octets.length_toList]

/-- What is drawn in turn is drawn. -/
theorem append (h : w.Draws a w₁) (h' : w₁.Draws b w') : w.Draws (a ++ b) w' where
  random_eq := h'.random_eq.trans h.random_eq
  drawn_eq := by
    rw [h'.drawn_eq, h.drawn_eq, List.flatten_append, List.length_append, Nat.add_assoc]
  flatten_eq := by
    -- where the first part stops, the second goes on
    have hnext : w₁.nextRandom b.flatten.length
        = (w.afterDraw a.flatten.length).nextRandom b.flatten.length := by
      simp only [nextRandom, h.random_eq, h.drawn_eq, afterDraw]
    rw [List.flatten_append, List.length_append, toList_nextRandom_add, ← hnext, ← h.flatten_eq,
      ← h'.flatten_eq]

end Draws

/-- Writing a file draws nothing. -/
theorem draws_withFiles (w : World) (files : FileTree) : w.Draws [] (w.withFiles files) :=
  .nil rfl rfl

/-- Reading the clock draws nothing. -/
theorem draws_afterTick (w : World) : w.Draws [] w.afterTick := .nil rfl rfl

/-- Drafting a license draws one salt. -/
theorem draws_afterLicense (w : World) :
    w.Draws [(w.nextRandom DerivedKeys.saltSize).toList] w.afterLicense :=
  (Draws.one w DerivedKeys.saltSize).append (draws_afterTick _)

/-- Of segments with the given sizes the first ones are drawn. -/
def DrawsFirst (w : World) (sizes : List Nat) (w' : World) : Prop :=
  ∃ segments, w.Draws segments w' ∧ segments.map List.length <+: sizes

namespace DrawsFirst

variable {sizes more : List Nat}

theorem nil (sizes : List Nat) (hrandom : w'.random = w.random) (hdrawn : w'.drawn = w.drawn) :
    w.DrawsFirst sizes w' :=
  ⟨[], .nil hrandom hdrawn, List.nil_prefix⟩

theorem of_draws {segments : List Bytes} (h : w.Draws segments w')
    (hsizes : segments.map List.length = sizes) : w.DrawsFirst sizes w' :=
  ⟨segments, h, hsizes ▸ List.prefix_rfl⟩

/-- Where the first segments are drawn, more might have followed. -/
theorem extend (h : w.DrawsFirst sizes w') (more : List Nat) : w.DrawsFirst (sizes ++ more) w' := by
  obtain ⟨segments, hdraws, hprefix⟩ := h
  exact ⟨segments, hdraws, hprefix.trans (List.prefix_append sizes more)⟩

/-- Where all segments of one part are drawn, the first ones of the next part follow. -/
theorem after {segments : List Bytes} (h' : w₁.DrawsFirst more w') (h : w.Draws segments w₁)
    (hsizes : segments.map List.length = sizes) : w.DrawsFirst (sizes ++ more) w' := by
  obtain ⟨rest, hdraws, hprefix⟩ := h'
  refine ⟨segments ++ rest, h.append hdraws, ?_⟩
  rw [List.map_append, hsizes]
  exact (List.prefix_append_right_inj sizes).2 hprefix

end DrawsFirst

end World

open World (Draws DrawsFirst)

/-! ## What is sealed under a salt -/

/-- A text is Base64 of a salt and of a message that is sealed under the keys that come from the salt. -/
def Salted.Holds (key : Octets 32) (use : KeyUse) (salt : Octets DerivedKeys.saltSize) (message : Bytes)
    (text : String) : Prop :=
  ∃ (keys : DerivedKeys) (body : Bytes), keys.OfHkdf key salt use
    ∧ Aead.sealed? keys.cipherKey keys.nonce message = some body
    ∧ Base64.decode (textBytes text) = .ok (salt.toList ++ body)

theorem Salted.holds_write {use : KeyUse} {salt : Octets DerivedKeys.saltSize} {message body : Bytes}
    (hbody : (DerivedKeys.expand key salt use).encrypt message = .ok body) :
    Holds key use salt message (write ⟨salt, body⟩) := by
  refine ⟨_, body, DerivedKeys.ofHkdf_expand key salt use, DerivedKeys.encrypt_eq_ok_iff.1 hbody, ?_⟩
  rw [write, Base64.encode, textBytes_ofList]
  exact Base64.decode_encodeChars _

/-! ## The files -/

theorem Encrypts.drawsFirst {total : Nat} {files : List InputFile}
    {result : Except ProtectError EncryptedFiles} (h : Encrypts key policy full w total files result w') :
    w.DrawsFirst (List.replicate files.length DerivedKeys.saltSize) w' := by
  induction h with
  | nil => exact .nil _ rfl rfl
  -- a file fails before its salt is drawn or after it
  | @first w _ _ _ files _ hfile =>
    rcases hfile.world_eq with rfl | rfl
    · exact .nil _ rfl rfl
    · exact (DrawsFirst.of_draws (Draws.one w DerivedKeys.saltSize) rfl).extend
        (List.replicate files.length DerivedKeys.saltSize)
  | @later w _ _ _ _ _ _ _ _ _ _ _ ih => exact ih.after (.one w DerivedKeys.saltSize) rfl
  | @all w _ _ _ _ _ _ _ _ _ _ _ ih => exact ih.after (.one w DerivedKeys.saltSize) rfl

/-- Files that are encrypted have used a salt each, in their order. -/
theorem Encrypts.exists_salts {total : Nat} {files : List InputFile} {encrypted : EncryptedFiles}
    (h : Encrypts key policy full w total files (.ok encrypted) w') :
    ∃ salts : List (Octets DerivedKeys.saltSize), salts.length = files.length
      ∧ w.Draws (salts.map Octets.toList) w'
      ∧ ∀ (i : Nat) (file : InputFile), files[i]? = some file →
        ∃ salt artifact content body, salts[i]? = some salt ∧ encrypted.artifacts[i]? = some artifact
          ∧ w.files.read file.path = .ok content
          ∧ (DerivedKeys.expand key salt .content).encrypt (policy.plaintext content) = .ok body
          ∧ artifact.ciphertext = Salted.write ⟨salt, body⟩ := by
  induction files generalizing w total encrypted with
  | nil =>
    cases h
    exact ⟨[], rfl, .nil rfl rfl, nofun⟩
  | cons first files ih =>
    cases h with
    | @all _ _ _ _ _ _ artifact _ _ hfile _ hfiles =>
      obtain ⟨salts, hlength, hdraws, hsalts⟩ := ih hfiles
      obtain ⟨content, body, hread, hbody, hcipher⟩ := hfile.exists_body
      refine ⟨w.nextRandom DerivedKeys.saltSize :: salts, congrArg Nat.succ hlength,
        (Draws.one w DerivedKeys.saltSize).append hdraws, ?_⟩
      intro i file hi
      cases i with
      | zero =>
        cases hi
        exact ⟨_, artifact, content, body, rfl, rfl, hread, hbody, hcipher⟩
      | succ i => exact hsalts i file hi

/-! ## The documents -/

section Model

variable {files : List InputFile} {metadata : Metadata}

/-- A model that is drafted has used a salt for each file, and what was drawn next for its GUID. -/
theorem DraftsModel.exists_salts {d : ModelDocument} {total : Nat}
    (h : DraftsModel k key full policy files metadata w d total w') :
    ∃ (salts : List (Octets DerivedKeys.saltSize)) (draw : Octets 16), salts.length = files.length
      ∧ w.Draws (salts.map Octets.toList ++ [draw.toList]) w' ∧ d.guid = Guid.ofRandom draw
      ∧ ∀ (i : Nat) (file : InputFile), files[i]? = some file →
        ∃ salt artifact content body, salts[i]? = some salt ∧ d.artifacts[i]? = some artifact
          ∧ w.files.read file.path = .ok content
          ∧ (DerivedKeys.expand key salt .content).encrypt (policy.plaintext content) = .ok body
          ∧ artifact.ciphertext = Salted.write ⟨salt, body⟩ := by
  obtain ⟨w₁, hencrypts, hguid, rfl⟩ := h.encrypts
  obtain ⟨salts, hlength, hdraws, hsalts⟩ := hencrypts.exists_salts
  have hdrafted := w.draws_afterTick.append (hdraws.append (.one w₁ 16))
  exact ⟨salts, w₁.nextRandom 16, hlength, hdrafted, hguid, hsalts⟩

/-- The sizes of the segments for a model of some files. -/
def modelDraws (files : Nat) : List Nat := List.replicate files DerivedKeys.saltSize ++ [16]

theorem map_length_salts {n : Nat} {salts : List (Octets DerivedKeys.saltSize)}
    (h : salts.length = n) :
    (salts.map Octets.toList).map List.length = List.replicate n DerivedKeys.saltSize := by
  rw [List.map_map, ← h]
  exact List.map_eq_replicate_iff.2 fun salt _ => salt.length_eq

theorem DraftsModel.draws {d : ModelDocument} {total : Nat}
    (h : DraftsModel k key full policy files metadata w d total w') :
    ∃ segments, w.Draws segments w' ∧ segments.map List.length = modelDraws files.length := by
  obtain ⟨salts, draw, hlength, hdraws, -, -⟩ := h.exists_salts
  refine ⟨_, hdraws, ?_⟩
  rw [List.map_append, map_length_salts hlength]
  exact congrArg (List.replicate files.length DerivedKeys.saltSize ++ [·]) draw.length_eq

theorem DraftsModel.drawsFirst {d : ModelDocument} {total : Nat}
    (h : DraftsModel k key full policy files metadata w d total w') :
    w.DrawsFirst (modelDraws files.length) w' := by
  obtain ⟨segments, hdraws, hsizes⟩ := h.draws
  exact .of_draws hdraws hsizes

/-- A model that is not built has drawn the first of its segments. -/
theorem BuildsModel.drawsFirst {b : ModelBuild} {e : ProtectError}
    (h : BuildsModel k key full b files metadata w (.error e) w') :
    w.DrawsFirst (modelDraws files.length) w' := by
  cases h with
  | metadata => exact .nil _ rfl rfl
  | certificate => exact .nil _ rfl rfl
  | foreign => exact .nil _ rfl rfl
  | files _ h => exact (h.drawsFirst.extend [16]).after w.draws_afterTick rfl
  | capacity hdraft => exact hdraft.drawsFirst
  | document hdraft => exact hdraft.drawsFirst
  | signature hdraft => exact hdraft.drawsFirst
  | output hdraft => exact hdraft.drawsFirst

end Model

section License

variable {output : Path} {licenseGuid : String} {context : ProtectionContext}

theorem BuildsLicense.drawsFirst {e : ProtectError}
    (h : BuildsLicense k key full output licenseGuid context w (.error e) w') :
    w.DrawsFirst [DerivedKeys.saltSize] w' := by
  cases h with
  | guid => exact .nil _ rfl rfl
  | context => exact .nil _ rfl rfl
  | full => exact .of_draws (.one w DerivedKeys.saltSize) rfl
  | document => exact .of_draws w.draws_afterLicense rfl
  | code => exact .of_draws w.draws_afterLicense rfl
  | output => exact .of_draws w.draws_afterLicense rfl

end License

/-! ## The whole run -/

variable {r : ProtectRequest} {live : Nat} {outcome : ProtectOutcome}

/-- The sizes of the segments that a run over some files draws: the content key, a salt for each file,
the GUID of the model, and the salt of the wrapped key. -/
def runDraws (files : Nat) : List Nat := 32 :: (modelDraws files ++ [DerivedKeys.saltSize])

theorem Protects.drawsFirst {e : StageError} (h : Protects r live w (.error e) w') :
    w.DrawsFirst (runDraws r.inputs.length) w' := by
  have hlength := InputFile.length_ofPaths r.inputs
  cases h with
  | invalid => exact .nil _ rfl rfl
  | identityFull => exact .nil _ rfl rfl
  | identity => exact .nil _ rfl rfl
  | contentFull => exact (DrawsFirst.of_draws (Draws.one w 32) rfl).extend _
  | model _ _ hmodel =>
    have hrest := hmodel.drawsFirst.extend [DerivedKeys.saltSize]
    rw [hlength] at hrest
    exact hrest.after (.one w 32) rfl
  | license _ _ hmodel hlicense =>
    obtain ⟨d, total, w₁, hdraft, -, -, -, hworld⟩ := hmodel.of_ok
    obtain ⟨segments, hdraws, hsizes⟩ := hdraft.draws
    rw [hlength] at hsizes
    rw [hworld] at hlicense
    -- the model is whole by now, and the license goes on where the writing of it stopped
    have hwritten := hlicense.drawsFirst.after (w₁.draws_withFiles _) rfl
    exact (hwritten.after hdraws hsizes).after (.one w 32) rfl

/-- What became of the random bytes of a run that succeeds: the model and the license, under an
identity, with the content key, the salts of the files, what was drawn for the GUID, and the salt of the
wrapped key. -/
structure SpendsDraws (r : ProtectRequest) (w w' : World) (outcome : ProtectOutcome) (k : Keystore)
    (d : ModelDocument) (l : LicenseDocument) (key : Octets 32)
    (salts : List (Octets DerivedKeys.saltSize)) (draw : Octets 16)
    (wrapSalt : Octets DerivedKeys.saltSize) : Prop where
  /-- The identity is the one in the keystore. -/
  identity : Keystore.load r.keystore (w.files.read r.keystore) = .ok k
  /-- The segments are what was drawn, in this order. -/
  draws : w.Draws (key.toList :: (salts.map Octets.toList ++ [draw.toList] ++ [wrapSalt.toList])) w'
  /-- There is one salt for each file. -/
  length_salts : salts.length = r.inputs.length
  /-- The model and then the license are written at the paths of the outcome. The license has its code
  under the keys that come from the salt of the wrapped key. -/
  writes : ∃ (keys : DerivedKeys) (tree : FileTree), keys.OfHkdf k.seed wrapSalt .wrap
    ∧ w.files.write outcome.protectedModel (Envelope.signed k.seed d.written).sealedBytes = .ok tree
    ∧ tree.write outcome.masterLicense (Envelope.sealedBytes
        ⟨l.written, .mac, Hex.encode (hmac keys.macKey.toList l.written).toList⟩) = .ok w'.files
  /-- The body of each file starts with its salt, and holds the file under the content key and the
  salt. -/
  files : ∀ (i : Nat) (p : Path), r.inputs[i]? = some p →
    ∃ salt artifact content, salts[i]? = some salt ∧ d.artifacts[i]? = some artifact
      ∧ w.files.read p = .ok content
      ∧ Salted.Holds key .content salt (r.trailingByte.plaintext content) artifact.ciphertext
  /-- The GUID is made of what was drawn for it. -/
  guid : d.guid = Guid.ofRandom draw ∧ outcome.modelGuid = d.guid
  /-- The wrapped key starts with its salt, and holds the content key under the identity and the
  salt. -/
  wrapped : Salted.Holds k.seed .wrap wrapSalt key.toList l.wrappedKey

theorem Protects.spendsDraws (h : Protects r live w (.ok outcome) w') :
    ∃ k d l key salts draw wrapSalt, SpendsDraws r w w' outcome k d l key salts draw wrapSalt := by
  cases h with
  | @done k _ _ _ _ _ _ w₁ _ _ hload hmodel hlicense hcontext _ =>
    obtain ⟨d, total, w₂, hdraft, rfl, rfl, hwrite, hworld⟩ := hmodel.of_ok
    obtain ⟨l, hlicensed, rfl, hwrite', hworld'⟩ := hlicense.of_ok
    obtain ⟨rfl, -⟩ := ModelDocument.eq_of_require hcontext
    obtain ⟨salts, draw, hlength, hdraws, hguid, hsalts⟩ := hdraft.exists_salts
    obtain ⟨body, hbody, hwrapped⟩ := hlicensed.wraps
    rw [InputFile.length_ofPaths] at hlength
    refine ⟨k, d, l, w.nextRandom 32, salts, draw, w₁.nextRandom DerivedKeys.saltSize, ?_⟩
    exact {
      identity := hload
      draws := by
        -- of the steps after the draft only the wrapping of the key draws
        have hmodel := w₂.draws_withFiles w₁.files
        rw [← hworld] at hmodel
        have hlicense := w₁.draws_afterLicense.append (w₁.afterLicense.draws_withFiles w'.files)
        rw [← hworld'] at hlicense
        have hdrafted := hdraws.append (hmodel.append hlicense)
        exact (Draws.one w 32).append hdrafted
      length_salts := hlength
      writes := ⟨_, _, DerivedKeys.ofHkdf_expand _ _ _, hwrite, hwrite'⟩
      files := by
        intro i p hi
        obtain ⟨salt, artifact, content, body, hsalt, hartifact, hread, hencrypted, hcipher⟩ :=
          hsalts i ⟨p, i⟩ (InputFile.getElem?_ofPaths hi)
        refine ⟨salt, artifact, content, hsalt, hartifact, hread, ?_⟩
        rw [hcipher]
        exact Salted.holds_write hencrypted
      guid := ⟨hguid, rfl⟩
      wrapped := by
        rw [hwrapped]
        exact Salted.holds_write hbody }

theorem length_flatten_salts (salts : List (Octets DerivedKeys.saltSize)) :
    (salts.map Octets.toList).flatten.length = DerivedKeys.saltSize * salts.length := by
  induction salts with
  | nil => rfl
  | cons salt salts ih =>
    rw [List.map_cons, List.flatten_cons, List.length_append, ih, Octets.length_toList,
      List.length_cons, Nat.mul_succ, Nat.add_comm]

theorem SpendsDraws.drawn_eq {k : Keystore} {d : ModelDocument} {l : LicenseDocument}
    {salts : List (Octets DerivedKeys.saltSize)} {draw : Octets 16}
    {wrapSalt : Octets DerivedKeys.saltSize}
    (h : SpendsDraws r w w' outcome k d l key salts draw wrapSalt) :
    w'.drawn = w.drawn + (64 + 16 * r.inputs.length) := by
  have hsize : DerivedKeys.saltSize = 16 := rfl
  rw [h.draws.drawn_eq]
  simp only [List.flatten_cons, List.flatten_append, List.flatten_nil, List.length_append,
    List.length_nil, Octets.length_toList, length_flatten_salts, h.length_salts, hsize]
  omega

/-- **No random byte is used twice.** A run over `n` files that succeeds draws `64 + 16 * n` random
bytes, in segments that lie side by side in the stream: the content key, then a salt for each file in
the order in which they were given, then what the GUID of the model is made of, then the salt of the
wrapped key. Each salt stands in front of the bytes of its own file, or of the wrapped key, in the
documents that were written, and the keys and the nonce for these come from that salt and no other. A
run that fails has drawn the first of these segments and nothing else; if its request is not valid, none
at all. -/
theorem protect_draws_each_byte_once (r : ProtectRequest) (t : SlotTable) (w : World) :
    match (protect r : OnWorld (Except StageError ProtectOutcome)) t w with
    | ((.error _, _), w') =>
      w.DrawsFirst (runDraws r.inputs.length) w' ∧ (r.validate ≠ .ok () → w.Draws [] w')
    | ((.ok outcome, _), w') =>
      w'.drawn = w.drawn + (64 + 16 * r.inputs.length)
        ∧ ∃ k d l key salts draw wrapSalt,
          SpendsDraws r w w' outcome k d l key salts draw wrapSalt := by
  obtain ⟨result, t', w', hrun, hprotects, -⟩ := protect_runs r t w
  rw [hrun]
  cases result with
  | error e =>
    refine ⟨hprotects.drawsFirst, ?_⟩
    intro hinvalid
    cases hprotects with
    | invalid => exact .nil rfl rfl
    | _ hvalid => exact absurd hvalid hinvalid
  | ok outcome =>
    obtain ⟨k, d, l, key, salts, draw, wrapSalt, h⟩ := hprotects.spendsDraws
    exact ⟨h.drawn_eq, k, d, l, key, salts, draw, wrapSalt, h⟩

/-- The sample run is over one file, and succeeds with 80 bytes. -/
theorem protect_draws_each_byte_once_sample :
    ∃ outcome t' w', (protect sampleRequest : OnWorld (Except StageError ProtectOutcome)) {} sampleWorld
        = ((.ok outcome, t'), w') ∧ w'.drawn = 80 := by
  obtain ⟨outcome, t', w', hrun, -⟩ := protect_sample_ok
  have hdraws := protect_draws_each_byte_once sampleRequest {} sampleWorld
  rw [hrun] at hdraws
  exact ⟨outcome, t', w', hrun, hdraws.1⟩

end ModelProtection

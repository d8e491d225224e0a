/-
Making a keystore is safe, and the keystore can be used.

The command looks whether something stands at the path, makes the keystore and
writes it, in this order. `Generates` lists how that can go. Nothing is written
but in the last case, and by then everything is known to be there: a certificate
that starts at the instant at which it is issued and ends some days later, and a
place for the file.

That something stands at a path and that a file can be written there are two
questions with two answers. They fit together: where nothing stands, the file
that is written is a new one (`FileTree.node?_eq_none_of_writable`).
-/
import ModelProtection.CommandLine.Report
import ModelProtection.Proofs.Keystore.Saved

set_option autoImplicit false

namespace ModelProtection

namespace CommandLine

variable {a : GenerateArguments} {settings : Settings} {w w' : World}

/-- Making a keystore gives a result and leaves a world. -/
inductive Generates (a : GenerateArguments) (settings : Settings) (w : World) :
    Except CommandError Path → World → Prop where
  /-- Something stands at the path, and it is not to be replaced. -/
  | occupied (hforce : a.force = false) (hhas : w.files.has (settings.outputPath a.out) = true) :
    Generates a settings w (.error (.keystoreExists (settings.outputPath a.out))) w
  /-- There is no certificate for so many days. -/
  | unmade {e : Certificate.IssueError}
    (h : Keystore.ofSeed (w.nextRandom 32) a.subject a.days w.present = .error e) :
    Generates a settings w (.error (.keyGeneration (.ofIssue e))) (w.afterDraw 32).afterTick
  /-- The keystore cannot be written. -/
  | unwritten {k : Keystore} {e : FileError}
    (hmade : Keystore.ofSeed (w.nextRandom 32) a.subject a.days w.present = .ok k)
    (h : w.files.write (settings.outputPath a.out) k.toBytes = .error e) :
    Generates a settings w (.error (.keystoreUnwritten (settings.outputPath a.out)
      (.fileOpen (settings.outputPath a.out) e))) (w.afterDraw 32).afterTick
  /-- The keystore is written. -/
  | written {k : Keystore} {tree : FileTree}
    (hfree : a.force = false → w.files.has (settings.outputPath a.out) = false)
    (hmade : Keystore.ofSeed (w.nextRandom 32) a.subject a.days w.present = .ok k)
    (hwrite : w.files.write (settings.outputPath a.out) k.toBytes = .ok tree) :
    Generates a settings w (.ok (settings.outputPath a.out))
      ((w.afterDraw 32).afterTick.withFiles tree)

/-- A computation on a world goes on from where its first part stops. -/
theorem bind_eq {α β : Type} {x : StateM World α} {f : α → StateM World β} {value : α}
    (h : x w = (value, w')) : (x >>= f) w = f value w' := by
  change f (x w).1 (x w).2 = _
  rw [h]

/-- Making a keystore goes in one of these ways. -/
theorem GenerateArguments.run_generates (a : GenerateArguments) (settings : Settings) (w : World) :
    ∃ result w', (a.run settings : StateM World (Except CommandError Path)) w = (result, w')
      ∧ Generates a settings w result w' := by
  have hlook : (Host.fileExists (settings.outputPath a.out) : StateM World Bool) w
      = (w.files.has (settings.outputPath a.out), w) := rfl
  have hmake := Keystore.generate_eq a.subject a.days w
  rw [GenerateArguments.run, bind_eq hlook]
  -- the three questions are asked in the order in which the command asks them
  by_cases hoccupied : (w.files.has (settings.outputPath a.out) && !a.force) = true
  · rw [if_pos hoccupied]
    obtain ⟨hhas, hforce⟩ := Bool.and_eq_true_iff.1 hoccupied
    exact ⟨_, _, rfl, .occupied (by simpa using hforce) hhas⟩
  have hfree : a.force = false → w.files.has (settings.outputPath a.out) = false := by
    intro hforce
    simpa [hforce] using hoccupied
  rw [if_neg hoccupied, bind_eq hmake]
  rcases hmade : Keystore.ofSeed (w.nextRandom 32) a.subject a.days w.present with e | k
  · exact ⟨_, _, rfl, .unmade hmade⟩
  dsimp only [Except.mapError]
  rcases hwrite : w.files.write (settings.outputPath a.out) k.toBytes with e | tree
  · rw [bind_eq (Keystore.saveAt_error (w := (w.afterDraw 32).afterTick) hwrite)]
    exact ⟨_, _, rfl, .unwritten hmade hwrite⟩
  · rw [bind_eq (Keystore.saveAt_ok (w := (w.afterDraw 32).afterTick) hwrite)]
    exact ⟨_, _, rfl, .written hfree hmade hwrite⟩

/-- A keystore that was made as asked for stands at a path: one file was written and nothing else, and
it can be loaded and used at once. -/
structure LeavesKeystore (a : GenerateArguments) (w w' : World) (path : Path) (k : Keystore)
    (c : Certificate) (place : Location) : Prop where
  /-- The path leads to a place for a file. -/
  place_eq : w.files.writable path = .ok place
  /-- The whole keystore is there. -/
  written : w'.files.node? place = some (.file k.toBytes)
  /-- Everything else is as it was. -/
  frame : ∀ l, l ≠ place → w'.files.node? l = w.files.node? l
  /-- The keystore is that of a fresh seed. -/
  made : Keystore.ofSeed (w.nextRandom 32) a.subject a.days w.present = .ok k
  /-- The keystore and its certificate are for the subject. -/
  name_eq : k.name = a.subject ∧ c.body.subject = a.subject
  /-- The certificate can be read. -/
  certificate_eq : Certificate.parse k.certificate = .ok c
  /-- The certificate is valid at the instant at which it was issued. -/
  lifetime : c.checkLifetime w.present = .ok ()
  /-- The keystore is loaded, if the signature of its certificate is accepted. -/
  loads : Ed25519.Verifies k.seed c.body.signedBytes →
    (Keystore.loadAt path : StateM World _) w' = (.ok k, w')

theorem Generates.leavesKeystore {path : Path} (h : Generates a settings w (.ok path) w') :
    ∃ k c place, LeavesKeystore a w w' path k c place := by
  cases h with
  | @written k tree hfree hmade hwrite =>
    have hread := FileTree.read_write hwrite
    obtain ⟨place, hplace, rfl⟩ := FileTree.write_eq_ok_iff.1 hwrite
    obtain ⟨hname, hseed, c, hissue, hparse, hsound⟩ := Keystore.of_ofSeed hmade
    obtain ⟨hsubject, hlifetime⟩ := Certificate.valid_of_issue hissue
    refine ⟨k, c, place, ?_⟩
    exact {
      place_eq := hplace
      written := FileTree.node?_put_self (FileTree.ne_root_of_writable hplace)
      frame := fun l hl => FileTree.node?_put_of_ne hl
      made := hmade
      name_eq := ⟨hname, hsubject⟩
      certificate_eq := hparse
      lifetime := hlifetime
      loads := by
        intro hverifies
        rw [hseed] at hverifies
        exact (hsound hverifies).loadAt_eq hread }

/-- A keystore that is not written leaves the files as they were. -/
theorem Generates.files_eq {e : CommandError} (h : Generates a settings w (.error e) w') :
    w'.files = w.files := by
  cases h <;> rfl

/-- Unless it is forced to, the command changes nothing that is there. -/
theorem Generates.node?_eq {result : Except CommandError Path} (h : Generates a settings w result w')
    (hforce : a.force = false) {l : Location} {node : Node} (hnode : w.files.node? l = some node) :
    w'.files.node? l = some node := by
  cases h with
  | occupied => exact hnode
  | unmade => exact hnode
  | unwritten => exact hnode
  | written hfree _ hwrite =>
    obtain ⟨place, hplace, rfl⟩ := FileTree.write_eq_ok_iff.1 hwrite
    have hnew := FileTree.node?_eq_none_of_writable hplace (hfree hforce)
    -- something stands at the location, so it is not the one that was written
    have hne : l ≠ place := by
      rintro rfl
      cases hnew.symm.trans hnode
    exact (FileTree.node?_put_of_ne hne).trans hnode

/-- **Making a keystore is safe, and the keystore can be used.** Without being forced to, the command
leaves everything that stands anywhere, whatever comes of it. An error leaves all files as they were,
forced or not. Success means that one file was written, at the path to which the output resolves under
the settings, and that nothing else was touched; the keystore in it is for the subject, its certificate
is valid at the instant at which it was issued, and loading it gives it, as far as the signature scheme
accepts its own signature. -/
theorem generate_keystore_safe (a : GenerateArguments) (settings : Settings) (w : World) :
    let after := (a.run settings : StateM World (Except CommandError Path)) w
    (a.force = false → ∀ (l : Location) (node : Node), w.files.node? l = some node →
        after.2.files.node? l = some node)
      ∧ match after with
        | (.error _, w') => w'.files = w.files
        | (.ok path, w') => path = settings.outputPath a.out
          ∧ ∃ k c place, LeavesKeystore a w w' path k c place := by
  intro after
  obtain ⟨result, w', hrun, h⟩ := a.run_generates settings w
  have hafter : after = (result, w') := hrun
  rw [hafter]
  refine ⟨fun hforce l node => h.node?_eq hforce, ?_⟩
  cases result with
  | error e => exact h.files_eq
  | ok path =>
    refine ⟨?_, h.leavesKeystore⟩
    cases h
    rfl

/-- In an empty tree a keystore for a day is made, and it is loaded. -/
theorem generate_keystore_safe_sample :
    let a : GenerateArguments := { subject := "isv", days := 1, out := .ofString "k" }
    ∃ w', (a.run {} : StateM World (Except CommandError Path)) World.bare = (.ok (.ofString "k"), w')
      ∧ (Keystore.loadAt (.ofString "k") : StateM World _) w' = (.ok Keystore.generatedSample, w') := by
  intro a
  have hsafe := generate_keystore_safe a {} World.bare
  obtain ⟨result, w', hrun, h⟩ := a.run_generates {} World.bare
  rw [hrun] at hsafe
  cases h with
  | occupied _ hhas => exact absurd hhas (by decide)
  | unmade h => cases Keystore.ofSeed_sample.symm.trans h
  | unwritten _ h => cases (FileTree.write_of_writable Keystore.writable_bare _).symm.trans h
  | written =>
    obtain ⟨-, -, k, c, place, hleaves⟩ := hsafe
    obtain rfl := Except.ok.inj (hleaves.made.symm.trans Keystore.ofSeed_sample)
    obtain rfl := Except.ok.inj
      (hleaves.certificate_eq.symm.trans (Certificate.parse_write Keystore.dayCertificate))
    exact ⟨_, hrun, hleaves.loads Keystore.verifies_sample⟩

end CommandLine

end ModelProtection

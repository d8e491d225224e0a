/-
What was protected is recovered.

The two documents and the identity are all that it takes to get the files back.
The license gives the content key to whoever holds the identity, and with it the
keys under which the license itself is authenticated; the content key opens every
body in the model. Nothing else is remembered from the run: the salts and the
ciphertexts are read from the texts in the documents.

The signature of the model is accepted under the certificate in the model as far
as the signature scheme goes: that a key verifies what is signed with it
(`Ed25519.Passes`) is assumed, for the seed of the identity and the document that
was written. Which key is asked, and about which bytes, is not.
-/
import ModelProtection.Proofs.Crypto.Identities
import ModelProtection.Proofs.Protect.Draws

set_option autoImplicit false

namespace ModelProtection

variable {w w' : World} {key : Octets 32}

/-! ## The identity -/

/-- A document that is signed under a loaded identity is accepted under its certificate. -/
theorem Keystore.verifySignature_signed {k : Keystore} {path : Path} {content : Except FileError Bytes}
    (h : Keystore.load path content = .ok k) {document : Bytes}
    (hpasses : Ed25519.Passes k.seed document) :
    verifySignature k.certificate (Envelope.signed k.seed document).sealedBytes = .ok () := by
  obtain ⟨c, hparse, hsigned, hbinds⟩ := Keystore.of_load h
  have haccepts := Certificate.accepts_of_passes hsigned hbinds hpasses
  exact (verifySignature_signed_iff hparse hsigned k.seed document).2 haccepts

/-! ## The keys -/

variable {r : ProtectRequest} {outcome : ProtectOutcome} {k : Keystore} {d : ModelDocument}
  {l : LicenseDocument} {keys : DerivedKeys}

end ModelProtection

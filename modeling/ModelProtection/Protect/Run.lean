/-
Protecting a model.

The request is checked, the service is started, the identity key is loaded and a
content key is made; then the protected model is built, and from what is known
about it the master license. Leases end in the reverse of the order in which
they began, whichever stage fails, and the service is stopped last. An error is
reported with the stage in which it arose.
-/
import ModelProtection.Protect.LicenseBuild
import ModelProtection.Protect.ModelBuild
import ModelProtection.Protect.Request

set_option autoImplicit false

namespace ModelProtection

/-- A stage of protecting a model. -/
inductive Stage where
  /-- Checking the request. -/
  | validateRequest
  /-- Starting the service and loading the identity key. -/
  | loadIdentity
  /-- Making the content key. -/
  | generateContentKey
  /-- Building the protected model. -/
  | protectedModel
  /-- Building the master license. -/
  | masterLicense
deriving DecidableEq, Repr

/-- The name of a stage. -/
def Stage.name : Stage → String
  | validateRequest => "validate request"
  | loadIdentity => "load identity key"
  | generateContentKey => "generate content key"
  | protectedModel => "protect model"
  | masterLicense => "create master license"

/-- An error with the stage in which it arose. -/
structure StageError where
  /-- The stage. -/
  stage : Stage
  /-- The error. -/
  error : ProtectError
deriving DecidableEq

/-- The wording of an error. -/
def StageError.message (e : StageError) : String := e.stage.name ++ " failed: " ++ e.error.message

/-- What came of protecting a model. -/
structure ProtectOutcome where
  /-- The GUID of the model. -/
  modelGuid : Guid
  /-- The digest of the model document. -/
  modelHash : ModelHash
  /-- The GUID of the license. -/
  licenseGuid : Guid
  /-- How many files were protected. -/
  artifactCount : Nat
  /-- Where the protected model was written. -/
  protectedModel : Path
  /-- Where the master license was written. -/
  masterLicense : Path
deriving DecidableEq

section Protect

variable {m : Type → Type} [Monad m] {α : Type}

/-- A part of the workflow as a stage. -/
def Stage.run (stage : Stage) (body : WorkflowT m α) : ExceptT StageError m α := ExceptT.mk do
  return (← body.run).mapError (⟨stage, ·⟩)

variable [CryptoService m] [Host m]

/-- Builds both documents under a leased identity key. -/
def protectUnder (r : ProtectRequest) (licenseGuid : Guid) (identity : KeyLease) :
    ExceptT StageError m ProtectOutcome := do
  let content ← Stage.generateContentKey.run
    (WorkflowT.call (KeyLease.generateContentKey contentKeySize))
  let (context, _) ← content.releaseOnError <| Stage.protectedModel.run <|
    ModelBuild.run ⟨r.protectedModelPath, r.trailingByte⟩ identity content
      (InputFile.ofPaths r.inputs) r.metadata
  let _ ← Stage.masterLicense.run <|
    LicenseBuild.run r.masterLicensePath identity content r.licenseGuid context
  let (modelGuid, modelHash) ← Stage.masterLicense.run (WorkflowT.compute context.require)
  return {
    modelGuid, modelHash, licenseGuid
    artifactCount := r.inputs.length
    protectedModel := r.protectedModelPath
    masterLicense := r.masterLicensePath }

/-- Protects a model. -/
def protect (r : ProtectRequest) : m (Except StageError ProtectOutcome) := ExceptT.run do
  Stage.validateRequest.run (WorkflowT.compute r.validate)
  let licenseGuid ← Stage.validateRequest.run (WorkflowT.check .guid (Guid.parse r.licenseGuid))
  let session ← Stage.loadIdentity.run (WorkflowT.call Session.start)
  session.during do
    let identity ← Stage.loadIdentity.run (WorkflowT.call (KeyLease.loadIdentity r.keystore))
    identity.during (protectUnder r licenseGuid identity)

end Protect

end ModelProtection

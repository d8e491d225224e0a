/-
Steps of the workflow.

A workflow runs over a host and a service, and stops at the first step that
fails. A file that cannot be read or written is reported with its path.
-/
import ModelProtection.Crypto.Lease
import ModelProtection.Error.Protect
import ModelProtection.Host.World

set_option autoImplicit false

namespace ModelProtection

/-- Computations that may fail with an error of the workflow. -/
abbrev WorkflowT (m : Type → Type) := ExceptT ProtectError m

namespace WorkflowT

variable {m : Type → Type} [Monad m] {α : Type}

/-- A call of the service as a step. -/
def call (request : m (Except CryptoError α)) : WorkflowT m α := ExceptT.mk do
  return (← request).mapError .crypto

/-- A check of something that was given as a step. -/
def check {ε : Type} (fault : ε → ParameterFault) (result : Except ε α) : WorkflowT m α :=
  ExceptT.mk (pure (result.mapError fun e => .parameter (fault e)))

/-- A computation without effects as a step. -/
def compute (result : Except ProtectError α) : WorkflowT m α := ExceptT.mk (pure result)

variable [Host m]

/-- Reads a whole file. -/
def readInput (path : Path) : WorkflowT m Bytes := ExceptT.mk do
  return (← Host.readFile path).mapError (.fileOpen path)

/-- Makes or replaces a file. -/
def writeOutput (path : Path) (content : Bytes) : WorkflowT m Unit := ExceptT.mk do
  return (← Host.writeFile path content).mapError (.fileOpen path)

end WorkflowT

end ModelProtection

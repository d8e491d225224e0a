/-
Keystores on a host.

A keystore is made from fresh random bytes and the time, written to a file, and
loaded from one.
-/
import ModelProtection.Error.Protect
import ModelProtection.Host.World

set_option autoImplicit false

namespace ModelProtection

namespace Keystore

variable {m : Type → Type} [Monad m] [Host m]

/-- A keystore for a fresh key. -/
def generate (name : String) (days : Int) : m (Except CryptoError Keystore) := do
  let seed ← Host.randomBytes 32
  let now ← Host.now
  return (ofSeed seed name days now).mapError .ofIssue

/-- Writes a keystore to a file. -/
def saveAt (k : Keystore) (path : Path) : m (Except ProtectError Unit) := do
  let result ← Host.writeFile path k.toBytes
  return result.mapError (.fileOpen path)

/-- Loads the keystore in a file. -/
def loadAt (path : Path) : m (Except CryptoError Keystore) := do
  let content ← Host.readFile path
  return (load path content).mapError .ofKeystore

end Keystore

end ModelProtection

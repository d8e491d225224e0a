/-
Capacities that are computed.

A chain of checked sums and products is meant to fail if its last value does not
fit a word, but what fails is a step on the way. The two come to the same because
no step makes a value smaller: once a value has left the word, so has every later
one (`bind_fit?`). So a chain is one check of its last value, whatever the order
of its steps, and the capacities for the documents are exact or refused.

The capacity for sealing is a sum without checks. It is exact as long as it fits a
word, which it does for all byte strings that can be reserved. Beyond that there
is no capacity and no error either: the program stops, where the two others say
that nothing can be set aside.
-/
import ModelProtection.Proofs.Envelope
import ModelProtection.Protect.Document

set_option autoImplicit false

namespace ModelProtection

/-! ## Chains of checks -/

namespace Size

/-- A number that fits a word. -/
def fit? (n : Nat) : Option Nat := if n < bound then some n else none

theorem add?_eq_fit? (a b : Nat) : add? a b = fit? (a + b) := rfl

/-- A check on the way to a larger value adds nothing to the check of that value. -/
theorem bind_fit? {n last : Nat} {rest : Nat → Option Nat} (hrest : rest n = fit? last)
    (hle : n ≤ last) : (fit? n).bind rest = fit? last := by
  by_cases hn : n < bound
  · rw [fit?, if_pos hn, Option.bind_some, hrest]
  · rw [fit?, if_neg hn, Option.bind_none, fit?, if_neg (by omega)]

end Size

/-! ## The capacities -/

theorem modelCapacity_eq (certificateLength count total : Nat) :
    modelCapacity certificateLength count total
      = if certificateLength * escapeFactor + (modelTextSize + metadataSize + Guid.textLength)
            + artifactSize * count + total < Size.bound then
          .ok (certificateLength * escapeFactor + (modelTextSize + metadataSize + Guid.textLength)
            + artifactSize * count + total)
        else .error (.allocation .modelSize) := by
  -- from the last step back to the first, each over any value that it may be handed
  have hsum : ∀ start files, ((Size.add? start files).bind fun size => Size.add? size total)
      = Size.fit? (start + files + total) := by
    intro start files
    exact Size.bind_fit? (Size.add?_eq_fit? _ _) (Nat.le_add_right _ _)
  have hfiles : ∀ start, ((Size.mul? artifactSize count).bind fun files =>
      (Size.add? start files).bind fun size => Size.add? size total)
        = Size.fit? (start + artifactSize * count + total) := by
    intro start
    exact Size.bind_fit? (hsum start _) (by omega)
  have hstart : ∀ certificate,
      ((Size.add? certificate (modelTextSize + metadataSize + Guid.textLength)).bind fun start =>
        (Size.mul? artifactSize count).bind fun files =>
          (Size.add? start files).bind fun size => Size.add? size total)
        = Size.fit? (certificate + (modelTextSize + metadataSize + Guid.textLength)
            + artifactSize * count + total) := by
    intro certificate
    exact Size.bind_fit? (hfiles _) (by omega)
  have hchain : ((Size.mul? certificateLength escapeFactor).bind fun certificate =>
      (Size.add? certificate (modelTextSize + metadataSize + Guid.textLength)).bind fun start =>
        (Size.mul? artifactSize count).bind fun files =>
          (Size.add? start files).bind fun size => Size.add? size total)
        = Size.fit? (certificateLength * escapeFactor
            + (modelTextSize + metadataSize + Guid.textLength) + artifactSize * count + total) :=
    Size.bind_fit? (hstart _) (by omega)
  by_cases hfit : certificateLength * escapeFactor
      + (modelTextSize + metadataSize + Guid.textLength) + artifactSize * count + total < Size.bound
  · simp only [modelCapacity, Option.bind_eq_bind, hchain, Size.fit?, if_pos hfit]
  · simp only [modelCapacity, Option.bind_eq_bind, hchain, Size.fit?, if_neg hfit]

theorem licenseCapacity_eq (certificateLength : Nat) :
    licenseCapacity certificateLength
      = if certificateLength * escapeFactor + licenseFixedSize < Size.bound then
          .ok (certificateLength * escapeFactor + licenseFixedSize)
        else .error (.allocation .licenseSize) := by
  have hchain : ((Size.mul? certificateLength escapeFactor).bind fun certificate =>
      Size.add? certificate licenseFixedSize)
        = Size.fit? (certificateLength * escapeFactor + licenseFixedSize) :=
    Size.bind_fit? (Size.add?_eq_fit? _ _) (Nat.le_add_right _ _)
  by_cases hfit : certificateLength * escapeFactor + licenseFixedSize < Size.bound
  · simp only [licenseCapacity, Option.bind_eq_bind, hchain, Size.fit?, if_pos hfit]
  · simp only [licenseCapacity, Option.bind_eq_bind, hchain, Size.fit?, if_neg hfit]

/-- **Capacities for documents are exact or refused; the capacity for sealing is exact or the program
stops.** For all words that they can be computed from, the capacities for a model and for a license are
the sums that they stand for, and are refused if and only if these do not fit a word, whichever step it
is that leaves the word. The capacity for sealing is the size with 224 more bytes as long as that fits a
word. Where it does not, nothing is refused: the sum stops the program. -/
theorem capacities_exact_or_stopped (certificate count total size : UInt64) :
    let modelSize := 6 * certificate.toNat + 3460 + 1616 * count.toNat + total.toNat
    let licenseSize := 6 * certificate.toNat + 3752
    let sealedSize := size.toNat + 224
    modelCapacity certificate.toNat count.toNat total.toNat
        = (if modelSize < Size.bound then .ok modelSize else .error (.allocation .modelSize))
      ∧ licenseCapacity certificate.toNat
        = (if licenseSize < Size.bound then .ok licenseSize else .error (.allocation .licenseSize))
      ∧ Envelope.capacity size.toNat
        = (if sealedSize < Size.bound then .ok sealedSize else .error {}) := by
  intro modelSize licenseSize sealedSize
  refine ⟨?_, ?_, Envelope.capacity_eq size.toNat⟩
  · have hsize : certificate.toNat * escapeFactor + (modelTextSize + metadataSize + Guid.textLength)
        + artifactSize * count.toNat + total.toNat = modelSize := by
      rw [Nat.mul_comm certificate.toNat]
      rfl
    rw [modelCapacity_eq, hsize]
  · have hsize : certificate.toNat * escapeFactor + licenseFixedSize = licenseSize := by
      rw [Nat.mul_comm certificate.toNat]
      rfl
    rw [licenseCapacity_eq, hsize]

/-- At the first size whose sealed form does not fit a word there is no capacity, and the sum stops the
program where the capacities for documents are refused. -/
theorem sealing_capacity_overflows :
    let size : UInt64 := 18446744073709551392
    size.toNat + 224 = Size.bound ∧ Envelope.capacity size.toNat = .error {} := ⟨rfl, rfl⟩

end ModelProtection

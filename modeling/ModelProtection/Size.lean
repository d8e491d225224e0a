/-
Arithmetic on sizes.

Sizes are counted in words of 64 bits. A size that is computed from what a
caller gives is computed with checks: a step whose result does not fit a word
has no result, and the caller says what that means. A sum without a check has
no such caller. Where it leaves the word the program stops, and this is an
outcome of its own (`Size.Overflow`), next to the errors that are reported.
-/
set_option autoImplicit false

namespace ModelProtection

namespace Size

/-- The number of different words. -/
def bound : Nat := Nat.pow 2 64

/-- A sum that fits a word. -/
def add? (a b : Nat) : Option Nat := if a + b < bound then some (a + b) else none

/-- A product that fits a word. -/
def mul? (a b : Nat) : Option Nat := if a * b < bound then some (a * b) else none

/-- A sum without a check has left the word, and the program stops there. -/
structure Overflow where
deriving DecidableEq, Repr

/-- A sum without a check. -/
def add (a b : Nat) : Except Overflow Nat := (add? a b).elim (.error {}) .ok

theorem add?_eq_some_iff {a b n : Nat} : add? a b = some n ↔ n = a + b ∧ a + b < bound := by
  unfold add?; split <;> simp_all [eq_comm]

theorem add_eq (a b : Nat) : add a b = if a + b < bound then .ok (a + b) else .error {} := by
  unfold add add?; split <;> rfl

end Size

end ModelProtection

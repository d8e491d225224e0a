/-
Earlier and later instants.

Instants are compared by their seconds and then by their nanoseconds, so a leap
second lies behind the second that it follows and in front of the next one. Outside
leap seconds this is the order of the nanoseconds that pass from one instant to
another (`le_iff_elapsed`).

Days are added in two steps, each with a bound of its own: there must be a span of so
many days, and an instant at its end. The first bound never decides anything, because
no two instants are as far apart as the longest span (`addDays?_eq_some_iff`).
-/
import ModelProtection.Time.Instant

set_option autoImplicit false

namespace ModelProtection

namespace Instant

variable {s t now last : Instant}

/-! ## The order -/

theorem le_iff :
    s ≤ t ↔ s.seconds < t.seconds ∨ s.seconds = t.seconds ∧ s.nanos ≤ t.nanos := by
  show ¬ (t.seconds < s.seconds ∨ t.seconds = s.seconds ∧ t.nanos < s.nanos) ↔ _
  omega

theorem not_lt_self (now : Instant) : ¬ now < now := by
  rintro (h | ⟨-, h⟩)
  · exact absurd h (Int.lt_irrefl _)
  · exact absurd h (Nat.lt_irrefl _)

theorem not_lt_of_lt (h : s < t) : ¬ t < s := by
  intro h'
  rcases h with h | ⟨h, hnanos⟩ <;> rcases h' with h' | ⟨h', hnanos'⟩ <;> omega

/-- The nanoseconds that pass from one instant to another. A leap second has none of its own. -/
def elapsed (s t : Instant) : Int :=
  (t.seconds - s.seconds) * billion + ((t.nanos : Int) - s.nanos)

/-- Outside leap seconds the earlier instant is the one from which time passes to the other. -/
theorem le_iff_elapsed (hs : s.nanos < billion) (ht : t.nanos < billion) :
    s ≤ t ↔ 0 ≤ s.elapsed t := by
  rw [le_iff]
  unfold elapsed billion at *
  omega

theorem elapsed_trans (s t last : Instant) : s.elapsed t + t.elapsed last = s.elapsed last := by
  unfold elapsed billion
  omega

/-! ## Later instants -/

/-- One instant lies a number of days behind another, to the nanosecond. -/
structure DaysLater (now last : Instant) (days : Int) : Prop where
  seconds_eq : last.seconds = now.seconds + days * daySeconds
  nanos_eq : last.nanos = now.nanos

theorem DaysLater.elapsed_eq {days : Int} (h : DaysLater now last days) :
    now.elapsed last = days * daySeconds * billion := by
  rw [elapsed, h.seconds_eq, h.nanos_eq, Int.sub_self, Int.add_zero, Int.add_comm now.seconds,
    Int.add_sub_cancel]

theorem of?_eq_some_iff {seconds : Int} {nanos : Nat} :
    of? seconds nanos = some t ↔ t.seconds = seconds ∧ t.nanos = nanos := by
  unfold of?
  constructor
  · intro h
    split at h
    · cases h
      exact ⟨rfl, rfl⟩
    · cases h
  · rintro ⟨rfl, rfl⟩
    rw [dif_pos ⟨t.nanos_lt, t.minute_end, t.first_le, t.le_last⟩]

/-- Days are added if and only if there is an instant so many days later. A leap second counts as the
second that it follows. -/
theorem addDays?_eq_some_iff {days : Nat} :
    now.addDays? days = some last ↔ last.seconds = now.seconds + days * daySeconds
      ∧ last.nanos = now.nanos % billion := by
  unfold addDays?
  by_cases hmost : mostDays < days
  · rw [if_pos hmost]
    refine iff_of_false nofun ?_
    rintro ⟨hseconds, -⟩
    -- the longest span reaches from the first second past the last one
    have hspan : lastSecond < firstSecond + mostDays * daySeconds := by decide
    have hfirst := now.first_le
    have hlast := last.le_last
    have hday : daySeconds = 86400 := rfl
    rw [hday] at hseconds hspan
    omega
  · rw [if_neg hmost]
    exact of?_eq_some_iff

theorem addDays?_eq_some_iff_daysLater {days : Nat} (hnow : now.nanos < billion) :
    now.addDays? days = some last ↔ DaysLater now last days := by
  rw [addDays?_eq_some_iff, Nat.mod_eq_of_lt hnow]
  exact ⟨fun h => ⟨h.1, h.2⟩, fun h => ⟨h.seconds_eq, h.nanos_eq⟩⟩

/-- An instant some days later is later. -/
theorem lt_of_addDays? {days : Nat} (hdays : 0 < days) (h : now.addDays? days = some last) :
    now < last := by
  obtain ⟨hseconds, -⟩ := addDays?_eq_some_iff.1 h
  have hday : daySeconds = 86400 := rfl
  rw [hday] at hseconds
  left
  omega

end Instant

end ModelProtection

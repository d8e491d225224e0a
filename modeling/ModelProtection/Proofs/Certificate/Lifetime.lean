/-
How long a certificate is valid.

A certificate is valid from the instant at which it is issued to the one that lies
some days behind it, both included. Whether there is such an instant is the only
question that issuing asks about a positive number of days, so a date is never wrapped
around (`issue_eq_ok_iff`). What is checked later are the two instants themselves,
and these stand in the written certificate to the nanosecond: reading gives the
certificate back, and with it the same answer at every instant.
-/
import ModelProtection.Error.Crypto
import ModelProtection.Proofs.Certificate
import ModelProtection.Proofs.Time.Order

set_option autoImplicit false

namespace ModelProtection

namespace Certificate

variable {c : Certificate} {seed : Octets 32} {subject : String} {days : Int} {now last : Instant}

/-! ## The lifetime is checked -/

/-- A certificate is valid between its two instants, and at both of them. -/
theorem checkLifetime_eq_ok_iff :
    c.checkLifetime now = .ok () ↔ c.body.notBefore ≤ now ∧ now ≤ c.body.notAfter := by
  unfold checkLifetime
  by_cases hearly : now < c.body.notBefore
  · rw [if_pos hearly]
    exact ⟨nofun, fun h => absurd hearly h.1⟩
  rw [if_neg hearly]
  by_cases hlate : c.body.notAfter < now
  · rw [if_pos hlate]
    exact ⟨nofun, fun h => absurd hlate h.2⟩
  · rw [if_neg hlate]
    exact iff_of_true rfl ⟨hearly, hlate⟩

/-- A certificate whose lifetime is wrong is not valid yet, or not any more. -/
theorem of_checkLifetime {e : Error} (h : c.checkLifetime now = .error e) :
    (now < c.body.notBefore ∧ e = .notYetValid c.body.notBefore)
      ∨ (c.body.notAfter < now ∧ e = .expired c.body.notAfter) := by
  unfold checkLifetime at h
  split at h
  · rename_i hearly
    cases h
    exact .inl ⟨hearly, rfl⟩
  split at h
  · rename_i hlate
    cases h
    exact .inr ⟨hlate, rfl⟩
  · cases h

/-! ## A certificate is issued -/

/-- A certificate is issued for a positive number of days after which there is an instant. -/
theorem issue_eq_ok_iff :
    issue seed subject days now = .ok c ↔ ∃ notAfter, 0 < days
      ∧ now.addDays? days.toNat = some notAfter ∧ c = issueBetween seed subject now notAfter := by
  unfold issue
  by_cases hdays : days ≤ 0
  · rw [if_pos hdays]
    exact ⟨nofun, fun ⟨_, hpos, _⟩ => absurd hpos (Int.not_lt.2 hdays)⟩
  · rw [if_neg hdays]
    cases now.addDays? days.toNat with
    | none => exact ⟨nofun, fun ⟨_, _, h, _⟩ => nomatch h⟩
    | some notAfter =>
      constructor
      · intro h
        cases h
        exact ⟨notAfter, Int.not_le.1 hdays, rfl, rfl⟩
      · rintro ⟨_, -, h, rfl⟩
        cases h
        rfl

/-- The number of days is looked at before the instant at their end. -/
theorem eq_of_issue {e : IssueError} (h : issue seed subject days now = .error e) :
    e = if days < 1 then .validityNotPositive days else .validityOutOfRange days := by
  unfold issue at h
  by_cases hdays : days ≤ 0
  · rw [if_pos hdays] at h
    rw [if_pos (by omega)]
    exact (Except.error.inj h).symm
  · rw [if_neg hdays] at h
    rw [if_neg (by omega)]
    split at h
    · cases h
    · exact (Except.error.inj h).symm

/-- Outside leap seconds a certificate ends at the very nanosecond at which it was issued. -/
theorem issue_eq_ok_iff_daysLater (hnow : now.nanos < Instant.billion) :
    issue seed subject days now = .ok c ↔ ∃ last, 1 ≤ days ∧ now.DaysLater last days
      ∧ c = issueBetween seed subject now last := by
  rw [issue_eq_ok_iff]
  refine exists_congr fun last => and_congr_right fun hdays => and_congr_left' ?_
  rw [Instant.addDays?_eq_some_iff_daysLater hnow, Int.toNat_of_nonneg (Int.le_of_lt hdays)]

/-- A certificate is issued for its subject, and is valid at the instant at which it is issued. -/
theorem valid_of_issue (h : issue seed subject days now = .ok c) :
    c.body.subject = subject ∧ c.checkLifetime now = .ok () := by
  obtain ⟨last, hdays, hadd, rfl⟩ := issue_eq_ok_iff.1 h
  have hlater : now < last := Instant.lt_of_addDays? (by omega) hadd
  exact ⟨rfl, checkLifetime_eq_ok_iff.2 ⟨now.not_lt_self, Instant.not_lt_of_lt hlater⟩⟩

/-- A certificate that was issued is valid from then on for so many days. -/
theorem checkLifetime_issueBetween (t : Instant) :
    (issueBetween seed subject now last).checkLifetime t = .ok () ↔ now ≤ t ∧ t ≤ last :=
  checkLifetime_eq_ok_iff

end Certificate

/-- **The lifetime of a certificate is exact.** Outside leap seconds, a certificate for a number of
days is issued if and only if there is at least one, and an instant so many days later; otherwise the
making of a key fails, and it is said which of the two is wrong. The certificate that is issued is valid
at an instant if and only if that is not before the issuing and not behind the instant so many days
later, leap seconds in their places, and the same is true of the certificate that is read from its text.
At all other instants that means that the nanoseconds since the issuing are those of as many days or
less. -/
theorem certificate_lifetime_exact (seed : Octets 32) (subject : String) (days : Int) (now : Instant)
    (hnow : now.nanos < Instant.billion) :
    let issued := Certificate.issue seed subject days now
    ((∃ c, issued = .ok c) ↔ 1 ≤ days ∧ ∃ last, now.DaysLater last days)
      ∧ (∀ e, issued = .error e → CryptoError.ofIssue e = .failed .keyGeneration
          (.validity (if days < 1 then .validityNotPositive days else .validityOutOfRange days)))
      ∧ ∀ c, issued = .ok c → ∃ last read, now.DaysLater last days ∧ Certificate.parse c.write = .ok read
        ∧ ∀ t, (c.checkLifetime t = .ok () ↔ now ≤ t ∧ t ≤ last)
          ∧ (read.checkLifetime t = .ok () ↔ now ≤ t ∧ t ≤ last)
          ∧ (t.nanos < Instant.billion → (c.checkLifetime t = .ok ()
            ↔ 0 ≤ now.elapsed t ∧ now.elapsed t ≤ days * Instant.daySeconds * Instant.billion)) := by
  intro issued
  refine ⟨?_, ?_, ?_⟩
  · constructor
    · rintro ⟨c, hissued⟩
      obtain ⟨last, hdays, hlast, -⟩ := (Certificate.issue_eq_ok_iff_daysLater hnow).1 hissued
      exact ⟨hdays, last, hlast⟩
    · rintro ⟨hdays, last, hlast⟩
      exact ⟨_, (Certificate.issue_eq_ok_iff_daysLater hnow).2 ⟨last, hdays, hlast, rfl⟩⟩
  · intro e hissued
    rw [Certificate.eq_of_issue hissued]
    rfl
  · intro c hissued
    obtain ⟨last, -, hlast, rfl⟩ := (Certificate.issue_eq_ok_iff_daysLater hnow).1 hissued
    refine ⟨last, _, hlast, Certificate.parse_write _, ?_⟩
    intro t
    have hvalid : (Certificate.issueBetween seed subject now last).checkLifetime t = .ok ()
        ↔ now ≤ t ∧ t ≤ last := Certificate.checkLifetime_issueBetween t
    refine ⟨hvalid, hvalid, ?_⟩
    intro ht
    -- what passes until the end is what is left of the days
    have hlastNanos : last.nanos < Instant.billion := by rwa [hlast.nanos_eq]
    have htotal := Instant.elapsed_trans now t last
    rw [hlast.elapsed_eq] at htotal
    rw [hvalid, Instant.le_iff_elapsed hnow ht, Instant.le_iff_elapsed ht hlastNanos]
    omega

/-- In the last nanosecond of the day before the last, a certificate for one day can be issued, which is
valid in the last nanosecond of all; one for two days cannot. -/
theorem certificate_lifetime_exact_at_last_day :
    ∃ now last : Instant, now.nanos < Instant.billion ∧ last.seconds = Instant.lastSecond
      ∧ now.elapsed last = 86400000000000
      ∧ (∃ c, Certificate.issue (.ofFn 32 fun _ => 0) "isv" 1 now = .ok c
        ∧ c.checkLifetime now = .ok () ∧ c.checkLifetime last = .ok ())
      ∧ ¬ ∃ c, Certificate.issue (.ofFn 32 fun _ => 0) "isv" 2 now = .ok c := by
  let now : Instant := ⟨Instant.lastSecond - 86400, 999999999, by decide, by decide, by decide, by decide⟩
  let last : Instant := ⟨Instant.lastSecond, 999999999, by decide, by decide, by decide, by decide⟩
  have hnow : now.nanos < Instant.billion := by decide
  have hlast : now.DaysLater last 1 := ⟨by decide, rfl⟩
  have helapsed : now.elapsed last = 86400000000000 := by decide
  refine ⟨now, last, hnow, rfl, helapsed, ?_, ?_⟩
  · obtain ⟨hissued, -, hvalid⟩ := certificate_lifetime_exact (.ofFn 32 fun _ => 0) "isv" 1 now hnow
    obtain ⟨c, hc⟩ := hissued.2 ⟨Int.le_refl 1, last, hlast⟩
    obtain ⟨last', read, hlast', -, hlifetime⟩ := hvalid c hc
    refine ⟨c, hc, (hlifetime now).2.2 hnow |>.2 (by decide), (hlifetime last).2.2 (by decide) |>.2 ?_⟩
    rw [helapsed]
    decide
  · rw [(certificate_lifetime_exact (.ofFn 32 fun _ => 0) "isv" 2 now hnow).1]
    rintro ⟨-, later, hlater⟩
    have hseconds : later.seconds = Instant.lastSecond - 86400 + 2 * 86400 := hlater.seconds_eq
    have hend := later.le_last
    omega

end ModelProtection

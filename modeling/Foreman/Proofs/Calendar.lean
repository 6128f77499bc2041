import Foreman.Store.Memory

/-!
# Which sums lie within the calendar

The limits of `Instant.add?` and `Span.ofSeconds?` in numbers. An instant to which whole seconds are
added from the present on stays within the calendar until its last second
(`Instant.isSome_add?_iff`). For the years that people write with four digits this is the only limit
of a lease: the lengths that are no span at all lead further still (`isSome_leaseEnd?_iff`).
-/

namespace Foreman

namespace Time

/-- A year lies in its era: four hundred years, counted from a March on. -/
theorem Date.year_ofDays (days : Int) :
    (days + 719468) / 146097 * 400 ≤ (Date.ofDays days).year ∧
      (Date.ofDays days).year ≤ (days + 719468) / 146097 * 400 + 400 := by
  simp only [ofDays]
  split <;> omega

namespace Instant

/-- An instant of the years 1 to 9999, leap seconds included. -/
structure IsCommon (t : Instant) : Prop where
  first : 1 ≤ t.year
  last : t.year ≤ 9999
  fraction : t.nanos < 2 * second

/-- The years 1 to 9999 lie between the first of March of the year 0 and of the year 10000. -/
theorem IsCommon.seconds {t : Instant} (h : t.IsCommon) :
    -719468 * day ≤ t.seconds ∧ t.seconds < (25 * 146097 - 719468) * day := by
  have hera := Date.year_ofDays (t.seconds / day)
  have hfirst : 1 ≤ (Date.ofDays (t.seconds / day)).year := h.first
  have hlast : (Date.ofDays (t.seconds / day)).year ≤ 9999 := h.last
  generalize (Date.ofDays (t.seconds / day)).year = year at *
  unfold day at *
  omega

theorem firstSecond_eq : firstSecond = -8334601228800 := by decide

theorem lastSecond_eq : lastSecond = 8210266876799 := by decide

/-- Whole seconds can be added as long as the sum does not lie behind the last second. -/
theorem isSome_add?_iff {t : Instant} {n : Int} (ht : InCalendar t.seconds)
    (hfraction : t.nanos < 2 * second) (hn : 0 ≤ n) :
    (t.add? ⟨n * second⟩).isSome ↔ t.seconds + n ≤ lastSecond := by
  obtain ⟨hfirst, hlast⟩ := ht
  have hwhole : Span.wholeSeconds ⟨n * second⟩ = n := Int.mul_tdiv_cancel n (by decide)
  have hpart : (n * (second : Int)).tmod second = 0 := Int.mul_tmod_left ..
  have hforward : ¬ n < 0 := Int.not_lt.2 hn
  -- What is left of a leap second carries nothing over.
  have hcarry : (if second ≤ t.nanos then (t.nanos : Int) - second else t.nanos) / second = 0 := by
    unfold second at *
    split <;> omega
  simp only [add?, hwhole, hpart, hforward, decide_false, Bool.and_false, Bool.false_eq_true,
    if_false, Int.add_zero, hcarry]
  split
  · next hstays =>
    have hzero : n = 0 := by
      simp only [Bool.and_eq_true, beq_iff_eq] at hstays
      exact hstays.1.2
    subst hzero
    simpa using hlast
  · split
    · next hcalendar => exact iff_of_true rfl hcalendar.2
    · next hcalendar =>
      exact iff_of_false Bool.false_ne_true fun hle ↦ hcalendar ⟨by omega, hle⟩

end Instant

/-- The setting of a length is a span unless it is longer than the longest. -/
theorem Span.isSome_ofSeconds?_iff {n : Int} :
    (ofSeconds? (max n 0)).isSome ↔ n ≤ maxSeconds := by
  have hmax : maxSeconds = 9223372036854775 := rfl
  unfold ofSeconds?
  split <;> simp <;> omega

end Time

open Time

/-- **The end of a lease** that is taken in the years 1 to 9999 lies within the calendar, unless it
lies behind the last second. -/
theorem Store.isSome_leaseEnd?_iff {n : Int} {now : Instant} (hnow : now.IsCommon) :
    (leaseEnd? n now).isSome ↔ now.seconds + max n 0 ≤ Instant.lastSecond := by
  have hfirst := Instant.firstSecond_eq
  have hlast := Instant.lastSecond_eq
  have hday : day = 86400 := rfl
  obtain ⟨hlow, hhigh⟩ := hnow.seconds
  rw [hday] at hlow hhigh
  have hcalendar : Instant.InCalendar now.seconds := by
    constructor <;> omega
  rw [leaseEnd?, Span.ofSeconds?]
  split
  · exact Instant.isSome_add?_iff hcalendar hnow.fraction (Int.le_max_right ..)
  · next hlong =>
    have hmax : Span.maxSeconds = 9223372036854775 := rfl
    exact iff_of_false Bool.false_ne_true (by omega)

end Foreman

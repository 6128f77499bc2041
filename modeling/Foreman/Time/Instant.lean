import Foreman.Machine
import Foreman.Time.Calendar

/-!
# Instants and spans

An instant is a second counted from 1970-01-01T00:00:00Z and a fraction in nanoseconds. A leap second
is written as second 60: it shares its count with the second before it and has a fraction of at least
one whole second, so the order of instants is the lexicographic one.

A span is a number of nanoseconds. Adding one to an instant inside a leap second leaves that second
first; measuring between two instants counts a leap second that lies between their times of day. Both
rules are local to this file, and for instants outside leap seconds they are plain addition and
subtraction.

**Limits.** Instants run over the years of the calendar and spans over the seconds that still fit
64 bits as milliseconds. `Instant.add?` and `Span.ofSeconds?` say `none` beyond; whoever needs a
result there has no sensible one.
-/

namespace Foreman.Time

/-- A point on the time line. -/
structure Instant where
  seconds : Int
  nanos : Nat
deriving DecidableEq, Repr, Inhabited

/-- A length of time. -/
structure Span where
  nanos : Int
deriving DecidableEq, Repr

/-- Nanoseconds of a second. -/
def second : Nat := 1000000000

/-- Seconds of a day. -/
def day : Int := 86400

/-! ### Order -/

namespace Instant

/-- Whether the first instant is earlier. -/
def Before (a b : Instant) : Prop :=
  a.seconds < b.seconds ∨ (a.seconds = b.seconds ∧ a.nanos < b.nanos)

instance : LT Instant := ⟨Before⟩

instance : LE Instant := ⟨fun a b ↦ ¬ b < a⟩

instance (a b : Instant) : Decidable (a < b) :=
  inferInstanceAs (Decidable (_ ∨ _))

instance (a b : Instant) : Decidable (a ≤ b) :=
  inferInstanceAs (Decidable (¬ _))

theorem lt_def {a b : Instant} :
    a < b ↔ a.seconds < b.seconds ∨ (a.seconds = b.seconds ∧ a.nanos < b.nanos) := Iff.rfl

theorem le_def {a b : Instant} :
    a ≤ b ↔ a.seconds < b.seconds ∨ (a.seconds = b.seconds ∧ a.nanos ≤ b.nanos) := by
  show ¬ b < a ↔ _
  rw [lt_def]
  omega

theorem le_refl (a : Instant) : a ≤ a := by
  rw [le_def]; omega

theorem le_trans {a b c : Instant} (h : a ≤ b) (h' : b ≤ c) : a ≤ c := by
  rw [le_def] at *; omega

theorem le_total (a b : Instant) : a ≤ b ∨ b ≤ a := by
  rw [le_def, le_def]; omega

theorem not_lt {a b : Instant} : ¬ a < b ↔ b ≤ a := Iff.rfl

theorem not_le {a b : Instant} : ¬ a ≤ b ↔ b < a := by
  rw [le_def, lt_def]; omega

instance : Ord Instant :=
  ⟨fun a b ↦ (compare a.seconds b.seconds).then (compare a.nanos b.nanos)⟩

/-! ### Calendar view -/

/-- The date on which an instant falls. -/
def date (t : Instant) : Date :=
  .ofDays (t.seconds / day)

/-- Seconds since the midnight before. -/
def timeOfDay (t : Instant) : Nat :=
  (t.seconds % day).toNat

/-- The year in which an instant falls. -/
def year (t : Instant) : Int :=
  t.date.year

/-- The first second of the calendar. -/
def firstSecond : Int := (Date.toDays ⟨Date.firstYear, 1, 1⟩) * day

/-- The last second of the calendar. -/
def lastSecond : Int := (Date.toDays ⟨Date.lastYear, 12, 31⟩ + 1) * day - 1

/-- Whether the count of seconds lies in the calendar. -/
def InCalendar (seconds : Int) : Prop :=
  firstSecond ≤ seconds ∧ seconds ≤ lastSecond

instance (seconds : Int) : Decidable (InCalendar seconds) :=
  inferInstanceAs (Decidable (_ ∧ _))

end Instant

/-! ### Spans -/

namespace Span

/-- The longest span, in seconds, either way. -/
def maxSeconds : Int := Machine.greatest / 1000

/-- A span of whole seconds, `none` beyond the longest. -/
def ofSeconds? (n : Int) : Option Span :=
  if n.natAbs ≤ maxSeconds then some ⟨n * second⟩ else none

/-- A span of milliseconds. -/
def ofMillis (n : Int) : Span :=
  ⟨n * 1000000⟩

/-- Whole seconds of a span, the fraction dropped toward zero. -/
def wholeSeconds (s : Span) : Int :=
  s.nanos.tdiv second

/-- The opposite span. -/
def neg (s : Span) : Span :=
  ⟨-s.nanos⟩

theorem ofSeconds?_eq_some {n : Int} {s : Span} :
    ofSeconds? n = some s ↔ n.natAbs ≤ maxSeconds ∧ s = ⟨n * second⟩ := by
  unfold ofSeconds?
  split
  · next h => exact ⟨fun e ↦ ⟨h, (Option.some.inj e).symm⟩, fun e ↦ congrArg some e.2.symm⟩
  · next h => exact ⟨fun e ↦ (nomatch e), fun e ↦ absurd e.1 h⟩

end Span

namespace Instant

/-- The instant a span later, `none` outside the calendar. From inside a leap second a span that does
not stay in it counts from the end of that second, forward, or from its beginning, backward. -/
def add? (t : Instant) (s : Span) : Option Instant :=
  let whole := s.wholeSeconds
  let part := s.nanos.tmod second
  let leaping := second ≤ t.nanos
  -- The sum stays inside the leap second.
  if leaping && whole == 0 && !(0 < part && 2 * second ≤ t.nanos + part) then
    some ⟨t.seconds, (t.nanos + part).toNat⟩
  else
    -- Forward a leap second ends where the next one begins; backward it begins where its minute ends.
    let nanos : Int := if leaping then t.nanos - second else t.nanos
    let start := if leaping && whole < 0 then t.seconds + 1 else t.seconds
    let sum := nanos + part
    let seconds := start + whole + sum / second
    if InCalendar seconds then some ⟨seconds, (sum % second).toNat⟩ else none

/-- The span from the second instant to the first. A leap second lying strictly between their times of
day is counted. -/
def since (a b : Instant) : Span :=
  let extra : Int :=
    if b.timeOfDay < a.timeOfDay && second ≤ b.nanos then 1
    else if a.timeOfDay < b.timeOfDay && second ≤ a.nanos then -1
    else 0
  ⟨(a.seconds - b.seconds + extra) * second + (a.nanos - b.nanos)⟩

/-- Cuts the fraction to whole microseconds, toward 2000-01-01. -/
def cutToMicros (t : Instant) : Instant :=
  let epoch : Int := 946684800
  let total := (t.seconds - epoch) * second + t.nanos
  let cut := total.tdiv 1000 * 1000
  ⟨cut / second + epoch, (cut % second).toNat⟩

end Instant

end Foreman.Time

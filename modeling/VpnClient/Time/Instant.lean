import VpnClient.Time.Calendar

/-!
# Instants

Points on the time line of coordinated universal time, with nanoseconds.

## Main Definitions

* `Instant` — seconds since the epoch and nanoseconds into the second
* `Instant.since` — the span from one instant to another
* `Instant.add?` — the instant at the end of a span, if there is one
* `Instant.earliest`, `Instant.latest` — the ends of the time line

## Design Notes

A leap second has no number of its own: it is the nanoseconds from `10 ^ 9` on of the second
before it. Spans are whole numbers of nanoseconds. A span that starts inside a leap second counts
what is left of it; all others pass over leap seconds.
-/

namespace VpnClient

/-- The nanoseconds of a second. -/
def secondSpan : Int := 1000000000

/-- The nanoseconds of a day. -/
def daySpan : Int := 86400 * secondSpan

/-- The nanoseconds of a millisecond. -/
def millisecondSpan : Int := 1000000

/-- A point in time: seconds since 1970 began, and nanoseconds into the second. -/
structure Instant where
  seconds : Int
  nanos : Nat
  deriving DecidableEq, Repr

namespace Instant

/-- Whether an instant lies in a leap second. -/
def inLeapSecond (t : Instant) : Bool :=
  1000000000 ≤ t.nanos

/-- The order in time. -/
protected def le (a b : Instant) : Bool :=
  a.seconds < b.seconds || (a.seconds == b.seconds && a.nanos ≤ b.nanos)

instance : LE Instant := ⟨fun a b => Instant.le a b⟩

instance : LT Instant := ⟨fun a b => ¬ b ≤ a⟩

instance (a b : Instant) : Decidable (a ≤ b) :=
  inferInstanceAs (Decidable (Instant.le a b = true))

instance (a b : Instant) : Decidable (a < b) :=
  inferInstanceAs (Decidable (¬ b ≤ a))

/-- The later of two instants. -/
protected def max (a b : Instant) : Instant :=
  if a ≤ b then b else a

/-- The first year there is. -/
def firstYear : Int := -262143

/-- The last year there is. -/
def lastYear : Int := 262142

/-- The beginning of time. -/
def earliest : Instant :=
  ⟨(Date.mk firstYear 1 1).dayNumber * 86400, 0⟩

/-- The last nanosecond there is. -/
def latest : Instant :=
  ⟨(Date.mk (lastYear + 1) 1 1).dayNumber * 86400 - 1, 999999999⟩

/-- Whether there is a second with this number. -/
def hasSecond (seconds : Int) : Bool :=
  earliest.seconds ≤ seconds && seconds ≤ latest.seconds

/-- The second of the day in which an instant lies. -/
def secondOfDay (t : Instant) : Int :=
  t.seconds % 86400

/-- The day in which an instant lies. -/
def date (t : Instant) : Date :=
  .ofDayNumber (t.seconds / 86400)

/-- The leap second that a span between two instants has to count besides the difference of their
seconds, when the earlier time of day is in one. -/
def leapCorrection (t start : Instant) : Int :=
  if start.secondOfDay < t.secondOfDay then (if start.inLeapSecond then 1 else 0)
  else if t.secondOfDay < start.secondOfDay then (if t.inLeapSecond then -1 else 0)
  else 0

/-- The nanoseconds from `start` to `t`. -/
def since (t start : Instant) : Int :=
  (t.seconds - start.seconds + leapCorrection t start) * secondSpan
    + ((t.nanos : Int) - start.nanos)

/-- The instant that lies `nanos` nanoseconds, perhaps a negative number, after the start of a
second. -/
def ofSecond? (second nanos : Int) : Option Instant :=
  let seconds := second + nanos / secondSpan
  if hasSecond seconds then some ⟨seconds, (nanos % secondSpan).toNat⟩ else none

/-- The instant at the end of a span, which may be negative; `none` beyond the ends of time. -/
def add? (t : Instant) (span : Int) : Option Instant :=
  let whole := span.tdiv secondSpan
  let part := span.tmod secondSpan
  if t.inLeapSecond then
    if 0 < whole ∨ 0 < part ∧ 2 * secondSpan ≤ t.nanos + part then
      ofSecond? (t.seconds + whole) (t.nanos - secondSpan + part)
    else if whole < 0 then ofSecond? (t.seconds + 1 + whole) (t.nanos - secondSpan + part)
    else some ⟨t.seconds, ((t.nanos : Int) + part).toNat⟩
  else ofSecond? (t.seconds + whole) (t.nanos + part)

/-- The instant a number of days later. -/
def addDays? (t : Instant) (days : Int) : Option Instant :=
  t.add? (days * daySpan)

/-- The whole days from `start` to `t`, rounded toward zero. -/
def daysSince (t start : Instant) : Int :=
  (t.since start).tdiv daySpan

end Instant

end VpnClient

/-!
# Instants

An instant is a count of nanoseconds since the beginning of 1970, negative
before it.  The calendar reaches from the year -262143 to the year 262142, and
instants outside are not representable.

## Main definitions

* `Instant` — a point in time, with its whole seconds and milliseconds.
* `Instant.ofSeconds?` — the instant of a number of seconds, if it is
  representable.
-/

namespace ChatGateway

/-- Nanoseconds since the beginning of 1970. -/
structure Instant where
  nanos : Int
  deriving DecidableEq, Repr, Inhabited

/-- The first second of the calendar. -/
def firstSecond : Int := -8334601228800

/-- The last second of the calendar. -/
def lastSecond : Int := 8210266876799

namespace Instant

/-- The beginning of 1970. -/
def epoch : Instant := ⟨0⟩

/-- The instant of a number of milliseconds. -/
def ofMillis (ms : Int) : Instant := ⟨ms * 1000000⟩

/-- The whole milliseconds, rounded down. -/
def millis (t : Instant) : Int := t.nanos / 1000000

/-- The whole seconds, rounded down. -/
def seconds (t : Instant) : Int := t.nanos / 1000000000

/-- The nanoseconds past the whole second. -/
def fraction (t : Instant) : Nat := (t.nanos % 1000000000).toNat

/-- Whether the calendar reaches an instant. -/
def isRepresentable (t : Instant) : Bool :=
  firstSecond ≤ t.seconds && t.seconds ≤ lastSecond

/-- The instant of a number of seconds, if it is representable. -/
def ofSeconds? (s : Int) : Option Instant :=
  if firstSecond ≤ s ∧ s ≤ lastSecond then some ⟨s * 1000000000⟩ else none

/-- A later instant, or an earlier one for a negative span. -/
def after (t : Instant) (nanos : Int) : Instant := ⟨t.nanos + nanos⟩

/-- A later instant, by milliseconds. -/
def afterMillis (t : Instant) (ms : Int) : Instant := t.after (ms * 1000000)

@[simp] theorem millis_ofMillis (ms : Int) : (ofMillis ms).millis = ms := by
  simp only [ofMillis, millis]
  omega

@[simp] theorem seconds_of_whole (s : Int) : (Instant.mk (s * 1000000000)).seconds = s := by
  simp only [seconds]
  omega

end Instant

end ChatGateway

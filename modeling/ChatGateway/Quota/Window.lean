import ChatGateway.Time.Instant
import ChatGateway.Word

/-!
# Rate windows

Rates are counted in windows of sixty seconds that start on the minute.  A
window is named by the number of windows since the beginning of 1970.

## Main definitions

* `windowOf` — the window of an instant.
* `windowStart` — the start of a window, if the calendar reaches it.
* `clockAt` — where a clock starts that is set to a window.
-/

namespace ChatGateway

/-- The length of a window in seconds. -/
def windowSeconds : Int := 60

/-- The window of an instant. -/
def windowOf (t : Instant) : Int :=
  t.seconds / windowSeconds

/-- The start of a window, if the calendar reaches it.  The second at which it starts
has to be a signed word. -/
def windowStart (id : Int) : Except Panic (Option Instant) :=
  (checkedInt64 (id * windowSeconds)).map Instant.ofSeconds?

/-- The start of a window, or the beginning of 1970 where the calendar does not
reach it. -/
def clockAt (id : Int) : Except Panic Instant :=
  (windowStart id).map (·.getD .epoch)

/-- Windows follow each other in time. -/
theorem windowOf_le_windowOf {s t : Instant} (h : s.nanos ≤ t.nanos) : windowOf s ≤ windowOf t := by
  simp only [windowOf, Instant.seconds, windowSeconds]
  omega

end ChatGateway

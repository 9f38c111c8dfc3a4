import ChatGateway.Quota.Window

/-!
# Windows and the calendar

Windows divide time.  An instant of the calendar lies in the window that started last, less than
a minute before, and the calendar reaches that start.

The start of a window is sixty seconds times its number, and has to be a signed word.  The
calendar has fewer than 2 ^ 39 windows, and has no start for the others.  But of the windows from
2 ^ 58 on it is not even found out that there is none: their starts are no words any more, and
whoever asks for them does not go on.

## Main definitions

* `InCalendar` — the calendar reaches a second.
* `exactStart` — the start of a window in exact numbers.
* `windowStart_of_isInt64`, `windowStart_of_not_isInt64` — what is found out of a start, or that
  nothing is.
* `start_exact_iff_isInt64` — where a window starts.
-/

namespace ChatGateway

/-- The calendar reaches a second. -/
def InCalendar (second : Int) : Prop :=
  firstSecond ≤ second ∧ second ≤ lastSecond

instance (second : Int) : Decidable (InCalendar second) :=
  inferInstanceAs (Decidable (_ ∧ _))

/-- The second at which a window starts, in exact numbers. -/
def exactStart (id : Int) : Int :=
  id * windowSeconds

/-- The last window whose start is a word; the first one is as far in the past. -/
def lastHeld : Nat := 153722867280912930

/-! ## Windows of instants -/

namespace Instant

/-- The instant at which a second starts. -/
def atSecond (second : Int) : Instant :=
  ⟨second * 1000000000⟩

@[simp] theorem seconds_atSecond (second : Int) : (atSecond second).seconds = second :=
  seconds_of_whole second

theorem isRepresentable_iff {t : Instant} : t.isRepresentable = true ↔ InCalendar t.seconds := by
  simp [isRepresentable, InCalendar]

theorem ofSeconds?_of_inCalendar {second : Int} (reached : InCalendar second) :
    ofSeconds? second = some (atSecond second) :=
  if_pos reached

theorem ofSeconds?_of_not_inCalendar {second : Int} (beyond : ¬ InCalendar second) :
    ofSeconds? second = none :=
  if_neg beyond

end Instant

open Instant (atSecond)

/-- An instant lies in a window for the sixty seconds from its start. -/
theorem windowOf_eq_iff {t : Instant} {id : Int} :
    windowOf t = id ↔ exactStart id ≤ t.seconds ∧ t.seconds < exactStart id + windowSeconds := by
  simp only [windowOf, exactStart, windowSeconds]
  omega

theorem windowOf_exactStart (id : Int) : windowOf (atSecond (exactStart id)) = id := by
  rw [windowOf_eq_iff, Instant.seconds_atSecond, windowSeconds]
  omega

/-- The calendar starts on the minute, so it reaches the start of each of its windows. -/
theorem inCalendar_exactStart {t : Instant} (reached : InCalendar t.seconds) :
    InCalendar (exactStart (windowOf t)) := by
  have inside := windowOf_eq_iff.1 (rfl : windowOf t = windowOf t)
  simp only [InCalendar, firstSecond, lastSecond, exactStart, windowSeconds] at *
  omega

/-! ## Starts in words -/

/-- A word holds each second of the calendar. -/
theorem isInt64_of_inCalendar {second : Int} (reached : InCalendar second) : IsInt64 second := by
  simp only [InCalendar, firstSecond, lastSecond, IsInt64, int64Min, int64Max] at *
  omega

theorem isInt64_exactStart_iff {id : Int} : IsInt64 (exactStart id) ↔ id.natAbs ≤ lastHeld := by
  simp only [IsInt64, int64Min, int64Max, exactStart, windowSeconds, lastHeld]
  omega

/-- Of a start that is a word, it is found out whether the calendar reaches it. -/
theorem windowStart_of_isInt64 {id : Int} (held : IsInt64 (exactStart id)) :
    windowStart id = .ok (Instant.ofSeconds? (exactStart id)) :=
  congrArg (Except.map _) (checkedInt64_of_isInt64 held)

/-- Of any other start, nothing is found out. -/
theorem windowStart_of_not_isInt64 {id : Int} (unheld : ¬ IsInt64 (exactStart id)) :
    windowStart id = .error .overflow :=
  congrArg (Except.map _) (checkedInt64_of_not_isInt64 unheld)

theorem windowStart_eq_ok_iff {id : Int} {found : Option Instant} :
    windowStart id = .ok found ↔
      IsInt64 (exactStart id) ∧ found = Instant.ofSeconds? (exactStart id) := by
  by_cases held : IsInt64 (exactStart id)
  · rw [windowStart_of_isInt64 held, Except.ok.injEq, and_iff_right held, eq_comm]
  · simp [windowStart_of_not_isInt64 held, held]

/-- A start that the calendar reaches is given. -/
theorem windowStart_of_inCalendar {id : Int} (reached : InCalendar (exactStart id)) :
    windowStart id = .ok (some (atSecond (exactStart id))) :=
  windowStart_eq_ok_iff.2
    ⟨isInt64_of_inCalendar reached, (Instant.ofSeconds?_of_inCalendar reached).symm⟩

/-- What is given lies in the calendar, and starts the window. -/
theorem of_windowStart_eq_some {id : Int} {start : Instant}
    (given : windowStart id = .ok (some start)) :
    InCalendar (exactStart id) ∧ start = atSecond (exactStart id) := by
  by_cases reached : InCalendar (exactStart id)
  · rw [windowStart_of_inCalendar reached] at given
    cases given
    exact ⟨reached, rfl⟩
  · have none_found := (windowStart_eq_ok_iff.1 given).2
    rw [Instant.ofSeconds?_of_not_inCalendar reached] at none_found
    cases none_found

theorem clockAt_of_windowStart {id : Int} {found : Option Instant}
    (start : windowStart id = .ok found) : clockAt id = .ok (found.getD .epoch) := by
  rw [clockAt, start]
  rfl

theorem clockAt_of_not_isInt64 {id : Int} (unheld : ¬ IsInt64 (exactStart id)) :
    clockAt id = .error .overflow := by
  rw [clockAt, windowStart_of_not_isInt64 unheld]
  rfl

/-! ## Where windows start -/

/-- **A window starts where it should, or nowhere, exactly if its start is a word.**  Each instant
of the calendar lies in the window that started last, less than a minute before, and windows
follow each other in time.  If the calendar reaches the start of a window, this is the start that
is given, it lies in the window, and a clock that is set to the window starts there; and no other
start is ever given.  If the calendar does not reach it, there is no start and the clock starts
with 1970, as long as the start is a word.  If it is none, neither is found out: the program does
not go on. -/
theorem start_exact_iff_isInt64 (t t' : Instant) (id : Int) :
    (t.isRepresentable = true → ∃ start, windowStart (windowOf t) = .ok (some start) ∧
      start.nanos ≤ t.nanos ∧ t.nanos < (start.afterMillis 60000).nanos) ∧
    (t.nanos ≤ t'.nanos → windowOf t ≤ windowOf t') ∧
    (windowStart id = .ok (Instant.ofSeconds? (exactStart id)) ↔ IsInt64 (exactStart id)) ∧
    (∀ start, windowStart id = .ok (some start) ↔
      InCalendar (exactStart id) ∧ start = .atSecond (exactStart id)) ∧
    (InCalendar (exactStart id) → clockAt id = .ok (.atSecond (exactStart id)) ∧
      windowOf (.atSecond (exactStart id)) = id) ∧
    (IsInt64 (exactStart id) → ¬ InCalendar (exactStart id) →
      windowStart id = .ok none ∧ clockAt id = .ok .epoch) ∧
    (¬ IsInt64 (exactStart id) →
      windowStart id = .error .overflow ∧ clockAt id = .error .overflow) ∧
    (IsInt64 (exactStart id) ↔ id.natAbs ≤ lastHeld) := by
  refine ⟨?_, windowOf_le_windowOf, ?_, fun start => ⟨of_windowStart_eq_some, ?_⟩, ?_, ?_, ?_,
    isInt64_exactStart_iff⟩
  · intro representable
    have reached := Instant.isRepresentable_iff.1 representable
    have inside := windowOf_eq_iff.1 (rfl : windowOf t = windowOf t)
    refine ⟨_, windowStart_of_inCalendar (inCalendar_exactStart reached), ?_⟩
    simp only [Instant.seconds, windowSeconds] at inside
    simp only [atSecond, Instant.afterMillis, Instant.after]
    omega
  · rw [windowStart_eq_ok_iff]
    exact and_iff_left rfl
  · rintro ⟨reached, rfl⟩
    exact windowStart_of_inCalendar reached
  · intro reached
    exact ⟨clockAt_of_windowStart (windowStart_of_inCalendar reached), windowOf_exactStart id⟩
  · intro held beyond
    have missing : windowStart id = .ok none :=
      windowStart_eq_ok_iff.2 ⟨held, (Instant.ofSeconds?_of_not_inCalendar beyond).symm⟩
    exact ⟨missing, clockAt_of_windowStart missing⟩
  · intro unheld
    exact ⟨windowStart_of_not_isInt64 unheld, clockAt_of_not_isInt64 unheld⟩

/-- A window that a signed word numbers, past the end of the calendar, of which it is not found
out that it has no start. -/
theorem far_window_overflows :
    IsInt64 307445734561825861 ∧ ¬ InCalendar (exactStart 307445734561825861) ∧
      windowStart 307445734561825861 ≠ .ok none ∧
      windowStart 307445734561825861 = .error .overflow ∧
      clockAt 307445734561825861 = .error .overflow := by
  have unheld : ¬ IsInt64 (exactStart 307445734561825861) := by decide
  have stopped := windowStart_of_not_isInt64 unheld
  exact ⟨by decide, by decide, by simp [stopped], stopped, clockAt_of_not_isInt64 unheld⟩

end ChatGateway

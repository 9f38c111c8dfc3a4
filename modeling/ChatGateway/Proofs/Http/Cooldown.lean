import ChatGateway.Proofs.Http.Outcomes
import Mathlib.Algebra.GroupWithZero.Nat
import Mathlib.Data.List.Induction
import Mathlib.Order.Bounds.Basic

/-!
# One deadline sums up a history

Of each provider one deadline is kept.  It stands for a whole history: of all the delays that
the provider announced since it was last cleared, each counted from its own time and for an
hour at most, it is the end of the one that ends last.  A provider without a deadline has
announced nothing since.

So the time that is left can be said without a deadline.  No later announcement makes it
shorter, nothing that concerns another provider changes it, and a request is held back exactly
while it lasts.

## Main definitions

* `CooldownEvent`, `Watch` — what happens to cooldowns, and where that leads.
* `announcedEnds` — the ends of the cooldowns that a provider has announced.
* `SumsUp` — a deadline that stands for them.
* `cooldown_sums_up_history` — what is left of a cooldown.
-/

namespace ChatGateway

/-! ## What happens to cooldowns -/

/-- What may happen to cooldowns. -/
inductive CooldownEvent where
  /-- The provider limits a request, with these values of the header that announces a delay. -/
  | limited (provider : String) (headers : List String)
  | cleared (provider : String)
  /-- Time passes, in nanoseconds. -/
  | passed (span : Nat)
  deriving DecidableEq

namespace CooldownEvent

/-- The time that an event takes. -/
def span : CooldownEvent → Nat
  | limited _ _ | cleared _ => 0
  | passed span => span

/-- Whether an event is one of a provider or of the clock. -/
def concerns (provider : String) : CooldownEvent → Bool
  | limited p _ | cleared p => p = provider
  | passed _ => true

end CooldownEvent

/-- The cooldowns and the clock. -/
structure Watch where
  cooldowns : Cooldowns := {}
  now : Nat

/-- What an event leads to. -/
def Watch.after (w : Watch) : CooldownEvent → Watch
  | .limited provider headers => { w with cooldowns := (w.cooldowns.record w.now provider headers).2 }
  | .cleared provider => { w with cooldowns := w.cooldowns.clear provider }
  | .passed span => { w with now := w.now + span }

/-- What a row of events leads to, from a time at which there are no cooldowns. -/
def watch (start : Nat) (events : List CooldownEvent) : Watch :=
  events.foldl Watch.after { now := start }

/-- The time for which a provider is left alone after a row of events. -/
def leftAfter (start : Nat) (events : List CooldownEvent) (provider : String) : Option Nat :=
  (watch start events).cooldowns.remaining? (watch start events).now provider

@[simp] theorem watch_concat (start : Nat) (events : List CooldownEvent) (e : CooldownEvent) :
    watch start (events ++ [e]) = (watch start events).after e := by
  simp [watch]

/-! ## What a provider has announced -/

/-- The time that some events take. -/
def elapsed (events : List CooldownEvent) : Nat :=
  (events.map CooldownEvent.span).sum

/-- The ends of the cooldowns that a provider has announced since it was last cleared. -/
def announcedEnds (start : Nat) (events : List CooldownEvent) (provider : String) : Set Nat :=
  {deadline | ∃ earlier headers later span,
    events = earlier ++ .limited provider headers :: later ∧ .cleared provider ∉ later ∧
    headers.head?.bind Delay.ofHeader? = some span ∧
    deadline = start + elapsed earlier + min span longestCooldown}

@[simp] theorem elapsed_append (events later : List CooldownEvent) :
    elapsed (events ++ later) = elapsed events + elapsed later := by
  simp [elapsed]

variable {start : Nat} {provider : String}

theorem now_watch (start : Nat) (events : List CooldownEvent) :
    (watch start events).now = start + elapsed events := by
  induction events using List.reverseRecOn with
  | nil => rfl
  | append_singleton events e ih =>
    rw [watch_concat, elapsed_append, ← Nat.add_assoc, ← ih]
    cases e <;> rfl

/-- A further event ends all cooldowns of a provider, or leaves them, and may announce one. -/
theorem mem_announcedEnds_concat {events : List CooldownEvent} {e : CooldownEvent}
    {deadline : Nat} :
    deadline ∈ announcedEnds start (events ++ [e]) provider ↔
      (deadline ∈ announcedEnds start events provider ∧ e ≠ .cleared provider) ∨
      ∃ headers span, e = .limited provider headers ∧
        headers.head?.bind Delay.ofHeader? = some span ∧
        deadline = start + elapsed events + min span longestCooldown := by
  constructor
  · rintro ⟨earlier, headers, later, span, split, uncleared, announced, ends⟩
    rcases List.eq_nil_or_concat' later with rfl | ⟨later, last, rfl⟩
    · obtain ⟨rfl, same⟩ := List.append_inj' split rfl
      exact .inr ⟨headers, span, List.head_eq_of_cons_eq same, announced, ends⟩
    · rw [← List.cons_append, ← List.append_assoc] at split
      obtain ⟨rfl, same⟩ := List.append_inj' split rfl
      obtain rfl := List.head_eq_of_cons_eq same
      simp only [List.mem_append, List.mem_singleton, not_or] at uncleared
      exact .inl ⟨⟨earlier, headers, later, span, rfl, uncleared.1, announced, ends⟩,
        fun clears => uncleared.2 clears.symm⟩
  · rintro (⟨⟨earlier, headers, later, span, rfl, uncleared, announced, ends⟩, keeps⟩ |
      ⟨headers, span, rfl, announced, ends⟩)
    · refine ⟨earlier, headers, later ++ [e], span, by simp, ?_, announced, ends⟩
      simp only [List.mem_append, List.mem_singleton, not_or]
      exact ⟨uncleared, fun clears => keeps clears.symm⟩
    · exact ⟨events, headers, [], span, rfl, List.not_mem_nil, announced, ends⟩

/-- Without being cleared, a provider keeps what it has announced. -/
theorem announcedEnds_subset {events later : List CooldownEvent}
    (uncleared : .cleared provider ∉ later) :
    announcedEnds start events provider ⊆ announcedEnds start (events ++ later) provider := by
  rintro deadline ⟨earlier, headers, between, span, rfl, before, announced, ends⟩
  exact ⟨earlier, headers, between ++ later, span, by simp,
    by simp [before, uncleared], announced, ends⟩

/-- No cooldown is announced for more than an hour. -/
theorem le_of_mem_announcedEnds {events : List CooldownEvent} {deadline : Nat}
    (h : deadline ∈ announcedEnds start events provider) :
    deadline ≤ start + elapsed events + longestCooldown := by
  obtain ⟨earlier, headers, later, span, rfl, -, -, rfl⟩ := h
  have hour : min span longestCooldown ≤ longestCooldown := Nat.min_le_right _ _
  rw [elapsed_append]
  omega

/-- What does not concern a provider announces nothing for it, and takes no time. -/
theorem announcedEnds_filter (start : Nat) (events : List CooldownEvent) (provider : String) :
    elapsed (events.filter (·.concerns provider)) = elapsed events ∧
      announcedEnds start (events.filter (·.concerns provider)) provider =
        announcedEnds start events provider := by
  induction events using List.reverseRecOn with
  | nil => exact ⟨rfl, rfl⟩
  | append_singleton events e ih =>
    obtain ⟨time, ends⟩ := ih
    rw [List.filter_append]
    cases concerned : e.concerns provider with
    | true =>
      have last : [e].filter (·.concerns provider) = [e] := by simp [concerned]
      rw [last]
      refine ⟨by simp [time], Set.ext fun deadline => ?_⟩
      rw [mem_announcedEnds_concat, mem_announcedEnds_concat, ends, time]
    | false =>
      have last : [e].filter (·.concerns provider) = [] := by simp [concerned]
      rw [last, List.append_nil]
      have other : e ≠ .cleared provider ∧ (∀ headers, e ≠ .limited provider headers) ∧
          elapsed [e] = 0 := by
        cases e <;> simp_all [CooldownEvent.concerns, CooldownEvent.span, elapsed]
      obtain ⟨keeps, silent, instant⟩ := other
      refine ⟨by rw [elapsed_append, instant, time]; rfl, Set.ext fun deadline => ?_⟩
      rw [mem_announcedEnds_concat, ends]
      simp [keeps, silent]

/-! ## What the deadline stands for -/

/-- A deadline that is the last of some ends; none where there are no ends. -/
def SumsUp (ends : Set Nat) : Option Nat → Prop
  | none => ends = ∅
  | some deadline => IsGreatest ends deadline

/-- An event leaves a deadline that sums up what has been announced, the event included. -/
theorem sumsUp_after {events : List CooldownEvent} (e : CooldownEvent)
    (h : SumsUp (announcedEnds start events provider)
      ((watch start events).cooldowns.deadlines.get? provider)) :
    SumsUp (announcedEnds start (events ++ [e]) provider)
      ((watch start (events ++ [e])).cooldowns.deadlines.get? provider) := by
  -- an event that neither clears the provider nor announces anything for it leaves both sides
  have kept : e ≠ .cleared provider →
      (∀ headers span, e = .limited provider headers →
        headers.head?.bind Delay.ofHeader? ≠ some span) →
      announcedEnds start (events ++ [e]) provider = announcedEnds start events provider := by
    intro keeps silent
    ext deadline
    rw [mem_announcedEnds_concat]
    constructor
    · rintro (⟨mem, -⟩ | ⟨headers, span, limited, announced, -⟩)
      · exact mem
      · exact absurd announced (silent headers span limited)
    · exact fun mem => .inl ⟨mem, keeps⟩
  rw [watch_concat]
  cases e with
  | passed span =>
    rw [kept CooldownEvent.noConfusion fun _ _ => CooldownEvent.noConfusion]
    exact h
  | cleared p =>
    simp only [Watch.after, Cooldowns.get?_clear]
    by_cases own : provider = p
    · subst own
      rw [if_pos rfl]
      ext deadline
      simp [mem_announcedEnds_concat]
    · rw [if_neg own, kept (by simpa using Ne.symm own) (by simp)]
      exact h
  | limited p headers =>
    cases announced : headers.head?.bind Delay.ofHeader? with
    | none =>
      have unannounced : Cooldowns.announced? headers = none := by
        simp [Cooldowns.announced?, announced]
      simp only [Watch.after, Cooldowns.record_of_unannounced unannounced]
      rw [kept CooldownEvent.noConfusion (by rintro _ _ ⟨⟩; simp [announced])]
      exact h
    | some span =>
      have shortened : Cooldowns.announced? headers = some (min span longestCooldown) := by
        simp [Cooldowns.announced?, announced]
      simp only [Watch.after, Cooldowns.record_of_announced shortened, Cooldowns.get?_hold]
      by_cases own : provider = p
      · subst own
        have ends : announcedEnds start (events ++ [.limited provider headers]) provider =
            insert (start + elapsed events + min span longestCooldown)
              (announcedEnds start events provider) := by
          ext deadline
          rw [mem_announcedEnds_concat, Set.mem_insert_iff]
          simp [announced, or_comm]
        rw [if_pos rfl, ends, now_watch]
        cases found : (watch start events).cooldowns.deadlines.get? provider with
        | none =>
          rw [found] at h
          rw [show announcedEnds start events provider = ∅ from h]
          simp [SumsUp]
        | some deadline =>
          rw [found] at h
          rw [Option.getD_some, max_comm]
          exact h.insert _
      · rw [if_neg own, kept CooldownEvent.noConfusion]
        · exact h
        · rintro _ _ ⟨⟩
          exact absurd rfl own

/-- After any row of events, the deadline of a provider sums up what it has announced. -/
theorem sumsUp_watch (start : Nat) (events : List CooldownEvent) (provider : String) :
    SumsUp (announcedEnds start events provider)
      ((watch start events).cooldowns.deadlines.get? provider) := by
  induction events using List.reverseRecOn with
  | nil =>
    ext deadline
    simp [announcedEnds]
  | append_singleton events e ih => exact sumsUp_after e ih

/-- What is left of a cooldown, by what was announced. -/
theorem leftAfter_eq_some_iff {events : List CooldownEvent} {left : Nat} :
    leftAfter start events provider = some left ↔
      0 < left ∧
        IsGreatest (announcedEnds start events provider) (start + elapsed events + left) := by
  have sums := sumsUp_watch start events provider
  rw [leftAfter, Cooldowns.remaining?_eq_some_iff, now_watch]
  cases found : (watch start events).cooldowns.deadlines.get? provider with
  | none =>
    rw [found] at sums
    rw [show announcedEnds start events provider = ∅ from sums]
    simp [IsGreatest]
  | some deadline =>
    rw [found] at sums
    rw [Option.some.injEq]
    refine and_congr_right fun _ => ⟨fun same => same ▸ sums, fun greatest => ?_⟩
    exact IsGreatest.unique sums greatest

/-- A provider that is left alone no longer has announced nothing that lasts. -/
theorem leftAfter_eq_none_iff {events : List CooldownEvent} :
    leftAfter start events provider = none ↔
      ∀ deadline ∈ announcedEnds start events provider, deadline ≤ start + elapsed events := by
  have sums := sumsUp_watch start events provider
  rw [leftAfter, Cooldowns.remaining?_eq_none_iff, now_watch]
  cases found : (watch start events).cooldowns.deadlines.get? provider with
  | none =>
    rw [found] at sums
    rw [show announcedEnds start events provider = ∅ from sums]
    simp
  | some deadline =>
    rw [found] at sums
    constructor
    · intro ended other mem
      exact Nat.le_trans (sums.2 mem) (ended deadline rfl)
    · rintro ended _ ⟨⟩
      exact ended deadline sums.1

/-! ## Requests during a cooldown -/

/-- A request to a provider that is left alone is not sent; it fails as a limited one, and may be
tried elsewhere.  To any other provider it is sent, or fails for good. -/
theorem held_back_iff {β : Type} (dec : Decoder β) (repeats : Nat) (network : Nat → Delivery)
    (c : Cooldowns) (now : Nat) (provider : String) (request : HttpRequest) :
    ((exchange dec repeats network c now provider request).sendings = 0 ∧
      ∃ fault, (exchange dec repeats network c now provider request).result = .error fault ∧
        (fault.error provider).retryable = true ∧ (fault.error provider).status = some 429) ↔
      (c.remaining? now provider).isSome := by
  cases left : c.remaining? now provider with
  | some span =>
    rw [exchange_of_cooling dec repeats network left]
    exact iff_of_true ⟨rfl, _, rfl, rfl, rfl⟩ rfl
  | none =>
    refine iff_of_false ?_ Bool.false_ne_true
    rintro ⟨unsent, fault, failed, retryable, -⟩
    by_cases usable : ∃ address, Address.ofText? request.address = some address ∧
        address.isUsable = true
    · obtain ⟨address, parsed, usable⟩ := usable
      obtain ⟨n, sent, told⟩ := sent_send network repeats 0
      have first_lt := sent.first_lt
      cases last : network (n - 1) with
      | failed fault =>
        rw [last] at told
        rw [exchange_of_failed dec repeats network left parsed usable told] at unsent
        exact absurd unsent (Nat.ne_of_gt first_lt)
      | answered r =>
        rw [last] at told
        rw [exchange_of_answered dec repeats network left parsed usable told] at unsent
        exact absurd unsent (Nat.ne_of_gt first_lt)
    · have unusable : ∀ address, Address.ofText? request.address = some address →
          address.isUsable = false := fun address parsed =>
        Bool.eq_false_iff.2 fun isUsable => usable ⟨address, parsed, isUsable⟩
      rw [exchange_of_unusable dec repeats network left unusable] at failed
      obtain rfl := Except.error.inj failed
      cases retryable

/-- **What is left of a cooldown.**  Take any row of events from a time without cooldowns.  The
time left for a provider is that up to the last of the ends that it has announced since it was
last cleared, each reckoned from its own time and for an hour at most; there is none left if all
of them are over.  It is never more than an hour.  Whatever comes later, short of clearing the
provider, takes no more of it than passes.  What concerns other providers does not change it.
And a request to the provider is not sent, and fails for a while as a limited one, exactly while
there is time left. -/
theorem cooldown_sums_up_history {β : Type} (start : Nat) (events : List CooldownEvent)
    (provider : String) :
    (∀ left, leftAfter start events provider = some left ↔
      0 < left ∧
        IsGreatest (announcedEnds start events provider) (start + elapsed events + left)) ∧
    (leftAfter start events provider = none ↔
      ∀ deadline ∈ announcedEnds start events provider, deadline ≤ start + elapsed events) ∧
    (∀ left, leftAfter start events provider = some left → left ≤ longestCooldown) ∧
    (∀ later left, .cleared provider ∉ later → leftAfter start events provider = some left →
      elapsed later < left →
        ∃ left', leftAfter start (events ++ later) provider = some left' ∧
          left ≤ left' + elapsed later) ∧
    leftAfter start (events.filter (·.concerns provider)) provider =
      leftAfter start events provider ∧
    ∀ (dec : Decoder β) (repeats : Nat) (network : Nat → Delivery) (request : HttpRequest),
      let x := exchange dec repeats network (watch start events).cooldowns
        (start + elapsed events) provider request
      (x.sendings = 0 ∧ ∃ fault, x.result = .error fault ∧
        (fault.error provider).retryable = true ∧ (fault.error provider).status = some 429) ↔
        (leftAfter start events provider).isSome := by
  refine ⟨fun left => leftAfter_eq_some_iff, leftAfter_eq_none_iff, ?_, ?_, ?_, ?_⟩
  · intro left lasts
    have mem := (leftAfter_eq_some_iff.1 lasts).2.1
    have hour := le_of_mem_announcedEnds mem
    omega
  · intro later left uncleared lasts passes
    have mem := announcedEnds_subset uncleared (leftAfter_eq_some_iff.1 lasts).2.1
    cases lasts' : leftAfter start (events ++ later) provider with
    | none =>
      have ended := leftAfter_eq_none_iff.1 lasts' _ mem
      rw [elapsed_append] at ended
      omega
    | some left' =>
      have last := (leftAfter_eq_some_iff.1 lasts').2.2 mem
      rw [elapsed_append] at last
      exact ⟨left', rfl, by omega⟩
  · obtain ⟨time, ends⟩ := announcedEnds_filter start events provider
    refine Option.ext fun left => ?_
    rw [leftAfter_eq_some_iff, leftAfter_eq_some_iff, time, ends]
  · intro dec repeats network request
    rw [leftAfter, now_watch]
    exact held_back_iff dec repeats network _ _ provider request

end ChatGateway

import ChatGateway.Http.Exchange
import Mathlib.Data.List.Infix

/-!
# What comes of a request

A request is sent again only while sendings are lost: no connection is made, or no answer comes
in time.  Whatever else comes of a sending stands, and an answer above all, be it a refusal.

What an answer means is decided by its status and its body.  A success is a result, if it can be
read.  Any other answer is a failure with its status.  Another candidate may do better if the
status tells of a passing trouble or of a limit, or if the body speaks of a limit anywhere, also
where the text of the failure no longer quotes it.  Only a limit makes the provider be left
alone, and only for a delay that it announces in a way that can be read.

## Main definitions

* `Delivery.IsLost` — the outcomes after which a request is sent again.
* `Sent` — how often a request is sent.
* `SpeaksOfLimit`, `HttpResponse.Limits` — what a body says, and the delay that an answer asks for.
* `Judged` — what an answer makes of an exchange.
* `outcome_classified` — all of it, for every network.
-/

namespace ChatGateway

/-! ## Sending -/

/-- No connection was made, or no answer came in time. -/
def Delivery.IsLost (d : Delivery) : Prop :=
  d = .failed .unconnected ∨ d = .failed .timedOut

theorem Delivery.isRepeated_iff {d : Delivery} : d.isRepeated = true ↔ d.IsLost := by
  cases d with
  | failed fault => cases fault <;> simp [isRepeated, TransportFault.isRepeated, IsLost]
  | answered r => simp [isRepeated, IsLost]

/-- A request was sent, from one sending to before another: all but the last were lost, and the
last one too only if nothing was left of the repeats. -/
structure Sent (network : Nat → Delivery) (repeats first next : Nat) : Prop where
  first_lt : first < next
  next_le : next ≤ first + repeats + 1
  lost : ∀ i, first ≤ i → i + 1 < next → (network i).IsLost
  stands : next ≤ first + repeats → ¬ (network (next - 1)).IsLost

/-- What comes of a request is the outcome of its last sending. -/
theorem sent_send (network : Nat → Delivery) (repeats first : Nat) :
    ∃ next, Sent network repeats first next ∧
      send network repeats first = (next, network (next - 1)) := by
  induction repeats generalizing first with
  | zero =>
    refine ⟨first + 1, ⟨Nat.lt_succ_self first, Nat.le_refl _, ?_, ?_⟩, rfl⟩
    · intro i from_first before_last
      omega
    · intro some_left
      omega
  | succ repeats ih =>
    by_cases lost : (network first).IsLost
    · obtain ⟨next, sent, told⟩ := ih (first + 1)
      have first_lt := sent.first_lt
      have next_le := sent.next_le
      refine ⟨next, ⟨by omega, by omega, ?_, ?_⟩, ?_⟩
      · intro i from_first before_last
        rcases Nat.eq_or_lt_of_le from_first with rfl | later
        · exact lost
        · exact sent.lost i later before_last
      · intro some_left
        exact sent.stands (by omega)
      · rw [send, if_pos (Delivery.isRepeated_iff.2 lost), told]
    · refine ⟨first + 1, ⟨Nat.lt_succ_self first, by omega, ?_, fun _ => lost⟩, ?_⟩
      · intro i from_first before_last
        omega
      · rw [send, if_neg (mt Delivery.isRepeated_iff.1 lost)]
        rfl

/-- A request is sent once, and again for each of the first sendings that are lost, as far as
the repeats go. -/
theorem Sent.eq_of_lost {network : Nat → Delivery} {repeats next k : Nat}
    (h : Sent network repeats 0 next) (lost : ∀ i < k, (network i).IsLost)
    (ended : k < repeats → ¬ (network k).IsLost) : next = 1 + min k repeats := by
  have first_lt := h.first_lt
  have next_le := h.next_le
  have not_before : k < repeats → ¬ k + 1 < next := fun few before =>
    ended few (h.lost k (Nat.zero_le k) before)
  have not_early : next - 1 < k → ¬ next ≤ 0 + repeats := fun early some_left =>
    h.stands some_left (lost _ early)
  omega

/-! ## Limits -/

/-- A text occurs in another: it stands between two parts of it. -/
theorem occursIn_iff {needle cs : List Char} : occursIn needle cs = true ↔ needle <:+: cs := by
  induction cs with
  | nil => simp [occursIn]
  | cons c rest ih =>
    rw [occursIn, Bool.or_eq_true, List.isPrefixOf_iff_prefix, ih, List.infix_cons_iff]

/-- A body speaks of a limit: somewhere in it stands a marker, in small or capital letters. -/
def SpeaksOfLimit (body : String) : Prop :=
  ∃ marker ∈ rateLimitMarkers, ∃ before said after,
    body.toList = before ++ said ++ after ∧ said.map Char.toLower = marker.toList

/-- An answer is a limit by its status, or by what its body speaks of. -/
theorem isRateLimit_iff {status : UInt16} {body : String} :
    isRateLimit status body = true ↔ status = 429 ∨ SpeaksOfLimit body := by
  have occurs : ∀ marker : String,
      marker.toList <:+: body.toList.map Char.toLower ↔
        ∃ before said after, body.toList = before ++ said ++ after ∧
          said.map Char.toLower = marker.toList := by
    intro marker
    constructor
    · rintro ⟨before', after', split⟩
      obtain ⟨front, after, body_eq, front_eq, -⟩ := List.map_eq_append_iff.1 split.symm
      obtain ⟨before, said, front_split, -, said_eq⟩ := List.map_eq_append_iff.1 front_eq
      exact ⟨before, said, after, by rw [body_eq, front_split], said_eq⟩
    · rintro ⟨before, said, after, body_eq, said_eq⟩
      refine ⟨before.map Char.toLower, after.map Char.toLower, ?_⟩
      rw [body_eq, ← said_eq, List.map_append, List.map_append]
  simp only [isRateLimit, Bool.or_eq_true, decide_eq_true_eq, List.any_eq_true, occursIn_iff,
    occurs, SpeaksOfLimit]

/-- An answer is a limit that asks for a delay. -/
def HttpResponse.Limits (r : HttpResponse) (span : Nat) : Prop :=
  ¬ (200 ≤ r.status ∧ r.status < 300) ∧
    (r.status = 429 ∨ SpeaksOfLimit (Utf8.decodeLenient r.body)) ∧
    r.retryAfter.head?.bind Delay.ofHeader? = some span

/-! ## Answers -/

theorem isSuccess_iff {status : UInt16} : isSuccess status = true ↔ 200 ≤ status ∧ status < 300 := by
  simp [isSuccess]

/-- A refusal has the status of the answer. -/
theorem status?_refusal (status : UInt16) (body : String) :
    (refusal status body).status? = some status := by
  unfold refusal
  split
  · rfl
  · split
    · rfl
    · split <;> rfl

/-- A refusal may be mended by another candidate if its status tells of a passing trouble, or
its body of a limit. -/
theorem isRetryable_refusal_iff {status : UInt16} {body : String} :
    (refusal status body).isRetryable = true ↔
      status = 408 ∨ status = 429 ∨ (500 ≤ status ∧ status < 600) ∨ SpeaksOfLimit body := by
  have transient : isTransient status = true ↔ (500 ≤ status ∧ status < 600) ∨ status = 408 := by
    simp [isTransient]
  unfold refusal
  split
  · rename_i limit
    have told := isRateLimit_iff.1 limit
    simp only [ExchangeFault.isRetryable, true_iff]
    tauto
  · rename_i noLimit
    have silent := mt isRateLimit_iff.2 noLimit
    split
    · rename_i passing
      have told := transient.1 passing
      simp only [ExchangeFault.isRetryable, true_iff]
      tauto
    · rename_i lasting
      have told := mt transient.2 lasting
      split <;> simp only [ExchangeFault.isRetryable, Bool.false_eq_true, false_iff] <;> tauto

/-- A refusal that may be mended quotes the beginning of the body, and no more. -/
theorem message_refusal {status : UInt16} {body : String}
    (retryable : (refusal status body).isRetryable = true) :
    (refusal status body).message = String.ofList (body.toList.take 500) := by
  unfold refusal at retryable ⊢
  split
  · rfl
  · split
    · rfl
    · split
      · simp_all [ExchangeFault.isRetryable]
      · rfl

variable {β : Type}

/-- What an answer makes of an exchange: a result if it is a success that can be read, else a
failure, and a cooldown if it is a limit that asks for one. -/
structure Judged (dec : Decoder β) (c : Cooldowns) (now : Nat) (provider : String)
    (r : HttpResponse) (x : Exchanged β) : Prop where
  ok_iff : ∀ b, x.result = .ok b ↔
    (200 ≤ r.status ∧ r.status < 300) ∧ decodeText dec (Utf8.decodeLenient r.body) = .ok b
  status_eq : ∀ fault, x.result = .error fault → (fault.error provider).status = some r.status
  retryable_iff : ∀ fault, x.result = .error fault →
    ((fault.error provider).retryable = true ↔ ¬ (200 ≤ r.status ∧ r.status < 300) ∧
      (r.status = 408 ∨ r.status = 429 ∨ (500 ≤ r.status ∧ r.status < 600) ∨
        SpeaksOfLimit (Utf8.decodeLenient r.body)))
  message_eq : ∀ fault, x.result = .error fault → (fault.error provider).retryable = true →
    (fault.error provider).message =
      String.ofList ((Utf8.decodeLenient r.body).toList.take 500)
  started : ∀ span, r.Limits span →
    x.cooldowns = c.hold r.receivedAt provider (min span longestCooldown)
  unstarted : (∀ span, ¬ r.Limits span) → x.cooldowns = c
  /-- What can be seen of it when the answer comes, which is not before the request is made. -/
  remaining_iff : now ≤ r.receivedAt → ∀ left,
    x.cooldowns.remaining? r.receivedAt provider = some left ↔
      0 < left ∧ ∃ span, r.Limits span ∧ left = min span longestCooldown

variable {dec : Decoder β} {c : Cooldowns} {now : Nat} {provider : String} {r : HttpResponse}

theorem receive_of_success (success : isSuccess r.status = true) :
    receive dec c provider r =
      ((decodeText dec (Utf8.decodeLenient r.body)).mapError
        (.unreadable r.status · (Utf8.decodeLenient r.body)), c) := by
  cases h : decodeText dec (Utf8.decodeLenient r.body) <;> simp [receive, success, h, Except.mapError]

theorem receive_of_refusal (refused : isSuccess r.status = false) :
    receive dec c provider r =
      (.error (refusal r.status (Utf8.decodeLenient r.body)),
        if isRateLimit r.status (Utf8.decodeLenient r.body) then
          (c.record r.receivedAt provider r.retryAfter).2
        else c) := by
  simp [receive, refused]

/-- A provider that was not left alone is so for exactly the delay it asks for. -/
theorem remaining?_hold (free : c.remaining? now provider = none) {time : Nat} (later : now ≤ time)
    (span left : Nat) :
    (c.hold time provider span).remaining? time provider = some left ↔ 0 < left ∧ left = span := by
  rw [Cooldowns.remaining?_eq_none_iff] at free
  rw [Cooldowns.remaining?_eq_some_iff, Cooldowns.get?_hold, if_pos rfl, Option.some.injEq]
  cases found : c.deadlines.get? provider with
  | none =>
    rw [Option.getD_none]
    omega
  | some deadline =>
    have ended := free deadline found
    rw [Option.getD_some]
    omega

theorem remaining?_of_later (free : c.remaining? now provider = none) {time : Nat}
    (later : now ≤ time) : c.remaining? time provider = none := by
  rw [Cooldowns.remaining?_eq_none_iff] at free ⊢
  exact fun deadline found => Nat.le_trans (free deadline found) later

/-- An answer makes a provider be left alone exactly if it is a limit that asks for a delay. -/
theorem cooldowns_receive (dec : Decoder β) (c : Cooldowns) (provider : String)
    (r : HttpResponse) :
    (∀ span, r.Limits span →
      (receive dec c provider r).2 = c.hold r.receivedAt provider (min span longestCooldown)) ∧
    ((∀ span, ¬ r.Limits span) → (receive dec c provider r).2 = c) := by
  cases success : isSuccess r.status with
  | true =>
    rw [receive_of_success success]
    exact ⟨fun span limits => absurd (isSuccess_iff.1 success) limits.1, fun _ => rfl⟩
  | false =>
    have refused : ¬ (200 ≤ r.status ∧ r.status < 300) := fun within =>
      Bool.false_ne_true (success.symm.trans (isSuccess_iff.2 within))
    rw [receive_of_refusal success]
    constructor
    · rintro span ⟨-, limit, announced⟩
      have shortened : Cooldowns.announced? r.retryAfter = some (min span longestCooldown) := by
        simp [Cooldowns.announced?, announced]
      rw [if_pos (isRateLimit_iff.2 limit), Cooldowns.record_of_announced shortened]
    · intro silent
      by_cases limit : isRateLimit r.status (Utf8.decodeLenient r.body) = true
      · have unannounced : Cooldowns.announced? r.retryAfter = none := by
          cases announced : r.retryAfter.head?.bind Delay.ofHeader? with
          | none => simp [Cooldowns.announced?, announced]
          | some span => exact absurd ⟨refused, isRateLimit_iff.1 limit, announced⟩ (silent span)
        rw [if_pos limit, Cooldowns.record_of_unannounced unannounced]
      · rw [if_neg limit]

/-- An exchange that ends with an answer is what the answer makes of it. -/
theorem judged_of_received {x : Exchanged β} (free : c.remaining? now provider = none)
    (result_eq : x.result = (receive dec c provider r).1)
    (cooldowns_eq : x.cooldowns = (receive dec c provider r).2) :
    Judged dec c now provider r x := by
  obtain ⟨started, unstarted⟩ := cooldowns_receive dec c provider r
  rw [← cooldowns_eq] at started unstarted
  have remaining : now ≤ r.receivedAt → ∀ left,
      x.cooldowns.remaining? r.receivedAt provider = some left ↔
        0 < left ∧ ∃ span, r.Limits span ∧ left = min span longestCooldown := by
    intro later left
    by_cases limits : ∃ span, r.Limits span
    · obtain ⟨span, limits⟩ := limits
      have one : ∀ span', r.Limits span' → span' = span := fun span' limits' =>
        Option.some.inj (limits'.2.2.symm.trans limits.2.2)
      rw [started span limits, remaining?_hold free later]
      refine and_congr_right fun _ => ⟨fun same => ⟨span, limits, same⟩, ?_⟩
      rintro ⟨span', limits', same⟩
      rwa [one span' limits'] at same
    · have silent : ∀ span, ¬ r.Limits span := fun span limit => limits ⟨span, limit⟩
      rw [unstarted silent, remaining?_of_later free later]
      simp [silent]
  cases success : isSuccess r.status with
  | true =>
    have within := isSuccess_iff.1 success
    rw [receive_of_success success] at result_eq
    cases decoded : decodeText dec (Utf8.decodeLenient r.body) with
    | ok b =>
      rw [decoded] at result_eq
      refine ⟨?_, ?_, ?_, ?_, started, unstarted, remaining⟩ <;>
        simp [result_eq, Except.mapError, within, decoded]
    | error e =>
      rw [decoded] at result_eq
      refine ⟨?_, ?_, ?_, ?_, started, unstarted, remaining⟩ <;>
        simp [result_eq, Except.mapError, within, decoded, ExchangeFault.error,
          ExchangeFault.status?, ExchangeFault.isRetryable]
  | false =>
    have refused : ¬ (200 ≤ r.status ∧ r.status < 300) := fun within =>
      Bool.false_ne_true (success.symm.trans (isSuccess_iff.2 within))
    rw [receive_of_refusal success] at result_eq
    refine ⟨?_, ?_, ?_, ?_, started, unstarted, remaining⟩
    · simp [result_eq, refused]
    · rintro fault same
      obtain rfl := Except.error.inj (result_eq.symm.trans same)
      exact status?_refusal _ _
    · rintro fault same
      obtain rfl := Except.error.inj (result_eq.symm.trans same)
      rw [ExchangeFault.error, isRetryable_refusal_iff]
      exact ⟨fun told => ⟨refused, told⟩, And.right⟩
    · rintro fault same retryable
      obtain rfl := Except.error.inj (result_eq.symm.trans same)
      exact message_refusal retryable

/-- **What comes of a request.**  To a provider that is not left alone, a request is sent once,
and once more for each of the first sendings that are lost, as far as the repeats go; so nothing
is sent again after an answer, and nothing after any other failure.  If the last sending fails,
the failure has no status, and another candidate may do better unless the answer broke off.  If
it is answered, status and body decide.  A request without an address to send to is never sent,
and fails for good. -/
theorem outcome_classified (dec : Decoder β) (repeats : Nat) (network : Nat → Delivery)
    (c : Cooldowns) (now : Nat) (provider : String) (request : HttpRequest)
    (free : c.remaining? now provider = none) :
    let x := exchange dec repeats network c now provider request
    (∀ address, Address.ofText? request.address = some address → address.isUsable = true →
      (∀ k, (∀ i < k, (network i).IsLost) → (k < repeats → ¬ (network k).IsLost) →
        x.sendings = 1 + min k repeats) ∧
      (∀ i, i + 1 < x.sendings → (network i).IsLost) ∧
      (∀ fault, network (x.sendings - 1) = .failed fault →
        x.cooldowns = c ∧ ∃ e, x.result = .error e ∧ (e.error provider).status = none ∧
          ((e.error provider).retryable = true ↔ fault ≠ .truncated)) ∧
      ∀ r, network (x.sendings - 1) = .answered r → Judged dec c now provider r x) ∧
    ((∀ address, Address.ofText? request.address = some address → address.isUsable = false) →
      x.sendings = 0 ∧ x.cooldowns = c ∧
        ∃ e, x.result = .error e ∧ (e.error provider).status = none ∧
          (e.error provider).retryable = false) := by
  intro x
  constructor
  · intro address parsed usable
    obtain ⟨n, sent, told⟩ := sent_send network repeats 0
    cases last : network (n - 1) with
    | failed fault =>
      rw [last] at told
      have ended : x = ⟨.error (.transport fault address.text), c, n, arrivals network n⟩ :=
        exchange_of_failed dec repeats network free parsed usable told
      rw [ended]
      refine ⟨fun k => sent.eq_of_lost, fun i => sent.lost i (Nat.zero_le i), ?_, ?_⟩
      · intro fault' same
        obtain rfl := Delivery.failed.inj (last.symm.trans same)
        exact ⟨rfl, _, rfl, rfl, by simp [ExchangeFault.error, ExchangeFault.isRetryable]⟩
      · intro r same
        cases last.symm.trans same
    | answered r =>
      rw [last] at told
      have ended : x = ⟨(receive dec c provider r).1, (receive dec c provider r).2, n,
          arrivals network n⟩ :=
        exchange_of_answered dec repeats network free parsed usable told
      rw [ended]
      refine ⟨fun k => sent.eq_of_lost, fun i => sent.lost i (Nat.zero_le i), ?_, ?_⟩
      · intro fault same
        cases last.symm.trans same
      · intro r' same
        obtain rfl := Delivery.answered.inj (last.symm.trans same)
        exact judged_of_received free rfl rfl
  · intro unusable
    have ended : x = _ := exchange_of_unusable dec repeats network free unusable
    rw [ended]
    exact ⟨rfl, rfl, _, rfl, rfl, rfl⟩

/-- A refusal that speaks of a limit, and asks for a delay of half a minute. -/
def wordyRefusal : HttpResponse where
  status := 400
  retryAfter := ["30"]
  body := "RATE_Limit!".toUTF8.data.toList
  receivedAt := 9

/-- A network that loses a request once, and then refuses it. -/
def flakyNetwork : Nat → Delivery
  | 0 => .failed .timedOut
  | _ => .answered wordyRefusal

/-- A request over it that may be sent three times. -/
def flakyExchange : Exchanged String :=
  exchange Decoder.string 2 flakyNetwork {} 7 "p" ⟨"http://h/v1", [], "{}"⟩

theorem outcome_classified_flaky :
    ({} : Cooldowns).remaining? 7 "p" = none ∧ flakyExchange.sendings = 2 ∧
      (∃ e, flakyExchange.result = .error e ∧ (e.error "p").retryable = true ∧
        (e.error "p").status = some 400) ∧
      flakyExchange.cooldowns.remaining? 9 "p" = some (30 * Delay.second) := by
  obtain ⟨classified, -⟩ := outcome_classified Decoder.string 2 flakyNetwork {} 7 "p"
    ⟨"http://h/v1", [], "{}"⟩ rfl
  have reachable : (Address.ofText? "http://h/v1").map (·.isUsable) = some true := by
    decide +kernel
  obtain ⟨address, parsed, usable⟩ := Option.map_eq_some_iff.1 reachable
  obtain ⟨count, -, -, judged⟩ := classified address parsed usable
  have sendings : flakyExchange.sendings = 2 := by
    refine count 1 (fun i first => ?_) fun _ => ?_
    · obtain rfl : i = 0 := by omega
      exact .inr rfl
    · rintro (lost | lost) <;> cases lost
  have answered : flakyNetwork (flakyExchange.sendings - 1) = .answered wordyRefusal := by
    rw [sendings]
    rfl
  have told := judged wordyRefusal answered
  have limit : wordyRefusal.status = 429 ∨ SpeaksOfLimit (Utf8.decodeLenient wordyRefusal.body) :=
    isRateLimit_iff.1 (by decide +kernel)
  have speaks := limit.resolve_left (by decide)
  have limits : wordyRefusal.Limits (30 * Delay.second) := ⟨by decide, limit, by decide +kernel⟩
  have half : 30 * Delay.second = min (30 * Delay.second) longestCooldown := by decide +kernel
  have seen := (told.remaining_iff (by decide) (30 * Delay.second)).2 ⟨by decide, _, limits, half⟩
  cases result : flakyExchange.result with
  | ok s => exact absurd ((told.ok_iff s).1 result).1 (by decide)
  | error e =>
    have retryable := (told.retryable_iff e result).2 ⟨by decide, .inr (.inr (.inr speaks))⟩
    exact ⟨rfl, sendings, ⟨e, rfl, retryable, told.status_eq e result⟩, seen⟩

end ChatGateway

import ChatGateway.Proofs.Http.Bodies
import ChatGateway.Proofs.Session.Traffic

/-!
# Completion caps and what is held for them

A request is sent with a cap on its completion, and tokens are held for it before.  Both come
from the same option of the caller.  Where the caller caps the completion, the tokens held are
at least the cap; the characters of the messages come on top.

Where the caller does not, each side has a default of its own.  The completions dialect sends no
cap.  The messages dialect sends one of 1024, while 256 are held for the completion, so the
difference has to come from the messages.

## Main definitions

* `Dialect.cap?` — the cap that is sent.
* `Waiting.Held` — what a call holds is what its request is estimated at.
* `held_traffic` — this is so throughout a run, whether or not the store works.
* `cap_within_estimate_iff` — when what is held covers the cap.
-/

namespace ChatGateway

/-! ## What is sent -/

/-- The cap that is sent with a request, if one is. -/
def Dialect.cap? : Dialect → ChatRequest → Option UInt32
  | .completions, r => r.maxTokens
  | .messages, r => some (r.maxTokens.getD MessagesDialect.defaultCap)

theorem at?_max_tokens_body (d : Dialect) (r : ChatRequest) :
    (d.body r).at? "max_tokens" = (d.cap? r).map fun cap => .ofNat cap.toNat := by
  cases d with
  | completions => exact ChatRequest.at?_json "max_tokens"
  | messages => exact MessagesDialect.at?_body "max_tokens"

theorem Json.ofNat_inj {m n : Nat} : Json.ofNat m = .ofNat n ↔ m = n := by
  refine ⟨fun same => ?_, congrArg Json.ofNat⟩
  have digits : decimalDigits m = decimalDigits n := by
    simpa [Json.ofNat, Numeral.ofNat] using same
  rw [← Nat.ofDigitChars_ten_toDigits (n := m), ← Nat.ofDigitChars_ten_toDigits (n := n)]
  exact congrArg (Nat.ofDigitChars 10 · 0) digits

theorem cap?_eq_some_iff {d : Dialect} {r : ChatRequest} {cap : UInt32} :
    (d.body r).at? "max_tokens" = some (.ofNat cap.toNat) ↔ d.cap? r = some cap := by
  rw [at?_max_tokens_body, Option.map_eq_some_iff]
  simp only [Json.ofNat_inj, UInt32.toNat_inj, exists_eq_right]

/-! ## What is held -/

theorem contentLength_eq_sum (r : ChatRequest) :
    r.contentLength = (r.messages.map (·.content.length)).sum := by
  rw [ChatRequest.contentLength, List.sum, List.foldr_map]

/-- A cap is covered exactly if the default is, or the messages make up for the rest. -/
theorem le_estimatedTokens_iff (r : ChatRequest) (cap : UInt32) :
    cap.toNat ≤ r.estimatedTokens.toNat ↔
      cap.toNat ≤ (r.contentLength + 3) / 4 + r.expectedCompletion := by
  have small := toNat_le_word32Max cap
  simp only [ChatRequest.estimatedTokens, toNat_clamp64, word32Max, word64Max] at small ⊢
  omega

/-- A call holds, for its request, the tokens that the request is estimated at. -/
def Waiting.Held (w : Waiting) : Prop :=
  w.reservation.tokens = w.dispatch.request.estimatedTokens

/-- If the call waits, it holds what its request is estimated at. -/
def Progress.Held (p : Progress) : Prop :=
  ∀ w, p = .waiting w → w.Held

/-- The store gives out what was asked of it, where it gives out anything. -/
theorem tokens_of_reserve {s s' : Session} {config : Config} {key : String} {tokens cost : UInt64}
    {r : Reservation} (admitted : s.reserve config key tokens cost = (.ok (.allow r), s')) :
    r.tokens = tokens := by
  simp only [Session.reserve] at admitted
  split at admitted
  · cases admitted
  · simp only [Prod.mk.injEq, Except.ok.injEq] at admitted
    exact (QuotaStore.of_reserve_allow (Prod.ext admitted.1 rfl)).2.1

section Run

variable {α : Type} (g : Gateway α)

theorem held_walk (call : Call) (trail : Trail) (s : Session) (candidates : List String) :
    (g.walk call trail s candidates).1.Held := by
  induction candidates generalizing trail s with
  | nil =>
    rintro w ⟨⟩
  | cons candidate rest ih =>
    simp only [Gateway.walk]
    split
    · exact ih _ _
    · split
      · rintro w ⟨⟩
      · exact ih _ _
      · rename_i reservation after admitted
        rintro w ⟨⟩
        exact tokens_of_reserve admitted

theorem held_chat (s : Session) (key model : String) (messages : List Message)
    (temperature : Option Binary) (maxTokens : Option UInt32) :
    (g.chat s key model messages temperature maxTokens).1.Held := by
  simp only [Gateway.chat]
  split
  · rintro w ⟨⟩
  · split
    · rintro w ⟨⟩
    · exact held_walk g _ _ _ _

theorem held_answer (w : Waiting) (reply : Except ProviderError ChatResponse) (latencyMs : UInt64)
    (s : Session) : (g.answer w reply latencyMs s).1.Held := by
  simp only [Gateway.answer]
  split
  · rintro w ⟨⟩
  · split
    · exact held_walk g _ _ _ _
    · rintro w ⟨⟩

variable {g} {t : Traffic}

/-- All requests of a run hold what they are estimated at. -/
def Traffic.Held (t : Traffic) : Prop :=
  ∀ c ∈ t.requests, c.waiting.Held

theorem Traffic.Held.follow (h : t.Held) {next : Progress × Session} (held : next.1.Held)
    (acts : List Act) (ended : Except GatewayError ChatResponse → Act) :
    (t.follow acts ended next).Held := by
  intro c mem
  rcases List.mem_append.1 mem with mem | mem
  · exact h c mem
  · obtain ⟨progress, after⟩ := next
    cases progress with
    | done outcome => cases mem
    | waiting w =>
      obtain rfl := List.mem_singleton.1 mem
      exact held w rfl

/-- What becomes of a request changes nothing about what it holds. -/
theorem Traffic.Held.set (h : t.Held) {n : Nat} {w : Waiting} {since : Instant} {fate : Fate}
    (here : t.requests[n]? = some ⟨w, since, fate⟩) (fate' : Fate) :
    ∀ c ∈ t.requests.set n ⟨w, since, fate'⟩, c.waiting.Held := by
  intro c mem
  rcases List.mem_or_eq_of_mem_set mem with mem | rfl
  · exact h c mem
  · exact h ⟨w, since, fate⟩ (List.mem_of_getElem? here)

theorem Traffic.Held.advance (h : t.Held) (step : TrafficStep) : (g.advance t step).Held := by
  cases step with
  | chat key model messages temperature maxTokens => exact h.follow (held_chat g _ _ _ _ _ _) _ _
  | clock now => exact h
  | admin step => exact h
  | drop n =>
    simp only [Gateway.advance]
    split
    · rename_i w since here
      exact h.set here _
    · exact h
  | answer n reply latencyMs =>
    simp only [Gateway.advance]
    split
    · rename_i w since here
      have told : Traffic.Held { t with
          requests := t.requests.set n ⟨w, since, g.fate w reply latencyMs t.session⟩ } :=
        h.set here _
      exact told.follow (held_answer g _ _ _ _) _ _
    · exact h

/-- Throughout a run, requests hold what they are estimated at. -/
theorem held_traffic (g : Gateway α) (s : Session) (steps : List TrafficStep) :
    (g.traffic s steps).Held := by
  induction steps using List.reverseRecOn with
  | nil =>
    intro c mem
    cases mem
  | append_singleton steps step ih =>
    rw [Gateway.traffic_concat]
    exact ih.advance step

end Run

/-! ## Caps against what is held -/

/-- What a provider answered to a request took no more tokens for completions than this. -/
def Request.CompletesWithin (c : Request) (bound : Nat) : Prop :=
  ∀ response event usage, c.fate = .served response event → response.usage = some usage →
    usage.completionTokens.toNat ≤ bound

/-- **What is held covers the cap that is sent**, if the caller caps the completion or the
messages have more than 3068 characters, and not otherwise.  A cap that the caller did not ask
for is sent in the messages dialect only, and is 1024.  What is held is the estimate, for every
request of every run; so where it covers the cap, a provider that keeps to the cap takes no more
tokens for the completion than are held. -/
theorem cap_within_estimate_iff (r : ChatRequest) (d : Dialect) (cap : UInt32)
    (sent : (d.body r).at? "max_tokens" = some (.ofNat cap.toNat)) :
    (r.maxTokens = some cap ∨ r.maxTokens = none ∧ d = .messages ∧ cap = 1024) ∧
    (cap.toNat ≤ r.estimatedTokens.toNat ↔
      r.maxTokens = some cap ∨ 3068 < (r.messages.map (·.content.length)).sum) ∧
    ∀ {α : Type} (g : Gateway α) (s : Session) (steps : List TrafficStep),
      ∀ c ∈ (g.traffic s steps).requests, c.waiting.dispatch.request = r →
        c.waiting.reservation.tokens = r.estimatedTokens ∧
        (r.maxTokens = some cap ∨ 3068 < (r.messages.map (·.content.length)).sum →
          c.CompletesWithin cap.toNat →
            c.CompletesWithin c.waiting.reservation.tokens.toNat) := by
  have origin : r.maxTokens = some cap ∨ r.maxTokens = none ∧ d = .messages ∧ cap = 1024 := by
    have cap_eq := cap?_eq_some_iff.1 sent
    cases d with
    | completions => exact .inl cap_eq
    | messages =>
      simp only [Dialect.cap?, Option.some.injEq] at cap_eq
      cases set : r.maxTokens with
      | none =>
        rw [set] at cap_eq
        exact .inr ⟨rfl, rfl, cap_eq.symm⟩
      | some n =>
        rw [set] at cap_eq
        exact .inl (congrArg some cap_eq)
  have covered : cap.toNat ≤ r.estimatedTokens.toNat ↔
      r.maxTokens = some cap ∨ 3068 < (r.messages.map (·.content.length)).sum := by
    rw [le_estimatedTokens_iff, ← contentLength_eq_sum]
    rcases origin with set | ⟨unset, -, rfl⟩
    · simp only [ChatRequest.expectedCompletion, set, true_or, iff_true]
      omega
    · have default : (1024 : UInt32).toNat = 1024 := rfl
      simp only [ChatRequest.expectedCompletion, unset, defaultCompletion, default, reduceCtorEq,
        false_or]
      omega
  refine ⟨origin, covered, ?_⟩
  rintro α g s steps c mem rfl
  have held := held_traffic g s steps c mem
  refine ⟨held, fun covers within => ?_⟩
  rw [held]
  intro response event usage served reported
  exact Nat.le_trans (within response event usage served reported) (covered.2 covers)

/-- A gateway whose one provider speaks the messages dialect. -/
def haikuGateway : Gateway Unit where
  config := { apiKeys := .ofList [("anthropic", "secret")] }
  registry := ⟨[⟨"anthropic", fun model => model = "claude-3-haiku", ()⟩]⟩

/-- A session of it that is ready. -/
def haikuSession : Session := { phase := .ready haikuGateway.config }

/-- The request that it makes of these messages. -/
def haikuRequest (messages : List Message) : ChatRequest where
  model := "claude-3-haiku"
  messages := messages

/-- A call with these messages, without a cap. -/
def haikuCall (messages : List Message) : TrafficStep :=
  .chat "k" "claude-3-haiku" messages none none

/-- Just enough is said for the cap to be covered. -/
def longConversation : List Message :=
  List.replicate 33 ⟨.user, String.ofList (List.replicate 93 'a')⟩

theorem cap_within_estimate_iff_long :
    (Dialect.messages.body (haikuRequest longConversation)).at? "max_tokens" =
        some (.ofNat (1024 : UInt32).toNat) ∧
      (1024 : UInt32).toNat ≤ (haikuRequest longConversation).estimatedTokens.toNat ∧
      (haikuGateway.traffic haikuSession [haikuCall longConversation]).requests.length = 1 ∧
      ∀ c ∈ (haikuGateway.traffic haikuSession [haikuCall longConversation]).requests,
        c.waiting.dispatch.request = haikuRequest longConversation ∧
          c.waiting.reservation.tokens = 1024 := by
  have sent : (Dialect.messages.body (haikuRequest longConversation)).at? "max_tokens" =
      some (.ofNat (1024 : UInt32).toNat) := rfl
  obtain ⟨-, covered, runs⟩ :=
    cap_within_estimate_iff (haikuRequest longConversation) .messages 1024 sent
  have asked : ∀ c ∈ (haikuGateway.traffic haikuSession [haikuCall longConversation]).requests,
      c.waiting.dispatch.request = haikuRequest longConversation := by decide +kernel
  have estimated : (haikuRequest longConversation).estimatedTokens = 1024 := by decide +kernel
  refine ⟨sent, covered.2 (.inr (by decide +kernel)), by decide +kernel, fun c mem => ?_⟩
  rw [← estimated]
  exact ⟨asked c mem, (runs _ _ _ c mem (asked c mem)).1⟩

/-- A short question is sent with a cap of four times what is held for it. -/
theorem short_question_uncovered :
    (Dialect.messages.body (haikuRequest [⟨.user, "Hi"⟩])).at? "max_tokens" =
        some (.ofNat (1024 : UInt32).toNat) ∧
      (haikuGateway.traffic haikuSession [haikuCall [⟨.user, "Hi"⟩]]).requests.map
          (fun c => (c.waiting.dispatch.request, c.waiting.reservation.tokens)) =
        [(haikuRequest [⟨.user, "Hi"⟩], 257)] ∧
      ¬ (1024 : UInt32).toNat ≤ (257 : UInt64).toNat :=
  ⟨rfl, by decide +kernel, by decide⟩

end ChatGateway

import ChatGateway.Proofs.Session.StoreFailures
import Mathlib.Data.List.Induction

/-!
# Revocations over whole runs

Policies may come before a gateway is ready and while it serves calls; they outlast a reload.
Whatever else happens, only the last policy that was accepted for a key counts: it says whether
the key is revoked, and for what reason.

## Main definitions

* `Gateway.accepted?`, `Gateway.acceptedUpdates`, `Gateway.lastUpdate?` — the policies that
  were not refused, and the last one of a key.
* `PolicyUpdate.mark`, `get?_station` — what is known of a key after any operations.
* `Policed`, `policed_by_last_update` — what a gateway makes of a key.
-/

namespace ChatGateway

/-! ## Accepted policies -/

/-- What an update makes of its own key: the reason, if it revokes. -/
def PolicyUpdate.mark (u : PolicyUpdate) : Option (Option String) :=
  match u.action with
  | .revoke => some u.reason
  | .restore => none

namespace Gateway

variable {α : Type} (g : Gateway α)

/-- The policy that an operation carries out, unless it is refused. -/
def accepted? (x : Station) (op : Operation) : Option PolicyUpdate :=
  match op, (g.operate x op).1 with
  | .applyPolicy u, .done (.ok _) => some u
  | _, _ => none

/-- The policies that were accepted, in order. -/
def acceptedUpdates (x : Station) : List Operation → List PolicyUpdate
  | [] => []
  | op :: ops => (g.accepted? x op).toList ++ acceptedUpdates (g.operate x op).2 ops

/-- The last policy that was accepted for a key. -/
def lastUpdate? (x : Station) (ops : List Operation) (key : String) : Option PolicyUpdate :=
  ((g.acceptedUpdates x ops).filter (·.key = key)).getLast?

theorem acceptedUpdates_concat (x : Station) (ops : List Operation) (op : Operation) :
    g.acceptedUpdates x (ops ++ [op]) =
      g.acceptedUpdates x ops ++ (g.accepted? (g.station x ops) op).toList := by
  induction ops generalizing x with
  | nil => simp [acceptedUpdates]
  | cons first ops ih =>
    rw [List.cons_append, acceptedUpdates, ih, acceptedUpdates, List.append_assoc]
    rfl

theorem accepted?_eq_some_iff {x : Station} {op : Operation} {u : PolicyUpdate} :
    g.accepted? x op = some u ↔ op = .applyPolicy u ∧ x.session.phase ≠ .closed := by
  cases op with
  | applyPolicy v =>
    by_cases closed : x.session.phase = .closed
    · simp [accepted?, operate, Session.applyPolicy, closed]
    · simp [accepted?, operate, Session.applyPolicy, closed]
  | _ => simp [accepted?]

/-- A policy that is accepted for a key is the last one for it; any other leaves the last one
as it was. -/
theorem lastUpdate?_concat (x : Station) (ops : List Operation) (op : Operation) (key : String) :
    g.lastUpdate? x (ops ++ [op]) key =
      match g.accepted? (g.station x ops) op with
      | some u => if u.key = key then some u else g.lastUpdate? x ops key
      | none => g.lastUpdate? x ops key := by
  unfold lastUpdate?
  rw [acceptedUpdates_concat, List.filter_append]
  cases g.accepted? (g.station x ops) op with
  | none => simp
  | some u =>
    by_cases own : u.key = key
    · simp [own]
    · simp [own]

end Gateway

/-! ## What is known of a key -/

section Marks

variable {α : Type} (g : Gateway α)

/-- Only a policy that is accepted changes the revocations. -/
theorem revocations_operate (x : Station) (op : Operation) :
    (g.operate x op).2.session.revocations =
      match g.accepted? x op with
      | some u => x.session.revocations.apply u
      | none => x.session.revocations := by
  have shift := shift_operate g x op
  change (g.operate x op).2.session.standing.revocations = _
  generalize (g.operate x op).2.session.standing = z at shift
  have refused (ignored : ∀ u, op = .applyPolicy u → x.session.phase = .closed) :
      g.accepted? x op = none := by
    refine Option.eq_none_iff_forall_ne_some.2 fun u accepted => ?_
    obtain ⟨applies, unclosed⟩ := g.accepted?_eq_some_iff.1 accepted
    exact unclosed (ignored u applies)
  cases shift with
  | policy u unclosed =>
    have accepted : g.accepted? x (.applyPolicy u) = some u :=
      g.accepted?_eq_some_iff.2 ⟨rfl, unclosed⟩
    rw [accepted]
    rfl
  | rest _ _ ignored =>
    rw [refused ignored]
    rfl
  | _ =>
    rw [refused (by simp)]
    rfl

/-- What is known of a key is what the last policy made of it that was accepted for it. -/
theorem get?_station {start : Station} (new : start.New) (ops : List Operation) (key : String) :
    (g.station start ops).session.revocations.get? key =
      (g.lastUpdate? start ops key).bind PolicyUpdate.mark := by
  induction ops using List.reverseRecOn with
  | nil => simp [new.revocations_eq, Gateway.lastUpdate?, Gateway.acceptedUpdates]
  | append_singleton ops op ih =>
    rw [Gateway.station_concat, revocations_operate, Gateway.lastUpdate?_concat]
    cases g.accepted? (g.station start ops) op with
    | none => exact ih
    | some u =>
      rw [Revocations.get?_apply]
      by_cases own : key = u.key
      · simp only [own, if_true]
        rfl
      · simp only [if_neg own, if_neg (Ne.symm own)]
        exact ih

end Marks

/-! ## Calls for a key -/

theorem PolicyUpdate.mark_eq_some_iff {u : PolicyUpdate} {reason : Option String} :
    u.mark = some reason ↔ u.action = .revoke ∧ u.reason = reason := by
  unfold mark
  cases u.action with
  | revoke => simp
  | restore => simp

section Calls

variable {α : Type} (g : Gateway α) {x : Station} {key : String}

/-- A call for a revoked key is refused, and nothing has happened. -/
theorem operate_chat_of_revoked {config : Config} {reason : Option String}
    (ready : x.session.phase = .ready config)
    (revoked : x.session.revocations.get? key = some reason) (model : String)
    (messages : List Message) (temperature : Option Binary) (maxTokens : Option UInt32) :
    g.operate x (.chat key model messages temperature maxTokens) =
      (.call (.done (.error (.keyRevoked key reason))), x) := by
  simp [Gateway.operate, Gateway.chat, Session.config, ready, revoked]

/-- A ready session refuses a call as one for a revoked key only if the key is revoked, unless the
store fails with this error. -/
theorem error?_chat_iff {config : Config} (ready : x.session.phase = .ready config)
    (model : String) (messages : List Message) (temperature : Option Binary)
    (maxTokens : Option UInt32) (key' : String) (reason : Option String) :
    (g.operate x (.chat key model messages temperature maxTokens)).1.error? =
        some (.keyRevoked key' reason) ↔
      (key' = key ∧ x.session.revocations.get? key = some reason) ∨
        g.StoreFails x (.chat key model messages temperature maxTokens)
          (.keyRevoked key' reason) := by
  constructor
  · intro failed
    rcases error?_chat g failed with refused | ⟨_, _, out⟩ | fails
    · simp only [Session.open?, Session.config, ready] at refused
      cases marked : x.session.revocations.get? key with
      | none => simp [marked] at refused
      | some given =>
        simp only [marked, Except.error.injEq, GatewayError.keyRevoked.injEq] at refused
        obtain ⟨rfl, rfl⟩ := refused
        exact .inl ⟨rfl, rfl⟩
    · cases out
    · exact .inr fails
  · rintro (⟨rfl, revoked⟩ | fails)
    · rw [operate_chat_of_revoked g ready revoked]
      rfl
    · exact error?_of_storeFails g fails

end Calls

/-- A gateway that serves calls from some configuration, and is otherwise the same. -/
def Station.serving (x : Station) (config : Config) : Station :=
  { x with session := { x.session with phase := .ready config } }

/-- What a gateway makes of a key, given the last policy that was accepted for it. -/
structure Policed {α : Type} (g : Gateway α) (x : Station) (key : String)
    (last : Option PolicyUpdate) : Prop where
  isRevoked_iff : x.session.isRevoked key = true ↔ ∃ u, last = some u ∧ u.action = .revoke
  /-- Calls for the key are refused while it is revoked, and with the reason given last.  Nobody
  else says that a key is revoked, if the store fails with errors of its own. -/
  refused_iff : ∀ config model messages temperature maxTokens key' reason,
    x.session.phase = .ready config →
    g.FailsApart x (.chat key model messages temperature maxTokens) →
      ((g.operate x (.chat key model messages temperature maxTokens)).1.error? =
          some (.keyRevoked key' reason) ↔
        key' = key ∧ x.session.isRevoked key = true ∧ last.map (·.reason) = some reason)
  /-- Whatever the store fails with, any other call that is told so has asked the store and is told
  what the store said. -/
  told_iff : ∀ config model messages temperature maxTokens key' reason,
    x.session.phase = .ready config →
      ((g.operate x (.chat key model messages temperature maxTokens)).1.error? =
          some (.keyRevoked key' reason) ↔
        (key' = key ∧ x.session.isRevoked key = true ∧ last.map (·.reason) = some reason) ∨
          g.StoreFails x (.chat key model messages temperature maxTokens)
            (.keyRevoked key' reason))
  /-- Such a call changes nothing: not the counters of any key, nor the events, nor what was
  asked of providers. -/
  untouched : ∀ config model messages temperature maxTokens, x.session.phase = .ready config →
    x.session.isRevoked key = true →
      (g.operate x (.chat key model messages temperature maxTokens)).2 = x
  /-- It looks at no candidate: whatever the model, the configuration and the providers are, it
  is refused in the same way. -/
  unresolved : ∀ (g' : Gateway α) (served : Config) model messages temperature maxTokens u,
    last = some u → u.action = .revoke →
      (g'.operate (x.serving served) (.chat key model messages temperature maxTokens)).1 =
        .call (.done (.error (.keyRevoked key u.reason)))
  /-- Only a policy for the key itself changes what is known of it, and to restore it once more
  does not. -/
  kept : ∀ op, (∀ u, g.accepted? x op = some u → u.key = key →
      u.action = .restore ∧ x.session.isRevoked key = false) →
    (g.operate x op).2.session.revocations.get? key = x.session.revocations.get? key ∧
      (g.operate x op).2.session.isRevoked key = x.session.isRevoked key

/-- What is known of a key stays as it was, unless a policy is accepted that says otherwise. -/
theorem get?_operate {α : Type} (g : Gateway α) {x : Station} {op : Operation} {key : String}
    (same : ∀ u, g.accepted? x op = some u → u.key = key →
      u.action = .restore ∧ x.session.revocations.get? key = none) :
    (g.operate x op).2.session.revocations.get? key = x.session.revocations.get? key := by
  rw [revocations_operate]
  cases accepted : g.accepted? x op with
  | none => rfl
  | some u =>
    simp only [Revocations.get?_apply]
    by_cases own : key = u.key
    · obtain ⟨restores, unrevoked⟩ := same u accepted own.symm
      rw [if_pos own, restores, unrevoked]
    · rw [if_neg own]

/-- **Revocation.**  After any operations, a key is revoked exactly if the last policy that was
accepted for it revokes it, and calls for it are treated accordingly. -/
theorem policed_by_last_update {α : Type} (g : Gateway α) {start : Station} (new : start.New)
    (ops : List Operation) (key : String) :
    Policed g (g.station start ops) key (g.lastUpdate? start ops key) := by
  have known := get?_station g new ops key
  generalize g.station start ops = x at known ⊢
  generalize g.lastUpdate? start ops key = last at known ⊢
  have marked (reason : Option String) : x.session.revocations.get? key = some reason ↔
      ∃ u, last = some u ∧ u.action = .revoke ∧ u.reason = reason := by
    simp only [known, Option.bind_eq_some_iff, PolicyUpdate.mark_eq_some_iff]
  have isRevoked_iff : x.session.isRevoked key = true ↔
      ∃ reason, x.session.revocations.get? key = some reason := Option.isSome_iff_exists
  have revoked_iff (reason : Option String) : x.session.revocations.get? key = some reason ↔
      x.session.isRevoked key = true ∧ last.map (·.reason) = some reason := by
    rw [isRevoked_iff]
    constructor
    · intro revoked
      obtain ⟨u, rfl, -, rfl⟩ := (marked reason).1 revoked
      exact ⟨⟨_, revoked⟩, rfl⟩
    · rintro ⟨⟨given, revoked⟩, told⟩
      obtain ⟨u, rfl, -, rfl⟩ := (marked given).1 revoked
      obtain rfl : u.reason = reason := by simpa using told
      exact revoked
  constructor
  case isRevoked_iff =>
    rw [isRevoked_iff]
    simp [marked]
  case refused_iff =>
    intro config model messages temperature maxTokens key' reason ready apart
    rw [error?_chat_iff g ready, or_iff_left (apart.not_storeFails rfl), revoked_iff]
  case told_iff =>
    intro config model messages temperature maxTokens key' reason ready
    rw [error?_chat_iff g ready, revoked_iff]
  case untouched =>
    intro config model messages temperature maxTokens ready revoked
    obtain ⟨reason, revoked⟩ := isRevoked_iff.1 revoked
    rw [operate_chat_of_revoked g ready revoked]
  case unresolved =>
    intro g' served model messages temperature maxTokens u is_last revokes
    have ready : (x.serving served).session.phase = .ready served := rfl
    have revoked : (x.serving served).session.revocations.get? key = some u.reason :=
      (marked u.reason).2 ⟨u, is_last, revokes, rfl⟩
    rw [operate_chat_of_revoked g' ready revoked]
  case kept =>
    intro op same
    have kept : (g.operate x op).2.session.revocations.get? key =
        x.session.revocations.get? key := by
      refine get?_operate g fun u accepted own => ?_
      obtain ⟨restores, unrevoked⟩ := same u accepted own
      exact ⟨restores, by simpa [Session.isRevoked, Dict.contains] using unrevoked⟩
    exact ⟨kept, congrArg Option.isSome kept⟩

/-- A key is revoked before the gateway is ready, and once more, for another reason, when it
is; another key is restored, and a configuration follows that serves other candidates. -/
def policyOperations : List Operation :=
  [.applyPolicy ⟨"k", .revoke, some "lost"⟩, .beginInit, .finishInit none,
    .applyPolicy ⟨"k", .revoke, some "sold"⟩, .applyPolicy ⟨"j", .restore, none⟩,
    .reload { narrowGateway.config with modelAliases := .empty }]

/-- The gateway after that. -/
def policedStation : Station := narrowGateway.station {} policyOperations

theorem policed_by_last_update_twice :
    Station.New {} ∧
      Policed narrowGateway policedStation "k" (some ⟨"k", .revoke, some "sold"⟩) ∧
      policedStation.session.isRevoked "k" = true ∧
      policedStation.session.isRevoked "j" = false ∧
      (narrowGateway.operate policedStation (.chat "k" "any" [] none none)).1.error? =
        some (.keyRevoked "k" (some "sold")) := by
  have new : Station.New {} := ⟨rfl, rfl, rfl, rfl⟩
  have last : narrowGateway.lastUpdate? {} policyOperations "k" =
      some ⟨"k", .revoke, some "sold"⟩ := by decide +kernel
  have policed : Policed narrowGateway policedStation "k"
      (narrowGateway.lastUpdate? {} policyOperations "k") :=
    policed_by_last_update narrowGateway new policyOperations "k"
  rw [last] at policed
  have revoked := policed.isRevoked_iff.2 ⟨_, rfl, rfl⟩
  -- no operation of the store fails
  have apart : narrowGateway.FailsApart policedStation (.chat "k" "any" [] none none) := by
    intro e fails
    cases fails with
    | asked _ _ fault => cases fault
  have told := (policed.refused_iff _ "any" [] none none "k" (some "sold") rfl apart).2
    ⟨rfl, revoked, rfl⟩
  exact ⟨new, policed, revoked, by decide +kernel, told⟩

end ChatGateway

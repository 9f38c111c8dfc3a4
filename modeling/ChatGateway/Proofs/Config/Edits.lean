import ChatGateway.Config.Wire
import ChatGateway.Proofs.Json.Grammar
import ChatGateway.Proofs.Json.Members
import Mathlib.Logic.Relation

/-!
# Configurations written by others

The text of a configuration may hold more than the gateway knows of, and less than it could
hold: a newer writer adds members to the objects of the configuration, of its rules and of its
limits, an older one leaves out members that have a default, and nobody need keep an order.
None of this changes what is read.  The names of dictionaries are data and stay as they are.

What a member is named is a text.  A string with half a surrogate pair is no text, so it
names nothing, and it is refused where a name is looked for; as a value that nobody reads, or
anywhere inside one, it is passed over like any other.

## Main definitions

* `Config.defaults`, `RoutingRule.defaults`, `QuotaSpec.defaults` — what may be left out.
* `Config.Edit` — one change that should not matter.
* `edits_keep_config` — no number of such changes matters.
-/

namespace ChatGateway

/-! ## The records of a configuration -/

namespace RoutingRule

/-- The members of a rule that may be left out, with the values they then have. -/
def defaults : List (String × Draft) :=
  [("fallback_models", .array [] true)]

theorem lawful : record.Lawful defaults where
  settled := by simp [record]
  apart := by simp [record]
  spared := by
    simp only [defaults, List.forall_mem_singleton]
    refine Record.spares_of rfl rfl ?_
    intro s empty
    simp [record, empty]

end RoutingRule

namespace QuotaSpec

/-- The members of limits that may be left out, with the values they then have. -/
def defaults : List (String × Draft) :=
  [("max_requests_per_minute", .null), ("max_tokens_per_minute", .null), ("budget_cents", .null)]

theorem lawful : record.Lawful defaults where
  settled := by simp [record]
  apart := by simp [record]
  spared := by
    simp only [defaults, List.forall_mem_cons, List.not_mem_nil, false_imp_iff, implies_true,
      and_true]
    refine ⟨?_, ?_, ?_⟩
    all_goals
      refine Record.spares_of rfl rfl ?_
      intro s empty
      simp [record, empty]

end QuotaSpec

namespace Config

/-- The members of a configuration that may be left out, with the values they then have. -/
def defaults : List (String × Draft) :=
  [("api_keys", .object [] true), ("routing_rules", .array [] true), ("quotas", .object [] true),
    ("model_aliases", .object [] true), ("default_provider", .null)]

theorem lawful : record.Lawful defaults where
  settled := by simp [record]
  apart := by simp [record]
  spared := by
    simp only [defaults, List.forall_mem_cons, List.not_mem_nil, false_imp_iff, implies_true,
      and_true]
    refine ⟨?_, ?_, ?_, ?_, ?_⟩
    all_goals
      refine Record.spares_of rfl rfl ?_
      intro s empty
      simp [record, empty]

/-! ## Changes to a configuration -/

/-- One change to what is written of a configuration: to the members of the configuration
itself, of one of its rules or of the limits of one of its keys. -/
inductive Edit : Draft → Draft → Prop
  | top {ms ns : List (Draft × Draft)} (change : record.Amend defaults ms ns) :
      Edit (.object ms true) (.object ns true)
  | rule {before after : List (Draft × Draft)} {rules rules' : List Draft}
      {ms ns : List (Draft × Draft)}
      (change : RoutingRule.record.Amend RoutingRule.defaults ms ns) :
      Edit
        (.object (before ++ (.text (some "routing_rules"),
          .array (rules ++ .object ms true :: rules') true) :: after) true)
        (.object (before ++ (.text (some "routing_rules"),
          .array (rules ++ .object ns true :: rules') true) :: after) true)
  | quota {before after : List (Draft × Draft)} {specs specs' : List (Draft × Draft)}
      {key : Draft} {ms ns : List (Draft × Draft)}
      (change : QuotaSpec.record.Amend QuotaSpec.defaults ms ns) :
      Edit
        (.object (before ++ (.text (some "quotas"),
          .object (specs ++ (key, .object ms true) :: specs') true) :: after) true)
        (.object (before ++ (.text (some "quotas"),
          .object (specs ++ (key, .object ns true) :: specs') true) :: after) true)

/-- **One change leaves the configuration as it was.** -/
theorem Edit.decode_eq_ok {d e : Draft} {c : Config} (edit : Edit d e)
    (accepted : decode d = .ok c) : decode e = .ok c := by
  cases edit with
  | top change => exact change.decode_eq_ok lawful accepted
  | @rule _ _ _ _ ms ns change =>
    have alike : ∀ r, RoutingRule.decode (.object ms true) = .ok r →
        RoutingRule.decode (.object ns true) = .ok r :=
      fun r => change.decode_eq_ok RoutingRule.lawful
    exact Record.decode_replace rfl (fun _ => Decoder.list_replace alike) accepted
  | @quota _ _ _ _ _ ms ns change =>
    have alike : ∀ q, QuotaSpec.decode (.object ms true) = .ok q →
        QuotaSpec.decode (.object ns true) = .ok q :=
      fun q => change.decode_eq_ok QuotaSpec.lawful
    exact Record.decode_replace rfl (fun _ => Decoder.dict_replace alike) accepted

/-- **No number of changes matters.** -/
theorem decode_eq_ok_of_edits {d e : Draft} {c : Config}
    (edits : Relation.ReflTransGen Edit d e) (accepted : decode d = .ok c) :
    decode e = .ok c := by
  induction edits with
  | refl => exact accepted
  | tail _ edit ih => exact edit.decode_eq_ok ih

end Config

/-- A configuration is read as before from any text of its members put into any order, with
members added anywhere whose names are no fields, and without members whose values are the
defaults of their fields, at the top, in rules and in limits alike. -/
theorem edits_keep_config {s : String} {c : Config} (accepted : Config.ofText s = .ok c) :
    (∃ d : Draft, d.SpelledBy s) ∧
      ∀ (d e : Draft) (s' : String), d.SpelledBy s → Relation.ReflTransGen Config.Edit d e →
        e.SpelledBy s' → Config.ofText s' = .ok c := by
  obtain ⟨d, spelled, read⟩ := decodeText_eq_ok_iff.1 accepted
  refine ⟨⟨d, spelled⟩, ?_⟩
  intro d' e s' spelled' edits written
  obtain rfl := spelled.unique spelled'
  exact decodeText_eq_ok_iff.2 ⟨e, written, Config.decode_eq_ok_of_edits edits read⟩

/-! ### A text of a newer writer -/

/-- A rule as an older writer has it. -/
def olderRule : List (Draft × Draft) := [
  (.text (some "name"), .text (some "r")),
  (.text (some "priority"), .number (.ofInt (-1)))]

/-- The rule in another order, with a number that fits no word. -/
def newerRule : List (Draft × Draft) := [
  (.text (some "priority"), .number (.ofInt (-1))),
  (.text (some "weight"), .number ⟨false, ['1'], [], some (false, ['9', '9', '9'])⟩),
  (.text (some "name"), .text (some "r"))]

/-- Limits as an older writer has them, one of which is not set. -/
def olderLimits : List (Draft × Draft) := [
  (.text (some "budget_cents"), .null),
  (.text (some "max_tokens_per_minute"), .number (.ofNat 5))]

/-- The limits with an object that gives a name twice, the second time to half a surrogate
pair. -/
def newerLimits : List (Draft × Draft) := [
  (.text (some "max_tokens_per_minute"), .number (.ofNat 5)),
  (.text (some "zone"), .object [
    (.text (some "a"), .array [.null, .object [] true] true),
    (.text (some "a"), .text none)] true)]

/-- A configuration with one rule and the limits of one key, after another member. -/
def documentOf (name : String) (v : Draft) (rule limits : List (Draft × Draft)) : Draft :=
  .object [
    (.text (some name), v),
    (.text (some "routing_rules"), .array [.object rule true] true),
    (.text (some "quotas"), .object [(.text (some "k"), .object limits true)] true)] true

def olderText : String :=
  "\x7b\"api_keys\":\x7b\x7d,\"routing_rules\":[\x7b\"name\":\"r\",\"priority\":-1\x7d]," ++
    "\"quotas\":\x7b\"k\":\x7b\"budget_cents\":null,\"max_tokens_per_minute\":5\x7d\x7d\x7d"

def newerText : String :=
  "\x7b \"\\u0076ersion\" : [] ,\n\"routing_rules\":[\x7b\"priority\":-1,\"weight\":1E999," ++
    "\"name\":\"r\"\x7d],\"quotas\":\x7b\"k\":\x7b\"max_tokens_per_minute\":5," ++
    "\"zone\":\x7b\"a\":[null,\x7b\x7d],\"a\":\"\\ud800\"\x7d\x7d\x7d\x7d"

/-- What both texts hold. -/
def sharedConfig : Config where
  routingRules := [⟨"r", -1, []⟩]
  quotas := .ofList [("k", { tokensPerMinute := some 5 })]

theorem edits_keep_config_newer :
    Config.ofText olderText = .ok sharedConfig ∧ Config.ofText newerText = .ok sharedConfig := by
  have older : (documentOf "api_keys" (.object [] true) olderRule olderLimits).SpelledBy
      olderText := Draft.spelledBy_of_tokens rfl (by decide) (by decide +kernel)
  have newer : (documentOf "version" (.array [] true) newerRule newerLimits).SpelledBy
      newerText := Draft.spelledBy_of_tokens rfl (by decide) (by decide +kernel)
  have accepted : Config.ofText olderText = .ok sharedConfig :=
    decodeText_eq_ok_iff.2 ⟨_, older, rfl⟩
  have top : Relation.ReflTransGen Config.Edit
      (documentOf "api_keys" (.object [] true) olderRule olderLimits)
      (documentOf "version" (.array [] true) olderRule olderLimits) := by
    refine .head (.top (@Record.Amend.drop _ _ _ _ [] _ _ _ (by simp [Config.defaults]))) ?_
    exact .single (.top (@Record.Amend.insert _ _ _ _ [] _ _ _
      (by simp [Config.record, Field.of]) rfl))
  have rule : Relation.ReflTransGen (RoutingRule.record.Amend RoutingRule.defaults)
      olderRule newerRule := by
    refine .head (.reorder (.swap _ _ [])) ?_
    exact .single (@Record.Amend.insert _ _ _ _ [_] [_] _ _
      (by simp [RoutingRule.record, Field.of]) rfl)
  have limits : Relation.ReflTransGen (QuotaSpec.record.Amend QuotaSpec.defaults)
      olderLimits newerLimits := by
    refine .head (@Record.Amend.drop _ _ _ _ [] _ _ _ (by simp [QuotaSpec.defaults])) ?_
    exact .single (@Record.Amend.insert _ _ _ _ [_] [] _ _
      (by simp [QuotaSpec.record, Field.of]) rfl)
  have edits := (top.trans
    (rule.lift (documentOf "version" (.array [] true) · olderLimits)
      fun _ _ change => @Config.Edit.rule [_] _ [] [] _ _ change)).trans
    (limits.lift (documentOf "version" (.array [] true) newerRule)
      fun _ _ change => @Config.Edit.quota [_, _] [] [] [] _ _ _ change)
  exact ⟨accepted, (edits_keep_config accepted).2 _ _ _ older edits newer⟩

end ChatGateway

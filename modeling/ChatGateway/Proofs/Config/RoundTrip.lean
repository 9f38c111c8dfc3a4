import ChatGateway.Config.Wire
import ChatGateway.Proofs.Json.Readings

/-!
# Written configurations are read back

A configuration is written in full, its rules in order and the entries of its dictionaries
in whatever order they come.  Nothing of it is lost: all its strings, its priorities and its
limits are read back, also where a field could have been left out.

## Main definitions

* `Config.Written` — the values that a configuration may be written as.
* `Config.reads_written` — each of them is read as the configuration.
* `config_read_back` — and so is its text.
-/

namespace ChatGateway

/-! ## Rules and limits -/

theorem RoutingRule.reads (r : RoutingRule) : RoutingRule.decode.Reads r.json r := by
  have models : (Decoder.list Decoder.string).Reads
      (.array (r.fallbackModels.map .string)) r.fallbackModels :=
    reads_list fun s _ => reads_string s
  refine reads_object (s := ⟨some r.name, some r.priority, some r.fallbackModels⟩) ?_ rfl
  simp [RoutingRule.record, Record.fromMembers, Draft.ofMembers, Field.of, Except.map,
    reads_string, reads_int64, models]

theorem RoutingRule.proper (r : RoutingRule) : r.json.Proper :=
  Json.proper_object (by simp [Json.proper_array])

theorem reads_ofWord? (w : Option UInt64) :
    (Decoder.optional Decoder.word64).Reads (.ofWord? w) w :=
  reads_optional (fun _ => Json.noConfusion) fun n _ => reads_word64 n

theorem QuotaSpec.reads (s : QuotaSpec) : QuotaSpec.decode.Reads s.json s := by
  refine reads_object (s := ⟨some s.requestsPerMinute, some s.tokensPerMinute,
    some s.budgetCents⟩) ?_ rfl
  simp [QuotaSpec.record, Record.fromMembers, Draft.ofMembers, Field.of, Except.map,
    reads_ofWord?]

theorem QuotaSpec.proper (s : QuotaSpec) : s.json.Proper :=
  Json.proper_object (by simp [Json.ofWord?, Json.proper_orNull])

/-! ## Configurations -/

namespace Config

/-- A value that a configuration may be written as: each dictionary lists its entries in
some order. -/
inductive Written (c : Config) : Json → Prop
  | listing {keys : List (String × String)} {quotas : List (String × QuotaSpec)}
      {aliases : List (String × String)} (keysListed : keys.Perm c.apiKeys.entries)
      (quotasListed : quotas.Perm c.quotas.entries)
      (aliasesListed : aliases.Perm c.modelAliases.entries) :
      Written c (.object [
        ("api_keys", Json.listing .string keys),
        ("routing_rules", .array (c.routingRules.map RoutingRule.json)),
        ("quotas", Json.listing QuotaSpec.json quotas),
        ("model_aliases", Json.listing .string aliases),
        ("default_provider", .orNull .string c.defaultProvider)])

theorem written_json (c : Config) : c.Written c.json :=
  .listing (.refl _) (.refl _) (.refl _)

theorem Written.proper {c : Config} {j : Json} (written : c.Written j) : j.Proper := by
  cases written
  refine Json.proper_object ?_
  simp [Json.proper_listing, QuotaSpec.proper, Json.proper_array, RoutingRule.proper,
    Json.proper_orNull]

theorem reads_written {c : Config} {j : Json} (written : c.Written j) :
    decode.Reads j c := by
  cases written with
  | @listing keys quotas aliases keysListed quotasListed aliasesListed =>
    have keysRead := reads_dict keysListed reads_string
    have rulesRead := reads_list fun r (_ : r ∈ c.routingRules) => r.reads
    have quotasRead := reads_dict quotasListed QuotaSpec.reads
    have aliasesRead := reads_dict aliasesListed reads_string
    have providerRead : (Decoder.optional Decoder.string).Reads
        (.orNull .string c.defaultProvider) c.defaultProvider :=
      reads_optional (fun _ => Json.noConfusion) fun s _ => reads_string s
    refine reads_object (s := ⟨some c.apiKeys, some c.routingRules, some c.quotas,
      some c.modelAliases, some c.defaultProvider⟩) ?_ rfl
    simp [record, Record.fromMembers, Draft.ofMembers, Field.of, Except.map, keysRead,
      rulesRead, quotasRead, aliasesRead, providerRead]

end Config

/-- A configuration is read back from its text, and from any text that lists the entries of
its dictionaries in another order. -/
theorem config_read_back (c : Config) :
    Config.ofText c.text = .ok c ∧ ∀ j, c.Written j → Config.ofText j.text = .ok c := by
  have read : ∀ j, c.Written j → Config.ofText j.text = .ok c := fun j written =>
    decodeText_of_reads written.proper (Config.reads_written written)
  exact ⟨read c.json c.written_json, read⟩

/-- Empty names, names in need of escapes, both ends of the integers, two rules of one name
and a rule without models. -/
def awkwardConfig : Config where
  apiKeys := .ofList [("", "\"\\\x00\n"), ("Ω", "𝄞\x7f")]
  routingRules := [⟨"same", Int64.minValue, []⟩, ⟨"same", Int64.maxValue, ["", "a\tb"]⟩]
  quotas := .ofList [
    ("a", { requestsPerMinute := some 18446744073709551615, tokensPerMinute := some 0 }),
    ("\x1f", {})]
  modelAliases := .ofList [("\\u0041", "A"), ("/", "\r")]
  defaultProvider := some ""

/-- The same configuration, with every dictionary listed from its end. -/
def awkwardListing : Json :=
  .object [
    ("api_keys", Json.listing .string awkwardConfig.apiKeys.entries.reverse),
    ("routing_rules", .array (awkwardConfig.routingRules.map RoutingRule.json)),
    ("quotas", Json.listing QuotaSpec.json awkwardConfig.quotas.entries.reverse),
    ("model_aliases", Json.listing .string awkwardConfig.modelAliases.entries.reverse),
    ("default_provider", .orNull .string awkwardConfig.defaultProvider)]

theorem config_read_back_awkward :
    awkwardConfig.Written awkwardListing ∧ awkwardListing.text ≠ awkwardConfig.text ∧
      Config.ofText awkwardListing.text = .ok awkwardConfig := by
  have written : awkwardConfig.Written awkwardListing :=
    .listing (List.reverse_perm _) (List.reverse_perm _) (List.reverse_perm _)
  exact ⟨written, by decide +kernel, (config_read_back awkwardConfig).2 awkwardListing written⟩

end ChatGateway

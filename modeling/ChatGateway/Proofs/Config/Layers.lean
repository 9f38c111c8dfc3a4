import ChatGateway.Config.File
import ChatGateway.Config.Setting
import Mathlib.Data.List.Induction

/-!
# Layers of configuration

A configuration comes about setting by setting, or by laying the files of several places over
each other.  Both ways follow one law.  Laying over is associative and leaves out what is empty,
and a row of settings may be cut anywhere: the later part, taken by itself, is a layer over the
earlier one.

So what settings or files lead to can be said without laying anything over anything.  Each entry
is that of the last setting or file that has one, whole; rules are never replaced; and the first
file that is no configuration is all there is to tell.

## Main definitions

* `Setting.layer`, `Config.set_eq_merge` — a setting as a layer of its own.
* `Config.lastSaid`, `Config.Layered` — what a row of layers comes to.
* `Config.Hold`, `Config.AtFault` — what the places hold, and what is wrong with one of them.
* `layers_of_settings_and_files` — the law of settings, and what files lead to.
-/

namespace ChatGateway

/-- The configuration that says what a setting says, and nothing else. -/
def Setting.layer : Setting → Config
  | .apiKey provider secret => { apiKeys := Dict.empty.insert provider secret }
  | .modelAlias name target => { modelAliases := Dict.empty.insert name target }
  | .rule r => { routingRules := [r] }
  | .quota key spec => { quotas := Dict.empty.insert key spec }
  | .defaultProvider provider => { defaultProvider := some provider }

namespace Config

/-! ## Laying over -/

theorem merge_empty (c : Config) : c.merge {} = c := by
  simp [merge]

theorem empty_merge (c : Config) : ({} : Config).merge c = c := by
  simp [merge]

theorem merge_assoc (a b c : Config) : (a.merge b).merge c = a.merge (b.merge c) := by
  simp only [merge, Dict.extend_assoc, List.append_assoc, Option.orElse_eq_orElse,
    Option.orElse_eq_or, Option.or_assoc]

/-- To take a setting is to lay it over, so a look-up finds what it says, or what was there. -/
theorem set_eq_merge (c : Config) (step : Setting) : c.set step = c.merge step.layer := by
  cases step with
  | apiKey provider secret => simp [merge, set, Setting.layer, Dict.extend_insert]
  | modelAlias name target => simp [merge, set, Setting.layer, Dict.extend_insert]
  | rule r => simp [merge, set, Setting.layer]
  | quota key spec => simp [merge, set, Setting.layer, Dict.extend_insert]
  | defaultProvider provider => simp [merge, set, Setting.layer]

/-- A setting may be taken before or after laying over. -/
theorem merge_set (a b : Config) (step : Setting) : (a.merge b).set step = a.merge (b.set step) := by
  rw [set_eq_merge, set_eq_merge, merge_assoc]

theorem merge_foldl_set (a b : Config) (steps : List Setting) :
    steps.foldl set (a.merge b) = a.merge (steps.foldl set b) := by
  induction steps generalizing b with
  | nil => rfl
  | cons step steps ih => rw [List.foldl_cons, merge_set, ih, List.foldl_cons]

/-- Settings taken after others are a layer over them. -/
theorem ofSettings_append (earlier later : List Setting) :
    ofSettings (earlier ++ later) = (ofSettings earlier).merge (ofSettings later) := by
  rw [ofSettings, List.foldl_append, ofSettings, ofSettings, ← merge_foldl_set, merge_empty]

/-! ## What layers come to -/

variable {β : Type}

/-- What the last of those layers says that say anything. -/
def lastSaid (said : Config → Option β) (layers : List Config) : Option β :=
  (layers.filterMap said).getLast?

theorem lastSaid_concat (said : Config → Option β) (layers : List Config) (c : Config) :
    lastSaid said (layers ++ [c]) = (said c).or (lastSaid said layers) := by
  cases h : said c with
  | none => simp [lastSaid, h]
  | some b => simp [lastSaid, h]

/-- A configuration in which the last layer that has an entry counts, and all rules follow each
other. -/
structure Layered (layers : List Config) (c : Config) : Prop where
  apiKey_eq : ∀ provider,
    c.apiKeys.get? provider = lastSaid (fun layer => layer.apiKeys.get? provider) layers
  rules_eq : c.routingRules = layers.flatMap (·.routingRules)
  quota_eq : ∀ key, c.quotas.get? key = lastSaid (fun layer => layer.quotas.get? key) layers
  alias_eq : ∀ name,
    c.modelAliases.get? name = lastSaid (fun layer => layer.modelAliases.get? name) layers
  defaultProvider_eq : c.defaultProvider = lastSaid (·.defaultProvider) layers

/-- There is but one such configuration. -/
theorem Layered.eq {layers : List Config} {c d : Config} (hc : Layered layers c)
    (hd : Layered layers d) : c = d := by
  have keys : c.apiKeys = d.apiKeys :=
    Dict.ext_get? fun k => (hc.apiKey_eq k).trans (hd.apiKey_eq k).symm
  have quotas : c.quotas = d.quotas :=
    Dict.ext_get? fun k => (hc.quota_eq k).trans (hd.quota_eq k).symm
  have aliases : c.modelAliases = d.modelAliases :=
    Dict.ext_get? fun k => (hc.alias_eq k).trans (hd.alias_eq k).symm
  have rules : c.routingRules = d.routingRules := hc.rules_eq.trans hd.rules_eq.symm
  have provider : c.defaultProvider = d.defaultProvider :=
    hc.defaultProvider_eq.trans hd.defaultProvider_eq.symm
  cases c
  cases d
  simp_all only

theorem layered_nil : Layered [] {} :=
  ⟨fun _ => rfl, rfl, fun _ => rfl, fun _ => rfl, rfl⟩

/-- One more layer is laid over. -/
theorem Layered.concat {layers : List Config} {c : Config} (h : Layered layers c)
    (layer : Config) : Layered (layers ++ [layer]) (c.merge layer) := by
  constructor
  · intro provider
    rw [lastSaid_concat, merge, Dict.get?_extend, h.apiKey_eq]
  · rw [merge, h.rules_eq, List.flatMap_append, List.flatMap_singleton]
  · intro key
    rw [lastSaid_concat, merge, Dict.get?_extend, h.quota_eq]
  · intro name
    rw [lastSaid_concat, merge, Dict.get?_extend, h.alias_eq]
  · rw [lastSaid_concat, merge, h.defaultProvider_eq, Option.orElse_eq_orElse, Option.orElse_eq_or]

theorem layered_foldl_merge (layers : List Config) : Layered layers (layers.foldl merge {}) := by
  induction layers using List.reverseRecOn with
  | nil => exact layered_nil
  | append_singleton layers layer ih =>
    rw [List.foldl_append]
    exact ih.concat layer

/-- Settings come to their layers. -/
theorem layered_ofSettings (steps : List Setting) :
    Layered (steps.map Setting.layer) (ofSettings steps) := by
  have same : ofSettings steps = (steps.map Setting.layer).foldl merge {} := by
    simp only [ofSettings, List.foldl_map, ← set_eq_merge]
  exact same ▸ layered_foldl_merge _

/-! ## What places hold -/

variable (files : String → File)

/-- The places of a row that have a file hold these configurations, in order. -/
inductive Hold : List String → List Config → Prop
  | nil : Hold [] []
  | passed {path : String} {paths : List String} {layers : List Config}
    (missing : files path = .missing) (rest : Hold paths layers) : Hold (path :: paths) layers
  | file {path text : String} {paths : List String} {layer : Config} {layers : List Config}
    (read : (files path).text = .ok text) (parsed : ofText text = .ok layer)
    (rest : Hold paths layers) : Hold (path :: paths) (layer :: layers)

/-- What is wrong with the file at a place. -/
inductive AtFault (path : String) : ConfigFault → Prop
  | unreadable {fault : FileFault} (there : files path ≠ .missing)
    (unread : (files path).text = .error fault) : AtFault path (.unreadable path fault)
  | unparsable {text : String} {e : ReadError} (read : (files path).text = .ok text)
    (unparsed : ofText text = .error e) : AtFault path (.unparsable path e)

variable {files}

/-- Places hold what their parts hold, in order. -/
theorem hold_append_iff {paths rest : List String} {layers : List Config} :
    Hold files (paths ++ rest) layers ↔
      ∃ earlier later, layers = earlier ++ later ∧ Hold files paths earlier ∧
        Hold files rest later := by
  induction paths generalizing layers with
  | nil =>
    constructor
    · intro held
      exact ⟨[], layers, rfl, .nil, held⟩
    · rintro ⟨_, later, rfl, ⟨⟩, held⟩
      exact held
  | cons path paths ih =>
    constructor
    · intro held
      cases held with
      | passed missing held =>
        obtain ⟨earlier, later, rfl, first, second⟩ := ih.1 held
        exact ⟨earlier, later, rfl, first.passed missing, second⟩
      | file read parsed held =>
        obtain ⟨earlier, later, rfl, first, second⟩ := ih.1 held
        exact ⟨_ :: earlier, later, rfl, first.file read parsed, second⟩
    · rintro ⟨earlier, later, rfl, first, second⟩
      cases first with
      | passed missing first => exact (ih.2 ⟨_, _, rfl, first, second⟩).passed missing
      | file read parsed first => exact (ih.2 ⟨_, _, rfl, first, second⟩).file read parsed

theorem overlay_of_missing {path : String} (missing : files path = .missing) (c : Config)
    (rest : List String) : overlay files c (path :: rest) = overlay files c rest := by
  simp [overlay, missing]

theorem overlay_of_file {path text : String} {layer : Config}
    (read : (files path).text = .ok text) (parsed : ofText text = .ok layer) (c : Config)
    (rest : List String) :
    overlay files c (path :: rest) = overlay files (c.merge layer) rest := by
  have there : files path ≠ .missing := fun missing => by simp [missing, File.text] at read
  simp [overlay, there, ofFile, read, parsed]

theorem overlay_of_atFault {path : String} {e : ConfigFault} (h : AtFault files path e) (c : Config)
    (rest : List String) : overlay files c (path :: rest) = .error e := by
  cases h with
  | unreadable there unread => simp [overlay, there, ofFile, unread]
  | unparsable read unparsed =>
    have there : files path ≠ .missing := fun missing => by simp [missing, File.text] at read
    simp [overlay, there, ofFile, read, unparsed]

/-- Places that hold configurations lay these over what there is. -/
theorem Hold.overlay_append {paths : List String} {layers : List Config}
    (h : Hold files paths layers) (c : Config) (rest : List String) :
    overlay files c (paths ++ rest) = overlay files (layers.foldl merge c) rest := by
  induction h generalizing c with
  | nil => rfl
  | passed missing _ ih => rw [List.cons_append, overlay_of_missing missing, ih]
  | file read parsed _ ih => rw [List.cons_append, overlay_of_file read parsed, ih, List.foldl_cons]

theorem Hold.ofPlaces {paths : List String} {layers : List Config} (h : Hold files paths layers) :
    ofPlaces files paths = .ok (layers.foldl merge {}) := by
  have laid := h.overlay_append {} []
  rwa [List.append_nil] at laid

theorem Hold.ofPlaces_of_atFault {earlier : List String} {layers : List Config}
    (h : Hold files earlier layers) {path : String} {e : ConfigFault} (fault : AtFault files path e)
    (later : List String) : Config.ofPlaces files (earlier ++ path :: later) = .error e := by
  rw [Config.ofPlaces, h.overlay_append, overlay_of_atFault fault]

/-- A place has no file, or one that is a configuration, or one that is at fault. -/
theorem place_cases (files : String → File) (path : String) :
    files path = .missing ∨
      (∃ text layer, (files path).text = .ok text ∧ ofText text = .ok layer) ∨
      ∃ e, AtFault files path e := by
  by_cases missing : files path = .missing
  · exact .inl missing
  · cases read : (files path).text with
    | error fault => exact .inr (.inr ⟨_, .unreadable missing read⟩)
    | ok text =>
      cases parsed : ofText text with
      | error e => exact .inr (.inr ⟨_, .unparsable read parsed⟩)
      | ok layer => exact .inr (.inl ⟨text, layer, rfl, parsed⟩)

/-- All places hold configurations, or there is a first one at fault. -/
theorem hold_or_atFault (files : String → File) (paths : List String) :
    (∃ layers, Hold files paths layers) ∨
      ∃ earlier path later layers e, paths = earlier ++ path :: later ∧
        Hold files earlier layers ∧ AtFault files path e := by
  induction paths with
  | nil => exact .inl ⟨[], .nil⟩
  | cons path paths ih =>
    rcases place_cases files path with missing | ⟨text, layer, read, parsed⟩ | ⟨e, fault⟩
    · rcases ih with ⟨layers, held⟩ | ⟨earlier, path', later, layers, e, rfl, held, fault⟩
      · exact .inl ⟨layers, held.passed missing⟩
      · exact .inr ⟨path :: earlier, path', later, layers, e, rfl, held.passed missing, fault⟩
    · rcases ih with ⟨layers, held⟩ | ⟨earlier, path', later, layers, e, rfl, held, fault⟩
      · exact .inl ⟨layer :: layers, held.file read parsed⟩
      · exact .inr ⟨path :: earlier, path', later, layer :: layers, e, rfl,
          held.file read parsed, fault⟩
    · exact .inr ⟨[], path, paths, [], e, rfl, .nil, fault⟩

/-- What files lead to: the layers that they hold, or the fault of the first that holds none. -/
theorem ofPlaces_eq_ok_iff {files : String → File} {paths : List String} {c : Config} :
    ofPlaces files paths = .ok c ↔ ∃ layers, Hold files paths layers ∧ Layered layers c := by
  constructor
  · intro came
    rcases hold_or_atFault files paths with
      ⟨layers, held⟩ | ⟨earlier, path, later, layers, e, rfl, held, fault⟩
    · rw [held.ofPlaces] at came
      cases came
      exact ⟨layers, held, layered_foldl_merge layers⟩
    · rw [held.ofPlaces_of_atFault fault] at came
      cases came
  · rintro ⟨layers, held, layered⟩
    rw [held.ofPlaces, (layered_foldl_merge layers).eq layered]

theorem ofPlaces_eq_error_iff {files : String → File} {paths : List String} {e : ConfigFault} :
    ofPlaces files paths = .error e ↔
      ∃ earlier path later layers, paths = earlier ++ path :: later ∧
        Hold files earlier layers ∧ AtFault files path e := by
  constructor
  · intro came
    rcases hold_or_atFault files paths with
      ⟨layers, held⟩ | ⟨earlier, path, later, layers, e', rfl, held, fault⟩
    · rw [held.ofPlaces] at came
      cases came
    · rw [held.ofPlaces_of_atFault fault] at came
      cases came
      exact ⟨earlier, path, later, layers, rfl, held, fault⟩
  · rintro ⟨earlier, path, later, layers, rfl, held, fault⟩
    exact held.ofPlaces_of_atFault fault later

/-- The known places lead to what lies below the home directory, then below the directory of
settings, then in the current directory, and last, so that it counts most, where a variable
says. -/
theorem ofPlaces_places_eq_ok_iff {files : String → File} {home settings : Option String}
    {env : Environment} {c : Config} :
    ofPlaces files (places home settings env) = .ok c ↔
      ∃ own shared here named,
        Hold files (home.map (· ++ "/.llmgate/config.json")).toList own ∧
        Hold files (settings.map (· ++ "/llmgate/config.json")).toList shared ∧
        Hold files ["llmgate.json"] here ∧
        Hold files (env.get? "LLMGATE_CONFIG_PATH").toList named ∧
        Layered (own ++ shared ++ here ++ named) c := by
  rw [ofPlaces_eq_ok_iff, places]
  constructor
  · rintro ⟨layers, held, layered⟩
    obtain ⟨_, named, rfl, held, last⟩ := hold_append_iff.1 held
    obtain ⟨_, here, rfl, held, third⟩ := hold_append_iff.1 held
    obtain ⟨own, shared, rfl, first, second⟩ := hold_append_iff.1 held
    exact ⟨own, shared, here, named, first, second, third, last, layered⟩
  · rintro ⟨own, shared, here, named, first, second, third, last, layered⟩
    refine ⟨_, hold_append_iff.2 ⟨_, named, rfl, ?_, last⟩, layered⟩
    refine hold_append_iff.2 ⟨_, here, rfl, ?_, third⟩
    exact hold_append_iff.2 ⟨own, shared, rfl, first, second⟩

end Config

/-- **Settings and files follow one law.**  Of a row of settings, the later part is a layer over
the earlier one, and each setting is a layer of its own; laying over is associative, and the empty
configuration changes nothing on either side.  The files at some places lead to a configuration
exactly if all that exist hold one, and it is made of these layers; they lead to a fault exactly
if it is that of the first file that cannot be read or parsed.  So it is with the known places, the
weakest first. -/
theorem layers_of_settings_and_files :
    (∀ earlier later : List Setting, Config.ofSettings (earlier ++ later) =
      (Config.ofSettings earlier).merge (Config.ofSettings later)) ∧
    (∀ steps : List Setting,
      Config.Layered (steps.map Setting.layer) (Config.ofSettings steps)) ∧
    (∀ a b c : Config, (a.merge b).merge c = a.merge (b.merge c)) ∧
    (∀ c : Config, ({} : Config).merge c = c ∧ c.merge {} = c) ∧
    (∀ (files : String → File) (paths : List String),
      (∀ c, Config.ofPlaces files paths = .ok c ↔
        ∃ layers, Config.Hold files paths layers ∧ Config.Layered layers c) ∧
      ∀ e, Config.ofPlaces files paths = .error e ↔
        ∃ earlier path later layers, paths = earlier ++ path :: later ∧
          Config.Hold files earlier layers ∧ Config.AtFault files path e) ∧
    ∀ (files : String → File) (home settings : Option String) (env : Environment) (c : Config),
      Config.ofPlaces files (Config.places home settings env) = .ok c ↔
        ∃ own shared here named,
          Config.Hold files (home.map (· ++ "/.llmgate/config.json")).toList own ∧
          Config.Hold files (settings.map (· ++ "/llmgate/config.json")).toList shared ∧
          Config.Hold files ["llmgate.json"] here ∧
          Config.Hold files (env.get? "LLMGATE_CONFIG_PATH").toList named ∧
          Config.Layered (own ++ shared ++ here ++ named) c :=
  ⟨Config.ofSettings_append, Config.layered_ofSettings, Config.merge_assoc,
    fun c => ⟨c.empty_merge, c.merge_empty⟩,
    fun _ _ => ⟨fun _ => Config.ofPlaces_eq_ok_iff, fun _ => Config.ofPlaces_eq_error_iff⟩,
    fun _ _ _ _ _ => Config.ofPlaces_places_eq_ok_iff⟩

end ChatGateway

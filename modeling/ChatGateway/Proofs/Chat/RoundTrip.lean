import ChatGateway.Chat.Wire
import ChatGateway.Proofs.Json.Readings
import ChatGateway.Session.Policy

/-!
# Written chat calls are read back

Several texts are read as one value: a tag has synonyms, null content is empty content, what
is missing has a default, and a record may be an array.  Only one of them is written.  The
value that is read from it is the value that was written, as long as every role came from a
tag; a role such as the other author named "user" is the one thing that no text is read as.

## Main definitions

* `Role.Tagged` — the role came from a tag; so for messages, choices, responses and requests.
* `Message.reads`, `ChatResponse.reads` — tagged values are read back.
* `Message.gives`, `ChatResponse.gives` — all values that are read are tagged.
* `wire_forms_read_back` — so these are the values that are read back from their texts.
-/

namespace ChatGateway

/-! ## Roles that came from a tag -/

/-- The role came from a tag. -/
def Role.Tagged (r : Role) : Prop :=
  ∃ tag, r = .ofTag tag

/-- The author's role came from a tag. -/
def Message.Tagged (m : Message) : Prop :=
  m.role.Tagged

/-- The message, if there is one, is tagged. -/
def Choice.Tagged (c : Choice) : Prop :=
  ∀ m, c.message = some m → m.Tagged

/-- All messages of a response are tagged. -/
def ChatResponse.Tagged (r : ChatResponse) : Prop :=
  ∀ c ∈ r.choices, c.Tagged

/-- All messages of a request are tagged. -/
def ChatRequest.Tagged (r : ChatRequest) : Prop :=
  ∀ m ∈ r.messages, m.Tagged

theorem Role.Tagged.ofTag_tag {r : Role} (tagged : r.Tagged) : Role.ofTag r.tag = r := by
  obtain ⟨tag, rfl⟩ := tagged
  exact ofTag_tag_ofTag tag

/-! ## What is written is read -/

theorem Role.Tagged.reads {r : Role} (tagged : r.Tagged) :
    Role.decode.Reads (.string r.tag) r := by
  simp only [Decoder.Reads, Role.decode, reads_string, Except.map, tagged.ofTag_tag]

/-- A string where none is needed. -/
theorem reads_string? (s : String) :
    (Decoder.optional Decoder.string).Reads (.string s) (some s) :=
  reads_some Json.noConfusion (reads_string s)

namespace Message

theorem reads {m : Message} (tagged : m.Tagged) : decode.Reads m.json m := by
  refine reads_object (s := ⟨some m.role, some m.content⟩) ?_ rfl
  simp [record, Record.fromMembers, Draft.ofMembers, Field.of, Except.map,
    Role.Tagged.reads tagged, reads_string?]

theorem proper (m : Message) : m.json.Proper :=
  Json.proper_object (by simp)

end Message

namespace Usage

theorem reads (u : Usage) : decode.Reads u.json u := by
  refine reads_object (s := ⟨some u.promptTokens, some u.completionTokens,
    some u.totalTokens⟩) ?_ rfl
  simp [record, Record.fromMembers, Draft.ofMembers, Field.of, Except.map, reads_word32]

theorem proper (u : Usage) : u.json.Proper :=
  Json.proper_object (by simp)

end Usage

namespace Choice

theorem reads {c : Choice} (tagged : c.Tagged) : decode.Reads c.json c := by
  obtain ⟨index, message, reason⟩ := c
  have said : ∀ m, message = some m →
      (Decoder.optional Message.decode).Reads m.json (some m) := fun m h =>
    reads_some Json.noConfusion (Message.reads (tagged m h))
  refine reads_object (s := ⟨some index, message.map some, reason.map some⟩) ?_ ?_
  · cases message <;> cases reason <;>
      simp [Json.member?, record, Record.fromMembers, Draft.ofMembers, Field.of, Except.map,
        reads_word32, reads_string?, said]
  · cases message <;> cases reason <;> rfl

theorem proper (c : Choice) : c.json.Proper := by
  refine Json.proper_object ?_
  simp only [List.forall_mem_append, List.forall_mem_singleton]
  exact ⟨⟨Json.proper_ofNat _, fun _ => Json.proper_of_mem_member? Message.proper⟩,
    fun _ => Json.proper_of_mem_member? Json.proper_string⟩

end Choice

namespace ChatResponse

theorem reads {r : ChatResponse} (tagged : r.Tagged) : decode.Reads r.json r := by
  obtain ⟨id, model, choices, usage⟩ := r
  have listed : (Decoder.list Choice.decode).Reads (.array (choices.map Choice.json)) choices :=
    reads_list fun c mem => Choice.reads (tagged c mem)
  have counted (u : Usage) : (Decoder.optional Usage.decode).Reads u.json (some u) :=
    reads_some Json.noConfusion u.reads
  refine reads_object (s := ⟨some id, some model, some choices, usage.map some⟩) ?_ ?_
  · cases usage <;>
      simp [Json.member?, record, Record.fromMembers, Draft.ofMembers, Field.of, Except.map,
        reads_string, listed, counted]
  · cases usage <;> rfl

theorem proper (r : ChatResponse) : r.json.Proper := by
  refine Json.proper_object ?_
  simp only [List.forall_mem_append, List.forall_mem_cons]
  exact ⟨⟨Json.proper_string _, Json.proper_string _,
    Json.proper_array fun c _ => c.proper, by simp⟩,
    fun _ => Json.proper_of_mem_member? Usage.proper⟩

end ChatResponse

namespace ChatRequest

theorem reads {r : ChatRequest} (cool : r.temperature = none) (tagged : r.Tagged) :
    decode.Reads r.json r := by
  obtain ⟨model, messages, temperature, maxTokens⟩ := r
  obtain rfl : temperature = none := cool
  have listed : (Decoder.list Message.decode).Reads (.array (messages.map Message.json))
      messages := reads_list fun m mem => Message.reads (tagged m mem)
  have capped (n : UInt32) : (Decoder.optional Decoder.word32).Reads (.ofNat n.toNat) (some n) :=
    reads_some Json.noConfusion (reads_word32 n)
  refine reads_object (s := ⟨some model, some messages, none, maxTokens.map some⟩) ?_ ?_
  · cases maxTokens <;>
      simp [Json.member?, record, Record.fromMembers, Draft.ofMembers, Field.of, Except.map,
        reads_string, listed, capped]
  · cases maxTokens <;> rfl

theorem proper {r : ChatRequest} (cool : r.temperature = none) : r.json.Proper := by
  refine Json.proper_object ?_
  simp only [cool, Json.member?, List.forall_mem_append, List.forall_mem_cons]
  exact ⟨⟨⟨Json.proper_string _, Json.proper_array fun m _ => m.proper, by simp⟩, by simp⟩,
    fun _ => Json.proper_of_mem_member? fun n => Json.proper_ofNat _⟩

end ChatRequest

namespace PolicyUpdate

theorem reads (u : PolicyUpdate) : decode.Reads u.json u := by
  obtain ⟨key, action, reason⟩ := u
  have named : (Decoder.variant PolicyAction.named).Reads (.string action.name) action :=
    reads_variant (by cases action <;> rfl)
  refine reads_object (s := ⟨some key, some action, reason.map some⟩) ?_ ?_
  · cases reason <;>
      simp [Json.member?, record, Record.fromMembers, Draft.ofMembers, Field.of, Except.map,
        reads_string, reads_string?, named]
  · cases reason <;> rfl

theorem proper (u : PolicyUpdate) : u.json.Proper := by
  refine Json.proper_object ?_
  simp only [List.forall_mem_append, List.forall_mem_cons]
  exact ⟨⟨Json.proper_string _, Json.proper_string _, by simp⟩,
    fun _ => Json.proper_of_mem_member? Json.proper_string⟩

end PolicyUpdate

/-! ## What is read is tagged -/

theorem Role.gives : Role.decode.Gives Role.Tagged := by
  intro d r read
  cases accepted : Decoder.string d with
  | error e => simp [Role.decode, accepted, Except.map] at read
  | ok tag =>
    obtain rfl : Role.ofTag tag = r := by simpa [Role.decode, accepted, Except.map] using read
    exact ⟨tag, rfl⟩

theorem Message.gives : Message.decode.Gives Message.Tagged := by
  refine Record.gives (I := fun s => ∀ r, s.role = some r → r.Tagged) (by simp [record]) ?_ ?_
  · simp only [record, List.forall_mem_cons]
    refine ⟨Field.keeps_of Role.gives ?_, Field.keeps_of_any fun _ _ kept => kept, by simp⟩
    rintro s r - tagged _ ⟨⟩
    exact tagged
  · intro s m kept made
    cases role : s.role with
    | none => simp [record, role, require, Except.map] at made
    | some r =>
      obtain rfl : ⟨r, s.content.getD ""⟩ = m := by
        simpa [record, role, require, Except.map] using made
      exact kept r role

theorem Choice.gives : Choice.decode.Gives Choice.Tagged := by
  refine Record.gives (I := fun s => ∀ m, s.message = some (some m) → m.Tagged)
    (by simp [record]) ?_ ?_
  · simp only [record, List.forall_mem_cons]
    refine ⟨Field.keeps_of_any fun _ _ kept => kept, Field.keeps_of Message.gives.optional ?_,
      Field.keeps_of_any fun _ _ kept => kept, by simp⟩
    rintro s o - tagged m ⟨⟩
    exact tagged m rfl
  · rintro s c kept ⟨⟩ m said
    exact kept m (Option.join_eq_some_iff.1 said)

theorem ChatResponse.gives : ChatResponse.decode.Gives ChatResponse.Tagged := by
  refine Record.gives (I := fun s => ∀ cs, s.choices = some cs → ∀ c ∈ cs, c.Tagged)
    (by simp [record]) ?_ ?_
  · simp only [record, List.forall_mem_cons]
    refine ⟨Field.keeps_of_any fun _ _ kept => kept, Field.keeps_of_any fun _ _ kept => kept,
      Field.keeps_of Choice.gives.list ?_, Field.keeps_of_any fun _ _ kept => kept, by simp⟩
    rintro s cs - tagged _ ⟨⟩
    exact tagged
  · rintro s r kept ⟨⟩
    cases choices : s.choices with
    | none => simp [Tagged]
    | some cs => simpa [Tagged] using kept cs choices

theorem ChatRequest.gives : ChatRequest.decode.Gives ChatRequest.Tagged := by
  refine Record.gives (I := fun s => ∀ ms, s.messages = some ms → ∀ m ∈ ms, m.Tagged)
    (by simp [record]) ?_ ?_
  · simp only [record, List.forall_mem_cons]
    refine ⟨Field.keeps_of_any fun _ _ kept => kept, Field.keeps_of Message.gives.list ?_,
      Field.keeps_of_any fun _ _ kept => kept, Field.keeps_of_any fun _ _ kept => kept, by simp⟩
    rintro s ms - tagged _ ⟨⟩
    exact tagged
  · intro s r kept made
    cases model : s.model with
    | none => simp [record, model, require, bind, Except.bind] at made
    | some model' =>
      cases messages : s.messages with
      | none => simp [record, model, messages, require, bind, Except.bind] at made
      | some ms =>
        obtain rfl : ⟨model', ms, s.temperature.join, s.maxTokens.join⟩ = r := by
          simpa [record, model, messages, require, bind, Except.bind, pure, Except.pure]
            using made
        exact kept ms messages

/-! ## Which values are read back -/

/-- A message, a response, and a request without a temperature are read back from what is
written for them exactly if their roles came from tags, and a policy update is always read
back.  So whatever text a value was read from, writing it and reading it again gives the
value. -/
theorem wire_forms_read_back :
    (∀ m : Message, Message.decode.ReadsBack Message.json m ↔ m.Tagged) ∧
    (∀ r : ChatResponse, ChatResponse.decode.ReadsBack ChatResponse.json r ↔ r.Tagged) ∧
    (∀ r : ChatRequest, r.temperature = none →
      (ChatRequest.decode.ReadsBack ChatRequest.json r ↔ r.Tagged)) ∧
    (∀ u : PolicyUpdate, PolicyUpdate.decode.ReadsBack PolicyUpdate.json u) ∧
    ∀ text : String,
      (∀ m, decodeText Message.decode text = .ok m →
        Message.decode.ReadsBack Message.json m) ∧
      (∀ r, decodeText ChatResponse.decode text = .ok r →
        ChatResponse.decode.ReadsBack ChatResponse.json r) ∧
      (∀ r, decodeText ChatRequest.decode text = .ok r → r.temperature = none →
        ChatRequest.decode.ReadsBack ChatRequest.json r) ∧
      (∀ u, decodeText PolicyUpdate.decode text = .ok u →
        PolicyUpdate.decode.ReadsBack PolicyUpdate.json u) := by
  have messages (m : Message) : Message.decode.ReadsBack Message.json m ↔ m.Tagged :=
    readsBack_iff m.proper Message.reads Message.gives
  have responses (r : ChatResponse) :
      ChatResponse.decode.ReadsBack ChatResponse.json r ↔ r.Tagged :=
    readsBack_iff r.proper ChatResponse.reads ChatResponse.gives
  have requests (r : ChatRequest) (cool : r.temperature = none) :
      ChatRequest.decode.ReadsBack ChatRequest.json r ↔ r.Tagged :=
    readsBack_iff (ChatRequest.proper cool) (ChatRequest.reads cool) ChatRequest.gives
  have updates (u : PolicyUpdate) : PolicyUpdate.decode.ReadsBack PolicyUpdate.json u :=
    decodeText_of_reads u.proper u.reads
  refine ⟨messages, responses, requests, updates, fun text => ⟨?_, ?_, ?_, ?_⟩⟩
  · exact fun m read => (messages m).2 (Message.gives.of_decodeText read)
  · exact fun r read => (responses r).2 (ChatResponse.gives.of_decodeText read)
  · exact fun r read cool => (requests r cool).2 (ChatRequest.gives.of_decodeText read)
  · exact fun u _ => updates u

/-- An array for a request, in which one message is an array under a synonym and one has null
content and a field of no one's. -/
def looseText : String :=
  "[\"m\",[[\"human\"],\x7b\"x\":[\x7b\x7d],\"content\":null,\"role\":\"tool\"\x7d],null,"
    ++ "4294967295]"

/-- The request that it holds. -/
def looseRequest : ChatRequest where
  model := "m"
  messages := [⟨.user, ""⟩, ⟨.other "tool", ""⟩]
  maxTokens := some 4294967295

theorem wire_forms_read_back_loose :
    decodeText ChatRequest.decode looseText = .ok looseRequest ∧
    ChatRequest.decode.ReadsBack ChatRequest.json looseRequest ∧
    ¬ Message.decode.ReadsBack Message.json ⟨.other "user", ""⟩ := by
  have held : (decodeText ChatRequest.decode looseText).toOption = some looseRequest := by
    decide +kernel
  have read : decodeText ChatRequest.decode looseText = .ok looseRequest := by
    cases accepted : decodeText ChatRequest.decode looseText with
    | error e => simp [accepted, Except.toOption] at held
    | ok r => simpa [accepted, Except.toOption] using held
  obtain ⟨messages, -, -, -, texts⟩ := wire_forms_read_back
  refine ⟨read, (texts looseText).2.2.1 _ read rfl, fun back => ?_⟩
  obtain ⟨tag, h⟩ := (messages _).1 back
  have kept := Role.ofTag_tag_ofTag tag
  rw [← h] at kept
  exact absurd kept (by decide)

end ChatGateway

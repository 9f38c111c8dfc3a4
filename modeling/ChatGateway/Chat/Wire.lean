import ChatGateway.Chat.Basic
import ChatGateway.Json.Record

/-!
# Chat calls on the wire

Each type has a value that is written and a decoder that reads it.  A missing
option is left out when it is written.  Some providers send null for the content
of a message that only calls tools; it is read as empty.

## Main definitions

* `Message.json`, `ChatRequest.json`, `ChatResponse.json` — what is written.
* `Message.decode`, `ChatRequest.decode`, `ChatResponse.decode` — what is read.
-/

namespace ChatGateway

/-! ## Messages -/

/-- A role is its tag. -/
def Role.decode : Decoder Role := fun d =>
  (Decoder.string d).map Role.ofTag

namespace Message

/-- The value of a message. -/
def json (m : Message) : Json :=
  .object [("role", .string m.role.tag), ("content", .string m.content)]

/-- What has been read of a message. -/
structure Slots where
  role : Option Role := none
  content : Option String := none

/-- The fields of a message. -/
def record : Record Slots Message where
  title := "struct ChatMessage"
  fields := [
    .of "role" false Slots.role (fun s v => { s with role := some v }) Role.decode,
    .of "content" true Slots.content (fun s v => { s with content := some v })
      fun d => (Decoder.optional Decoder.string d).map fun c => c.getD ""]
  blank := {}
  finish s := (require "role" s.role).map fun role => ⟨role, s.content.getD ""⟩

/-- The decoder of a message. -/
def decode : Decoder Message := record.decode

end Message

/-! ## Requests -/

/-- A single-precision number, null where it is infinite. -/
def Json.single (x : Binary) : Json :=
  Json.orNull .number (x.numeral? binary32 singleLayout)

namespace ChatRequest

/-- The value of a request. -/
def json (r : ChatRequest) : Json :=
  .object (
    [("model", .string r.model), ("messages", .array (r.messages.map Message.json))]
      ++ Json.member? "temperature" Json.single r.temperature
      ++ Json.member? "max_tokens" (fun n => .ofNat n.toNat) r.maxTokens)

/-- What has been read of a request. -/
structure Slots where
  model : Option String := none
  messages : Option (List Message) := none
  temperature : Option (Option Binary) := none
  maxTokens : Option (Option UInt32) := none

/-- The fields of a request.  The options may be missing in an object, but not in
an array. -/
def record : Record Slots ChatRequest where
  title := "struct ChatRequest"
  fields := [
    .of "model" false Slots.model (fun s v => { s with model := some v }) Decoder.string,
    .of "messages" false Slots.messages (fun s v => { s with messages := some v })
      (Decoder.list Message.decode),
    .of "temperature" false Slots.temperature (fun s v => { s with temperature := some v })
      (Decoder.optional Decoder.single),
    .of "max_tokens" false Slots.maxTokens (fun s v => { s with maxTokens := some v })
      (Decoder.optional Decoder.word32)]
  blank := {}
  finish s := do
    let model ← require "model" s.model
    let messages ← require "messages" s.messages
    return ⟨model, messages, s.temperature.join, s.maxTokens.join⟩

/-- The decoder of a request. -/
def decode : Decoder ChatRequest := record.decode

end ChatRequest

/-! ## Responses -/

namespace Usage

/-- The value of a usage. -/
def json (u : Usage) : Json :=
  .object [
    ("prompt_tokens", .ofNat u.promptTokens.toNat),
    ("completion_tokens", .ofNat u.completionTokens.toNat),
    ("total_tokens", .ofNat u.totalTokens.toNat)]

/-- What has been read of a usage. -/
structure Slots where
  promptTokens : Option UInt32 := none
  completionTokens : Option UInt32 := none
  totalTokens : Option UInt32 := none

/-- The fields of a usage. -/
def record : Record Slots Usage where
  title := "struct Usage"
  fields := [
    .of "prompt_tokens" true Slots.promptTokens (fun s v => { s with promptTokens := some v })
      Decoder.word32,
    .of "completion_tokens" true Slots.completionTokens
      (fun s v => { s with completionTokens := some v }) Decoder.word32,
    .of "total_tokens" true Slots.totalTokens (fun s v => { s with totalTokens := some v })
      Decoder.word32]
  blank := {}
  finish s := .ok ⟨s.promptTokens.getD 0, s.completionTokens.getD 0, s.totalTokens.getD 0⟩

/-- The decoder of a usage. -/
def decode : Decoder Usage := record.decode

end Usage

namespace Choice

/-- The value of a choice. -/
def json (c : Choice) : Json :=
  .object (
    [("index", .ofNat c.index.toNat)]
      ++ Json.member? "message" Message.json c.message
      ++ Json.member? "finish_reason" .string c.finishReason)

/-- What has been read of a choice. -/
structure Slots where
  index : Option UInt32 := none
  message : Option (Option Message) := none
  finishReason : Option (Option String) := none

/-- The fields of a choice. -/
def record : Record Slots Choice where
  title := "struct Choice"
  fields := [
    .of "index" true Slots.index (fun s v => { s with index := some v }) Decoder.word32,
    .of "message" true Slots.message (fun s v => { s with message := some v })
      (Decoder.optional Message.decode),
    .of "finish_reason" true Slots.finishReason (fun s v => { s with finishReason := some v })
      (Decoder.optional Decoder.string)]
  blank := {}
  finish s := .ok ⟨s.index.getD 0, s.message.join, s.finishReason.join⟩

/-- The decoder of a choice. -/
def decode : Decoder Choice := record.decode

end Choice

namespace ChatResponse

/-- The value of a response. -/
def json (r : ChatResponse) : Json :=
  .object (
    [("id", .string r.id), ("model", .string r.model),
      ("choices", .array (r.choices.map Choice.json))]
      ++ Json.member? "usage" Usage.json r.usage)

/-- What has been read of a response. -/
structure Slots where
  id : Option String := none
  model : Option String := none
  choices : Option (List Choice) := none
  usage : Option (Option Usage) := none

/-- The fields of a response. -/
def record : Record Slots ChatResponse where
  title := "struct ChatResponse"
  fields := [
    .of "id" true Slots.id (fun s v => { s with id := some v }) Decoder.string,
    .of "model" true Slots.model (fun s v => { s with model := some v }) Decoder.string,
    .of "choices" true Slots.choices (fun s v => { s with choices := some v })
      (Decoder.list Choice.decode),
    .of "usage" true Slots.usage (fun s v => { s with usage := some v })
      (Decoder.optional Usage.decode)]
  blank := {}
  finish s := .ok ⟨s.id.getD "", s.model.getD "", s.choices.getD [], s.usage.join⟩

/-- The decoder of a response. -/
def decode : Decoder ChatResponse := record.decode

end ChatResponse

end ChatGateway

import ChatGateway.Chat.Wire
import ChatGateway.Http.Exchange

/-!
# Dialects

Providers are spoken to in one of two ways.  The chat-completions dialect sends
the request and reads the response in normalised form.  The messages dialect
keeps system messages apart, knows only users and assistants, always caps the
completion, and answers in blocks of text.

## Main definitions

* `Dialect`, `Endpoint` — how and where a provider is spoken to.
* `Dialect.body` — what is sent.
* `Dialect.decode` — what is read.
* `Endpoint.request?` — the request of a chat call.
-/

namespace ChatGateway

/-- A way of speaking to a provider. -/
inductive Dialect where
  | completions
  | messages
  deriving DecidableEq, Repr

/-! ## The messages dialect -/

namespace MessagesDialect

/-- The version of the dialect. -/
def version : String := "2023-06-01"

/-- The cap on a completion that the request does not cap. -/
def defaultCap : UInt32 := 1024

/-- Everybody but the assistant is a user. -/
def roleTag : Role → String
  | .assistant => "assistant"
  | _ => "user"

/-- A message. -/
def messageJson (m : Message) : Json :=
  .object [("content", .string m.content), ("role", .string (roleTag m.role))]

/-- A single-precision number written as a double, null where it is infinite. -/
def temperatureJson (x : Binary) : Json :=
  Json.orNull .number ((x.convert binary64).numeral? binary64 doubleLayout)

/-- What the system messages say together. -/
def system? (messages : List Message) : Option String :=
  match messages.filter fun m => m.role = .system with
  | [] => none
  | ms => some ("\n".intercalate (ms.map (·.content)))

/-- What is sent, with its members in ascending order. -/
def body (r : ChatRequest) : Json :=
  .object (
    [("max_tokens", .ofNat (r.maxTokens.getD defaultCap).toNat),
      ("messages", .array ((r.messages.filter fun m => m.role ≠ .system).map messageJson)),
      ("model", .string r.model)]
      ++ Json.member? "system" .string (system? r.messages)
      ++ Json.member? "temperature" temperatureJson r.temperature)

/-- What has been read of a block. -/
structure BlockSlots where
  text : Option (Option String) := none

/-- A block of content; only text counts. -/
def blockRecord : Record BlockSlots (Option String) where
  title := "struct ContentBlock"
  fields := [
    .of "text" false BlockSlots.text (fun s v => { s with text := some v })
      (Decoder.optional Decoder.string)]
  blank := {}
  finish s := .ok s.text.join

/-- What has been read of a usage. -/
structure UsageSlots where
  input : Option UInt32 := none
  output : Option UInt32 := none

/-- The tokens that came in and went out. -/
def usageRecord : Record UsageSlots Usage where
  title := "struct MessagesUsage"
  fields := [
    .of "input_tokens" false UsageSlots.input (fun s v => { s with input := some v })
      Decoder.word32,
    .of "output_tokens" false UsageSlots.output (fun s v => { s with output := some v })
      Decoder.word32]
  blank := {}
  finish s := do
    let input ← require "input_tokens" s.input
    let output ← require "output_tokens" s.output
    return Usage.ofParts input output

/-- What has been read of a response. -/
structure Slots where
  id : Option String := none
  model : Option String := none
  content : Option (List (Option String)) := none
  stopReason : Option (Option String) := none
  usage : Option (Option Usage) := none

/-- A response in normalised form: its blocks of text on lines of their own are
what the assistant says. -/
def record : Record Slots ChatResponse where
  title := "struct MessagesResponse"
  fields := [
    .of "id" false Slots.id (fun s v => { s with id := some v }) Decoder.string,
    .of "model" true Slots.model (fun s v => { s with model := some v }) Decoder.string,
    .of "content" true Slots.content (fun s v => { s with content := some v })
      (Decoder.list blockRecord.decode),
    .of "stop_reason" true Slots.stopReason (fun s v => { s with stopReason := some v })
      (Decoder.optional Decoder.string),
    .of "usage" false Slots.usage (fun s v => { s with usage := some v })
      (Decoder.optional usageRecord.decode)]
  blank := {}
  finish s := do
    let id ← require "id" s.id
    let content := "\n".intercalate ((s.content.getD []).filterMap fun text => text)
    return {
      id := id
      model := s.model.getD ""
      choices := [{
        message := some ⟨.assistant, content⟩
        finishReason := some (s.stopReason.join.getD "stop") }]
      usage := s.usage.join }

end MessagesDialect

/-! ## Both dialects -/

namespace Dialect

/-- What is sent for a request. -/
def body (d : Dialect) (r : ChatRequest) : Json :=
  match d with
  | .completions => r.json
  | .messages => MessagesDialect.body r

/-- What is read of an answer. -/
def decode : Dialect → Decoder ChatResponse
  | .completions => ChatResponse.decode
  | .messages => MessagesDialect.record.decode

/-- Where requests go, below the base address. -/
def place : Dialect → String
  | .completions => "/chat/completions"
  | .messages => "/messages"

/-- The headers that carry the secret, if a header may hold it. -/
def headers? (d : Dialect) (secret : String) : Option (List (String × String)) :=
  if isHeaderValue secret then
    some (match d with
      | .completions => [("authorization", "Bearer " ++ secret)]
      | .messages =>
        [("x-api-key", secret), ("anthropic-version", MessagesDialect.version)])
  else none

end Dialect

/-- How and where a provider is spoken to. -/
structure Endpoint where
  dialect : Dialect
  /-- The address below which requests are sent. -/
  base : String
  deriving DecidableEq, Repr

namespace Endpoint

/-- A base address without slashes at its end. -/
def trimBase (base : String) : String :=
  String.ofList (base.toList.reverse.dropWhile (· = '/')).reverse

/-- The request of a chat call, if the secret can be sent. -/
def request? (e : Endpoint) (secret : String) (r : ChatRequest) : Option HttpRequest :=
  (e.dialect.headers? secret).map fun headers =>
    ⟨trimBase e.base ++ e.dialect.place, headers, (e.dialect.body r).text⟩

/-- An answer that names no model is for the model that was asked for. -/
def named (r : ChatRequest) (response : ChatResponse) : ChatResponse :=
  if response.model = "" then { response with model := r.model } else response

end Endpoint

end ChatGateway

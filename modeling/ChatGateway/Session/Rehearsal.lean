import ChatGateway.Session.Call

/-!
# Rehearsals

A rehearsal runs a session whose providers answer from prepared replies.  Each
provider has a queue of replies and takes the next one when it is asked; past the
end of its queue it answers with its own name.  A reply may be held back behind a
gate, so that other operations go on while the call waits, and time may pass
before it is given.

## Main definitions

* `Reply` — a prepared reply.
* `Rehearsal` — a session, its prepared replies and its held calls.
* `Rehearsal.chat`, `Rehearsal.resume`, `Rehearsal.abandon` — calls that may be
  held.
-/

namespace ChatGateway

/-- A prepared reply. -/
structure Reply where
  /-- What the provider answers; without it, its own name. -/
  result : Option (Except ProviderError ChatResponse) := none
  /-- The gate that must be open first. -/
  hold : Option String := none
  /-- The milliseconds that pass before it is given. -/
  advanceMs : Int := 0

namespace Reply

/-- The answer of a provider that has nothing prepared. -/
def standard (provider : String) : ChatResponse where
  id := "resp"
  model := "m"
  choices := [{ message := some ⟨.assistant, provider⟩, finishReason := some "stop" }]
  usage := some (.ofParts 10 5)

/-- What a provider answers with a reply. -/
def answer (r : Reply) (provider : String) : Except ProviderError ChatResponse :=
  r.result.getD (.ok (standard provider))

end Reply

/-- A session, its prepared replies and its held calls. -/
structure Rehearsal where
  session : Session := {}
  /-- The replies of each provider that were not taken yet. -/
  queues : Dict (List Reply) := .empty
  /-- The gates that are open. -/
  gates : List String := []
  /-- The held calls that can be resumed, each with its reply. -/
  held : Dict (Waiting × Reply) := .empty

namespace Rehearsal

/-- Prepare a further reply of a provider. -/
def prepare (r : Rehearsal) (provider : String) (reply : Reply) : Rehearsal :=
  { r with queues := r.queues.insert provider ((r.queues.get? provider).getD [] ++ [reply]) }

/-- Open a gate. -/
def openGate (r : Rehearsal) (gate : String) : Rehearsal :=
  { r with gates := gate :: r.gates }

/-- Take the next reply of a provider. -/
def take (r : Rehearsal) (provider : String) : Reply × Rehearsal :=
  match (r.queues.get? provider).getD [] with
  | [] => ({}, r)
  | reply :: rest => (reply, { r with queues := r.queues.insert provider rest })

/-- Whether a reply is held back. -/
def isHeld (r : Rehearsal) (reply : Reply) : Bool :=
  match reply.hold with
  | some gate => !r.gates.contains gate
  | none => false

/-- Give a reply to a call that waits for it. -/
def give {α : Type} (g : Gateway α) (r : Rehearsal) (w : Waiting) (reply : Reply) :
    Progress × Rehearsal :=
  let session := { r.session with now := r.session.now.afterMillis reply.advanceMs }
  let (progress, session) := g.answer w (reply.answer w.dispatch.provider) 0 session
  (progress, { r with session := session })

/-- How a call stands when nothing more can be given to it. -/
inductive Standing where
  | done (outcome : Except GatewayError ChatResponse)
  | held (w : Waiting) (reply : Reply)

/-- Give replies to a call until it is done or held. -/
def play {α : Type} (g : Gateway α) (r : Rehearsal) (progress : Progress) : Standing × Rehearsal :=
  match progress with
  | .done outcome => (.done outcome, r)
  | .waiting w =>
    let taken := r.take w.dispatch.provider
    if taken.2.isHeld taken.1 then (.held w taken.1, taken.2)
    else
      let given := give g taken.2 w taken.1
      play g given.2 given.1
termination_by progress.remaining
decreasing_by exact g.remaining_answer_lt _ _ _ _

/-- Keep a held call under a name. -/
def keep (id : Option String) :
    Standing × Rehearsal → Option (Except GatewayError ChatResponse) × Rehearsal
  | (.done outcome, r) => (some outcome, r)
  | (.held w reply, r) =>
    match id with
    | some id => (none, { r with held := r.held.insert id (w, reply) })
    | none => (none, r)

/-- Begin a call.  A call that is held is kept under its name, or given up if it
has none. -/
def chat {α : Type} (g : Gateway α) (r : Rehearsal) (id : Option String) (key model : String)
    (messages : List Message) (temperature : Option Binary) (maxTokens : Option UInt32) :
    Option (Except GatewayError ChatResponse) × Rehearsal :=
  let (progress, session) := g.chat r.session key model messages temperature maxTokens
  keep id (play g { r with session := session } progress)

/-- Go on with a held call. -/
def resume {α : Type} (g : Gateway α) (r : Rehearsal) (id : String) (w : Waiting) (reply : Reply) :
    Option (Except GatewayError ChatResponse) × Rehearsal :=
  if r.isHeld reply then (none, r)
  else
    let (progress, r) := give g { r with held := r.held.erase id } w reply
    keep (some id) (play g r progress)

/-- Give up a held call. -/
def abandon (r : Rehearsal) (id : String) : Rehearsal :=
  { r with held := r.held.erase id }

end Rehearsal

end ChatGateway

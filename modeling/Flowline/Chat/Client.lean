import Flowline.Chat.Model
import Flowline.Transcript

/-!
# Chat clients

A client opens a connection to a provider for each exchange and leaves it in every case. Of an
answer only the first choice counts; nothing is tried twice.
-/

namespace Flowline.Chat

structure Access where
  endpoint : Endpoint
  apiKey : String
  version : String

def Access.settings (access : Access) : Fields Value :=
  if access.endpoint.azure then
    [("azure_endpoint", .text access.endpoint.url), ("api_key", .text access.apiKey),
      ("api_version", .text access.version), ("max_retries", .int 0)]
  else
    [("base_url", .text access.endpoint.url), ("api_key", .text access.apiKey),
      ("max_retries", .int 0)]

structure Message where
  role : String
  content : String

structure Ask where
  model : String
  messages : List Message
  temperature : Value

def Ask.parameters (ask : Ask) (streamed : Bool) : Fields Value :=
  [("model", .text ask.model),
    ("messages", .list (ask.messages.map fun m =>
      .record [("role", .text m.role), ("content", .text m.content)])),
    ("temperature", ask.temperature)]
    ++ if streamed then [("stream", .bool true)] else []

abbrev Choices := List (Option String)

/-- A provider of chat models in a world `σ`. -/
structure Provider (σ : Type) where
  enter : Access → σ → σ
  answer : Ask → Act σ Choices
  stream : Ask → Telling σ Choices Unit
  /-- Leaves the connection; `failing` tells whether the exchange came to no end. -/
  leave : (failing : Bool) → σ → σ

def defaultSystem : String := "You are a professional assistant."

def Exchange.messages (exchange : Exchange) : List Message :=
  [⟨"system", if exchange.system.isEmpty then defaultSystem else exchange.system⟩,
    ⟨"user", exchange.user⟩]

def Exchange.ask (exchange : Exchange) : Ask :=
  ⟨exchange.model.name, exchange.messages, exchange.model.temperature⟩

def firstContent (choices : Choices) : String := (choices.head?.join).getD ""

/-- The fragment of a chunk, if it has one that is not empty. -/
def fragment? (choices : Choices) : Option String :=
  let content := firstContent choices
  if content.isEmpty then none else some content

namespace Provider

def close (provider : Provider σ) (outcome : Outcome σ α) (world : σ) : Outcome σ α × σ :=
  match outcome with
  | .done a => (.done a, provider.leave false world)
  | .raised fault => (.raised fault, provider.leave true world)
  | .waiting cancel => (.waiting fun world => provider.leave true (cancel world), world)

end Provider

structure Client where
  version : String

namespace Client

def access (client : Client) (model : Model) : Access :=
  ⟨model.endpoint, model.apiKey, client.version⟩

def complete (client : Client) (provider : Provider σ) (exchange : Exchange) : Act σ String :=
  fun world =>
    let (outcome, world) :=
      provider.answer exchange.ask (provider.enter (client.access exchange.model) world)
    provider.close (outcome.map firstContent) world

def stream (client : Client) (provider : Provider σ) (exchange : Exchange) :
    Telling σ String Unit := fun world =>
  let (told, world) :=
    provider.stream exchange.ask (provider.enter (client.access exchange.model) world)
  let (outcome, world) := provider.close told.outcome world
  (⟨told.pieces.filterMap fragment?, outcome⟩, world)

end Client

end Flowline.Chat

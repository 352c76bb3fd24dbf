import Flowline.Graph.Node
import Flowline.Run.Context
import Flowline.Run.Services

/-!
# Tasks

What a node has to do in a context, with all its templates filled: it has its value at once, or the
evaluator or one call of a service gives it. To work out a task needs no service, and a task makes
at most one call.
-/

namespace Flowline

inductive Task where
  | value (v : Value)
  | decide (condition : String)
  | chat (exchange : Chat.Exchange)
  | query (statement : String)
  | send (request : Web.Request)

def failureValue (message nodeId : String) : Value :=
  .record [("error", .text message), ("nodeId", .text nodeId)]

namespace LlmConfig

def overrides (config : LlmConfig) : Chat.Overrides where
  baseUrl := config.baseUrl
  apiKey := config.apiKey
  model := config.model
  temperature := config.temperature.map Value.float

def exchange (config : LlmConfig) (defaults : Chat.Defaults) (context : Context) :
    Except Fault Chat.Exchange := do
  let system ← context.fill config.systemPrompt
  let user ← context.fill config.userPrompt
  let model ← Chat.Model.resolve defaults config.overrides
  return ⟨model, system, user⟩

end LlmConfig

def ApiConfig.request (config : ApiConfig) (url : String) (context : Context) :
    Except Fault Web.Request := do
  let headers ← context.fill config.headers
  let body ← context.fill config.body
  return ⟨config.method, url, Web.parseHeaders headers, if body.isEmpty then none else some body⟩

/-- The input of a node that passes it on; it is the empty text if there is none. -/
def Context.passedOn (context : Context) : Value :=
  if context.input.isNull then .text "" else context.input

def Node.task (defaults : Chat.Defaults) (context : Context) (node : Node) : Except Fault Task :=
  match node.config with
  | .start | .output => .ok (.value context.passedOn)
  | .llm config => .chat <$> config.exchange defaults context
  | .dbQuery query => .query <$> context.fill query
  | .apiCall config => do
    let url ← context.fill config.url
    if Text.isBlankText url then return .value (failureValue "Invalid URL" node.id)
    return .send (← config.request url context)
  | .condition expression => .decide <$> context.fill expression
  | .custom name _ => .ok (.value (failureValue ("Unsupported node type: " ++ name) node.id))

/-- A chat answer as a whole. Trouble of the service becomes the value; trouble of the
configuration ends the run. -/
def Services.answer (services : Services σ) (exchange : Chat.Exchange) : Act σ Value :=
  Act.recover (do return .text (← services.complete exchange)) fun fault =>
    if fault.isConfiguration then Act.raise fault
    else pure (.record [("error", .text fault.text)])

def Task.perform (services : Services σ) (streaming : Bool) : Task → Telling σ String Value
  | .value v => Telling.ofAct (pure v)
  | .decide condition => Telling.ofAct (Act.ofExcept (services.evaluate condition))
  | .chat exchange =>
    if streaming then (services.stream exchange).collect.map Value.text
    else Telling.ofAct (services.answer exchange)
  | .query statement => Telling.ofAct (services.query statement services.options)
  | .send request => Telling.ofAct (services.send request)

def Node.execute (services : Services σ) (streaming : Bool) (context : Context) (node : Node) :
    Telling σ String Value :=
  match node.task services.defaults context with
  | .ok task => task.perform services streaming
  | .error fault => Telling.ofAct (Act.raise fault)

end Flowline

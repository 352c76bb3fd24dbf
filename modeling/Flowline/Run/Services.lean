import Flowline.Chat.Model
import Flowline.Condition.Evaluation
import Flowline.Sql.Session
import Flowline.Transcript
import Flowline.Web.Header

/-!
# Services

What a run asks of the world outside it: chat exchanges, whole or in fragments, statements and
requests. The evaluator of conditions is given with them; it answers at once, and of itself.
Recorded services note each call before they take it.
-/

namespace Flowline

def decideCondition (condition : String) : Except Fault Value :=
  match Condition.evaluate condition with
  | .ok v => .ok v
  | .error (.refused refusal) => .error (.condition refusal condition)
  | .error (.lookup missing) => .error (.reported missing.kind missing.message)

structure Services (σ : Type) where
  complete : Chat.Exchange → Act σ String
  stream : Chat.Exchange → Telling σ String Unit
  query : String → Sql.Options → Act σ Value
  send : Web.Request → Act σ Value
  evaluate : String → Except Fault Value := decideCondition
  defaults : Chat.Defaults := {}
  options : Sql.Options := {}

inductive Call where
  | chat (streamed : Bool) (exchange : Chat.Exchange)
  | query (statement : String) (options : Sql.Options)
  | send (request : Web.Request)

def Services.recorded (note : Call → σ → σ) (services : Services σ) : Services σ where
  complete exchange := fun world => services.complete exchange (note (.chat false exchange) world)
  stream exchange := fun world => services.stream exchange (note (.chat true exchange) world)
  query statement options := fun world =>
    services.query statement options (note (.query statement options) world)
  send request := fun world => services.send request (note (.send request) world)
  evaluate := services.evaluate
  defaults := services.defaults
  options := services.options

end Flowline

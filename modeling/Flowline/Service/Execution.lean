import Flowline.Graph.Load
import Flowline.Json.Encoding
import Flowline.Json.Nesting
import Flowline.Json.Reader
import Flowline.Run.Stream
import Flowline.Service.Response

/-!
# Executing submissions

The service answers every request with one response. A submitted graph is read, checked and run,
and its result is sent when the run is over, or its events while it goes on. A failed run is
answered with no more than that, except for trouble with the configuration. What breaks the service
itself, instead of being answered, is a fault of `respond`.
-/

namespace Flowline.Service

def inBody (problem : Problem) : Problem :=
  let cause := match problem.cause with
    | .notObject => .noParts
    | cause => cause
  { problem with cause }.under (.key "body")

def maxNesting : Nat := 950

def unreadable : Response := Response.detail 400 "There was an error parsing the body"

def malformed (text : List Char) (left : Nat) : Response :=
  let position := text.length - left
  if maxNesting < Json.nesting (text.take position) then unreadable
  else ⟨422, .problems [⟨[.key "body", .index position], .malformedJson, .record []⟩]⟩

/-- Reads the body of a submission; an empty one is none. -/
def readBody (octets : List UInt8) : Except Response (Option Value) :=
  if octets.isEmpty then .ok none
  else match Json.decode? octets with
    | none => .error unreadable
    | some text =>
      match Json.read text with
      | .ok v => if maxNesting < Json.nesting text.toList then .error unreadable else .ok (some v)
      | .error (.malformed left) => .error (malformed text.toList left)
      | .error .integerTooLong => .error unreadable

def loadBody : Option Value → Loaded Graph
  | none => Loaded.problem .missing .null
  | some v => Graph.load v

def failure (fault : Fault) (id : String) : Except Fault Response :=
  if fault.isConfiguration then
    Response.json 503 (.record [("status", .text "error"), ("error", .text fault.text)])
  else
    Response.json 500 (.record [("status", .text "error"), ("error", .text internalError),
      ("correlation_id", .text (shortId id))])

def executeWhole (services : Services σ) (id : String) (graph : Graph) : Act σ Response :=
  fun world =>
    let (report, world) := graph.run services false (fun _ => false) world
    match report.outcome with
    | .done result => Act.ofExcept (Response.json 200 result.toValue) world
    | .raised fault => Act.ofExcept (failure fault id) world
    | .waiting cancel => (.waiting cancel, world)

def executeTold (services : Services σ) (id : String) (graph : Graph) : Act σ Response :=
  fun world =>
    let (report, world) := graph.run services true (fun _ => false) world
    match report.outcome with
    | .waiting cancel => (.waiting cancel, world)
    | _ => Act.ofExcept (Response.events (report.stream id)) world

/-- Executes a submission. Without services there is nothing to execute it with. -/
def execute (services : Option (Services σ)) (id : String) (request : Request) :
    Act σ Response :=
  -- a body that is no JSON is told first, then that the service is not ready, then problems
  match readBody request.body, services with
  | .error response, _ => pure response
  | .ok _, none => pure (Response.detail 503 "Workflow clients not initialized")
  | .ok body, some services =>
    match loadBody body with
    | .accepted graph =>
      if request.wantsEvents then executeTold services id graph
      else executeWhole services id graph
    | .rejected problems => Act.ofExcept (Response.refusal (problems.map inBody))
    | .broken why => Act.raise (.unreadable why)

def healthy : Response := ⟨200, .json (.record [("status", .text "healthy")])⟩

/-- Answers a request; `id` is what a failure is logged under. -/
def respond (services : Option (Services σ)) (id : String) (request : Request) :
    Act σ Response :=
  match Route.ofPath? request.path with
  | none => pure (Response.detail 404 "Not Found")
  | some route =>
    if route.method != request.method then pure (Response.detail 405 "Method Not Allowed")
    else match route with
      | .health => pure healthy
      | .execute => execute services id request

end Flowline.Service

import Flowline.Text.Case
import Flowline.Text.Part

/-!
# Requests to the service

The service has two routes: one executes a submitted graph, the other tells that the service is up.
-/

namespace Flowline.Service

structure Request where
  method : String
  path : String
  accept : String := ""
  body : List UInt8 := []

inductive Route where
  | execute
  | health
  deriving DecidableEq, Repr

namespace Route

def path : Route → String
  | execute => "/api/workflow/execute"
  | health => "/health"

def method : Route → String
  | execute => "POST"
  | health => "GET"

def ofPath? (path : String) : Option Route := [execute, health].find? (·.path == path)

end Route

def eventStream : String := "text/event-stream"

def Request.wantsEvents (request : Request) : Bool :=
  Text.hasPart (Text.lower request.accept) eventStream

end Flowline.Service

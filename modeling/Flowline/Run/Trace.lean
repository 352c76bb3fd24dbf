import Flowline.Graph.Node
import Flowline.Run.Context

/-!
# Traces and results

A trace has one entry for each executed node, in order. A run that comes to an end has a result,
which also says why it ended.
-/

namespace Flowline

inductive Termination where
  | output
  | deadEnd
  | stepBudget
  | cancelled
  deriving DecidableEq, Repr

def Termination.word : Termination → String
  | output => "output"
  | deadEnd => "dead_end"
  | stepBudget => "step_budget"
  | cancelled => "cancelled"

/-- One executed node; `input` is what the context held before it ran. -/
structure Entry where
  nodeId : String
  kind : String
  input : Value
  output : Value

def Entry.toValue (entry : Entry) : Value :=
  .record [("nodeId", .text entry.nodeId), ("kind", .text entry.kind), ("input", entry.input),
    ("output", entry.output)]

structure Result where
  output : Value
  context : Context := {}
  trace : List Entry := []
  termination : Termination

def Result.toValue (result : Result) : Value :=
  .record [("status", .text "success"), ("output", result.output),
    ("context", .record result.context.toFields),
    ("trace", .list (result.trace.map Entry.toValue)),
    ("termination", .text result.termination.word)]

inductive Notice where
  | started
  | entered (nodeId : String)
  | delta (nodeId : String) (fragment : String)
  | left (entry : Entry)
  | ended (result : Result)

end Flowline

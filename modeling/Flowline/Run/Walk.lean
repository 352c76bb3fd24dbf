import Flowline.Run.Branch
import Flowline.Run.Task
import Flowline.Run.Trace

/-!
# Walks

A run walks from node to node. Before each node it looks whether the budget is used up and then
whether it is called off. It ends behind an output node, where no node follows, or with the fault
that a node raises; a walk that ends with a fault keeps the entries and notices made until then.
-/

namespace Flowline

structure Carry where
  context : Context
  /-- The output of the last node, at first the initial input. -/
  last : Value := .null

namespace Carry

def initial (graph : Graph) : Carry :=
  match graph.initialInput with
  | some s => if s.isEmpty then ⟨{}, .null⟩ else ⟨{ input := .text s }, .text s⟩
  | none => ⟨{}, .null⟩

/-- Before a node runs, the last output becomes its input, unless it is a start node. -/
def enter (carry : Carry) (node : Node) : Carry :=
  if node.kind == .start || carry.last.isNull then carry
  else { carry with context := { carry.context with input := carry.last } }

def leave (carry : Carry) (node : Node) (output : Value) : Carry where
  context :=
    { carry.context with
      perNode := Fields.put carry.context.perNode node.id output
      output := if node.kind == .output then output else carry.context.output }
  last := output

def entry (carry : Carry) (node : Node) (output : Value) : Entry :=
  ⟨node.id, node.kindName, carry.context.input, output⟩

def finalOutput (carry : Carry) : Value :=
  if carry.context.output.isNull then carry.last else carry.context.output

end Carry

structure Walk (σ : Type) where
  notices : List Notice := []
  trace : List Entry := []
  ending : Outcome σ (Termination × Carry)

namespace Walk

def stop (termination : Termination) (carry : Carry) : Walk σ where
  ending := .done (termination, carry)

def opening (node : Node) (fragments : List String) : List Notice :=
  .entered node.id :: fragments.map (Notice.delta node.id)

def through (node : Node) (fragments : List String) (entry : Entry) (rest : Walk σ) : Walk σ where
  notices := opening node fragments ++ .left entry :: rest.notices
  trace := entry :: rest.trace
  ending := rest.ending

end Walk

structure Plan (σ : Type) where
  index : Index
  services : Services σ
  streaming : Bool
  /-- Whether the run is called off after so many nodes. -/
  cancelled : Nat → Bool

namespace Plan

/-- Walks on from a node, with a budget of further nodes and a count of those executed. -/
def walk (plan : Plan σ) : (budget executed : Nat) → Carry → Option Node → σ → Walk σ × σ
  | _, _, carry, none, world => (.stop .deadEnd carry, world)
  | 0, _, carry, some _, world => (.stop .stepBudget carry, world)
  | budget + 1, executed, carry, some node, world =>
    if plan.cancelled executed then (.stop .cancelled carry, world)
    else
      -- a fault leaves no entry, but what was told before it stays told
      let carry := carry.enter node
      let (told, world) := node.execute plan.services plan.streaming carry.context world
      match told.outcome with
      | .done output =>
        let next := carry.leave node output
        let (rest, world) :=
          -- an output node ends the run whatever follows it
          if node.kind == .output then (.stop .output next, world)
          else plan.walk budget (executed + 1) next (plan.index.next? node output) world
        (rest.through node told.pieces (carry.entry node output), world)
      | .raised fault =>
        ({ notices := Walk.opening node told.pieces, ending := .raised fault }, world)
      | .waiting cancel =>
        ({ notices := Walk.opening node told.pieces, ending := .waiting cancel }, world)

end Plan

structure Report (σ : Type) where
  notices : List Notice
  trace : List Entry
  outcome : Outcome σ Result

def Walk.result (walk : Walk σ) (termination : Termination) (carry : Carry) : Result :=
  ⟨carry.finalOutput, carry.context, walk.trace, termination⟩

def Walk.report (walk : Walk σ) : Report σ :=
  match walk.ending with
  | .done (termination, carry) =>
    let result := walk.result termination carry
    ⟨.started :: walk.notices ++ [.ended result], walk.trace, .done result⟩
  | .raised fault => ⟨.started :: walk.notices, walk.trace, .raised fault⟩
  | .waiting cancel => ⟨.started :: walk.notices, walk.trace, .waiting cancel⟩

def Graph.run (graph : Graph) (services : Services σ) (streaming : Bool)
    (cancelled : Nat → Bool) : σ → Report σ × σ := fun world =>
  let index := Index.ofGraph graph
  let (walk, world) :=
    Plan.walk ⟨index, services, streaming, cancelled⟩ (stepBudget graph.nodes.length) 0
      (Carry.initial graph) index.start world
  (walk.report, world)

end Flowline

import Flowline.Graph.Node

/-!
# The index of a graph

Tables that are made once before a run: nodes by id, targets by source in the order of the edges,
and how many edges lead to an id. Ids of edges that are no nodes are recorded all the same.
-/

namespace Flowline

structure Index where
  nodes : Fields Node
  outgoing : Fields (List String)
  inDegree : Fields Nat
  start : Option Node

namespace Index

def successors (index : Index) (id : String) : List String :=
  (Fields.find? index.outgoing id).getD []

def node? (index : Index) (id : String) : Option Node := Fields.find? index.nodes id

def addTarget (outgoing : Fields (List String)) (edge : Edge) : Fields (List String) :=
  Fields.put outgoing edge.source ((Fields.find? outgoing edge.source).getD [] ++ [edge.target])

def countEdge (inDegree : Fields Nat) (edge : Edge) : Fields Nat :=
  Fields.put inDegree edge.target ((Fields.find? inDegree edge.target).getD 0 + 1)

/-- The first start node, else the first node that no edge leads to, else the first node. -/
def selectStart (nodes : List Node) (inDegree : Fields Nat) : Option Node :=
  (nodes.find? fun node => node.kind == .start).or
    ((nodes.find? fun node => (Fields.find? inDegree node.id).getD 0 == 0).or nodes.head?)

def ofGraph (graph : Graph) : Index :=
  let nodes := graph.nodes.map fun node => (node.id, node)
  let outgoing := graph.edges.foldl addTarget (graph.nodes.map fun node => (node.id, []))
  let inDegree := graph.edges.foldl countEdge (graph.nodes.map fun node => (node.id, 0))
  ⟨nodes, outgoing, inDegree, selectStart graph.nodes inDegree⟩

end Index

end Flowline

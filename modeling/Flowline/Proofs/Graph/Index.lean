import Flowline.Graph.Index
import Flowline.Run.Branch
import Mathlib.Data.List.Basic

/-!
# The index is the graph

What the tables of an index say, read off the submitted lists of nodes and edges: the targets of an
id, how many edges lead to it, the node with an id, where a walk begins and which node follows
another. The lists are searched from the front, so that no table is needed to say it.
-/

namespace Flowline

-- ---------------------------------------------------------------------------
-- Keyed lists
-- ---------------------------------------------------------------------------

theorem Fields.find?_map (key : β → String) (value : β → α) (items : List β) (name : String) :
    Fields.find? (items.map fun item => (key item, value item)) name =
      (items.find? fun item => key item == name).map value := by
  induction items with
  | nil => rfl
  | cons item rest ih =>
    by_cases h : key item = name <;> simp [Fields.find?, h, ih]

theorem Fields.getD_find?_map_const (key : β → String) (value : α) (items : List β)
    (name : String) :
    (Fields.find? (items.map fun item => (key item, value)) name).getD value = value := by
  rw [Fields.find?_map]
  cases items.find? fun item => key item == name <;> rfl

-- ---------------------------------------------------------------------------
-- Graphs as lists
-- ---------------------------------------------------------------------------

namespace Graph

def targets (graph : Graph) (id : String) : List String :=
  (graph.edges.filter (·.source == id)).map Edge.target

def degree (graph : Graph) (id : String) : Nat := graph.edges.countP (·.target == id)

/-- Where a walk begins: at the first start node, else at the first node that no edge leads to,
else at the first node. -/
def entrance? (graph : Graph) : Option Node :=
  (graph.nodes.find? (·.kind == .start)).or <|
    (graph.nodes.find? fun node => !graph.edges.any (·.target == node.id)).or graph.nodes.head?

/-- The node that follows an executed one. A condition whose output means no takes its second edge
if it has one, and all else the first edge. -/
def follower? (graph : Graph) (node : Node) (output : Value) : Option Node :=
  let targets := graph.targets node.id
  let turn := if node.kind = .condition ∧ output.decides = false ∧ 2 ≤ targets.length then 1 else 0
  targets[turn]?.bind graph.node?

variable {graph : Graph} {node : Node} {id : String}

theorem mem_of_node? (h : graph.node? id = some node) : node ∈ graph.nodes :=
  List.mem_of_find?_eq_some h

theorem id_of_node? (h : graph.node? id = some node) : node.id = id := by
  simpa using List.find?_some h

theorem node?_id (h : node ∈ graph.nodes) : graph.node? node.id = some node := by
  have distinct := graph.ids_nodup
  unfold node?
  generalize graph.nodes = nodes at h distinct
  induction nodes with
  | nil => cases h
  | cons first rest ih =>
    rw [List.map_cons, List.nodup_cons] at distinct
    rcases List.mem_cons.mp h with rfl | h
    · simp
    · have other : first.id ≠ node.id := fun same =>
        distinct.1 (same ▸ List.mem_map_of_mem h)
      simp [other, ih h distinct.2]

theorem mem_of_entrance? (h : graph.entrance? = some node) : node ∈ graph.nodes := by
  simp only [entrance?, Option.or_eq_some_iff] at h
  rcases h with h | ⟨-, h | ⟨-, h⟩⟩
  · exact List.mem_of_find?_eq_some h
  · exact List.mem_of_find?_eq_some h
  · exact List.mem_of_head? h

theorem entrance?_eq_none_iff : graph.entrance? = none ↔ graph.nodes = [] := by
  constructor
  · intro h
    simp only [entrance?, Option.or_eq_none_iff, List.head?_eq_none_iff] at h
    exact h.2.2
  · intro h
    simp [entrance?, h]

theorem mem_of_follower? {executed : Node} (h : graph.follower? executed output = some node) :
    node ∈ graph.nodes := by
  obtain ⟨target, -, found⟩ := Option.bind_eq_some_iff.mp h
  exact mem_of_node? found

theorem degree_eq_zero_iff : graph.degree id = 0 ↔ graph.edges.any (·.target == id) = false := by
  simp [degree, List.countP_eq_zero]

end Graph

-- ---------------------------------------------------------------------------
-- The tables
-- ---------------------------------------------------------------------------

namespace Index

theorem find?_foldl_addTarget (edges : List Edge) (outgoing : Fields (List String))
    (id : String) :
    (Fields.find? (edges.foldl addTarget outgoing) id).getD [] =
      (Fields.find? outgoing id).getD [] ++ (edges.filter (·.source == id)).map Edge.target := by
  induction edges generalizing outgoing with
  | nil => simp
  | cons edge rest ih =>
    rw [List.foldl_cons, ih]
    by_cases h : edge.source = id
    · subst h; simp [addTarget]
    · simp [addTarget, h, Ne.symm h]

theorem find?_foldl_countEdge (edges : List Edge) (inDegree : Fields Nat) (id : String) :
    (Fields.find? (edges.foldl countEdge inDegree) id).getD 0 =
      (Fields.find? inDegree id).getD 0 + edges.countP (·.target == id) := by
  induction edges generalizing inDegree with
  | nil => simp
  | cons edge rest ih =>
    rw [List.foldl_cons, ih]
    by_cases h : edge.target = id
    · subst h; simp [countEdge]; omega
    · simp [countEdge, h, Ne.symm h]

variable (graph : Graph)

theorem node?_ofGraph (id : String) : (ofGraph graph).node? id = graph.node? id := by
  simp [node?, ofGraph, Fields.find?_map, Graph.node?]

theorem successors_ofGraph (id : String) : (ofGraph graph).successors id = graph.targets id := by
  simp only [successors, ofGraph, find?_foldl_addTarget, Fields.getD_find?_map_const,
    List.nil_append, Graph.targets]

theorem inDegree_ofGraph (id : String) :
    (Fields.find? (ofGraph graph).inDegree id).getD 0 = graph.degree id := by
  simp only [ofGraph, find?_foldl_countEdge, Fields.getD_find?_map_const, Nat.zero_add,
    Graph.degree]

theorem start_ofGraph : (ofGraph graph).start = graph.entrance? := by
  have lonely (node : Node) : ((Fields.find? (ofGraph graph).inDegree node.id).getD 0 == 0)
      = !graph.edges.any (·.target == node.id) := by
    rw [inDegree_ofGraph, Bool.eq_iff_iff, beq_iff_eq, Graph.degree_eq_zero_iff]
    simp
  show selectStart graph.nodes (ofGraph graph).inDegree = graph.entrance?
  simp only [selectStart, lonely, Graph.entrance?]

theorem chooseTarget_eq_getElem? (kind : Kind) (output : Value) (targets : List String) :
    chooseTarget kind output targets =
      targets[if kind = .condition ∧ output.decides = false ∧ 2 ≤ targets.length then 1 else 0]? := by
  match targets with
  | [] => simp [chooseTarget]
  | [target] => simp [chooseTarget]
  | first :: second :: rest =>
    by_cases h : kind = .condition ∧ output.decides = false
    · simp [chooseTarget, h]
    · have turn : (kind == .condition && !output.decides) = false := by
        simpa [not_and] using h
      rw [if_neg fun all => h ⟨all.1, all.2.1⟩]
      simp only [chooseTarget, turn]
      rfl

theorem next?_ofGraph (node : Node) (output : Value) :
    (ofGraph graph).next? node output = graph.follower? node output := by
  have found : (ofGraph graph).node? = graph.node? := funext (node?_ofGraph graph)
  simp only [next?, successors_ofGraph, chooseTarget_eq_getElem?, found, Graph.follower?]

variable {graph} {node : Node}

theorem mem_of_start (h : (ofGraph graph).start = some node) : node ∈ graph.nodes :=
  Graph.mem_of_entrance? ((start_ofGraph graph).symm.trans h)

theorem mem_of_next? {executed : Node} (h : (ofGraph graph).next? executed output = some node) :
    node ∈ graph.nodes :=
  Graph.mem_of_follower? ((next?_ofGraph graph executed output).symm.trans h)

end Index

end Flowline

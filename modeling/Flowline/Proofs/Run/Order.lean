import Flowline.Proofs.Run.Log
import Flowline.Proofs.Run.Route
import Mathlib.Data.List.Find

/-!
# The order of a submission

A graph is submitted as two lists, but little of their order counts: of the edges only which of
those with one source comes first, and of the nodes only where a walk begins, which a lone start
node decides by itself. All else can be submitted in any order, and the run is the same.
-/

namespace Flowline

/-- The same graph in another order. Edges with one source keep their order; nodes may change theirs
if just one of them is a start node. -/
structure Graph.Reorders (graph other : Graph) : Prop where
  edges : graph.edges.Perm other.edges
  sources : ∀ id,
    graph.edges.filter (·.source == id) = other.edges.filter (·.source == id)
  nodes : graph.nodes = other.nodes ∨
    graph.nodes.Perm other.nodes ∧ ∃ start, graph.nodes.filter (·.kind == .start) = [start]
  initialInput : graph.initialInput = other.initialInput

namespace Graph.Reorders

variable {graph other : Graph} (reorders : graph.Reorders other)
include reorders

-- ---------------------------------------------------------------------------
-- What a walk asks of its graph
-- ---------------------------------------------------------------------------

theorem perm_nodes : graph.nodes.Perm other.nodes := by
  rcases reorders.nodes with same | ⟨perm, -⟩
  · rw [same]
  · exact perm

theorem node?_eq (id : String) : graph.node? id = other.node? id := by
  refine List.find?_eq_find?_of_perm reorders.perm_nodes ?_
  rintro node ⟨here, named⟩ node' ⟨here', named'⟩
  have found := node?_id here
  rw [beq_iff_eq] at named named'
  rw [named, ← named', node?_id here'] at found
  exact (Option.some.inj found).symm

theorem targets_eq (id : String) : graph.targets id = other.targets id :=
  congrArg (List.map Edge.target) (reorders.sources id)

theorem entrance?_eq : graph.entrance? = other.entrance? := by
  have reached (node : Node) : graph.edges.any (·.target == node.id) =
      other.edges.any (·.target == node.id) := reorders.edges.any_eq
  rcases reorders.nodes with same | ⟨perm, start, lone⟩
  · simp only [entrance?, same, reached]
  · have alone : other.nodes.filter (·.kind == .start) = [start] :=
      List.perm_singleton.mp (lone ▸ (perm.filter _).symm)
    simp only [entrance?, ← List.head?_filter, lone, alone, List.head?_cons, Option.some_or]

theorem follower?_eq (node : Node) (output : Value) :
    graph.follower? node output = other.follower? node output := by
  simp only [follower?, reorders.targets_eq, funext reorders.node?_eq]

-- ---------------------------------------------------------------------------
-- Walks
-- ---------------------------------------------------------------------------

variable {services : Services σ} {walk : Walk σ}

theorem course (course : (graph.plan services streaming cancelled).Course budget executed carry
      current world walk after) :
    (other.plan services streaming cancelled).Course budget executed carry current world walk
      after := by
  have next (node : Node) (output : Value) : (Index.ofGraph graph).next? node output =
      (Index.ofGraph other).next? node output := by
    rw [Index.next?_ofGraph, Index.next?_ofGraph, reorders.follower?_eq]
  induction course with
  | deadEnd => exact .deadEnd
  | stepBudget => exact .stepBudget
  | cancelled off => exact .cancelled off
  | raised on did => exact .raised on did
  | waiting on did => exact .waiting on did
  | output on did last => exact .output on did last
  | onward on did more _ ih =>
    simp only [plan, next] at ih
    exact .onward on did more ih

theorem run_eq (services : Services σ) (streaming : Bool) (cancelled : Nat → Bool) :
    graph.run services streaming cancelled = other.run services streaming cancelled := by
  funext world
  obtain ⟨walk, after, ran, course⟩ := graph.course_run services streaming cancelled world
  have same := (reorders.course course).walk_eq
  have opening : Carry.initial graph = Carry.initial other := by
    rw [Carry.initial, Carry.initial, reorders.initialInput]
  rw [reorders.perm_nodes.length_eq, opening, Index.start_ofGraph, reorders.entrance?_eq,
    ← Index.start_ofGraph] at same
  rw [ran, run]
  exact (congrArg (fun told => (told.1.report, told.2)) same).symm

end Graph.Reorders

namespace Graph

/-- Runs of a graph that is submitted in another order: from every world there are the same entries,
the same notices and the same outcome, the world is left as the same, and the same calls are made
in the same order. -/
theorem run_reordered {graph other : Graph} (reorders : graph.Reorders other)
    (services : Services σ) (streaming : Bool) (cancelled : Nat → Bool) :
    graph.run services streaming cancelled = other.run services streaming cancelled ∧
      graph.calls services streaming cancelled = other.calls services streaming cancelled := by
  refine ⟨reorders.run_eq services streaming cancelled, funext fun world => ?_⟩
  rw [calls, calls, reorders.run_eq services.logged]

/-- The ring with its start node first. Of the edges that leave the other node, the one that leads
back stays before the one to itself. -/
def spunRing : Graph where
  nodes := [⟨"a", "", [], .start⟩, ⟨"b", "", [], .custom "wait" []⟩]
  edges := [⟨"b", "a"⟩, ⟨"b", "b"⟩, ⟨"a", "b"⟩]

theorem reorders_spunRing : ring.Reorders spunRing where
  edges := by decide
  sources id := by
    by_cases first : "a" = id
    · subst first
      decide
    · by_cases second : "b" = id
      · subst second
        decide
      · simp [ring, spunRing, first, second]
  nodes := .inr ⟨.swap .., _, rfl⟩
  initialInput := rfl

theorem run_reordered_spunRing :
    ring.run Services.idle false (fun _ => false) =
        spunRing.run Services.idle false (fun _ => false) ∧
      ring.calls Services.idle false (fun _ => false) =
        spunRing.calls Services.idle false (fun _ => false) ∧
      (spunRing.run Services.idle false (fun _ => false) ()).1.trace.map Entry.nodeId =
        ["a", "b", "a", "b"] := by
  obtain ⟨runs, calls⟩ := run_reordered reorders_spunRing Services.idle false fun _ => false
  exact ⟨runs, calls, rfl⟩

end Graph

end Flowline

import Flowline.Proofs.Graph.Index
import Flowline.Proofs.Run.Course
import Mathlib.Data.List.Chain

/-!
# Routes

Which nodes a run executes and why it ends, said on the submitted lists of nodes and edges. Each
entry of a trace leads to the next one, the first one is for the node where walks begin, and the
last one decides how the run ends.

What the executed nodes produce is not said here: it comes from outside, and steers the route only
where a condition has two edges.
-/

namespace Flowline

namespace Graph

def Tells (graph : Graph) (entry : Entry) (node : Node) : Prop :=
  graph.node? entry.nodeId = some node ∧ entry.kind = node.kindName

def IsLast (graph : Graph) (entry : Entry) : Prop :=
  ∃ node, graph.Tells entry node ∧ node.kind = .output

def after? (graph : Graph) (entry : Entry) : Option Node :=
  (graph.node? entry.nodeId).bind (graph.follower? · entry.output)

/-- The entries that a walk from a node on leaves, with its budget and why it ends. -/
inductive Route (graph : Graph) : (budget : Nat) → Option Node → List Entry → Termination → Prop
  | deadEnd : Route graph budget none [] .deadEnd
  | stepBudget : Route graph 0 (some node) [] .stepBudget
  | cancelled : Route graph (budget + 1) (some node) [] .cancelled
  | output (tells : graph.Tells entry node) (last : node.kind = .output) :
      Route graph (budget + 1) (some node) [entry] .output
  | onward (tells : graph.Tells entry node) (more : node.kind ≠ .output)
      (rest : Route graph budget (graph.follower? node entry.output) tail termination) :
      Route graph (budget + 1) (some node) (entry :: tail) termination

def due? (graph : Graph) (current : Option Node) (trace : List Entry) : Option Node :=
  trace.getLast?.elim current graph.after?

variable {graph : Graph} {entry : Entry} {node : Node}

theorem Tells.mem (tells : graph.Tells entry node) : node ∈ graph.nodes := mem_of_node? tells.1

theorem Tells.id_eq (tells : graph.Tells entry node) : entry.nodeId = node.id :=
  (id_of_node? tells.1).symm

theorem Tells.after?_eq (tells : graph.Tells entry node) :
    graph.after? entry = graph.follower? node entry.output := by
  simp [after?, tells.1]

theorem Tells.isLast_iff (tells : graph.Tells entry node) :
    graph.IsLast entry ↔ node.kind = .output := by
  constructor
  · rintro ⟨other, told, last⟩
    have same : other = node := Option.some.inj (told.1.symm.trans tells.1)
    rwa [← same]
  · exact fun last => ⟨node, tells, last⟩

theorem tells_entry (carry : Carry) (output : Value) (h : node ∈ graph.nodes) :
    graph.Tells (carry.entry node output) node :=
  ⟨node?_id h, rfl⟩

theorem due?_cons (current : Option Node) (tail : List Entry) :
    graph.due? current (entry :: tail) = graph.due? (graph.after? entry) tail := by
  simp only [due?, List.getLast?_cons, Option.elim_some]
  cases tail.getLast? <;> rfl

-- ---------------------------------------------------------------------------
-- Walks have routes
-- ---------------------------------------------------------------------------

theorem route_of_course {plan : Plan σ} (indexed : plan.index = Index.ofGraph graph)
    (course : plan.Course budget executed carry current world walk after)
    (inside : ∀ node, current = some node → node ∈ graph.nodes)
    (done : walk.ending = .done (termination, final)) :
    graph.Route budget current walk.trace termination := by
  induction course with
  | deadEnd => cases done; exact .deadEnd
  | stepBudget => cases done; exact .stepBudget
  | cancelled => cases done; exact .cancelled
  | raised => cases done
  | waiting => cases done
  | output _ _ last =>
    cases done
    exact .output (tells_entry _ _ (inside _ rfl)) last
  | onward _ _ more _ ih =>
    rw [indexed, Index.next?_ofGraph] at ih
    exact .onward (tells_entry _ _ (inside _ rfl)) more (ih (fun _ => mem_of_follower?) done)

theorem route_run {services : Services σ}
    (returned : (graph.run services streaming cancelled world).1.outcome = .done result) :
    graph.Route (stepBudget graph.nodes.length) graph.entrance? result.trace
      result.termination := by
  obtain ⟨walk, after, final, course, done, told⟩ := course_of_done returned
  rw [Index.start_ofGraph] at course
  rw [← told]
  exact route_of_course rfl course (fun _ => mem_of_entrance?) done

-- ---------------------------------------------------------------------------
-- What a route says
-- ---------------------------------------------------------------------------

/-- A list of entries that leads from each node to the next over the edges of the graph. -/
structure Follows (graph : Graph) (trace : List Entry) : Prop where
  told : ∀ entry ∈ trace, ∃ node, graph.Tells entry node
  linked : trace.IsChain fun entry next =>
    (graph.after? entry).map Node.id = some next.nodeId
  going : ∀ entry ∈ trace.dropLast, ¬ graph.IsLast entry

theorem Route.head? (route : graph.Route budget current (entry :: trace) termination) :
    ∃ node, current = some node ∧ graph.Tells entry node := by
  cases route with
  | output tells => exact ⟨_, rfl, tells⟩
  | onward tells => exact ⟨_, rfl, tells⟩

theorem Route.length_le (route : graph.Route budget current trace termination) :
    trace.length ≤ budget := by
  induction route with
  | onward _ _ _ ih => simpa using ih
  | _ => simp

theorem Route.follows (route : graph.Route budget current trace termination) :
    graph.Follows trace := by
  induction route with
  | deadEnd | stepBudget | cancelled => exact ⟨by simp, by simp, by simp⟩
  | output tells => exact ⟨by simpa using ⟨_, tells⟩, by simp, by simp⟩
  | @onward entry node budget tail termination tells more rest ih =>
    refine ⟨?_, ?_, ?_⟩
    · simpa using ⟨⟨node, tells⟩, ih.told⟩
    · cases tail with
      | nil => simp
      | cons next tail =>
        obtain ⟨following, found, told⟩ := rest.head?
        refine List.isChain_cons_cons.mpr ⟨?_, ih.linked⟩
        rw [tells.after?_eq, found, told.id_eq]
        rfl
    · cases tail with
      | nil => simp
      | cons next tail =>
        intro other h
        rcases List.mem_cons.mp h with rfl | h
        · exact fun last => more (tells.isLast_iff.mp last)
        · exact ih.going other h

theorem Follows.eq_nil (follows : graph.Follows trace) (empty : graph.nodes = []) :
    trace = [] := by
  refine List.eq_nil_iff_forall_not_mem.mpr fun entry h => ?_
  obtain ⟨node, tells⟩ := follows.told entry h
  have mem := tells.mem
  simp [empty] at mem

theorem Follows.not_isLast (follows : graph.Follows trace)
    (found : trace.getLast? = some entry) (going : ¬ graph.IsLast entry) :
    ∀ entry ∈ trace, ¬ graph.IsLast entry := by
  intro other h
  obtain ⟨front, rfl⟩ := List.getLast?_eq_some_iff.mp found
  rcases List.mem_append.mp h with h | h
  · exact follows.going other (by simpa using h)
  · rwa [List.mem_singleton.mp h]

theorem Follows.nowhere_iff (follows : graph.Follows trace) :
    (∀ entry ∈ trace, ¬ graph.IsLast entry) ∧ graph.due? graph.entrance? trace = none ↔
      graph.nodes = [] ∨ ∃ entry, trace.getLast? = some entry ∧ ¬ graph.IsLast entry ∧
        graph.after? entry = none := by
  constructor
  · rintro ⟨going, nowhere⟩
    cases found : trace.getLast? with
    | none =>
      left
      simpa [due?, found, entrance?_eq_none_iff] using nowhere
    | some entry =>
      right
      refine ⟨entry, rfl, going entry (List.mem_of_getLast? found), ?_⟩
      simpa [due?, found] using nowhere
  · rintro (empty | ⟨entry, found, going, nowhere⟩)
    · rw [follows.eq_nil empty]
      exact ⟨by simp, entrance?_eq_none_iff.mpr empty⟩
    · exact ⟨follows.not_isLast found going, by simpa [due?, found] using nowhere⟩

theorem Follows.further_iff (follows : graph.Follows trace) (ran : trace ≠ []) :
    (∀ entry ∈ trace, ¬ graph.IsLast entry) ∧ (graph.due? current trace).isSome ↔
      ∃ entry, trace.getLast? = some entry ∧ ¬ graph.IsLast entry ∧
        (graph.after? entry).isSome := by
  constructor
  · rintro ⟨going, next⟩
    have found := List.getLast?_eq_some_getLast ran
    refine ⟨_, found, going _ (List.getLast_mem ran), ?_⟩
    simpa [due?, found] using next
  · rintro ⟨entry, found, going, next⟩
    exact ⟨follows.not_isLast found going, by simpa [due?, found] using next⟩

/-- How a route ends is seen at its last entry, and without an entry at the node it begins with. -/
theorem Route.ending (route : graph.Route budget current trace termination) :
    match termination with
    | .output => ∃ entry, trace.getLast? = some entry ∧ graph.IsLast entry
    | .deadEnd => (∀ entry ∈ trace, ¬ graph.IsLast entry) ∧ graph.due? current trace = none
    | .stepBudget => (∀ entry ∈ trace, ¬ graph.IsLast entry) ∧
        (graph.due? current trace).isSome ∧ trace.length = budget
    | .cancelled => (∀ entry ∈ trace, ¬ graph.IsLast entry) ∧
        (graph.due? current trace).isSome ∧ trace.length < budget := by
  induction route with
  | deadEnd => simp [due?]
  | stepBudget => simp [due?]
  | cancelled => simp [due?]
  | output tells last => exact ⟨_, rfl, tells.isLast_iff.mpr last⟩
  | @onward entry node budget tail termination tells more rest ih =>
    have going : ¬ graph.IsLast entry := fun last => more (tells.isLast_iff.mp last)
    cases termination with
    | output =>
      obtain ⟨last, found, isLast⟩ := ih
      exact ⟨last, by simp [List.getLast?_cons, found], isLast⟩
    | deadEnd =>
      rw [due?_cons, tells.after?_eq]
      exact ⟨by simpa using ⟨going, ih.1⟩, ih.2⟩
    | stepBudget =>
      rw [due?_cons, tells.after?_eq]
      exact ⟨by simpa using ⟨going, ih.1⟩, ih.2.1, by simpa using ih.2.2⟩
    | cancelled =>
      rw [due?_cons, tells.after?_eq]
      exact ⟨by simpa using ⟨going, ih.1⟩, ih.2.1, by simpa using ih.2.2⟩

theorem Route.output_iff (route : graph.Route budget current trace termination) :
    termination = .output ↔ ∃ entry, trace.getLast? = some entry ∧ graph.IsLast entry := by
  have ending := route.ending
  constructor
  · rintro rfl
    exact ending
  · rintro ⟨entry, found, isLast⟩
    have mem : entry ∈ trace := List.mem_of_getLast? found
    cases termination with
    | output => rfl
    | deadEnd | stepBudget | cancelled => exact absurd isLast (ending.1 entry mem)

theorem Route.deadEnd_iff (route : graph.Route budget current trace termination) :
    termination = .deadEnd ↔
      (∀ entry ∈ trace, ¬ graph.IsLast entry) ∧ graph.due? current trace = none := by
  have ending := route.ending
  constructor
  · rintro rfl
    exact ending
  · rintro ⟨going, nowhere⟩
    cases termination with
    | output =>
      obtain ⟨entry, found, isLast⟩ := ending
      exact absurd isLast (going entry (List.mem_of_getLast? found))
    | deadEnd => rfl
    | stepBudget | cancelled => simp [nowhere] at ending

theorem Route.stepBudget_iff (route : graph.Route budget current trace termination) :
    termination = .stepBudget ↔ (∀ entry ∈ trace, ¬ graph.IsLast entry) ∧
      (graph.due? current trace).isSome ∧ trace.length = budget := by
  have ending := route.ending
  constructor
  · rintro rfl
    exact ending
  · rintro ⟨going, next, full⟩
    cases termination with
    | output =>
      obtain ⟨entry, found, isLast⟩ := ending
      exact absurd isLast (going entry (List.mem_of_getLast? found))
    | deadEnd => simp [ending.2] at next
    | stepBudget => rfl
    | cancelled => exact absurd full ending.2.2.ne

theorem Route.begins (route : graph.Route (budget + 1) current trace termination)
    (finished : termination ≠ .cancelled) :
    trace.head?.map Entry.nodeId = current.map Node.id := by
  cases route with
  | deadEnd => rfl
  | cancelled => exact absurd rfl finished
  | output tells => simp [tells.id_eq]
  | onward tells => simp [tells.id_eq]

end Graph

namespace Plan

theorem Course.off_of_cancelled {plan : Plan σ} {walk : Walk σ}
    (course : plan.Course budget executed carry current world walk after)
    (done : walk.ending = .done (.cancelled, final)) :
    plan.cancelled (executed + walk.trace.length) = true := by
  induction course with
  | deadEnd | stepBudget => cases done
  | cancelled off => exact off
  | raised | waiting => cases done
  | output => cases done
  | onward _ _ _ _ ih =>
    have called := ih done
    rw [Nat.add_assoc, Nat.add_comm 1] at called
    exact called

end Plan

/-- Every run that returns goes along the edges of the graph, from the node where walks begin to
one of its ends. It is called off only where it is asked to be. -/
theorem Graph.run_takes_route (graph : Graph) (services : Services σ) (streaming : Bool)
    (cancelled : Nat → Bool) (world : σ) (result : Result)
    (returned : (graph.run services streaming cancelled world).1.outcome = .done result) :
    graph.Follows result.trace ∧
      result.trace.length ≤ max 1 (2 * graph.nodes.length) ∧
      (result.termination ≠ .cancelled →
        result.trace.head?.map Entry.nodeId = graph.entrance?.map Node.id) ∧
      (result.termination = .output ↔
        ∃ entry, result.trace.getLast? = some entry ∧ graph.IsLast entry) ∧
      (result.termination = .deadEnd ↔ graph.nodes = [] ∨
        ∃ entry, result.trace.getLast? = some entry ∧ ¬ graph.IsLast entry ∧
          graph.after? entry = none) ∧
      (result.termination = .stepBudget ↔
        result.trace.length = max 1 (2 * graph.nodes.length) ∧
        ∃ entry, result.trace.getLast? = some entry ∧ ¬ graph.IsLast entry ∧
          (graph.after? entry).isSome) ∧
      (result.termination = .cancelled → cancelled result.trace.length = true) := by
  have route := route_run returned
  have follows := route.follows
  have atLeast : 1 ≤ stepBudget graph.nodes.length := Nat.le_max_left ..
  refine ⟨follows, route.length_le, ?_, route.output_iff,
    route.deadEnd_iff.trans follows.nowhere_iff, ?_, ?_⟩
  · rw [← Nat.sub_add_cancel atLeast] at route
    exact route.begins
  · rw [route.stepBudget_iff]
    constructor
    · rintro ⟨going, next, full⟩
      have ran : result.trace ≠ [] := List.ne_nil_of_length_pos (by omega)
      exact ⟨full, (follows.further_iff ran).mp ⟨going, next⟩⟩
    · rintro ⟨full, further⟩
      have ran : result.trace ≠ [] := List.ne_nil_of_length_pos (by omega)
      obtain ⟨going, next⟩ := (follows.further_iff ran).mpr further
      exact ⟨going, next, full⟩
  · intro called
    obtain ⟨walk, after, final, course, done, told⟩ := course_of_done returned
    rw [called] at done
    have asked := course.off_of_cancelled done
    rw [Nat.zero_add] at asked
    rw [← told]
    exact asked

/-- Two nodes that lead to each other. The second one submitted is the start node, and an edge of
the first to itself comes too late to be taken. -/
def Graph.ring : Graph where
  nodes := [⟨"b", "", [], .custom "wait" []⟩, ⟨"a", "", [], .start⟩]
  edges := [⟨"a", "b"⟩, ⟨"b", "a"⟩, ⟨"b", "b"⟩]

/-- The ring is walked twice. -/
theorem Graph.run_takes_route_ring :
    ∃ result, (ring.run Services.idle false (fun _ => false) ()).1.outcome = .done result ∧
      ring.Follows result.trace ∧
      result.trace.map Entry.nodeId = ["a", "b", "a", "b"] ∧
      result.termination = .stepBudget ∧
      ∃ entry, result.trace.getLast? = some entry ∧ (ring.after? entry).isSome := by
  obtain ⟨follows, -, -, -, -, full, -⟩ :=
    run_takes_route ring Services.idle false (fun _ => false) () _ rfl
  obtain ⟨-, entry, found, -, next⟩ := full.mp rfl
  exact ⟨_, rfl, follows, rfl, rfl, entry, found, next⟩

end Flowline

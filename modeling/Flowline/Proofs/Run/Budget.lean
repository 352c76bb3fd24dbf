import Flowline.Proofs.Run.Input
import Mathlib.Data.List.Nodup
import Mathlib.Data.List.Perm.Subperm
import Mathlib.Logic.Relation

/-!
# Budgets and cycles

A run goes from node to node along edges, so that it comes to a node again only where the edges form
a cycle. Without one it executes each node once at most and never uses its budget up. With cycles
the budget is the bound: twice as many nodes as there are, of which some must have run before.
-/

namespace Flowline

-- ---------------------------------------------------------------------------
-- Chains without cycles
-- ---------------------------------------------------------------------------

theorem nodup_of_isChain {R : α → α → Prop} {items : List α} (chain : items.IsChain R)
    (acyclic : ∀ a, ¬ Relation.TransGen R a a) : items.Nodup := by
  have further : items.IsChain (Relation.TransGen R) := chain.imp fun _ _ => .single
  refine (List.isChain_iff_pairwise.mp further).imp ?_
  rintro a _ leads rfl
  exact acyclic a leads

-- ---------------------------------------------------------------------------
-- Edges between nodes
-- ---------------------------------------------------------------------------

namespace Graph

def ids (graph : Graph) : List String := graph.nodes.map Node.id

structure Joins (graph : Graph) (source target : String) : Prop where
  edge : ⟨source, target⟩ ∈ graph.edges
  source : source ∈ graph.ids
  target : target ∈ graph.ids

def IsAcyclic (graph : Graph) : Prop := ∀ id, ¬ Relation.TransGen graph.Joins id id

variable {graph : Graph} {node next : Node}

theorem isAcyclic_of_rank (rank : String → Nat)
    (up : ∀ edge ∈ graph.edges, rank edge.source < rank edge.target) : graph.IsAcyclic := by
  intro id cycle
  have climbs : Relation.TransGen (· < ·) (rank id) (rank id) :=
    Relation.TransGen.lift rank (fun _ _ joins => up _ (Joins.edge joins)) _ _ cycle
  rw [Relation.transGen_eq_self] at climbs
  exact Nat.lt_irrefl _ climbs

theorem mem_ids (h : node ∈ graph.nodes) : node.id ∈ graph.ids := List.mem_map_of_mem h

theorem mem_targets_iff {source target : String} :
    target ∈ graph.targets source ↔ ⟨source, target⟩ ∈ graph.edges := by
  simp only [targets, List.mem_map, List.mem_filter, beq_iff_eq]
  constructor
  · rintro ⟨⟨source, target⟩, ⟨edge, rfl⟩, rfl⟩
    exact edge
  · exact fun edge => ⟨_, ⟨edge, rfl⟩, rfl⟩

theorem joins_of_follower? (h : node ∈ graph.nodes)
    (follows : graph.follower? node output = some next) : graph.Joins node.id next.id := by
  obtain ⟨target, taken, found⟩ := Option.bind_eq_some_iff.mp follows
  rw [id_of_node? found]
  refine ⟨mem_targets_iff.mp (List.mem_of_getElem? taken), mem_ids h, ?_⟩
  rw [← id_of_node? found]
  exact mem_ids (mem_of_node? found)

theorem length_le_of_nodup {ids : List String} (inside : ∀ id ∈ ids, id ∈ graph.ids)
    (distinct : ids.Nodup) : ids.length ≤ graph.nodes.length := by
  have fewer := (List.subperm_of_subset distinct inside).length_le
  rwa [Graph.ids, List.length_map] at fewer

end Graph

-- ---------------------------------------------------------------------------
-- What is executed
-- ---------------------------------------------------------------------------

def Notice.entered? : Notice → Option String
  | .entered nodeId => some nodeId
  | _ => none

/-- The ids of the nodes that a run executes, in order, also of one that breaks it off: a run tells
of each node before it executes it. -/
def Report.executed (report : Report σ) : List String := report.notices.filterMap Notice.entered?

theorem Visit.filterMap_notices {services : Services σ} (visit : Visit services streaming) :
    visit.notices.filterMap Notice.entered? = [visit.node.id] := by
  have silent (pieces : List String) :
      (pieces.map (Notice.delta visit.node.id)).filterMap Notice.entered? = [] := by
    simp [Notice.entered?]
  have left : (visit.entry?.map Notice.left).toList.filterMap Notice.entered? = [] := by
    cases visit.entry? <;> rfl
  rw [notices, Walk.opening, List.filterMap_append, left, List.append_nil, List.filterMap_cons]
  simp only [Notice.entered?, silent]

theorem Walk.trace_of_done {walk : Walk σ} {told : Result}
    (returned : walk.report.outcome = .done told) : told.trace = walk.report.trace := by
  obtain ⟨notices, trace, ending⟩ := walk
  cases ending <;> cases returned
  rfl

theorem Visit.ids_of_entries {services : Services σ} {visits : List (Visit services streaming)}
    {trace : List Entry} (entries : visits.map entry? = trace.map some) :
    trace.map Entry.nodeId = visits.map (·.node.id) := by
  induction trace generalizing visits with
  | nil =>
    rw [List.map_eq_nil_iff.mp entries]
    rfl
  | cons entry rest ih =>
    cases visits with
    | nil => cases entries
    | cons visit visits =>
      obtain ⟨left, further⟩ := List.cons.inj entries
      obtain ⟨output, -, rfl⟩ := entry?_eq_some_iff.mp left
      exact congrArg (_ :: ·) (ih further)

namespace Plan

variable {plan : Plan σ} {walk : Walk σ}

theorem Course.length_visits_le
    (course : plan.Course budget executed carry current world walk after) :
    (plan.visits budget executed carry current world).length ≤ budget := by
  induction course with
  | deadEnd => simp [visits]
  | stepBudget => simp [visits]
  | cancelled off => simp [visits, off]
  | raised on did | waiting on did => simp [visits_of_broken on did rfl]
  | output on did last => simp [visits_of_done on did, last]
  | onward on did more _ ih =>
    rw [visits_of_done on did, if_neg (by simpa using more)]
    exact Nat.succ_le_succ ih

theorem Course.mem_of_mem_visits {graph : Graph} (indexed : plan.index = Index.ofGraph graph)
    (course : plan.Course budget executed carry current world walk after)
    (inside : ∀ node, current = some node → node ∈ graph.nodes) :
    ∀ visit ∈ plan.visits budget executed carry current world, visit.node ∈ graph.nodes := by
  induction course with
  | deadEnd => simp [visits]
  | stepBudget => simp [visits]
  | cancelled off => simp [visits, off]
  | raised on did | waiting on did => simpa [visits_of_broken on did rfl] using inside
  | output on did last => simpa [visits_of_done on did, last] using inside
  | onward on did more _ ih =>
    rw [indexed] at ih
    rw [visits_of_done on did, if_neg (by simpa using more), indexed]
    exact List.forall_mem_cons.mpr ⟨inside _ rfl, ih fun _ => Index.mem_of_next?⟩

end Plan

namespace Graph

variable (graph : Graph) (services : Services σ) (streaming : Bool) (cancelled : Nat → Bool)
  (world : σ)

theorem executed_run :
    (graph.run services streaming cancelled world).1.executed =
      (graph.visits services streaming cancelled world).map (·.node.id) := by
  have visited : ((graph.visits services streaming cancelled world).flatMap
      Visit.notices).filterMap Notice.entered? =
        (graph.visits services streaming cancelled world).map (·.node.id) := by
    rw [List.filterMap_flatMap, funext Visit.filterMap_notices, List.map_eq_flatMap]
  rw [Report.executed, graph.notices_visits, List.filterMap_append, List.filterMap_cons]
  simp only [Notice.entered?, visited]
  cases (graph.run services streaming cancelled world).1.outcome <;>
    simp [Notice.entered?]

theorem mem_of_mem_visits :
    ∀ visit ∈ graph.visits services streaming cancelled world, visit.node ∈ graph.nodes := by
  have course := (graph.plan services streaming cancelled).course_walk
    (stepBudget graph.nodes.length) 0 (Carry.initial graph) (Index.ofGraph graph).start world
  exact course.mem_of_mem_visits rfl fun _ => Index.mem_of_start

theorem mem_ids_of_executed :
    ∀ id ∈ (graph.run services streaming cancelled world).1.executed, id ∈ graph.ids := by
  rw [executed_run, List.forall_mem_map]
  exact fun visit h => mem_ids (graph.mem_of_mem_visits services streaming cancelled world visit h)

theorem isChain_executed :
    (graph.run services streaming cancelled world).1.executed.IsChain graph.Joins := by
  rw [executed_run, List.isChain_map]
  refine (graph.isChain_visits services streaming cancelled world).imp_of_mem_imp ?_
  rintro visit next here - ⟨output, leads⟩
  exact joins_of_follower? (graph.mem_of_mem_visits services streaming cancelled world visit here)
    (follower?_of_leads leads)

theorem map_trace_prefix_executed :
    let report := (graph.run services streaming cancelled world).1
    report.trace.map Entry.nodeId <+: report.executed := by
  intro report
  rw [executed_run]
  rcases graph.entries_visits services streaming cancelled world with
    ⟨-, entries⟩ | ⟨front, visit, split, entries, -⟩
  · exact Visit.ids_of_entries entries ▸ List.prefix_rfl
  · rw [Visit.ids_of_entries entries, split, List.map_append]
    exact List.prefix_append _ _

variable {graph services streaming cancelled world}

theorem length_of_stepBudget
    (returned : (graph.run services streaming cancelled world).1.outcome = .done result)
    (full : result.termination = .stepBudget) :
    1 ≤ graph.nodes.length ∧ result.trace.length = 2 * graph.nodes.length := by
  have route := route_run returned
  have length := (route.stepBudget_iff.mp full).2.2
  cases none : graph.nodes with
  | nil =>
    rw [route.follows.eq_nil none, none] at length
    cases length
  | cons first rest =>
    rw [none, stepBudget, List.length_cons] at length
    rw [List.length_cons]
    omega

theorem length_executed_le :
    (graph.run services streaming cancelled world).1.executed.length ≤
      2 * graph.nodes.length := by
  have course := (graph.plan services streaming cancelled).course_walk
    (stepBudget graph.nodes.length) 0 (Carry.initial graph) (Index.ofGraph graph).start world
  have within : (graph.visits services streaming cancelled world).length ≤
    stepBudget graph.nodes.length := course.length_visits_le
  rw [executed_run, List.length_map]
  cases visited : graph.visits services streaming cancelled world with
  | nil => exact Nat.zero_le _
  | cons first rest =>
    -- the budget is more than twice the nodes only where there is none to be visited
    have inside := graph.mem_of_mem_visits services streaming cancelled world first
      (visited ▸ List.mem_cons_self)
    have some := List.length_pos_of_mem inside
    rw [visited, stepBudget] at within
    omega

/-- Every run, also one that breaks off, keeps to twice as many nodes as there are. One that uses
its budget up has executed just as many, and so some of them before. Without cycles no node is
executed again, and the budget is never used up. -/
theorem run_within_budget (graph : Graph) (services : Services σ) (streaming : Bool)
    (cancelled : Nat → Bool) (world : σ) :
    let report := (graph.run services streaming cancelled world).1
    report.trace.map Entry.nodeId <+: report.executed ∧
    report.executed.length ≤ 2 * graph.nodes.length ∧
    (∀ result, report.outcome = .done result → result.termination = .stepBudget →
      1 ≤ graph.nodes.length ∧ result.trace.length = 2 * graph.nodes.length ∧
      ∃ id, 2 ≤ (result.trace.map Entry.nodeId).count id) ∧
    (graph.IsAcyclic → report.executed.Nodup ∧ report.trace.length ≤ graph.nodes.length ∧
      ∀ result, report.outcome = .done result → result.termination ≠ .stepBudget) := by
  intro report
  have inside : ∀ id ∈ report.executed, id ∈ graph.ids :=
    graph.mem_ids_of_executed services streaming cancelled world
  have front : report.trace.map Entry.nodeId <+: report.executed :=
    graph.map_trace_prefix_executed services streaming cancelled world
  have few (distinct : (report.trace.map Entry.nodeId).Nodup) :
      report.trace.length ≤ graph.nodes.length := by
    have le := length_le_of_nodup (fun id h => inside id (front.subset h)) distinct
    rwa [List.length_map] at le
  refine ⟨front, length_executed_le .., fun result returned full => ?_, fun acyclic => ?_⟩
  · obtain ⟨some, length⟩ := length_of_stepBudget returned full
    refine ⟨some, length, ?_⟩
    by_contra never
    have distinct : (result.trace.map Entry.nodeId).Nodup :=
      List.nodup_iff_count_le_one.mpr fun id => Nat.le_of_not_lt fun twice => never ⟨id, twice⟩
    have told : result.trace = report.trace := Walk.trace_of_done returned
    have le := few (told ▸ distinct)
    rw [told] at length
    omega
  · have distinct := nodup_of_isChain
      (graph.isChain_executed services streaming cancelled world) acyclic
    have le := few (distinct.sublist front.sublist)
    refine ⟨distinct, le, fun result returned full => ?_⟩
    obtain ⟨some, length⟩ := length_of_stepBudget returned full
    have told : result.trace = report.trace := Walk.trace_of_done returned
    rw [told] at length
    omega

def fork : Graph where
  nodes := [⟨"a", "", [], .start⟩, ⟨"b", "", [], .condition "1 = 2"⟩, ⟨"c", "", [], .output⟩,
    ⟨"d", "", [], .custom "wait" []⟩]
  edges := [⟨"a", "b"⟩, ⟨"b", "c"⟩, ⟨"b", "d"⟩]

theorem isAcyclic_fork : fork.IsAcyclic :=
  isAcyclic_of_rank (fun id => ["a", "b", "c", "d"].idxOf id) (by decide)

/-- The fork, without a cycle, is walked with no node twice; the ring comes to a node again. -/
theorem run_within_budget_fork :
    let report := (fork.run Services.idle false (fun _ => false) ()).1
    report.executed = ["a", "b", "d"] ∧ report.executed.Nodup ∧ report.trace.length ≤ 4 ∧
    ∃ result, (ring.run Services.idle false (fun _ => false) ()).1.outcome = .done result ∧
      result.termination = .stepBudget ∧ result.trace.length = 4 ∧
      ∃ id, 2 ≤ (result.trace.map Entry.nodeId).count id := by
  intro report
  obtain ⟨-, -, -, acyclic⟩ := run_within_budget fork Services.idle false (fun _ => false) ()
  obtain ⟨distinct, few, -⟩ := acyclic isAcyclic_fork
  obtain ⟨-, -, full, -⟩ := run_within_budget ring Services.idle false (fun _ => false) ()
  obtain ⟨-, length, again⟩ := full _ rfl rfl
  exact ⟨by decide +kernel, distinct, few, _, rfl, rfl, length, again⟩

end Graph

end Flowline

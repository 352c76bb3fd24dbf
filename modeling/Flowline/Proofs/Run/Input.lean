import Flowline.Proofs.Run.Route
import Flowline.Proofs.Run.Visit

/-!
# What nodes find

The input of each executed node is what the node before it has put out, and at first the initial
input. A start node is an exception, and so is null: the input then stays what it was. This holds as
far as a run comes, also for the node that breaks it off.
-/

namespace Flowline

def Graph.opening (graph : Graph) : Value :=
  (graph.initialInput.filter (!·.isEmpty)).elim .null .text

def Graph.IsStart (graph : Graph) (entry : Entry) : Prop :=
  ∃ node, graph.Tells entry node ∧ node.kind = .start

/-- What the next node finds behind an entry; `start` says that it is a start node. -/
structure Entry.Hands (entry : Entry) (start : Prop) (input : Value) : Prop where
  output : ¬ start → entry.output ≠ .null → input = entry.output
  input : start ∨ entry.output = .null → input = entry.input

theorem Value.isNull_iff {v : Value} : v.isNull = true ↔ v = .null := by
  cases v <;> simp [isNull]

theorem Carry.input_enter_of_stays {carry : Carry} {node : Node}
    (stays : node.kind = .start ∨ carry.last = .null) :
    (carry.enter node).context.input = carry.context.input := by
  simp [enter, Value.isNull_iff, stays]

theorem Carry.input_enter_of_moves {carry : Carry} {node : Node} (other : node.kind ≠ .start)
    (given : carry.last ≠ .null) : (carry.enter node).context.input = carry.last := by
  simp [enter, Value.isNull_iff, other, given]

theorem Carry.initial_eq (graph : Graph) :
    Carry.initial graph = ⟨{ input := graph.opening }, graph.opening⟩ := by
  unfold Carry.initial Graph.opening
  cases graph.initialInput with
  | none => rfl
  | some text => cases empty : text.isEmpty <;> simp [empty, Option.filter]

namespace Graph

variable {graph : Graph} {entry : Entry} {node : Node}

theorem Tells.isStart_iff (tells : graph.Tells entry node) :
    graph.IsStart entry ↔ node.kind = .start := by
  constructor
  · rintro ⟨other, told, start⟩
    have same : other = node := Option.some.inj (told.1.symm.trans tells.1)
    rwa [← same]
  · exact fun start => ⟨node, tells, start⟩

variable {services : Services σ} {plan : Plan σ}

theorem input_of_head? {visit : Visit services streaming}
    (first : (graph.visits services streaming cancelled world).head? = some visit) :
    visit.carry.context.input = graph.opening := by
  obtain ⟨-, carried, -⟩ := Plan.of_head?_visits first
  rw [carried, Carry.initial_eq]
  by_cases stays : visit.node.kind = .start ∨ graph.opening = .null
  · exact Carry.input_enter_of_stays stays
  · exact Carry.input_enter_of_moves (not_or.mp stays).1 (not_or.mp stays).2

end Graph

theorem Plan.Leads.hands {plan : Plan σ} {visit next : Visit plan.services plan.streaming}
    (leads : plan.Leads visit output next) (left : visit.entry? = some entry) :
    entry.Hands (next.node.kind = .start) next.carry.context.input := by
  obtain ⟨told, done, rfl⟩ := Visit.entry?_eq_some_iff.mp left
  obtain rfl : output = told := Outcome.done.inj (leads.done.symm.trans done)
  rw [leads.carry]
  constructor
  · exact fun other given => Carry.input_enter_of_moves other given
  · exact fun stays => Carry.input_enter_of_stays stays

namespace Graph

variable {graph : Graph} {services : Services σ}

theorem follower?_of_leads {visit next : Visit services streaming}
    (leads : (graph.plan services streaming cancelled).Leads visit output next) :
    graph.follower? visit.node output = some next.node :=
  (Index.next?_ofGraph graph visit.node output).symm.trans leads.node

theorem mem_of_leads {visit next : Visit services streaming}
    (leads : (graph.plan services streaming cancelled).Leads visit output next) :
    next.node ∈ graph.nodes :=
  mem_of_follower? (follower?_of_leads leads)

theorem isChain_entries {front : List (Visit services streaming)} {trace : List Entry}
    (chain : front.IsChain fun visit next =>
      ∃ output, (graph.plan services streaming cancelled).Leads visit output next)
    (entries : front.map Visit.entry? = trace.map some) :
    trace.IsChain fun entry next => entry.Hands (graph.IsStart next) next.input := by
  have linked : (front.map Visit.entry?).IsChain fun left right =>
      ∀ entry, left = some entry → ∀ next, right = some next →
        entry.Hands (graph.IsStart next) next.input := by
    refine (List.isChain_map _).mpr (chain.imp ?_)
    rintro visit next ⟨output, leads⟩ entry left other right
    obtain ⟨told, -, rfl⟩ := Visit.entry?_eq_some_iff.mp right
    rw [(tells_entry next.carry told (mem_of_leads leads)).isStart_iff]
    exact leads.hands left
  rw [entries, List.isChain_map] at linked
  exact linked.imp fun entry next hands => hands entry rfl next rfl

/-- The input of every node that a run executes. The first node finds the initial input, if there is
one. Each further one finds the output of the node before it, or the same input as that one, if it
is a start node or the output is null. The node that breaks off a run, for which there is no entry,
finds its input in the same way. -/
theorem run_hands_on (graph : Graph) (services : Services σ) (streaming : Bool)
    (cancelled : Nat → Bool) (world : σ) :
    let report := (graph.run services streaming cancelled world).1
    (∀ entry, report.trace.head? = some entry → entry.input = graph.opening) ∧
    (report.trace.IsChain fun entry next => entry.Hands (graph.IsStart next) next.input) ∧
    ((∀ result, report.outcome ≠ .done result) →
      ∃ front visit, graph.visits services streaming cancelled world = front ++ [visit] ∧
        front.map Visit.entry? = report.trace.map some ∧
        visit.did.1.outcome.BreaksAs report.outcome ∧
        (report.trace = [] → visit.carry.context.input = graph.opening) ∧
        ∀ entry, report.trace.getLast? = some entry →
          entry.Hands (visit.node.kind = .start) visit.carry.context.input) := by
  intro report
  have chain := graph.isChain_visits services streaming cancelled world
  have first : ∀ front back, graph.visits services streaming cancelled world = front ++ back →
      front.map Visit.entry? = report.trace.map some → ∀ entry,
      report.trace.head? = some entry → entry.input = graph.opening := by
    intro front back split entries entry head
    obtain ⟨visit, found, left⟩ := Visit.of_head?_entries entries head
    obtain ⟨output, -, rfl⟩ := Visit.entry?_eq_some_iff.mp left
    exact input_of_head? (by rw [split, List.head?_append, found]; rfl)
  rcases graph.entries_visits services streaming cancelled world with
    ⟨⟨result, returned⟩, entries⟩ | ⟨front, visit, split, entries, breaks⟩
  · refine ⟨first _ [] (List.append_nil _).symm entries, isChain_entries chain entries, ?_⟩
    exact fun broken => absurd returned (broken result)
  · rw [split] at chain
    obtain ⟨linked, -, joint⟩ := List.isChain_append.mp chain
    refine ⟨first _ _ split entries, isChain_entries linked entries, fun _ => ?_⟩
    refine ⟨front, visit, split, entries, breaks, fun none => ?_, fun entry last => ?_⟩
    · rw [none, List.map_nil, List.map_eq_nil_iff] at entries
      exact input_of_head? (by rw [split, entries]; rfl)
    · obtain ⟨former, found, left⟩ := Visit.of_getLast?_entries entries last
      obtain ⟨output, leads⟩ := joint former found visit rfl
      exact leads.hands left

def unready : Graph where
  nodes := [⟨"a", "", [], .start⟩, ⟨"b", "", [], .condition "1 + 1"⟩, ⟨"c", "", [], .llm {}⟩]
  edges := [⟨"a", "b"⟩, ⟨"b", "c"⟩]
  initialInput := some "hi"

/-- The chat, which breaks off the run, finds what the condition has put out. -/
theorem run_hands_on_unready :
    let report := (unready.run Services.idle false (fun _ => false) ()).1
    ∃ front visit entry, report.trace.getLast? = some entry ∧ entry.nodeId = "b" ∧
      unready.visits Services.idle false (fun _ => false) () = front ++ [visit] ∧
      visit.node.id = "c" ∧ visit.carry.context.input = entry.output := by
  intro report
  have broken : report.outcome.isDone = false := by decide +kernel
  obtain ⟨-, -, further⟩ := run_hands_on unready Services.idle false (fun _ => false) ()
  obtain ⟨front, visit, split, -, -, -, hands⟩ := further fun result returned => by
    simp [report, returned, Outcome.isDone] at broken
  have lasts : (report.trace.getLast?.map fun entry => (entry.nodeId, entry.output.isNull)) =
      some ("b", false) := by decide +kernel
  obtain ⟨entry, last, same⟩ := Option.map_eq_some_iff.mp lasts
  obtain ⟨id, given⟩ := Prod.mk.inj same
  have nodes : ((unready.visits Services.idle false (fun _ => false) ()).map fun visit =>
      (visit.node.id, visit.node.kind)).getLast? = some ("c", .llm) := by decide +kernel
  rw [split, List.map_append, List.map_singleton, List.getLast?_concat] at nodes
  obtain ⟨name, kind⟩ := Prod.mk.inj (Option.some.inj nodes)
  have handed := (hands entry last).output (by simp [kind]) fun null => by
    simp [null, Value.isNull] at given
  exact ⟨front, visit, entry, last, id, split, name, handed⟩

end Graph

end Flowline

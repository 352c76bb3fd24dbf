import Flowline.Proofs.Run.Budget
import Flowline.Proofs.Run.Result

/-!
# Start nodes

A start node puts out the current input, which it leaves as it is. So the input is a register that
every other node writes when it is entered, and a start node reads what was written last. Nothing
has been written yet where a run begins, and only there is this the initial input.
-/

namespace Flowline

def Value.orEmpty : Value → Value
  | .null => .text ""
  | v => v

theorem Context.passedOn_eq (context : Context) : context.passedOn = context.input.orEmpty := by
  cases given : context.input <;> simp [passedOn, Value.orEmpty, Value.isNull, given]

theorem Node.execute_start {node : Node} (start : node.kind = .start) (services : Services σ)
    (streaming : Bool) (context : Context) (world : σ) :
    node.execute services streaming context world = (⟨[], .done context.passedOn⟩, world) := by
  obtain ⟨id, type, data, config⟩ := node
  cases config with
  | start => rfl
  | _ => cases start

theorem Visit.output_of_start {visit : Visit services streaming} (start : visit.node.kind = .start)
    (left : visit.entry? = some entry) : entry.output = entry.input.orEmpty := by
  obtain ⟨output, done, rfl⟩ := Visit.entry?_eq_some_iff.mp left
  rw [Visit.did, Node.execute_start start] at done
  cases done
  exact Context.passedOn_eq _

namespace Graph

variable {graph : Graph} {entry : Entry} {services : Services σ}

theorem isStart_iff : graph.IsStart entry ↔
    (graph.node? entry.nodeId).map (fun node => (node.kind, node.kindName)) =
      some (.start, entry.kind) := by
  simp only [IsStart, Tells, Option.map_eq_some_iff, Prod.mk.injEq]
  grind

instance : Decidable (graph.IsStart entry) := decidable_of_iff _ isStart_iff.symm

-- ---------------------------------------------------------------------------
-- Traces, however a run ends
-- ---------------------------------------------------------------------------

variable (graph services) (streaming : Bool) (cancelled : Nat → Bool) (world : σ)

theorem exists_front : ∃ front back,
    graph.visits services streaming cancelled world = front ++ back ∧
      front.map Visit.entry? =
        (graph.run services streaming cancelled world).1.trace.map some := by
  have entries := graph.take_entries_visits services streaming cancelled world _ (Nat.le_refl _)
  rw [List.take_length] at entries
  exact ⟨_, _, (List.take_append_drop _ _).symm, entries⟩

theorem isChain_trace :
    (graph.run services streaming cancelled world).1.trace.IsChain fun entry next =>
      entry.Hands (graph.IsStart next) next.input := by
  obtain ⟨front, back, split, entries⟩ := graph.exists_front services streaming cancelled world
  have chain := graph.isChain_visits services streaming cancelled world
  rw [split] at chain
  exact isChain_entries (List.isChain_append.mp chain).1 entries

theorem input_of_head?_trace :
    ∀ entry, (graph.run services streaming cancelled world).1.trace.head? = some entry →
      entry.input = graph.opening := by
  intro entry first
  obtain ⟨front, back, split, entries⟩ := graph.exists_front services streaming cancelled world
  obtain ⟨visit, found, left⟩ := Visit.of_head?_entries entries first
  obtain ⟨output, -, rfl⟩ := Visit.entry?_eq_some_iff.mp left
  exact input_of_head? (by rw [split, List.head?_append, found]; rfl)

variable {graph services streaming cancelled world}

theorem output_of_isStart
    (told : entry ∈ (graph.run services streaming cancelled world).1.trace)
    (start : graph.IsStart entry) : entry.output = entry.input.orEmpty := by
  obtain ⟨front, back, split, entries⟩ := graph.exists_front services streaming cancelled world
  have listed := entries ▸ List.mem_map_of_mem (f := some) told
  obtain ⟨visit, visited, left⟩ := List.mem_map.mp listed
  have inside := graph.mem_of_mem_visits services streaming cancelled world visit
    (split ▸ List.mem_append_left back visited)
  obtain ⟨output, -, rfl⟩ := Visit.entry?_eq_some_iff.mp left
  exact Visit.output_of_start ((tells_entry visit.carry output inside).isStart_iff.mp start) left

-- ---------------------------------------------------------------------------
-- What start nodes read
-- ---------------------------------------------------------------------------

theorem input_of_starts {first : Entry} {others : List Entry}
    (chain : (first :: others).IsChain fun entry next =>
      entry.Hands (graph.IsStart next) next.input)
    (starts : ∀ entry ∈ others, graph.IsStart entry) :
    ∀ entry ∈ first :: others, entry.input = first.input := by
  induction others generalizing first with
  | nil => simp
  | cons next others ih =>
    obtain ⟨hands, linked⟩ := List.isChain_cons_cons.mp chain
    obtain ⟨here, further⟩ := List.forall_mem_cons.mp starts
    have kept : next.input = first.input := hands.input (.inl here)
    refine List.forall_mem_cons.mpr ⟨rfl, fun entry h => ?_⟩
    exact (ih linked further entry h).trans kept

/-- What the start nodes of a run put out, wherever they come. As long as only start nodes have run
it is the initial input. Otherwise it is what any earlier node has found behind which only start
nodes have run, so what the last node of another kind has found, and that need not be the initial
input. Either way it is the empty text if there is no input. -/
theorem run_start_emits (graph : Graph) (services : Services σ) (streaming : Bool)
    (cancelled : Nat → Bool) (world : σ) (front back : List Entry) (entry : Entry)
    (told : (graph.run services streaming cancelled world).1.trace = front ++ entry :: back)
    (start : graph.IsStart entry) :
    ((∀ former ∈ front, graph.IsStart former) → entry.output = graph.opening.orEmpty) ∧
    ∀ former last middle, front = former ++ last :: middle →
      (∀ between ∈ middle, graph.IsStart between) → entry.output = last.input.orEmpty := by
  have chain := graph.isChain_trace services streaming cancelled world
  have first := graph.input_of_head?_trace services streaming cancelled world
  rw [output_of_isStart (told ▸ List.mem_append_right _ List.mem_cons_self) start]
  rw [told, List.append_cons] at chain first
  have upTo := (List.isChain_append.mp chain).1
  constructor
  · intro starts
    cases front with
    | nil => rw [first entry rfl]
    | cons head former =>
      obtain ⟨-, others⟩ := List.forall_mem_cons.mp starts
      have kept := input_of_starts upTo (List.forall_mem_append.mpr ⟨others, by simpa using start⟩)
      rw [kept entry (by simp), first head rfl]
  · rintro former last middle rfl starts
    rw [List.append_assoc] at upTo
    have kept := input_of_starts (List.isChain_append.mp upTo).2.1
      (List.forall_mem_append.mpr ⟨starts, by simpa using start⟩)
    rw [kept entry (by simp)]

def relay : Graph where
  nodes := [⟨"a", "", [], .start⟩, ⟨"b", "", [], .condition "'b'"⟩,
    ⟨"c", "", [], .condition "'c'"⟩, ⟨"d", "", [], .start⟩]
  edges := [⟨"a", "b"⟩, ⟨"b", "c"⟩, ⟨"c", "d"⟩]
  initialInput := some "a"

theorem starts_relay :
    ((relay.run Services.idle false (fun _ => false) ()).1.trace.map fun entry =>
      (decide (relay.IsStart entry), entry.input.display, entry.output.display)) =
        [(true, "a", "a"), (false, "a", "b"), (false, "b", "c"), (true, "b", "b")] := by
  decide +kernel

/-- The second start node puts out what the second condition has found. -/
theorem run_start_emits_relay :
    ∃ first second third fourth, relay.IsStart first ∧ relay.IsStart fourth ∧
      (relay.run Services.idle false (fun _ => false) ()).1.trace =
        [first, second, third, fourth] ∧
      first.output = .text "a" ∧ fourth.output = third.input.orEmpty := by
  have told := starts_relay
  simp only [List.map_eq_cons_iff, List.map_eq_nil_iff, Prod.mk.injEq, decide_eq_true_eq] at told
  obtain ⟨first, _, listed, ⟨opens, -⟩, second, _, rfl, -, third, _, rfl, -, fourth, _, rfl,
    ⟨again, -⟩, rfl⟩ := told
  have emits := run_start_emits relay Services.idle false (fun _ => false) ()
  refine ⟨first, second, third, fourth, opens, again, listed, ?_, ?_⟩
  · exact (emits [] _ first listed opens).1 (by simp)
  · exact (emits [first, second, third] [] fourth listed again).2 [first, second] third [] rfl
      (by simp)

/-- The second start node puts out something else than the initial input. -/
theorem run_start_emits_other :
    ∃ entry ∈ (relay.run Services.idle false (fun _ => false) ()).1.trace,
      relay.IsStart entry ∧ relay.opening = .text "a" ∧ entry.output ≠ .text "a" := by
  have told : (true, "b", "b") ∈ (relay.run Services.idle false (fun _ => false) ()).1.trace.map
      fun entry => (decide (relay.IsStart entry), entry.input.display, entry.output.display) :=
    starts_relay ▸ by decide
  obtain ⟨entry, listed, facts⟩ := List.mem_map.mp told
  simp only [Prod.mk.injEq, decide_eq_true_eq] at facts
  refine ⟨entry, listed, facts.1, rfl, fun same => ?_⟩
  rw [same] at facts
  exact absurd facts.2.2 (by decide)

end Graph

end Flowline

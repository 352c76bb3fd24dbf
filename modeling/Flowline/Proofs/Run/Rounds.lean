import Flowline.Proofs.Run.Budget
import Flowline.Proofs.Run.Stream
import Flowline.Proofs.Run.Streaming
import Flowline.Proofs.Run.Task

/-!
# Rounds of notices

What a run tells has a grammar: it starts, then there is a round for each entry of its trace, and
at last it ends. In a round a node is entered, tells its fragments if it has any, and is left. A run
that breaks off does so in the middle of one more round, of the node that comes next.
-/

namespace Flowline

/-- How a node tells its output: a chat node of a streamed run in fragments that join to it, and any
other node in no fragments. -/
structure Node.TellsIn (node : Node) (streaming : Bool) (fragments : List String)
    (output : Value) : Prop where
  streamed : node.kind = .llm → streaming = true → output = .text (String.join fragments)
  silent : ¬ (node.kind = .llm ∧ streaming = true) → fragments = []

/-- The rounds of the entries of a trace. -/
inductive Graph.Rounds (graph : Graph) (streaming : Bool) : List Entry → List Notice → Prop
  | nil : Rounds graph streaming [] []
  | round (tells : graph.Tells entry node)
      (told : node.TellsIn streaming fragments entry.output)
      (rest : Rounds graph streaming trace notices) :
      Rounds graph streaming (entry :: trace)
        (.entered node.id :: fragments.map (.delta node.id) ++ .left entry :: notices)

namespace Visit

variable {services : Services σ} {visit : Visit services streaming}

theorem tellsIn (left : visit.entry? = some entry) :
    visit.node.TellsIn streaming visit.did.1.pieces entry.output := by
  obtain ⟨output, done, rfl⟩ := entry?_eq_some_iff.mp left
  refine ⟨fun chat streamed => ?_, fun silent => Node.pieces_eq_nil silent visit.world⟩
  subst streamed
  have did : visit.did = (⟨visit.did.1.pieces, .done output⟩, visit.did.2) := by rw [← done]
  exact Node.output_of_streamed chat did

theorem notices_eq (left : visit.entry? = some entry) :
    visit.notices =
      .entered visit.node.id :: visit.did.1.pieces.map (.delta visit.node.id) ++ [.left entry] := by
  rw [notices, left]
  rfl

theorem notices_of_breaks {outcome : Outcome σ Result}
    (breaks : visit.did.1.outcome.BreaksAs outcome) :
    visit.notices = .entered visit.node.id :: visit.did.1.pieces.map (.delta visit.node.id) := by
  rcases breaks with ⟨fault, broke, -⟩ | ⟨cancel, broke, -⟩ <;>
    simp [notices, entry?, broke, Walk.opening]

end Visit

namespace Graph

variable {graph : Graph} {services : Services σ}

theorem rounds_of_entries {visits : List (Visit services streaming)}
    (inside : ∀ visit ∈ visits, visit.node ∈ graph.nodes)
    (entries : visits.map Visit.entry? = trace.map some) :
    graph.Rounds streaming trace (visits.flatMap Visit.notices) := by
  induction visits generalizing trace with
  | nil =>
    cases trace with
    | nil => exact .nil
    | cons entry rest => cases entries
  | cons visit visits ih =>
    cases trace with
    | nil => cases entries
    | cons entry rest =>
      obtain ⟨left, further⟩ := List.cons.inj entries
      obtain ⟨here, others⟩ := List.forall_mem_cons.mp inside
      have tells : graph.Tells entry visit.node := by
        obtain ⟨output, -, rfl⟩ := Visit.entry?_eq_some_iff.mp left
        exact tells_entry visit.carry output here
      rw [List.flatMap_cons, Visit.notices_eq left, List.append_assoc, List.singleton_append]
      exact .round tells (Visit.tellsIn left) (ih others further)

theorem after?_of_leads {visit next : Visit services streaming} (here : visit.node ∈ graph.nodes)
    (left : visit.entry? = some entry)
    (leads : (graph.plan services streaming cancelled).Leads visit output next) :
    graph.after? entry = some next.node := by
  obtain ⟨told, done, rfl⟩ := Visit.entry?_eq_some_iff.mp left
  obtain rfl : output = told := Outcome.done.inj (leads.done.symm.trans done)
  rw [(tells_entry visit.carry output here).after?_eq]
  exact follower?_of_leads leads

theorem due?_of_split {visit : Visit services streaming}
    (split : graph.visits services streaming cancelled world = front ++ [visit])
    (entries : front.map Visit.entry? = trace.map some) :
    graph.due? graph.entrance? trace = some visit.node := by
  cases last : trace.getLast? with
  | none =>
    rw [List.getLast?_eq_none_iff.mp last, List.map_nil, List.map_eq_nil_iff] at entries
    rw [entries, List.nil_append] at split
    obtain ⟨begins, -, -⟩ := Plan.of_head?_visits (congrArg List.head? split)
    rw [due?, last, Option.elim_none, ← Index.start_ofGraph]
    exact begins
  | some entry =>
    obtain ⟨former, found, left⟩ := Visit.of_getLast?_entries entries last
    have inside := graph.mem_of_mem_visits services streaming cancelled world former
      (split ▸ List.mem_append_left _ (List.mem_of_getLast? found))
    have chain := graph.isChain_visits services streaming cancelled world
    rw [split] at chain
    obtain ⟨-, -, joint⟩ := List.isChain_append.mp chain
    obtain ⟨output, leads⟩ := joint former found visit rfl
    rw [due?, last, Option.elim_some]
    exact after?_of_leads inside left leads

/-- What a run tells that returns is its start, the rounds of its trace and its end. A run that does
not return has told the rounds of its trace and, of the node that comes next, that it is entered and
the fragments that came before it broke off. Only chat nodes of a streamed run tell fragments. -/
theorem notices_alternate (graph : Graph) (services : Services σ) (streaming : Bool)
    (cancelled : Nat → Bool) (world : σ) :
    let report := (graph.run services streaming cancelled world).1
    (∀ result, report.outcome = .done result → ∃ rounds,
      report.notices = .started :: rounds ++ [.ended result] ∧
      graph.Rounds streaming result.trace rounds) ∧
    ((∀ result, report.outcome ≠ .done result) → ∃ rounds node fragments,
      report.notices =
        .started :: rounds ++ .entered node.id :: fragments.map (.delta node.id) ∧
      graph.Rounds streaming report.trace rounds ∧
      graph.due? graph.entrance? report.trace = some node ∧
      (fragments ≠ [] → node.kind = .llm ∧ streaming = true) ∧
      ∃ context before outcome after,
        node.execute services streaming context before = (⟨fragments, outcome⟩, after) ∧
        outcome.BreaksAs report.outcome) := by
  intro report
  have inside := graph.mem_of_mem_visits services streaming cancelled world
  have told : report.notices = _ := graph.notices_visits services streaming cancelled world
  constructor
  · intro result returned
    have entries := graph.entries_of_done services streaming cancelled world returned
    refine ⟨_, ?_, rounds_of_entries inside entries⟩
    rw [told]
    simp only [report] at returned
    rw [returned]
  · intro broken
    rcases graph.entries_visits services streaming cancelled world with
      ⟨⟨result, returned⟩, -⟩ | ⟨front, visit, split, entries, breaks⟩
    · exact absurd returned (broken result)
    · rw [split] at told inside
      have rounds := rounds_of_entries
        (fun former h => inside former (List.mem_append_left _ h)) entries
      refine ⟨_, visit.node, visit.did.1.pieces, ?_, rounds, due?_of_split split entries,
        fun some => ?_, visit.carry.context, visit.world, visit.did.1.outcome, visit.did.2, rfl,
        breaks⟩
      · rw [told, List.flatMap_append, List.flatMap_singleton, Visit.notices_of_breaks breaks]
        rcases breaks with ⟨fault, -, ended⟩ | ⟨cancel, -, ended⟩ <;> simp [ended]
      · by_contra silent
        exact some (Node.pieces_eq_nil silent visit.world)

/-- Two chats are told in two fragments each, and a third node in none. A chat that breaks off has
told one fragment, in a round without an end. -/
theorem notices_alternate_asking :
    let whole := (asking.run .counting true (fun _ => false) 0).1
    let broken := (question.run .breaking true (fun _ => false) ()).1
    (∃ result rounds, whole.outcome = .done result ∧
      whole.notices = .started :: rounds ++ [.ended result] ∧ rounds.length = 10 ∧
      asking.Rounds true result.trace rounds) ∧
    ∃ fragments : List String, broken.notices =
      .started :: .entered "a" :: fragments.map (.delta "a") ∧ fragments.length = 1 := by
  intro whole broken
  obtain ⟨returns, -⟩ := notices_alternate asking .counting true (fun _ => false) 0
  obtain ⟨-, breaks⟩ := notices_alternate question .breaking true (fun _ => false) ()
  have ran : (whole.outcome.isDone, whole.notices.length) = (true, 12) := by decide +kernel
  have ran' : (broken.outcome.isDone, broken.trace.length, broken.notices.length) =
      (false, 0, 3) := by decide +kernel
  simp only [Prod.mk.injEq] at ran ran'
  obtain ⟨done, long⟩ := ran
  obtain ⟨off, none, short⟩ := ran'
  constructor
  · cases returned : whole.outcome with
    | done result =>
      obtain ⟨rounds, told, grammar⟩ := returns result returned
      rw [told] at long
      exact ⟨result, rounds, rfl, told, by simpa using long, grammar⟩
    | raised | waiting => simp [returned, Outcome.isDone] at done
  · obtain ⟨rounds, node, fragments, told, grammar, due, -⟩ := breaks fun result returned => by
      simp [broken, returned, Outcome.isDone] at off
    rw [List.length_eq_zero_iff.mp none] at grammar due
    cases grammar
    obtain rfl : ⟨"a", "", [], .llm { userPrompt := "go on" }⟩ = node := Option.some.inj due
    rw [told] at short
    exact ⟨fragments, told, by simpa using short⟩

end Graph

end Flowline

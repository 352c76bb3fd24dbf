import Flowline.Proofs.Run.Result
import Flowline.Proofs.Run.Rounds

/-!
# Calls of runs

What a run asks of its services, read off its trace. Each node that it executes makes the call that
its settings describe once their templates are filled from what the entries before it have left, and
no other; a node whose settings describe no call makes none. So the log of a run has neither gaps
nor repetitions, also where the run breaks off.
-/

namespace Flowline

/-- What a node finds behind entries, besides its input: the last output of each node. There is no
output of the run as long as a node is still to come. -/
def Context.behind (trace : List Entry) (input : Value) : Context where
  input := input
  perNode := Fields.merge [] (trace.map fun entry => (entry.nodeId, entry.output))

-- ---------------------------------------------------------------------------
-- The call of a node
-- ---------------------------------------------------------------------------

namespace Node

/-- The call that the settings of a node describe in a context. There is none if a template cannot
be filled, if the model's settings are unusable or if the address is blank. -/
inductive Asks (services : Services σ) (streaming : Bool) (context : Context) (node : Node) :
    Call → Prop
  | chat (config : node.config = .llm settings)
      (system : context.fill settings.systemPrompt = .ok systemText)
      (user : context.fill settings.userPrompt = .ok userText)
      (resolved : Chat.Model.resolve services.defaults settings.overrides = .ok model) :
      Asks services streaming context node (.chat streaming ⟨model, systemText, userText⟩)
  | query (config : node.config = .dbQuery template)
      (filled : context.fill template = .ok statement) :
      Asks services streaming context node (.query statement services.options)
  | send (config : node.config = .apiCall settings)
      (url : context.fill settings.url = .ok address)
      (given : Text.isBlankText address = false)
      (headers : context.fill settings.headers = .ok block)
      (body : context.fill settings.body = .ok text) :
      Asks services streaming context node (.send ⟨settings.method, address,
        Web.parseHeaders block, if text.isEmpty then none else some text⟩)

structure AsksJust (services : Services σ) (streaming : Bool) (context : Context) (node : Node)
    (calls : List Call) : Prop where
  once : calls.length ≤ 1
  mem_iff : ∀ call, call ∈ calls ↔ node.Asks services streaming context call

variable {services : Services σ} {streaming : Bool} {context : Context} {node : Node} {call : Call}

theorem mem_calls_iff : call ∈ node.calls services streaming context ↔
    ∃ todo, node.task services.defaults context = .ok todo ∧
      call ∈ todo.calls services streaming := by
  unfold calls
  cases node.task services.defaults context <;> simp

theorem Asks.mem_calls (asks : node.Asks services streaming context call) :
    call ∈ node.calls services streaming context := by
  rw [mem_calls_iff]
  cases asks with
  | chat config system user resolved =>
    refine ⟨.chat _, ?_, List.mem_singleton_self _⟩
    simp only [task, config, LlmConfig.exchange, system, user, resolved]
    rfl
  | query config filled =>
    refine ⟨.query _, ?_, List.mem_singleton_self _⟩
    simp only [task, config, filled]
    rfl
  | send config url given headers body =>
    refine ⟨.send _, ?_, List.mem_singleton_self _⟩
    simp only [task, config, ApiConfig.request, url, headers, body]
    simp [given, bind, Except.bind, pure, Except.pure]

theorem asks_of_mem_calls (made : call ∈ node.calls services streaming context) :
    node.Asks services streaming context call := by
  obtain ⟨todo, given, mem⟩ := mem_calls_iff.mp made
  obtain ⟨id, type, data, config⟩ := node
  cases config with
  | start | output | custom =>
    cases given
    nomatch mem
  | llm settings =>
    obtain ⟨exchange, chosen, rfl⟩ := Except.map_eq_ok_iff.mp given
    obtain ⟨system, filled, rest⟩ := Except.bind_eq_ok_iff.mp chosen
    obtain ⟨user, filled', rest⟩ := Except.bind_eq_ok_iff.mp rest
    obtain ⟨model, resolved, done⟩ := Except.bind_eq_ok_iff.mp rest
    cases done
    rw [List.mem_singleton.mp mem]
    exact .chat rfl filled filled' resolved
  | dbQuery template =>
    obtain ⟨statement, filled, rfl⟩ := Except.map_eq_ok_iff.mp given
    rw [List.mem_singleton.mp mem]
    exact .query rfl filled
  | apiCall settings =>
    obtain ⟨url, filled, sent⟩ := Except.bind_eq_ok_iff.mp given
    split at sent
    · cases sent
      nomatch mem
    · rename_i blank
      obtain ⟨request, described, done⟩ := Except.bind_eq_ok_iff.mp sent
      obtain ⟨headers, filled', rest⟩ := Except.bind_eq_ok_iff.mp described
      obtain ⟨body, filled'', written⟩ := Except.bind_eq_ok_iff.mp rest
      cases done
      cases written
      rw [List.mem_singleton.mp mem]
      exact .send rfl filled (by simpa using blank) filled' filled''
  | condition expression =>
    obtain ⟨condition, -, rfl⟩ := Except.map_eq_ok_iff.mp given
    nomatch mem

theorem asksJust_calls :
    node.AsksJust services streaming context (node.calls services streaming context) where
  once := by
    unfold calls
    cases node.task services.defaults context with
    | ok todo => cases todo <;> simp [Task.calls]
    | error fault => exact Nat.zero_le 1
  mem_iff _ := ⟨asks_of_mem_calls, Asks.mem_calls⟩

end Node

-- ---------------------------------------------------------------------------
-- The contexts of visits
-- ---------------------------------------------------------------------------

namespace Visit

variable {services : Services σ} {streaming : Bool}

/-- What a visit finds is its input and what the entries before it have left. -/
def StandsBehind (visit : Visit services streaming) (before : List Entry) : Prop :=
  visit.carry.context = .behind before visit.carry.context.input

end Visit

theorem Plan.Leads.standsBehind {plan : Plan σ} {visit next : Visit plan.services plan.streaming}
    (leads : plan.Leads visit output next) (left : visit.entry? = some entry)
    (stands : visit.StandsBehind before) : next.StandsBehind (before ++ [entry]) := by
  obtain ⟨told, done, rfl⟩ := Visit.entry?_eq_some_iff.mp left
  obtain rfl : output = told := Outcome.done.inj (leads.done.symm.trans done)
  have unset : visit.carry.context.output = .null := congrArg Context.output stands
  have kept : visit.carry.context.perNode = _ := congrArg Context.perNode stands
  rw [Visit.StandsBehind, leads.carry, Carry.enter_eq, Context.behind, List.map_append,
    List.map_singleton, Fields.merge_concat]
  simp only [Carry.leave, beq_eq_false_iff_ne.mpr leads.more, unset, kept, Context.behind,
    Carry.entry, if_neg Bool.false_ne_true]

namespace Graph

variable {graph : Graph} {services : Services σ}

theorem standsBehind_of_head? {visit : Visit services streaming}
    (first : (graph.visits services streaming cancelled world).head? = some visit) :
    visit.StandsBehind [] := by
  obtain ⟨-, carried, -⟩ := Plan.of_head?_visits first
  rw [Visit.StandsBehind, carried, Carry.enter_eq, Carry.initial_eq]
  rfl

-- ---------------------------------------------------------------------------
-- The calls of visits
-- ---------------------------------------------------------------------------

/-- The calls of the nodes that a trace tells of, each in its own context. -/
inductive Asked (graph : Graph) (services : Services σ) (streaming : Bool) :
    (before trace : List Entry) → List Call → Prop
  | nil : Asked graph services streaming before [] []
  | entry (tells : graph.Tells entry node)
      (asks : node.AsksJust services streaming (.behind before entry.input) own)
      (rest : Asked graph services streaming (before ++ [entry]) trace more) :
      Asked graph services streaming before (entry :: trace) (own ++ more)

/-- Visits that are done make the calls of their entries, and the visit behind them finds what all
of these have left. -/
theorem asked_of_entries {front back : List (Visit services streaming)}
    (inside : ∀ visit ∈ front, visit.node ∈ graph.nodes)
    (chain : (front ++ back).IsChain fun visit next =>
      ∃ output, (graph.plan services streaming cancelled).Leads visit output next)
    (entries : front.map Visit.entry? = trace.map some)
    (stands : ∀ visit, (front ++ back).head? = some visit → visit.StandsBehind before) :
    graph.Asked services streaming before trace (front.flatMap Visit.calls) ∧
      ∀ visit, back.head? = some visit → visit.StandsBehind (before ++ trace) := by
  induction front generalizing before trace with
  | nil =>
    obtain rfl : trace = [] := by simpa using entries.symm
    exact ⟨.nil, by simpa using stands⟩
  | cons visit front ih =>
    cases trace with
    | nil => cases entries
    | cons entry trace =>
      obtain ⟨left, further⟩ := List.cons.inj entries
      obtain ⟨here, others⟩ := List.forall_mem_cons.mp inside
      obtain ⟨joint, linked⟩ := List.isChain_cons.mp chain
      have standing := stands visit rfl
      obtain ⟨asked, behind⟩ := ih others linked further fun next first => by
        obtain ⟨output, leads⟩ := joint next first
        exact leads.standsBehind left standing
      obtain ⟨output, -, rfl⟩ := Visit.entry?_eq_some_iff.mp left
      refine ⟨.entry (tells_entry visit.carry output here) ?_ asked, by simpa using behind⟩
      rw [Carry.entry, ← standing]
      exact Node.asksJust_calls

theorem hands_of_split {visit : Visit services streaming}
    (split : graph.visits services streaming cancelled world = front ++ [visit])
    (entries : front.map Visit.entry? = trace.map some) :
    (trace = [] → visit.carry.context.input = graph.opening) ∧
      ∀ entry, trace.getLast? = some entry →
        entry.Hands (visit.node.kind = .start) visit.carry.context.input := by
  constructor
  · rintro rfl
    rw [List.map_nil, List.map_eq_nil_iff] at entries
    exact input_of_head? (by rw [split, entries]; rfl)
  · intro entry last
    obtain ⟨former, found, left⟩ := Visit.of_getLast?_entries entries last
    have chain := graph.isChain_visits services streaming cancelled world
    rw [split] at chain
    obtain ⟨-, -, joint⟩ := List.isChain_append.mp chain
    obtain ⟨output, leads⟩ := joint former found visit rfl
    exact leads.hands left

/-- The log of a run, which it keeps in the order of its calls. A run that returns has made just the
calls of its entries. Any other run has also made that of the node that comes next, which broke it
off. Each node has asked for one call at most, in the context that the entries before it
determine. -/
theorem run_asks (graph : Graph) (services : Services σ) (streaming : Bool)
    (cancelled : Nat → Bool) (world : σ) :
    let report := (graph.run services streaming cancelled world).1
    let log := graph.calls services streaming cancelled world
    (∀ result, report.outcome = .done result →
      graph.Asked services streaming [] result.trace log) ∧
    ((∀ result, report.outcome ≠ .done result) → ∃ calls node input last,
      log = calls ++ last ∧ graph.Asked services streaming [] report.trace calls ∧
      graph.due? graph.entrance? report.trace = some node ∧
      (report.trace = [] → input = graph.opening) ∧
      (∀ entry, report.trace.getLast? = some entry → entry.Hands (node.kind = .start) input) ∧
      node.AsksJust services streaming (.behind report.trace input) last) := by
  intro report log
  have chain := graph.isChain_visits services streaming cancelled world
  have inside := graph.mem_of_mem_visits services streaming cancelled world
  have logged : log = _ := graph.calls_visits services streaming cancelled world
  have first : ∀ visit, (graph.visits services streaming cancelled world).head? = some visit →
      visit.StandsBehind [] := fun _ => standsBehind_of_head?
  constructor
  · intro result returned
    have entries := graph.entries_of_done services streaming cancelled world returned
    rw [← List.append_nil (graph.visits services streaming cancelled world)] at chain first
    rw [logged]
    exact (asked_of_entries inside chain entries first).1
  · intro broken
    rcases graph.entries_visits services streaming cancelled world with
      ⟨⟨result, returned⟩, -⟩ | ⟨front, visit, split, entries, -⟩
    · exact absurd returned (broken result)
    · obtain ⟨opened, handed⟩ := hands_of_split split entries
      rw [split] at chain first inside logged
      obtain ⟨asked, behind⟩ := asked_of_entries
        (fun former h => inside former (List.mem_append_left _ h)) chain entries first
      have standing := behind visit rfl
      rw [List.flatMap_append, List.flatMap_singleton] at logged
      refine ⟨_, visit.node, visit.carry.context.input, visit.calls, logged, asked,
        due?_of_split split entries, opened, handed, ?_⟩
      rw [List.nil_append] at standing
      rw [← standing]
      exact Node.asksJust_calls

/-- A question, a request without an address and a statement about the answer. -/
def errands : Graph where
  nodes := [⟨"a", "", [], .llm { userPrompt := "\x7b\x7binput\x7d\x7d?" }⟩,
    ⟨"b", "", [], .apiCall { url := " " }⟩, ⟨"c", "", [], .dbQuery "SELECT '\x7b\x7ba\x7d\x7d'"⟩]
  edges := [⟨"a", "b"⟩, ⟨"b", "c"⟩]
  initialInput := some "why"

/-- The request without an address is not sent, and the statement is filled from the first answer.
A chat that breaks off has been asked once. -/
theorem run_asks_errands :
    let whole := (errands.run .counting true (fun _ => false) 0).1
    let log := errands.calls .counting true (fun _ => false) 0
    let broken := question.calls .breaking true (fun _ => false) ()
    (∃ result, whole.outcome = .done result ∧ result.trace.map Entry.nodeId = ["a", "b", "c"] ∧
      errands.Asked .counting true [] result.trace log ∧
      (log.map fun
        | .chat _ exchange => exchange.user
        | .query statement _ => statement
        | .send request => request.url) = ["why?", "SELECT 'answer 0'"]) ∧
    broken.length = 1 ∧ ∃ node input, question.due? question.entrance? [] = some node ∧
      node.AsksJust .breaking true (.behind [] input) broken := by
  intro whole log broken
  obtain ⟨returns, -⟩ := run_asks errands .counting true (fun _ => false) 0
  obtain ⟨-, breaks⟩ := run_asks question .breaking true (fun _ => false) ()
  have ran : (whole.outcome.done?.map fun result => result.trace.map Entry.nodeId) =
      some ["a", "b", "c"] := by decide +kernel
  have off : ((question.run .breaking true (fun _ => false) ()).1.outcome.isDone,
      (question.run .breaking true (fun _ => false) ()).1.trace.length) = (false, 0) := by
    decide +kernel
  simp only [Prod.mk.injEq] at off
  obtain ⟨raised, none⟩ := off
  refine ⟨?_, by decide +kernel, ?_⟩
  · obtain ⟨result, done, ids⟩ := Option.map_eq_some_iff.mp ran
    have returned := Outcome.done?_eq_some_iff.mp done
    exact ⟨result, returned, ids, returns result returned, by decide +kernel⟩
  · obtain ⟨calls, node, input, last, logged, asked, due, -, -, just⟩ :=
      breaks fun result returned => by simp [returned, Outcome.isDone] at raised
    rw [List.length_eq_zero_iff.mp none] at asked due just
    cases asked
    exact ⟨node, input, due, (show broken = last from logged) ▸ just⟩

end Graph

end Flowline

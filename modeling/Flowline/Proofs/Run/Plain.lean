import Flowline.Proofs.Run.Result
import Flowline.Proofs.Run.Task
import Flowline.Proofs.Service.Plain

/-!
# Runs on plain values

Where the texts of a graph are plain and its services return plain values, only a condition can put
out a value that is not plain. So a result is plain if what its conditions have put out is.
-/

namespace Flowline

open Service (isHidden)

structure Graph.IsPlain (graph : Graph) : Prop where
  ids : ∀ node ∈ graph.nodes, Text.isWellFormed node.id = true ∧ isHidden node.id = false
  kindNames : ∀ node ∈ graph.nodes, Text.isWellFormed node.kindName = true
  opening : graph.opening.IsPlain

/-- Services whose values, if there are any, are plain. Chats return texts anyway. -/
structure Services.ReturnPlain (services : Services σ) : Prop where
  query : ∀ statement world v,
    (services.query statement services.options world).1 = .done v → v.IsPlain
  send : ∀ request world v, (services.send request world).1 = .done v → v.IsPlain

variable {services : Services σ} {graph : Graph} {node : Node} {context : Context} {carry : Carry}

-- ---------------------------------------------------------------------------
-- Records
-- ---------------------------------------------------------------------------

theorem Text.isWellFormed_append (s t : String) :
    isWellFormed (s ++ t) = (isWellFormed s && isWellFormed t) := by
  simp [isWellFormed]

theorem isPlain_failureValue_iff {message nodeId : String} :
    (failureValue message nodeId).IsPlain ↔
      Text.isWellFormed message = true ∧ Text.isWellFormed nodeId = true := by
  simp (disch := decide) [failureValue, Value.isPlain_record_iff, Value.isPlainField_iff,
    Value.isPlain_text_iff]

theorem Entry.isPlain_toValue_iff {entry : Entry} :
    entry.toValue.IsPlain ↔ Text.isWellFormed entry.nodeId = true ∧
      Text.isWellFormed entry.kind = true ∧ entry.input.IsPlain ∧ entry.output.IsPlain := by
  simp (disch := decide) [toValue, Value.isPlain_record_iff, Value.isPlainField_iff,
    Value.isPlain_text_iff]

/-- An entry that is sent as it is, and whose node has its value in the context of the result. -/
structure Entry.IsPlain (entry : Entry) : Prop where
  shown : isHidden entry.nodeId = false
  value : entry.toValue.IsPlain

theorem Entry.IsPlain.input {entry : Entry} (plain : entry.IsPlain) : entry.input.IsPlain :=
  (isPlain_toValue_iff.mp plain.value).2.2.1

theorem Entry.IsPlain.output {entry : Entry} (plain : entry.IsPlain) : entry.output.IsPlain :=
  (isPlain_toValue_iff.mp plain.value).2.2.2

theorem Entry.IsPlain.field {entry : Entry} (plain : entry.IsPlain) :
    Value.IsPlainField (entry.nodeId, entry.output) :=
  ⟨(isPlain_toValue_iff.mp plain.value).1, plain.shown, plain.output⟩

theorem Result.isPlain_toValue_iff {result : Result} :
    result.toValue.IsPlain ↔ result.output.IsPlain ∧
      (∀ field ∈ result.context.toFields, Value.IsPlainField field) ∧
      ∀ entry ∈ result.trace, entry.toValue.IsPlain := by
  have status : Text.isWellFormed "success" = true := by decide
  have word : Text.isWellFormed result.termination.word = true := by
    cases result.termination <;> decide
  simp (disch := decide) [toValue, Value.isPlain_record_iff, Value.isPlainField_iff,
    Value.isPlain_text_iff, Value.isPlain_list_iff, status, word]

theorem Fields.mem_put {fields : Fields α} {entry : String × α}
    (h : entry ∈ put fields key value) : entry = (key, value) ∨ entry ∈ fields := by
  induction fields with
  | nil => exact .inl (List.mem_singleton.mp h)
  | cons first rest ih =>
    obtain ⟨k, v⟩ := first
    rw [put] at h
    split at h
    · exact (List.mem_cons.mp h).imp_right (List.mem_cons_of_mem _)
    · rcases List.mem_cons.mp h with rfl | h
      · exact .inr List.mem_cons_self
      · exact (ih h).imp_right (List.mem_cons_of_mem _)

theorem Fields.mem_merge {fields more : Fields α} {entry : String × α}
    (h : entry ∈ merge fields more) : entry ∈ fields ∨ entry ∈ more := by
  induction more generalizing fields with
  | nil => exact .inl h
  | cons first rest ih =>
    rcases ih h with h | h
    · rcases mem_put h with rfl | h
      · exact .inr List.mem_cons_self
      · exact .inl h
    · exact .inr (List.mem_cons_of_mem _ h)

theorem Context.isPlainField_of_mem_toFields (context : Context) {field : String × Value}
    (input : context.input.IsPlain) (output : context.output.IsPlain)
    (perNode : ∀ field ∈ context.perNode, Value.IsPlainField field)
    (h : field ∈ context.toFields) : Value.IsPlainField field := by
  have opening : ∀ field ∈ (if context.input.isNull then [] else [(inputName, context.input)]),
      Value.IsPlainField field := by
    split
    · nofun
    · exact List.forall_mem_singleton.mpr ((Value.isPlainField_iff (by decide)).mpr input)
  have merged : ∀ field ∈ Fields.merge
      (if context.input.isNull then [] else [(inputName, context.input)]) context.perNode,
      Value.IsPlainField field :=
    fun field h => (Fields.mem_merge h).elim (opening field) (perNode field)
  rw [toFields] at h
  split at h
  · exact merged field h
  · rcases Fields.mem_put h with rfl | h
    · exact (Value.isPlainField_iff (by decide)).mpr output
    · exact merged field h

-- ---------------------------------------------------------------------------
-- One node
-- ---------------------------------------------------------------------------

theorem Context.isPlain_passedOn (input : context.input.IsPlain) : context.passedOn.IsPlain := by
  unfold passedOn
  split
  · exact show Text.isWellFormed "" = true by decide
  · exact input

theorem Task.isPlain_of_done {task : Task} (returns : services.ReturnPlain)
    (silent : ¬ task.IsChat) (given : ∀ v, task = .value v → v.IsPlain)
    (settled : ∀ condition, task ≠ .decide condition)
    (did : task.perform services false world = (⟨pieces, .done output⟩, after)) :
    output.IsPlain := by
  cases task with
  | value v =>
    cases did
    exact given _ rfl
  | decide condition => exact absurd rfl (settled condition)
  | chat exchange => exact absurd trivial silent
  | query statement =>
    exact returns.query statement world output (congrArg (fun told => told.1.outcome) did)
  | send request =>
    exact returns.send request world output (congrArg (fun told => told.1.outcome) did)

theorem Node.isPlain_of_value (texts : graph.IsPlain) (here : node ∈ graph.nodes)
    (other : node.kind ≠ .condition) (input : context.input.IsPlain)
    (given : node.task defaults context = .ok (.value v)) : v.IsPlain := by
  have id := (texts.ids node here).1
  have kindName := texts.kindNames node here
  obtain ⟨nodeId, type, data, config⟩ := node
  cases config with
  | start | output =>
    cases given
    exact Context.isPlain_passedOn input
  | llm settings =>
    obtain ⟨exchange, -, same⟩ := Except.map_eq_ok_iff.mp given
    nomatch same
  | dbQuery query =>
    obtain ⟨statement, -, same⟩ := Except.map_eq_ok_iff.mp given
    nomatch same
  | apiCall settings =>
    obtain ⟨url, -, sent⟩ := Except.bind_eq_ok_iff.mp given
    split at sent
    · cases sent
      exact isPlain_failureValue_iff.mpr ⟨by decide, id⟩
    · obtain ⟨request, -, same⟩ := Except.bind_eq_ok_iff.mp sent
      nomatch same
  | condition expression => exact absurd rfl other
  | custom name raw =>
    cases given
    refine isPlain_failureValue_iff.mpr ⟨?_, id⟩
    rw [Text.isWellFormed_append, Bool.and_eq_true]
    exact ⟨by decide, kindName⟩

theorem Node.isPlain_of_done (texts : graph.IsPlain) (returns : services.ReturnPlain)
    (here : node ∈ graph.nodes) (silent : node.kind ≠ .llm) (other : node.kind ≠ .condition)
    (input : context.input.IsPlain)
    (did : node.execute services false context world = (⟨pieces, .done output⟩, after)) :
    output.IsPlain := by
  simp only [execute] at did
  cases given : node.task services.defaults context with
  | ok todo =>
    rw [given] at did
    refine todo.isPlain_of_done returns (fun chat => silent ((isChat_iff given).mp chat)) ?_ ?_ did
    · rintro v rfl
      exact isPlain_of_value texts here other input given
    · rintro condition rfl
      exact other (kind_of_decide given)
  | error fault =>
    rw [given] at did
    cases did

theorem Node.kindName_of_condition (kind : node.kind = .condition) :
    node.kindName = Kind.condition.name := by
  obtain ⟨id, type, data, config⟩ := node
  cases config <;> cases kind
  rfl

-- ---------------------------------------------------------------------------
-- Runs
-- ---------------------------------------------------------------------------

structure Carry.IsPlain (carry : Carry) : Prop where
  input : carry.context.input.IsPlain
  last : carry.last.IsPlain

theorem Carry.IsPlain.enter (plain : carry.IsPlain) (node : Node) : (carry.enter node).IsPlain := by
  unfold Carry.enter
  split
  · exact plain
  · exact ⟨plain.last, plain.last⟩

theorem Carry.IsPlain.leave (plain : carry.IsPlain) (node : Node) {output : Value}
    (put : output.IsPlain) : (carry.leave node output).IsPlain :=
  ⟨plain.input, put⟩

theorem Carry.isPlain_entry (texts : graph.IsPlain) (returns : services.ReturnPlain)
    (here : node ∈ graph.nodes) (silent : node.kind ≠ .llm) (plain : carry.IsPlain)
    (decided : (carry.entry node output).kind = Kind.condition.name → output.IsPlain)
    (did : node.execute services false carry.context world = (⟨pieces, .done output⟩, after)) :
    (carry.entry node output).IsPlain := by
  refine ⟨(texts.ids node here).2, Entry.isPlain_toValue_iff.mpr
    ⟨(texts.ids node here).1, texts.kindNames node here, plain.input, ?_⟩⟩
  by_cases kind : node.kind = .condition
  · exact decided (Node.kindName_of_condition kind)
  · exact Node.isPlain_of_done texts returns here silent kind plain.input did

theorem Plan.Course.isPlain_trace {walk : Walk σ} {cancelled : Nat → Bool}
    (course : (graph.plan services false cancelled).Course budget executed carry current world
      walk after)
    (texts : graph.IsPlain) (returns : services.ReturnPlain)
    (silent : ∀ node ∈ graph.nodes, node.kind ≠ .llm)
    (inside : ∀ node, current = some node → node ∈ graph.nodes) (plain : carry.IsPlain)
    (decided : ∀ entry ∈ walk.trace, entry.kind = Kind.condition.name → entry.output.IsPlain) :
    ∀ entry ∈ walk.trace, entry.IsPlain := by
  induction course with
  | deadEnd | stepBudget | cancelled | raised | waiting => nofun
  | output on did last =>
    have here := inside _ rfl
    exact List.forall_mem_singleton.mpr <| Carry.isPlain_entry texts returns here (silent _ here)
      (plain.enter _) (decided _ (List.mem_singleton.mpr rfl)) did
  | onward on did more rest ih =>
    have here := inside _ rfl
    have first := Carry.isPlain_entry texts returns here (silent _ here) (plain.enter _)
      (decided _ List.mem_cons_self) did
    exact List.forall_mem_cons.mpr ⟨first, ih (fun _ => Index.mem_of_next?)
      ((plain.enter _).leave _ first.output) fun entry h => decided entry (List.mem_cons_of_mem _ h)⟩

namespace Graph

theorem isPlain_of_done {result : Result} (texts : graph.IsPlain) (returns : services.ReturnPlain)
    (silent : ∀ node ∈ graph.nodes, node.kind ≠ .llm)
    (returned : (graph.run services false cancelled world).1.outcome = .done result)
    (decided : ∀ entry ∈ result.trace, entry.kind = Kind.condition.name → entry.output.IsPlain) :
    result.toValue.IsPlain := by
  have entries : ∀ entry ∈ result.trace, entry.IsPlain := by
    obtain ⟨walk, after, final, course, done, told⟩ := course_of_done returned
    have trace : walk.trace = result.trace := by rw [← told]; rfl
    rw [← trace] at decided ⊢
    refine course.isPlain_trace texts returns silent (fun _ => Index.mem_of_start) ?_ decided
    rw [Carry.initial_eq]
    exact ⟨texts.opening, texts.opening⟩
  obtain ⟨left, isLeft, context, output⟩ := left_of_done returned
  have last : left.last.IsPlain := by
    rw [isLeft.last]
    cases found : result.trace.getLast? with
    | none => exact texts.opening
    | some entry =>
      exact (entries entry (List.mem_of_getLast? found)).output
  have input : left.context.input.IsPlain := by
    rw [isLeft.input]
    cases found : result.trace.getLast? with
    | none => exact texts.opening
    | some entry =>
      exact (entries entry (List.mem_of_getLast? found)).input
  have closing : (left.close result.termination).context.output.IsPlain := by
    rw [Carry.close]
    split
    · exact last
    · rw [isLeft.output]
      trivial
  have perNode : ∀ field ∈ left.context.perNode, Value.IsPlainField field := by
    intro field h
    rw [isLeft.perNode] at h
    rcases Fields.mem_merge h with h | h
    · cases h
    · obtain ⟨entry, mem, rfl⟩ := List.mem_map.mp h
      exact (entries entry mem).field
  refine Result.isPlain_toValue_iff.mpr
    ⟨output ▸ last, fun field h => ?_, fun entry h => (entries entry h).value⟩
  rw [context] at h
  exact (left.close result.termination).context.isPlainField_of_mem_toFields input closing perNode h

end Graph

end Flowline

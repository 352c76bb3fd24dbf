import Flowline.Proofs.Fields
import Flowline.Proofs.Run.Input

/-!
# Results and traces

A run that returns leaves no trace of itself in its result but its entries: what is carried from
node to node is the initial input with the entries put in one by one, and only an output node adds
to that, which is where a run ends.
-/

namespace Flowline

-- ---------------------------------------------------------------------------
-- What is carried
-- ---------------------------------------------------------------------------

namespace Carry

def follow (carry : Carry) (entry : Entry) : Carry where
  context :=
    { carry.context with
      input := entry.input
      perNode := Fields.put carry.context.perNode entry.nodeId entry.output }
  last := entry.output

def close (carry : Carry) (termination : Termination) : Carry where
  context :=
    { carry.context with
      output := if termination = .output then carry.last else carry.context.output }
  last := carry.last

variable {carry : Carry} {node : Node}

theorem enter_eq (carry : Carry) (node : Node) :
    (carry.enter node).context =
      { carry.context with input := (carry.enter node).context.input } := by
  unfold enter
  split <;> rfl

theorem leave_eq_follow (more : node.kind ≠ .output) (output : Value) :
    (carry.enter node).leave node output =
      carry.follow ((carry.enter node).entry node output) := by
  simp only [leave, follow, entry, beq_eq_false_iff_ne.mpr more, if_neg Bool.false_ne_true]
  rw [enter_eq]

theorem leave_eq_close (last : node.kind = .output) (output : Value) :
    (carry.enter node).leave node output =
      (carry.follow ((carry.enter node).entry node output)).close .output := by
  simp only [leave, follow, entry, close, last, beq_self_eq_true, if_true]
  rw [enter_eq]

theorem finalOutput_close (unset : carry.context.output = .null) (termination : Termination) :
    (carry.close termination).finalOutput = carry.last := by
  by_cases ended : termination = .output <;>
    simp [finalOutput, close, ended, unset, Value.isNull]

/-- What the entries of a walk leave, without its end. -/
structure IsLeft (carry : Carry) (trace : List Entry) (left : Carry) : Prop where
  last : left.last = (trace.getLast?.map Entry.output).getD carry.last
  input : left.context.input = (trace.getLast?.map Entry.input).getD carry.context.input
  output : left.context.output = carry.context.output
  perNode : left.context.perNode = Fields.merge carry.context.perNode
    (trace.map fun entry => (entry.nodeId, entry.output))

theorem isLeft_foldl (carry : Carry) (trace : List Entry) :
    carry.IsLeft trace (trace.foldl follow carry) := by
  induction trace using List.reverseRecOn with
  | nil => exact ⟨rfl, rfl, rfl, rfl⟩
  | append_singleton front last ih =>
    rw [List.foldl_concat]
    refine ⟨?_, ?_, ih.output, ?_⟩
    · rw [List.getLast?_concat]
      rfl
    · rw [List.getLast?_concat]
      rfl
    · rw [List.map_append, List.map_cons, List.map_nil, Fields.merge_concat, ← ih.perNode]
      rfl

end Carry

theorem Node.execute_output {node : Node} (last : node.kind = .output) (services : Services σ)
    (streaming : Bool) (context : Context) (world : σ) :
    node.execute services streaming context world = (⟨[], .done context.passedOn⟩, world) := by
  obtain ⟨id, type, data, config⟩ := node
  cases config with
  | output => rfl
  | _ => cases last

theorem Context.passedOn_ne_null (context : Context) : context.passedOn ≠ .null := by
  unfold passedOn
  split
  · nofun
  · rename_i given
    exact fun none => given (Value.isNull_iff.mpr none)

namespace Plan.Course

variable {plan : Plan σ} {walk : Walk σ}

theorem final_eq (course : plan.Course budget executed carry current world walk after)
    (done : walk.ending = .done (termination, final)) :
    final = (walk.trace.foldl Carry.follow carry).close termination := by
  induction course with
  | deadEnd | stepBudget | cancelled =>
    cases done
    rfl
  | raised | waiting => cases done
  | output _ _ last =>
    cases done
    exact Carry.leave_eq_close last _
  | onward _ _ more _ ih =>
    rw [ih done, Carry.leave_eq_follow more]
    rfl

theorem last_ne_null (course : plan.Course budget executed carry current world walk after)
    (done : walk.ending = .done (.output, final)) :
    ∃ entry, walk.trace.getLast? = some entry ∧ entry.output ≠ .null := by
  induction course with
  | deadEnd | stepBudget | cancelled => cases done
  | raised | waiting => cases done
  | output _ did last =>
    rw [Node.execute_output last] at did
    cases did
    exact ⟨_, rfl, Context.passedOn_ne_null _⟩
  | onward _ _ _ _ ih =>
    obtain ⟨entry, last, nonnull⟩ := ih done
    exact ⟨entry, by simp [Walk.through, List.getLast?_cons, last], nonnull⟩

end Plan.Course

namespace Graph

variable {graph : Graph} {services : Services σ}

theorem left_of_done
    (returned : (graph.run services streaming cancelled world).1.outcome = .done result) :
    ∃ left, Carry.IsLeft ⟨{ input := graph.opening }, graph.opening⟩ result.trace left ∧
      result.context = (left.close result.termination).context ∧ result.output = left.last := by
  obtain ⟨walk, after, final, course, done, told⟩ := course_of_done returned
  have closed := course.final_eq done
  have left := Carry.isLeft_foldl (Carry.initial graph) walk.trace
  generalize walk.trace.foldl Carry.follow (Carry.initial graph) = carry at closed left
  rw [Carry.initial_eq] at left
  have trace : walk.trace = result.trace := by rw [← told]; rfl
  have context : final.context = result.context := by rw [← told]; rfl
  have output : final.finalOutput = result.output := by rw [← told]; rfl
  rw [closed] at context output
  exact ⟨carry, trace ▸ left, context.symm,
    output.symm.trans (Carry.finalOutput_close left.output _)⟩

theorem output_of_done
    (returned : (graph.run services streaming cancelled world).1.outcome = .done result) :
    result.output = (result.trace.getLast?.map Entry.output).getD graph.opening := by
  obtain ⟨left, isLeft, -, output⟩ := left_of_done returned
  exact output.trans isLeft.last

/-- An output node that ends a run puts out something, which is why null can stand for no output. -/
theorem last_of_output
    (returned : (graph.run services streaming cancelled world).1.outcome = .done result)
    (ended : result.termination = .output) :
    ∃ entry, result.trace.getLast? = some entry ∧ entry.output ≠ .null := by
  obtain ⟨walk, after, final, course, done, told⟩ := course_of_done returned
  rw [ended] at done
  rw [← told]
  exact course.last_ne_null done

/-- The result of a run is its trace and its initial input: what its context holds for each node is
that node's last output, the nodes in the order in which they first ran, and for the current input
that of the last entry; it has an output exactly if an output node ended the run, namely that node's
own. What the run puts out is the last output. -/
theorem result_of_trace (graph : Graph) (services : Services σ) (streaming : Bool)
    (cancelled : Nat → Bool) (world : σ) (result : Result)
    (returned : (graph.run services streaming cancelled world).1.outcome = .done result) :
    Fields.keys result.context.perNode = (result.trace.map Entry.nodeId).eraseDups ∧
    (∀ id, Fields.find? result.context.perNode id =
      (result.trace.filter (·.nodeId == id)).getLast?.map Entry.output) ∧
    result.context.input = (result.trace.getLast?.map Entry.input).getD graph.opening ∧
    (result.context.output ≠ .null ↔ result.termination = .output) ∧
    (result.termination = .output →
      ∃ entry, result.trace.getLast? = some entry ∧ result.context.output = entry.output) ∧
    result.output = (result.trace.getLast?.map Entry.output).getD graph.opening := by
  obtain ⟨left, isLeft, context, output⟩ := left_of_done returned
  have put : result.context.output =
      if result.termination = .output then left.last else .null := by
    rw [context]
    exact congrArg (ite _ left.last) isLeft.output
  have ends (ended : result.termination = .output) :
      ∃ entry, result.trace.getLast? = some entry ∧ result.context.output = entry.output ∧
        entry.output ≠ .null := by
    obtain ⟨entry, found, given⟩ := last_of_output returned ended
    exact ⟨entry, found, by simp [put, ended, isLeft.last, found], given⟩
  refine ⟨?_, fun id => ?_, context ▸ isLeft.input, ?_, fun ended => ?_, output_of_done returned⟩
  · rw [context, Carry.close, isLeft.perNode, Fields.keys_merge_nil, Fields.keys, List.map_map]
    rfl
  · rw [context, Carry.close, isLeft.perNode, Fields.find?_merge_nil, List.filter_map,
      List.getLast?_map, Option.map_map]
    rfl
  · constructor
    · exact fun set => by_contra fun other => set (put.trans (if_neg other))
    · intro ended
      obtain ⟨entry, -, same, given⟩ := ends ended
      rwa [same]
  · obtain ⟨entry, found, same, -⟩ := ends ended
    exact ⟨entry, found, same⟩

/-- A condition that says no once, so that its second edge leads back, and then yes. -/
def lasso : Graph where
  nodes := [⟨"a", "", [], .start⟩, ⟨"b", "", [], .condition "'\x7b\x7bb\x7d\x7d' = 'False'"⟩,
    ⟨"c", "", [], .output⟩]
  edges := [⟨"a", "b"⟩, ⟨"b", "c"⟩, ⟨"b", "a"⟩]

/-- The condition keeps its place in the context and has its second output. -/
theorem result_of_trace_lasso :
    ∃ result, (lasso.run Services.idle false (fun _ => false) ()).1.outcome = .done result ∧
      result.trace.map Entry.nodeId = ["a", "b", "a", "b", "c"] ∧
      Fields.keys result.context.perNode = ["a", "b", "c"] ∧
      (Fields.find? result.context.perNode "b").map Value.display = some "True" ∧
      result.context.output ≠ .null := by
  have told : ((lasso.run Services.idle false (fun _ => false) ()).1.outcome.done?.map
      fun result => (result.trace.map Entry.nodeId,
        ((result.trace.filter (·.nodeId == "b")).getLast?.map Entry.output).map Value.display,
        result.termination)) = some (["a", "b", "a", "b", "c"], some "True", .output) := by
    decide +kernel
  obtain ⟨result, done, facts⟩ := Option.map_eq_some_iff.mp told
  have returned := Outcome.done?_eq_some_iff.mp done
  simp only [Prod.mk.injEq] at facts
  obtain ⟨ids, shown, ended⟩ := facts
  obtain ⟨keys, outputs, -, set, -⟩ := result_of_trace lasso Services.idle false _ () _ returned
  refine ⟨result, returned, ids, ?_, by rw [outputs, shown], set.mpr ended⟩
  rw [keys, ids]
  decide

end Graph

end Flowline

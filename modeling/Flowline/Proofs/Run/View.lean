import Flowline.Proofs.Run.Budget
import Flowline.Proofs.Run.Result

/-!
# What templates see and what clients get

The values of a context are read in two ways: a template looks up a key, and a client gets all of
them as one record. Both give the output of the run the right of way over a node whose id is
`output`. A node whose id is `input` is different: a template sees the current input, and the record
has the output of that node.
-/

namespace Flowline

namespace Context

variable {context : Context} {key : String}

theorem find?_toFields (distinct : (Fields.keys context.perNode).Nodup) (key : String) :
    Fields.find? context.toFields key =
      if key = outputName && !context.output.isNull then some context.output
      else (Fields.find? context.perNode key).or
        (if key = inputName && !context.input.isNull then some context.input else none) := by
  have opening : Fields.find? (if context.input.isNull then [] else [(inputName, context.input)])
      key = if key = inputName && !context.input.isNull then some context.input else none := by
    cases null : context.input.isNull <;> simp [Fields.find?, eq_comm]
  unfold toFields
  cases null : context.output.isNull with
  | true => simpa [Fields.find?_merge, distinct] using congrArg _ opening
  | false =>
    by_cases same : key = outputName
    · simp [same]
    · simpa [Fields.find?_merge, distinct, same] using congrArg _ opening

theorem find?_toFields_of_ne (distinct : (Fields.keys context.perNode).Nodup)
    (other : key ≠ inputName) : Fields.find? context.toFields key = context.lookup? key := by
  rw [find?_toFields distinct]
  simp [lookup?, other]

/-- A node whose id is `input` comes before the current input. -/
theorem find?_toFields_input (distinct : (Fields.keys context.perNode).Nodup) :
    Fields.find? context.toFields inputName =
      (Fields.find? context.perNode inputName).or (context.lookup? inputName) := by
  have apart : inputName ≠ outputName := by decide
  rw [find?_toFields distinct]
  cases null : context.input.isNull <;> simp [lookup?, apart, null]

theorem lookup?_input_of_null (none : context.input = .null) :
    context.lookup? inputName = Fields.find? context.perNode inputName := by
  have apart : inputName ≠ outputName := by decide
  simp [lookup?, apart, Value.isNull_iff.mpr none]

theorem lookup?_input (given : context.input ≠ .null) :
    context.lookup? inputName = some context.input := by
  simp [lookup?, Bool.eq_false_iff.mpr (mt Value.isNull_iff.mp given)]

theorem agrees_iff (distinct : (Fields.keys context.perNode).Nodup) :
    (∀ key v, context.lookup? key = some v ↔ Fields.find? context.toFields key = some v) ↔
      ∀ v, Fields.find? context.perNode inputName = some v →
        context.input = .null ∨ context.input = v := by
  have record := find?_toFields_input distinct
  constructor
  · intro agrees v node
    refine or_iff_not_imp_left.mpr fun given => ?_
    have put := (agrees inputName _).mp (lookup?_input given)
    rw [record, node, Option.some_or] at put
    exact (Option.some.inj put).symm
  · intro hidden key v
    by_cases same : key = inputName
    · rw [same, record]
      cases node : Fields.find? context.perNode inputName with
      | none => rfl
      | some w =>
        rcases hidden w node with none | rfl
        · rw [lookup?_input_of_null none, node, Option.some_or]
        · by_cases none : context.input = .null
          · rw [lookup?_input_of_null none, node, Option.some_or]
          · rw [lookup?_input none, Option.some_or]
    · rw [find?_toFields_of_ne distinct same]

end Context

namespace Visit

variable {services : Services σ} {streaming : Bool}

/-- The contexts that come about in a visit: the one that the node finds and, once it is done, the
one with its output and the one that it leaves. -/
def contexts (visit : Visit services streaming) : List Context :=
  visit.carry.context :: match visit.did.1.outcome with
    | .done output =>
      let put := Fields.put visit.carry.context.perNode visit.node.id output
      [{ visit.carry.context with perNode := put }, (visit.carry.leave visit.node output).context]
    | _ => []

theorem of_mem_contexts {visit : Visit services streaming} (reached : context ∈ visit.contexts) :
    context.perNode = visit.carry.context.perNode ∨
      ∃ output, context.perNode = Fields.put visit.carry.context.perNode visit.node.id output := by
  unfold contexts at reached
  rcases List.mem_cons.mp reached with rfl | left
  · exact .inl rfl
  · split at left
    · rcases List.mem_pair.mp left with rfl | rfl <;> exact .inr ⟨_, rfl⟩
    · nomatch left

end Visit

namespace Plan

variable {plan : Plan σ} {walk : Walk σ}

theorem Course.forall_perNode {P : Fields Value → Prop}
    (course : plan.Course budget executed carry current world walk after)
    (step : ∀ visit ∈ plan.visits budget executed carry current world, ∀ fields output,
      P fields → P (Fields.put fields visit.node.id output))
    (holds : P carry.context.perNode) :
    ∀ visit ∈ plan.visits budget executed carry current world, P visit.carry.context.perNode := by
  have entered {carry : Carry} (node : Node) (holds : P carry.context.perNode) :
      P (carry.enter node).context.perNode := by rwa [Carry.enter_eq]
  induction course with
  | deadEnd => simp [visits]
  | stepBudget => simp [visits]
  | cancelled off => simp [visits, off]
  | raised on did | waiting on did =>
    simpa [visits_of_broken on did rfl] using entered _ holds
  | output on did last => simpa [visits_of_done on did, last] using entered _ holds
  | onward on did more _ ih =>
    rw [visits_of_done on did, if_neg (by simpa using more)] at step ⊢
    obtain ⟨here, further⟩ := List.forall_mem_cons.mp step
    exact List.forall_mem_cons.mpr ⟨entered _ holds, ih further (here _ _ (entered _ holds))⟩

theorem Course.final_mem (course : plan.Course budget executed carry current world walk after)
    (done : walk.ending = .done (termination, final)) :
    final.context ∈ carry.context ::
      (plan.visits budget executed carry current world).flatMap Visit.contexts := by
  induction course with
  | deadEnd | stepBudget | cancelled =>
    cases done
    exact List.mem_cons_self
  | raised | waiting => cases done
  | output on did last =>
    cases done
    simp [visits_of_done on did, last, Visit.contexts, Visit.did, did]
  | onward on did more _ ih =>
    have going := beq_eq_false_iff_ne.mpr more
    rcases List.mem_cons.mp (ih done) with same | later
    · simp [visits_of_done on did, going, Visit.contexts, Visit.did, did, same]
    · simp [visits_of_done on did, going, List.mem_flatMap.mp later]

end Plan

namespace Graph

variable (graph : Graph) (services : Services σ) (streaming : Bool) (cancelled : Nat → Bool)
  (world : σ)

def contexts : List Context :=
  (Carry.initial graph).context ::
    (graph.visits services streaming cancelled world).flatMap Visit.contexts

variable {graph services streaming cancelled world}

theorem forall_perNode {P : Fields Value → Prop} (empty : P [])
    (step : ∀ fields, ∀ id ∈ graph.ids, ∀ output, P fields → P (Fields.put fields id output))
    (reached : context ∈ graph.contexts services streaming cancelled world) :
    P context.perNode := by
  have course := (graph.plan services streaming cancelled).course_walk
    (stepBudget graph.nodes.length) 0 (Carry.initial graph) (Index.ofGraph graph).start world
  have opening : P (Carry.initial graph).context.perNode := by rwa [Carry.initial_eq]
  have grows (visit) (visited : visit ∈ graph.visits services streaming cancelled world) (fields)
      (output) : P fields → P (Fields.put fields visit.node.id output) :=
    step fields _ (mem_ids (graph.mem_of_mem_visits services streaming cancelled world _ visited)) _
  rcases List.mem_cons.mp reached with rfl | later
  · exact opening
  · obtain ⟨visit, visited, within⟩ := List.mem_flatMap.mp later
    have found := course.forall_perNode grows opening visit visited
    rcases Visit.of_mem_contexts within with same | ⟨output, put⟩
    · rwa [same]
    · rw [put]
      exact grows visit visited _ _ found

theorem nodup_keys_of_mem_contexts
    (reached : context ∈ graph.contexts services streaming cancelled world) :
    (Fields.keys context.perNode).Nodup :=
  forall_perNode (P := fun fields => (Fields.keys fields).Nodup) List.nodup_nil
    (fun fields id _ => Fields.nodup_keys_put fields id) reached

theorem find?_perNode_of_mem_contexts
    (reached : context ∈ graph.contexts services streaming cancelled world)
    (other : key ∉ graph.ids) :
    Fields.find? context.perNode key = none := by
  refine forall_perNode (P := fun fields => Fields.find? fields key = none) rfl ?_ reached
  intro fields id known output none
  have apart : key ≠ id := fun same => other (same ▸ known)
  rwa [Fields.find?_put_of_ne fields output apart]

theorem context_mem_of_done
    (returned : (graph.run services streaming cancelled world).1.outcome = .done result) :
    result.context ∈ graph.contexts services streaming cancelled world := by
  obtain ⟨walk, after, final, course, done, told⟩ := course_of_done returned
  rw [← told]
  exact course.final_mem done

/-- What templates see beside what clients get, in every context that comes about in a run, the one
of its result included. They are the same for every key but `input`, where the record prefers a node
of that id; so they differ exactly if such a node has put out something else than the current input,
and never without such a node. -/
theorem contexts_agree_iff (graph : Graph) (services : Services σ) (streaming : Bool)
    (cancelled : Nat → Bool) (world : σ) :
    let contexts := graph.contexts services streaming cancelled world
    (∀ result, (graph.run services streaming cancelled world).1.outcome = .done result →
      result.context ∈ contexts) ∧
    (∀ context ∈ contexts,
      (∀ key, key ≠ Context.inputName →
        Fields.find? context.toFields key = context.lookup? key) ∧
      Fields.find? context.toFields Context.inputName =
        (Fields.find? context.perNode Context.inputName).or
          (context.lookup? Context.inputName) ∧
      ((∀ key v, context.lookup? key = some v ↔ Fields.find? context.toFields key = some v) ↔
        ∀ v, Fields.find? context.perNode Context.inputName = some v →
          context.input = .null ∨ context.input = v)) ∧
    (Context.inputName ∉ graph.ids → ∀ context ∈ contexts, ∀ key,
      Fields.find? context.toFields key = context.lookup? key) := by
  intro contexts
  refine ⟨fun _ => context_mem_of_done, fun context reached => ?_, ?_⟩
  · have distinct := nodup_keys_of_mem_contexts reached
    exact ⟨fun _ => Context.find?_toFields_of_ne distinct, Context.find?_toFields_input distinct,
      Context.agrees_iff distinct⟩
  · intro other context reached key
    have distinct := nodup_keys_of_mem_contexts reached
    by_cases same : key = Context.inputName
    · rw [same, Context.find?_toFields_input distinct, find?_perNode_of_mem_contexts reached other,
        Option.none_or]
    · exact Context.find?_toFields_of_ne distinct same

/-- In the lasso no node is called `input`. -/
theorem contexts_agree_iff_lasso :
    ∃ result, (lasso.run Services.idle false (fun _ => false) ()).1.outcome = .done result ∧
      ∀ key, Fields.find? result.context.toFields key = result.context.lookup? key := by
  have ends : (lasso.run Services.idle false (fun _ => false) ()).1.outcome.done?.isSome := by
    decide +kernel
  obtain ⟨result, done⟩ := Option.isSome_iff_exists.mp ends
  have returned := Outcome.done?_eq_some_iff.mp done
  obtain ⟨reached, -, agree⟩ := contexts_agree_iff lasso Services.idle false (fun _ => false) ()
  exact ⟨result, returned, agree (by decide) _ (reached result returned)⟩

def mirror : Graph where
  nodes := [⟨"input", "", [], .start⟩, ⟨"b", "", [], .condition "'b'"⟩,
    ⟨"c", "", [], .dbQuery "SELECT '\x7b\x7binput\x7d\x7d'"⟩]
  edges := [⟨"input", "b"⟩, ⟨"b", "c"⟩]
  initialInput := some "a"

/-- The statement is filled with what the condition has put out, and the client is told what the
start node has put out. -/
theorem contexts_mirror :
    ∃ result, (mirror.run Services.idle false (fun _ => false) ()).1.outcome = .done result ∧
      result.context ∈ mirror.contexts Services.idle false (fun _ => false) () ∧
      (result.context.lookup? Context.inputName).map Value.display = some "b" ∧
      (Fields.find? result.context.toFields Context.inputName).map Value.display = some "a" ∧
      ¬ ∀ key v, result.context.lookup? key = some v ↔
        Fields.find? result.context.toFields key = some v := by
  have told : ((mirror.run Services.idle false (fun _ => false) ()).1.outcome.done?.map
      fun result => ((result.context.lookup? Context.inputName).map Value.display,
        (Fields.find? result.context.toFields Context.inputName).map Value.display)) =
          some (some "b", some "a") := by decide +kernel
  obtain ⟨result, done, facts⟩ := Option.map_eq_some_iff.mp told
  obtain ⟨seen, got⟩ := Prod.mk.inj facts
  have returned := Outcome.done?_eq_some_iff.mp done
  refine ⟨result, returned, context_mem_of_done returned, seen, got, fun agree => ?_⟩
  have same : result.context.lookup? Context.inputName =
      Fields.find? result.context.toFields Context.inputName := Option.ext (agree _)
  rw [same, got] at seen
  exact absurd seen (by decide)

end Graph

end Flowline

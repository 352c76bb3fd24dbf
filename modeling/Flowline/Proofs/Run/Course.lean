import Flowline.Run.Walk

/-!
# Courses of walks

How a walk comes about, node by node. A course says everything that one node can do to a walk: end
it in one of six ways, or lead on. What holds of every walk is shown by induction on its course,
with a case for each of these, and needs no look at `Plan.walk` itself.
-/

namespace Flowline

namespace Plan

/-- A walk from some node on, with the worlds before and after it. -/
inductive Course (plan : Plan σ) :
    (budget executed : Nat) → Carry → Option Node → σ → Walk σ → σ → Prop
  | deadEnd : Course plan budget executed carry none world (.stop .deadEnd carry) world
  | stepBudget : Course plan 0 executed carry (some node) world (.stop .stepBudget carry) world
  | cancelled (off : plan.cancelled executed = true) :
      Course plan (budget + 1) executed carry (some node) world (.stop .cancelled carry) world
  | raised (on : plan.cancelled executed = false)
      (did : node.execute plan.services plan.streaming (carry.enter node).context world =
        (⟨pieces, .raised fault⟩, after)) :
      Course plan (budget + 1) executed carry (some node) world
        { notices := Walk.opening node pieces, ending := .raised fault } after
  | waiting (on : plan.cancelled executed = false)
      (did : node.execute plan.services plan.streaming (carry.enter node).context world =
        (⟨pieces, .waiting cancel⟩, after)) :
      Course plan (budget + 1) executed carry (some node) world
        { notices := Walk.opening node pieces, ending := .waiting cancel } after
  | output (on : plan.cancelled executed = false)
      (did : node.execute plan.services plan.streaming (carry.enter node).context world =
        (⟨pieces, .done output⟩, after))
      (last : node.kind = .output) :
      Course plan (budget + 1) executed carry (some node) world
        ((Walk.stop .output ((carry.enter node).leave node output)).through node pieces
          ((carry.enter node).entry node output)) after
  | onward (on : plan.cancelled executed = false)
      (did : node.execute plan.services plan.streaming (carry.enter node).context world =
        (⟨pieces, .done output⟩, middle))
      (more : node.kind ≠ .output)
      (rest : Course plan budget (executed + 1) ((carry.enter node).leave node output)
        (plan.index.next? node output) middle tail after) :
      Course plan (budget + 1) executed carry (some node) world
        (tail.through node pieces ((carry.enter node).entry node output)) after

theorem course_walk (plan : Plan σ) (budget executed : Nat) (carry : Carry)
    (current : Option Node) (world : σ) :
    plan.Course budget executed carry current world
      (plan.walk budget executed carry current world).1
      (plan.walk budget executed carry current world).2 := by
  induction budget generalizing executed carry current world with
  | zero =>
    cases current with
    | none => simpa only [walk] using .deadEnd
    | some node => simpa only [walk] using .stepBudget
  | succ budget ih =>
    cases current with
    | none => simpa only [walk] using .deadEnd
    | some node =>
      simp only [walk]
      by_cases off : plan.cancelled executed = true
      · simpa only [off, if_true] using .cancelled off
      · have on : plan.cancelled executed = false := by simpa using off
        simp only [on, Bool.false_eq_true, if_false]
        cases did : node.execute plan.services plan.streaming (carry.enter node).context world with
        | mk told after =>
          obtain ⟨pieces, outcome⟩ := told
          cases outcome with
          | done output =>
            by_cases last : node.kind = .output
            · simpa only [last, beq_self_eq_true, if_true] using .output on did last
            · have more : (node.kind == .output) = false := by simpa using last
              simp only [more, Bool.false_eq_true, if_false]
              exact .onward on did last (ih ..)
          | raised fault => exact .raised on did
          | waiting cancel => exact .waiting on did

theorem Course.walk_eq {plan : Plan σ} {walk : Walk σ}
    (course : plan.Course budget executed carry current world walk after) :
    plan.walk budget executed carry current world = (walk, after) := by
  induction course with
  | deadEnd | stepBudget => simp only [Plan.walk]
  | cancelled off => simp only [Plan.walk, off, if_true]
  | raised on did | waiting on did =>
    simp only [Plan.walk, on, did, Bool.false_eq_true, if_false]
  | output on did last =>
    simp only [Plan.walk, on, did, last, beq_self_eq_true, if_true, Bool.false_eq_true, if_false]
  | onward on did more _ ih =>
    simp only [Plan.walk, on, did, beq_eq_false_iff_ne.mpr more, ih, Bool.false_eq_true, if_false]

end Plan

def Graph.plan (graph : Graph) (services : Services σ) (streaming : Bool)
    (cancelled : Nat → Bool) : Plan σ :=
  ⟨Index.ofGraph graph, services, streaming, cancelled⟩

/-- A run is the report of a walk that has a course from the start node. -/
theorem Graph.course_run (graph : Graph) (services : Services σ) (streaming : Bool)
    (cancelled : Nat → Bool) (world : σ) :
    ∃ walk after, graph.run services streaming cancelled world = (walk.report, after) ∧
      (graph.plan services streaming cancelled).Course (stepBudget graph.nodes.length) 0
        (Carry.initial graph) (Index.ofGraph graph).start world walk after :=
  ⟨_, _, rfl, Plan.course_walk ..⟩

theorem Graph.course_of_done {graph : Graph} {services : Services σ} {result : Result}
    (returned : (graph.run services streaming cancelled world).1.outcome = .done result) :
    ∃ walk after final, (graph.plan services streaming cancelled).Course
        (stepBudget graph.nodes.length) 0 (Carry.initial graph) (Index.ofGraph graph).start world
        walk after ∧
      walk.ending = .done (result.termination, final) ∧
      walk.result result.termination final = result := by
  obtain ⟨walk, after, ran, course⟩ := graph.course_run services streaming cancelled world
  rw [ran] at returned
  cases done : walk.ending with
  | done ending =>
    obtain ⟨termination, final⟩ := ending
    have told : walk.result termination final = result := by
      simpa [Walk.report, done] using returned
    subst told
    exact ⟨walk, after, final, course, done, rfl⟩
  | raised fault => simp [Walk.report, done] at returned
  | waiting cancel => simp [Walk.report, done] at returned

def Services.idle : Services Unit where
  complete _ := pure ""
  stream _ := Telling.ofAct (pure ())
  query _ _ := pure .null
  send _ := pure .null

end Flowline

import Flowline.Proofs.Run.Result

/-!
# Runs that are called off

To call off a run cuts it and does nothing else: up to the cut it is the run that is not called off,
and behind the cut there is nothing but its end. A run that would have come to its end before the
cut is not touched by it.
-/

namespace Flowline

/-- A walk and its visits, and those of the same walk when it is called off after `n` nodes. -/
structure Walk.IsCut {services : Services σ} (n : Nat) (whole : Walk σ × σ)
    (visits : List (Visit services streaming)) (cut : Walk σ × σ)
    (left : List (Visit services streaming)) : Prop where
  taken : left = visits.take n
  short : visits.length ≤ n → cut = whole
  long : n < visits.length → ∃ carry, cut.1.ending = .done (.cancelled, carry)

namespace Walk

variable {services : Services σ} {visits left : List (Visit services streaming)}

theorem isCut_of_length_le (whole : Walk σ × σ) (le : visits.length ≤ n) :
    IsCut n whole visits whole visits :=
  ⟨(List.take_of_length_le le).symm, fun _ => rfl, fun long => absurd le (Nat.not_le.mpr long)⟩

theorem isCut_zero (whole : Walk σ × σ) (carry : Carry) (world : σ)
    (visit : Visit services streaming) (rest : List (Visit services streaming)) :
    IsCut 0 whole (visit :: rest) (.stop .cancelled carry, world) [] :=
  ⟨rfl, fun short => absurd short (Nat.not_succ_le_zero _), fun _ => ⟨carry, rfl⟩⟩

theorem IsCut.through {cut : Walk σ × σ} (isCut : IsCut n (tail, after) visits cut left)
    (visit : Visit services streaming) (node : Node) (pieces : List String) (entry : Entry) :
    IsCut (n + 1) (tail.through node pieces entry, after) (visit :: visits)
      (cut.1.through node pieces entry, cut.2) (visit :: left) where
  taken := by rw [isCut.taken, List.take_succ_cons]
  short short := by rw [isCut.short (Nat.le_of_succ_le_succ short)]
  long long := isCut.long (Nat.lt_of_succ_lt_succ long)

end Walk

namespace Plan

variable {plan : Plan σ} {walk : Walk σ}

/-- The same plan, called off once `n` nodes have run. -/
def cut (plan : Plan σ) (n : Nat) : Plan σ where
  index := plan.index
  services := plan.services
  streaming := plan.streaming
  cancelled executed := n ≤ executed

theorem off_cut (plan : Plan σ) (stop : n ≤ executed) :
    (plan.cut n).cancelled executed = true := by
  simpa [cut] using stop

theorem on_cut (plan : Plan σ) (going : executed < n) :
    (plan.cut n).cancelled executed = false := by
  simpa [cut] using going

theorem isCut_of_stop (plan : Plan σ) (never : ∀ executed, plan.cancelled executed = false)
    (stop : n ≤ executed) (budget : Nat) (carry : Carry) (current : Option Node) (world : σ) :
    Walk.IsCut 0 (plan.walk budget executed carry current world)
      (plan.visits budget executed carry current world)
      ((plan.cut n).walk budget executed carry current world)
      ((plan.cut n).visits budget executed carry current world) := by
  match budget, current with
  | 0, none | 0, some node | budget + 1, none =>
    simp only [Plan.walk, visits]
    exact Walk.isCut_of_length_le _ (Nat.le_refl 0)
  | budget + 1, some node =>
    simp only [visits, never, Plan.walk, plan.off_cut stop, if_true, Bool.false_eq_true, if_false]
    exact Walk.isCut_zero ..

/-- The walk that is cut follows the whole walk's course up to the cut. -/
theorem Course.isCut (course : plan.Course budget executed carry current world walk after)
    (never : ∀ executed, plan.cancelled executed = false) (going : executed < n) :
    Walk.IsCut (n - executed) (walk, after) (plan.visits budget executed carry current world)
      ((plan.cut n).walk budget executed carry current world)
      ((plan.cut n).visits budget executed carry current world) := by
  induction course with
  | deadEnd | stepBudget =>
    simp only [Plan.walk, visits]
    exact Walk.isCut_of_length_le _ (Nat.zero_le _)
  | cancelled off => simp [never] at off
  | raised on did =>
    have on' := plan.on_cut going
    rw [(Course.raised on' did).walk_eq, visits_of_broken on did rfl,
      visits_of_broken on' did rfl]
    exact Walk.isCut_of_length_le _ (Nat.sub_pos_of_lt going)
  | waiting on did =>
    have on' := plan.on_cut going
    rw [(Course.waiting on' did).walk_eq, visits_of_broken on did rfl,
      visits_of_broken on' did rfl]
    exact Walk.isCut_of_length_le _ (Nat.sub_pos_of_lt going)
  | output on did last =>
    have on' := plan.on_cut going
    rw [(Course.output on' did last).walk_eq, visits_of_done on did, visits_of_done on' did,
      if_pos (by simpa using last), if_pos (by simpa using last)]
    exact Walk.isCut_of_length_le _ (Nat.sub_pos_of_lt going)
  | @onward executed _ _ _ _ _ _ _ _ _ on did more rest ih =>
    have on' := plan.on_cut going
    have count : n - executed = n - (executed + 1) + 1 := by omega
    rw [(Course.onward on' did more (course_walk ..)).walk_eq, visits_of_done on did,
      visits_of_done on' did, if_neg (by simpa using more), if_neg (by simpa using more), count]
    refine Walk.IsCut.through ?_ ..
    -- the cut is further on or right behind this node
    rcases Nat.lt_or_ge (executed + 1) n with further | stop
    · exact ih further
    · rw [Nat.sub_eq_zero_of_le stop, ← rest.walk_eq]
      exact isCut_of_stop plan never stop ..

end Plan

namespace Graph

theorem isCut_run (graph : Graph) (services : Services σ) (streaming : Bool) (n : Nat)
    (world : σ) :
    ∃ whole cut : Walk σ × σ,
      graph.run services streaming (fun _ => false) world = (whole.1.report, whole.2) ∧
      graph.run services streaming (fun executed => n ≤ executed) world =
        (cut.1.report, cut.2) ∧
      Walk.IsCut n whole (graph.visits services streaming (fun _ => false) world) cut
        (graph.visits services streaming (fun executed => n ≤ executed) world) := by
  refine ⟨_, _, rfl, rfl, ?_⟩
  rcases Nat.eq_zero_or_pos n with rfl | going
  · exact Plan.isCut_of_stop _ (fun _ => rfl) (Nat.le_refl 0) ..
  · have course := (graph.plan services streaming fun _ => false).course_walk
      (stepBudget graph.nodes.length) 0 (Carry.initial graph) (Index.ofGraph graph).start world
    exact course.isCut (fun _ => rfl) going

/-- To call off a run after `n` nodes does nothing to it if it comes to its end before: if it
returns after `n` nodes at most, or if less than `n` nodes are done when it breaks off. Otherwise
the run returns behind the `n`th node, and its trace, its notices and its calls are those that the
whole run has up to there. -/
theorem run_cut (graph : Graph) (services : Services σ) (streaming : Bool) (n : Nat) (world : σ) :
    let whole := graph.run services streaming (fun _ => false) world
    let cut := graph.run services streaming (fun executed => n ≤ executed) world
    let calls := graph.calls services streaming (fun executed => n ≤ executed) world
    let visits := graph.visits services streaming (fun _ => false) world
    let ends := if whole.1.outcome.isDone then whole.1.trace.length ≤ n
      else whole.1.trace.length < n
    graph.calls services streaming (fun _ => false) world = visits.flatMap Visit.calls ∧
    whole.1.notices = .started :: visits.flatMap Visit.notices ++
      (match whole.1.outcome with
        | .done result => [.ended result]
        | _ => []) ∧
    (ends → cut = whole ∧ calls = graph.calls services streaming (fun _ => false) world) ∧
    (¬ ends → ∃ result, cut.1.outcome = .done result ∧ result.termination = .cancelled ∧
      n ≤ whole.1.trace.length ∧ result.trace = whole.1.trace.take n ∧
      (visits.take n).map Visit.entry? = result.trace.map some ∧
      calls = (visits.take n).flatMap Visit.calls ∧
      cut.1.notices = .started :: (visits.take n).flatMap Visit.notices ++ [.ended result] ∧
      result.output = (result.trace.getLast?.map Entry.output).getD graph.opening) := by
  intro whole cut calls visits ends
  obtain ⟨walk, off, ran, ranOff, isCut⟩ := graph.isCut_run services streaming n world
  have length : visits.length =
      if whole.1.outcome.isDone then whole.1.trace.length else whole.1.trace.length + 1 :=
    graph.length_visits services streaming (fun _ => false) world
  have within : ends ↔ visits.length ≤ n := by
    simp only [ends, length]
    split <;> omega
  have made : calls = (visits.take n).flatMap Visit.calls := by
    rw [← isCut.taken]
    exact graph.calls_visits ..
  refine ⟨graph.calls_visits .., graph.notices_visits .., fun ended => ?_, fun going => ?_⟩
  · have short := within.mp ended
    refine ⟨?_, by rw [made, List.take_of_length_le short, graph.calls_visits]⟩
    simp only [cut, whole, ran, ranOff, isCut.short short]
  · have long := Nat.lt_of_not_le (within.not.mp going)
    have le : n ≤ whole.1.trace.length := by
      rw [length] at long
      split at long <;> omega
    obtain ⟨carry, ending⟩ := isCut.long long
    have returned : cut.1.outcome = .done (off.1.result .cancelled carry) := by
      simp only [cut, ranOff, Walk.report, ending]
    have entries := graph.entries_of_done services streaming _ world returned
    rw [isCut.taken] at entries
    refine ⟨_, returned, rfl, le, ?_, entries, made, ?_, output_of_done returned⟩
    · rw [graph.take_entries_visits services streaming _ world n le] at entries
      exact List.map_injective_iff.mpr (fun _ _ => Option.some.inj) entries.symm
    · have told : cut.1.notices = _ :=
        graph.notices_visits services streaming (fun executed => n ≤ executed) world
      rw [told, isCut.taken]
      simp only [cut] at returned
      rw [returned]

/-- Called off after two nodes, the run does not come to the chat that would break it off. -/
theorem run_cut_unready :
    let whole := (unready.run Services.idle false (fun _ => false) ()).1
    let cut := (unready.run Services.idle false (fun executed => 2 ≤ executed) ()).1
    whole.outcome.isDone = false ∧ ∃ result, cut.outcome = .done result ∧
      result.termination = .cancelled ∧ result.trace = whole.trace.take 2 ∧
      result.trace.length = 2 := by
  intro whole cut
  have broken : whole.outcome.isDone = false := by decide +kernel
  have long : whole.trace.length = 2 := by decide +kernel
  obtain ⟨-, -, -, cutOff⟩ := run_cut unready Services.idle false 2 ()
  obtain ⟨result, returned, called, -, taken, -⟩ := cutOff (by simp [whole, broken, long])
  exact ⟨broken, result, returned, called, taken, by rw [taken]; simp [whole, long]⟩

end Graph

end Flowline

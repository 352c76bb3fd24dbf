import Flowline.Proofs.Run.Log
import Mathlib.Data.List.Chain

/-!
# Visits

The nodes that a walk executes, one after the other, each with what it finds. A visit that is done
leaves an entry, and where a walk is broken off, its last visit is what broke. What a walk tells on
its way and the calls that it makes are those of its visits.
-/

namespace Flowline

/-- A node that is executed, with what it finds. -/
structure Visit (services : Services σ) (streaming : Bool) where
  node : Node
  /-- What is carried to the node, with the input that it has. -/
  carry : Carry
  world : σ

/-- Two outcomes that break off in the same way, whatever they would have been done with. -/
def Outcome.BreaksAs (outcome : Outcome σ α) (other : Outcome σ β) : Prop :=
  (∃ fault, outcome = .raised fault ∧ other = .raised fault) ∨
    ∃ cancel, outcome = .waiting cancel ∧ other = .waiting cancel

def Outcome.isDone : Outcome σ α → Bool
  | .done _ => true
  | _ => false

def Outcome.done? : Outcome σ α → Option α
  | .done a => some a
  | _ => none

theorem Outcome.done?_eq_some_iff {outcome : Outcome σ α} :
    outcome.done? = some a ↔ outcome = .done a := by
  cases outcome <;> simp [done?]

namespace Visit

variable {services : Services σ} {streaming : Bool}

def did (visit : Visit services streaming) : Transcript σ String Value × σ :=
  visit.node.execute services streaming visit.carry.context visit.world

def entry? (visit : Visit services streaming) : Option Entry :=
  match visit.did.1.outcome with
  | .done output => some (visit.carry.entry visit.node output)
  | _ => none

def notices (visit : Visit services streaming) : List Notice :=
  Walk.opening visit.node visit.did.1.pieces ++ (visit.entry?.map Notice.left).toList

def calls (visit : Visit services streaming) : List Call :=
  visit.node.calls services streaming visit.carry.context

theorem entry?_eq_some_iff {visit : Visit services streaming} {entry : Entry} :
    visit.entry? = some entry ↔ ∃ output, visit.did.1.outcome = .done output ∧
      entry = visit.carry.entry visit.node output := by
  unfold entry?
  split
  · rename_i output done
    simp [done, eq_comm]
  · rename_i going
    simp only [reduceCtorEq, false_iff, not_exists, not_and]
    exact fun output done => absurd done (going output)

theorem of_head?_entries {visits : List (Visit services streaming)} {trace : List Entry}
    (entries : visits.map entry? = trace.map some) (first : trace.head? = some entry) :
    ∃ visit, visits.head? = some visit ∧ visit.entry? = some entry := by
  have left := congrArg List.head? entries
  simpa only [List.head?_map, first, Option.map_some, Option.map_eq_some_iff] using left

theorem of_getLast?_entries {visits : List (Visit services streaming)} {trace : List Entry}
    (entries : visits.map entry? = trace.map some) (last : trace.getLast? = some entry) :
    ∃ visit, visits.getLast? = some visit ∧ visit.entry? = some entry := by
  have left := congrArg List.getLast? entries
  simpa only [List.getLast?_map, last, Option.map_some, Option.map_eq_some_iff] using left

end Visit

def Walk.beside (walk : Walk σ) : Walk (σ × τ) where
  notices := walk.notices
  trace := walk.trace
  ending := walk.ending.beside

def Report.beside (report : Report σ) : Report (σ × τ) where
  notices := report.notices
  trace := report.trace
  outcome := report.outcome.beside

theorem Walk.report_beside (walk : Walk σ) :
    (walk.beside : Walk (σ × τ)).report = walk.report.beside := by
  obtain ⟨notices, trace, ending⟩ := walk
  cases ending <;> rfl

namespace Plan

variable {plan : Plan σ} {walk : Walk σ}

def visits (plan : Plan σ) : (budget executed : Nat) → Carry → Option Node → σ →
    List (Visit plan.services plan.streaming)
  | budget + 1, executed, carry, some node, world =>
    if plan.cancelled executed then []
    else
      let visit : Visit plan.services plan.streaming := ⟨node, carry.enter node, world⟩
      visit :: match visit.did.1.outcome with
        | .done output =>
          if node.kind == .output then []
          else
            plan.visits budget (executed + 1) (visit.carry.leave node output)
              (plan.index.next? node output) visit.did.2
        | _ => []
  | _, _, _, _, _ => []

structure Leads (plan : Plan σ) (visit : Visit plan.services plan.streaming) (output : Value)
    (next : Visit plan.services plan.streaming) : Prop where
  done : visit.did.1.outcome = .done output
  more : visit.node.kind ≠ .output
  node : plan.index.next? visit.node output = some next.node
  carry : next.carry = (visit.carry.leave visit.node output).enter next.node
  world : next.world = visit.did.2

theorem visits_of_done (on : plan.cancelled executed = false)
    (did : node.execute plan.services plan.streaming (carry.enter node).context world =
      (⟨pieces, .done output⟩, after)) (budget : Nat) :
    plan.visits (budget + 1) executed carry (some node) world =
      ⟨node, carry.enter node, world⟩ ::
        if node.kind == .output then []
        else
          plan.visits budget (executed + 1) ((carry.enter node).leave node output)
            (plan.index.next? node output) after := by
  simp only [visits, on, Bool.false_eq_true, if_false, Visit.did, did]

theorem visits_of_broken (on : plan.cancelled executed = false)
    (did : node.execute plan.services plan.streaming (carry.enter node).context world =
      (⟨pieces, outcome⟩, after)) (broken : outcome.isDone = false) (budget : Nat) :
    plan.visits (budget + 1) executed carry (some node) world =
      [⟨node, carry.enter node, world⟩] := by
  cases outcome with
  | done => cases broken
  | raised | waiting => simp only [visits, on, Bool.false_eq_true, if_false, Visit.did, did]

theorem of_head?_visits {visit : Visit plan.services plan.streaming}
    (first : (plan.visits budget executed carry current world).head? = some visit) :
    current = some visit.node ∧ visit.carry = carry.enter visit.node ∧ visit.world = world := by
  match budget, current with
  | 0, _ => simp [visits] at first
  | _ + 1, none => simp [visits] at first
  | budget + 1, some node =>
    simp only [visits] at first
    split at first
    · simp at first
    · simp only [List.head?_cons, Option.some.injEq] at first
      subst first
      exact ⟨rfl, rfl, rfl⟩

theorem Course.isChain_visits
    (course : plan.Course budget executed carry current world walk after) :
    (plan.visits budget executed carry current world).IsChain fun visit next =>
      ∃ output, plan.Leads visit output next := by
  induction course with
  | deadEnd => simp [visits]
  | stepBudget => simp [visits]
  | cancelled off => simp [visits, off]
  | raised on did => simp only [visits_of_broken on did rfl, List.isChain_singleton]
  | waiting on did => simp only [visits_of_broken on did rfl, List.isChain_singleton]
  | output on did last => simp [visits_of_done on did, last]
  | onward on did more _ ih =>
    rw [visits_of_done on did, if_neg (by simpa using more)]
    refine List.isChain_cons.mpr ⟨fun next first => ?_, ih⟩
    obtain ⟨follows, carried, stands⟩ := of_head?_visits first
    exact ⟨_, by simp only [Visit.did, did], more, follows, carried,
      by simp only [Visit.did, did, stands]⟩

/-- A walk that comes to its end has done all its visits, and one that is broken off all but the
last. -/
theorem Course.entries_visits
    (course : plan.Course budget executed carry current world walk after) :
    let visits := plan.visits budget executed carry current world
    ((∃ ended, walk.ending = .done ended) ∧
      visits.map Visit.entry? = walk.trace.map some) ∨
    ∃ front visit, visits = front ++ [visit] ∧ front.map Visit.entry? = walk.trace.map some ∧
      visit.did.1.outcome.BreaksAs walk.ending := by
  induction course with
  | deadEnd => exact .inl ⟨⟨_, rfl⟩, by simp [visits, Walk.stop]⟩
  | stepBudget => exact .inl ⟨⟨_, rfl⟩, by simp [visits, Walk.stop]⟩
  | cancelled off => exact .inl ⟨⟨_, rfl⟩, by simp [visits, off, Walk.stop]⟩
  | raised on did =>
    exact .inr ⟨[], _, visits_of_broken on did rfl _, rfl,
      .inl ⟨_, by simp only [Visit.did, did], rfl⟩⟩
  | waiting on did =>
    exact .inr ⟨[], _, visits_of_broken on did rfl _, rfl,
      .inr ⟨_, by simp only [Visit.did, did], rfl⟩⟩
  | output on did last =>
    refine .inl ⟨⟨_, rfl⟩, ?_⟩
    simp [visits_of_done on did, last, Visit.entry?, Visit.did, did, Walk.through, Walk.stop]
  | onward on did more _ ih =>
    have going := beq_eq_false_iff_ne.mpr more
    simp only [visits_of_done on did, going, if_neg Bool.false_ne_true]
    rcases ih with ⟨ended, entries⟩ | ⟨front, visit, split, entries, breaks⟩
    · refine .inl ⟨ended, ?_⟩
      simp [entries, Visit.entry?, Visit.did, did, Walk.through]
    · refine .inr ⟨_ :: front, visit, by rw [split]; rfl, ?_, breaks⟩
      simp [entries, Visit.entry?, Visit.did, did, Walk.through]

theorem Course.notices_visits
    (course : plan.Course budget executed carry current world walk after) :
    walk.notices = (plan.visits budget executed carry current world).flatMap Visit.notices := by
  induction course with
  | deadEnd => simp [visits, Walk.stop]
  | stepBudget => simp [visits, Walk.stop]
  | cancelled off => simp [visits, off, Walk.stop]
  | raised on did =>
    simp [visits_of_broken on did rfl, Visit.notices, Visit.entry?, Visit.did, did]
  | waiting on did =>
    simp [visits_of_broken on did rfl, Visit.notices, Visit.entry?, Visit.did, did]
  | output on did last =>
    simp [visits_of_done on did, last, Visit.notices, Visit.entry?, Visit.did, did, Walk.through,
      Walk.stop]
  | onward on did more _ ih =>
    have going := beq_eq_false_iff_ne.mpr more
    simp [visits_of_done on did, going, Visit.notices, Visit.entry?, Visit.did, did, Walk.through,
      ih]

theorem Course.world_visits
    (course : plan.Course budget executed carry current world walk after) :
    after = (((plan.visits budget executed carry current world).getLast?).map (·.did.2)).getD
      world := by
  induction course with
  | deadEnd => simp [visits]
  | stepBudget => simp [visits]
  | cancelled off => simp [visits, off]
  | raised on did | waiting on did => simp [visits_of_broken on did rfl, Visit.did, did]
  | output on did last => simp [visits_of_done on did, last, Visit.did, did]
  | onward on did more _ ih =>
    rw [visits_of_done on did, if_neg (by simpa using more), List.getLast?_cons, ih]
    cases List.getLast? _ with
    | none => simp [Visit.did, did]
    | some visit => rfl

def logged (plan : Plan σ) : Plan (σ × List Call) where
  index := plan.index
  services := plan.services.logged
  streaming := plan.streaming
  cancelled := plan.cancelled

/-- A walk is the same with a log, to which the calls of its visits are added. -/
theorem Course.walk_logged
    (course : plan.Course budget executed carry current world walk after) (log : List Call) :
    plan.logged.walk budget executed carry current (world, log) =
      (walk.beside, after,
        log ++ (plan.visits budget executed carry current world).flatMap Visit.calls) := by
  induction course generalizing log with
  | deadEnd => simp [Plan.walk, visits, Walk.beside, Walk.stop, Outcome.beside]
  | stepBudget => simp [Plan.walk, visits, Walk.beside, Walk.stop, Outcome.beside]
  | cancelled off => simp [Plan.walk, visits, logged, off, Walk.beside, Walk.stop, Outcome.beside]
  | raised on did | waiting on did =>
    simp [Plan.walk, logged, on, Node.execute_logged, Telling.beside, Outcome.beside, did,
      visits_of_broken on did rfl, Visit.calls, Walk.beside]
  | output on did last =>
    simp [Plan.walk, logged, on, Node.execute_logged, Telling.beside, Outcome.beside, did, last,
      visits_of_done on did, Visit.calls, Walk.beside, Walk.stop, Walk.through]
  | onward on did more _ ih =>
    have going := beq_eq_false_iff_ne.mpr more
    simp only [logged] at ih
    simp [Plan.walk, logged, on, Node.execute_logged, Telling.beside, Outcome.beside, did, going,
      visits_of_done on did, Visit.calls, ih, Walk.beside, Walk.through]

end Plan

namespace Graph

variable (graph : Graph) (services : Services σ) (streaming : Bool) (cancelled : Nat → Bool)
  (world : σ)

def visits : List (Visit services streaming) :=
  (graph.plan services streaming cancelled).visits (stepBudget graph.nodes.length) 0
    (Carry.initial graph) (Index.ofGraph graph).start world

theorem isChain_visits :
    (graph.visits services streaming cancelled world).IsChain fun visit next =>
      ∃ output, (graph.plan services streaming cancelled).Leads visit output next :=
  (Plan.course_walk ..).isChain_visits

theorem entries_visits :
    let report := (graph.run services streaming cancelled world).1
    let visits := graph.visits services streaming cancelled world
    ((∃ result, report.outcome = .done result) ∧
      visits.map Visit.entry? = report.trace.map some) ∨
    ∃ front visit, visits = front ++ [visit] ∧ front.map Visit.entry? = report.trace.map some ∧
      visit.did.1.outcome.BreaksAs report.outcome := by
  obtain ⟨walk, after, ran, course⟩ := graph.course_run services streaming cancelled world
  have entries := course.entries_visits
  rw [ran]
  obtain ⟨notices, trace, ending⟩ := walk
  rcases entries with ⟨⟨ended, rfl⟩, entries⟩ | ⟨front, visit, split, entries,
    ⟨fault, broke, rfl⟩ | ⟨cancel, broke, rfl⟩⟩
  · exact .inl ⟨⟨_, rfl⟩, entries⟩
  · exact .inr ⟨front, visit, split, entries, .inl ⟨fault, broke, rfl⟩⟩
  · exact .inr ⟨front, visit, split, entries, .inr ⟨cancel, broke, rfl⟩⟩

theorem entries_of_done
    (returned : (graph.run services streaming cancelled world).1.outcome = .done result) :
    (graph.visits services streaming cancelled world).map Visit.entry? =
      result.trace.map some := by
  obtain ⟨walk, after, final, course, done, told⟩ := course_of_done returned
  have trace : walk.trace = result.trace := by rw [← told]; rfl
  rw [← trace]
  rcases course.entries_visits with ⟨-, entries⟩ | ⟨front, visit, split, left, breaks⟩
  · exact entries
  · rcases breaks with ⟨fault, -, broke⟩ | ⟨cancel, -, broke⟩ <;> simp [done] at broke

theorem world_of_split {visit : Visit services streaming}
    (split : graph.visits services streaming cancelled world = front ++ [visit]) :
    (graph.run services streaming cancelled world).2 = visit.did.2 := by
  obtain ⟨walk, after, ran, course⟩ := graph.course_run services streaming cancelled world
  have behind : after = ((graph.visits services streaming cancelled world).getLast?.map
    (·.did.2)).getD world := course.world_visits
  rw [ran, behind, split, List.getLast?_concat]
  rfl

theorem length_visits :
    let report := (graph.run services streaming cancelled world).1
    (graph.visits services streaming cancelled world).length =
      if report.outcome.isDone then report.trace.length else report.trace.length + 1 := by
  rcases graph.entries_visits services streaming cancelled world with
    ⟨⟨result, returned⟩, entries⟩ | ⟨front, visit, split, entries, breaks⟩
  · have length := congrArg List.length entries
    simpa [returned, Outcome.isDone] using length
  · have length := congrArg List.length entries
    rcases breaks with ⟨fault, -, broke⟩ | ⟨cancel, -, broke⟩ <;>
      simpa [split, broke, Outcome.isDone] using length

theorem take_entries_visits (n : Nat) :
    let report := (graph.run services streaming cancelled world).1
    n ≤ report.trace.length →
      ((graph.visits services streaming cancelled world).take n).map Visit.entry? =
        (report.trace.take n).map some := by
  intro report le
  rcases graph.entries_visits services streaming cancelled world with
    ⟨-, entries⟩ | ⟨front, visit, split, entries, -⟩
  · rw [List.map_take, entries, List.map_take]
  · have length : front.length = report.trace.length := by
      simpa using congrArg List.length entries
    rw [split, List.take_append_of_le_length (length ▸ le), List.map_take, entries, List.map_take]

theorem notices_visits :
    let report := (graph.run services streaming cancelled world).1
    report.notices =
      .started :: (graph.visits services streaming cancelled world).flatMap Visit.notices ++
        match report.outcome with
        | .done result => [.ended result]
        | _ => [] := by
  obtain ⟨walk, after, ran, course⟩ := graph.course_run services streaming cancelled world
  have told : walk.notices = (graph.visits services streaming cancelled world).flatMap
    Visit.notices := course.notices_visits
  rw [ran, ← told]
  obtain ⟨notices, trace, ending⟩ := walk
  cases ending with
  | done ended => rfl
  | raised fault => simp [Walk.report]
  | waiting cancel => simp [Walk.report]

theorem run_logged_visits :
    graph.run services.logged streaming cancelled (world, []) =
      ((graph.run services streaming cancelled world).1.beside,
        (graph.run services streaming cancelled world).2,
        (graph.visits services streaming cancelled world).flatMap Visit.calls) := by
  obtain ⟨walk, after, ran, course⟩ := graph.course_run services streaming cancelled world
  have logged : graph.run services.logged streaming cancelled (world, []) =
      (walk.beside.report, after, _) :=
    congrArg (fun walked => (Walk.report walked.1, walked.2)) (course.walk_logged [])
  rw [logged, ran, Walk.report_beside]
  rfl

theorem calls_visits :
    graph.calls services streaming cancelled world =
      (graph.visits services streaming cancelled world).flatMap Visit.calls := by
  rw [calls, run_logged_visits]

end Graph

end Flowline

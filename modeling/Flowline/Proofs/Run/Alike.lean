import Flowline.Proofs.Act.Alike
import Flowline.Proofs.Run.Course

/-!
# Runs that are alike

Services that answer alike, in worlds that a relation ties, lead to the same walks from related
worlds: the same entries, the same end and related worlds behind it. What the walks tell in between
may differ.
-/

namespace Flowline

variable {R : σ → τ → Prop} {left : Services σ} {right : Services τ} {told told' : Bool}

-- ---------------------------------------------------------------------------
-- One node
-- ---------------------------------------------------------------------------

/-- Services whose answers are alike, each told in fragments or not. -/
structure Services.Alike (R : σ → τ → Prop) (left : Services σ) (told : Bool)
    (right : Services τ) (told' : Bool) : Prop where
  defaults : left.defaults = right.defaults
  options : left.options = right.options
  chat : ∀ exchange, Telling.Alike R ((Task.chat exchange).perform left told)
    ((Task.chat exchange).perform right told')
  query : ∀ statement options,
    Act.Alike R (left.query statement options) (right.query statement options)
  send : ∀ request, Act.Alike R (left.send request) (right.send request)
  evaluate : left.evaluate = right.evaluate

theorem Services.alike_answer {exchange : Chat.Exchange}
    (alike : Act.Alike R (left.complete exchange) (right.complete exchange)) :
    Act.Alike R (left.answer exchange) (right.answer exchange) := by
  refine Act.Alike.recover (alike.bind fun text => Act.alike_pure _) fun fault => ?_
  split
  · exact Act.alike_raise fault
  · exact Act.alike_pure _

theorem Services.Alike.perform (alike : left.Alike R told right told') (task : Task) :
    Telling.Alike R (task.perform left told) (task.perform right told') := by
  cases task with
  | value v => exact (Act.alike_pure v).ofAct
  | decide condition =>
    simp only [Task.perform, alike.evaluate]
    exact (Act.alike_ofExcept _).ofAct
  | chat exchange => exact alike.chat exchange
  | query statement =>
    simp only [Task.perform, alike.options]
    exact (alike.query statement right.options).ofAct
  | send request => exact (alike.send request).ofAct

theorem Services.Alike.execute (alike : left.Alike R told right told') (context : Context)
    (node : Node) :
    Telling.Alike R (node.execute left told context) (node.execute right told' context) := by
  simp only [Node.execute, alike.defaults]
  cases node.task right.defaults context with
  | ok task => exact alike.perform task
  | error fault => exact (Act.alike_raise fault).ofAct

-- ---------------------------------------------------------------------------
-- Walks
-- ---------------------------------------------------------------------------

/-- Two walks with the same entries and the same end. -/
structure Walk.Alike (R : σ → τ → Prop) (left : Walk σ × σ) (right : Walk τ × τ) : Prop where
  trace : left.1.trace = right.1.trace
  ending : left.1.ending.answer? = right.1.ending.answer?
  world : R left.2 right.2

theorem Services.Alike.walk (alike : left.Alike R told right told') (index : Index)
    (cancelled : Nat → Bool) (budget executed : Nat) (carry : Carry) (current : Option Node)
    (related : R world other) :
    Walk.Alike R (Plan.walk ⟨index, left, told, cancelled⟩ budget executed carry current world)
      (Plan.walk ⟨index, right, told', cancelled⟩ budget executed carry current other) := by
  induction budget generalizing executed carry current world other with
  | zero =>
    cases current <;> exact ⟨rfl, rfl, related⟩
  | succ budget ih =>
    cases current with
    | none => exact ⟨rfl, rfl, related⟩
    | some node =>
      simp only [Plan.walk]
      split
      · exact ⟨rfl, rfl, related⟩
      · have ran := alike.execute (carry.enter node).context node _ _ related
        generalize node.execute left told _ world = first at ran ⊢
        generalize node.execute right told' _ other = second at ran ⊢
        obtain ⟨⟨pieces, outcome⟩, after⟩ := first
        obtain ⟨⟨others, outcome'⟩, after'⟩ := second
        obtain ⟨same, further⟩ := ran
        obtain ⟨output, rfl, rfl⟩ | ⟨fault, rfl, rfl⟩ | ⟨cancel, cancel', rfl, rfl⟩ :=
          Outcome.cases_of_answer?_eq same
        · dsimp only
          split
          · exact ⟨rfl, rfl, further⟩
          · have rest := ih (executed + 1) ((carry.enter node).leave node output)
              (index.next? node output) further
            exact ⟨congrArg (_ :: ·) rest.trace, rest.ending, rest.world⟩
        · exact ⟨rfl, rfl, further⟩
        · exact ⟨rfl, rfl, further⟩

structure Report.Alike (R : σ → τ → Prop) (left : Report σ × σ) (right : Report τ × τ) : Prop where
  trace : left.1.trace = right.1.trace
  answer : left.1.outcome.answer? = right.1.outcome.answer?
  world : R left.2 right.2

theorem Walk.Alike.report {left : Walk σ × σ} {right : Walk τ × τ} (alike : Alike R left right) :
    Report.Alike R (left.1.report, left.2) (right.1.report, right.2) := by
  obtain ⟨⟨notices, trace, ending⟩, world⟩ := left
  obtain ⟨⟨others, trace', ending'⟩, other⟩ := right
  obtain ⟨rfl, same, further⟩ := alike
  obtain ⟨ended, rfl, rfl⟩ | ⟨fault, rfl, rfl⟩ | ⟨cancel, cancel', rfl, rfl⟩ :=
    Outcome.cases_of_answer?_eq same <;> exact ⟨rfl, rfl, further⟩

theorem Services.Alike.run (alike : left.Alike R told right told') (graph : Graph)
    (cancelled : Nat → Bool) (related : R world other) :
    Report.Alike R (graph.run left told cancelled world) (graph.run right told' cancelled other) :=
  (alike.walk (Index.ofGraph graph) cancelled (stepBudget graph.nodes.length) 0
    (Carry.initial graph) (Index.ofGraph graph).start related).report

end Flowline

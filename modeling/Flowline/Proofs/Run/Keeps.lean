import Flowline.Proofs.Act.Keeps
import Flowline.Run.Walk

/-!
# Invariants of runs

What no call of the services breaks is not broken by a run, wherever it ends. Statements count only
with the options that the services themselves have: a run has no others.
-/

namespace Flowline

variable {P : σ → Prop} {services : Services σ}

-- ---------------------------------------------------------------------------
-- One node
-- ---------------------------------------------------------------------------

structure Services.Keeps (P : σ → Prop) (services : Services σ) : Prop where
  complete : ∀ exchange, (services.complete exchange).Keeps P fun _ => True
  stream : ∀ exchange, (services.stream exchange).Keeps P fun _ => True
  query : ∀ statement, (services.query statement services.options).Keeps P fun _ => True
  send : ∀ request, (services.send request).Keeps P fun _ => True

theorem Services.Keeps.answer (keeps : services.Keeps P) (exchange : Chat.Exchange) :
    (services.answer exchange).Keeps P fun _ => True := by
  refine ((keeps.complete exchange).bind fun text _ => Act.keeps_pure _ trivial).recover
    fun fault => ?_
  split
  · exact Act.keeps_raise fault
  · exact Act.keeps_pure _ trivial

theorem Services.Keeps.perform (keeps : services.Keeps P) (streaming : Bool) (task : Task) :
    (task.perform services streaming).Keeps P fun _ => True := by
  cases task with
  | value v => exact Telling.keeps_ofAct (Act.keeps_pure v trivial)
  | decide condition => exact Telling.keeps_ofAct (Act.keeps_ofExcept fun _ _ => trivial)
  | chat exchange =>
    simp only [Task.perform]
    split
    · exact (keeps.stream exchange).collect.map fun _ _ => trivial
    · exact Telling.keeps_ofAct (keeps.answer exchange)
  | query statement => exact Telling.keeps_ofAct (keeps.query statement)
  | send request => exact Telling.keeps_ofAct (keeps.send request)

theorem Services.Keeps.execute (keeps : services.Keeps P) (streaming : Bool) (context : Context)
    (node : Node) : (node.execute services streaming context).Keeps P fun _ => True := by
  simp only [Node.execute]
  cases node.task services.defaults context with
  | ok task => exact keeps.perform streaming task
  | error fault => exact Telling.keeps_ofAct (Act.keeps_raise fault)

-- ---------------------------------------------------------------------------
-- Walks
-- ---------------------------------------------------------------------------

theorem Services.Keeps.walk (keeps : services.Keeps P) (index : Index) (streaming : Bool)
    (cancelled : Nat → Bool) (budget executed : Nat) (carry : Carry) (current : Option Node)
    (kept : P world) :
    let plan : Plan σ := ⟨index, services, streaming, cancelled⟩
    P (plan.walk budget executed carry current world).2 ∧
      (plan.walk budget executed carry current world).1.ending.Keeps P fun _ => True := by
  induction budget generalizing executed carry current world with
  | zero => cases current <;> exact ⟨kept, trivial⟩
  | succ budget ih =>
    cases current with
    | none => exact ⟨kept, trivial⟩
    | some node =>
      simp only [Plan.walk]
      split
      · exact ⟨kept, trivial⟩
      · obtain ⟨after, result⟩ :=
          keeps.execute streaming (carry.enter node).context node world kept
        generalize node.execute services streaming _ world = did at after result ⊢
        obtain ⟨⟨pieces, outcome⟩, world'⟩ := did
        cases outcome with
        | done output =>
          dsimp only
          split
          · exact ⟨after, trivial⟩
          · exact ih (executed + 1) _ (index.next? node output) after
        | raised fault => exact ⟨after, trivial⟩
        | waiting cancel => exact ⟨after, result⟩

theorem Services.Keeps.run (keeps : services.Keeps P) (graph : Graph) (streaming : Bool)
    (cancelled : Nat → Bool) (kept : P world) :
    P (graph.run services streaming cancelled world).2 ∧
      (graph.run services streaming cancelled world).1.outcome.Keeps P fun _ => True := by
  obtain ⟨after, result⟩ := keeps.walk (Index.ofGraph graph) streaming cancelled
    (stepBudget graph.nodes.length) 0 (Carry.initial graph) (Index.ofGraph graph).start kept
  refine ⟨after, ?_⟩
  simp only [Graph.run, Walk.report]
  split
  · trivial
  · trivial
  · rename_i cancel waits
    rw [waits] at result
    exact result

end Flowline

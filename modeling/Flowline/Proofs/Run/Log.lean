import Flowline.Proofs.Run.Alike
import Flowline.Proofs.Run.Course

/-!
# Logs of calls

Services that keep a log of their calls beside the world, where nobody else writes. To keep the log
changes nothing else.
-/

namespace Flowline

namespace Services

def beside (services : Services σ) : Services (σ × τ) where
  complete exchange := (services.complete exchange).beside
  stream exchange := (services.stream exchange).beside
  query statement options := (services.query statement options).beside
  send request := (services.send request).beside
  evaluate := services.evaluate
  defaults := services.defaults
  options := services.options

def logged (services : Services σ) : Services (σ × List Call) :=
  services.beside.recorded fun call pair => (pair.1, pair.2 ++ [call])

end Services

/-- The calls that a run makes, the first one first. -/
def Graph.calls (graph : Graph) (services : Services σ) (streaming : Bool)
    (cancelled : Nat → Bool) (world : σ) : List Call :=
  (graph.run services.logged streaming cancelled (world, [])).2.2

theorem Services.alike_logged (services : Services σ) (told : Bool) :
    services.logged.Alike (fun pair world => pair.1 = world) told services told where
  defaults := rfl
  options := rfl
  chat exchange := by
    cases told with
    | false =>
      refine (alike_answer ?_).ofAct
      rintro pair _ rfl
      exact ⟨Outcome.answer?_beside _, rfl⟩
    | true =>
      refine (Telling.Alike.collect ?_ ?_).map _
      · rintro pair _ rfl
        exact ⟨Outcome.answer?_beside _, rfl⟩
      · rintro pair _ rfl
        rfl
  query statement options := by
    rintro pair _ rfl
    exact ⟨Outcome.answer?_beside _, rfl⟩
  send request := by
    rintro pair _ rfl
    exact ⟨Outcome.answer?_beside _, rfl⟩
  evaluate := rfl

theorem Graph.run_logged (graph : Graph) (services : Services σ) (told : Bool)
    (cancelled : Nat → Bool) (world : σ) (log : List Call) :
    Report.Alike (fun pair world => pair.1 = world)
      (graph.run services.logged told cancelled (world, log))
      (graph.run services told cancelled world) :=
  (services.alike_logged told).run graph cancelled rfl

-- ---------------------------------------------------------------------------
-- The calls of one node
-- ---------------------------------------------------------------------------

def Task.calls (services : Services σ) (streaming : Bool) : Task → List Call
  | .value _ | .decide _ => []
  | .chat exchange => [.chat streaming exchange]
  | .query statement => [.query statement services.options]
  | .send request => [.send request]

def Node.calls (services : Services σ) (streaming : Bool) (context : Context) (node : Node) :
    List Call :=
  match node.task services.defaults context with
  | .ok task => task.calls services streaming
  | .error _ => []

theorem Services.answer_logged (services : Services σ) (exchange : Chat.Exchange) (world : σ)
    (log : List Call) :
    services.logged.answer exchange (world, log) =
      (services.answer exchange).beside (world, log ++ [.chat false exchange]) := by
  have asked : services.logged.complete exchange (world, log) =
      (services.complete exchange).beside (world, log ++ [.chat false exchange]) := rfl
  simp only [answer, Act.recover_apply, Act.bind_apply, asked, Act.beside]
  rcases services.complete exchange world with ⟨text | fault | cancel, after⟩
  · rfl
  · simp only [Outcome.beside]
    split <;> rfl
  · rfl

theorem Task.perform_logged (services : Services σ) (streaming : Bool) (task : Task) (world : σ)
    (log : List Call) :
    task.perform services.logged streaming (world, log) =
      (task.perform services streaming).beside (world, log ++ task.calls services streaming) := by
  cases task with
  | value v => simp [perform, calls, Telling.ofAct, Telling.beside, Outcome.beside]
  | decide condition =>
    have same : services.logged.evaluate = services.evaluate := rfl
    simp only [perform, calls, same, List.append_nil, Telling.ofAct, Telling.beside]
    cases services.evaluate condition <;> rfl
  | chat exchange =>
    cases streaming with
    | false =>
      simp only [perform, calls, Bool.false_eq_true, if_false, Telling.ofAct, Telling.beside,
        services.answer_logged, Act.beside]
    | true =>
      simp only [perform, calls, if_true, Telling.map, Telling.collect, Telling.beside,
        Services.logged, Services.recorded, Services.beside]
      cases (services.stream exchange world).1.outcome <;> rfl
  | query statement => rfl
  | send request => rfl

theorem Node.execute_logged (services : Services σ) (streaming : Bool) (context : Context)
    (node : Node) (world : σ) (log : List Call) :
    node.execute services.logged streaming context (world, log) =
      (node.execute services streaming context).beside
        (world, log ++ node.calls services streaming context) := by
  have known : services.logged.defaults = services.defaults := rfl
  simp only [execute, calls, known]
  cases node.task services.defaults context with
  | ok task => exact task.perform_logged services streaming world log
  | error fault => simp [Telling.ofAct, Telling.beside, Outcome.beside]

/-- A call without regard to whether its answer is told in fragments. -/
def Call.whole : Call → Call
  | .chat _ exchange => .chat false exchange
  | call => call

end Flowline

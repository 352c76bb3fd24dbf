import Flowline.Proofs.Run.Indistinct
import Flowline.Proofs.Service.Answer

/-!
# Answers that clients cannot tell apart

What a failure is told as depends on its fault by the veil alone, in a response as in a stream. So
services that differ only in what lies behind it are answered for in the same way: two runs that
fail at the same call for different reasons have the same response, to the last octet.
-/

namespace Flowline.Service

variable {R : σ → τ → Prop} {left : Services σ} {right : Services τ} {world : σ} {other : τ}
  {graph : Graph}

theorem failure_congr {fault fault' : Fault} (same : fault.veil = fault'.veil) (id : String) :
    failure fault id = failure fault' id := by
  obtain rfl | ⟨hidden, hidden'⟩ := Fault.veil_eq_iff.mp same
  · rfl
  · simp only [failure, hidden, hidden', Bool.false_eq_true, if_false]

theorem answer?_ofExcept (answer : Except Fault α) (world : σ) :
    (Act.ofExcept answer world).1.answer? = some answer := by
  cases answer <;> rfl

theorem executeWhole_indistinct (indistinct : left.Indistinct R false right)
    (related : R world other) (id : String) (graph : Graph) :
    (executeWhole left id graph world).1.answer? =
      (executeWhole right id graph other).1.answer? := by
  obtain ⟨-, -, outcome⟩ := indistinct.run graph (fun _ => false) related
  simp only [executeWhole]
  generalize graph.run left false _ world = ran at outcome ⊢
  generalize graph.run right false _ other = ran' at outcome ⊢
  obtain ⟨⟨notices, trace, outcome⟩, after⟩ := ran
  obtain ⟨⟨notices', trace', outcome'⟩, after'⟩ := ran'
  cases outcome with
  | done result further => simp only [answer?_ofExcept]
  | raised same => simp only [answer?_ofExcept, failure_congr same]
  | waiting => rfl

theorem executeTold_indistinct (indistinct : left.Indistinct R true right)
    (related : R world other) (id : String) (graph : Graph) :
    (executeTold left id graph world).1.answer? =
      (executeTold right id graph other).1.answer? := by
  have ran := indistinct.run graph (fun _ => false) related
  have frames := ran.stream_eq id
  have outcome := ran.outcome
  simp only [executeTold]
  generalize graph.run left true _ world = ran at frames outcome ⊢
  generalize graph.run right true _ other = ran' at frames outcome ⊢
  obtain ⟨⟨notices, trace, outcome⟩, after⟩ := ran
  obtain ⟨⟨notices', trace', outcome'⟩, after'⟩ := ran'
  cases outcome with
  | done | raised => simp only [frames, answer?_ofExcept]
  | waiting => rfl

/-- Submissions to services that differ only in what lies behind the veil of their faults. Under the
same id they have the same response, be it told as events or as a whole, and what is told of a run
is the same even if the run comes to no end. What a chat that is told as a whole fails with has to
be the same in any case, since the run goes on with it. -/
theorem respond_indistinct {request : Request} (submits : request.Submits graph)
    (indistinct : left.Indistinct R request.wantsEvents right) (related : R world other)
    (id : String) :
    (respond (some left) id request world).1.answer? =
        (respond (some right) id request other).1.answer? ∧
      (request.wantsEvents = true → ∀ cancelled,
        (graph.stream left cancelled id world).1 = (graph.stream right cancelled id other).1) := by
  rw [submits.respond_eq, submits.respond_eq]
  cases wants : request.wantsEvents with
  | false =>
    rw [wants] at indistinct
    exact ⟨executeWhole_indistinct indistinct related id graph, fun told => nomatch told⟩
  | true =>
    rw [wants] at indistinct
    exact ⟨executeTold_indistinct indistinct related id graph,
      fun _ cancelled => (indistinct.run graph cancelled related).stream_eq id⟩

def sending : String :=
  "\x7b\"nodes\":[\x7b\"id\":\"a\",\"type\":\"apiCall\",\"data\":\x7b\"url\":\"b\"\x7d\x7d]\x7d"

theorem Request.submits_post {text accept : String}
    (found : (Request.post text accept).graph? = some graph) (accept' : String) :
    (Request.post text accept').Submits graph := ⟨rfl, rfl, found⟩

/-- The request fails, for one reason or for another. -/
theorem respond_indistinct_sending :
    let request := Request.post sending
    let script : Script := [.error (.reported "ConnectError" "10.0.0.7 is down")]
    let other : Script := [.error (.timedOut "no answer from 10.0.0.8")]
    let answer (accept : String) (script : Script) :=
      (respond (some .scripted) "id" (request accept) script).1
    (answer "" script).answer? = (answer "" other).answer? ∧
      (answer "" script).done?.map Response.status = some 500 ∧
      (answer eventStream script).answer? = (answer eventStream other).answer? ∧
      (answer eventStream script).done?.map Response.status = some 200 := by
  intro request script other answer
  have ran : ((request "").graph?.map fun graph =>
      ((executeWhole .scripted "id" graph script).1.done?.map Response.status,
        (executeTold .scripted "id" graph script).1.done?.map Response.status)) =
      some (some 500, some 200) := by decide +kernel
  obtain ⟨graph, found, statuses⟩ := Option.map_eq_some_iff.mp ran
  simp only [Prod.mk.injEq] at statuses
  obtain ⟨whole, told⟩ := statuses
  have submits := Request.submits_post found
  have same : Script.SameVeiled script other := rfl
  refine ⟨(respond_indistinct (submits "") (.scripted _) same "id").1, ?_,
    (respond_indistinct (submits eventStream) (.scripted _) same "id").1, ?_⟩
  · rw [← whole]
    exact congrArg (fun act : Act Script Response => (act script).1.done?.map Response.status)
      (((submits "").respond_eq .scripted "id").trans (if_neg (by decide +kernel)))
  · rw [← told]
    exact congrArg (fun act : Act Script Response => (act script).1.done?.map Response.status)
      (((submits eventStream).respond_eq .scripted "id").trans (if_pos (by decide +kernel)))

end Flowline.Service

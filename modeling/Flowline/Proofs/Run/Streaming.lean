import Flowline.Proofs.Run.Log

/-!
# Streaming does not change a run

A run that tells chat answers in fragments and one that takes them whole come to the same end, if
the fragments join to the whole and everything else outside behaves alike. Both make the same calls
in the same order.

Nothing is said of chat services that fail: trouble of a whole answer becomes a value and trouble
of a streamed one ends the run, so that there the two differ.
-/

namespace Flowline

/-- Two services that know the same: from worlds that `R` ties, the fragments of one join to the
whole answer of the other, neither of the two fails, and all other calls are alike. -/
structure Services.Agree (R : σ → τ → Prop) (whole : Services σ) (told : Services τ) : Prop where
  defaults : whole.defaults = told.defaults
  options : whole.options = told.options
  chat : ∀ exchange world other, R world other → ∃ pieces after after',
    whole.complete exchange world = (.done (String.join pieces), after) ∧
      told.stream exchange other = (⟨pieces, .done ()⟩, after') ∧ R after after'
  query : ∀ statement options,
    Act.Alike R (whole.query statement options) (told.query statement options)
  send : ∀ request, Act.Alike R (whole.send request) (told.send request)
  evaluate : whole.evaluate = told.evaluate

variable {R : σ → τ → Prop} {whole : Services σ} {told : Services τ}

theorem Services.Agree.alike (agree : whole.Agree R told) : whole.Alike R false told true where
  defaults := agree.defaults
  options := agree.options
  chat exchange := by
    intro world other related
    obtain ⟨pieces, after, after', answered, streamed, further⟩ :=
      agree.chat exchange world other related
    have buffered : whole.answer exchange world = (.done (.text (String.join pieces)), after) := by
      simp only [answer, Act.recover_apply, Act.bind_apply, answered, Act.pure_apply]
    have joined : (told.stream exchange).collect other
        = (⟨pieces, .done (String.join pieces)⟩, after') := by
      simp only [Telling.collect, streamed, Outcome.map]
    simp only [Task.perform, Bool.false_eq_true, if_false, if_true, Telling.ofAct, Telling.map,
      buffered, joined]
    exact ⟨rfl, further⟩
  query := agree.query
  send := agree.send
  evaluate := agree.evaluate

-- ---------------------------------------------------------------------------
-- Logs
-- ---------------------------------------------------------------------------

def SameCalls (R : σ → τ → Prop) (left : σ × List Call) (right : τ × List Call) : Prop :=
  R left.1 right.1 ∧ left.2.map Call.whole = right.2.map Call.whole

theorem SameCalls.note {left : σ × List Call} {right : τ × List Call}
    (same : SameCalls R left right) {call call' : Call} (one : call.whole = call'.whole) :
    SameCalls R (left.1, left.2 ++ [call]) (right.1, right.2 ++ [call']) :=
  ⟨same.1, by simp [same.2, one]⟩

theorem Act.Alike.beside {left : Act σ α} {right : Act τ α} (alike : Act.Alike R left right) :
    Act.Alike (SameCalls R) left.beside right.beside := by
  intro pair pair' same
  obtain ⟨answer, further⟩ := alike pair.1 pair'.1 same.1
  exact ⟨by simpa [Act.beside] using answer, further, same.2⟩

theorem Services.Agree.logged (agree : whole.Agree R told) :
    whole.logged.Agree (SameCalls R) told.logged where
  defaults := agree.defaults
  options := agree.options
  chat exchange pair pair' same := by
    obtain ⟨pieces, after, after', answered, streamed, further⟩ :=
      agree.chat exchange pair.1 pair'.1 same.1
    refine ⟨pieces, (after, pair.2 ++ [.chat false exchange]),
      (after', pair'.2 ++ [.chat true exchange]), ?_, ?_, further, by simp [same.2, Call.whole]⟩
    · simp [Services.logged, Services.recorded, Services.beside, Act.beside, answered,
        Outcome.beside]
    · simp [Services.logged, Services.recorded, Services.beside, Telling.beside, streamed,
        Outcome.beside]
  query statement options := fun _ _ same =>
    (agree.query statement options).beside _ _ (same.note rfl)
  send request := fun _ _ same => (agree.send request).beside _ _ (same.note rfl)
  evaluate := agree.evaluate

-- ---------------------------------------------------------------------------
-- Whole runs
-- ---------------------------------------------------------------------------

/-- Both runs return the same result or raise the same fault, and make the same calls up to
whether a chat answer is streamed. If a call outside of chats never returns, both wait. -/
theorem Graph.run_streamed_alike (agree : whole.Agree R told) (graph : Graph)
    (cancelled : Nat → Bool) (world : σ) (other : τ) (related : R world other) :
    let buffered := graph.run whole false cancelled world
    let streamed := graph.run told true cancelled other
    buffered.1.outcome.answer? = streamed.1.outcome.answer? ∧
      buffered.1.trace = streamed.1.trace ∧ R buffered.2 streamed.2 ∧
      (graph.calls whole false cancelled world).map Call.whole =
        (graph.calls told true cancelled other).map Call.whole := by
  obtain ⟨trace, answer, further⟩ := agree.alike.run graph cancelled related
  have logs : SameCalls R (world, []) (other, []) := ⟨related, rfl⟩
  exact ⟨answer, trace, further, (agree.logged.alike.run graph cancelled logs).world.2⟩

/-- A chat service that counts its answers, and tells them in two pieces. -/
def Services.counting : Services Nat where
  complete _ := fun count => (.done (String.join ["answer ", toString count]), count + 1)
  stream _ := fun count => (⟨["answer ", toString count], .done ()⟩, count + 1)
  query _ _ := pure .null
  send _ := pure .null
  defaults := { baseUrl := "https://chat.test", apiKey := "key" }

theorem Services.agree_counting : counting.Agree Eq counting where
  defaults := rfl
  options := rfl
  chat _ count _ same :=
    ⟨["answer ", toString count], count + 1, count + 1, rfl, by rw [← same]; rfl, rfl⟩
  query _ _ := Act.alike_pure Value.null
  send _ := Act.alike_pure Value.null
  evaluate := rfl

def Graph.asking : Graph where
  nodes := [⟨"a", "", [], .llm { userPrompt := "go on" }⟩,
    ⟨"b", "", [], .llm { userPrompt := "\x7b\x7binput\x7d\x7d?" }⟩, ⟨"c", "", [], .output⟩]
  edges := [⟨"a", "b"⟩, ⟨"b", "c"⟩]

theorem Graph.run_streamed_alike_asking :
    let buffered := asking.run .counting false (fun _ => false) 0
    let streamed := asking.run .counting true (fun _ => false) 0
    buffered.1.outcome.answer? = streamed.1.outcome.answer? ∧
      buffered.1.trace = streamed.1.trace ∧
      streamed.1.trace.map (·.output.display) = ["answer 0", "answer 1", "answer 1"] ∧
      (asking.calls .counting false (fun _ => false) 0).map Call.whole =
        (asking.calls .counting true (fun _ => false) 0).map Call.whole ∧
      (asking.calls .counting true (fun _ => false) 0).length = 2 := by
  obtain ⟨answer, trace, -, calls⟩ :=
    run_streamed_alike Services.agree_counting asking (fun _ => false) 0 0 rfl
  exact ⟨answer, trace, by decide +kernel, calls, by decide +kernel⟩

end Flowline

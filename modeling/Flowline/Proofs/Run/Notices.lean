import Flowline.Proofs.Run.Course
import Flowline.Run.Pipe

/-!
# Notices of a run

A run tells that it has started, then what its nodes do, and at last that it has ended, if it comes
to an end. Only what is told of the end can be without a frame, for only there an output is told.
-/

namespace Flowline

def Notice.IsInner : Notice → Prop
  | .entered _ | .delta .. | .left _ => True
  | .started | .ended _ => False

theorem Plan.Course.isInner {plan : Plan σ} {walk : Walk σ}
    (course : plan.Course budget executed carry current world walk after) :
    ∀ notice ∈ walk.notices, notice.IsInner := by
  have opening (node : Node) (pieces : List String) :
      ∀ notice ∈ Walk.opening node pieces, notice.IsInner := by
    simp [Walk.opening, Notice.IsInner]
  have through (node : Node) (pieces : List String) (entry : Entry) (rest : Walk σ)
      (inner : ∀ notice ∈ rest.notices, notice.IsInner) :
      ∀ notice ∈ (rest.through node pieces entry).notices, notice.IsInner := by
    intro notice h
    rcases List.mem_append.mp h with h | h
    · exact opening node pieces notice h
    · rcases List.mem_cons.mp h with rfl | h
      · trivial
      · exact inner notice h
  induction course with
  | deadEnd | stepBudget | cancelled => simp [Walk.stop]
  | raised | waiting => exact opening _ _
  | output => exact through _ _ _ _ (by simp [Walk.stop])
  | onward _ _ _ _ ih => exact through _ _ _ _ ih

theorem Graph.notices_run (graph : Graph) (services : Services σ) (streaming : Bool)
    (cancelled : Nat → Bool) (world : σ) :
    let report := (graph.run services streaming cancelled world).1
    ∃ inner : List Notice, (∀ notice ∈ inner, notice.IsInner) ∧
      report.notices = .started :: inner ++
        match report.outcome with
        | .done result => [.ended result]
        | _ => [] := by
  obtain ⟨walk, after, ran, course⟩ := graph.course_run services streaming cancelled world
  refine ⟨walk.notices, course.isInner, ?_⟩
  rw [ran]
  obtain ⟨notices, trace, ending⟩ := walk
  cases ending with
  | done ending => rfl
  | raised fault => simp [Walk.report]
  | waiting cancel => simp [Walk.report]

/-- What is told before the end of a run has a frame, and neither says that the run has ended nor
that it has failed. -/
theorem Notice.event_of_inner {inner : List Notice} (all : ∀ notice ∈ inner, notice.IsInner)
    {event : Event} (h : event ∈ (Notice.started :: inner).filterMap Notice.event?) :
    event.payload.fits = true ∧ event.name ∈ [some "start", some "trace", none] := by
  obtain ⟨notice, mem, told⟩ := List.mem_filterMap.mp h
  rcases List.mem_cons.mp mem with rfl | mem
  · cases told
    exact ⟨rfl, by simp⟩
  · cases notice with
    | entered nodeId | delta nodeId fragment =>
      simp only [event?, Option.some.injEq] at told
      subst told
      simp [Value.fits, Value.fieldsFit]
    | left entry => cases told
    | started | ended => exact (all _ mem).elim

end Flowline

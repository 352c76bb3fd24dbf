import Flowline.Proofs.Event.Frame
import Flowline.Proofs.Run.Notices
import Flowline.Proofs.Run.Pipe

/-!
# A stream tells its run

Read to its end, the stream of a run is the frames of what the run tells, in that order and each
once, whatever the order in which the run and its reader go on. A run that comes to an end closes
its stream with the only end frame, and one that fails with the only error frame.
-/

namespace Flowline

theorem Notice.tell_append (front rest : List Notice)
    (fits : ∀ event ∈ front.filterMap Notice.event?, event.payload.fits = true) :
    tell (front ++ rest) =
      ((front.filterMap Notice.event?).map Event.frameText ++ (tell rest).1, (tell rest).2) := by
  induction front with
  | nil => rfl
  | cons notice front ih =>
    cases told : notice.event? with
    | none =>
      simp only [List.filterMap_cons, told] at fits ⊢
      simp only [List.cons_append, tell, told, ih fits]
    | some event =>
      simp only [List.filterMap_cons, told, List.mem_cons, forall_eq_or_imp] at fits ⊢
      have framed : event.frame? = some event.frameText := by simp [Event.frame?, fits.1]
      simp only [List.cons_append, tell, told, framed, ih fits.2, List.map_cons]

def Result.event (result : Result) : Event :=
  ⟨"end", .record [("output", result.output), ("termination", .text result.termination.word)]⟩

theorem Notice.event?_ended (result : Result) :
    (Notice.ended result).event? = some result.event := rfl

theorem Result.fits_event (result : Result) : result.event.payload.fits = result.output.fits := by
  simp [event, Value.fits, Value.fieldsFit]

/-- The stream of a run that tells of its nodes and then comes to an end or not. -/
theorem Report.stream_eq {report : Report σ} {inner : List Notice}
    (ends : ∀ cancel, report.outcome ≠ .waiting cancel)
    (all : ∀ notice ∈ inner, notice.IsInner)
    (notices : report.notices = .started :: inner ++
      match report.outcome with
      | .done result => [.ended result]
      | _ => [])
    (id : String) :
    report.stream id =
      ((Notice.started :: inner).filterMap Notice.event?).map Event.frameText ++
        match report.outcome with
        | .done result =>
          [if result.output.fits then result.event.frameText
            else (Fault.integerTooLong.event id).frameText]
        | .raised fault => [(fault.event id).frameText]
        | .waiting _ => [] := by
  have fits : ∀ event ∈ (Notice.started :: inner).filterMap Notice.event?,
      event.payload.fits = true := fun event h => (Notice.event_of_inner all h).1
  rw [Report.stream_eq_due]
  simp only [Pipe.due, Pipe.ofReport, Producer.frames, Producer.fault?, notices,
    Notice.tell_append _ _ fits]
  cases h : report.outcome with
  | done result =>
    by_cases fit : result.output.fits = true
    · have framed : result.event.frame? = some result.event.frameText := by
        simp [Event.frame?, Result.fits_event, fit]
      simp [Notice.tell, Notice.event?_ended, framed, fit, Outcome.fault?]
    · have unframed : result.event.frame? = none := by
        simp [Event.frame?, Result.fits_event, fit]
      simp [Notice.tell, Notice.event?_ended, unframed, fit]
  | raised fault => simp [Notice.tell, Outcome.fault?]
  | waiting cancel => exact absurd h (ends cancel)

theorem Notice.not_isNamed_of_inner {inner : List Notice}
    (all : ∀ notice ∈ inner, notice.IsInner) {frame : String}
    (h : frame ∈ ((Notice.started :: inner).filterMap Notice.event?).map Event.frameText) :
    ¬ Event.IsNamed "end" frame ∧ ¬ Event.IsNamed "error" frame := by
  obtain ⟨event, mem, rfl⟩ := List.mem_map.mp h
  obtain ⟨-, name⟩ := event_of_inner all mem
  have known : ∀ other, event.name = some other → other ∈ Event.names := by
    intro other same
    simp only [same, List.mem_cons, Option.some.injEq, List.not_mem_nil, or_false] at name
    rcases name with rfl | rfl | none
    · decide
    · decide
    · cases none
  rw [Event.isNamed_iff known (by decide), Event.isNamed_iff known (by decide)]
  constructor <;> intro same <;> simp [same] at name

theorem Result.isNamed_event (result : Result) {name : String} (h : name ∈ Event.names) :
    Event.IsNamed name result.event.frameText ↔ name = "end" := by
  rw [Event.isNamed_iff (by rintro other ⟨⟩; decide) h]
  simp [event, eq_comm]

theorem Fault.isNamed_event (fault : Fault) (id : String) {name : String}
    (h : name ∈ Event.names) : Event.IsNamed name (fault.event id).frameText ↔ name = "error" := by
  rw [Event.isNamed_iff (by rintro other ⟨⟩; decide) h]
  simp [event, eq_comm]

/-- The stream of a run that does not wait for ever. In whatever order the run and its reader go
on, they come to an end; the reader has at each time handed on a beginning of the same frames, and
it has handed on all of them when neither side can go on. These are the frames of what the run
tells; a fault of the run, or an output that has no text, is told behind them. -/
theorem Graph.stream_tells_run (graph : Graph) (services : Services σ) (cancelled : Nat → Bool)
    (id : String) (world : σ)
    (ends : ∀ cancel, (graph.run services true cancelled world).1.outcome ≠ .waiting cancel) :
    let report := (graph.run services true cancelled world).1
    let frames := (graph.stream services cancelled id world).1
    let told := (report.notices.filterMap Notice.event?).map Event.frameText
    Acc (fun next pipe => Pipe.Step id pipe next) (.ofReport report) ∧
    (∀ pipe, Pipe.Steps id (.ofReport report) pipe → pipe.told <+: frames ∧
      ((∀ next, ¬ Pipe.Step id pipe next) → pipe.reader = .ended ∧ pipe.told = frames)) ∧
    (∀ result, report.outcome = .done result → result.output.fits = true →
      frames = told ∧ (∃ front, frames = front ++ [result.event.frameText] ∧
        ∀ frame ∈ front, ¬ Event.IsNamed "end" frame) ∧
      Event.IsNamed "end" result.event.frameText ∧
      ∀ frame ∈ frames, ¬ Event.IsNamed "error" frame) ∧
    (∀ result, report.outcome = .done result → result.output.fits = false →
      frames = told.dropLast ++ [(Fault.integerTooLong.event id).frameText]) ∧
    ∀ fault, report.outcome = .raised fault →
      frames = told ++ [(fault.event id).frameText] ∧
      Event.IsNamed "error" (fault.event id).frameText ∧
      (∀ frame ∈ told, ¬ Event.IsNamed "error" frame) ∧
      ∀ frame ∈ frames, ¬ Event.IsNamed "end" frame := by
  intro report frames told
  obtain ⟨inner, all, notices⟩ := graph.notices_run services true cancelled world
  have written : frames = _ := Report.stream_eq ends all notices id
  have quiet := @Notice.not_isNamed_of_inner inner all
  have told_eq : told = ((Notice.started :: inner).filterMap Notice.event?).map Event.frameText ++
      match report.outcome with
      | .done result => [result.event.frameText]
      | _ => [] := by
    simp only [told, report, notices, List.filterMap_append, List.map_append]
    cases (graph.run services true cancelled world).1.outcome <;> rfl
  refine ⟨(Pipe.wellFounded_step id).apply _, fun pipe steps => ?_, fun result done fit => ?_,
    fun result done unfit => ?_, fun fault raised => ?_⟩
  · obtain ⟨sound, same⟩ := (Pipe.sound_ofReport ends).steps steps
    have due : pipe.due id = frames := same.trans (Report.stream_eq_due report id).symm
    rw [← due]
    exact ⟨pipe.told_prefix_due, sound.ended_of_stuck⟩
  · rw [done] at told_eq written
    simp only [fit, if_true] at written
    have same : frames = told := written.trans told_eq.symm
    refine ⟨same, ⟨_, written, fun frame mem => (quiet mem).1⟩,
      (result.isNamed_event (by decide)).mpr rfl, fun frame mem => ?_⟩
    rw [written, List.mem_append, List.mem_singleton] at mem
    rcases mem with mem | rfl
    · exact (quiet mem).2
    · rw [result.isNamed_event (by decide)]
      decide
  · rw [done] at told_eq written
    rw [written, told_eq, List.dropLast_concat]
    simp [unfit]
  · rw [raised] at told_eq written
    simp only [List.append_nil] at told_eq
    refine ⟨by rw [written, told_eq], (fault.isNamed_event id (by decide)).mpr rfl,
      fun frame mem => (quiet (told_eq ▸ mem)).2, fun frame mem => ?_⟩
    rw [written, List.mem_append, List.mem_singleton] at mem
    rcases mem with mem | rfl
    · exact (quiet mem).1
    · rw [fault.isNamed_event id (by decide)]
      decide

def Services.breaking : Services Unit where
  complete _ := Act.raise (.reported "RuntimeError" "gone")
  stream _ := fun world => (⟨["wo"], .raised (.reported "RuntimeError" "gone")⟩, world)
  query _ _ := pure .null
  send _ := pure .null
  defaults := { baseUrl := "https://chat.test", apiKey := "key" }

def Graph.question : Graph where
  nodes := [⟨"a", "", [], .llm { userPrompt := "go on" }⟩, ⟨"b", "", [], .output⟩]
  edges := [⟨"a", "b"⟩]

/-- What was told before the failure stays told, and the failure is told behind it. -/
theorem Graph.stream_tells_run_breaking :
    let report := (question.run .breaking true (fun _ => false) ()).1
    let frames := (question.stream .breaking (fun _ => false) "0123456789abcdef" ()).1
    ∃ fault, report.outcome = .raised fault ∧ report.notices.length = 3 ∧
      frames = (report.notices.filterMap Notice.event?).map Event.frameText ++
        [(fault.event "0123456789abcdef").frameText] := by
  have raised : (question.run .breaking true (fun _ => false) ()).1.outcome =
      .raised (.reported "RuntimeError" "gone") :=
    Outcome.fault?_eq_some_iff.mp (by decide +kernel)
  obtain ⟨-, -, -, -, failed⟩ := stream_tells_run question .breaking (fun _ => false)
    "0123456789abcdef" () (by simp [raised])
  exact ⟨_, raised, by decide +kernel, (failed _ raised).1⟩

end Flowline

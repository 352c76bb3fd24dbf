import Flowline.Proofs.Act.Indistinct
import Flowline.Proofs.Run.Alike
import Flowline.Run.Stream

/-!
# Streams that clients cannot tell apart

Services that are indistinct lead to walks with the same entries and the same notices, whose ends
are the same under the veil. The frame of a failure shows of its fault only the veil, and no other
frame shows anything of it. So a pipe goes through the same steps whatever stands behind the veil,
and the two streams are the same, frame by frame.
-/

namespace Flowline

variable {R : σ → τ → Prop} {left : Services σ} {right : Services τ} {told : Bool}

-- ---------------------------------------------------------------------------
-- Walks
-- ---------------------------------------------------------------------------

/-- Services that clients cannot tell apart. A chat that is told as a whole hands its failure on as
a value, so that it has to fail in the same way. -/
structure Services.Indistinct (R : σ → τ → Prop) (left : Services σ) (told : Bool)
    (right : Services τ) : Prop where
  defaults : left.defaults = right.defaults
  options : left.options = right.options
  complete : told = false → ∀ exchange,
    Act.Alike R (left.complete exchange) (right.complete exchange)
  stream : told = true → ∀ exchange,
    Telling.Indistinct R (left.stream exchange) (right.stream exchange)
  query : ∀ statement options,
    Act.Indistinct R (left.query statement options) (right.query statement options)
  send : ∀ request, Act.Indistinct R (left.send request) (right.send request)
  evaluate : left.evaluate = right.evaluate

theorem Services.Indistinct.perform (indistinct : left.Indistinct R told right) (task : Task) :
    Telling.Indistinct R (task.perform left told) (task.perform right told) := by
  cases task with
  | value v => exact (Act.alike_pure v).indistinct.ofAct
  | decide condition =>
    simp only [Task.perform, indistinct.evaluate]
    exact (Act.alike_ofExcept _).indistinct.ofAct
  | chat exchange =>
    cases told with
    | false => exact (Services.alike_answer (indistinct.complete rfl exchange)).indistinct.ofAct
    | true => exact (indistinct.stream rfl exchange).collect.map Value.text
  | query statement =>
    simp only [Task.perform, indistinct.options]
    exact (indistinct.query statement right.options).ofAct
  | send request => exact (indistinct.send request).ofAct

theorem Services.Indistinct.execute (indistinct : left.Indistinct R told right)
    (context : Context) (node : Node) :
    Telling.Indistinct R (node.execute left told context) (node.execute right told context) := by
  simp only [Node.execute, indistinct.defaults]
  cases node.task right.defaults context with
  | ok task => exact indistinct.perform task
  | error fault => exact (Act.alike_raise fault).indistinct.ofAct

structure Walk.Indistinct (R : σ → τ → Prop) (left : Walk σ × σ) (right : Walk τ × τ) : Prop where
  notices : left.1.notices = right.1.notices
  trace : left.1.trace = right.1.trace
  ending : Outcome.Indistinct R (left.1.ending, left.2) (right.1.ending, right.2)

theorem Walk.indistinct_stop (termination : Termination) (carry : Carry) (related : R world other) :
    Indistinct R (stop termination carry, world) (stop termination carry, other) :=
  ⟨rfl, rfl, .done _ related⟩

theorem Services.Indistinct.walk (indistinct : left.Indistinct R told right) (index : Index)
    (cancelled : Nat → Bool) (budget executed : Nat) (carry : Carry) (current : Option Node)
    (related : R world other) :
    Walk.Indistinct R
      (Plan.walk ⟨index, left, told, cancelled⟩ budget executed carry current world)
      (Plan.walk ⟨index, right, told, cancelled⟩ budget executed carry current other) := by
  induction budget generalizing executed carry current world other with
  | zero => cases current <;> exact Walk.indistinct_stop _ carry related
  | succ budget ih =>
    cases current with
    | none => exact Walk.indistinct_stop .deadEnd carry related
    | some node =>
      simp only [Plan.walk]
      split
      · exact Walk.indistinct_stop .cancelled carry related
      · obtain ⟨pieces, ran⟩ := indistinct.execute (carry.enter node).context node _ _ related
        generalize node.execute left told _ world = first at pieces ran ⊢
        generalize node.execute right told _ other = second at pieces ran ⊢
        obtain ⟨⟨fragments, outcome⟩, after⟩ := first
        obtain ⟨⟨others, outcome'⟩, after'⟩ := second
        cases pieces
        cases ran with
        | done output further =>
          dsimp only
          split
          · exact ⟨rfl, rfl, .done _ further⟩
          · have rest := ih (executed + 1) ((carry.enter node).leave node output)
              (index.next? node output) further
            refine ⟨?_, congrArg (_ :: ·) rest.trace, rest.ending⟩
            simp only [Walk.through, rest.notices]
        | raised same => exact ⟨rfl, rfl, .raised same⟩
        | waiting => exact ⟨rfl, rfl, .waiting⟩

/-- Two runs with the same entries and notices, and the same outcome under the veil. -/
structure Report.Indistinct (R : σ → τ → Prop) (left : Report σ × σ) (right : Report τ × τ) :
    Prop where
  notices : left.1.notices = right.1.notices
  trace : left.1.trace = right.1.trace
  outcome : Outcome.Indistinct R (left.1.outcome, left.2) (right.1.outcome, right.2)

theorem Walk.Indistinct.report {left : Walk σ × σ} {right : Walk τ × τ}
    (indistinct : Indistinct R left right) :
    Report.Indistinct R (left.1.report, left.2) (right.1.report, right.2) := by
  obtain ⟨⟨notices, trace, ending⟩, world⟩ := left
  obtain ⟨⟨notices', trace', ending'⟩, other⟩ := right
  obtain ⟨rfl, rfl, ended⟩ := indistinct
  cases ended with
  | done ended further => exact ⟨rfl, rfl, .done _ further⟩
  | raised same => exact ⟨rfl, rfl, .raised same⟩
  | waiting => exact ⟨rfl, rfl, .waiting⟩

theorem Services.Indistinct.run (indistinct : left.Indistinct R told right) (graph : Graph)
    (cancelled : Nat → Bool) (related : R world other) :
    Report.Indistinct R (graph.run left told cancelled world)
      (graph.run right told cancelled other) :=
  (indistinct.walk (Index.ofGraph graph) cancelled (stepBudget graph.nodes.length) 0
    (Carry.initial graph) (Index.ofGraph graph).start related).report

-- ---------------------------------------------------------------------------
-- Pipes
-- ---------------------------------------------------------------------------

theorem Fault.event_veil (fault : Fault) (id : String) : fault.veil.event id = fault.event id := by
  have same : fault.veil.publicText = fault.publicText := by
    cases hidden : fault.isConfiguration with
    | false => simp [publicText, hidden]
    | true => rw [veil_of_isConfiguration hidden]
  simp only [event, same]

def Outcome.veil : Outcome σ α → Outcome Unit α
  | .done a => .done a
  | .raised fault => .raised fault.veil
  | .waiting _ => .waiting id

theorem Outcome.Indistinct.veil_eq {left : Outcome σ α} {right : Outcome τ α}
    (indistinct : Indistinct R (left, world) (right, other)) : left.veil = right.veil := by
  cases indistinct with
  | done a further => rfl
  | raised same => exact congrArg Outcome.raised same
  | waiting => rfl

@[simp] theorem Outcome.veil_veil (outcome : Outcome σ α) : outcome.veil.veil = outcome.veil := by
  cases outcome <;> simp [veil]

def Producer.veil : Producer σ → Producer Unit
  | .telling rest outcome => .telling rest outcome.veil
  | .leaving fault => .leaving (fault.map Fault.veil)
  | .ended fault => .ended (fault.map Fault.veil)

@[simp] theorem Producer.veil_veil (producer : Producer σ) :
    producer.veil.veil = producer.veil := by
  cases producer <;> simp [veil, Function.comp_def]

theorem Producer.step?_veil (producer : Producer σ) :
    producer.veil.step?.map (Prod.map veil id) = producer.step?.map (Prod.map veil id) := by
  cases producer with
  | telling rest outcome =>
    cases rest with
    | nil => cases outcome <;> simp [veil, Outcome.veil, step?]
    | cons notice rest =>
      cases event : notice.event? with
      | none => simp [veil, step?, event]
      | some event' =>
        -- what cannot be told has one fault, whatever the run comes to
        cases framed : event'.frame? <;> simp [veil, step?, event, framed]
  | leaving fault => cases fault <;> simp [veil, step?]
  | ended fault => rfl

namespace Pipe

def veil (pipe : Pipe σ) : Pipe Unit where
  producer := pipe.producer.veil
  queue := pipe.queue
  reader := pipe.reader
  told := pipe.told

theorem produce?_veil (pipe : Pipe σ) :
    pipe.veil.produce?.map veil = pipe.produce?.map veil := by
  have same := congrArg (Option.map fun did : Producer Unit × List (Option String) =>
    (⟨did.1, pipe.queue ++ did.2, pipe.reader, pipe.told⟩ : Pipe Unit)) pipe.producer.step?_veil
  simp only [Option.map_map] at same
  simp only [produce?, Option.map_map]
  exact same

theorem read?_veil (id : String) (pipe : Pipe σ) :
    (pipe.veil.read? id).map veil = (pipe.read? id).map veil := by
  obtain ⟨producer, queue, reader, told⟩ := pipe
  cases reader with
  | reading => rcases queue with _ | ⟨_ | frame, queue⟩ <;> simp [veil, read?]
  | joining =>
    rcases producer with _ | _ | _ | fault <;>
      simp [veil, Producer.veil, read?, Fault.event_veil]
  | ended => rfl

theorem step?_veil (id : String) (pipe : Pipe σ) :
    (pipe.veil.step? id).map veil = (pipe.step? id).map veil := by
  simp only [step?, Option.map_or, read?_veil, produce?_veil]

theorem drain_of_step? {id : String} {pipe next : Pipe σ} (did : pipe.step? id = some next) :
    pipe.drain id = next.drain id := by
  rw [drain]
  split <;> simp_all

theorem drain_of_stuck {id : String} {pipe : Pipe σ} (stuck : pipe.step? id = none) :
    pipe.drain id = pipe := by
  rw [drain]
  split <;> simp_all

theorem told_drain_eq (id : String) {pipe : Pipe σ} {pipe' : Pipe τ}
    (same : pipe.veil = pipe'.veil) : (pipe.drain id).told = (pipe'.drain id).told := by
  fun_induction drain id pipe generalizing pipe' with
  | case1 pipe next did ih =>
    have steps := pipe.step?_veil id
    rw [same, pipe'.step?_veil, did] at steps
    obtain ⟨next', did', further⟩ := Option.map_eq_some_iff.mp steps
    rw [ih further.symm, drain_of_step? did']
  | case2 pipe stuck =>
    have steps := pipe.step?_veil id
    rw [same, pipe'.step?_veil, stuck, Option.map_none, Option.map_eq_none_iff] at steps
    rw [drain_of_stuck steps]
    exact congrArg Pipe.told same

end Pipe

theorem Report.Indistinct.stream_eq {left : Report σ × σ} {right : Report τ × τ}
    (indistinct : Indistinct R left right) (id : String) :
    left.1.stream id = right.1.stream id := by
  refine Pipe.told_drain_eq id ?_
  simp only [Pipe.veil, Pipe.ofReport, Producer.veil, indistinct.notices,
    indistinct.outcome.veil_eq]

-- ---------------------------------------------------------------------------
-- Scripts
-- ---------------------------------------------------------------------------

abbrev Script := List (Except Fault Value)

/-- Scripts that differ only in the faults that they give, and there behind the veil. -/
def Script.SameVeiled (script other : Script) : Prop :=
  script.map (Except.mapError Fault.veil) = other.map (Except.mapError Fault.veil)

def Script.reply : Act Script Value
  | [] => (.done .null, [])
  | .ok v :: script => (.done v, script)
  | .error fault :: script => (.raised fault, script)

theorem Script.indistinct_reply : Act.Indistinct SameVeiled reply reply := by
  intro script other same
  cases script with
  | nil =>
    obtain rfl : other = [] := by simpa [SameVeiled] using same.symm
    exact .done _ same
  | cons first script =>
    cases other with
    | nil => cases same
    | cons second other =>
      obtain ⟨replied, rest⟩ := List.cons.inj same
      cases first with
      | ok v =>
        cases second with
        | ok v' =>
          cases replied
          exact .done v rest
        | error fault => cases replied
      | error fault =>
        cases second with
        | ok v => cases replied
        | error fault' => exact .raised (Except.error.inj replied)

/-- Services that reply by a script. A chat is told in fragments; as a whole it has no answer. -/
def Services.scripted : Services Script where
  complete _ := pure ""
  stream _ := fun script =>
    (⟨["we", "ll"], (Script.reply script).1.map fun _ => ()⟩, (Script.reply script).2)
  query _ _ := Script.reply
  send _ := Script.reply
  defaults := { baseUrl := "https://chat.test", apiKey := "key" }

theorem Services.Indistinct.scripted (told : Bool) :
    Services.Indistinct Script.SameVeiled .scripted told .scripted where
  defaults := rfl
  options := rfl
  complete _ _ := Act.alike_pure ""
  stream _ _ script other same := ⟨rfl, (Script.indistinct_reply script other same).map _⟩
  query _ _ := Script.indistinct_reply
  send _ := Script.indistinct_reply
  evaluate := rfl

end Flowline

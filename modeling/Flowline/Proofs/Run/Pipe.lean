import Flowline.Run.Stream
import Mathlib.Logic.Relation

/-!
# Pipes lose nothing

The two sides of a pipe go on in any order. Whatever the order, what the reader has handed on, what
stands in the queue and what the run has still to tell are together always the same frames, in the
same order. If the run does not wait for ever, no order of steps gets stuck before the reader is
over, and each step makes the pipe smaller: so every order ends, with the same frames.
-/

namespace Flowline

-- ---------------------------------------------------------------------------
-- What is still to come
-- ---------------------------------------------------------------------------

/-- The frames of notices, up to one that cannot be told, and the fault that this is. -/
def Notice.tell : List Notice → List String × Option Fault
  | [] => ([], none)
  | notice :: rest =>
    match notice.event? with
    | none => tell rest
    | some event =>
      match event.frame? with
      | some frame => (frame :: (tell rest).1, (tell rest).2)
      | none => ([], some .integerTooLong)

def Outcome.fault? : Outcome σ α → Option Fault
  | .raised fault => some fault
  | _ => none

theorem Outcome.fault?_eq_some_iff {outcome : Outcome σ α} :
    outcome.fault? = some fault ↔ outcome = .raised fault := by
  cases outcome <;> simp [fault?]

namespace Producer

def frames : Producer σ → List String
  | .telling rest _ => (Notice.tell rest).1
  | .leaving _ | .ended _ => []

def fault? : Producer σ → Option Fault
  | .telling rest outcome => (Notice.tell rest).2.or outcome.fault?
  | .leaving fault | .ended fault => fault

@[simp] theorem frames_ended (fault : Option Fault) :
    (.ended fault : Producer σ).frames = [] := rfl

def Ends : Producer σ → Prop
  | .telling _ outcome => ∀ cancel, outcome ≠ .waiting cancel
  | .leaving _ | .ended _ => True

def IsOver : Producer σ → Prop
  | .ended _ => True
  | .telling .. | .leaving _ => False

/-- What a step puts into the queue: the mark if the run is over by it, and else the next of the
frames that are still to come. -/
theorem cases_of_step? {producer next : Producer σ} {put : List (Option String)}
    (did : producer.step? = some (next, put)) :
    ¬ producer.IsOver ∧ producer.fault? = next.fault? ∧ (producer.Ends → next.Ends) ∧
      ((∃ fault, next = .ended fault ∧ put = [none] ∧ producer.frames = []) ∨
        ∃ new : List String, ¬ next.IsOver ∧ put = new.map some ∧
          producer.frames = new ++ next.frames) := by
  unfold step? at did
  split at did
  · rename_i notice rest outcome
    cases event : notice.event? with
    | none =>
      simp only [event, Option.some.injEq, Prod.mk.injEq] at did
      obtain ⟨rfl, rfl⟩ := did
      refine ⟨id, ?_, id, .inr ⟨[], id, rfl, ?_⟩⟩ <;> simp [frames, fault?, Notice.tell, event]
    | some event' =>
      cases framed : event'.frame? with
      | none =>
        simp only [event, framed, Option.some.injEq, Prod.mk.injEq] at did
        obtain ⟨rfl, rfl⟩ := did
        refine ⟨id, ?_, fun _ => trivial, .inr ⟨[], id, rfl, ?_⟩⟩ <;>
          simp [frames, fault?, Notice.tell, event, framed]
      | some frame =>
        simp only [event, framed, Option.some.injEq, Prod.mk.injEq] at did
        obtain ⟨rfl, rfl⟩ := did
        refine ⟨id, ?_, id, .inr ⟨[frame], id, rfl, ?_⟩⟩ <;>
          simp [frames, fault?, Notice.tell, event, framed]
  · cases did
    exact ⟨id, rfl, fun _ => trivial, .inr ⟨[], id, rfl, rfl⟩⟩
  · cases did
    exact ⟨id, rfl, fun _ => trivial, .inr ⟨[], id, rfl, rfl⟩⟩
  · cases did
  · cases did
    exact ⟨id, rfl, fun _ => trivial, .inl ⟨_, rfl, rfl, rfl⟩⟩
  · cases did

theorem eq_waiting_of_step? {producer : Producer σ} (on : ¬ producer.IsOver)
    (idle : producer.step? = none) : ∃ cancel, producer = .telling [] (.waiting cancel) := by
  cases producer with
  | telling rest outcome =>
    cases rest with
    | nil =>
      cases outcome with
      | done | raised => simp [step?] at idle
      | waiting cancel => exact ⟨cancel, rfl⟩
    | cons notice rest =>
      simp only [step?] at idle
      split at idle
      · cases idle
      · split at idle <;> cases idle
  | leaving fault => cases idle
  | ended fault => exact absurd trivial on

end Producer

-- ---------------------------------------------------------------------------
-- Steps in any order
-- ---------------------------------------------------------------------------

namespace Pipe

inductive Step (id : String) (pipe next : Pipe σ) : Prop
  | produce (did : pipe.produce? = some next)
  | read (did : pipe.read? id = some next)

abbrev Steps (id : String) : Pipe σ → Pipe σ → Prop := Relation.ReflTransGen (Step id)

/-- How far the two sides can be at the same time. -/
inductive Linked : Pipe σ → Prop
  | going {producer : Producer σ} {told : List String} (frames : List String)
      (on : ¬ producer.IsOver) : Linked ⟨producer, frames.map some, .reading, told⟩
  | marked {told : List String} (frames : List String) :
      Linked ⟨.ended fault, frames.map some ++ [none], .reading, told⟩
  | joining {told : List String} : Linked ⟨.ended fault, [], .joining, told⟩
  | ended {told : List String} : Linked ⟨.ended fault, [], .ended, told⟩

structure Sound (pipe : Pipe σ) : Prop where
  linked : pipe.Linked
  ends : pipe.producer.Ends

/-- All that the reader will have handed on in the end: what it has handed on, the frames in the
queue, those that the run has still to tell, and the failure of the run. -/
def due (id : String) (pipe : Pipe σ) : List String :=
  pipe.told ++ pipe.queue.filterMap (·) ++ pipe.producer.frames ++
    if pipe.reader = .ended then []
    else (pipe.producer.fault?.map fun fault => (fault.event id).frameText).toList

variable {id : String} {pipe next : Pipe σ}

theorem Step.size_lt (step : Step id pipe next) : next.size < pipe.size := by
  cases step with
  | produce did => exact size_of_produce? did
  | read did => exact size_of_read? did

theorem wellFounded_step (id : String) :
    WellFounded fun next pipe : Pipe σ => Step id pipe next :=
  Subrelation.wf Step.size_lt (measure size).wf

theorem Linked.produce (linked : pipe.Linked) (did : pipe.produce? = some next) :
    next.Linked ∧ next.due id = pipe.due id := by
  obtain ⟨⟨producer', put⟩, step, rfl⟩ := Option.map_eq_some_iff.mp did
  obtain ⟨on, fault, -, put⟩ := Producer.cases_of_step? step
  cases linked with
  | @going producer told frames _ =>
    obtain ⟨fault', rfl, rfl, done⟩ | ⟨new, on', rfl, more⟩ := put
    · exact ⟨.marked frames, by simp [due, fault, done]⟩
    · have on : Linked ⟨producer', (frames ++ new).map some, .reading, told⟩ :=
        .going (frames ++ new) on'
      refine ⟨by simpa using on, ?_⟩
      simp only [due, List.filterMap_append, List.filterMap_map, Function.comp_def,
        List.filterMap_some, List.append_assoc, reduceCtorEq, if_false, more, fault]
  | marked | joining | ended => exact absurd trivial on

theorem Linked.read (linked : pipe.Linked) (did : pipe.read? id = some next) :
    next.Linked ∧ next.due id = pipe.due id := by
  cases linked with
  | @going producer told frames on =>
    cases frames with
    | nil => simp [read?] at did
    | cons frame frames =>
      simp only [read?, List.map_cons, Option.some.injEq] at did
      subst did
      exact ⟨.going frames on, by simp [due]⟩
  | @marked fault told frames =>
    cases frames with
    | nil =>
      simp only [read?, List.map_nil, List.nil_append, Option.some.injEq] at did
      subst did
      exact ⟨.joining, by simp [due]⟩
    | cons frame frames =>
      simp only [read?, List.map_cons, List.cons_append, Option.some.injEq] at did
      subst did
      exact ⟨.marked frames, by simp [due]⟩
  | @joining fault told =>
    cases fault with
    | none =>
      simp only [read?, Option.some.injEq] at did
      subst did
      exact ⟨.ended, by simp [due, Producer.fault?]⟩
    | some fault =>
      simp only [read?, Option.some.injEq] at did
      subst did
      exact ⟨.ended, by simp [due, Producer.fault?]⟩
  | ended => simp [read?] at did

theorem Linked.step (linked : pipe.Linked) (step : Step id pipe next) :
    next.Linked ∧ next.due id = pipe.due id := by
  cases step with
  | produce did => exact linked.produce did
  | read did => exact linked.read did

theorem Linked.steps (linked : pipe.Linked) (steps : Steps id pipe next) :
    next.Linked ∧ next.due id = pipe.due id := by
  induction steps with
  | refl => exact ⟨linked, rfl⟩
  | tail _ step ih =>
    obtain ⟨linked', same⟩ := ih.1.step step
    exact ⟨linked', same.trans ih.2⟩

theorem producer_of_read? (did : pipe.read? id = some next) : next.producer = pipe.producer := by
  obtain ⟨producer, queue, reader, told⟩ := pipe
  unfold read? at did
  split at did <;> cases did <;> rfl

theorem Step.ends (step : Step id pipe next) (ends : pipe.producer.Ends) :
    next.producer.Ends := by
  cases step with
  | produce did =>
    obtain ⟨⟨producer', put⟩, step, rfl⟩ := Option.map_eq_some_iff.mp did
    obtain ⟨-, -, ends', -⟩ := Producer.cases_of_step? step
    exact ends' ends
  | read did => rwa [producer_of_read? did]

theorem Sound.steps (sound : pipe.Sound) (steps : Steps id pipe next) :
    next.Sound ∧ next.due id = pipe.due id := by
  obtain ⟨linked, same⟩ := sound.linked.steps steps
  refine ⟨⟨linked, ?_⟩, same⟩
  clear linked same
  induction steps with
  | refl => exact sound.ends
  | tail _ step ih => exact step.ends ih

theorem told_prefix_due (pipe : Pipe σ) : pipe.told <+: pipe.due id := by
  simp only [due, List.append_assoc]
  exact List.prefix_append ..

/-- When neither side can go on, the reader has handed on all that it ever will: it is over, or the
run waits for ever. -/
theorem Linked.told_of_stuck (linked : pipe.Linked) (stuck : ∀ next, ¬ Step id pipe next) :
    (pipe.reader = .ended ∨ ∃ cancel, pipe.producer = .telling [] (.waiting cancel)) ∧
      pipe.told = pipe.due id := by
  cases linked with
  | @going producer told frames on =>
    have idle : producer.step? = none := by
      cases step : producer.step? with
      | none => rfl
      | some did => exact absurd (.produce (Option.map_eq_some_iff.mpr ⟨did, step, rfl⟩)) (stuck _)
    obtain ⟨cancel, rfl⟩ := Producer.eq_waiting_of_step? on idle
    cases frames with
    | nil => exact ⟨.inr ⟨cancel, rfl⟩, by simp [due, Producer.frames, Producer.fault?,
        Notice.tell, Outcome.fault?]⟩
    | cons frame frames => exact absurd (.read rfl) (stuck _)
  | marked frames =>
    cases frames with
    | nil => exact absurd (.read rfl) (stuck _)
    | cons frame frames => exact absurd (.read rfl) (stuck _)
  | @joining fault told =>
    cases fault with
    | none => exact absurd (.read rfl) (stuck _)
    | some fault => exact absurd (.read rfl) (stuck _)
  | ended => exact ⟨.inl rfl, by simp [due]⟩

theorem Sound.ended_of_stuck (sound : pipe.Sound) (stuck : ∀ next, ¬ Step id pipe next) :
    pipe.reader = .ended ∧ pipe.told = pipe.due id := by
  obtain ⟨ended | ⟨cancel, waits⟩, told⟩ := sound.linked.told_of_stuck stuck
  · exact ⟨ended, told⟩
  · have ends := sound.ends
    rw [waits] at ends
    exact absurd rfl (ends cancel)

-- ---------------------------------------------------------------------------
-- One order
-- ---------------------------------------------------------------------------

theorem steps_drain (id : String) (pipe : Pipe σ) : Steps id pipe (pipe.drain id) := by
  fun_induction drain id pipe with
  | case1 pipe next h ih =>
    refine .head ?_ ih
    rcases Option.or_eq_some_iff.mp h with h | ⟨-, h⟩
    · exact .read h
    · exact .produce h
  | case2 pipe h => exact .refl

theorem drain_stuck (id : String) (pipe : Pipe σ) : ∀ next, ¬ Step id (pipe.drain id) next := by
  fun_induction drain id pipe with
  | case1 pipe next h ih => exact ih
  | case2 pipe h =>
    obtain ⟨unread, unproduced⟩ := Option.or_eq_none_iff.mp h
    rintro next (did | did)
    · simp [unproduced] at did
    · simp [unread] at did

end Pipe

theorem Pipe.linked_ofReport (report : Report σ) : (Pipe.ofReport report).Linked := .going [] id

theorem Pipe.sound_ofReport {report : Report σ}
    (ends : ∀ cancel, report.outcome ≠ .waiting cancel) : (Pipe.ofReport report).Sound :=
  ⟨.going [] id, ends⟩

theorem Report.stream_eq_due (report : Report σ) (id : String) :
    report.stream id = (Pipe.ofReport report).due id := by
  obtain ⟨linked, same⟩ := (Pipe.linked_ofReport report).steps (Pipe.steps_drain id _)
  rw [← same]
  exact (linked.told_of_stuck (Pipe.drain_stuck id _)).2

end Flowline

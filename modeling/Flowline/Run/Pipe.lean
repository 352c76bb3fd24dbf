import Flowline.Event.Frame
import Flowline.Run.Walk

/-!
# Pipes

A streamed run and its reader are two tasks with a queue between them. The run puts the frame of
each event into the queue and, when it is over, a mark that nothing more will come; it does so also
when it fails. The reader takes frames out in order. When it meets the mark it waits for the run to
be over and tells its failure, if it failed.

Either side goes on whenever it can. The run asks nothing of the reader, so that all it will tell is
known beforehand: a pipe starts with the report of a run.
-/

namespace Flowline

def Notice.event? : Notice → Option Event
  | .started => some ⟨"start", .record []⟩
  | .entered nodeId => some ⟨"trace", .record [("nodeId", .text nodeId)]⟩
  | .delta _ fragment => some ⟨none, .record [("delta", .text fragment)]⟩
  | .left _ => none
  | .ended result =>
    some ⟨"end", .record
      [("output", result.output), ("termination", .text result.termination.word)]⟩

def internalError : String := "An internal error occurred. Please try again."

def Fault.publicText (fault : Fault) : String :=
  if fault.isConfiguration then fault.text else internalError

/-- A failure is told with the first twelve characters of an id, which finds it in the log. -/
def shortId (id : String) : String := String.ofList (id.toList.take 12)

def Fault.event (fault : Fault) (id : String) : Event :=
  ⟨"error", .record [("error", .text fault.publicText), ("correlation_id", .text (shortId id))]⟩

/-- How far a run has come in telling its reader. -/
inductive Producer (σ : Type) where
  /-- Notices that are still to be told, and what the run comes to behind them. -/
  | telling (rest : List Notice) (outcome : Outcome σ Result)
  /-- The run is left, perhaps with a fault, and has still to mark it. -/
  | leaving (fault : Option Fault)
  | ended (fault : Option Fault)

inductive Reader where
  | reading
  /-- The mark is met, and the reader waits for the run to be over. -/
  | joining
  | ended
  deriving DecidableEq, Repr

structure Pipe (σ : Type) where
  producer : Producer σ
  /-- Frames, and the mark that ends them. -/
  queue : List (Option String) := []
  reader : Reader := .reading
  told : List String := []

/-- What a run does next, and what it puts into the queue by that. It does nothing more once it is
over, nor while it waits for what never happens. -/
def Producer.step? : Producer σ → Option (Producer σ × List (Option String))
  | .telling (notice :: rest) outcome =>
    match notice.event? with
    | none => some (.telling rest outcome, [])
    | some event =>
      match event.frame? with
      | some frame => some (.telling rest outcome, [some frame])
      -- what cannot be told makes the run fail in the middle of it
      | none => some (.leaving (some .integerTooLong), [])
  | .telling [] (.done _) => some (.leaving none, [])
  | .telling [] (.raised fault) => some (.leaving (some fault), [])
  | .telling [] (.waiting _) => none
  | .leaving fault => some (.ended fault, [none])
  | .ended _ => none

namespace Pipe

def ofReport (report : Report σ) : Pipe σ where
  producer := .telling report.notices report.outcome

def produce? (pipe : Pipe σ) : Option (Pipe σ) :=
  pipe.producer.step?.map fun (producer, put) =>
    { pipe with producer, queue := pipe.queue ++ put }

def read? (id : String) (pipe : Pipe σ) : Option (Pipe σ) :=
  match pipe.reader, pipe.queue, pipe.producer with
  | .reading, some frame :: queue, _ => some { pipe with queue, told := pipe.told ++ [frame] }
  | .reading, none :: queue, _ => some { pipe with queue, reader := .joining }
  | .joining, _, .ended none => some { pipe with reader := .ended }
  | .joining, _, .ended (some fault) =>
    some { pipe with reader := .ended, told := pipe.told ++ [(fault.event id).frameText] }
  | _, _, _ => none

end Pipe

-- ---------------------------------------------------------------------------
-- To the end of a pipe
-- ---------------------------------------------------------------------------

def Producer.size : Producer σ → Nat
  | .telling rest _ => 2 * rest.length + 3
  | .leaving _ => 2
  | .ended _ => 0

def Reader.size : Reader → Nat
  | .reading => 2
  | .joining => 1
  | .ended => 0

/-- A bound on the steps that the two sides can still take. -/
def Pipe.size (pipe : Pipe σ) : Nat :=
  pipe.producer.size + pipe.queue.length + pipe.reader.size

theorem Producer.size_of_step? {producer next : Producer σ} {put : List (Option String)}
    (h : producer.step? = some (next, put)) : next.size + put.length < producer.size := by
  unfold step? at h
  split at h
  · split at h
    · cases h; simp [size]
    · split at h <;> cases h <;> simp [size]
      omega
  all_goals cases h
  all_goals simp [size]

namespace Pipe

theorem size_of_produce? {pipe next : Pipe σ} (h : pipe.produce? = some next) :
    next.size < pipe.size := by
  obtain ⟨⟨producer, put⟩, did, rfl⟩ := Option.map_eq_some_iff.mp h
  have less := Producer.size_of_step? did
  simp only [size, List.length_append]
  omega

theorem size_of_read? {id : String} {pipe next : Pipe σ} (h : pipe.read? id = some next) :
    next.size < pipe.size := by
  obtain ⟨producer, queue, reader, told⟩ := pipe
  unfold read? at h
  split at h
  all_goals cases h
  all_goals simp_all only [size, Reader.size, List.length_cons]
  all_goals omega

def step? (id : String) (pipe : Pipe σ) : Option (Pipe σ) := (pipe.read? id).or pipe.produce?

theorem size_of_step? {id : String} {pipe next : Pipe σ} (h : pipe.step? id = some next) :
    next.size < pipe.size := by
  rcases Option.or_eq_some_iff.mp h with h | ⟨-, h⟩
  · exact size_of_read? h
  · exact size_of_produce? h

def drain (id : String) (pipe : Pipe σ) : Pipe σ :=
  match _h : pipe.step? id with
  | some next => next.drain id
  | none => pipe
termination_by pipe.size
decreasing_by exact size_of_step? _h

end Pipe

end Flowline

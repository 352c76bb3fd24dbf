import Flowline.Run.Pipe

/-!
# Event streams

A streamed run is told to the client as frames: the start, every node that is entered, the
fragments of chat answers and the end. A run that fails ends its stream with an error instead,
which says no more than that, except for trouble with the configuration. To close the stream early
gives up what the run still waits for.
-/

namespace Flowline

/-- The frames of a run, as far as it comes; `id` is for the log. -/
def Report.stream (report : Report σ) (id : String) : List String :=
  ((Pipe.ofReport report).drain id).told

namespace Graph

def stream (graph : Graph) (services : Services σ) (cancelled : Nat → Bool) (id : String) :
    σ → List String × σ := fun world =>
  let (report, world) := graph.run services true cancelled world
  (report.stream id, world)

/-- Reads a number of frames and closes the stream. A stream of which nothing is read does not
start its run. -/
def streamSome (graph : Graph) (services : Services σ) (cancelled : Nat → Bool) (id : String)
    (count : Nat) : σ → List String × σ := fun world =>
  if count = 0 then ([], world)
  else
    let (report, world) := graph.run services true cancelled world
    -- what does not wait has already run to its end when the first frame is read
    let world := match report.outcome with
      | .waiting cancel => cancel world
      | _ => world
    ((report.stream id).take count, world)

end Graph

end Flowline

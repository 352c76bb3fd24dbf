import Flowline.Proofs.Json.Writer
import Flowline.Proofs.Run.Plain
import Flowline.Proofs.Run.Rounds
import Flowline.Service.Execution

/-!
# How runs that succeed are answered

A run that returns is answered with its result exactly if the result is plain, for its values are
checked only when they are sent. Told as events, such a run ends its stream with its output; an
output that holds an integer without a text ends the stream with an error instead.
-/

namespace Flowline

variable {services : Services σ} {graph : Graph}

-- ---------------------------------------------------------------------------
-- Runs without chats
-- ---------------------------------------------------------------------------

theorem Plan.Course.unstreamed {walk : Walk σ} {streaming : Bool} {cancelled : Nat → Bool}
    (course : (graph.plan services streaming cancelled).Course budget executed carry current world
      walk after)
    (silent : ∀ node ∈ graph.nodes, node.kind ≠ .llm)
    (inside : ∀ node, current = some node → node ∈ graph.nodes) :
    (graph.plan services false cancelled).Course budget executed carry current world walk
      after := by
  have whole {node : Node} (here : node ∈ graph.nodes) (context : Context) (world : σ) :
      node.execute services false context world = node.execute services streaming context world :=
    congrFun (Node.execute_of_ne_llm (silent node here) streaming).symm world
  induction course with
  | deadEnd => exact .deadEnd
  | stepBudget => exact .stepBudget
  | cancelled off => exact .cancelled off
  | raised on did => exact .raised on ((whole (inside _ rfl) _ _).trans did)
  | waiting on did => exact .waiting on ((whole (inside _ rfl) _ _).trans did)
  | output on did last => exact .output on ((whole (inside _ rfl) _ _).trans did) last
  | onward on did more rest ih =>
    exact .onward on ((whole (inside _ rfl) _ _).trans did) more (ih fun _ => Index.mem_of_next?)

theorem Graph.run_unstreamed (services : Services σ)
    (silent : ∀ node ∈ graph.nodes, node.kind ≠ .llm) (streaming : Bool) (cancelled : Nat → Bool)
    (world : σ) :
    graph.run services streaming cancelled world = graph.run services false cancelled world := by
  obtain ⟨walk, after, ran, course⟩ := graph.course_run services streaming cancelled world
  have same := (course.unstreamed silent fun _ => Index.mem_of_start).walk_eq
  rw [ran, run]
  exact (congrArg (fun told => (told.1.report, told.2)) same).symm

-- ---------------------------------------------------------------------------
-- Frames
-- ---------------------------------------------------------------------------

theorem Event.isWellFormed_frameText {event : Event} (plain : event.payload.IsPlain)
    (named : ∀ name, event.name = some name → Text.isWellFormed name = true) :
    Text.isWellFormed event.frameText = true := by
  have apart : Json.Separators.spaced.AreWhole := ⟨by decide, by decide⟩
  have written := Json.areWhole_write apart event.payload plain.isJson
    ((Value.isPlain_iff _).mp plain).2.2.2
  have line : Text.AreWhole (nameLine event.name) := by
    cases given : event.name with
    | none => exact Text.areWhole_nil
    | some name =>
      rw [nameLine]
      split
      · exact Text.areWhole_nil
      · simp only [String.toList_append, Text.areWhole_append]
        exact ⟨⟨by decide, Text.isWellFormed_iff.mp (named name given)⟩, by decide⟩
  rw [Text.isWellFormed_iff, frameText, String.toList_ofList]
  simp only [Text.areWhole_append]
  exact ⟨⟨⟨line, by decide⟩, written⟩, by decide⟩

theorem Result.isPlain_payload {result : Result} (plain : result.toValue.IsPlain) :
    result.event.payload.IsPlain := by
  have word : Text.isWellFormed result.termination.word = true := by
    cases result.termination <;> decide
  simp (disch := decide) [event, Value.isPlain_record_iff, Value.isPlainField_iff,
    Value.isPlain_text_iff, word, (isPlain_toValue_iff.mp plain).1]

namespace Graph

theorem isPlain_payload {result : Result} (silent : ∀ node ∈ graph.nodes, node.kind ≠ .llm)
    (returned : (graph.run services streaming cancelled world).1.outcome = .done result)
    (plain : result.toValue.IsPlain) :
    ∀ event ∈ (graph.run services streaming cancelled world).1.notices.filterMap Notice.event?,
      event.payload.IsPlain := by
  have entries := graph.entries_of_done services streaming cancelled world returned
  have inside := graph.mem_of_mem_visits services streaming cancelled world
  have notices := graph.notices_visits services streaming cancelled world
  simp only [returned] at notices
  intro event h
  obtain ⟨notice, mem, told⟩ := List.mem_filterMap.mp h
  rw [notices] at mem
  simp only [List.mem_append, List.mem_cons, List.mem_flatMap, List.not_mem_nil, or_false] at mem
  rcases mem with (rfl | ⟨visit, visited, mem⟩) | rfl
  · cases told
    trivial
  · obtain ⟨entry, traced, left⟩ : ∃ entry ∈ result.trace, visit.entry? = some entry := by
      have done := List.mem_map_of_mem (f := Visit.entry?) visited
      rw [entries] at done
      obtain ⟨entry, traced, left⟩ := List.mem_map.mp done
      exact ⟨entry, traced, left.symm⟩
    have mute : visit.did.1.pieces = [] :=
      Node.pieces_eq_nil (fun chat => silent _ (inside visit visited) chat.1) visit.world
    have named : Text.isWellFormed visit.node.id = true := by
      obtain ⟨output, -, rfl⟩ := Visit.entry?_eq_some_iff.mp left
      have sent := (Result.isPlain_toValue_iff.mp plain).2.2 _ traced
      exact (Entry.isPlain_toValue_iff.mp sent).1
    rw [Visit.notices_eq left, mute] at mem
    rcases List.mem_pair.mp mem with rfl | rfl
    · cases told
      simp (disch := decide) [Value.isPlain_record_iff, Value.isPlainField_iff,
        Value.isPlain_text_iff, named]
    · cases told
  · cases told
    exact result.isPlain_payload plain

theorem stream_of_done {result : Result} (id : String)
    (returned : (graph.run services streaming cancelled world).1.outcome = .done result) :
    let report := (graph.run services streaming cancelled world).1
    ∃ front : List Event, (∀ event ∈ front, event ∈ report.notices.filterMap Notice.event? ∧
        event.name ∈ [some "start", some "trace", none]) ∧
      report.stream id = front.map Event.frameText ++
        [if result.output.fits then result.event.frameText
          else (Fault.integerTooLong.event id).frameText] := by
  intro report
  obtain ⟨inner, all, notices⟩ := graph.notices_run services streaming cancelled world
  have written := Report.stream_eq (by simp [returned]) all notices id
  refine ⟨(Notice.started :: inner).filterMap Notice.event?, fun event h => ⟨?_, ?_⟩, ?_⟩
  · rw [notices, List.filterMap_append]
    exact List.mem_append_left _ h
  · exact (Notice.event_of_inner all h).2
  · simpa only [returned] using written

end Graph

theorem Services.idle_returnPlain : Services.idle.ReturnPlain where
  query _ _ v did := by
    cases did
    trivial
  send _ _ v did := by
    cases did
    trivial

-- ---------------------------------------------------------------------------
-- Answers
-- ---------------------------------------------------------------------------

namespace Service

def Request.graph? (request : Request) : Option Graph :=
  match readBody request.body with
  | .ok body =>
    match loadBody body with
    | .accepted graph => some graph
    | _ => none
  | .error _ => none

/-- A request that has a graph executed. -/
structure Request.Submits (request : Request) (graph : Graph) : Prop where
  path : request.path = Route.execute.path
  method : request.method = Route.execute.method
  body : request.graph? = some graph

theorem Request.Submits.respond_eq {request : Request} (submits : request.Submits graph)
    (services : Services σ) (id : String) :
    respond (some services) id request =
      if request.wantsEvents then executeTold services id graph
      else executeWhole services id graph := by
  obtain ⟨path, method, found⟩ := submits
  rw [Request.graph?] at found
  split at found
  · next body read =>
    split at found
    · next accepted =>
      cases found
      simp [respond, Route.ofPath?, path, method, execute, read, accepted]
    · nomatch found
  · nomatch found

theorem json_eq_ok_iff {status : Nat} {body : Value} {response : Response} :
    Response.json status body = .ok response ↔
      ∃ sent, sendable body = .ok sent ∧ response = ⟨status, .json sent⟩ := by
  rw [Response.json, Except.bind_eq_ok_iff]
  simp [pure, Except.pure, eq_comm]

theorem events_eq_ok_iff {frames : List String} {response : Response} :
    Response.events frames = .ok response ↔
      (∀ frame ∈ frames, Text.isWellFormed frame = true) ∧ response = ⟨200, .events frames⟩ := by
  rw [Response.events, ← List.all_eq_true]
  split <;> simp [*, eq_comm]

theorem ofExcept_eq_done_iff {answer : Except Fault Response} {response : Response} {after : σ} :
    Act.ofExcept answer after = (.done response, after) ↔ answer = .ok response := by
  cases answer <;> simp [Act.ofExcept, Act.done, Act.raise]

variable {result : Result} {world after : σ}

theorem executeWhole_of_done
    (returned : (graph.run services false (fun _ => false) world).1.outcome = .done result)
    (id : String) :
    executeWhole services id graph world = Act.ofExcept (Response.json 200 result.toValue)
      (graph.run services false (fun _ => false) world).2 := by
  simp only [executeWhole, returned]

theorem executeTold_of_done
    (returned : (graph.run services true (fun _ => false) world).1.outcome = .done result)
    (id : String) :
    executeTold services id graph world =
      Act.ofExcept (Response.events ((graph.run services true (fun _ => false) world).1.stream id))
        (graph.run services true (fun _ => false) world).2 := by
  simp only [executeTold, returned]

/-- The answer to a run without chats that has come to its end. It is the result as JSON exactly if
the result is plain. As events a plain result ends the stream with its output; an output that holds
an integer without a text has an error in its place. Where the graph's texts are plain and the
services return plain values, only a condition can make a result that is not plain. -/
theorem respond_of_done (services : Services σ) {request : Request} (submits : request.Submits graph)
    (silent : ∀ node ∈ graph.nodes, node.kind ≠ .llm)
    (returned : (graph.run services false (fun _ => false) world).1.outcome = .done result)
    (id : String) :
    let answer := respond (some services) id request world
    let after := (graph.run services false (fun _ => false) world).2
    (request.wantsEvents = false →
      (answer = (.done ⟨200, .json result.toValue⟩, after) ↔ result.toValue.IsPlain)) ∧
    (request.wantsEvents = true → result.toValue.IsPlain → ∃ front,
      answer = (.done ⟨200, .events (front ++ [result.event.frameText])⟩, after)) ∧
    (request.wantsEvents = true → result.output.fits = false → ∀ response,
      answer = (.done response, after) → ∃ front,
        response = ⟨200, .events (front ++ [(Fault.integerTooLong.event id).frameText])⟩) ∧
    (graph.IsPlain → services.ReturnPlain →
      (∀ entry ∈ result.trace, entry.kind = Kind.condition.name → entry.output.IsPlain) →
      result.toValue.IsPlain) := by
  intro answer after
  have answered : answer = _ := congrFun (submits.respond_eq services id) world
  have same := graph.run_unstreamed services silent true (fun _ => false) world
  have returned' : (graph.run services true (fun _ => false) world).1.outcome = .done result := by
    rw [same]
    exact returned
  have executed := executeTold_of_done returned' id
  obtain ⟨front, known, frames⟩ := Graph.stream_of_done id returned'
  rw [frames, same] at executed
  refine ⟨fun whole => ?_, fun told plain => ?_, fun told unfit response sent => ?_,
    fun texts returns decided => ?_⟩
  · rw [answered, whole, if_neg Bool.false_ne_true, executeWhole_of_done returned,
      ofExcept_eq_done_iff, json_eq_ok_iff, ← sendable_eq_self_iff]
    constructor
    · rintro ⟨sent, spelled, same⟩
      cases same
      exact spelled
    · exact fun spelled => ⟨_, spelled, rfl⟩
  · have payloads := Graph.isPlain_payload silent returned' plain
    have fit : result.output.fits = true :=
      ((Value.isPlain_iff _).mp (Result.isPlain_toValue_iff.mp plain).1).2.2.1
    rw [fit, if_pos rfl] at executed
    refine ⟨front.map Event.frameText, ?_⟩
    rw [answered, told, if_pos rfl, executed, ofExcept_eq_done_iff, events_eq_ok_iff]
    refine ⟨List.forall_mem_append.mpr ⟨List.forall_mem_map.mpr fun event h => ?_, ?_⟩, rfl⟩
    · obtain ⟨notified, name⟩ := known event h
      refine Event.isWellFormed_frameText (payloads event notified) fun given same => ?_
      simp only [same, List.mem_cons, Option.some.injEq, reduceCtorEq, List.not_mem_nil,
        or_false] at name
      rcases name with rfl | rfl <;> decide
    · refine List.forall_mem_singleton.mpr (Event.isWellFormed_frameText ?_ ?_)
      · exact result.isPlain_payload plain
      · rintro given ⟨⟩
        decide
  · rw [unfit, if_neg Bool.false_ne_true] at executed
    rw [answered, told, if_pos rfl, executed, ofExcept_eq_done_iff, events_eq_ok_iff] at sent
    exact ⟨_, sent.2⟩
  · exact Graph.isPlain_of_done texts returns silent returned decided

def Request.post (text accept : String) : Request where
  method := Route.execute.method
  path := Route.execute.path
  accept := accept
  body := text.toUTF8.toList

def deciding (expression : String) : String :=
  "\x7b\"nodes\":[\x7b\"id\":\"c\",\"type\":\"condition\",\"data\":\x7b\"expression\":\""
    ++ expression ++ "\"\x7d\x7d]\x7d"

def integer? : Value → Option Int
  | .int n => some n
  | _ => none

theorem isPlain_of_integer? {v : Value} (same : integer? v = some n) (fits : integerFits n = true) :
    v.IsPlain := by
  cases v with
  | int m =>
    cases same
    exact fits
  | _ => nomatch same

/-- A product is answered with status 200. -/
theorem respond_of_done_product :
    let request := Request.post (deciding "6 * 7") ""
    ∃ graph result, request.Submits graph ∧
      (graph.run Services.idle false (fun _ => false) ()).1.outcome = .done result ∧
      result.toValue.IsPlain ∧
      respond (some Services.idle) "" request () = (.done ⟨200, .json result.toValue⟩, ()) := by
  intro request
  have ran : (request.graph?.bind fun graph =>
      (graph.run Services.idle false (fun _ => false) ()).1.outcome.done?.map fun result =>
        (graph.initialInput.isNone && graph.nodes.all fun node =>
          node.kind != .llm && Text.isWellFormed node.id && !isHidden node.id &&
            Text.isWellFormed node.kindName, result.trace.map fun entry => integer? entry.output)) =
      some (true, [some 42]) := by
    decide +kernel
  obtain ⟨graph, found, told⟩ := Option.bind_eq_some_iff.mp ran
  obtain ⟨result, done, facts⟩ := Option.map_eq_some_iff.mp told
  have returned := Outcome.done?_eq_some_iff.mp done
  simp only [Prod.mk.injEq, Bool.and_eq_true, List.all_eq_true, Option.isNone_iff_eq_none,
    bne_iff_ne, Bool.not_eq_true'] at facts
  obtain ⟨⟨input, all⟩, outputs⟩ := facts
  have plain : graph.IsPlain := by
    refine ⟨fun node h => ⟨(all node h).1.1.2, (all node h).1.2⟩, fun node h => (all node h).2, ?_⟩
    rw [Graph.opening, input]
    trivial
  have decided : ∀ entry ∈ result.trace, entry.output.IsPlain := by
    intro entry h
    have put := List.mem_map_of_mem (f := fun entry : Entry => integer? entry.output) h
    rw [outputs, List.mem_singleton] at put
    exact isPlain_of_integer? put (by decide +kernel)
  obtain ⟨whole, -, -, plains⟩ := respond_of_done Services.idle ⟨rfl, rfl, found⟩
    (fun node h => (all node h).1.1.1) returned ""
  have sent := plains plain Services.idle_returnPlain fun entry h _ => decided entry h
  exact ⟨graph, result, ⟨rfl, rfl, found⟩, returned, sent, (whole (by decide +kernel)).mpr sent⟩

/-- A power with more digits than the text of an integer may have is computed and cannot be sent: to
send the result of the run fails, and as events the run ends with an error. -/
theorem respond_power :
    let request (accept : String) := Request.post (deciding "10 ** 4300") accept
    ∃ graph result, (∀ accept, (request accept).Submits graph) ∧
      (∀ node ∈ graph.nodes, node.kind ≠ .llm) ∧ Services.idle.ReturnPlain ∧
      (graph.run Services.idle false (fun _ => false) ()).1.outcome = .done result ∧
      respond (some Services.idle) "" (request "") () = (.raised .noJsonForm, ()) ∧
      ∃ front, respond (some Services.idle) "" (request eventStream) () =
        (.done ⟨200, .events (front ++ [(Fault.integerTooLong.event "").frameText])⟩, ()) := by
  intro request
  have evaluated : ((request "").graph?.bind fun graph =>
      (graph.run Services.idle false (fun _ => false) ()).1.outcome.done?.map fun result =>
        (graph.nodes.all fun node => node.kind != .llm, result.output.fits,
          ((graph.run Services.idle true (fun _ => false) ()).1.stream "").all
            Text.isWellFormed)) = some (true, false, true) := by
    decide +kernel
  have refused : (respond (some Services.idle) "" (request "") ()).1.fault? = some .noJsonForm := by
    decide +kernel
  obtain ⟨graph, found, told⟩ := Option.bind_eq_some_iff.mp evaluated
  obtain ⟨result, done, facts⟩ := Option.map_eq_some_iff.mp told
  have returned := Outcome.done?_eq_some_iff.mp done
  simp only [Prod.mk.injEq, List.all_eq_true, bne_iff_ne] at facts
  obtain ⟨silent, unfit, whole⟩ := facts
  have submits (accept : String) : (request accept).Submits graph := ⟨rfl, rfl, found⟩
  have returned' : (graph.run Services.idle true (fun _ => false) ()).1.outcome = .done result := by
    rw [graph.run_unstreamed Services.idle silent]
    exact returned
  obtain ⟨front, -, frames⟩ := Graph.stream_of_done "" returned'
  rw [unfit, if_neg Bool.false_ne_true] at frames
  refine ⟨graph, result, submits, silent, Services.idle_returnPlain, returned,
    Prod.ext (Outcome.fault?_eq_some_iff.mp refused) rfl, front.map Event.frameText, ?_⟩
  rw [(submits eventStream).respond_eq, if_pos (by decide +kernel),
    executeTold_of_done returned', ofExcept_eq_done_iff, frames, events_eq_ok_iff]
  exact ⟨frames ▸ whole, rfl⟩

end Service

end Flowline

import Flowline.Proofs.Run.Calls
import Flowline.Proofs.Run.Stream

/-!
# Streams that are closed early

A run gives way to its reader only where it waits. So when its reader gets a first frame, the run is
over or waits for ever, and to close the stream then takes back no call and no frame that was told:
it gives up what the run still waits for, which is the last call of the run.
-/

namespace Flowline

-- ---------------------------------------------------------------------------
-- A run ahead of its reader
-- ---------------------------------------------------------------------------

/-- A run that will wait for ever once it has told what it still has to tell. -/
def Producer.Waits (cancel : σ → σ) : Producer σ → Prop
  | .telling rest outcome =>
    outcome = .waiting cancel ∧
      ∀ event ∈ rest.filterMap Notice.event?, event.payload.fits = true
  | .leaving _ | .ended _ => False

theorem Producer.Waits.step {producer next : Producer σ} (waits : producer.Waits cancel)
    (did : producer.step? = some (next, put)) : next.Waits cancel := by
  cases producer with
  | leaving | ended => exact waits.elim
  | telling rest outcome =>
    obtain ⟨rfl, fits⟩ := waits
    cases rest with
    | nil => cases did
    | cons notice rest =>
      cases told : notice.event? with
      | none =>
        simp only [step?, told, Option.some.injEq, Prod.mk.injEq] at did
        simp only [List.filterMap_cons, told] at fits
        exact did.1 ▸ ⟨rfl, fits⟩
      | some event =>
        simp only [List.filterMap_cons, told, List.forall_mem_cons] at fits
        have framed : event.frame? = some event.frameText := by simp [Event.frame?, fits.1]
        simp only [step?, told, framed, Option.some.injEq, Prod.mk.injEq] at did
        exact did.1 ▸ ⟨rfl, fits.2⟩

theorem Producer.Waits.eq_of_step? {producer : Producer σ} (waits : producer.Waits cancel)
    (idle : producer.step? = none) : producer = .telling [] (.waiting cancel) := by
  cases producer with
  | leaving | ended => exact waits.elim
  | telling rest outcome =>
    obtain ⟨cancel', same⟩ := eq_waiting_of_step? id idle
    obtain ⟨rfl, rfl⟩ := Producer.telling.inj same
    rw [← waits.1]

def Outcome.giveUp : Outcome σ α → σ → σ
  | .waiting cancel => cancel
  | .done _ | .raised _ => fun world => world

namespace Pipe

def ahead (pipe : Pipe σ) : Pipe σ :=
  match _h : pipe.produce? with
  | some next => next.ahead
  | none => pipe
termination_by pipe.size
decreasing_by exact size_of_produce? _h

def readTo (id : String) (count : Nat) (pipe : Pipe σ) : Pipe σ :=
  if count ≤ pipe.told.length then pipe
  else
    match _h : pipe.read? id with
    | some next => next.readTo id count
    | none => pipe
termination_by pipe.size
decreasing_by exact size_of_read? _h

def close (pipe : Pipe σ) : σ → σ :=
  match pipe.producer with
  | .telling [] (.waiting cancel) => cancel
  | _ => fun world => world

variable {id : String} {pipe next : Pipe σ}

theorem steps_ahead (id : String) (pipe : Pipe σ) : Steps id pipe pipe.ahead := by
  fun_induction ahead pipe with
  | case1 pipe next did ih => exact .head (.produce did) ih
  | case2 pipe idle => exact .refl

theorem step?_ahead (pipe : Pipe σ) : pipe.ahead.producer.step? = none := by
  fun_induction ahead pipe with
  | case1 pipe next did ih => exact ih
  | case2 pipe idle => exact Option.map_eq_none_iff.mp idle

theorem told_ahead (pipe : Pipe σ) : pipe.ahead.told = pipe.told := by
  fun_induction ahead pipe with
  | case1 pipe next did ih =>
    obtain ⟨step, -, rfl⟩ := Option.map_eq_some_iff.mp did
    exact ih
  | case2 pipe idle => rfl

theorem waits_ahead (waits : pipe.producer.Waits cancel) :
    pipe.ahead.producer = .telling [] (.waiting cancel) := by
  refine Producer.Waits.eq_of_step? ?_ pipe.step?_ahead
  fun_induction ahead pipe with
  | case1 pipe next did ih =>
    obtain ⟨⟨producer, put⟩, step, rfl⟩ := Option.map_eq_some_iff.mp did
    exact ih (waits.step step)
  | case2 pipe idle => exact waits

theorem steps_readTo (id : String) (count : Nat) (pipe : Pipe σ) :
    Steps id pipe (pipe.readTo id count) := by
  fun_induction readTo id count pipe with
  | case1 pipe enough => exact .refl
  | case2 pipe few next did ih => exact .head (.read did) ih
  | case3 pipe few idle => exact .refl

theorem producer_readTo (id : String) (count : Nat) (pipe : Pipe σ) :
    (pipe.readTo id count).producer = pipe.producer := by
  fun_induction readTo id count pipe with
  | case1 pipe enough => rfl
  | case2 pipe few next did ih => exact ih.trans (producer_of_read? did)
  | case3 pipe few idle => rfl

theorem length_told_of_read? (did : pipe.read? id = some next) :
    next.told.length ≤ pipe.told.length + 1 := by
  obtain ⟨producer, queue, reader, told⟩ := pipe
  unfold read? at did
  split at did <;> cases did <;> simp

theorem length_told_readTo (id : String) (few : pipe.told.length ≤ count) :
    (pipe.readTo id count).told.length ≤ count ∧
      ((pipe.readTo id count).told.length = count ∨ (pipe.readTo id count).read? id = none) := by
  fun_induction readTo id count pipe with
  | case1 pipe enough => exact ⟨few, .inl (Nat.le_antisymm few enough)⟩
  | case2 pipe less next did ih =>
    have one := length_told_of_read? did
    exact ih (by omega)
  | case3 pipe less idle => exact ⟨few, .inr idle⟩

/-- A run that goes ahead of its reader tells it what it tells in any other order. -/
theorem told_readTo_ahead (report : Report σ) (id : String) (count : Nat) :
    ((ofReport report).ahead.readTo id count).told = (report.stream id).take count := by
  obtain ⟨linked, same⟩ := (linked_ofReport report).steps
    ((steps_ahead id _).trans (steps_readTo id count _))
  have still : (ofReport report).ahead.told.length ≤ count := by
    rw [told_ahead]
    exact Nat.zero_le count
  rw [Report.stream_eq_due, ← same]
  obtain ⟨le, length | unread⟩ := length_told_readTo id still
  · have front : ((ofReport report).ahead.readTo id count).told <+: due id _ := told_prefix_due _
    rwa [List.prefix_iff_eq_take, length] at front
  · have idle : ((ofReport report).ahead.readTo id count).produce? = none := by
      rw [produce?, producer_readTo, step?_ahead, Option.map_none]
    have stuck : ∀ next, ¬ Step id ((ofReport report).ahead.readTo id count) next := by
      rintro next (did | did)
      · simp [idle] at did
      · simp [unread] at did
    rw [← (linked.told_of_stuck stuck).2, List.take_of_length_le le]

/-- To close the pipe of a run gives up what the run waits for, and does nothing else. -/
theorem close_readTo_ahead {report : Report σ} (id : String) (count : Nat)
    (fits : ∀ cancel, report.outcome = .waiting cancel →
      ∀ event ∈ report.notices.filterMap Notice.event?, event.payload.fits = true) :
    ((ofReport report).ahead.readTo id count).close = report.outcome.giveUp := by
  rw [close, producer_readTo]
  cases came : report.outcome with
  | waiting cancel =>
    have waits : (ofReport report).producer.Waits cancel := ⟨came, fits cancel came⟩
    rw [waits_ahead waits]
    rfl
  | done | raised =>
    have ends : (ofReport report).ahead.producer.Ends := by
      obtain ⟨sound, -⟩ :=
        (sound_ofReport (by simp [came])).steps (steps_ahead id (ofReport report))
      exact sound.ends
    split
    · rename_i cancel waits
      rw [waits] at ends
      exact absurd rfl (ends cancel)
    · rfl

end Pipe

-- ---------------------------------------------------------------------------
-- The call that hangs
-- ---------------------------------------------------------------------------

/-- A call that waits for ever: `cancel` gives it up, and `after` is the world in which it waits. -/
inductive Services.Hangs (services : Services σ) (cancel : σ → σ) (after : σ) : Call → Prop
  | chat (hangs : services.stream exchange world = (⟨pieces, .waiting cancel⟩, after)) :
      Hangs services cancel after (.chat true exchange)
  | query (hangs : services.query statement services.options world = (.waiting cancel, after)) :
      Hangs services cancel after (.query statement services.options)
  | send (hangs : services.send request world = (.waiting cancel, after)) :
      Hangs services cancel after (.send request)

theorem Outcome.map_eq_waiting_iff {outcome : Outcome σ α} {f : α → β} :
    outcome.map f = .waiting cancel ↔ outcome = .waiting cancel := by
  cases outcome <;> simp [map]

theorem Telling.ofAct_eq_waiting {act : Act σ α}
    (waits : ((ofAct act : Telling σ ε α) world).1.outcome = .waiting cancel) :
    act world = (.waiting cancel, ((ofAct act : Telling σ ε α) world).2) :=
  Prod.ext waits rfl

theorem Task.hangs_of_perform {services : Services σ} {task : Task}
    (waits : (task.perform services true world).1.outcome = .waiting cancel) :
    ∃ call, task.calls services true = [call] ∧
      services.Hangs cancel (task.perform services true world).2 call := by
  cases task with
  | value v => cases waits
  | decide condition =>
    simp only [perform, Telling.ofAct] at waits
    cases decided : services.evaluate condition <;> simp [decided, Act.done] at waits
  | chat exchange =>
    have hung : (services.stream exchange world).1.outcome = .waiting cancel :=
      Outcome.map_eq_waiting_iff.mp (Outcome.map_eq_waiting_iff.mp waits)
    have hangs : services.stream exchange world =
        (⟨(services.stream exchange world).1.pieces, .waiting cancel⟩,
          (services.stream exchange world).2) := by rw [← hung]
    exact ⟨_, rfl, .chat hangs⟩
  | query statement => exact ⟨_, rfl, .query (Telling.ofAct_eq_waiting waits)⟩
  | send request => exact ⟨_, rfl, .send (Telling.ofAct_eq_waiting waits)⟩

theorem Visit.hangs_of_did {services : Services σ} {visit : Visit services true}
    (waits : visit.did.1.outcome = .waiting cancel) :
    ∃ call, visit.calls = [call] ∧ services.Hangs cancel visit.did.2 call := by
  simp only [did, Node.execute, calls, Node.calls] at waits ⊢
  cases given : visit.node.task services.defaults visit.carry.context with
  | ok task =>
    rw [given] at waits
    exact task.hangs_of_perform waits
  | error fault =>
    rw [given] at waits
    cases waits

namespace Graph

theorem fits_of_waiting {graph : Graph} {services : Services σ}
    (waits : (graph.run services streaming cancelled world).1.outcome = .waiting cancel) :
    ∀ event ∈ (graph.run services streaming cancelled world).1.notices.filterMap Notice.event?,
      event.payload.fits = true := by
  obtain ⟨inner, all, notices⟩ := graph.notices_run services streaming cancelled world
  rw [waits, List.append_nil] at notices
  intro event told
  rw [notices] at told
  exact (Notice.event_of_inner all told).1

/-- To read some frames of a stream and then close it: the run goes ahead, its reader takes the
frames, and the run is cancelled if it waits. -/
theorem streamSome_eq (graph : Graph) (services : Services σ) (cancelled : Nat → Bool)
    (id : String) (pos : 0 < count) (world : σ) :
    graph.streamSome services cancelled id count world =
      let run := graph.run services true cancelled world
      let pipe := (Pipe.ofReport run.1).ahead.readTo id count
      (pipe.told, pipe.close run.2) := by
  simp only [streamSome, Nat.pos_iff_ne_zero.mp pos, if_false, Pipe.told_readTo_ahead,
    Pipe.close_readTo_ahead id count fun _ => fits_of_waiting]
  cases (graph.run services true cancelled world).1.outcome <;> rfl

/-- A run that waits has one call that hangs, which is its last, and the node that makes it is the
last that is executed. -/
theorem hangs_of_waiting {graph : Graph} {services : Services σ}
    (waits : (graph.run services true cancelled world).1.outcome = .waiting cancel) :
    let run := graph.run services true cancelled world
    ∃ earlier call node, graph.calls services true cancelled world = earlier ++ [call] ∧
      services.Hangs cancel run.2 call ∧ graph.Asked services true [] run.1.trace earlier ∧
      graph.due? graph.entrance? run.1.trace = some node ∧
      run.1.executed = run.1.trace.map Entry.nodeId ++ [node.id] := by
  intro run
  rcases graph.entries_visits services true cancelled world with
    ⟨⟨result, returned⟩, -⟩ | ⟨front, visit, split, entries, ⟨fault, -, raised⟩ | broke⟩
  · rw [waits] at returned
    cases returned
  · rw [waits] at raised
    cases raised
  · obtain ⟨cancel', waiting, same⟩ := broke
    obtain rfl : cancel = cancel' := Outcome.waiting.inj (waits.symm.trans same)
    obtain ⟨call, made, hangs⟩ := visit.hangs_of_did waiting
    have chain := graph.isChain_visits services true cancelled world
    have inside := graph.mem_of_mem_visits services true cancelled world
    rw [split] at chain inside
    have first : ∀ former, (front ++ [visit]).head? = some former → former.StandsBehind [] :=
      fun _ first => standsBehind_of_head? (split ▸ first)
    obtain ⟨asked, -⟩ := asked_of_entries
      (fun former h => inside former (List.mem_append_left _ h)) chain entries first
    refine ⟨_, call, visit.node, ?_, ?_, asked, due?_of_split split entries, ?_⟩
    · rw [graph.calls_visits, split, List.flatMap_append, List.flatMap_singleton, made]
    · rwa [graph.world_of_split services true cancelled world split]
    · rw [graph.executed_run, split, List.map_append, Visit.ids_of_entries entries]
      rfl

theorem log_streamSome (graph : Graph) (services : Services σ) (cancelled : Nat → Bool)
    (id : String) (pos : 0 < count) (world : σ) :
    (graph.streamSome services.logged cancelled id count (world, [])).2.2 =
      (graph.stream services.logged cancelled id (world, [])).2.2 := by
  simp only [streamSome, stream, Nat.pos_iff_ne_zero.mp pos, if_false, graph.run_logged_visits,
    Report.beside]
  cases (graph.run services true cancelled world).1.outcome <;> rfl

/-- A stream that is closed once some of its frames have been read. What has been read are its first
frames, in whatever order the run and its reader have gone on. All calls have been made that are
made when the stream is read to its end. A run that waits is cancelled, and with it the call that
hangs, which is the last call, of the last node that is executed; all calls before are those of the
entries. -/
theorem streamSome_closes (graph : Graph) (services : Services σ) (cancelled : Nat → Bool)
    (id : String) (count : Nat) (world : σ) (pos : 0 < count)
    (enough : count ≤ (graph.stream services cancelled id world).1.length) :
    let run := graph.run services true cancelled world
    let pipe := (Pipe.ofReport run.1).ahead.readTo id count
    let whole := graph.stream services cancelled id world
    let closed := graph.streamSome services cancelled id count world
    let log := (graph.streamSome services.logged cancelled id count (world, [])).2.2
    closed = (pipe.told, pipe.close run.2) ∧
    closed.1 <+: whole.1 ∧ closed.1.length = count ∧
    (∀ other, Pipe.Steps id (.ofReport run.1) other → other.told.length = count →
      other.told = closed.1) ∧
    log = (graph.stream services.logged cancelled id (world, [])).2.2 ∧
    ((∀ cancel, run.1.outcome ≠ .waiting cancel) → closed.2 = whole.2) ∧
    ∀ cancel, run.1.outcome = .waiting cancel → closed.2 = cancel run.2 ∧
      ∃ earlier call node, log = earlier ++ [call] ∧ services.Hangs cancel run.2 call ∧
        graph.Asked services true [] run.1.trace earlier ∧
        graph.due? graph.entrance? run.1.trace = some node ∧
        run.1.executed = run.1.trace.map Entry.nodeId ++ [node.id] := by
  intro run pipe whole closed log
  have scheduled : closed = (pipe.told, pipe.close run.2) :=
    graph.streamSome_eq services cancelled id pos world
  have taken : closed.1 = whole.1.take count := by
    rw [scheduled]
    exact Pipe.told_readTo_ahead run.1 id count
  have given : pipe.close = run.1.outcome.giveUp :=
    Pipe.close_readTo_ahead id count fun _ => fits_of_waiting
  have logged : log = _ := graph.log_streamSome services cancelled id pos world
  refine ⟨scheduled, ?_, ?_, fun other steps length => ?_, logged, fun ends => ?_,
    fun cancel waits => ⟨?_, ?_⟩⟩
  · rw [taken]
    exact List.take_prefix ..
  · rw [taken, List.length_take]
    exact Nat.min_eq_left enough
  · obtain ⟨-, same⟩ := (Pipe.linked_ofReport run.1).steps steps
    have front : other.told <+: other.due id := other.told_prefix_due
    rw [same, ← Report.stream_eq_due, List.prefix_iff_eq_take, length] at front
    exact front.trans taken.symm
  · rw [scheduled, given]
    cases came : run.1.outcome with
    | done | raised => rfl
    | waiting cancel => exact absurd came (ends cancel)
  · rw [scheduled, given, waits]
    rfl
  · rw [logged]
    exact hangs_of_waiting waits

end Graph

/-- A chat service that hangs in the middle of an answer; the world says whether it was given up. -/
def Services.hanging : Services Bool where
  complete _ := fun world => (.waiting fun _ => true, world)
  stream _ := fun world => (⟨["pa"], .waiting fun _ => true⟩, world)
  query _ _ := pure .null
  send _ := pure .null
  defaults := { baseUrl := "https://chat.test", apiKey := "key" }

/-- Closed behind the fragment that came before the chat hung, which is then given up. The node
behind the chat is not executed. -/
theorem Graph.streamSome_closes_hanging :
    let run := question.run .hanging true (fun _ => false) false
    let closed := question.streamSome .hanging (fun _ => false) "0123456789abcdef" 3 false
    let log := (question.streamSome Services.hanging.logged (fun _ => false) "0123456789abcdef" 3
      (false, [])).2.2
    closed.1.length = 3 ∧ closed.2 = true ∧ run.1.executed = ["a"] ∧
    ∃ cancel call, log = [call] ∧ Services.hanging.Hangs cancel false call ∧
      cancel false = true := by
  intro run closed log
  have ran : (run.2, closed.2, log.length, run.1.executed, run.1.outcome.isDone,
      run.1.outcome.fault?) = (false, true, 1, ["a"], false, none) := by decide +kernel
  simp only [Prod.mk.injEq] at ran
  obtain ⟨untouched, given, once, executed, undone, unraised⟩ := ran
  obtain ⟨-, -, length, -, -, -, hung⟩ := streamSome_closes question .hanging (fun _ => false)
    "0123456789abcdef" 3 false (by decide) (by decide +kernel)
  cases came : run.1.outcome with
  | done result => simp [came, Outcome.isDone] at undone
  | raised fault => simp [came, Outcome.fault?] at unraised
  | waiting cancel =>
    obtain ⟨up, earlier, call, node, logged, hangs, -⟩ := hung cancel came
    obtain rfl : earlier = [] := by
      simpa [show log = earlier ++ [call] from logged] using once
    have hangs : Services.hanging.Hangs cancel run.2 call := hangs
    have up : closed.2 = cancel run.2 := up
    rw [untouched] at hangs up
    exact ⟨length, given, executed, cancel, call, logged, hangs, up ▸ given⟩

end Flowline

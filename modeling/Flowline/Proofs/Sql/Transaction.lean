import Flowline.Proofs.Sql.Ledger

/-!
# Transactions

A session executes one statement after another. As long as every wait can be given up and the time
can be told, each call is answered by an envelope, and in a transaction the envelope tells what
became of it: success means that the statement was committed and nothing was rolled back, failure
that the last thing the connection was asked for was to roll back and that no commit was made.
-/

namespace Flowline.Sql

variable {sql : String} {options : Options} {step : Step} {ending : Ending} {notes : List Note}

/-- The last thing the connection was asked for was to roll back, which had not been tried before,
and no commit was made. -/
def IsUndone (notes : List Note) : Prop :=
  ∃ front how finished, notes = front ++ [.did .rollback how, .read finished] ∧
    ¬Tried .rollback front ∧ ∀ how, .did .commit how ∈ front → how = .raised

def timed (started finished : Float) (notes : List Note) : List Note :=
  .read started :: (notes ++ [.read finished])

@[simp] theorem tried_timed {started finished : Float} :
    Tried step (timed started finished notes) ↔ Tried step notes := by
  simp [Tried, timed]

@[simp] theorem once_timed {started finished : Float} :
    (timed started finished notes).countP Note.isExecution = notes.countP Note.isExecution := by
  simp [timed, Note.isExecution]

theorem IsUndone.tried (undone : IsUndone notes) : Tried .rollback notes := by
  obtain ⟨front, how, finished, rfl, -⟩ := undone
  exact ⟨how, by simp⟩

-- ---------------------------------------------------------------------------
-- Calls
-- ---------------------------------------------------------------------------

structure Request where
  query : String
  options : Options

def Session.Protects (session : Session σ) (request : Request) : Prop :=
  request.options.transaction = true ∧ session.autocommit = false ∧
    refusal? request.options.readOnly (Text.trim request.query) = none ∧
    session.connection.isSome = true

/-- What a call leaves in the ledger, and what its envelope says of it. -/
structure Session.Settles (session : Session σ) (request : Request) (envelope : Envelope)
    (notes : List Note) : Prop where
  once : notes.countP Note.isExecution ≤ 1
  bare : ¬session.Protects request → ¬Tried .commit notes ∧ ¬Tried .rollback notes
  success : session.Protects request →
    (envelope.succeeded = true ↔ .did .commit .done ∈ notes ∧ ¬Tried .rollback notes)
  failure : session.Protects request → (envelope.succeeded = false ↔ IsUndone notes)

abbrev Measures (started finished : Float) : Prop :=
  (Double.ofFloat ((finished - started) * 1000.0)).quotient.isSome = true

def Note.Measures : Note → Note → Prop
  | .read started, .read finished => Sql.Measures started finished
  | _, _ => True

instance : DecidableRel Note.Measures
  | .read started, .read finished => inferInstanceAs (Decidable (Sql.Measures started finished))
  | .did .., _ | .read _, .did .. => inferInstanceAs (Decidable True)

theorem elapsed_of_measures (measures : Measures started finished) :
    ∃ text, elapsed started finished = .ok text := by
  obtain ⟨value, finite⟩ := Option.isSome_iff_exists.mp measures
  simp [elapsed, Double.toInt, finite]

theorem duration_of_measures {clock : Clock σ} (measures : Measures started (clock world).1) :
    ∃ text, duration clock started world = (.done text, (clock world).2) := by
  obtain ⟨text, told⟩ := elapsed_of_measures measures
  exact ⟨text, by simp [duration, Act.bind_apply, told, Act.done]⟩

theorem failure_of_measures {clock : Clock σ} (measures : Measures started (clock world).1)
    (error : String) :
    ∃ text, failure clock started error world = (.done (.failure error text), (clock world).2) := by
  obtain ⟨text, told⟩ := duration_of_measures measures
  exact ⟨text, by simp [failure, Act.bind_apply, told]⟩

-- ---------------------------------------------------------------------------
-- Sessions
-- ---------------------------------------------------------------------------

namespace Session

variable {session : Session σ} {connection : Connection σ}

def statement (session : Session σ) (connection : Connection σ) (sql : String) (options : Options) :
    Act σ Result :=
  if session.isTransactional options then
    inTransaction connection (within options.timeout (runStatement connection sql options.fetch))
  else within options.timeout (runStatement connection sql options.fetch)

def tell (session : Session σ) (options : Options) (started : Float) :
    Outcome σ Result → Act σ Envelope
  | .done result => do return result.envelope (← duration session.clock started)
  | .raised fault => failure session.clock started (failureText options fault)
  | .waiting cancel => fun world => (.waiting cancel, world)

theorem run_eq (session : Session σ) (connection : Connection σ) (sql : String)
    (options : Options) (started : Float) (world : σ) :
    session.run connection sql options started world =
      session.tell options started (session.statement connection sql options world).1
        (session.statement connection sql options world).2 := by
  simp only [run, statement]
  split <;> simp_all [tell]

def Ends (session : Session σ) (sql : String) (options : Options) (ending : Ending)
    (notes : List Note) : Prop :=
  if session.isTransactional options then Transacts sql options ending notes
  else Attempts sql options ending notes

theorem adds_statement (session : Session σ) (connection : Connection σ) (sql : String)
    (options : Options) :
    (session.noting.statement connection.noting sql options).Adds
      (session.statement connection sql options) (session.Ends sql options) := by
  have attempt := adds_attempt connection sql options
  unfold statement Ends
  change Act.Adds (if session.isTransactional options then _ else _) _ _
  split
  · exact adds_inTransaction attempt
  · exact attempt

theorem noting_duration (session : Session σ) (started : Float) (world : σ) (notes : List Note) :
    duration session.noting.clock started (world, notes) =
      ((duration session.clock started world).1.beside, (duration session.clock started world).2,
        notes ++ [.read (session.clock world).1]) := by
  simp only [duration, Act.bind_apply, Act.always_apply, noting]
  cases elapsed started (session.clock world).1 <;> rfl

theorem noting_failure (session : Session σ) (started : Float) (error : String) (world : σ)
    (notes : List Note) :
    failure session.noting.clock started error (world, notes) =
      ((failure session.clock started error world).1.beside,
        (failure session.clock started error world).2,
        notes ++ [.read (session.clock world).1]) :=
  Act.bind_pure_beside (session.noting_duration started world notes) _

theorem noting_tell (session : Session σ) (options : Options) (started : Float)
    {outcome : Outcome σ Result} (ended : outcome.ending ≠ .waited) (world : σ)
    (notes : List Note) :
    session.noting.tell options started outcome.beside (world, notes) =
      ((session.tell options started outcome world).1.beside,
        (session.tell options started outcome world).2,
        notes ++ [.read (session.clock world).1]) := by
  cases outcome with
  | done result => exact Act.bind_pure_beside (session.noting_duration started world notes) _
  | raised fault => exact noting_failure session started _ world notes
  | waiting cancel => exact absurd rfl ended

theorem tell_of_measures {outcome : Outcome σ Result} (ended : outcome.ending ≠ .waited)
    (measures : Measures started (session.clock world).1) :
    ∃ envelope, (session.tell options started outcome world).1 = .done envelope ∧
      (envelope.succeeded = true ↔ outcome.ending = .done) := by
  cases outcome with
  | done result =>
    obtain ⟨text, told⟩ := duration_of_measures measures
    refine ⟨result.envelope text, by simp [tell, Act.bind_apply, told], ?_⟩
    cases result <;> simp [Result.envelope, Envelope.succeeded, Outcome.ending]
  | raised fault =>
    obtain ⟨text, told⟩ := failure_of_measures measures (failureText options fault)
    exact ⟨.failure _ text, by rw [tell, told], by simp [Envelope.succeeded, Outcome.ending]⟩
  | waiting cancel => exact absurd rfl ended

section
variable {request : Request} {envelope : Envelope}

theorem settles_bare (bare : ¬session.Protects request)
    (once : notes.countP Note.isExecution ≤ 1)
    (spared : ¬Tried .commit notes ∧ ¬Tried .rollback notes) :
    session.Settles request envelope notes :=
  ⟨once, fun _ => spared, fun protects => absurd protects bare,
    fun protects => absurd protects bare⟩

theorem settles_committed (protects : session.Protects request)
    (once : notes.countP Note.isExecution ≤ 1) (committed : .did .commit .done ∈ notes)
    (kept : ¬Tried .rollback notes) (succeeded : envelope.succeeded = true) :
    session.Settles request envelope notes := by
  refine ⟨once, fun bare => absurd protects bare, fun _ => ?_, fun _ => ?_⟩
  · exact ⟨fun _ => ⟨committed, kept⟩, fun _ => succeeded⟩
  · exact ⟨fun failed => by simp [succeeded] at failed, fun undone => absurd undone.tried kept⟩

theorem settles_undone (protects : session.Protects request)
    (once : notes.countP Note.isExecution ≤ 1) (undone : IsUndone notes)
    (failed : envelope.succeeded = false) : session.Settles request envelope notes := by
  refine ⟨once, fun bare => absurd protects bare, fun _ => ?_, fun _ => ?_⟩
  · exact ⟨fun succeeded => by simp [failed] at succeeded, fun kept => absurd undone.tried kept.2⟩
  · exact ⟨fun _ => undone, fun _ => failed⟩

/-- However a statement ends, an envelope that tells whether it is done is right about the rest. -/
theorem settles_of_ends (started finished : Float)
    (passed : refusal? request.options.readOnly (Text.trim request.query) = none)
    (connected : session.connection.isSome = true)
    (ends : session.Ends (Text.trim request.query) request.options ending notes)
    (ended : ending ≠ .waited) (tells : envelope.succeeded = true ↔ ending = .done) :
    session.Settles request envelope (timed started finished notes) := by
  unfold Ends at ends
  split at ends
  · rename_i transactional
    have protects : session.Protects request := by
      simp only [isTransactional, Bool.and_eq_true, Bool.not_eq_true'] at transactional
      exact ⟨transactional.1, transactional.2, passed, connected⟩
    have once : (timed started finished notes).countP Note.isExecution ≤ 1 := by
      simpa using ends.once
    cases ending with
    | done =>
      obtain ⟨committed, kept⟩ := ends.committed_of_done
      exact settles_committed protects once (by simp [timed, committed]) (by simpa using kept)
        (tells.mpr rfl)
    | raised =>
      refine settles_undone protects once ?_ (by simpa using tells)
      obtain ⟨front, how, rfl, untried, uncommitted⟩ := ends.undone_of_raised
      refine ⟨.read started :: front, how, finished, by simp [timed], ?_, fun how mem => ?_⟩
      · simpa [Tried] using untried
      · exact uncommitted how (by simpa using mem)
    | waited => exact absurd rfl ended
  · rename_i plain
    refine settles_bare (fun protects => plain ?_) ?_ ?_
    · simp [isTransactional, protects.1, protects.2.1]
    · simpa using ends.once
    · simpa using ends.not_tried

end

theorem ends_of_limited (ends : session.Ends sql options ending notes)
    (limited : Limited options notes) : ending ≠ .waited := by
  unfold Ends at ends
  split at ends
  · exact ends.ends limited
  · exact ends.ends limited

theorem measures_of_timed (measured : (timed started finished notes).Pairwise Note.Measures) :
    Measures started finished :=
  (List.pairwise_cons.mp measured).1 (.read finished) (by simp)

def Accounts (session : Session σ) (request : Request)
    (noting : Outcome (σ × List Note) Envelope × σ × List Note)
    (plain : Outcome σ Envelope × σ) : Prop :=
  ∃ notes, noting = (plain.1.beside, plain.2, notes) ∧
    (Limited request.options notes → notes.Pairwise Note.Measures →
      ∃ envelope, plain.1 = .done envelope ∧ session.Settles request envelope notes)

theorem accounts_failure {request : Request} (bare : ¬session.Protects request) (started : Float)
    (error : String) (world : σ) :
    session.Accounts request
      (failure session.noting.clock started error (world, [.read started]))
      (failure session.clock started error world) := by
  refine ⟨timed started (session.clock world).1 [], noting_failure session started error world _,
    fun _ measured => ?_⟩
  obtain ⟨text, told⟩ := failure_of_measures (measures_of_timed measured) error
  exact ⟨.failure error text, by rw [told], settles_bare bare (by simp)
    (by simp [Tried, timed])⟩

theorem accounts_run {request : Request} (connected : session.connection = some connection)
    (passed : refusal? request.options.readOnly (Text.trim request.query) = none)
    (started : Float) (world : σ) :
    session.Accounts request
      (session.noting.run connection.noting (Text.trim request.query) request.options started
        (world, [.read started]))
      (session.run connection (Text.trim request.query) request.options started world) := by
  obtain ⟨notes, did, ends⟩ := adds_statement session connection (Text.trim request.query)
    request.options world [.read started]
  simp only [run_eq, did]
  generalize session.statement connection _ _ world = result at ends ⊢
  obtain ⟨outcome, after⟩ := result
  by_cases ended : outcome.ending = .waited
  · -- nobody gives up the wait, so that the call does not end either
    cases outcome with
    | waiting cancel =>
      refine ⟨.read started :: notes, rfl, fun limited _ => ?_⟩
      exact absurd rfl (ends_of_limited ends fun note mem => limited note (.tail _ mem))
    | _ => nomatch ended
  · refine ⟨timed started (session.clock after).1 notes,
      noting_tell session _ started ended after _, fun _ measured => ?_⟩
    obtain ⟨envelope, told, tells⟩ := tell_of_measures ended (measures_of_timed measured)
    have connected : session.connection.isSome = true := by rw [connected]; rfl
    exact ⟨envelope, told, settles_of_ends _ _ passed connected ends ended tells⟩

theorem accounts_execute (session : Session σ) (request : Request) (world : σ) :
    session.Accounts request
      (session.noting.execute request.query request.options (world, []))
      (session.execute request.query request.options world) := by
  simp only [execute, Act.bind_apply, Act.always_apply]
  cases passed : refusal? request.options.readOnly (Text.trim request.query) with
  | some refusal =>
    refine accounts_failure (fun protects => ?_) _ _ _
    simp [protects.2.2.1] at passed
  | none =>
    cases connected : session.connection with
    | none =>
      simp only [noting, connected, Option.map_none]
      refine accounts_failure (fun protects => ?_) _ _ _
      simpa [connected] using protects.2.2.2
    | some connection =>
      simp only [noting, connected, Option.map_some]
      exact accounts_run connected passed _ _

end Session

-- ---------------------------------------------------------------------------
-- Calls in a row
-- ---------------------------------------------------------------------------

structure Execution where
  request : Request
  answer? : Option (Except Fault Envelope)
  notes : List Note

structure Execution.IsTimely (execution : Execution) : Prop where
  limited : Limited execution.request.options execution.notes
  measured : execution.notes.Pairwise Note.Measures

instance (execution : Execution) : Decidable execution.IsTimely :=
  decidable_of_iff (Limited execution.request.options execution.notes ∧
      execution.notes.Pairwise Note.Measures)
    ⟨fun h => ⟨h.1, h.2⟩, fun h => ⟨h.limited, h.measured⟩⟩

namespace Session

def call (session : Session σ) (request : Request) (world : σ) : Execution where
  request := request
  answer? := (session.execute request.query request.options world).1.answer?
  notes := (session.noting.execute request.query request.options (world, [])).2.2

/-- The calls for requests in a row; a call that waits for ever is the last one. -/
def executions (session : Session σ) : List Request → σ → List Execution
  | [], _ => []
  | request :: rest, world =>
    let execution := session.call request world
    execution ::
      if execution.answer?.isSome then
        session.executions rest (session.execute request.query request.options world).2
      else []

theorem execute_of_timely (session : Session σ) (request : Request) (world : σ)
    (timely : (session.call request world).IsTimely) :
    ∃ envelope, (session.execute request.query request.options world).1 = .done envelope ∧
      session.Settles request envelope (session.call request world).notes := by
  obtain ⟨notes, noted, settles⟩ := session.accounts_execute request world
  have same : (session.call request world).notes = notes := by rw [call, noted]
  obtain ⟨envelope, answered, settled⟩ :=
    settles (same ▸ timely.limited) (same ▸ timely.measured)
  exact ⟨envelope, answered, same ▸ settled⟩

theorem call_of_accounts (session : Session σ) (request : Request) (world : σ)
    (timely : (session.call request world).IsTimely) :
    ∃ envelope, (session.call request world).answer? = some (.ok envelope) ∧
      session.Settles request envelope (session.call request world).notes := by
  obtain ⟨envelope, answered, settled⟩ := session.execute_of_timely request world timely
  exact ⟨envelope, by rw [call, answered, Outcome.answer?_done], settled⟩

/-- Whatever the connection does, each of the calls in a row is made and answered by an envelope,
and its ledger and its envelope agree: at most one statement is executed, nothing is committed or
rolled back but in a transaction, and success there stands for a commit without a rollback, failure
for a rollback at the end without a commit. -/
theorem executions_settle (session : Session σ) (requests : List Request) (world : σ)
    (timely : ∀ execution ∈ session.executions requests world, execution.IsTimely) :
    (session.executions requests world).map Execution.request = requests ∧
      ∀ execution ∈ session.executions requests world, ∃ envelope,
        execution.answer? = some (.ok envelope) ∧
          session.Settles execution.request envelope execution.notes := by
  induction requests generalizing world with
  | nil => simp [executions]
  | cons request rest ih =>
    obtain ⟨envelope, answered, settled⟩ :=
      session.call_of_accounts request world (timely _ (.head _))
    -- the call is answered, so the next ones are made in the world that it leaves
    simp only [executions, answered, Option.isSome_some, if_true] at timely ⊢
    obtain ⟨requested, later⟩ := ih _ fun execution mem => timely execution (.tail _ mem)
    refine ⟨by rw [List.map_cons, requested]; rfl, fun execution mem => ?_⟩
    rcases List.mem_cons.mp mem with rfl | mem
    · exact ⟨envelope, answered, settled⟩
    · exact later execution mem

/-- Its first commit is made and any other one fails; from the third statement on it waits. -/
def shaky : Session Nat where
  connection := some {
    execute := fun _ count => (if count < 2 then .done ⟨none, [], 1⟩ else .waiting id, count + 1)
    fetch := fun _ _ => pure []
    commit := fun count =>
      (if count = 1 then .done () else .raised (.reported "Error" "gone"), count)
    rollback := pure ()
    close := pure () }
  autocommit := false
  clock count := (0.0, count)

def update : Request := ⟨"UPDATE t SET a = 1", { readOnly := false, transaction := true }⟩

theorem executions_settle_shaky :
    shaky.Protects update ∧
      (∀ execution ∈ shaky.executions [update, update, update] 0, execution.IsTimely) ∧
      (shaky.executions [update, update, update] 0).map Execution.request =
        [update, update, update] ∧
      ∀ execution ∈ shaky.executions [update, update, update] 0, ∃ envelope,
        execution.answer? = some (.ok envelope) ∧
          shaky.Settles execution.request envelope execution.notes := by
  have timely : ∀ execution ∈ shaky.executions [update, update, update] 0,
      execution.IsTimely := by decide +kernel
  exact ⟨⟨rfl, rfl, by decide +kernel, rfl⟩, timely, executions_settle shaky _ 0 timely⟩

end Session

end Flowline.Sql

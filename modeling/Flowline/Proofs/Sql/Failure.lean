import Flowline.Proofs.Act.Raised
import Flowline.Proofs.Sql.Answer

/-!
# Why a statement fails

A statement fails because it is still running when its time has passed, or because of a fault: of
its execution, of the fetching or the naming of its rows, of the commit, or of the rollback that
follows any of these. The answer has the text of the fault. A delay that the connection reports by
itself is told as the passing of the time, whatever the limit, and even if there is none.
-/

namespace Flowline

def Fault.isTimeout : Fault → Bool
  | .timedOut _ => true
  | _ => false

namespace Sql

-- ---------------------------------------------------------------------------
-- Statements
-- ---------------------------------------------------------------------------

/-- A statement that is still running; `after` is the world in which it has been given up. -/
inductive Lingers (connection : Connection σ) (sql : String) (fetch : Fetch) (world : σ) :
    σ → Prop
  | executing (waits : connection.execute sql world = (.waiting cancel, between)) :
      Lingers connection sql fetch world (cancel between)
  | fetching (query : isQuery sql = true)
      (executed : connection.execute sql world = (.done cursor, between))
      (waits : connection.fetch cursor fetch between = (.waiting cancel, after)) :
      Lingers connection sql fetch world (cancel after)

inductive Raises (connection : Connection σ) (sql : String) (fetch : Fetch) (world : σ) :
    Fault → σ → Prop
  | executing (raised : connection.execute sql world = (.raised fault, after)) :
      Raises connection sql fetch world fault after
  | fetching (query : isQuery sql = true)
      (executed : connection.execute sql world = (.done cursor, between))
      (raised : connection.fetch cursor fetch between = (.raised fault, after)) :
      Raises connection sql fetch world fault after
  /-- The rows are there, but they have no cell for a column, or a cell without a text. -/
  | naming (query : isQuery sql = true)
      (executed : connection.execute sql world = (.done cursor, between))
      (fetched : connection.fetch cursor fetch between = (.done rows, after))
      (unnamed : nameRows (cursor.columns.getD []) rows = .error fault) :
      Raises connection sql fetch world fault after

section
variable {connection : Connection σ} {sql : String} {fetch : Fetch} {fault : Fault}
  {world after : σ}

theorem runStatement_eq_raised_iff :
    runStatement connection sql fetch world = (.raised fault, after) ↔
      Raises connection sql fetch world fault after := by
  unfold runStatement
  rw [Act.bind_eq_raised_iff]
  constructor
  · rintro (raised | ⟨cursor, between, executed, raised⟩)
    · exact .executing raised
    · split at raised
      · next query =>
        rcases Act.bind_eq_raised_iff.mp raised with raised | ⟨rows, fetching, fetched, raised⟩
        · exact .fetching query executed raised
        · rcases Act.bind_eq_raised_iff.mp raised with raised | ⟨_, _, -, raised⟩
          · obtain ⟨unnamed, rfl⟩ := Act.ofExcept_eq_raised_iff.mp raised
            exact .naming query executed fetched unnamed
          · nomatch raised
      · nomatch raised
  · intro raises
    cases raises with
    | executing raised => exact .inl raised
    | fetching query executed raised =>
      refine .inr ⟨_, _, executed, ?_⟩
      rw [if_pos query]
      exact Act.bind_eq_raised_iff.mpr (.inl raised)
    | naming query executed fetched unnamed =>
      refine .inr ⟨_, _, executed, ?_⟩
      rw [if_pos query]
      refine Act.bind_eq_raised_iff.mpr (.inr ⟨_, _, fetched, ?_⟩)
      exact Act.bind_eq_raised_iff.mpr (.inl (Act.ofExcept_eq_raised_iff.mpr ⟨unnamed, rfl⟩))

theorem runStatement_waits_iff :
    (∃ cancel between, runStatement connection sql fetch world = (.waiting cancel, between) ∧
        cancel between = after) ↔
      Lingers connection sql fetch world after := by
  unfold runStatement
  simp only [Act.bind_eq_waiting_iff]
  constructor
  · rintro ⟨cancel, _, waits | ⟨cursor, between, executed, waits⟩, rfl⟩
    · exact .executing waits
    · split at waits
      · next query =>
        rcases Act.bind_eq_waiting_iff.mp waits with waits | ⟨rows, fetching, -, waits⟩
        · exact .fetching query executed waits
        · rcases Act.bind_eq_waiting_iff.mp waits with waits | ⟨_, _, -, waits⟩
          · exact absurd waits Act.ofExcept_ne_waiting
          · nomatch waits
      · nomatch waits
  · intro lingers
    cases lingers with
    | executing waits => exact ⟨_, _, .inl waits, rfl⟩
    | fetching query executed waits =>
      refine ⟨_, _, .inr ⟨_, _, executed, ?_⟩, rfl⟩
      rw [if_pos query]
      exact Act.bind_eq_waiting_iff.mpr (.inl waits)

end

-- ---------------------------------------------------------------------------
-- Causes
-- ---------------------------------------------------------------------------

/-- Why a statement has no result. -/
inductive Cause where
  | late
  | raised (fault : Fault)

def Cause.toFault : Cause → Fault
  | .late => .timedOut ""
  | .raised fault => fault

inductive Fails (connection : Connection σ) (sql : String) (options : Options) (world : σ) :
    Cause → σ → Prop
  /-- A negative time has passed before the statement begins. -/
  | unbegun (limited : options.timeout.isZero = false)
      (negative : options.timeout.isNegative = true) :
      Fails connection sql options world .late world
  | running (limited : options.timeout.isZero = false)
      (begun : options.timeout.isNegative = false)
      (lingers : Lingers connection sql options.fetch world after) :
      Fails connection sql options world .late after
  | raised (begun : options.timeout.isZero = true ∨ options.timeout.isNegative = false)
      (raises : Raises connection sql options.fetch world fault after) :
      Fails connection sql options world (.raised fault) after

inductive Unsettles (connection : Connection σ) (sql : String) (options : Options) (world : σ) :
    Cause → σ → Prop
  | statement (fails : Fails connection sql options world cause after) :
      Unsettles connection sql options world cause after
  | commit (did : within options.timeout (runStatement connection sql options.fetch) world =
        (.done result, between))
      (raised : connection.commit between = (.raised fault, after)) :
      Unsettles connection sql options world (.raised fault) after

/-- What a session tells as the cause of a failure: if a rollback follows that fails as well, the
fault of the rollback. -/
inductive Session.Blames (session : Session σ) (connection : Connection σ) (sql : String)
    (options : Options) (world : σ) : Cause → Prop
  | bare (bare : session.isTransactional options = false)
      (fails : Fails connection sql options world cause after) :
      Blames session connection sql options world cause
  | undone (transactional : session.isTransactional options = true)
      (unsettles : Unsettles connection sql options world cause between)
      (undone : connection.rollback between = (.done (), after)) :
      Blames session connection sql options world cause
  | rollback (transactional : session.isTransactional options = true)
      (unsettles : Unsettles connection sql options world cause between)
      (raised : connection.rollback between = (.raised fault, after)) :
      Blames session connection sql options world (.raised fault)

section
variable {connection : Connection σ} {sql : String} {options : Options} {fault : Fault}
  {cause : Cause} {world after : σ}

theorem within_eq_raised_iff :
    within options.timeout (runStatement connection sql options.fetch) world =
        (.raised fault, after) ↔
      ∃ cause, Fails connection sql options world cause after ∧ cause.toFault = fault := by
  unfold within
  constructor
  · intro raised
    split at raised
    · next unlimited =>
      exact ⟨.raised fault, .raised (.inl unlimited) (runStatement_eq_raised_iff.mp raised), rfl⟩
    · next limited =>
      have limited := Bool.eq_false_iff.mpr limited
      split at raised
      · next negative =>
        obtain ⟨⟨⟩, rfl⟩ := Prod.mk.inj raised
        exact ⟨.late, .unbegun limited negative, rfl⟩
      · next begun =>
        have begun := Bool.eq_false_iff.mpr begun
        rcases Act.giveUp_eq_raised_iff.mp raised with raised | ⟨rfl, waits⟩
        · exact ⟨.raised fault, .raised (.inr begun) (runStatement_eq_raised_iff.mp raised), rfl⟩
        · exact ⟨.late, .running limited begun (runStatement_waits_iff.mp waits), rfl⟩
  · rintro ⟨cause, fails, rfl⟩
    cases fails with
    | unbegun limited negative => simp [limited, negative, Cause.toFault]
    | running limited begun lingers =>
      rw [limited, begun, if_neg Bool.false_ne_true, if_neg Bool.false_ne_true]
      exact Act.giveUp_eq_raised_iff.mpr (.inr ⟨rfl, runStatement_waits_iff.mpr lingers⟩)
    | raised begun raises =>
      have raised := runStatement_eq_raised_iff.mpr raises
      split
      · exact raised
      · next limited =>
        rw [begun.resolve_left limited, if_neg Bool.false_ne_true]
        exact Act.giveUp_eq_raised_iff.mpr (.inl raised)

theorem unsettles_iff :
    ((do
        let result ← within options.timeout (runStatement connection sql options.fetch)
        connection.commit
        return result) : Act σ Result) world = (.raised fault, after) ↔
      ∃ cause, Unsettles connection sql options world cause after ∧ cause.toFault = fault := by
  rw [Act.bind_eq_raised_iff]
  constructor
  · rintro (raised | ⟨result, between, did, raised⟩)
    · obtain ⟨cause, fails, rfl⟩ := within_eq_raised_iff.mp raised
      exact ⟨cause, .statement fails, rfl⟩
    · rcases Act.bind_eq_raised_iff.mp raised with raised | ⟨_, _, -, raised⟩
      · exact ⟨.raised fault, .commit did raised, rfl⟩
      · nomatch raised
  · rintro ⟨cause, unsettles, rfl⟩
    cases unsettles with
    | statement fails => exact .inl (within_eq_raised_iff.mpr ⟨cause, fails, rfl⟩)
    | commit did raised =>
      exact .inr ⟨_, _, did, Act.bind_eq_raised_iff.mpr (.inl raised)⟩

theorem undo_eq_raised_iff {first : Fault} :
    ((do
        connection.rollback
        Act.raise first) : Act σ Result) world = (.raised fault, after) ↔
      connection.rollback world = (.raised fault, after) ∨
        connection.rollback world = (.done (), after) ∧ first = fault := by
  rw [Act.bind_eq_raised_iff]
  simp [and_comm, Unique.exists_iff]

variable {session : Session σ}

theorem raised_statement_iff :
    (∃ after, session.statement connection sql options world = (.raised fault, after)) ↔
      ∃ cause, session.Blames connection sql options world cause ∧ cause.toFault = fault := by
  unfold Session.statement
  cases transactional : session.isTransactional options with
  | false =>
    rw [if_neg Bool.false_ne_true]
    constructor
    · rintro ⟨after, raised⟩
      obtain ⟨cause, fails, rfl⟩ := within_eq_raised_iff.mp raised
      exact ⟨cause, .bare transactional fails, rfl⟩
    · rintro ⟨cause, blames, rfl⟩
      cases blames with
      | bare _ fails => exact ⟨_, within_eq_raised_iff.mpr ⟨cause, fails, rfl⟩⟩
      | undone protects => simp [transactional] at protects
      | rollback protects => simp [transactional] at protects
  | true =>
    rw [if_pos rfl]
    unfold inTransaction
    simp only [Act.recover_eq_raised_iff, undo_eq_raised_iff]
    constructor
    · rintro ⟨after, first, between, raised, undoing⟩
      obtain ⟨cause, unsettles, rfl⟩ := unsettles_iff.mp raised
      -- the first fault is raised again only if the rollback is done
      rcases undoing with raised | ⟨undone, rfl⟩
      · exact ⟨.raised fault, .rollback transactional unsettles raised, rfl⟩
      · exact ⟨cause, .undone transactional unsettles undone, rfl⟩
    · rintro ⟨cause, blames, rfl⟩
      cases blames with
      | bare plain => simp [transactional] at plain
      | undone _ unsettles undone =>
        exact ⟨_, _, _, unsettles_iff.mpr ⟨cause, unsettles, rfl⟩, .inr ⟨undone, rfl⟩⟩
      | rollback _ unsettles raised =>
        exact ⟨_, _, _, unsettles_iff.mpr ⟨_, unsettles, rfl⟩, .inl raised⟩

theorem limited_of_late (late : session.Blames connection sql options world .late) :
    options.timeout.isZero = false := by
  have limited {after} (fails : Fails connection sql options world .late after) :
      options.timeout.isZero = false := by
    cases fails <;> assumption
  cases late with
  | bare _ fails => exact limited fails
  | undone _ unsettles =>
    cases unsettles with
    | statement fails => exact limited fails

end

-- ---------------------------------------------------------------------------
-- Errors
-- ---------------------------------------------------------------------------

def Seconds.lateText (limit : Seconds) : String :=
  "Query timed out after " ++ limit.text ++ " seconds"

theorem failureText_eq (options : Options) (fault : Fault) :
    failureText options fault =
      if fault.isTimeout then options.timeout.lateText else fault.text := by
  cases fault <;> rfl

namespace Session

section
variable {session : Session σ} {connection : Connection σ} {query : String} {options : Options}
  {error : String} {fault : Fault} {envelope : Envelope} {world after : σ}

theorem execute_of_valid (connected : session.connection = some connection)
    (valid : refusal? options.readOnly (Text.trim query) = none) :
    session.execute query options world =
      session.tell options (session.clock world).1
        (session.statement connection (Text.trim query) options (session.clock world).2).1
        (session.statement connection (Text.trim query) options (session.clock world).2).2 := by
  simp only [execute, Act.bind_apply, Act.always_apply, valid, connected, run_eq]

theorem execute_of_raised (connected : session.connection = some connection)
    (valid : refusal? options.readOnly (Text.trim query) = none)
    (raised : session.statement connection (Text.trim query) options (session.clock world).2 =
      (.raised fault, after))
    (measures : Measures (session.clock world).1 (session.clock after).1) :
    ∃ duration, (session.execute query options world).1 =
      .done (.failure (failureText options fault) duration) := by
  obtain ⟨duration, told⟩ := failure_of_measures measures (failureText options fault)
  exact ⟨duration, by rw [execute_of_valid connected valid, raised, tell, told]⟩

theorem raised_of_execute (connected : session.connection = some connection)
    (valid : refusal? options.readOnly (Text.trim query) = none)
    (answered : (session.execute query options world).1 = .done envelope) :
    (∃ duration, envelope = .failure error duration) ↔
      ∃ fault after, session.statement connection (Text.trim query) options
        (session.clock world).2 = (.raised fault, after) ∧ error = failureText options fault := by
  rw [execute_of_valid connected valid] at answered
  generalize session.statement connection _ options _ = ended at answered ⊢
  obtain ⟨outcome, after⟩ := ended
  cases outcome with
  | done result =>
    obtain ⟨duration, _, _, did⟩ := Act.bind_eq_done_iff.mp (Prod.ext answered rfl)
    obtain ⟨rfl, -⟩ := Act.pure_eq_done_iff.mp did
    cases result <;> simp [Result.envelope]
  | raised fault =>
    obtain ⟨duration, rfl⟩ := failure_of_done answered
    simp [eq_comm]
  | waiting cancel => cases answered

/-- A valid statement fails if it is late or if a fault is raised, and the error names what of these
is to blame. A delay that the connection reports by itself is told as a passing of the time. -/
theorem failure_of_execute (connected : session.connection = some connection)
    (valid : refusal? options.readOnly (Text.trim query) = none)
    (answered : (session.execute query options world).1 = .done envelope) :
    (∃ duration, envelope = .failure error duration) ↔
      (options.timeout.isZero = false ∧
        session.Blames connection (Text.trim query) options (session.clock world).2 .late ∧
        error = options.timeout.lateText) ∨
      ∃ fault,
        session.Blames connection (Text.trim query) options (session.clock world).2
          (.raised fault) ∧
        error = if fault.isTimeout then options.timeout.lateText else fault.text := by
  simp only [raised_of_execute connected valid answered, failureText_eq]
  constructor
  · rintro ⟨fault, after, raised, same⟩
    obtain ⟨cause, blames, rfl⟩ := raised_statement_iff.mp ⟨after, raised⟩
    cases cause with
    | late => exact .inl ⟨limited_of_late blames, blames, same⟩
    | raised fault => exact .inr ⟨fault, blames, same⟩
  · rintro (⟨-, late, same⟩ | ⟨fault, blames, same⟩)
    · obtain ⟨after, raised⟩ := raised_statement_iff.mpr ⟨.late, late, rfl⟩
      exact ⟨_, after, raised, same⟩
    · obtain ⟨after, raised⟩ := raised_statement_iff.mpr ⟨.raised fault, blames, rfl⟩
      exact ⟨_, after, raised, same⟩

end

def timeless (connection : Connection Unit) : Session Unit where
  connection := some connection
  autocommit := false
  clock world := (0.0, world)

theorem measures_timeless : Measures 0.0 0.0 := by decide +kernel

/-- Every statement changes a row, but nothing is committed or rolled back. -/
def torn : Connection Unit where
  execute _ := pure ⟨none, [], 1⟩
  fetch _ _ := pure []
  commit := Act.raise (.reported "Error" "gone")
  rollback := Act.raise (.reported "Error" "closed")
  close := pure ()

theorem statement_torn : (timeless torn).statement torn (Text.trim update.query) update.options () =
    (.raised (.reported "Error" "closed"), ()) := by
  have other : isQuery (Text.trim update.query) = false := by decide +kernel
  have ran : runStatement torn (Text.trim update.query) update.options.fetch () =
      (.done (.changed 1), ()) := by
    rw [runStatement, other]
    rfl
  have did : within update.options.timeout
      (runStatement torn (Text.trim update.query) update.options.fetch) () =
        (.done (.changed 1), ()) := within_of_done rfl ran
  have transactional : (timeless torn).isTransactional update.options = true := rfl
  rw [statement, transactional, if_pos rfl, inTransaction, Act.recover_apply, Act.bind_apply, did]
  rfl

theorem failure_of_execute_torn :
    refusal? update.options.readOnly (Text.trim update.query) = none ∧
      ∃ duration, ((timeless torn).execute update.query update.options ()).1 =
          .done (.failure "closed" duration) ∧
        ∃ fault, (timeless torn).Blames torn (Text.trim update.query) update.options ()
            (.raised fault) ∧
          fault.text = "closed" := by
  have valid : refusal? update.options.readOnly (Text.trim update.query) = none := by
    decide +kernel
  obtain ⟨duration, answered⟩ := execute_of_raised rfl valid statement_torn measures_timeless
  refine ⟨valid, duration, answered, ?_⟩
  have prompt : "closed" ≠ update.options.timeout.lateText := by decide +kernel
  obtain ⟨-, -, same⟩ | ⟨fault, blames, same⟩ :=
    (failure_of_execute rfl valid answered).mp ⟨duration, rfl⟩
  · exact absurd same prompt
  · split at same
    · exact absurd same prompt
    · exact ⟨fault, blames, same.symm⟩

def locked : Connection Unit where
  execute _ := Act.raise (.timedOut "lock wait")
  fetch _ _ := pure []
  commit := pure ()
  rollback := pure ()
  close := pure ()

/-- A delay that the connection reports is told as the passing of a time that has no limit. -/
theorem execute_locked :
    ¬ ∀ (session : Session Unit) connection query options error duration,
      session.connection = some connection →
      refusal? options.readOnly (Text.trim query) = none →
      (session.execute query options ()).1 = .done (.failure error duration) →
      (options.timeout.isZero = false ∧
        session.Blames connection (Text.trim query) options (session.clock ()).2 .late ∧
        error = options.timeout.lateText) ∨
      ∃ fault,
        session.Blames connection (Text.trim query) options (session.clock ()).2 (.raised fault) ∧
        error = fault.text := by
  intro named
  let unlimited : Options := { timeout := .whole 0 }
  have valid : refusal? unlimited.readOnly (Text.trim "SELECT 1") = none := by decide +kernel
  have raised : (timeless locked).statement locked (Text.trim "SELECT 1") unlimited () =
      (.raised (.timedOut "lock wait"), ()) := rfl
  obtain ⟨duration, answered⟩ := execute_of_raised rfl valid raised measures_timeless
  obtain ⟨limited, -⟩ | ⟨fault, blames, same⟩ :=
    named (timeless locked) locked "SELECT 1" unlimited _ duration rfl valid answered
  · nomatch limited
  · obtain ⟨after, again⟩ := raised_statement_iff.mpr ⟨_, blames, rfl⟩
    obtain ⟨⟨⟩, -⟩ := Prod.mk.inj (raised.symm.trans again)
    exact absurd same (by decide +kernel)

end Session

end Sql

end Flowline

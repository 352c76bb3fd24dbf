import Flowline.Proofs.Sql.Lifecycle

/-!
# What an envelope tells of a transaction

An executor answers for a transaction only when its connection is closed. Success then stands for a
commit that was made. A connection that cannot be closed is told as a failure, whatever was committed
on it before; as long as the time can be told, there is no other failure behind a commit.
-/

namespace Flowline.Sql

/-- What success and failure hang on: a commit, a rollback and a closing that failed. -/
def Note.isDecisive : Note → Bool
  | .did .commit .done | .did .rollback _ | .did .close .raised => true
  | _ => false

def Note.isCommit : Note → Bool
  | .did .commit .done => true
  | _ => false

theorem Note.any_isCommit_iff {notes : List Note} :
    notes.any Note.isCommit = true ↔ .did .commit .done ∈ notes := by
  simp only [List.any_eq_true]
  constructor
  · rintro ⟨note, mem, commit⟩
    unfold isCommit at commit
    split at commit
    · exact mem
    · cases commit
  · exact fun mem => ⟨_, mem, rfl⟩

structure Stands (notes : List Note) : Prop where
  committed : .did .commit .done ∈ notes
  kept : ¬Tried .rollback notes
  closed : .did .close .raised ∉ notes

/-- If a commit was made and the time can be told, the connection could not be closed. -/
def Excused (notes : List Note) : Prop :=
  .did .commit .done ∈ notes → notes.Pairwise Note.Measures → .did .close .raised ∈ notes

/-- What a transaction comes to accords with its ledger. -/
inductive Accords : Outcome σ Envelope → List Note → Prop
  | success (succeeded : envelope.succeeded = true) (stands : Stands notes) :
      Accords (.done envelope) notes
  | failure (failed : envelope.succeeded = false) (excused : Excused notes) :
      Accords (.done envelope) notes
  | raised (excused : Excused notes) : Accords (.raised fault) notes
  | stuck : Accords (.waiting cancel) notes

variable {sql query : String} {options : Options} {notes inner : List Note}

theorem excused_of_notMem (uncommitted : .did .commit .done ∉ notes) : Excused notes :=
  fun committed => absurd committed uncommitted

theorem Excused.mono (excused : Excused inner) (sub : inner.Sublist notes)
    (same : ∀ note ∈ notes, note.isDecisive = true → note ∈ inner) : Excused notes :=
  fun committed measured =>
    sub.subset (excused (same _ committed rfl) (measured.sublist sub))

theorem Accords.mono {outcome : Outcome σ Envelope} (accords : Accords outcome inner)
    (sub : inner.Sublist notes)
    (same : ∀ note ∈ notes, note.isDecisive = true → note ∈ inner) : Accords outcome notes := by
  cases accords with
  | success succeeded stands =>
    refine .success succeeded ⟨sub.subset stands.committed, ?_, ?_⟩
    · rintro ⟨how, tried⟩
      exact stands.kept ⟨how, same _ tried rfl⟩
    · exact fun unclosed => stands.closed (same _ unclosed rfl)
  | failure failed excused => exact .failure failed (excused.mono sub same)
  | raised excused => exact .raised (excused.mono sub same)
  | stuck => exact .stuck

theorem mem_of_isDecisive {calm : List Note} {note : Note}
    (still : ∀ note ∈ calm, note.isDecisive = false) (mem : note ∈ inner ∨ note ∈ calm)
    (decisive : note.isDecisive = true) : note ∈ inner :=
  mem.resolve_right fun among => by simp [still note among] at decisive

-- ---------------------------------------------------------------------------
-- Clocks
-- ---------------------------------------------------------------------------

theorem elapsed_of_not_measures (unmeasured : ¬Measures started finished) :
    ∃ fault, elapsed started finished = .error fault := by
  simp only [Measures, Bool.not_eq_true, Option.isSome_eq_false_iff, Option.isNone_iff_eq_none]
    at unmeasured
  simp [elapsed, Double.toInt, unmeasured]

theorem duration_of_not_measures {clock : Clock σ}
    (unmeasured : ¬Measures started (clock world).1) :
    ∃ fault, duration clock started world = (.raised fault, (clock world).2) := by
  obtain ⟨fault, untold⟩ := elapsed_of_not_measures unmeasured
  exact ⟨fault, by simp [duration, Act.bind_apply, untold]⟩

theorem failure_of_not_measures {clock : Clock σ}
    (unmeasured : ¬Measures started (clock world).1) (error : String) :
    ∃ fault, failure clock started error world = (.raised fault, (clock world).2) := by
  obtain ⟨fault, untold⟩ := duration_of_not_measures unmeasured
  exact ⟨fault, by simp [failure, Act.bind_apply, untold]⟩

theorem accords_failure (excused : Excused notes) (clock : Clock σ) (started : Float)
    (error : String) (world : σ) : Accords (failure clock started error world).1 notes := by
  by_cases measures : Measures started (clock world).1
  · obtain ⟨text, told⟩ := failure_of_measures measures error
    rw [told]
    exact .failure rfl excused
  · obtain ⟨fault, untold⟩ := failure_of_not_measures measures error
    rw [untold]
    exact .raised excused

-- ---------------------------------------------------------------------------
-- Sessions
-- ---------------------------------------------------------------------------

namespace Session

variable {session : Session σ} {connection : Connection σ}

theorem tell_of_not_measures {outcome : Outcome σ Result} (awake : outcome.ending ≠ .waited)
    (unmeasured : ¬Measures started (session.clock world).1) :
    ∃ fault, (session.tell options started outcome world).1 = .raised fault := by
  cases outcome with
  | done result =>
    obtain ⟨fault, untold⟩ := duration_of_not_measures unmeasured
    exact ⟨fault, by simp [tell, Act.bind_apply, untold]⟩
  | raised fault =>
    obtain ⟨fault, untold⟩ := failure_of_not_measures unmeasured (failureText options fault)
    exact ⟨fault, by rw [tell, untold]⟩
  | waiting cancel => exact absurd rfl awake

theorem accords_tell {outcome : Outcome σ Result} (awake : outcome.ending ≠ .waited)
    (transacts : Transacts sql options outcome.ending notes) (started : Float) (world : σ) :
    Accords (session.tell options started outcome world).1
      (timed started (session.clock world).1 notes) := by
  by_cases measures : Measures started (session.clock world).1
  · obtain ⟨envelope, told, tells⟩ := tell_of_measures awake measures
    rw [told]
    generalize outcome.ending = ending at awake transacts tells
    cases ending with
    | done =>
      obtain ⟨committed, kept⟩ := transacts.committed_of_done
      refine .success (tells.mpr rfl) ⟨by simp [timed, committed], by simpa using kept, ?_⟩
      intro unclosed
      simpa using transacts.step_eq (tried_timed.mp ⟨_, unclosed⟩)
    | raised =>
      refine .failure (by simpa using tells) (excused_of_notMem ?_)
      obtain ⟨front, how, rfl, -, uncommitted⟩ := transacts.undone_of_raised
      intro committed
      have broken := uncommitted .done (by simpa [timed] using committed)
      cases broken
    | waited => exact absurd rfl awake
  · obtain ⟨fault, untold⟩ : ∃ fault, (session.tell options started outcome world).1 =
        .raised fault := tell_of_not_measures awake measures
    rw [untold]
    exact .raised fun _ measured => absurd (measures_of_timed measured) measures

theorem accords_run (transactional : session.isTransactional options) (connection : Connection σ)
    (started : Float) (world : σ) (earlier : List Note) :
    ∃ notes, session.noting.run connection.noting sql options started
          (world, earlier ++ [.read started]) =
        ((session.run connection sql options started world).1.beside,
          (session.run connection sql options started world).2, earlier ++ notes) ∧
      Accords (session.run connection sql options started world).1 notes := by
  obtain ⟨notes, did, ends⟩ :=
    adds_statement session connection sql options world (earlier ++ [.read started])
  simp only [Ends, transactional, if_true] at ends
  simp only [run_eq, did]
  generalize session.statement connection _ _ world = result at ends ⊢
  obtain ⟨outcome, after⟩ := result
  by_cases waits : outcome.ending = .waited
  · obtain ⟨cancel, rfl⟩ := Outcome.ending_eq_waited_iff.mp waits
    refine ⟨.read started :: notes, ?_, .stuck⟩
    simp only [tell, Outcome.beside, List.append_assoc, List.singleton_append]
  · refine ⟨timed started (session.clock after).1 notes, ?_, accords_tell waits ends _ _⟩
    rw [noting_tell _ _ _ waits, timed, List.append_assoc, List.append_assoc]
    rfl

theorem accords_execute (transactional : session.isTransactional options) (query : String)
    (world : σ) (earlier : List Note) :
    ∃ notes, session.noting.execute query options (world, earlier) =
        ((session.execute query options world).1.beside,
          (session.execute query options world).2, earlier ++ notes) ∧
      Accords (session.execute query options world).1 notes := by
  -- where nothing is asked of the connection, there are only the readings of the clock
  have spared (started : Float) (error : String) (world : σ) :
      ∃ notes, failure session.noting.clock started error (world, earlier ++ [.read started]) =
          ((failure session.clock started error world).1.beside,
            (failure session.clock started error world).2, earlier ++ notes) ∧
        Accords (failure session.clock started error world).1 notes := by
    refine ⟨timed started (session.clock world).1 [], ?_, ?_⟩
    · rw [noting_failure, timed, List.append_assoc]
      rfl
    · exact accords_failure (excused_of_notMem (by simp [timed])) _ _ _ _
  simp only [execute, Act.bind_apply, Act.always_apply]
  cases refusal? options.readOnly (Text.trim query) with
  | some refusal => exact spared _ _ _
  | none =>
    cases connected : session.connection with
    | none =>
      simp only [noting, connected, Option.map_none]
      exact spared _ _ _
    | some connection =>
      simp only [noting, connected, Option.map_some]
      exact accords_run transactional connection _ _ _

end Session

-- ---------------------------------------------------------------------------
-- Closing
-- ---------------------------------------------------------------------------

def Reckons (earlier : List Note) (noted : Outcome (σ × List Note) Envelope × σ × List Note)
    (plain : Outcome σ Envelope × σ) : Prop :=
  ∃ notes, noted.1.answer? = plain.1.answer? ∧ noted.2 = (plain.2, earlier ++ notes) ∧
    Accords plain.1 notes

theorem reckons_finish {outcome : Outcome σ Envelope} (accords : Accords outcome notes)
    (connection : Connection σ) (world : σ) (earlier : List Note) :
    Reckons earlier (Act.finish outcome.beside connection.noting.close (world, earlier ++ notes))
      (Act.finish outcome connection.close world) := by
  have closes : connection.noting.close (world, earlier ++ notes) =
      ((connection.close world).1.beside, (connection.close world).2,
        earlier ++ notes ++ [.did .close (connection.close world).1.ending]) := rfl
  simp only [Act.finish, closes, List.append_assoc]
  generalize connection.close world = closed
  obtain ⟨_ | fault | cancel, after⟩ := closed
  · exact ⟨_, Outcome.answer?_beside _, rfl, accords.mono (List.sublist_append_left _ _)
      fun _ mem => mem_of_isDecisive (by simp [Note.isDecisive]) (List.mem_append.mp mem)⟩
  · exact ⟨_, rfl, rfl, .raised fun _ _ => List.mem_append_right _ (.head _)⟩
  · exact ⟨_, rfl, rfl, .stuck⟩

theorem reckons_ensuring {noting : Act (σ × List Note) Envelope} {act : Act σ Envelope}
    {earlier : List Note}
    (did : noting (world, earlier) = ((act world).1.beside, (act world).2, earlier ++ notes))
    (accords : Accords (act world).1 notes) (connection : Connection σ) :
    Reckons earlier (noting.ensuring connection.noting.close (world, earlier))
      (act.ensuring connection.close world) := by
  simp only [Act.ensuring, did]
  generalize act world = result at accords ⊢
  obtain ⟨outcome, after⟩ := result
  cases outcome with
  | done envelope => exact reckons_finish accords connection after earlier
  | raised fault => exact reckons_finish accords connection after earlier
  | waiting cancel => exact ⟨notes, rfl, rfl, .stuck⟩

theorem Reckons.behind (front : List Note) (calm : ∀ note ∈ front, note.isDecisive = false)
    {noted : Outcome (σ × List Note) Envelope × σ × List Note} {plain : Outcome σ Envelope × σ}
    (reckons : Reckons (earlier ++ front) noted plain) : Reckons earlier noted plain := by
  obtain ⟨notes, same, left, accords⟩ := reckons
  exact ⟨front ++ notes, same, by rw [left, List.append_assoc],
    accords.mono (List.sublist_append_right _ _) fun _ mem =>
      mem_of_isDecisive calm (List.mem_append.mp mem).symm⟩

theorem Reckons.recover {noting : Act (σ × List Note) Envelope} {act : Act σ Envelope}
    {earlier : List Note} (reckons : Reckons earlier (noting (world, earlier)) (act world))
    (database : Database σ) (started : Float) :
    Reckons earlier
      (noting.recover (fun fault => failure database.noting.clock started fault.text)
        (world, earlier))
      (act.recover (fun fault => failure database.clock started fault.text) world) := by
  obtain ⟨notes, same, left, accords⟩ := reckons
  simp only [Act.recover_apply]
  generalize noting (world, earlier) = noted at same left ⊢
  generalize act world = plain at same left accords ⊢
  obtain ⟨outcome, after⟩ := noted
  obtain ⟨outcome', after'⟩ := plain
  obtain rfl : after = _ := left
  obtain ⟨a, rfl, rfl⟩ | ⟨fault, rfl, rfl⟩ | ⟨cancel, cancel', rfl, rfl⟩ :=
    Outcome.cases_of_answer?_eq same
  · exact ⟨notes, rfl, rfl, accords⟩
  · cases accords with
    | raised excused =>
      have failed := Session.noting_failure ⟨none, true, database.clock⟩ started fault.text after'
        (earlier ++ notes)
      refine ⟨notes ++ [.read (database.clock after').1],
        (congrArg (·.1.answer?) failed).trans (Outcome.answer?_beside _), ?_, ?_⟩
      · rw [← List.append_assoc]
        exact congrArg Prod.snd failed
      · exact accords_failure (excused.mono (List.sublist_append_left _ _) fun _ mem =>
          mem_of_isDecisive (by simp [Note.isDecisive]) (List.mem_append.mp mem)) _ _ _ _
  · exact ⟨notes, rfl, rfl, .stuck⟩

namespace Executor

theorem Opens.isDecisive_eq_false {executor : Executor} {database : Database σ} {world : σ}
    (opens : executor.Opens database options world ending notes) (mem : note ∈ notes) :
    note.isDecisive = false := by
  have asked (front : List Note) (asked : Only Step.isCredential front) (mem : note ∈ front) :
      note.isDecisive = false := by
    cases note with
    | read time => rfl
    | did step how =>
      have credential := asked step ⟨how, mem⟩
      cases step <;> simp_all [Step.isCredential, Note.isDecisive]
  cases opens with
  | lacking _ only => exact asked _ only mem
  | tried front _ only =>
    rcases List.mem_append.mp mem with mem | mem
    · exact asked _ only mem
    · rw [List.mem_singleton.mp mem]
      rfl

theorem reckons_serve (executor : Executor) (database : Database σ) (sql : String)
    (transaction : options.transaction = true) (world : σ) (earlier : List Note) :
    Reckons earlier (executor.serve database.noting sql options (world, earlier))
      (executor.serve database sql options world) := by
  obtain ⟨front, did, opens⟩ := executor.noting_open database options world earlier
  refine Reckons.behind front (fun _ mem => opens.isDecisive_eq_false mem) ?_
  simp only [serve, Act.bind_apply, did]
  generalize executor.open database (!options.transaction) world = opened at opens ⊢
  obtain ⟨outcome, after⟩ := opened
  cases outcome with
  | done connection =>
    have transactional : (⟨some connection, !options.transaction, database.clock⟩ :
        Session σ).isTransactional options = true := by
      simp [Session.isTransactional, transaction]
    obtain ⟨inner, called, accords⟩ :=
      Session.accords_execute transactional sql after (earlier ++ front)
    exact reckons_ensuring called accords connection
  | raised fault =>
    exact ⟨[], rfl, by rw [List.append_nil]; rfl, .raised (excused_of_notMem (by simp))⟩
  | waiting cancel => exact ⟨[], rfl, by rw [List.append_nil]; rfl, .stuck⟩

theorem reckons_execute (executor : Executor) (database : Database σ) (sql : String)
    (transaction : options.transaction = true) (world : σ) :
    Reckons [] (executor.execute database.noting sql options (world, []))
      (executor.execute database sql options world) := by
  simp only [execute_eq]
  refine Reckons.behind [.read (database.clock world).1] (by simp [Note.isDecisive]) ?_
  exact (executor.reckons_serve database sql transaction _ _).recover database _

/-- What the answer to a statement in a transaction tells of it. Success means that a commit was
made and nothing was rolled back. If the time can be told, success means just that a commit was made
and that the connection could be closed; so a failure does not tell that no commit was made, unless
the closing is known not to have failed. -/
theorem execute_succeeds_iff (executor : Executor) (database : Database σ) (sql : String)
    (options : Options) (world : σ) (envelope : Envelope) (transaction : options.transaction = true)
    (answered : (executor.execute database sql options world).1 = .done envelope) :
    let ledger := executor.ledger database sql options world
    (executor.execute database.noting sql options (world, [])).1 = .done envelope ∧
    (envelope.succeeded = true → .did .commit .done ∈ ledger ∧ ¬Tried .rollback ledger) ∧
    (ledger.Pairwise Note.Measures →
      (envelope.succeeded = true ↔ .did .commit .done ∈ ledger ∧ .did .close .raised ∉ ledger)) := by
  intro ledger
  obtain ⟨notes, same, left, accords⟩ := executor.reckons_execute database sql transaction world
  obtain rfl : ledger = notes := by simp [ledger, Executor.ledger, left]
  rw [answered] at same accords
  refine ⟨Outcome.answer?_eq_ok_iff.mp same, ?_⟩
  cases accords with
  | success succeeded stands =>
    exact ⟨fun _ => ⟨stands.committed, stands.kept⟩,
      fun _ => ⟨fun _ => ⟨stands.committed, stands.closed⟩, fun _ => succeeded⟩⟩
  | failure failed excused =>
    refine ⟨fun succeeded => by simp [failed] at succeeded, fun measured => ?_⟩
    constructor
    · intro succeeded
      simp [failed] at succeeded
    · rintro ⟨committed, closed⟩
      exact absurd (excused committed measured) closed

theorem exists_of_succeeded {outcome : Outcome σ Envelope}
    (told : (outcome.answer?.bind Except.toOption).map Envelope.succeeded = some succeeded) :
    ∃ envelope, outcome = .done envelope ∧ envelope.succeeded = succeeded := by
  cases outcome <;> simp_all [Except.toOption]

/-- It does all that it is asked for, except perhaps to close. -/
def sticky (closes : Bool) : Database Unit where
  identity := { assume := fun _ => pure (), token := fun _ => pure "token" }
  connect _ := pure {
    execute := fun _ => pure ⟨none, [], 1⟩
    fetch := fun _ _ => pure []
    commit := pure ()
    rollback := pure ()
    close := if closes then pure () else Act.raise (.reported "Error" "gone") }
  clock world := (0.0, world)

theorem execute_succeeds_iff_closing :
    let executor : Executor := ⟨"Driver=a", false, none⟩
    let options : Options := { readOnly := false, transaction := true }
    let ledger := executor.ledger (sticky true) "UPDATE t SET a = 1" options ()
    ∃ envelope, (executor.execute (sticky true) "UPDATE t SET a = 1" options ()).1 =
        .done envelope ∧ ledger.Pairwise Note.Measures ∧ envelope.succeeded = true ∧
      .did .commit .done ∈ ledger ∧ ¬Tried .rollback ledger ∧ .did .close .raised ∉ ledger := by
  intro executor options ledger
  have told : ((executor.execute (sticky true) "UPDATE t SET a = 1" options ()).1.answer?.bind
      Except.toOption).map Envelope.succeeded = some true := by decide +kernel
  have measured : ledger.Pairwise Note.Measures := by decide +kernel
  obtain ⟨envelope, answered, succeeded⟩ := exists_of_succeeded told
  obtain ⟨-, success, iff⟩ :=
    execute_succeeds_iff executor (sticky true) _ options () envelope rfl answered
  exact ⟨envelope, answered, measured, succeeded, (success succeeded).1, (success succeeded).2,
    ((iff measured).mp succeeded).2⟩

/-- A connection that commits and then cannot be closed is told as a failure. -/
theorem execute_sticky :
    let executor : Executor := ⟨"Driver=a", false, none⟩
    let options : Options := { readOnly := false, transaction := true }
    ∃ envelope, (executor.execute (sticky false) "UPDATE t SET a = 1" options ()).1 =
        .done envelope ∧ envelope.succeeded = false ∧
      .did .commit .done ∈ executor.ledger (sticky false) "UPDATE t SET a = 1" options () := by
  intro executor options
  have told : ((executor.execute (sticky false) "UPDATE t SET a = 1" options ()).1.answer?.bind
      Except.toOption).map Envelope.succeeded = some false := by decide +kernel
  have committed : (executor.ledger (sticky false) "UPDATE t SET a = 1" options ()).any
      Note.isCommit = true := by decide +kernel
  obtain ⟨envelope, answered, failed⟩ := exists_of_succeeded told
  exact ⟨envelope, answered, failed, Note.any_isCommit_iff.mp committed⟩

end Executor

end Flowline.Sql

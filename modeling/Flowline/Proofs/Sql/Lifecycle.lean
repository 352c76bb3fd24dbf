import Flowline.Proofs.Act.Traced
import Flowline.Proofs.Sql.Transaction
import Flowline.Sql.Executor

/-!
# The life of a connection

An executor opens a connection for one statement. Without a connection string or a token it does not
try to. A connection that is open is closed once, and nothing is asked of it afterwards, whatever
failed in between; if the connection cannot be closed that is told as a failure as well. So as long
as every wait can be given up and the time can be told, a call is always answered by an envelope.
-/

namespace Flowline.Sql

-- ---------------------------------------------------------------------------
-- Steps of a kind
-- ---------------------------------------------------------------------------

def Step.isCredential : Step → Bool
  | .assume _ | .token _ => true
  | _ => false

def Step.isStatement : Step → Bool
  | .execute _ | .fetch _ | .commit | .rollback => true
  | _ => false

def Only (kind : Step → Bool) (notes : List Note) : Prop :=
  ∀ step, Tried step notes → kind step = true

def Note.isPrompt (options : Options) : Note → Bool
  | .did (.execute _) .waited | .did (.fetch _) .waited => !options.timeout.isZero
  | .did _ .waited => false
  | _ => true

abbrev Prompt (options : Options) (notes : List Note) : Prop :=
  ∀ note ∈ notes, note.isPrompt options = true

/-- How a call of a session ends, and what it leaves in the ledger. -/
inductive Session.Calls (session : Session σ) (query : String) (options : Options) :
    Ending → List Note → Prop
  | spared (ended : ending ≠ .waited) :
      Calls session query options ending (timed started finished [])
  | answered (passed : refusal? options.readOnly (Text.trim query) = none)
      (ends : session.Ends (Text.trim query) options how notes) (awake : how ≠ .waited)
      (ended : ending ≠ .waited) : Calls session query options ending (timed started finished notes)
  | stuck (passed : refusal? options.readOnly (Text.trim query) = none)
      (ends : session.Ends (Text.trim query) options .waited notes) :
      Calls session query options .waited (.read started :: notes)

-- ---------------------------------------------------------------------------
-- Databases with a ledger
-- ---------------------------------------------------------------------------

def Identity.noting (identity : Identity σ) : Identity (σ × List Note) where
  assume client := (identity.assume client).noting (.did (.assume client))
  token scope := (identity.token scope).noting (.did (.token scope))

def Database.noting (database : Database σ) : Database (σ × List Note) where
  identity := database.identity.noting
  connect opening := Connection.noting <$>
    (database.connect opening).noting (.did (.connect opening))
  clock pair := ((database.clock pair.1).1, (database.clock pair.1).2,
    pair.2 ++ [.read (database.clock pair.1).1])

namespace Executor

def Lacks (executor : Executor) (database : Database σ) (world : σ) : Prop :=
  executor.connectionString.isEmpty = true ∨ executor.usesToken = true ∧
    ∀ octets, (accessToken database.identity executor.client world).1 ≠ .done octets

def opening (executor : Executor) (options : Options) (token : Option (List UInt8)) : Opening :=
  ⟨executor.connectionString, token, !options.transaction⟩

inductive Opens (executor : Executor) (database : Database σ) (options : Options) (world : σ) :
    Ending → List Note → Prop
  | lacking (lacks : executor.Lacks database world) (asked : Only Step.isCredential notes)
      (ended : ending ≠ .done) (awake : Prompt options notes → ending ≠ .waited) :
      Opens executor database options world ending notes
  | tried (front : List Note) (stands : ¬executor.Lacks database world)
      (asked : Only Step.isCredential front) (token : Option (List UInt8)) (ending : Ending) :
      Opens executor database options world ending
        (front ++ [.did (.connect (executor.opening options token)) ending])

/-- What a call leaves in the ledger, be it answered or be it told as a failure. -/
inductive Leaves (executor : Executor) (database : Database σ) (sql : String) (options : Options)
    (world : σ) : List Note → Prop
  | lacking (lacks : executor.Lacks database world) (asked : Only Step.isCredential notes) :
      Leaves executor database sql options world notes
  | refused (front back : List Note) (stands : ¬executor.Lacks database world)
      (asked : Only Step.isCredential front) (token : Option (List UInt8))
      (still : Only (fun _ => false) back) :
      Leaves executor database sql options world
        (front ++ .did (.connect (executor.opening options token)) .raised :: back)
  /-- What is open is closed behind all else, if perhaps in vain. -/
  | closed (front inner back : List Note) (stands : ¬executor.Lacks database world)
      (asked : Only Step.isCredential front) (token : Option (List UInt8))
      (inside : Only Step.isStatement inner)
      (once : inner.countP Note.isExecution ≤ 1)
      (passed : ∀ text, Tried (.execute text) inner →
        text = Text.trim sql ∧ refusal? options.readOnly text = none)
      (closing : Ending) (still : Only (fun _ => false) back) :
      Leaves executor database sql options world
        (front ++ .did (.connect (executor.opening options token)) .done ::
          (inner ++ .did .close closing :: back))

end Executor

-- ---------------------------------------------------------------------------
-- Reading the ledger
-- ---------------------------------------------------------------------------

variable {sql query : String} {options : Options} {step : Step} {kind : Step → Bool}
  {ending : Ending} {notes more : List Note}

@[simp] theorem tried_nil : ¬Tried step [] := by simp [Tried]

@[simp] theorem tried_read_cons {time : Float} :
    Tried step (.read time :: notes) ↔ Tried step notes := by
  simp [Tried]

@[simp] theorem only_nil : Only kind [] := by simp [Only]

@[simp] theorem only_read_cons {time : Float} :
    Only kind (.read time :: notes) ↔ Only kind notes := by
  simp [Only]

theorem only_read {time : Float} : Only kind [.read time] := by simp

@[simp] theorem only_append : Only kind (notes ++ more) ↔ Only kind notes ∧ Only kind more := by
  simp only [Only, tried_append, or_imp, forall_and]

theorem only_singleton (of : kind step = true) : Only kind [.did step ending] := by
  simpa [Only] using of

theorem Note.isLimited_of_isPrompt {note : Note} (prompt : note.isPrompt options = true) :
    note.isLimited options = true := by
  unfold isPrompt at prompt
  split at prompt
  · exact prompt
  · exact prompt
  · nomatch prompt
  · unfold isLimited
    split <;> simp_all

-- ---------------------------------------------------------------------------
-- The part of a session
-- ---------------------------------------------------------------------------

theorem Commits.step_eq (commits : Commits sql options ending notes) (tried : Tried step notes) :
    step = .execute sql ∨ step = .fetch options.fetch ∨ step = .commit := by
  cases commits with
  | failed attempts =>
    rcases attempts.step_eq tried with h | h <;> simp [h]
  | committed _ attempts =>
    rcases tried_append.mp tried with tried | tried
    · rcases attempts.step_eq tried with h | h <;> simp [h]
    · simp [tried_singleton.mp tried]

theorem Transacts.step_eq (transacts : Transacts sql options ending notes)
    (tried : Tried step notes) :
    step = .execute sql ∨ step = .fetch options.fetch ∨ step = .commit ∨ step = .rollback := by
  cases transacts with
  | kept commits =>
    rcases commits.step_eq tried with h | h | h <;> simp [h]
  | undone commits | stuck commits =>
    rcases tried_append.mp tried with tried | tried
    · rcases commits.step_eq tried with h | h | h <;> simp [h]
    · simp [tried_singleton.mp tried]

namespace Session

variable {session : Session σ}

theorem step_eq_of_ends (ends : session.Ends sql options ending notes) (tried : Tried step notes) :
    step = .execute sql ∨ step = .fetch options.fetch ∨ step = .commit ∨ step = .rollback := by
  unfold Ends at ends
  split at ends
  · exact ends.step_eq tried
  · rcases ends.step_eq tried with h | h <;> simp [h]

theorem once_of_ends (ends : session.Ends sql options ending notes) :
    notes.countP Note.isExecution ≤ 1 := by
  unfold Ends at ends
  split at ends
  · exact ends.once
  · exact ends.once

namespace Calls

theorem step_eq (calls : session.Calls query options ending notes) (tried : Tried step notes) :
    refusal? options.readOnly (Text.trim query) = none ∧
      (step = .execute (Text.trim query) ∨ step = .fetch options.fetch ∨ step = .commit ∨
        step = .rollback) := by
  cases calls with
  | spared => simp at tried
  | answered passed ends => exact ⟨passed, step_eq_of_ends ends (tried_timed.mp tried)⟩
  | stuck passed ends => exact ⟨passed, step_eq_of_ends ends (tried_read_cons.mp tried)⟩

theorem once (calls : session.Calls query options ending notes) :
    notes.countP Note.isExecution ≤ 1 := by
  cases calls with
  | spared => simp
  | answered _ ends => simpa using once_of_ends ends
  | stuck _ ends => simpa [Note.isExecution] using once_of_ends ends

theorem ended (calls : session.Calls query options ending notes) (limited : Limited options notes) :
    ending ≠ .waited := by
  cases calls with
  | spared ended | answered _ _ _ ended => exact ended
  | stuck _ ends => exact ends_of_limited ends fun note mem => limited note (.tail _ mem)

end Calls

theorem ending_failure (clock : Clock σ) (started : Float) (error : String) (world : σ) :
    (failure clock started error world).1.ending ≠ .waited := by
  simp only [failure, duration, Act.bind_apply, Act.always_apply]
  cases elapsed started (clock world).1 <;> simp [Act.done]

theorem ending_tell {outcome : Outcome σ Result} (awake : outcome.ending ≠ .waited)
    (started : Float) (world : σ) :
    (session.tell options started outcome world).1.ending ≠ .waited := by
  cases outcome with
  | done result =>
    simp only [tell, duration, Act.bind_apply, Act.always_apply]
    cases elapsed started (session.clock world).1 <;> simp [Act.done]
  | raised fault => exact ending_failure _ _ _ _
  | waiting cancel => exact absurd rfl awake

theorem calls_failure (session : Session σ) (query : String) (options : Options) (started : Float)
    (error : String) (world : σ) (earlier : List Note) :
    ∃ notes, failure session.noting.clock started error (world, earlier ++ [.read started]) =
        ((failure session.clock started error world).1.beside,
          (failure session.clock started error world).2, earlier ++ notes) ∧
      session.Calls query options (failure session.clock started error world).1.ending notes := by
  refine ⟨timed started (session.clock world).1 [], ?_, .spared (ending_failure _ _ _ _)⟩
  rw [noting_failure, timed, List.append_assoc]
  rfl

theorem calls_run (passed : refusal? options.readOnly (Text.trim query) = none)
    (connection : Connection σ) (started : Float) (world : σ) (earlier : List Note) :
    ∃ notes, session.noting.run connection.noting (Text.trim query) options started
          (world, earlier ++ [.read started]) =
        ((session.run connection (Text.trim query) options started world).1.beside,
          (session.run connection (Text.trim query) options started world).2, earlier ++ notes) ∧
      session.Calls query options
        (session.run connection (Text.trim query) options started world).1.ending notes := by
  obtain ⟨notes, did, ends⟩ := adds_statement session connection (Text.trim query) options world
    (earlier ++ [.read started])
  simp only [run_eq, did]
  generalize session.statement connection _ _ world = result at ends ⊢
  obtain ⟨outcome, after⟩ := result
  by_cases waits : outcome.ending = .waited
  · obtain ⟨cancel, rfl⟩ := Outcome.ending_eq_waited_iff.mp waits
    refine ⟨.read started :: notes, ?_, .stuck passed ends⟩
    simp only [tell, Outcome.beside, List.append_assoc, List.singleton_append]
  · refine ⟨timed started (session.clock after).1 notes, ?_,
      .answered passed ends waits (ending_tell waits _ _)⟩
    rw [noting_tell _ _ _ waits, timed, List.append_assoc, List.append_assoc]
    rfl

theorem adds_execute (session : Session σ) (query : String) (options : Options) :
    (session.noting.execute query options).Adds (session.execute query options)
      (session.Calls query options) := by
  intro world earlier
  simp only [execute, Act.bind_apply, Act.always_apply]
  cases passed : refusal? options.readOnly (Text.trim query) with
  | some refusal => exact session.calls_failure query options _ _ _ _
  | none =>
    cases connected : session.connection with
    | none =>
      simp only [noting, connected, Option.map_none]
      exact session.calls_failure query options _ _ _ _
    | some connection =>
      simp only [noting, connected, Option.map_some]
      exact calls_run passed connection _ _ _

end Session

-- ---------------------------------------------------------------------------
-- Opening
-- ---------------------------------------------------------------------------

theorem Prompt.awake (prompt : Prompt options notes) (mem : .did step ending ∈ notes)
    (other : step.isStatement = false) : ending ≠ .waited := by
  rintro rfl
  have awake := prompt _ mem
  cases step <;> simp_all [Note.isPrompt, Step.isStatement]

theorem adds_accessToken (identity : Identity σ) (client : Option String) (options : Options) :
    (accessToken identity.noting client).Adds (accessToken identity client)
      fun ending notes => Only Step.isCredential notes ∧
        (Prompt options notes → ending ≠ .waited) := by
  refine (Act.adds_noting _ _).bind ?_ fun _ notes noted => ?_
  · rintro ending _ rfl -
    exact ⟨only_singleton rfl, fun prompt => prompt.awake (.head _) rfl⟩
  · subst noted
    refine (Act.adds_noting _ _).bind ?_ fun token more noted => ?_
    · rintro ending _ rfl -
      exact ⟨only_append.mpr ⟨only_singleton rfl, only_singleton rfl⟩,
        fun prompt => prompt.awake (List.mem_append_right _ (.head _)) rfl⟩
    · subst noted
      have asked : Only Step.isCredential
          ([.did (.assume (clientName? client)) .done] ++ [.did (.token databaseScope) .done]) :=
        only_append.mpr ⟨only_singleton rfl, only_singleton rfl⟩
      exact Act.adds_ofExcept _ ⟨asked, nofun⟩ ⟨asked, nofun⟩

theorem Database.noting_connect (database : Database σ) (opening : Opening) (world : σ)
    (earlier : List Note) :
    database.noting.connect opening (world, earlier) =
      (((database.connect opening world).1.map Connection.noting).beside,
        (database.connect opening world).2,
        earlier ++ [.did (.connect opening) (database.connect opening world).1.ending]) := by
  simp only [noting, map_eq_pure_bind, Act.bind_apply, Act.noting]
  rcases database.connect opening world with ⟨_ | _ | _, after⟩ <;> rfl

namespace Executor

theorem noting_open (executor : Executor) (database : Database σ) (options : Options) (world : σ)
    (earlier : List Note) :
    ∃ notes, executor.open database.noting (!options.transaction) (world, earlier) =
        (((executor.open database (!options.transaction) world).1.map Connection.noting).beside,
          (executor.open database (!options.transaction) world).2, earlier ++ notes) ∧
      executor.Opens database options world
        (executor.open database (!options.transaction) world).1.ending notes := by
  unfold Executor.open
  split
  · rename_i unset
    refine ⟨[], by simp [Outcome.map, Outcome.beside], ?_⟩
    exact .lacking (.inl unset) only_nil (by simp) (by simp)
  · rename_i set
    cases uses : executor.usesToken with
    | false =>
      simp only [Bool.false_eq_true, if_false, pure_bind]
      refine ⟨_, database.noting_connect _ world earlier, ?_⟩
      exact .tried [] (by simp [Lacks, set, uses]) only_nil none _
    | true =>
      simp only [if_true, bind_map_left]
      obtain ⟨front, did, asked, awake⟩ :=
        adds_accessToken database.identity executor.client options world earlier
      have lacks : executor.Lacks database world ↔
          ∀ octets, (accessToken database.identity executor.client world).1 ≠ .done octets := by
        simp [Lacks, set, uses]
      simp only [Act.bind_apply, Database.noting, did]
      generalize accessToken database.identity executor.client world = fetched at lacks awake ⊢
      obtain ⟨outcome, after⟩ := fetched
      cases outcome with
      | done octets =>
        refine ⟨_, (database.noting_connect _ after (earlier ++ front)).trans ?_,
          .tried front (fun h => lacks.mp h octets rfl) asked (some octets) _⟩
        rw [List.append_assoc]
        rfl
      | raised fault =>
        exact ⟨front, rfl, .lacking (lacks.mpr (by simp)) asked (by simp) awake⟩
      | waiting cancel =>
        exact ⟨front, rfl, .lacking (lacks.mpr (by simp)) asked (by simp) awake⟩

def serve (executor : Executor) (database : Database σ) (sql : String) (options : Options) :
    Act σ Envelope := do
  let connection ← executor.open database (!options.transaction)
  Act.ensuring (Session.execute ⟨some connection, !options.transaction, database.clock⟩ sql options)
    connection.close

theorem execute_eq (executor : Executor) (database : Database σ) (sql : String) (options : Options)
    (world : σ) :
    executor.execute database sql options world =
      (executor.serve database sql options).recover
        (fun fault => failure database.clock (database.clock world).1 fault.text)
        (database.clock world).2 := rfl

theorem traced_serve (executor : Executor) (database : Database σ) (sql : String)
    (options : Options) (world : σ) (earlier : List Note) :
    Traced earlier
      (fun ending notes => Prompt options notes →
        ending ≠ .waited ∧ executor.Leaves database sql options world notes)
      (executor.serve database.noting sql options (world, earlier))
      (executor.serve database sql options world) := by
  obtain ⟨front, did, opens⟩ := executor.noting_open database options world earlier
  simp only [serve, Act.bind_apply, did]
  generalize executor.open database (!options.transaction) world = opened at opens ⊢
  obtain ⟨outcome, after⟩ := opened
  cases outcome with
  | done connection =>
    cases opens with
    | lacking _ _ ended => exact absurd rfl ended
    | tried front stands asked token =>
      have calls := Session.adds_execute ⟨some connection, !options.transaction, database.clock⟩
        sql options
      -- only the session can wait, since nobody waits for a closing
      refine ((calls.traced _ _).ensuring (Act.adds_noting _ connection.close) ?_ ?_).behind _
      · intro inner called prompt
        exact absurd rfl (called.ended fun note mem =>
          Note.isLimited_of_isPrompt (prompt note (List.mem_append_right _ mem)))
      · rintro how inner called ended closing _ rfl prompt
        have awake : closing ≠ .waited :=
          prompt.awake (List.mem_append_right _ (List.mem_append_right _ (.head _))) rfl
        refine ⟨Ending.finish_ne_waited ended awake, ?_⟩
        rw [List.append_assoc, List.singleton_append]
        refine .closed front inner [] stands asked token (fun step tried => ?_) called.once
          (fun text tried => ?_) closing only_nil
        · obtain ⟨-, rfl | rfl | rfl | rfl⟩ := called.step_eq tried <;> rfl
        · obtain ⟨passed, same⟩ := called.step_eq tried
          obtain rfl : text = Text.trim sql := by simpa using same
          exact ⟨rfl, passed⟩
  | raised fault =>
    refine ⟨front, rfl, rfl, fun prompt => ⟨nofun, ?_⟩⟩
    cases opens with
    | lacking lacks asked => exact .lacking lacks asked
    | tried front stands asked token => exact .refused front [] stands asked token only_nil
  | waiting cancel =>
    refine ⟨front, rfl, rfl, fun prompt => ?_⟩
    cases opens with
    | lacking _ _ _ awake => exact absurd rfl (awake prompt)
    | tried front stands asked token =>
      exact absurd rfl (prompt.awake (List.mem_append_right _ (.head _)) rfl)

theorem Leaves.started {executor : Executor} {database : Database σ} {world : σ}
    (leaves : executor.Leaves database sql options world notes) (time : Float) :
    executor.Leaves database sql options world (.read time :: notes) := by
  cases leaves with
  | lacking lacks asked => exact .lacking lacks (only_read_cons.mpr asked)
  | refused front back stands asked token still =>
    exact .refused (.read time :: front) back stands (only_read_cons.mpr asked) token still
  | closed front inner back stands asked token inside once passed closing still =>
    exact .closed (.read time :: front) inner back stands (only_read_cons.mpr asked) token inside
      once passed closing still

theorem Leaves.finished {executor : Executor} {database : Database σ} {world : σ}
    (leaves : executor.Leaves database sql options world notes) (time : Float) :
    executor.Leaves database sql options world (notes ++ [.read time]) := by
  cases leaves with
  | lacking lacks asked =>
    exact .lacking lacks (only_append.mpr ⟨asked, only_read⟩)
  | refused front back stands asked token still =>
    rw [List.append_assoc, List.cons_append]
    exact .refused front _ stands asked token (only_append.mpr ⟨still, only_read⟩)
  | closed front inner back stands asked token inside once passed closing still =>
    rw [List.append_assoc, List.cons_append, List.append_assoc, List.cons_append]
    exact .closed front inner _ stands asked token inside once passed closing
      (only_append.mpr ⟨still, only_read⟩)

theorem traced_execute (executor : Executor) (database : Database σ) (sql : String)
    (options : Options) (world : σ) :
    Traced []
      (fun ending notes => Prompt options notes → notes.Pairwise Note.Measures →
        ending = .done ∧ executor.Leaves database sql options (database.clock world).2 notes)
      (executor.execute database.noting sql options (world, []))
      (executor.execute database sql options world) := by
  simp only [execute_eq]
  refine Traced.behind [.read (database.clock world).1]
    ((executor.traced_serve database sql options _ _).recover ?_ ?_)
  · intro ending notes served calm prompt measured
    obtain ⟨awake, leaves⟩ := served fun note mem => prompt note (.tail _ mem)
    refine ⟨?_, leaves.started _⟩
    cases ending with
    | done => rfl
    | raised => exact absurd rfl calm
    | waited => exact absurd rfl awake
  · intro fault after notes served
    -- the clock is read once more to tell the failure
    have failed := Session.noting_failure ⟨none, true, database.clock⟩ (database.clock world).1
      fault.text after ([.read (database.clock world).1] ++ notes)
    refine ⟨[.read (database.clock after).1], ?_, ?_, fun prompt measured => ?_⟩
    · exact (congrArg (·.1.answer?) failed).trans (Outcome.answer?_beside _)
    · exact congrArg Prod.snd failed
    · obtain ⟨-, leaves⟩ := served fun note mem =>
        prompt note (List.mem_append_right _ (List.mem_append_left _ mem))
      obtain ⟨text, told⟩ := failure_of_measures (Session.measures_of_timed measured) fault.text
      exact ⟨by rw [told]; rfl, (leaves.finished _).started _⟩

def ledger (executor : Executor) (database : Database σ) (sql : String) (options : Options)
    (world : σ) : List Note :=
  (executor.execute database.noting sql options (world, [])).2.2

/-- Whatever a database does, as long as it is waited for only where a limit gives the wait up and
the time can be told, a call is answered by an envelope, and a ledger does not change that. Nothing
is connected without a connection string and, where one is used, a token; otherwise there is one
attempt to connect. An open connection is closed once, behind all other steps, and in between at
most one statement is executed, which has passed the check. -/
theorem execute_leaves (executor : Executor) (database : Database σ) (sql : String)
    (options : Options) (world : σ)
    (prompt : Prompt options (executor.ledger database sql options world))
    (measured : (executor.ledger database sql options world).Pairwise Note.Measures) :
    ∃ envelope, (executor.execute database sql options world).1 = .done envelope ∧
      (executor.execute database.noting sql options (world, [])).1 = .done envelope ∧
      executor.Leaves database sql options (database.clock world).2
        (executor.ledger database sql options world) := by
  obtain ⟨notes, same, left, leads⟩ := executor.traced_execute database sql options world
  have ledger_eq : executor.ledger database sql options world = notes := by
    rw [ledger, left, List.nil_append]
  rw [ledger_eq] at prompt measured ⊢
  obtain ⟨done, leaves⟩ := leads prompt measured
  generalize executor.execute database sql options world = plain at same done ⊢
  obtain ⟨outcome, after⟩ := plain
  cases outcome with
  | done envelope => exact ⟨envelope, rfl, Outcome.answer?_eq_ok_iff.mp same, leaves⟩
  | raised | waiting => cases done

/-- It hands out a connection whose statements take for ever and which can neither roll back nor
close. -/
def wary : Database Unit where
  identity := { assume := fun _ => pure (), token := fun _ => pure "token" }
  connect _ := pure {
    execute := fun _ world => (.waiting id, world)
    fetch := fun _ _ => pure []
    commit := pure ()
    rollback := Act.raise (.reported "Error" "gone")
    close := Act.raise (.reported "Error" "gone") }
  clock world := (0.0, world)

theorem execute_leaves_wary :
    let executor : Executor := ⟨"Driver=a", true, none⟩
    let options : Options := { readOnly := false, transaction := true }
    let ledger := executor.ledger wary "UPDATE t SET a = 1" options ()
    Prompt options ledger ∧ ledger.Pairwise Note.Measures ∧ ¬executor.Lacks wary () ∧
      executor.Leaves wary "UPDATE t SET a = 1" options () ledger ∧
      ledger.countP Note.isExecution = 1 := by
  intro executor options ledger
  have prompt : Prompt options ledger := by decide +kernel
  have measured : ledger.Pairwise Note.Measures := by decide +kernel
  obtain ⟨envelope, -, -, leaves⟩ :=
    execute_leaves executor wary "UPDATE t SET a = 1" options () prompt measured
  refine ⟨prompt, measured, ?_, leaves, by decide +kernel⟩
  rintro (unset | ⟨-, none⟩)
  · nomatch unset
  · exact none _ rfl

end Executor

end Flowline.Sql

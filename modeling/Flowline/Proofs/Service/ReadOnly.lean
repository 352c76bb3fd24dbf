import Flowline.Proofs.Run.Keeps
import Flowline.Proofs.Sql.Log
import Flowline.Proofs.Sql.Statement
import Flowline.Service.Settings

/-!
# Runs only read

Whatever the settings are, whatever a run is told by chat models, by the receivers of its requests
and by the database itself, and whatever of this it fills into its statements: each statement that
reaches the database only reads.
-/

namespace Flowline

-- ---------------------------------------------------------------------------
-- What lies outside
-- ---------------------------------------------------------------------------

def Chat.Provider.beside (provider : Provider σ) : Provider (σ × τ) where
  enter access pair := (provider.enter access pair.1, pair.2)
  answer ask := (provider.answer ask).beside
  stream ask := (provider.stream ask).beside
  leave failing pair := (provider.leave failing pair.1, pair.2)

def Web.Transport.beside (transport : Transport σ) : Transport (σ × τ) where
  send sending := (transport.send sending).beside

namespace Service

/-- All that lies outside, with a log of what the database is asked for. -/
def Outside.logged (outside : Outside σ) : Outside (σ × List Sql.Step) where
  provider := outside.provider.beside
  database := outside.database.logged
  transport := outside.transport.beside

end Service

-- ---------------------------------------------------------------------------
-- Chats and requests
-- ---------------------------------------------------------------------------

variable {P : τ → Prop}

theorem Chat.Provider.keeps_close (provider : Provider σ) {outcome : Outcome (σ × τ) α}
    {Q : α → Prop} (keeps : outcome.Keeps (fun pair => P pair.2) Q) (kept : P pair.2) :
    P (provider.beside.close outcome pair).2.2 ∧
      (provider.beside.close outcome pair).1.Keeps (fun pair => P pair.2) Q := by
  cases outcome with
  | done a => exact ⟨kept, keeps⟩
  | raised fault => exact ⟨kept, trivial⟩
  | waiting cancel => exact ⟨kept, fun pair kept => keeps pair kept⟩

namespace Chat.Client

variable {client : Client} {provider : Provider σ}

theorem keeps_complete (exchange : Exchange) :
    (client.complete (provider.beside : Provider (σ × τ)) exchange).Keeps
      (fun pair => P pair.2) fun _ => True := by
  intro pair kept
  obtain ⟨after, result⟩ := Act.keeps_beside P (provider.answer exchange.ask)
    (provider.beside.enter (client.access exchange.model) pair) kept
  exact provider.keeps_close (result.map fun _ _ => trivial) after

theorem keeps_stream (exchange : Exchange) :
    (client.stream (provider.beside : Provider (σ × τ)) exchange).Keeps
      (fun pair => P pair.2) fun _ => True := by
  intro pair kept
  obtain ⟨after, result⟩ := Telling.keeps_beside P (provider.stream exchange.ask)
    (provider.beside.enter (client.access exchange.model) pair) kept
  exact provider.keeps_close result after

end Chat.Client

theorem Web.Transport.keeps_call (transport : Transport σ) (request : Request) :
    ((transport.beside : Transport (σ × τ)).call request).Keeps
      (fun pair => P pair.2) fun _ => True := by
  refine (Act.keeps_ofExcept fun _ _ => trivial).bind fun sending _ => ?_
  refine (Act.keeps_beside P (transport.send sending)).bind fun answer _ => ?_
  exact (Act.keeps_ofExcept fun _ _ => trivial).bind fun _ _ => Act.keeps_pure _ trivial

-- ---------------------------------------------------------------------------
-- Whole runs
-- ---------------------------------------------------------------------------

namespace Service

variable (settings : Settings) (outside : Outside σ)

theorem Settings.keeps_services :
    (settings.services outside.logged).Keeps fun pair => Sql.Executes Sql.IsSafe pair.2 where
  complete exchange := Chat.Client.keeps_complete exchange
  stream exchange := Chat.Client.keeps_stream exchange
  query statement := by
    have lasts := Sql.lasts_executes Sql.IsSafe
    have trusted : ∀ connection : Sql.Connection (σ × List Sql.Step),
        (∃ plain : Sql.Connection σ, connection = plain.logged) →
        connection.Keeps (fun pair => Sql.Executes Sql.IsSafe pair.2) Sql.IsSafe := by
      rintro _ ⟨plain, rfl⟩
      exact plain.keeps_logged lasts
    refine ((outside.database.keeps_logged lasts).execute trusted settings.executor
      settings.options ?_ statement).bind fun _ _ => Act.keeps_pure _ trivial
    exact fun _ passed => Sql.refusal?_eq_none_iff.mp passed
  send request := outside.transport.keeps_call request

theorem Settings.query_executes {statement : String}
    (opened : settings.executor.open outside.database.logged true
      (outside.database.logged.clock pair).2 = (.done connection, after))
    (inTime : 0 ≤ settings.statementTimeout) (safe : Sql.IsSafe (Text.trim statement)) :
    .execute (Text.trim statement) ∈
      ((settings.services outside.logged).query statement settings.options pair).2.2 := by
  have lasts := Sql.lasts_mem (.execute (Text.trim statement))
  have any : Sql.Lasts (fun _ => True) fun _ => True := fun _ _ _ kept => kept
  have logged := (outside.database.keeps_logged any).opened settings.executor true
    (outside.database.logged.clock pair).2 trivial
  rw [opened] at logged
  obtain ⟨-, plain, rfl⟩ := logged
  have late : settings.options.timeout.isNegative = false := by
    simpa [options, Sql.Seconds.isNegative] using inTime
  have executed := Sql.Executor.execute_of_opened settings.options opened
    (plain.keeps_logged lasts) (fun _ kept => kept) (Sql.refusal?_eq_none_iff.mpr safe) late
    (plain.executes_logged _)
  simp only [services, Act.bind_pure_world]
  exact executed

/-- Every statement that a run executes only reads, and so does every one that is executed when the
run is given up while it waits. Nothing more is held back: a statement that only reads is executed
if the connection opens, unless its limit is over before. -/
theorem Settings.run_reads (graph : Graph) (streaming : Bool) (cancelled : Nat → Bool)
    (world : σ) :
    let services := settings.services outside.logged
    let ran := graph.run services streaming cancelled (world, [])
    (∀ sql, .execute sql ∈ ran.2.2 → Sql.IsSafe sql) ∧
      (∀ cancel, ran.1.outcome = .waiting cancel →
        ∀ sql, .execute sql ∈ (cancel ran.2).2 → Sql.IsSafe sql) ∧
      ∀ statement pair connection after,
        settings.executor.open outside.database.logged true
          (outside.database.logged.clock pair).2 = (.done connection, after) →
        0 ≤ settings.statementTimeout → Sql.IsSafe (Text.trim statement) →
        .execute (Text.trim statement) ∈ (services.query statement services.options pair).2.2 := by
  intro services ran
  have start : Sql.Executes Sql.IsSafe ((world, []) : σ × List Sql.Step).2 := nofun
  obtain ⟨after, result⟩ :=
    (settings.keeps_services outside).run graph streaming cancelled start
  refine ⟨after, fun cancel waits => ?_, fun statement pair connection opened => ?_⟩
  · have given : ran.1.outcome.Keeps _ _ := result
    rw [waits] at given
    exact given ran.2 after
  · exact settings.query_executes outside

/-- A world in which everything is there and nothing has anything to say. -/
def Outside.silent : Outside Unit where
  provider :=
    { enter := fun _ world => world
      answer := fun _ => pure []
      stream := fun _ => Telling.ofAct (pure ())
      leave := fun _ world => world }
  database :=
    { identity := ⟨fun _ => pure (), fun _ => pure ""⟩
      connect := fun _ => pure
        { execute := fun _ => pure ⟨none, [], 0⟩
          fetch := fun _ _ => pure []
          commit := pure ()
          rollback := pure ()
          close := pure () }
      clock := fun world => (0.0, world) }
  transport := ⟨fun _ => pure { status := 200 }⟩

def Settings.located : Settings := { connectionString := "database" }

/-- In such a world a statement is executed without the blanks around it. -/
theorem Settings.run_reads_silent :
    .execute "SELECT 1" ∈ ((located.services Outside.silent.logged).query " SELECT 1 "
      (located.services Outside.silent.logged).options ((), [])).2.2 := by
  have executes :=
    (located.run_reads Outside.silent {} false (fun _ => false) ()).2.2 " SELECT 1 " ((), [])
  have trimmed : Text.trim " SELECT 1 " = "SELECT 1" := by decide +kernel
  have safe : Sql.IsSafe (Text.trim " SELECT 1 ") :=
    Sql.refusal?_eq_none_iff.mp (by decide +kernel)
  have named : located.executor.connectionString.isEmpty = false := by decide +kernel
  have opened : located.executor.open Outside.silent.database.logged true
      (Outside.silent.database.logged.clock ((), [])).2 =
        Outside.silent.database.logged.connect ⟨"database", none, true⟩ ((), []) := by
    simp only [Sql.Executor.open, named, Bool.false_eq_true, if_false]
    rfl
  rw [trimmed] at executes
  exact executes _ _ opened (by decide) (trimmed ▸ safe)

end Service

end Flowline

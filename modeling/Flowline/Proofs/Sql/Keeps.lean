import Flowline.Proofs.Act.Keeps
import Flowline.Sql.Executor

/-!
# Invariants of statements

A connection can be trusted with some statements only: those that it executes without breaking a
property of the world. If all that pass the check are such, then to execute any statement, with any
options, does not break the property, whatever fails on the way. And what a connection brings about
by executing a statement lasts to the end, if a statement that passes the check is executed.
-/

namespace Flowline.Sql

variable {A P : σ → Prop} {May : String → Prop} {connection : Connection σ} {clock : Clock σ}

/-- A connection that keeps `P`, as long as it executes only what it may. -/
structure Connection.Keeps (P : σ → Prop) (May : String → Prop) (connection : Connection σ) :
    Prop where
  execute : ∀ sql, May sql → (connection.execute sql).Keeps P fun _ => True
  fetch : ∀ cursor fetch, (connection.fetch cursor fetch).Keeps P fun _ => True
  commit : connection.commit.Keeps P fun _ => True
  rollback : connection.rollback.Keeps P fun _ => True
  close : connection.close.Keeps P fun _ => True

/-- A database that keeps `P` until it has opened a connection, which then satisfies `Q`. -/
structure Database.Keeps (P : σ → Prop) (Q : Connection σ → Prop) (database : Database σ) :
    Prop where
  assume : ∀ client, (database.identity.assume client).Keeps P fun _ => True
  token : ∀ scope, (database.identity.token scope).Keeps P fun _ => True
  connect : ∀ opening, (database.connect opening).Keeps P Q
  clock : ∀ world, P world → P (database.clock world).2

-- ---------------------------------------------------------------------------
-- Sessions
-- ---------------------------------------------------------------------------

theorem keeps_duration (kept : ∀ world, P world → P (clock world).2) (started : Float) :
    (duration clock started).Keeps P fun _ => True :=
  (Act.keeps_always kept).bind fun _ _ => Act.keeps_ofExcept fun _ _ => trivial

theorem keeps_failure (kept : ∀ world, P world → P (clock world).2) (started : Float)
    (error : String) : (failure clock started error).Keeps P fun _ => True :=
  (keeps_duration kept started).bind fun _ _ => Act.keeps_pure _ trivial

theorem leads_within {act : Act σ α} {Q : α → Prop} (leads : act.Leads A P Q) (limit : Seconds)
    (early : limit.isNegative = true → ∀ world, A world → P world) :
    (within limit act).Leads A P Q := by
  unfold within
  split
  · exact leads
  · split
    · rename_i negative
      exact fun world given => ⟨early negative world given, trivial⟩
    · exact leads.giveUp _

namespace Connection.Keeps

theorem runStatement (keeps : connection.Keeps P May) {sql : String}
    (executes : (connection.execute sql).Leads A P fun _ => True) (fetch : Fetch) :
    (runStatement connection sql fetch).Leads A P fun _ => True := by
  refine executes.bind fun cursor _ => ?_
  split
  · refine (keeps.fetch cursor fetch).bind fun rows _ => ?_
    exact (Act.keeps_ofExcept fun _ _ => trivial).bind fun _ _ => Act.keeps_pure _ trivial
  · exact Act.keeps_pure _ trivial

theorem inTransaction (keeps : connection.Keeps P May) {act : Act σ Result}
    (leads : act.Leads A P fun _ => True) :
    (inTransaction connection act).Leads A P fun _ => True := by
  refine (leads.bind fun result _ => ?_).recover fun fault => ?_
  · exact keeps.commit.bind fun _ _ => Act.keeps_pure _ trivial
  · exact keeps.rollback.bind fun _ _ => Act.keeps_raise fault

end Connection.Keeps

namespace Session

variable {session : Session σ} {options : Options} {sql query : String}

theorem leads_run (keeps : connection.Keeps P May)
    (clock : ∀ world, P world → P (session.clock world).2)
    (executes : (connection.execute sql).Leads A P fun _ => True)
    (early : options.timeout.isNegative = true → ∀ world, A world → P world) (started : Float) :
    (session.run connection sql options started).Leads A P fun _ => True := by
  have statement : (within options.timeout
      (runStatement connection sql options.fetch)).Leads A P fun _ => True :=
    leads_within (keeps.runStatement executes options.fetch) options.timeout early
  have act : (if session.isTransactional options then
      inTransaction connection (within options.timeout (runStatement connection sql options.fetch))
      else within options.timeout (runStatement connection sql options.fetch)).Leads A P
        fun _ => True := by
    split
    · exact keeps.inTransaction statement
    · exact statement
  intro world given
  obtain ⟨after, result⟩ := act world given
  simp only [run]
  split
  · rename_i h
    rw [h] at after
    exact (keeps_duration clock started).bind (fun _ _ => Act.keeps_pure _ trivial) _ after
  · rename_i h
    rw [h] at after
    exact keeps_failure clock started _ _ after
  · rename_i h
    rw [h] at after result
    exact ⟨after, result⟩

theorem keeps_execute (keeps : ∀ connection, session.connection = some connection →
      connection.Keeps P May)
    (clock : ∀ world, P world → P (session.clock world).2)
    (may : ∀ sql, refusal? options.readOnly sql = none → May sql) :
    (session.execute query options).Keeps P fun _ => True := by
  refine (Act.keeps_always clock).bind fun started _ => ?_
  dsimp only
  split
  · exact keeps_failure clock started _
  · exact keeps_failure clock started _
  · rename_i passed connected
    have trusted := keeps _ connected
    exact leads_run trusted clock (trusted.execute _ (may _ passed)) (fun _ _ kept => kept) started

theorem leads_execute (connected : session.connection = some connection)
    (keeps : connection.Keeps P May) (clock : ∀ world, P world → P (session.clock world).2)
    (passed : refusal? options.readOnly (Text.trim query) = none)
    (inTime : options.timeout.isNegative = false)
    (executes : (connection.execute (Text.trim query)).Leads (fun _ => True) P fun _ => True) :
    (session.execute query options).Leads (fun _ => True) P fun _ => True := by
  refine Act.Leads.always_bind (B := fun _ => True) (fun _ _ => trivial) fun started => ?_
  simp only [passed, connected]
  exact leads_run keeps clock executes (fun late => by simp [inTime] at late) started

end Session

-- ---------------------------------------------------------------------------
-- Executors
-- ---------------------------------------------------------------------------

namespace Database.Keeps

variable {database : Database σ} {Q : Connection σ → Prop}

theorem accessToken (keeps : database.Keeps P Q) (client : Option String) :
    (accessToken database.identity client).Keeps P fun _ => True :=
  (keeps.assume _).bind fun _ _ => (keeps.token _).bind fun _ _ =>
    Act.keeps_ofExcept fun _ _ => trivial

theorem opened (keeps : database.Keeps P Q) (executor : Executor) (autocommit : Bool) :
    (executor.open database autocommit).Keeps P Q := by
  unfold Executor.open
  split
  · exact Act.keeps_raise _
  · split
    · have token : (some <$> Sql.accessToken database.identity executor.client).Keeps P
          fun _ => True := (keeps.accessToken executor.client).map fun _ _ => trivial
      exact token.bind fun _ _ => keeps.connect _
    · exact keeps.connect _

theorem execute (keeps : database.Keeps P Q)
    (trusted : ∀ connection, Q connection → connection.Keeps P May) (executor : Executor)
    (options : Options) (may : ∀ sql, refusal? options.readOnly sql = none → May sql)
    (sql : String) : (executor.execute database sql options).Keeps P fun _ => True := by
  refine (Act.keeps_always keeps.clock).bind fun started _ => ?_
  refine ((keeps.opened executor _).bind fun connection open' => ?_).recover fun fault => ?_
  · have kept := trusted connection open'
    refine (Session.keeps_execute ?_ keeps.clock may).ensuring kept.close
    rintro _ ⟨⟩
    exact kept
  · exact keeps_failure keeps.clock started _

end Database.Keeps

theorem Executor.execute_of_opened {executor : Executor} {database : Database σ}
    (options : Options) {sql : String}
    (opened : executor.open database (!options.transaction) (database.clock world).2 =
      (.done connection, after))
    (keeps : connection.Keeps P May) (clock : ∀ world, P world → P (database.clock world).2)
    (passed : refusal? options.readOnly (Text.trim sql) = none)
    (inTime : options.timeout.isNegative = false)
    (executes : (connection.execute (Text.trim sql)).Leads (fun _ => True) P fun _ => True) :
    P (executor.execute database sql options world).2 := by
  have session : (Session.execute ⟨some connection, !options.transaction, database.clock⟩ sql
      options).Leads (fun _ => True) P fun _ => True :=
    Session.leads_execute rfl keeps clock passed inTime executes
  have whole := (session.ensuring keeps.close).recover fun fault =>
    keeps_failure clock (database.clock world).1 fault.text
  have same : executor.execute database sql options world = Act.recover _ _ after :=
    Act.recover_congr (Act.bind_of_done opened)
  rw [same]
  exact (whole after trivial).1

end Flowline.Sql

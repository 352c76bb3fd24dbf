import Flowline.Proofs.Sql.Keeps
import Flowline.Sql.Step

/-!
# Logs of a database

A database that keeps a log of its steps beside the world, where nobody else writes. A step is in
the log as soon as it is asked for, whatever becomes of it.
-/

namespace Flowline.Sql

-- ---------------------------------------------------------------------------
-- Databases beside a ledger
-- ---------------------------------------------------------------------------

def Connection.beside (connection : Connection σ) : Connection (σ × τ) where
  execute sql := (connection.execute sql).beside
  fetch cursor fetch := (connection.fetch cursor fetch).beside
  commit := connection.commit.beside
  rollback := connection.rollback.beside
  close := connection.close.beside

def Identity.beside (identity : Identity σ) : Identity (σ × τ) where
  assume client := (identity.assume client).beside
  token scope := (identity.token scope).beside

def Database.beside (database : Database σ) : Database (σ × τ) where
  identity := database.identity.beside
  connect opening := Connection.beside <$> (database.connect opening).beside
  clock pair := ((database.clock pair.1).1, (database.clock pair.1).2, pair.2)

def noteStep (step : Step) (pair : σ × List Step) : σ × List Step := (pair.1, pair.2 ++ [step])

def Connection.logged (connection : Connection σ) : Connection (σ × List Step) :=
  connection.beside.recorded noteStep

def Database.logged (database : Database σ) : Database (σ × List Step) :=
  database.beside.recorded noteStep

-- ---------------------------------------------------------------------------
-- What the log holds
-- ---------------------------------------------------------------------------

variable {L : List Step → Prop} {May : String → Prop}

theorem keeps_noted {act : Act (σ × List Step) α} {Q : α → Prop} {step : Step}
    (keeps : act.Keeps (fun pair => L pair.2) Q) (grows : ∀ log, L log → L (log ++ [step])) :
    (noted (noteStep step) act).Keeps (fun pair => L pair.2) Q :=
  fun pair kept => keeps _ (grows pair.2 kept)

/-- A property of logs that no step breaks but to execute what may not be. -/
def Lasts (May : String → Prop) (L : List Step → Prop) : Prop :=
  ∀ step, (∀ sql, step = .execute sql → May sql) → ∀ log, L log → L (log ++ [step])

def Executes (May : String → Prop) (log : List Step) : Prop :=
  ∀ sql, .execute sql ∈ log → May sql

theorem lasts_executes (May : String → Prop) : Lasts May (Executes May) := by
  intro step may log executes sql mem
  rcases List.mem_append.mp mem with mem | mem
  · exact executes sql mem
  · exact may sql (List.mem_singleton.mp mem).symm

theorem lasts_mem (step : Step) : Lasts (fun _ => True) (step ∈ ·) :=
  fun _ _ _ mem => List.mem_append_left _ mem

theorem Connection.keeps_logged (connection : Connection σ) (lasts : Lasts May L) :
    (connection.logged : Connection (σ × List Step)).Keeps (fun pair => L pair.2) May where
  execute sql may := by
    refine keeps_noted (Act.keeps_beside _ _) (lasts _ ?_)
    rintro _ ⟨⟩
    exact may
  fetch _ _ := keeps_noted (Act.keeps_beside _ _) (lasts _ nofun)
  commit := keeps_noted (Act.keeps_beside _ _) (lasts _ nofun)
  rollback := keeps_noted (Act.keeps_beside _ _) (lasts _ nofun)
  close := keeps_noted (Act.keeps_beside _ _) (lasts _ nofun)

theorem Database.keeps_logged (database : Database σ) (lasts : Lasts May L) :
    database.logged.Keeps (fun pair => L pair.2)
      fun connection => ∃ plain : Connection σ, connection = plain.logged where
  assume _ := keeps_noted (Act.keeps_beside _ _) (lasts _ nofun)
  token _ := keeps_noted (Act.keeps_beside _ _) (lasts _ nofun)
  connect opening := by
    have opened : (Connection.beside <$> (database.connect opening).beside).Keeps
        (fun pair => L pair.2)
        fun connection : Connection (σ × List Step) =>
          ∃ plain : Connection σ, connection = plain.beside :=
      (Act.keeps_beside _ _).map fun plain _ => ⟨plain, rfl⟩
    refine (keeps_noted opened ?_).bind fun connection logged => ?_
    · exact lasts _ nofun
    · obtain ⟨plain, rfl⟩ := logged
      exact Act.keeps_pure _ ⟨plain, rfl⟩
  clock _ kept := kept

theorem Connection.executes_logged (connection : Connection σ) (sql : String) :
    (connection.logged.execute sql).Leads (fun _ => True)
      (fun pair : σ × List Step => .execute sql ∈ pair.2) fun _ => True := fun pair _ =>
  Act.keeps_beside (.execute sql ∈ ·) (connection.execute sql) (noteStep (.execute sql) pair)
    (List.mem_append_right pair.2 (List.mem_singleton_self _))

end Flowline.Sql

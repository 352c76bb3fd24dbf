import Flowline.Sql.Executor

/-!
# Steps of a database

What a database is asked, as data. A recorded connection or database notes each step before it
takes it.
-/

namespace Flowline.Sql

inductive Step where
  | assume (client : Option String)
  | token (scope : String)
  | connect (opening : Opening)
  | execute (sql : String)
  | fetch (fetch : Fetch)
  | commit
  | rollback
  | close

def noted (note : σ → σ) (act : Act σ α) : Act σ α := fun world => act (note world)

def Connection.recorded (note : Step → σ → σ) (connection : Connection σ) : Connection σ where
  execute sql := noted (note (.execute sql)) (connection.execute sql)
  fetch cursor fetch := noted (note (.fetch fetch)) (connection.fetch cursor fetch)
  commit := noted (note .commit) connection.commit
  rollback := noted (note .rollback) connection.rollback
  close := noted (note .close) connection.close

def Identity.recorded (note : Step → σ → σ) (identity : Identity σ) : Identity σ where
  assume client := noted (note (.assume client)) (identity.assume client)
  token scope := noted (note (.token scope)) (identity.token scope)

def Database.recorded (note : Step → σ → σ) (database : Database σ) : Database σ where
  identity := database.identity.recorded note
  connect opening := do
    let connection ← noted (note (.connect opening)) (database.connect opening)
    return connection.recorded note
  clock := database.clock

end Flowline.Sql

import Flowline.Sql.Credential
import Flowline.Sql.Session

/-!
# Executing statements

An executor opens a connection for each statement and closes it afterwards, whatever happened in
between. Every fault is told in the envelope.
-/

namespace Flowline.Sql

structure Opening where
  connectionString : String
  token : Option (List UInt8)
  autocommit : Bool

structure Database (σ : Type) where
  identity : Identity σ
  connect : Opening → Act σ (Connection σ)
  clock : Clock σ

structure Executor where
  connectionString : String
  usesToken : Bool := false
  client : Option String := none

def Executor.open (executor : Executor) (database : Database σ) (autocommit : Bool) :
    Act σ (Connection σ) :=
  if executor.connectionString.isEmpty then Act.raise .noConnectionString
  else do
    let token ← if executor.usesToken then
        some <$> accessToken database.identity executor.client
      else pure none
    database.connect ⟨executor.connectionString, token, autocommit⟩

def Executor.execute (executor : Executor) (database : Database σ) (sql : String)
    (options : Options) : Act σ Envelope := do
  let started ← Act.always database.clock
  let autocommit := !options.transaction
  Act.recover (do
      let connection ← executor.open database autocommit
      Act.ensuring
        (Session.execute ⟨some connection, autocommit, database.clock⟩ sql options)
        connection.close)
    fun fault => failure database.clock started fault.text

end Flowline.Sql

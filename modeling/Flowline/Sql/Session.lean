import Flowline.Decimal.Double
import Flowline.Sql.Connection
import Flowline.Sql.Envelope
import Flowline.Sql.Statement

/-!
# Sessions

A session runs statements over one connection. A statement that is refused never reaches the
connection. In a transaction a statement is committed when it succeeds and rolled back when
anything fails. Whatever fails is told in the envelope; only a clock whose readings have no finite
difference breaks this rule.
-/

namespace Flowline.Sql

/-- A number of seconds as it is written in the settings. -/
inductive Seconds where
  | whole (n : Int)
  | fraction (x : Float)

namespace Seconds

def text : Seconds → String
  | .whole n => toString n
  | .fraction x => Decimal.text x

def isZero : Seconds → Bool
  | .whole n => n == 0
  | .fraction x => x == 0

def isNegative : Seconds → Bool
  | .whole n => n < 0
  | .fraction x => x < 0

end Seconds

structure Options where
  readOnly : Bool := true
  /-- The most rows of a result; all of them if this is not positive. -/
  maxRows : Int := 1000
  timeout : Seconds := .whole 30
  transaction : Bool := false

def Options.fetch (options : Options) : Fetch :=
  if 0 < options.maxRows then .atMost options.maxRows.toNat else .all

abbrev Clock (σ : Type) := σ → Float × σ

def elapsed (started finished : Float) : Except Fault String :=
  let span := (finished - started) * 1000.0
  match (Double.ofFloat span).toInt .towardZero with
  | some n => .ok (toString n ++ "ms")
  | none => .error (if span == span then .endlessDuration else .unclearDuration)

def duration (clock : Clock σ) (started : Float) : Act σ String := do
  let finished ← Act.always clock
  Act.ofExcept (elapsed started finished)

def failure (clock : Clock σ) (started : Float) (error : String) : Act σ Envelope := do
  return .failure error (← duration clock started)

inductive Result where
  | rows (rows : List Value)
  | changed (count : Int)

def Result.envelope (result : Result) (duration : String) : Envelope :=
  match result with
  | .rows table => .rows table duration
  | .changed count => .changed count duration

def runStatement (connection : Connection σ) (sql : String) (fetch : Fetch) : Act σ Result := do
  let cursor ← connection.execute sql
  if isQuery sql then
    let rows ← connection.fetch cursor fetch
    return .rows (← Act.ofExcept (nameRows (cursor.columns.getD []) rows))
  else return .changed cursor.changed

/-- An act with a limit on its waiting. A limit of zero is none, and a negative one is over before
the act begins. -/
def within (limit : Seconds) (act : Act σ α) : Act σ α :=
  if limit.isZero then act
  else if limit.isNegative then Act.raise (.timedOut "")
  else Act.giveUp (.timedOut "") act

/-- Commits if the statement succeeds, rolls back if it or the commit fails. -/
def inTransaction (connection : Connection σ) (act : Act σ Result) : Act σ Result :=
  Act.recover (do
    let result ← act
    connection.commit
    return result) fun fault => do
      connection.rollback
      Act.raise fault

def failureText (options : Options) : Fault → String
  | .timedOut _ => "Query timed out after " ++ options.timeout.text ++ " seconds"
  | fault => fault.text

structure Session (σ : Type) where
  connection : Option (Connection σ)
  autocommit : Bool
  clock : Clock σ

def Session.isTransactional (session : Session σ) (options : Options) : Bool :=
  options.transaction && !session.autocommit

def Session.run (session : Session σ) (connection : Connection σ) (sql : String)
    (options : Options) (started : Float) : Act σ Envelope := fun world =>
  let statement := within options.timeout (runStatement connection sql options.fetch)
  let act := if session.isTransactional options then inTransaction connection statement
    else statement
  match act world with
  | (.done result, world) =>
    (do return result.envelope (← duration session.clock started) : Act σ Envelope) world
  -- the text names the limit whatever has reported the delay
  | (.raised fault, world) => failure session.clock started (failureText options fault) world
  | (.waiting cancel, world) => (.waiting cancel, world)

def Session.execute (session : Session σ) (query : String) (options : Options) :
    Act σ Envelope := do
  let started ← Act.always session.clock
  let sql := Text.trim query
  match refusal? options.readOnly sql, session.connection with
  | some refusal, _ => failure session.clock started refusal.message
  | none, none =>
    failure session.clock started
      "Database connection not established. Use 'async with' context manager."
  | none, some connection => session.run connection sql options started

end Flowline.Sql

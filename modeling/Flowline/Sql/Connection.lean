import Flowline.Act
import Flowline.Value.Display

/-!
# Connections to a database

What a connection is asked to do, and how its rows become values. A cell can be an object of the
driver, of which only the text is known.
-/

namespace Flowline.Sql

inductive Cell where
  | value (v : Value)
  | object (text : String)
  deriving Inhabited

abbrev Row := List Cell

/-- The result of a statement: columns, if it has a result set, and the count of changed rows. -/
structure Cursor where
  columns : Option (List String)
  rows : List Row
  changed : Int

inductive Fetch where
  | atMost (count : Nat)
  | all
  deriving DecidableEq, Repr

structure Connection (σ : Type) where
  execute : String → Act σ Cursor
  fetch : Cursor → Fetch → Act σ (List Row)
  commit : Act σ Unit
  rollback : Act σ Unit
  close : Act σ Unit

/-- A connection that fetches only rows that are there, in order, and no more than asked for. -/
def Fetch.Allows (fetch : Fetch) (cursor : Cursor) (rows : List Row) : Prop :=
  rows <+: cursor.rows ∧
    match fetch with
    | .atMost count => rows.length ≤ count
    | .all => rows = cursor.rows

def Connection.IsFaithful (connection : Connection σ) : Prop :=
  ∀ cursor fetch world rows world',
    connection.fetch cursor fetch world = (.done rows, world') → fetch.Allows cursor rows

/-- Simple values stay; of any other only the text is kept. -/
def Cell.simplify : Cell → Except Fault Value
  | .object text => .ok (.text text)
  | .value v =>
    match v with
    | .null | .bool _ | .int _ | .float _ | .text _ => .ok v
    | _ => if v.fits then .ok (.text v.display) else .error .integerTooLong

/-- A row by column names, from left to right; of two columns of one name the later counts. -/
def nameCells (named : Fields Value) : List String → Row → Except Fault (Fields Value)
  | [], _ => .ok named
  | _ :: _, [] => .error .missingCell
  | column :: columns, cell :: row => do
    let v ← cell.simplify
    nameCells (named.put column v) columns row

def nameRows (columns : List String) (rows : List Row) : Except Fault (List Value) :=
  rows.mapM fun row => (nameCells [] columns row).map Value.record

end Flowline.Sql

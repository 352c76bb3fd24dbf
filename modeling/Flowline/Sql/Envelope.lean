import Flowline.Value

/-!
# Envelopes

What a database node answers: rows, a count of changed rows, or an error, and in each case how
long it took.
-/

namespace Flowline.Sql

inductive Envelope where
  | rows (rows : List Value) (duration : String)
  | changed (count : Int) (duration : String)
  | failure (error duration : String)

namespace Envelope

def succeeded : Envelope → Bool
  | .failure .. => false
  | _ => true

def toValue : Envelope → Value
  | .rows table duration => .record
    [("success", .bool true), ("rows", .list table), ("error", .null), ("duration", .text duration)]
  | .changed count duration => .record
    [("success", .bool true), ("affectedRows", .int count), ("error", .null),
      ("duration", .text duration)]
  | .failure error duration => .record
    [("success", .bool false), ("error", .text error), ("duration", .text duration)]

end Envelope

end Flowline.Sql

import Flowline.Condition.Syntax
import Flowline.Condition.Token

/-!
# Taking tokens

What the parsers of a condition have in common: tokens are taken off the front of a list, and the
operators stand in levels.
-/

namespace Flowline.Condition.Parser

def eat (s : String) : List Token → Option (List Token)
  | .symbol t :: rest => if t = s then some rest else none
  | _ => none

def eatWord (s : String) : List Token → Option (List Token)
  | .word t :: rest => if t = s then some rest else none
  | _ => none

def sees (s : String) (ts : List Token) : Bool := (eat s ts).isSome

def seesWord (s : String) (ts : List Token) : Bool := (eatWord s ts).isSome

def seesAny (symbols : List String) (ts : List Token) : Bool := symbols.any (sees · ts)

def eatOne (ops : List (String × α)) (ts : List Token) : Option (α × List Token) :=
  ops.findSome? fun (s, op) => (eat s ts).map fun rest => (op, rest)

def levels : List (List (String × BinaryOp)) :=
  [[("|", .bitOr)], [("^", .bitXor)], [("&", .bitAnd)],
   [("<<", .shiftLeft), (">>", .shiftRight)], [("+", .add), ("-", .sub)],
   [("*", .mul), ("/", .div), ("//", .floorDiv), ("%", .mod), ("@", .matMul)]]

def unaryOps : List (String × UnaryOp) := [("+", .plus), ("-", .minus), ("~", .invert)]

def comparison? (ts : List Token) : Option (Comparison × List Token) :=
  match ts with
  | .word "in" :: rest => some (.member, rest)
  | .word "not" :: .word "in" :: rest => some (.notMember, rest)
  | .word "is" :: .word "not" :: rest => some (.notSame, rest)
  | .word "is" :: rest => some (.same, rest)
  | _ => eatOne [("==", .eq), ("!=", .ne), ("<=", .le), ("<", .lt), (">=", .ge), (">", .gt)] ts

end Flowline.Condition.Parser

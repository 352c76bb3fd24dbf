import Flowline.Value

/-!
# Syntax of a condition

The grammar of conditions is that of a whole expression language, of which only a part is
evaluated. A form outside that part is kept as `refused`, with its name and its parts, because it
matters only if evaluation reaches it.
-/

namespace Flowline.Condition

inductive UnaryOp where
  | plus
  | minus
  | invert
  | not
  deriving DecidableEq, Repr

inductive BinaryOp where
  | add
  | sub
  | mul
  | div
  | floorDiv
  | mod
  | pow
  | shiftLeft
  | shiftRight
  | bitAnd
  | bitXor
  | bitOr
  /-- Known to the grammar only. -/
  | matMul
  deriving DecidableEq, Repr

inductive Comparison where
  | eq
  | ne
  | lt
  | le
  | gt
  | ge
  | member
  | notMember
  | same
  | notSame
  deriving DecidableEq, Repr

inductive Term where
  | constant (v : Value)
  | name (id : String)
  | unary (op : UnaryOp) (x : Term)
  | binary (op : BinaryOp) (x y : Term)
  | all (terms : List Term)
  | any (terms : List Term)
  | compare (first : Term) (rest : List (Comparison × Term))
  | choose (test yes no : Term)
  | call (callee : Term) (args : List Term) (named : List (Option String × Term))
  | joined (parts : List Term)
  | field (x : Term) (spec : Option Term)
  | refused (construct : String) (parts : List Term)
  deriving Inhabited

/-- The first statement of a condition; only it is evaluated. -/
inductive Statement where
  | expression (t : Term)
  /-- An assignment has the value it would assign. -/
  | assignment (value : Term)
  | importing
  | refused (construct : String)

namespace Term

mutual
def isTarget : Term → Bool
  | .name _ => true
  | .refused "Attribute" _ => true
  | .refused "Subscript" _ => true
  | .refused "Starred" parts => areTargets parts
  | .refused "Tuple" parts => areTargets parts
  | .refused "List" parts => areTargets parts
  | _ => false
def areTargets : List Term → Bool
  | [] => true
  | t :: rest => t.isTarget && areTargets rest
end

mutual
def isRemovable : Term → Bool
  | .name _ => true
  | .refused "Attribute" _ => true
  | .refused "Subscript" _ => true
  | .refused "Tuple" parts => areRemovable parts
  | .refused "List" parts => areRemovable parts
  | _ => false
def areRemovable : List Term → Bool
  | [] => true
  | t :: rest => t.isRemovable && areRemovable rest
end

def isSingleTarget : Term → Bool
  | .name _ => true
  | .refused "Attribute" _ => true
  | .refused "Subscript" _ => true
  | _ => false

def isStarred : Term → Bool
  | .refused "Starred" _ => true
  | _ => false

def isNamed : Term → Bool
  | .refused "NamedExpr" _ => true
  | _ => false

end Term

end Flowline.Condition

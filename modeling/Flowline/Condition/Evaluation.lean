import Flowline.Condition.Format.Expansion
import Flowline.Condition.Function
import Flowline.Condition.Parser.Program
import Flowline.Condition.Spelling

/-!
# Evaluation of a condition

`evaluate` normalises the spelling of a condition, reads it, and computes the value of its first
statement. A word that is no literal stands for its own text. Operands are computed from left to
right; a connective stops at the operand that decides it, and a chain of comparisons at the first
that fails.
-/

namespace Flowline.Condition

namespace Term

def isName : Term → Bool
  | .name _ => true
  | _ => false

def checkLength (v : Value) : Except Refusal Value :=
  match Operation.length? v with
  | some n => if maxLength < n then .error (.literalTooLong n) else .ok v
  | none => .ok v

def plainText (v : Value) : Except Refusal String :=
  if v.fits then .ok v.display else Operation.fail .value

/-- Compares two results; equal words are the same thing. -/
def compareResults (op : Comparison) (words : Bool) (a b : Value) : Except Refusal Bool :=
  match op, words && Operation.equal a b with
  | .same, true => .ok true
  | .notSame, true => .ok false
  | op, _ => Operation.compare op a b

mutual
/-- The value of a term; `source` is the text that error messages show. -/
def evaluate (source : String) : Term → Except Error Value
  | .constant v => refusing (checkLength v)
  | .name id => .ok (.text id)
  | .unary op x => do refusing (Operation.unary op (← evaluate source x))
  | .binary .matMul _ _ => .error (.refused (.unknownOperator "MatMult" source))
  | .binary op x y => do
    let a ← evaluate source x
    let b ← evaluate source y
    refusing (Operation.binary op a b)
  | .all terms => evaluateAll source terms
  | .any terms => evaluateAny source terms
  | .compare first rest => do
    evaluateChain source first.isName (← evaluate source first) rest
  | .choose test yes no => do
    let decision ← evaluate source test
    if decision.truthy then evaluate source yes else evaluate source no
  | .call (.name id) args named =>
    match Function.ofName? id with
    -- the name is looked up before the arguments are evaluated
    | none => .error (.refused (.unknownFunction id source))
    | some f => do
      let args ← evaluateArgs source args
      let named ← evaluateNamed source named
      if named.any (·.1.isNone) then refusing (Operation.fail .type)
      else refusing (f.apply args (named.map fun entry => (entry.1.getD "", entry.2)))
  | .call (.refused "Attribute" _) _ _ => .error (.refused (.unavailable "Attribute"))
  | .call _ _ _ => .error (.refused .notCallable)
  | .joined parts => do
    let texts ← evaluateParts source parts
    return .text (String.join texts)
  | .field x none => evaluate source x
  | .field x (some spec) => do
    -- the format is evaluated before the value it is for
    let format ← evaluate source spec
    let v ← evaluate source x
    match format with
    | .text format => (Format.field format v).map .text
    | _ => refusing (Operation.fail .type)
  | .refused construct _ => .error (.refused (.unavailable construct))
def evaluateAll (source : String) : List Term → Except Error Value
  | [] => .ok .null
  | [t] => evaluate source t
  | t :: rest => do
    let v ← evaluate source t
    if v.truthy then evaluateAll source rest else return v
def evaluateAny (source : String) : List Term → Except Error Value
  | [] => .ok .null
  | [t] => evaluate source t
  | t :: rest => do
    let v ← evaluate source t
    if v.truthy then return v else evaluateAny source rest
def evaluateChain (source : String) (word : Bool) (left : Value) :
    List (Comparison × Term) → Except Error Value
  | [] => .ok (.bool true)
  | (op, t) :: rest => do
    let right ← evaluate source t
    if ← refusing (compareResults op (word && t.isName) left right) then
      evaluateChain source t.isName right rest
    else return .bool false
def evaluateArgs (source : String) : List Term → Except Error (List Value)
  | [] => .ok []
  | t :: rest => do
    let v ← evaluate source t
    return v :: (← evaluateArgs source rest)
def evaluateNamed (source : String) :
    List (Option String × Term) → Except Error (List (Option String × Value))
  | [] => .ok []
  | (parameter, t) :: rest => do
    let v ← evaluate source t
    return (parameter, v) :: (← evaluateNamed source rest)
def evaluateParts (source : String) : List Term → Except Error (List String)
  | [] => .ok []
  | t :: rest => do
    let text ← refusing (plainText (← evaluate source t))
    if maxLength < text.length then throw (.refused .fieldTooLong)
    return text :: (← evaluateParts source rest)
end

end Term

def Statement.evaluate (source : String) : Statement → Except Error Value
  | .expression t | .assignment t => t.evaluate source
  | .importing => .error (.refused .importing)
  | .refused construct => .error (.refused (.unavailable construct))

def readable (condition : String) : String :=
  Text.trim (Spelling.normalize (Text.trim condition))

/-- The value of a condition. -/
def evaluate (condition : String) : Except Error Value :=
  if Text.isBlankText condition then .error (.refused .empty)
  else
    let source := readable condition
    if source.toList.contains '\x00' || !Text.isWellFormed source then
      .error (.refused (.failed .value))
    else match Statement.ofChars source.toList with
      | none => .error (.refused .malformed)
      | some [] => .error (.refused .nothing)
      | some (first :: _) => first.evaluate source

end Flowline.Condition

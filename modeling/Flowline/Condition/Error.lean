import Flowline.Value.Display

/-!
# Why a condition has no value

A condition is refused for its form, for a limit, or because an operation fails on its operands.
The message of a refusal is fixed text; of a failed operation only the cause is kept.

A format can do more harm: a field in it that asks for a value that is not given is no refusal of
the condition.
-/

namespace Flowline.Condition

/-- Why an operation fails on its operands. -/
inductive Cause where
  | zeroDivision
  | overflow
  | type
  | value
  deriving DecidableEq, Repr

inductive Refusal where
  | empty
  | malformed
  /-- There is no statement, only comments. -/
  | nothing
  | unavailable (construct : String)
  | importing
  | unknownOperator (construct source : String)
  | unknownFunction (name source : String)
  | notCallable
  | operandTooLarge (left symbol right : String)
  | literalTooLong (length : Nat)
  | productTooLong
  | sumTooLong
  | fieldTooLong
  | failed (cause : Cause)
  deriving DecidableEq, Repr

/-- What a field asks for although it is not given. -/
inductive Lookup where
  | name (key : String)
  | position (index : Nat)
  deriving DecidableEq, Repr

inductive Error where
  | refused (refusal : Refusal)
  | lookup (missing : Lookup)
  deriving DecidableEq, Repr

instance : Coe Refusal Error := ⟨.refused⟩

def maxLength : Nat := 100000

namespace Refusal

def message : Refusal → String
  | .empty => "Expression is empty"
  | .malformed => "Syntax error in expression"
  | .nothing => "Sorry, cannot evaluate empty string"
  | .unavailable construct => "Sorry, " ++ construct ++ " is not available in this evaluator"
  | .importing => "Sorry, 'import' is not allowed."
  | .unknownOperator construct source =>
    "Operator '<ast." ++ construct ++ ">' does not exist in expression '" ++ source ++ "'"
  | .unknownFunction name source =>
    "Function '" ++ name ++ "' not defined, for expression '" ++ source ++ "'."
  | .notCallable => "Lambda Functions not implemented"
  | .operandTooLarge left symbol right =>
    "Sorry! I don't want to evaluate " ++ left ++ " " ++ symbol ++ " " ++ right
  | .literalTooLong length =>
    "Literal in statement is too long! (" ++ toString length ++ ", when " ++ toString maxLength
      ++ " is max)"
  | .productTooLong => "Sorry, I will not evaluate something that long."
  | .sumTooLong => "Sorry, adding those two together would make something too long."
  | .fieldTooLong => "Sorry, I will not evaluate something this long."
  | .failed _ => "Expression evaluation failed"

end Refusal

namespace Lookup

def kind : Lookup → String
  | .name _ => "KeyError"
  | .position _ => "IndexError"

def message : Lookup → String
  | .name key => Text.quoted key
  | .position index =>
    "Replacement index " ++ toString index ++ " out of range for positional args tuple"

end Lookup

namespace Error

def message : Error → String
  | .refused refusal => refusal.message
  | .lookup missing => missing.message

def cause? : Error → Option Cause
  | .refused (.failed cause) => some cause
  | _ => none

end Error

def error? : Except ε α → Option ε
  | .error e => some e
  | .ok _ => none

theorem eq_error_of_error? {r : Except ε α} (failed : error? r = some e) : r = .error e := by
  cases r with
  | error d => rw [Option.some.inj failed]
  | ok a => cases failed

/-- A result without which a condition is refused. -/
def refusing : Except Refusal α → Except Error α
  | .ok a => .ok a
  | .error refusal => .error (.refused refusal)

@[simp] theorem refusing_ok (a : α) : refusing (.ok a) = .ok a := rfl

@[simp] theorem refusing_error (refusal : Refusal) :
    refusing (.error refusal : Except Refusal α) = .error (.refused refusal) := rfl

end Flowline.Condition

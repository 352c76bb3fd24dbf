import Flowline.Fault
import Flowline.Value

/-!
# Problems of a submission

A submission that has not the expected form is refused with all its problems, each at its place, in
the order of the fields. Some kinds of data end the reading at once instead: they are faults of the
reader, not problems of the submission.
-/

namespace Flowline

inductive PlaceStep where
  | key (name : String)
  | index (n : Nat)
  deriving DecidableEq, Repr

inductive ProblemCause where
  | missing
  | notText
  | notList
  | notRecord
  | notObject
  /-- An object was expected, or something with the same parts. -/
  | noParts
  | noTag
  | unknownTag
  | refused (message : String)
  | notInteger
  | notNumber
  | notTruth
  | malformedJson
  deriving DecidableEq, Repr

def ProblemCause.word : ProblemCause → String
  | missing => "missing"
  | notText => "string_type"
  | notList => "list_type"
  | notRecord => "dict_type"
  | notObject => "model_type"
  | noParts => "model_attributes_type"
  | noTag => "union_tag_not_found"
  | unknownTag => "union_tag_invalid"
  | refused _ => "value_error"
  | notInteger => "int_parsing"
  | notNumber => "float_parsing"
  | notTruth => "bool_parsing"
  | malformedJson => "json_invalid"

structure Problem where
  place : List PlaceStep
  cause : ProblemCause
  /-- What was found there; of a missing field, the record that lacks it. -/
  found : Value

def Problem.message? (problem : Problem) : Option String :=
  match problem.cause with
  | .refused message => some ("Value error, " ++ message)
  | _ => none

def Problem.under (step : PlaceStep) (problem : Problem) : Problem :=
  { problem with place := step :: problem.place }

inductive Loaded (α : Type) where
  | accepted (a : α)
  | rejected (problems : List Problem)
  | broken (why : Breakage)

namespace Loaded

def problem (cause : ProblemCause) (found : Value) : Loaded α := .rejected [⟨[], cause, found⟩]

def map (f : α → β) : Loaded α → Loaded β
  | .accepted a => .accepted (f a)
  | .rejected problems => .rejected problems
  | .broken why => .broken why

/-- Reads two parts one after the other and collects the problems of both. -/
def apply (f : Loaded (α → β)) (part : Unit → Loaded α) : Loaded β :=
  match f with
  | .broken why => .broken why
  | .accepted f => (part ()).map f
  | .rejected problems =>
    match part () with
    | .broken why => .broken why
    | .accepted _ => .rejected problems
    | .rejected more => .rejected (problems ++ more)

instance : Functor Loaded where
  map := map

instance : Applicative Loaded where
  pure := .accepted
  seq := apply

def andThen (part : Loaded α) (next : α → Loaded β) : Loaded β :=
  match part with
  | .accepted a => next a
  | .rejected problems => .rejected problems
  | .broken why => .broken why

/-- The problems of a part, seen from the whole. -/
def under (step : PlaceStep) : Loaded α → Loaded α
  | .rejected problems => .rejected (problems.map (Problem.under step))
  | other => other

def items (read : α → Loaded β) (start : Nat) : List α → Loaded (List β)
  | [] => .accepted []
  | x :: rest => List.cons <$> (read x).under (.index start) <*> items read (start + 1) rest

end Loaded

end Flowline

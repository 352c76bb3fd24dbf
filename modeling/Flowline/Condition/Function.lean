import Flowline.Condition.Operation
import Flowline.Text.Case

/-!
# Functions of a condition

A dozen functions on values. Arguments have been evaluated before a function sees them; a wrong
number of arguments, or one of the wrong kind, is a type error.
-/

namespace Flowline.Condition

inductive Function where
  | abs
  | min
  | max
  | round
  | sqrt
  | pow
  | floor
  | ceiling
  | len
  | lower
  | upper
  | iif
  deriving DecidableEq, Repr

namespace Function

def ofName? (name : String) : Option Function :=
  match name with
  | "abs" => some .abs
  | "min" => some .min
  | "max" => some .max
  | "round" => some .round
  | "sqrt" => some .sqrt
  | "pow" => some .pow
  | "floor" => some .floor
  | "ceiling" => some .ceiling
  | "len" => some .len
  | "lower" => some .lower
  | "upper" => some .upper
  | "iif" => some .iif
  | _ => none

open Operation (fail lift)

/-- The first element that no later one is `before`. -/
def extreme (before : Ordering → Bool) : Value → List Value → Except Refusal Value
  | best, [] => .ok best
  | best, v :: rest => do
    if ← Operation.ordered before v best then extreme before v rest else extreme before best rest

def elements? : Value → Option (List Value)
  | .text s => some (s.toList.map fun c => .text (String.ofList [c]))
  | .bytes octets => some (octets.map fun o => .int o.toNat)
  | .list items => some items
  | .record fields => some (fields.map fun entry => .text entry.1)
  | _ => none

def extremeOf (before : Ordering → Bool) (default? : Option Value) : List Value →
    Except Refusal Value
  | [] => fail .type
  | [only] =>
    match elements? only with
    | some (v :: rest) => extreme before v rest
    | some [] => match default? with
      | some v => .ok v
      | none => fail .value
    | none => fail .type
  | v :: rest => if default?.isSome then fail .type else extreme before v rest

def notIntegral (x : Float) : Cause := if Number.isNaN x then .value else .overflow

def toInt (direction : Double.Rounding) (x : Float) : Except Refusal Value :=
  match (Double.ofFloat x).toInt direction with
  | some n => .ok (.int n)
  | none => fail (notIntegral x)

/-- An integer rounded to a multiple of a power of ten, a half to the even multiple. -/
def roundInt (n : Int) (places : Int) : Int :=
  if 0 ≤ places then n
  else if ((Nat.log2 n.natAbs + 2 : Nat) : Int) < -places then 0
  else
    let unit := Nat.pow 10 (-places).toNat
    Double.signed (n < 0) (Double.roundQuotient n.natAbs unit * unit)

def rounded (v : Value) (places : Value) : Except Refusal Value :=
  match Number.ofValue? v with
  | some (.int n) =>
    match places, Operation.integer? places with
    | .null, _ => .ok (.int n)
    | _, some p => .ok (.int (roundInt n p))
    | _, none => fail .type
  | some (.float x) =>
    match places, Operation.integer? places with
    | .null, _ => toInt .halfEven x
    | _, some p =>
      match Decimal.roundPlaces x p with
      | some y => .ok (.float y)
      | none => fail .overflow
    | _, none => fail .type
  | _ => fail .type

def squareRoot (v : Value) : Except Refusal Value := do
  let x ← lift (Format.toFloat v)
  if x < 0 then fail .value else return .float (Float.sqrt x)

def realPower (a b : Value) : Except Refusal Value := do
  let x ← lift (Format.toFloat a)
  let y ← lift (Format.toFloat b)
  if x == 0 && y < 0 && !Number.isInfinite y then fail .value
  else if x < 0 && !Number.isInfinite x && !Number.isInfinite y && !Number.isNaN y
      && !Number.isWhole y then fail .value
  else if x == 0 && y < 0 then return .float (Double.infinity false)
  else lift ((Number.floatPow x y).map Number.toValue)

def whole (direction : Double.Rounding) (v : Value) : Except Refusal Value :=
  match Number.ofValue? v with
  | some (.int n) => .ok (.int n)
  | some (.float x) => toInt direction x
  | _ => fail .type

def letters (change : String → String) (v : Value) : Except Refusal Value :=
  if v.fits then .ok (.text (change v.display)) else fail .value

def parameters : Function → List String
  | .round => ["number", "ndigits"]
  | .lower | .upper => ["value"]
  | .iif => ["condition", "when_true", "when_false"]
  | _ => []

/-- Arguments given by place and by name, in the order of the parameters; nothing if one is given
twice, has an unknown name, or leaves a gap before another. -/
def arrange (names : List String) (args : List Value) (named : Fields Value) :
    Option (List Value) :=
  let later := names.drop args.length
  let given := later.filterMap (Fields.find? named)
  if given.length = named.length && (later.take given.length).all (Fields.contains named) then
    some (args ++ given)
  else none

def applyPositional (f : Function) (args : List Value) : Except Refusal Value :=
  match f, args with
  | .abs, [v] =>
    match Number.ofValue? v with
    | some x => .ok x.abs.toValue
    | none => fail .type
  | .min, args => extremeOf (·.isLT) none args
  | .max, args => extremeOf (·.isGT) none args
  | .round, [v] => rounded v .null
  | .round, [v, places] => rounded v places
  | .sqrt, [v] => squareRoot v
  | .pow, [a, b] => realPower a b
  | .floor, [v] => whole .down v
  | .ceiling, [v] => whole .up v
  | .len, [v] =>
    match Operation.length? v with
    | some n => .ok (.int n)
    | none => fail .type
  | .lower, [v] => letters Text.lower v
  | .upper, [v] => letters Text.upper v
  | .iif, [test, yes, no] => .ok (if test.truthy then yes else no)
  | _, _ => fail .type

def apply (f : Function) (args : List Value) (named : Fields Value) : Except Refusal Value :=
  match f, named with
  | _, [] => applyPositional f args
  | .min, [("default", v)] => extremeOf (·.isLT) (some v) args
  | .max, [("default", v)] => extremeOf (·.isGT) (some v) args
  | _, _ =>
    match arrange f.parameters args named with
    | some args => applyPositional f args
    | none => fail .type

end Function

end Flowline.Condition

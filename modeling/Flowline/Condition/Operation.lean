import Flowline.Condition.Format.Mark
import Flowline.Condition.Syntax
import Flowline.Text.Part

/-!
# Operations of a condition

What the operators do with values. Texts can be joined, repeated and formatted, within
`maxLength`; the operands of powers and shifts have limits of their own. All else is arithmetic.
-/

namespace Flowline.Condition

namespace Operation

def maxPower : Nat := 4000000

def maxShift : Nat := 10000

/-- The largest finite double as an integer: the bound on a number to shift. -/
def maxShifted : Nat := (Nat.pow 2 53 - 1) * Nat.pow 2 971

def fail (cause : Cause) : Except Refusal α := .error (.failed cause)

def lift : Except Cause α → Except Refusal α
  | .ok a => .ok a
  | .error cause => fail cause

def numeric (op : Number → Number → Except Cause Number) (a b : Value) : Except Refusal Value :=
  match Number.ofValue? a, Number.ofValue? b with
  | some a, some b => lift ((op a b).map Number.toValue)
  | _, _ => fail .type

def integer? : Value → Option Int
  | .bool b => some (if b then 1 else 0)
  | .int n => some n
  | _ => none

def length? : Value → Option Nat
  | .text s => some s.length
  | .bytes octets => some octets.length
  | .list items => some items.length
  | .record fields => some fields.length
  | _ => none

def exceeds (x : Number) (limit : Nat) : Except Cause Bool := do
  match ← (Number.order x (.int limit)) with
  | some .gt => return true
  | _ => return false

def isOver (limit : Nat) (v : Value) : Except Refusal Bool :=
  match Number.ofValue? v with
  | some x => lift (exceeds x.abs limit)
  | none => fail .type

def tooLarge (symbol : String) (a b : Value) : Except Refusal α :=
  if a.fits && b.fits then .error (.operandTooLarge a.display symbol b.display) else fail .value

def add (a b : Value) : Except Refusal Value := do
  -- the limit is checked before the kinds are, also for two texts that cannot be added
  if let some m := length? a then
    if let some n := length? b then
      if maxLength < m + n then throw .sumTooLong
  match a, b with
  | .text s, .text t => return .text (s ++ t)
  | .bytes s, .bytes t => return .bytes (s ++ t)
  | _, _ => numeric Number.add a b

def isTooMany (times : Value) (n : Nat) : Except Refusal Bool :=
  match Number.ofValue? times with
  | some (.int m) => .ok (decide ((maxLength : Int) < m * n))
  | some x => lift (do exceeds (← x.mul (.int n)) maxLength)
  | none => fail .type

/-- Elements repeated; a count that no memory could hold overflows even if nothing is repeated. -/
def repeated (times : Value) (build : Nat → Value) : Except Refusal Value :=
  match integer? times with
  | some n => if n < -Int.pow 2 63 ∨ Int.pow 2 63 ≤ n then fail .overflow else .ok (build n.toNat)
  | none => fail .type

def repeatText (s : String) (n : Nat) : Value :=
  .text (if s.isEmpty then s else String.join (List.replicate n s))

def repeatBytes (octets : List UInt8) (n : Nat) : Value :=
  .bytes (if octets.isEmpty then octets else (List.replicate n octets).flatten)

def mul (a b : Value) : Except Refusal Value := do
  if let some n := length? a then
    if ← isTooMany b n then throw .productTooLong
  if let some n := length? b then
    if ← isTooMany a n then throw .productTooLong
  match a, b with
  | .text s, times | times, .text s => repeated times (repeatText s)
  | .bytes octets, times | times, .bytes octets => repeated times (repeatBytes octets)
  | _, _ => numeric Number.mul a b

def mod (a b : Value) : Except Refusal Value :=
  match a with
  | .text s => lift ((Format.percent s b).map .text)
  | .bytes octets => lift ((Format.percentOctets octets b).map .bytes)
  | _ => numeric Number.mod a b

def pow (a b : Value) : Except Refusal Value := do
  if ← isOver maxPower a then tooLarge "**" a b
  if ← isOver maxPower b then tooLarge "**" a b
  numeric Number.pow a b

def shift (symbol : String) (op : Int → Nat → Int) (a b : Value) : Except Refusal Value := do
  if ← isOver maxShift b then tooLarge symbol a b
  if ← isOver maxShifted a then tooLarge symbol a b
  match integer? a, integer? b with
  | some m, some n => if n < 0 then fail .value else return .int (op m n.toNat)
  | _, _ => fail .type

def flip (n : Int) : Int := -n - 1

/-- The common bits of two integers, each an endless row of bits: a negative number is the
complement of one that is not. -/
def bitAnd (m n : Int) : Int :=
  match decide (m < 0), decide (n < 0) with
  | false, false => (m.toNat &&& n.toNat : Nat)
  | true, false => (n.toNat ^^^ (n.toNat &&& (flip m).toNat) : Nat)
  | false, true => (m.toNat ^^^ (m.toNat &&& (flip n).toNat) : Nat)
  | true, true => flip ((flip m).toNat ||| (flip n).toNat : Nat)

def bitOr (m n : Int) : Int := flip (bitAnd (flip m) (flip n))

def bitXor (m n : Int) : Int := bitAnd (bitOr m n) (flip (bitAnd m n))

def bitwise (onBools : Bool → Bool → Bool) (onInts : Int → Int → Int) (a b : Value) :
    Except Refusal Value :=
  match a, b with
  | .bool p, .bool q => .ok (.bool (onBools p q))
  | _, _ =>
    match integer? a, integer? b with
    | some m, some n => .ok (.int (onInts m n))
    | _, _ => fail .type

def binary (op : BinaryOp) (a b : Value) : Except Refusal Value :=
  match op with
  | .add => add a b
  | .sub => numeric Number.sub a b
  | .mul => mul a b
  | .div => numeric Number.div a b
  | .floorDiv => numeric Number.floorDiv a b
  | .mod => mod a b
  | .pow => pow a b
  | .shiftLeft => shift "<<" (fun m n => m * Int.pow 2 n) a b
  | .shiftRight => shift ">>" (fun m n => Int.fdiv m (Int.pow 2 n)) a b
  | .bitAnd => bitwise Bool.and bitAnd a b
  | .bitXor => bitwise Bool.xor bitXor a b
  | .bitOr => bitwise Bool.or bitOr a b
  | .matMul => fail .type

def unary (op : UnaryOp) (v : Value) : Except Refusal Value :=
  match op with
  | .not => .ok (.bool !v.truthy)
  | .invert =>
    match integer? v with
    | some n => .ok (.int (flip n))
    | none => fail .type
  | .plus =>
    match Number.ofValue? v with
    | some x => .ok x.toValue
    | none => fail .type
  | .minus =>
    match Number.ofValue? v with
    | some x => .ok x.neg.toValue
    | none => fail .type

/-! ## Comparisons -/

mutual
def equal (a b : Value) : Bool :=
  match a, b with
  | .null, .null | .ellipsis, .ellipsis => true
  | .text s, .text t => s == t
  | .bytes s, .bytes t => s == t
  | .list xs, .list ys => equalItems xs ys
  | .record xs, .record ys => xs.length == ys.length && equalFields xs ys
  | _, _ =>
    match Number.ofValue? a, Number.ofValue? b with
    | some x, some y => x.equal y
    | _, _ => false
def equalItems : List Value → List Value → Bool
  | [], [] => true
  | x :: xs, y :: ys => equal x y && equalItems xs ys
  | _, _ => false
def equalFields : List (String × Value) → List (String × Value) → Bool
  | [], _ => true
  | (key, x) :: xs, ys =>
    (match Fields.find? ys key with
      | some y => equal x y
      | none => false) && equalFields xs ys
end

def compareText (s t : String) : Ordering :=
  compareLex s.toList t.toList
where
  compareLex : List Char → List Char → Ordering
    | [], [] => .eq
    | [], _ => .lt
    | _, [] => .gt
    | c :: cs, d :: ds =>
      (Ord.compare (Text.codePoint c) (Text.codePoint d)).then (compareLex cs ds)

def compareOctets : List UInt8 → List UInt8 → Ordering
  | [], [] => .eq
  | [], _ => .lt
  | _, [] => .gt
  | c :: cs, d :: ds => (Ord.compare c.toNat d.toNat).then (compareOctets cs ds)

def ordered (holds : Ordering → Bool) (a b : Value) : Except Refusal Bool :=
  match a, b with
  | .text s, .text t => .ok (holds (compareText s t))
  | .bytes s, .bytes t => .ok (holds (compareOctets s t))
  | _, _ =>
    match Number.ofValue? a, Number.ofValue? b with
    | some x, some y => lift ((Number.order x y).map fun o => (o.map holds).getD false)
    | _, _ => fail .type

def holds (a b : Value) : Except Refusal Bool :=
  match b, a with
  | .text t, .text s => .ok (Text.isInside s.toList t.toList)
  | .bytes t, .bytes s => .ok (Text.isInside s t)
  | .bytes t, v =>
    match integer? v with
    | some n => if 0 ≤ n ∧ n < 256 then .ok (t.contains (UInt8.ofNat n.toNat)) else fail .value
    | none => fail .type
  | _, _ => fail .type

/-- Two results are the same thing when there is only one of their kind: null, the truth values,
the ellipsis, the integers from −5 to 256, and texts and byte strings of at most one character. -/
def same : Value → Value → Bool
  | .null, .null | .ellipsis, .ellipsis => true
  | .bool a, .bool b => a == b
  | .int a, .int b => a == b && -5 ≤ a && a ≤ 256
  | .text s, .text t => s == t && s.length ≤ 1 && s.toList.all (·.toNat < 256)
  | .bytes s, .bytes t => s == t && s.length ≤ 1
  | _, _ => false

def compare (op : Comparison) (a b : Value) : Except Refusal Bool :=
  match op with
  | .eq => .ok (equal a b)
  | .ne => .ok !equal a b
  | .lt => ordered (·.isLT) a b
  | .le => ordered (·.isLE) a b
  | .gt => ordered (·.isGT) a b
  | .ge => ordered (·.isGE) a b
  | .member => holds a b
  | .notMember => (holds a b).map (!·)
  | .same => .ok (same a b)
  | .notSame => .ok !same a b

end Operation

end Flowline.Condition

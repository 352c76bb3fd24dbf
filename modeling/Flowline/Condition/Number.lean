import Flowline.Condition.Error
import Flowline.Decimal.Fixed
import Flowline.Value

/-!
# Numbers of a condition

Integers are exact, and an operation of an integer and a double first rounds the integer to a
double, except for comparisons, which compare exact values. Division and remainder go toward the
floor. A truth value counts as zero or one.
-/

namespace Flowline.Condition

inductive Number where
  | int (n : Int)
  | float (x : Float)
  | complex (re im : Float)

namespace Number

def ofValue? : Value → Option Number
  | .bool b => some (.int (if b then 1 else 0))
  | .int n => some (.int n)
  | .float x => some (.float x)
  | .complex re im => some (.complex re im)
  | _ => none

def toValue : Number → Value
  | .int n => .int n
  | .float x => .float x
  | .complex re im => .complex re im

def widen (n : Int) : Except Cause Float :=
  match Double.ofInt n with
  | some x => .ok x
  | none => .error .overflow

def isNegative (x : Float) : Bool := x.toBits.toNat / Nat.pow 2 63 == 1

def zeroLike (x : Float) : Float := if isNegative x then -0.0 else 0.0

def isNaN (x : Float) : Bool := !(x == x)

def isInfinite (x : Float) : Bool := x == Double.infinity false || x == Double.infinity true

def isWhole (x : Float) : Bool := x.floor == x

/-- Both operands on the level of the higher one. -/
inductive Pair where
  | ints (a b : Int)
  | floats (x y : Float)
  | complexes (re im re₂ im₂ : Float)

def pair (a b : Number) : Except Cause Pair :=
  match a, b with
  | .int m, .int n => .ok (.ints m n)
  | .int m, .float y => do return .floats (← widen m) y
  | .float x, .int n => do return .floats x (← widen n)
  | .float x, .float y => .ok (.floats x y)
  | .complex re im, .int n => do return .complexes re im (← widen n) 0
  | .int m, .complex re im => do return .complexes (← widen m) 0 re im
  | .complex re im, .float y => .ok (.complexes re im y 0)
  | .float x, .complex re im => .ok (.complexes x 0 re im)
  | .complex a b, .complex c d => .ok (.complexes a b c d)

def add (a b : Number) : Except Cause Number := do
  match ← pair a b with
  | .ints m n => return .int (m + n)
  | .floats x y => return .float (x + y)
  | .complexes a b c d => return .complex (a + c) (b + d)

def sub (a b : Number) : Except Cause Number := do
  match ← pair a b with
  | .ints m n => return .int (m - n)
  | .floats x y => return .float (x - y)
  | .complexes a b c d => return .complex (a - c) (b - d)

def mul (a b : Number) : Except Cause Number := do
  match ← pair a b with
  | .ints m n => return .int (m * n)
  | .floats x y => return .float (x * y)
  | .complexes a b c d => return .complex (a * c - b * d) (a * d + b * c)

def complexQuotient (a b c d : Float) : Except Cause Number :=
  if c.abs ≥ d.abs then
    if c == 0 then .error .zeroDivision
    else
      let ratio := d / c
      let den := c + d * ratio
      .ok (.complex ((a + b * ratio) / den) ((b - a * ratio) / den))
  else if d.abs ≥ c.abs then
    let ratio := c / d
    let den := c * ratio + d
    .ok (.complex ((a * ratio + b) / den) ((b * ratio - a) / den))
  else .ok (.complex Double.notANumber Double.notANumber)

def div (a b : Number) : Except Cause Number := do
  match ← pair a b with
  | .ints m n =>
    if n = 0 then throw .zeroDivision
    match Double.nearest (decide (m < 0) != decide (n < 0)) m.natAbs n.natAbs with
    | some x => return .float x
    | none => throw .overflow
  | .floats x y => if y == 0 then throw .zeroDivision else return .float (x / y)
  | .complexes a b c d => complexQuotient a b c d

def truncatedMod (x y : Float) : Float :=
  if isNaN x || isNaN y || isInfinite x then Double.notANumber
  else if isInfinite y then x
  else (Double.remainder (Double.ofFloat x) (Double.ofFloat y)).getD Double.notANumber

/-- The floored quotient and the remainder with the sign of the divisor. -/
def floorDivMod (x y : Float) : Float × Float :=
  let rem := truncatedMod x y
  -- the division is nearly exact, because the remainder has been taken off
  let quotient := (x - rem) / y
  let (quotient, rem) :=
    if rem == 0 then (quotient, zeroLike y)
    else if (y < 0) != (rem < 0) then (quotient - 1.0, rem + y)
    else (quotient, rem)
  if quotient == 0 then (zeroLike (x / y), rem)
  else
    let whole := quotient.floor
    -- a quotient just below a whole number is meant to be that number
    (if quotient - whole > 0.5 then whole + 1.0 else whole, rem)

def floorDiv (a b : Number) : Except Cause Number := do
  match a, b with
  | .complex .., _ | _, .complex .. => throw .type
  | _, _ =>
    match ← pair a b with
    | .ints m n => if n = 0 then throw .zeroDivision else return .int (Int.fdiv m n)
    | .floats x y => if y == 0 then throw .zeroDivision else return .float (floorDivMod x y).1
    | .complexes .. => throw .type

def mod (a b : Number) : Except Cause Number := do
  match a, b with
  | .complex .., _ | _, .complex .. => throw .type
  | _, _ =>
    match ← pair a b with
    | .ints m n => if n = 0 then throw .zeroDivision else return .int (Int.fmod m n)
    | .floats x y => if y == 0 then throw .zeroDivision else return .float (floorDivMod x y).2
    | .complexes .. => throw .type

def isOddWhole (y : Float) : Bool := (truncatedMod y 2.0).abs == 1.0

def complexPowNat (re im : Float) : Nat → Float × Float
  | 0 => (1, 0)
  | n + 1 =>
    let (a, b) := complexPowNat re im n
    (a * re - b * im, a * im + b * re)

def complexPow (a b c d : Float) : Except Cause Number := do
  let check (re im : Float) : Except Cause Number :=
    if isInfinite re || isInfinite im then throw .overflow else return .complex re im
  -- a small whole exponent is multiplied out, any other goes through the polar form
  if d == 0 && isWhole c && c.abs ≤ 100.0 then
    let n := ((Double.ofFloat c.abs).toInt .down).getD 0
    let (re, im) := complexPowNat a b n.toNat
    if c < 0 then
      match complexQuotient 1 0 re im with
      | .ok (.complex re im) => check re im
      | .ok other => return other
      | .error cause => throw cause
    else check re im
  else if a == 0 && b == 0 then
    if d != 0 || c < 0 then throw .zeroDivision else return .complex 0 0
  else
    let size := Float.sqrt (a * a + b * b)
    let angle := Float.atan2 b a
    let length := Float.pow size c
    let phase := angle * c
    let (length, phase) :=
      if d != 0 then (length * Float.exp (-angle * d), phase + d * Float.log size)
      else (length, phase)
    check (length * Float.cos phase) (length * Float.sin phase)

/-- A power of doubles. A negative base with a fractional exponent has a complex power. -/
def floatPow (x y : Float) : Except Cause Number := do
  if y == 0 then return .float 1.0
  if isNaN x then return .float x
  if isNaN y then return .float (if x == 1 then 1.0 else y)
  -- what a power does at infinity and at zero is fixed case by case
  if isInfinite y then
    let size := x.abs
    if size == 1 then return .float 1.0
    return .float (if (y > 0) == (size > 1) then y.abs else 0.0)
  if isInfinite x then
    if y > 0 then return .float (if isOddWhole y then x else x.abs)
    return .float (if isOddWhole y then zeroLike x else 0.0)
  if x == 0 then
    if y < 0 then throw .zeroDivision
    return .float (if isOddWhole y then x else 0.0)
  if x < 0 && !isWhole y then return ← complexPow x 0 y 0
  let negative := x < 0 && isOddWhole y
  let power := Float.pow x.abs y
  if isInfinite power then throw .overflow
  return .float (if negative then -power else power)

def pow (a b : Number) : Except Cause Number := do
  match a, b with
  | .int m, .int n =>
    if 0 ≤ n then return .int (Int.pow m n.toNat)
    if m = 0 then throw .zeroDivision
    floatPow (← widen m) (← widen n)
  | _, _ =>
    match ← pair a b with
    | .ints m n => floatPow (← widen m) (← widen n)
    | .floats x y => floatPow x y
    | .complexes a b c d => complexPow a b c d

def neg : Number → Number
  | .int n => .int (-n)
  | .float x => .float (-x)
  | .complex re im => .complex (-re) (-im)

def abs : Number → Number
  | .int n => .int n.natAbs
  | .float x => .float x.abs
  | .complex re im => .float (Float.sqrt (re * re + im * im))

def equal : Number → Number → Bool
  | .int m, .int n => m == n
  | .int m, .float y => (Double.ofFloat y).compareInt m == some .eq
  | .float x, .int n => (Double.ofFloat x).compareInt n == some .eq
  | .float x, .float y => x == y
  | .complex re im, .complex re₂ im₂ => re == re₂ && im == im₂
  | .complex re im, .float y => im == 0 && re == y
  | .float x, .complex re im => im == 0 && x == re
  | .complex re im, .int n => im == 0 && (Double.ofFloat re).compareInt n == some .eq
  | .int m, .complex re im => im == 0 && (Double.ofFloat re).compareInt m == some .eq

/-- The order of exact values, which a NaN is outside of; complex numbers have none. -/
def order : Number → Number → Except Cause (Option Ordering)
  | .int m, .int n => .ok (some (compare m n))
  | .int m, .float y => .ok (((Double.ofFloat y).compareInt m).map Ordering.swap)
  | .float x, .int n => .ok ((Double.ofFloat x).compareInt n)
  | .float x, .float y =>
    .ok (if x < y then some .lt else if x > y then some .gt else if x == y then some .eq else none)
  | _, _ => .error .type

end Number

end Flowline.Condition

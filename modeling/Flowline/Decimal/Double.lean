/-!
# Doubles as exact numbers

A finite double is a sign, a natural number and a power of two. Everything that has to be exact,
such as comparing with an integer, flooring, remainders and decimal text, is done on that view;
`Double.nearest` is the one place where a quotient is rounded back to a double.
-/

namespace Flowline

/-- What a double stands for; `finite negative m e` is `m · 2^e` with its sign. -/
inductive Double where
  | finite (negative : Bool) (m : Nat) (e : Int)
  | infinite (negative : Bool)
  | nan
  deriving DecidableEq, Repr

namespace Double

def ofFloat (x : Float) : Double :=
  let bits := x.toBits.toNat
  let negative := bits / Nat.pow 2 63 == 1
  let exponent : Nat := bits / Nat.pow 2 52 % 2048
  let fraction : Nat := bits % Nat.pow 2 52
  if exponent = 2047 then
    if fraction = 0 then .infinite negative else .nan
  else if exponent = 0 then .finite negative fraction (-1074)
  else .finite negative (Nat.pow 2 52 + fraction) ((exponent : Int) - 1075)

/-- The quotient rounded to a natural number; a half goes to the even neighbour. -/
def roundQuotient (num den : Nat) : Nat :=
  let q := num / den
  let twice := 2 * (num % den)
  if twice < den then q
  else if den < twice then q + 1
  else if q % 2 = 0 then q else q + 1

def scale (num den : Nat) (e : Int) : Nat × Nat :=
  if 0 ≤ e then (num, den * Nat.pow 2 e.toNat) else (num * Nat.pow 2 (-e).toNat, den)

/-- The bits of the non-negative double nearest to `num / den`, ties to the even one; nothing when
it is larger than every double. -/
def nearestBits (num den : Nat) : Option Nat :=
  if num = 0 then some 0
  else
    -- over `2^guess` the quotient has 52 or 53 bits, and 53 are wanted
    let guess : Int := (num.log2 : Int) - (den.log2 : Int) - 52
    let (n, d) := scale num den guess
    let guess := if n / d < Nat.pow 2 52 then guess - 1 else guess
    -- near zero the doubles get no closer to each other
    let e := max guess (-1074)
    let (n, d) := scale num den e
    let m := roundQuotient n d
    -- rounding up can carry into one more bit
    let (m, e) := if m = Nat.pow 2 53 then (Nat.pow 2 52, e + 1) else (m, e)
    if 971 < e then none
    else if m < Nat.pow 2 52 then some m
    else some ((e + 1075).toNat * Nat.pow 2 52 + (m - Nat.pow 2 52))

def nearest (negative : Bool) (num den : Nat) : Option Float :=
  (nearestBits num den).map fun bits =>
    Float.ofBits (UInt64.ofNat (if negative then Nat.pow 2 63 + bits else bits))

def infinity (negative : Bool) : Float := if negative then -(1.0 / 0.0) else 1.0 / 0.0

def notANumber : Float := 0.0 / 0.0

def ofInt (n : Int) : Option Float := nearest (n < 0) n.natAbs 1

def quotient : Double → Option (Bool × Nat × Nat)
  | .finite negative m e =>
    some (if 0 ≤ e then (negative, m * Nat.pow 2 e.toNat, 1)
      else (negative, m, Nat.pow 2 (-e).toNat))
  | _ => none

def signed (negative : Bool) (n : Nat) : Int := if negative then -(n : Int) else n

inductive Rounding where
  | down
  | up
  | towardZero
  | halfEven
  deriving DecidableEq, Repr

def toInt (direction : Rounding) (x : Double) : Option Int :=
  x.quotient.map fun (negative, num, den) =>
    let exact := num % den == 0
    match direction with
    | .towardZero => signed negative (num / den)
    | .down => if negative && !exact then -((num / den + 1 : Nat) : Int)
      else signed negative (num / den)
    | .up => if !negative && !exact then ((num / den + 1 : Nat) : Int)
      else signed negative (num / den)
    | .halfEven => signed negative (roundQuotient num den)

def compareInt (x : Double) (n : Int) : Option Ordering :=
  match x with
  | .nan => none
  | .infinite negative => some (if negative then .lt else .gt)
  | .finite .. => x.quotient.map fun (negative, num, den) =>
    compare (signed negative num) (n * den)

/-- The remainder of the exact quotient truncated toward zero; it takes the sign of `x`. -/
def remainder (x y : Double) : Option Float :=
  match x, y with
  | .finite negative m e, .finite _ k f =>
    if k = 0 then none
    else
      let low := min e f
      let a := m * Nat.pow 2 (e - low).toNat
      let b := k * Nat.pow 2 (f - low).toNat
      let (n, d) :=
        if 0 ≤ low then ((a % b) * Nat.pow 2 low.toNat, 1) else (a % b, Nat.pow 2 (-low).toNat)
      nearest negative n d
  | _, _ => none

end Double

end Flowline

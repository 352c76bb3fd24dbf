import Flowline.Decimal.Shortest

/-!
# Decimals with a given number of digits

A finite double is rounded once, from its exact value and with ties to the even digit, to a number
of places or of significant digits.
-/

namespace Flowline.Decimal

structure Unsigned where
  negative : Bool
  text : String

def fixedDigits (num den places : Nat) : List Char × List Char :=
  let n := Double.roundQuotient (num * Nat.pow 10 places) den
  let digits := padLeft (places + 1) '0' (Nat.toDigits 10 n)
  (digits.take (digits.length - places), digits.drop (digits.length - places))

/-- `count` significant digits and the decimal exponent of the first; a zero has exponent zero. -/
def significant (num den count : Nat) : List Char × Int :=
  if num = 0 then (List.replicate count '0', 0)
  else
    let point := decimalPoint num den
    let (n, d) := overPower num den (point - count)
    let digits := Nat.toDigits 10 (Double.roundQuotient n d)
    -- rounding up can carry into one more digit
    if count < digits.length then (digits.take count, point) else (digits, point - 1)

def withPoint (whole part : List Char) (keepPoint : Bool) : String :=
  String.ofList whole ++
    (if part.isEmpty then (if keepPoint then "." else "") else "." ++ String.ofList part)

inductive Style where
  | fixed
  | exponent
  | general
  /-- As `general`, but always with a fraction or an exponent. -/
  | fractional
  deriving DecidableEq

def styled (style : Style) (precision : Nat) (alternate : Bool) (num den : Nat) : String :=
  match style with
  | .fixed =>
    let (whole, part) := fixedDigits num den precision
    withPoint whole part alternate
  | .exponent =>
    let (digits, e) := significant num den (precision + 1)
    withPoint (digits.take 1) (digits.drop 1) alternate ++ "e" ++ exponentText 2 e
  | .general | .fractional =>
    let precision := max precision 1
    let (digits, e) := significant num den precision
    let keep (cs : List Char) := if alternate then cs else trimZeros cs
    -- a fraction takes one of the digits
    let room := if style = .fractional then precision - 1 else precision
    if -4 ≤ e ∧ e < room then
      if 0 ≤ e then
        let part := keep (digits.drop (e.toNat + 1))
        let part := if style = .fractional ∧ part.isEmpty then ['0'] else part
        withPoint (digits.take (e.toNat + 1)) part alternate
      else
        withPoint ['0'] (keep (List.replicate (-e - 1).toNat '0' ++ digits)) alternate
    else withPoint (digits.take 1) (keep (digits.drop 1)) alternate ++ "e" ++ exponentText 2 e

def render (style : Style) (precision : Nat) (alternate : Bool) (x : Float) : Unsigned :=
  match Double.ofFloat x with
  | .nan => ⟨false, "nan"⟩
  | .infinite negative => ⟨negative, "inf"⟩
  | .finite negative m e =>
    let (num, den) := if 0 ≤ e then (m * Nat.pow 2 e.toNat, 1) else (m, Nat.pow 2 (-e).toNat)
    ⟨negative, styled style precision alternate num den⟩

/-- A double rounded to decimal places, which may be negative; nothing if the result is too
large. -/
def roundPlaces (x : Float) (places : Int) : Option Float :=
  match Double.ofFloat x with
  | .finite negative m e =>
    -- every double is a multiple of a smaller unit, or less than half of a larger one
    if 323 < places then some x
    else if places < -308 then some (if negative then -0.0 else 0.0)
    else
      let (num, den) := if 0 ≤ e then (m * Nat.pow 2 e.toNat, 1) else (m, Nat.pow 2 (-e).toNat)
      if 0 ≤ places then
        Double.nearest negative (Double.roundQuotient (num * Nat.pow 10 places.toNat) den)
          (Nat.pow 10 places.toNat)
      else
        let unit := Nat.pow 10 (-places).toNat
        Double.nearest negative (Double.roundQuotient num (den * unit) * unit) 1
  | _ => some x

end Flowline.Decimal

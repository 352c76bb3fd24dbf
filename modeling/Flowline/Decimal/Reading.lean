import Flowline.Decimal.Double
import Flowline.Decimal.Shortest
import Flowline.Text.Blank
import Flowline.Text.Digit
import Flowline.Text.Word

/-!
# Reading numbers

A decimal text is rounded once, from its exact value, to the nearest double. Free text, such as a
setting or a temperature, may also be surrounded by blanks, group its digits with underscores and
use the digits of any script; an integer in it has no point and no exponent.
-/

namespace Flowline.Decimal

def toFloat (negative : Bool) (mantissa : Nat) (exponent : Int) : Float :=
  let magnitude := (digitCount mantissa : Int) + exponent
  -- far outside of the range the exact value is never built
  if mantissa = 0 ∨ magnitude < -400 then (if negative then -0.0 else 0.0)
  else if 400 < magnitude then Double.infinity negative
  else
    let (num, den) := if 0 ≤ exponent then (mantissa * Nat.pow 10 exponent.toNat, 1)
      else (mantissa, Nat.pow 10 (-exponent).toNat)
    (Double.nearest negative num den).getD (Double.infinity negative)

def splitSign : List Char → Bool × List Char
  | '-' :: rest => (true, rest)
  | '+' :: rest => (false, rest)
  | rest => (false, rest)

/-- The exponent at the end of a decimal: nothing, or `e`, a sign and at least one digit. -/
def exponent? : List Char → Option Int
  | [] => some 0
  | c :: rest =>
    if c = 'e' ∨ c = 'E' then
      let (negative, digits) := splitSign rest
      if digits.isEmpty || !digits.all Text.isDigit then none
      else some (Double.signed negative (Text.ofDigits digits))
    else none

def unsigned? (negative : Bool) (cs : List Char) : Option Float :=
  let whole := cs.takeWhile Text.isDigit
  let rest := cs.dropWhile Text.isDigit
  let (part, rest) := match rest with
    | '.' :: after => (after.takeWhile Text.isDigit, after.dropWhile Text.isDigit)
    | _ => ([], rest)
  if whole.isEmpty && part.isEmpty then none
  else (exponent? rest).map fun e =>
    toFloat negative (Text.ofDigits (whole ++ part)) (e - part.length)

def signed? (cs : List Char) : Option Float :=
  let (negative, rest) := splitSign cs
  unsigned? negative rest

/-- Drops the underscores of a text in which each stands between two digits. -/
def ungroup? : List Char → Option (List Char)
  | [] => some []
  | '_' :: _ => none
  | c :: '_' :: d :: rest =>
    if Text.isDigit c && Text.isDigit d then (ungroup? (d :: rest)).map (c :: ·) else none
  | [_, '_'] => none
  | c :: rest => (ungroup? rest).map (c :: ·)

/-- Digits of every script become ASCII ones, blanks become spaces. -/
def plainChar (c : Char) : Char :=
  if c.toNat < 128 then (if Text.isBlank c then ' ' else c)
  else if Text.isBlank c then ' '
  else match Text.digitValue? c with
    | some d => Text.digitChar d
    | none => c

def special? (cs : List Char) : Option Float :=
  let (negative, rest) := splitSign cs
  let word := String.ofList (rest.map Text.lowerAscii)
  if word = "inf" ∨ word = "infinity" then some (Double.infinity negative)
  else if word = "nan" then some Double.notANumber
  else none

def read? (s : String) : Option Float :=
  (ungroup? (Text.trimBoth (s.toList.map plainChar))).bind fun cs =>
    (special? cs).or (signed? cs)

end Flowline.Decimal

namespace Flowline.Text

def maxReadDigits : Nat := 4300

def readInteger? (s : String) : Option Int :=
  (Decimal.ungroup? (trimBoth (s.toList.map Decimal.plainChar))).bind fun cs =>
    let (negative, digits) := Decimal.splitSign cs
    if digits.isEmpty || !digits.all isDigit || maxReadDigits < digits.length then none
    else some (Double.signed negative (ofDigits digits))

end Flowline.Text

import Flowline.Condition.Number
import Flowline.Value.Display

/-!
# Formats

What the two ways to lay out a value have in common: the marks of a `%` format and the formats of
fields. Both pad to a width, and both show numbers in the styles of `Decimal.render`.
-/

namespace Flowline.Condition.Format

def radixDigits (base n : Nat) : List Char := Nat.toDigits base n

def upperAscii (s : String) : String :=
  s.map fun c => if 'a' ≤ c && c ≤ 'z' then Char.ofNat (c.toNat - 32) else c

def asciiQuoted (v : Value) : String :=
  String.ofList (v.quoted.toList.flatMap fun c =>
    if c.toNat < 128 then [c]
    else if c.toNat < 0x100 then '\\' :: 'x' :: Text.hexText 2 c.toNat
    else if c.toNat < 0x10000 then '\\' :: 'u' :: Text.hexText 4 c.toNat
    else '\\' :: 'U' :: Text.hexText 8 c.toNat)

def toFloat (v : Value) : Except Cause Float :=
  match Number.ofValue? v with
  | some (.int n) => Number.widen n
  | some (.float x) => .ok x
  | _ => .error .type

/-- The value as an integer; a double loses its fraction if `fractions` is allowed. -/
def toInteger (fractions : Bool) (v : Value) : Except Cause Int :=
  match Number.ofValue? v with
  | some (.int n) => .ok n
  | some (.float x) =>
    if !fractions then .error .type
    else match (Double.ofFloat x).toInt .towardZero with
      | some n => .ok n
      | none => .error (if Number.isNaN x then .value else .overflow)
  | _ => .error .type

def ofOctets (octets : List UInt8) : String :=
  String.ofList (octets.map fun octet => Char.ofNat octet.toNat)

def spaces (n : Nat) : String := String.ofList (List.replicate n ' ')

def maxCount : Nat := 9223372036854775807

def maxPlaces : Nat := 2147483647

def styleOf (c : Char) : Decimal.Style :=
  if c = 'e' ∨ c = 'E' then .exponent else if c = 'f' ∨ c = 'F' then .fixed else .general

def isUpper (c : Char) : Bool := c == 'E' || c == 'F' || c == 'G'

end Flowline.Condition.Format

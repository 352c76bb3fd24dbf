import Flowline.Text.Half

/-!
# UTF-16

Text as 16-bit units, and units as pairs of octets in either order.
-/

namespace Flowline.Text

inductive ByteOrder where
  | little
  | big
  deriving DecidableEq, Repr

namespace Utf16

def units (c : Char) : List Nat :=
  if c.toNat < 0x10000 then [c.toNat]
  else [0xD800 + (c.toNat - 0x10000) / 0x400, 0xDC00 + (c.toNat - 0x10000) % 0x400]

def isHigh (unit : Nat) : Bool := 0xD800 ≤ unit && unit < 0xDC00

def isLow (unit : Nat) : Bool := 0xDC00 ≤ unit && unit < 0xE000

/-- The characters of units; a half without its other half is carried as its stand-in. -/
def ofUnits : List Nat → List Char
  | [] => []
  | [unit] => [ofUnit unit]
  | high :: low :: rest =>
    if isHigh high && isLow low then Char.ofNat (joinHalves high low) :: ofUnits rest
    else ofUnit high :: ofUnits (low :: rest)

def unit (order : ByteOrder) (a b : UInt8) : Nat :=
  match order with
  | .little => b.toNat * 256 + a.toNat
  | .big => a.toNat * 256 + b.toNat

def units? (order : ByteOrder) : List UInt8 → Option (List Nat)
  | [] => some []
  | [_] => none
  | a :: b :: rest => (units? order rest).map (unit order a b :: ·)

def decode? (order : ByteOrder) (octets : List UInt8) : Option (List Char) :=
  (units? order octets).map ofUnits

end Utf16

end Flowline.Text

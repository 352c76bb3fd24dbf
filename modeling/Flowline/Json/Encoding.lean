import Flowline.Text.Utf16
import Flowline.Text.Utf8

/-!
# JSON octets

A JSON text begins with two ASCII characters, or is one character long. So the zero octets at its
beginning tell how it is encoded: there are none in UTF-8, whose leading mark is dropped.
-/

namespace Flowline.Json

inductive Encoding where
  | utf8
  | utf16 (order : Text.ByteOrder)
  | utf32 (order : Text.ByteOrder)
  deriving DecidableEq, Repr

namespace Encoding

def ofOctets : List UInt8 → Encoding
  | [0, _] => .utf16 .big
  | [_, 0] => .utf16 .little
  | 0 :: 0 :: _ :: _ :: _ => .utf32 .big
  | 0 :: _ :: _ :: _ :: _ => .utf16 .big
  | _ :: 0 :: 0 :: 0 :: _ => .utf32 .little
  | _ :: 0 :: _ :: _ :: _ => .utf16 .little
  | _ => .utf8

def wide? (order : Text.ByteOrder) : List UInt8 → Option (List Char)
  | [] => some []
  | a :: b :: c :: d :: rest =>
    let n := match order with
      | .little => Text.Utf16.unit .little c d * 0x10000 + Text.Utf16.unit .little a b
      | .big => Text.Utf16.unit .big a b * 0x10000 + Text.Utf16.unit .big c d
    if 0x110000 ≤ n then none else (wide? order rest).map (Text.ofUnit n :: ·)
  | _ => none

end Encoding

def dropMark : List UInt8 → List UInt8
  | 0xEF :: 0xBB :: 0xBF :: rest => rest
  | octets => octets

def decode? (octets : List UInt8) : Option String :=
  String.ofList <$> match Encoding.ofOctets octets with
    | .utf8 => Text.Utf8.decode? (dropMark octets)
    | .utf16 order => Text.Utf16.decode? order octets
    | .utf32 order => Encoding.wide? order octets

end Flowline.Json

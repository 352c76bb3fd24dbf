import Flowline.Text.Word
import Flowline.Text.Utf8

/-!
# Percent signs

In an address an octet can be written as a percent sign and two hexadecimal digits. Characters that
may not stand in a part are written as their octets.
-/

namespace Flowline.Web.Percent

def encodeOctet (octet : UInt8) : List Char :=
  '%' :: (Text.hexText 2 octet.toNat).map fun c => if 'a' ≤ c then Char.ofNat (c.toNat - 32) else c

def isUnreserved (c : Char) : Bool :=
  Text.isAsciiLetter c || Text.isDigit c || c == '-' || c == '.' || c == '_' || c == '~'

def encodeChar (safe : Char → Bool) (c : Char) : List Char :=
  if isUnreserved c || safe c then [c] else (Text.utf8Char c).flatMap encodeOctet

/-- Writes the characters that are not safe as octets; what is written so already stays. -/
def encode (safe : Char → Bool) : List Char → List Char
  | '%' :: a :: b :: rest =>
    if (Text.hexValue? a).isSome && (Text.hexValue? b).isSome then '%' :: a :: b :: encode safe rest
    else encodeChar safe '%' ++ encode safe (a :: b :: rest)
  | c :: rest => encodeChar safe c ++ encode safe rest
  | [] => []

def octets : List Char → List UInt8
  | '%' :: a :: b :: rest =>
    match Text.ofHex? [a, b] with
    | some n => UInt8.ofNat n :: octets rest
    | none => Text.utf8Char '%' ++ octets (a :: b :: rest)
  | c :: rest => Text.utf8Char c ++ octets rest
  | [] => []

/-- The text that is spelled; octets that are no text are replaced. -/
def decode (cs : List Char) : List Char := Text.Utf8.decode (octets cs)

end Flowline.Web.Percent

import Flowline.Value.Display

/-!
# Writing JSON

A value is written on one line with the given separators. Characters stay as they are except for
quotes, backslashes and controls. A byte string, a complex number or the ellipsis has no JSON form
and is written as its display text.
-/

namespace Flowline.Json

structure Separators where
  item : String
  key : String

def Separators.compact : Separators := ⟨",", ":"⟩

def Separators.spaced : Separators := ⟨", ", ": "⟩

def escapedChar (c : Char) : List Char :=
  if c = '"' then ['\\', '"']
  else if c = '\\' then ['\\', '\\']
  else if c = '\n' then ['\\', 'n']
  else if c = '\r' then ['\\', 'r']
  else if c = '\t' then ['\\', 't']
  else if c = '\x08' then ['\\', 'b']
  else if c = '\x0c' then ['\\', 'f']
  else if c.toNat < 0x20 then '\\' :: 'u' :: Text.hexText 4 c.toNat
  else [c]

def writeText (s : String) : List Char := '"' :: (s.toList.flatMap escapedChar ++ ['"'])

/-- Infinities and NaN are written as words, which no other reader needs to accept. -/
def writeFloat (x : Float) : List Char :=
  match Double.ofFloat x with
  | .nan => "NaN".toList
  | .infinite negative => (Decimal.sign negative ++ "Infinity").toList
  | .finite .. => (Decimal.text x).toList

mutual
def write (sep : Separators) : Value → List Char
  | .null => "null".toList
  | .bool b => if b then "true".toList else "false".toList
  | .int n => (integerText n).toList
  | .float x => writeFloat x
  | .text s => writeText s
  | .list [] => ['[', ']']
  | .list (item :: rest) => '[' :: (write sep item ++ writeItems sep rest)
  | .record [] => ['\x7b', '\x7d']
  | .record ((key, item) :: rest) =>
    '\x7b' :: (writeText key ++ sep.key.toList ++ write sep item ++ writeFields sep rest)
  | .bytes octets => writeText (Value.bytes octets).display
  | .complex re im => writeText (Value.complex re im).display
  | .ellipsis => writeText Value.ellipsis.display
def writeItems (sep : Separators) : List Value → List Char
  | [] => [']']
  | item :: rest => sep.item.toList ++ write sep item ++ writeItems sep rest
def writeFields (sep : Separators) : List (String × Value) → List Char
  | [] => ['\x7d']
  | (key, item) :: rest =>
    sep.item.toList ++ writeText key ++ sep.key.toList ++ write sep item ++ writeFields sep rest
end

end Flowline.Json

import Flowline.Text.Half

/-!
# UTF-8

Text as octets and back. Octets that are no text are read as the replacement character: one for
each longest beginning of a character that cannot go on.
-/

namespace Flowline.Text

def tailOctet (n : Nat) : UInt8 := UInt8.ofNat (0x80 + n % 0x40)

def utf8Char (c : Char) : List UInt8 :=
  let n := c.toNat
  if n < 0x80 then [UInt8.ofNat n]
  else if n < 0x800 then [UInt8.ofNat (0xC0 + n / 0x40), tailOctet n]
  else if n < 0x10000 then [UInt8.ofNat (0xE0 + n / 0x1000), tailOctet (n / 0x40), tailOctet n]
  else [UInt8.ofNat (0xF0 + n / 0x40000), tailOctet (n / 0x1000), tailOctet (n / 0x40), tailOctet n]

/-- The octets of a text; a text with half of a surrogate pair has none. -/
def utf8? (s : String) : Option (List UInt8) :=
  if isWellFormed s then some (s.toList.flatMap utf8Char) else none

def replacement : Char := Char.ofNat 0xFFFD

namespace Utf8

/-- A character that has begun: the tail octets still owed, the least and the greatest next one,
and the bits so far. Nothing is owed between characters. -/
structure Pending where
  owed : Nat := 0
  low : Nat := 0x80
  high : Nat := 0xBF
  bits : Nat := 0

def lead (b : Nat) : List Char × Pending :=
  if b < 0x80 then ([Char.ofNat b], {})
  else if 0xC2 ≤ b && b ≤ 0xDF then ([], { owed := 1, bits := b - 0xC0 })
  else if b == 0xE0 then ([], { owed := 2, low := 0xA0, bits := 0 })
  else if b == 0xED then ([], { owed := 2, high := 0x9F, bits := 0xD })
  else if 0xE1 ≤ b && b ≤ 0xEF then ([], { owed := 2, bits := b - 0xE0 })
  else if b == 0xF0 then ([], { owed := 3, low := 0x90, bits := 0 })
  else if 0xF1 ≤ b && b ≤ 0xF3 then ([], { owed := 3, bits := b - 0xF0 })
  else if b == 0xF4 then ([], { owed := 3, high := 0x8F, bits := 4 })
  else ([replacement], {})

def step (p : Pending) (b : Nat) : List Char × Pending :=
  if p.owed = 0 then lead b
  else if p.low ≤ b && b ≤ p.high then
    let bits := p.bits * 0x40 + (b - 0x80)
    if p.owed = 1 then ([Char.ofNat bits], {}) else ([], { owed := p.owed - 1, bits })
  else
    let (cs, next) := lead b
    (replacement :: cs, next)

def decodeFrom (p : Pending) : List UInt8 → List Char
  | [] => if p.owed = 0 then [] else [replacement]
  | b :: rest =>
    let (cs, next) := step p b.toNat
    cs ++ decodeFrom next rest

def decode (octets : List UInt8) : List Char := decodeFrom {} octets

def decode? (octets : List UInt8) : Option (List Char) :=
  let cs := decode octets
  if cs.flatMap utf8Char = octets then some cs else none

end Utf8

end Flowline.Text

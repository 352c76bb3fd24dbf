import Flowline.Value
import Flowline.Decimal.Shortest
import Flowline.Text.Half
import Flowline.Text.Printable

/-!
# Values as text

`Value.display` is the plain text of a value. Inside lists and records texts are quoted, with
escapes for whatever is not printable. Integers have a text only up to 4300 digits; `Value.fits`
says that all those of a value do.
-/

namespace Flowline

namespace Text

def shortEscape? (quote c : Char) : Option (List Char) :=
  if c = quote ∨ c = '\\' then some ['\\', c]
  else if c = '\t' then some ['\\', 't']
  else if c = '\n' then some ['\\', 'n']
  else if c = '\r' then some ['\\', 'r']
  else none

def quotedChar (quote c : Char) : List Char :=
  (shortEscape? quote c).getD <|
    if isPrintable c then [c]
    else match half? c with
      | some unit => '\\' :: 'u' :: hexText 4 unit
      | none =>
        if c.toNat < 0x100 then '\\' :: 'x' :: hexText 2 c.toNat
        else if c.toNat < 0x10000 then '\\' :: 'u' :: hexText 4 c.toNat
        else '\\' :: 'U' :: hexText 8 c.toNat

/-- Single quotes, unless that would need an escape that double quotes do without. -/
def quoteFor (cs : List Char) : Char := if '\'' ∈ cs ∧ '"' ∉ cs then '"' else '\''

def quoted (s : String) : String :=
  let quote := quoteFor s.toList
  String.ofList (quote :: s.toList.flatMap (quotedChar quote) ++ [quote])

def quotedOctet (quote : Char) (octet : UInt8) : List Char :=
  let c := Char.ofNat octet.toNat
  (shortEscape? quote c).getD <|
    if 32 ≤ octet && octet < 127 then [c] else '\\' :: 'x' :: hexText 2 octet.toNat

def quotedOctets (octets : List UInt8) : String :=
  let quote := quoteFor (octets.map fun o => Char.ofNat o.toNat)
  String.ofList ('b' :: quote :: octets.flatMap (quotedOctet quote) ++ [quote])

end Text

namespace Decimal

/-- The layout of the parts of a complex number, which show a fraction only if they have one. -/
def Layout.part : Layout := { Layout.float with fraction := false }

def partText (x : Float) : String :=
  match Double.ofFloat x with
  | .finite negative m e =>
    sign negative ++ if m = 0 then "0" else Layout.part.render (shortest m e)
  | _ => text x

/-- A complex number; a real part that is plain zero is left out. -/
def complexText (re im : Float) : String :=
  if Double.ofFloat re = .finite false 0 (-1074) then partText im ++ "j"
  else
    let imaginary := partText im
    let imaginary := if imaginary.startsWith "-" then imaginary else "+" ++ imaginary
    "(" ++ partText re ++ imaginary ++ "j)"

end Decimal

def maxDigits : Nat := 4300

def integerFits (n : Int) : Bool := n.natAbs < Nat.pow 10 maxDigits

def integerText (n : Int) : String := toString n

def boolText (b : Bool) : String := if b then "True" else "False"

namespace Value

mutual
def fits : Value → Bool
  | .int n => integerFits n
  | .list items => allFit items
  | .record fields => fieldsFit fields
  | _ => true
def allFit : List Value → Bool
  | [] => true
  | item :: rest => item.fits && allFit rest
def fieldsFit : List (String × Value) → Bool
  | [] => true
  | (_, item) :: rest => item.fits && fieldsFit rest
end

mutual
def quoted : Value → String
  | .null => "None"
  | .bool b => boolText b
  | .int n => integerText n
  | .float x => Decimal.text x
  | .text s => Text.quoted s
  | .bytes octets => Text.quotedOctets octets
  | .complex re im => Decimal.complexText re im
  | .ellipsis => "Ellipsis"
  | .list items => "[" ++ ", ".intercalate (quotedItems items) ++ "]"
  | .record fields => "\x7b" ++ ", ".intercalate (quotedFields fields) ++ "\x7d"
def quotedItems : List Value → List String
  | [] => []
  | item :: rest => item.quoted :: quotedItems rest
def quotedFields : List (String × Value) → List String
  | [] => []
  | (key, item) :: rest => (Text.quoted key ++ ": " ++ item.quoted) :: quotedFields rest
end

/-- The plain text of a value: a text is itself. -/
def display : Value → String
  | .text s => s
  | v => v.quoted

end Value

end Flowline

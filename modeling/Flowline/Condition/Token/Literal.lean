import Flowline.Condition.Token
import Flowline.Text.Half
import Flowline.Text.Word

/-!
# Literals

How texts and byte strings are written: between single or triple quotes, with escapes, and with a
mark of one or two letters in front.
-/

namespace Flowline.Condition.Token

def shortBody (quote : Char) : List Char → Option (List Char × List Char)
  | [] => none
  | ['\\'] => none
  | '\\' :: c :: rest =>
    (shortBody quote rest).map fun (body, left) => ('\\' :: c :: body, left)
  | c :: rest =>
    if c = quote then some ([], rest)
    else if c = '\n' then none
    else (shortBody quote rest).map fun (body, left) => (c :: body, left)

def longBody (quote : Char) : List Char → Option (List Char × List Char)
  | [] => none
  | ['\\'] => none
  | '\\' :: c :: rest =>
    (longBody quote rest).map fun (body, left) => ('\\' :: c :: body, left)
  | c :: rest =>
    if c = quote ∧ rest.take 2 = [quote, quote] then some ([], rest.drop 2)
    else (longBody quote rest).map fun (body, left) => (c :: body, left)

def body (quote : Char) (cs : List Char) : Option (List Char × List Char) :=
  match cs with
  | a :: b :: rest => if a = quote ∧ b = quote then longBody quote rest else shortBody quote cs
  | _ => shortBody quote cs

def isOctal (c : Char) : Bool := '0' ≤ c && c ≤ '7'

def simpleEscape? (c : Char) : Option Nat :=
  match c with
  | '\\' => some 92
  | '\'' => some 39
  | '"' => some 34
  | 'a' => some 7
  | 'b' => some 8
  | 'f' => some 12
  | 'n' => some 10
  | 'r' => some 13
  | 't' => some 9
  | 'v' => some 11
  | _ => none

/-- Replaces the escapes of a literal body by code points. An escape that is not known stays as it
is; a hexadecimal one must have all its digits and name a character. With `wide` there are also
the escapes of four and eight digits. -/
def unescape (wide : Bool) : (fuel : Nat) → List Char → Option (List Nat)
  | _, [] => some []
  | 0, _ => none
  | fuel + 1, '\\' :: '\n' :: rest => unescape wide fuel rest
  | fuel + 1, '\\' :: c :: rest =>
    let hex (width : Nat) : Option (List Nat) := do
      let ds := rest.take width
      if ds.length < width then none
      let n ← Text.ofHex? ds
      if 0x110000 ≤ n then none
      return n :: (← unescape wide fuel (rest.drop width))
    if isOctal c then
      let more := (rest.take 2).takeWhile isOctal
      let n := (c :: more).foldl (fun acc d => 8 * acc + (d.toNat - '0'.toNat)) 0
      (unescape wide fuel (rest.drop more.length)).map (n :: ·)
    else if c = 'x' then hex 2
    else if wide ∧ c = 'u' then hex 4
    else if wide ∧ c = 'U' then hex 8
    else if wide ∧ c = 'N' then none
    else match simpleEscape? c with
      | some n => (unescape wide fuel rest).map (n :: ·)
      | none => (unescape wide fuel (c :: rest)).map (92 :: ·)
  | fuel + 1, c :: rest => (unescape wide fuel rest).map (c.toNat :: ·)

def decodeText (raw : Bool) (cs : List Char) : Option String :=
  if raw then some (String.ofList cs)
  else (unescape true (cs.length + 1) cs).map fun units => String.ofList (units.map Text.ofUnit)

def decodeOctets (raw : Bool) (cs : List Char) : Option (List UInt8) :=
  if cs.any (128 ≤ ·.toNat) then none
  else if raw then some (cs.map fun c => UInt8.ofNat c.toNat)
  else (unescape false (cs.length + 1) cs).map fun units => units.map UInt8.ofNat

/-- What the letters before a quote ask for, if they are a literal's mark. -/
structure Mark where
  raw : Bool
  octets : Bool
  format : Bool

def mark? (letters : List Char) : Option Mark :=
  match String.ofList (letters.map Text.lowerAscii) with
  | "" | "u" => some ⟨false, false, false⟩
  | "r" => some ⟨true, false, false⟩
  | "b" => some ⟨false, true, false⟩
  | "f" => some ⟨false, false, true⟩
  | "br" | "rb" => some ⟨true, true, false⟩
  | "fr" | "rf" => some ⟨true, false, true⟩
  | _ => none

def literalWith (mark : Mark) (quote : Char) (cs : List Char) : Option (Token × List Char) := do
  let (content, rest) ← body quote cs
  if mark.format then return (.format mark.raw content, rest)
  else if mark.octets then return (.octets (← decodeOctets mark.raw content), rest)
  else return (.text (← decodeText mark.raw content), rest)

end Flowline.Condition.Token

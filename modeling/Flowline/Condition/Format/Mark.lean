import Flowline.Condition.Format.Basic

/-!
# Marks

A template with marks such as `%s` takes one value. A mark has flags, a width, a precision and a
letter that says how the value is shown.
-/

namespace Flowline.Condition.Format

structure Flags where
  left : Bool := false
  plus : Bool := false
  blank : Bool := false
  alternate : Bool := false
  zero : Bool := false

def Flags.set? (flags : Flags) (c : Char) : Option Flags :=
  match c with
  | '-' => some { flags with left := true }
  | '+' => some { flags with plus := true }
  | ' ' => some { flags with blank := true }
  | '#' => some { flags with alternate := true }
  | '0' => some { flags with zero := true }
  | _ => none

def readFlags (flags : Flags) : List Char → Flags × List Char
  | [] => (flags, [])
  | c :: rest =>
    match flags.set? c with
    | some flags => readFlags flags rest
    | none => (flags, c :: rest)

/-- What stands between a per cent sign and its letter, and the letter. -/
structure Mark where
  flags : Flags
  width : Nat
  precision : Option Nat
  letter : Char

namespace Mark

def padded (mark : Mark) (s : String) : String :=
  let gap := mark.width - s.length
  if mark.flags.left then s ++ spaces gap else spaces gap ++ s

def cut (mark : Mark) (s : String) : String :=
  mark.padded (match mark.precision with
    | some n => String.ofList (s.toList.take n)
    | none => s)

def signed (mark : Mark) (negative : Bool) (base digits : String) : String :=
  let sign := if negative then "-" else if mark.flags.plus then "+"
    else if mark.flags.blank then " " else ""
  let body := sign ++ base ++ digits
  if mark.flags.zero && !mark.flags.left then
    sign ++ base ++ String.ofList (List.replicate (mark.width - body.length) '0') ++ digits
  else mark.padded body

def isInteger (mark : Mark) : Bool := "diuoxX".toList.contains mark.letter

def isFloat (mark : Mark) : Bool := "eEfFgG".toList.contains mark.letter

/-- An integer in digits. A double loses its fraction, except under the letters of other bases. -/
def integer (mark : Mark) (v : Value) : Except Cause String := do
  let base := if mark.letter = 'o' then 8 else if mark.letter = 'x' ∨ mark.letter = 'X' then 16
    else 10
  let n ← toInteger (base = 10) v
  if maxPlaces - 3 < mark.precision.getD 0 then throw .overflow
  if base = 10 ∧ !integerFits n then throw .value
  let digits := Decimal.padLeft (mark.precision.getD 0) '0' (radixDigits base n.natAbs)
  let sign := if mark.flags.alternate then
      (if base = 8 then "0o" else if base = 16 then "0x" else "")
    else ""
  let shown := mark.signed (n < 0) sign (String.ofList digits)
  return if mark.letter = 'X' then upperAscii shown else shown

def float (mark : Mark) (v : Value) : Except Cause String := do
  let x ← toFloat v
  let shown := Decimal.render (styleOf mark.letter) (mark.precision.getD 6) mark.flags.alternate x
  let text := mark.signed shown.negative "" shown.text
  return if isUpper mark.letter then upperAscii text else text

def inText (mark : Mark) (v : Value) : Except Cause String :=
  if mark.isInteger then mark.integer v
  else if mark.isFloat then mark.float v
  else match mark.letter with
    | 's' => if v.fits then .ok (mark.cut v.display) else .error .value
    | 'r' => if v.fits then .ok (mark.cut v.quoted) else .error .value
    | 'a' => if v.fits then .ok (mark.cut (asciiQuoted v)) else .error .value
    | 'c' =>
      match v with
      | .text s => if s.length = 1 then .ok (mark.padded s) else .error .type
      | _ => do
        let n ← toInteger false v
        if 0 ≤ n ∧ n < 0x110000 then return mark.padded (String.ofList [Text.ofUnit n.toNat])
        else throw .overflow
    | _ => .error .value

def inOctets (mark : Mark) (v : Value) : Except Cause String :=
  if mark.isInteger then mark.integer v
  else if mark.isFloat then
    match mark.float v with
    | .ok shown => .ok shown
    | .error _ => .error .type
  else match mark.letter with
    | 'r' | 'a' => if v.fits then .ok (mark.cut (asciiQuoted v)) else .error .value
    | 's' | 'b' =>
      match v with
      | .bytes octets => .ok (mark.cut (ofOctets octets))
      | _ => .error .type
    | 'c' =>
      match v with
      | .bytes [octet] => .ok (mark.padded (ofOctets [octet]))
      | .bytes _ => .error .type
      | _ => do
        let n ← toInteger false v
        if 0 ≤ n ∧ n < 256 then return mark.padded (ofOctets [UInt8.ofNat n.toNat])
        else throw .overflow
    | _ => .error .value

end Mark

/-- A width or a precision: digits, or a star that takes the value; and whether it is taken. -/
def readMeasure (largest : Nat) (v : Value) (used : Bool) (cs : List Char) :
    Except Cause (Int × Bool × List Char) := do
  match cs with
  | '*' :: rest =>
    if used then throw .type
    let n ← match v with
      | .int n => pure n
      | .bool b => pure (if b then 1 else 0)
      | _ => throw .type
    if n < -largest - 1 ∨ (largest : Int) < n then throw .overflow
    return (n, true, rest)
  | _ =>
    let n := Text.ofDigits (cs.takeWhile Text.isDigit)
    if largest < n then throw .value
    return (n, used, cs.dropWhile Text.isDigit)

def readMark (v : Value) (used : Bool) (cs : List Char) :
    Except Cause (Mark × Bool × List Char) := do
  let (flags, rest) := readFlags {} cs
  let (width, used, rest) ← readMeasure maxCount v used rest
  let flags := if width < 0 then { flags with left := true } else flags
  let (precision, used, rest) ← match rest with
    | '.' :: rest => do
      let (n, used, rest) ← readMeasure maxPlaces v used rest
      pure (some n.toNat, used, rest)
    | _ => pure (none, used, rest)
  let rest := match rest with
    | c :: after => if c = 'h' ∨ c = 'l' ∨ c = 'L' then after else rest
    | [] => []
  match rest with
  | [] => throw .value
  | letter :: rest => return (⟨flags, width.natAbs, precision, letter⟩, used, rest)

/-- Whether the parenthesis in front of a text closes in it; `depth` more are open. -/
def closes : (depth : Nat) → List Char → Bool
  | _, [] => false
  | depth, '(' :: rest => closes (depth + 1) rest
  | 0, ')' :: _ => true
  | depth + 1, ')' :: rest => closes depth rest
  | depth, _ :: rest => closes depth rest

/-- Fills the marks of a text, or of a byte string, with one value; `used` says whether a mark has
taken it. -/
def percentFrom (octets : Bool) (v : Value) : (fuel : Nat) → (used : Bool) → List Char →
    Except Cause (Bool × String)
  | 0, used, _ => .ok (used, "")
  | _, used, [] => .ok (used, "")
  | fuel + 1, used, '%' :: rest => do
    match octets, v, rest with
    | _, _, '%' :: rest =>
      let (used, more) ← percentFrom octets v fuel used rest
      return (used, "%" ++ more)
    -- a key is sought in a byte string, and not found, once it has been read
    | false, .bytes _, '(' :: rest => throw (if closes 0 rest then .type else .value)
    | _, _, '(' :: _ => throw .type
    | _, _, _ =>
      let (mark, used, rest) ← readMark v used rest
      if used then throw .type
      let shown ← if octets then mark.inOctets v else mark.inText v
      let (used, more) ← percentFrom octets v fuel true rest
      return (used, shown ++ more)
  | fuel + 1, used, c :: rest => do
    let (used, more) ← percentFrom octets v fuel used rest
    return (used, String.ofList [c] ++ more)

/-- A value that no mark has taken is a type error, unless it is a byte string. -/
def percent (template : String) (v : Value) : Except Cause String := do
  let (used, shown) ← percentFrom false v (template.length + 1) false template.toList
  match v with
  | .bytes _ => return shown
  | _ => if used then return shown else throw .type

def percentOctets (template : List UInt8) (v : Value) : Except Cause (List UInt8) := do
  let (used, shown) ← percentFrom true v (template.length + 1) false (ofOctets template).toList
  if used then return shown.toList.map fun c => UInt8.ofNat c.toNat else throw .type

end Flowline.Condition.Format

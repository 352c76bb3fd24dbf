import Flowline.Condition.Format.Basic

/-!
# Formats of fields

The format behind the colon of a field: fill and alignment, sign, width, grouping of digits,
precision and kind.
-/

namespace Flowline.Condition.Format

structure Spec where
  fill : Char
  align : Option Char
  sign : Option Char
  noNegativeZero : Bool
  alternate : Bool
  width : Nat
  grouping : Option Char
  precision : Option Nat
  kind : Option Char

def isAlign (c : Char) : Bool := c == '<' || c == '>' || c == '=' || c == '^'

def optional (p : Char → Bool) : List Char → Option Char × List Char
  | [] => (none, [])
  | c :: rest => if p c then (some c, rest) else (none, c :: rest)

def readCount (count : Nat) : List Char → Option (Nat × List Char)
  | [] => some (count, [])
  | c :: rest =>
    match Text.digitValue? c with
    | none => some (count, c :: rest)
    | some d =>
      if maxCount < 10 * count + d then none else readCount (10 * count + d) rest

def startsWithDigit (cs : List Char) : Bool := (cs.head?.bind Text.digitValue?).isSome

def canGroup (mark : Char) : Option Char → Bool
  | none => true
  | some k => "deEfFgG%".toList.contains k || mark == '_' && "boxX".toList.contains k

/-- Reads a field's format; `numeric` says on which side the value stands by default. -/
def Spec.read (numeric : Bool) (cs : List Char) : Option Spec := do
  -- a fill counts only if an alignment follows it
  let (fill, align, rest) := match cs with
    | f :: a :: rest =>
      if isAlign a then (some f, some a, rest)
      else if isAlign f then (none, some f, a :: rest)
      else (none, none, cs)
    | [a] => if isAlign a then (none, some a, []) else (none, none, cs)
    | [] => (none, none, [])
  let (sign, rest) := optional (fun c => c == '+' || c == '-' || c == ' ') rest
  let (z, rest) := optional (· == 'z') rest
  let (alternate, rest) := optional (· == '#') rest
  -- a zero before the width fills with zeros behind the sign
  let (fill, align, rest) := match fill, rest with
    | none, '0' :: after => (some '0', if align.isNone && numeric then some '=' else align, after)
    | _, _ => (fill, align, rest)
  let (width, rest) ← readCount 0 rest
  let (comma, rest) := optional (· == ',') rest
  let (underscore, rest) := optional (· == '_') rest
  if comma.isSome && underscore.isSome then none
  let (precision, rest) ← match rest with
    | '.' :: rest =>
      if startsWithDigit rest then (readCount 0 rest).map fun (n, rest) => (some n, rest)
      else none
    | _ => some (none, rest)
  let kind ← match rest with
    | [] => some none
    | [k] => some (some k)
    | _ => none
  let grouping := comma.or underscore
  if grouping.any fun mark => !canGroup mark kind then none
  return ⟨fill.getD ' ', align, sign, z.isSome, alternate.isSome, width, grouping, precision, kind⟩

def grouped (mark : Char) (size : Nat) (digits : List Char) : List Char :=
  (go 0 digits.reverse).reverse
where
  go : Nat → List Char → List Char
    | _, [] => []
    | k, c :: rest => if k = size then mark :: c :: go 1 rest else c :: go (k + 1) rest

/-- The least number of digits, at least the given one, that fill a width once grouped. -/
def digitsToFill (mark : Char) (size width : Nat) : (tries : Nat) → List Char → List Char
  | 0, digits => digits
  | tries + 1, digits =>
    if width ≤ (grouped mark size digits).length then digits
    else digitsToFill mark size width tries ('0' :: digits)

/-- Places a body in its width; `lead` stays in front when the fill goes behind it. -/
def Spec.place (spec : Spec) (default : Char) (lead body : String) : String :=
  let gap := spec.width - (lead.length + body.length)
  let fill (n : Nat) := String.ofList (List.replicate n spec.fill)
  match spec.align.getD default with
  | '<' => lead ++ body ++ fill gap
  | '^' => fill (gap / 2) ++ lead ++ body ++ fill (gap - gap / 2)
  | '=' => lead ++ fill gap ++ body
  | _ => fill gap ++ lead ++ body

def Spec.number (spec : Spec) (size : Nat) (negative : Bool) (mark : String) (whole : List Char)
    (tail : String) : String :=
  let sign := if negative then "-" else if spec.sign = some '+' then "+"
    else if spec.sign = some ' ' then " " else ""
  let lead := sign ++ mark
  let whole := match spec.grouping, whole with
    | some g, _ :: _ =>
      let room := spec.width - (lead.length + tail.length)
      if spec.fill = '0' ∧ spec.align = some '=' then
        grouped g size (digitsToFill g size room spec.width whole)
      else grouped g size whole
    | _, _ => whole
  spec.place '>' lead (String.ofList whole ++ tail)

def Spec.integer (spec : Spec) (n : Int) : Except Cause String := do
  if spec.precision.isSome || spec.noNegativeZero then throw .value
  let kind := spec.kind.getD 'd'
  if kind = 'c' then
    if spec.sign.isSome || spec.alternate then throw .value
    if n < 0 ∨ 0x110000 ≤ n then throw .overflow
    return spec.place '>' "" (String.ofList [Text.ofUnit n.toNat])
  let base := if kind = 'b' then 2 else if kind = 'o' then 8
    else if kind = 'x' ∨ kind = 'X' then 16 else 10
  if base = 10 ∧ !integerFits n then throw .value
  let mark := if spec.alternate ∧ base ≠ 10 then
      (if base = 2 then "0b" else if base = 8 then "0o" else "0x") else ""
  let digits := radixDigits base n.natAbs
  let upper := kind = 'X'
  let digits := if upper then (upperAscii (String.ofList digits)).toList else digits
  return spec.number (if base = 10 then 3 else 4) (n < 0) (if upper then upperAscii mark else mark)
    digits ""

def wholeAndTail (s : String) : List Char × String :=
  (s.toList.takeWhile Text.isDigit, String.ofList (s.toList.dropWhile Text.isDigit))

def withPoint (s : String) : String :=
  let digits := s.toList.takeWhile (· ≠ 'e')
  if digits.contains '.' || !startsWithDigit digits then s
  else String.ofList (digits ++ '.' :: s.toList.dropWhile (· ≠ 'e'))

/-- The text of a double under a kind. Without a kind it is `plain`, or has the style `bare` if
there is a precision. -/
def Spec.shown (spec : Spec) (plain : Float → String) (bare : Decimal.Style) (x : Float) :
    Decimal.Unsigned :=
  let shown : Decimal.Unsigned := match spec.kind, spec.precision with
    | none, none =>
      let s := String.ofList ((plain x).toList.dropWhile (· == '-'))
      ⟨(plain x).startsWith "-", if spec.alternate then withPoint s else s⟩
    | none, some p => Decimal.render bare p spec.alternate x
    | some k, p =>
      let shown := Decimal.render (styleOf k) (p.getD 6) spec.alternate x
      ⟨shown.negative, if isUpper k then upperAscii shown.text else shown.text⟩
  -- the sign of what is shown counts, not that of the value
  let isZero := shown.text.toList.contains '0' &&
    shown.text.toList.all fun c => !Text.isDigit c || c == '0'
  ⟨shown.negative && !(spec.noNegativeZero && isZero), shown.text⟩

def Spec.checkPlaces (spec : Spec) : Except Cause Unit :=
  if (spec.precision.getD 0) ≤ maxPlaces then .ok () else .error .value

def Spec.float (spec : Spec) (x : Float) : Except Cause String := do
  spec.checkPlaces
  if spec.kind.any fun k => !"eEfFgGn%".toList.contains k then throw .value
  let shown :=
    if spec.kind = some '%' then
      let shown := { spec with kind := some 'f' }.shown Decimal.text .fractional (x * 100.0)
      ⟨shown.negative, shown.text ++ "%"⟩
    else spec.shown Decimal.text .fractional x
  let (whole, tail) := wholeAndTail shown.text
  return spec.number 3 shown.negative "" whole tail

/-- A complex number. Without a kind it has parentheses, unless its real part is plain zero and left
out. -/
def Spec.complex (spec : Spec) (re im : Float) : Except Cause String := do
  spec.checkPlaces
  if spec.fill = '0' ∨ spec.align = some '=' then throw .value
  if spec.kind.any fun k => !"eEfFgGn".toList.contains k then throw .value
  let part (sign : Option Char) (x : Float) : String :=
    let shown := spec.shown Decimal.partText .general x
    let (whole, tail) := wholeAndTail shown.text
    { spec with sign, width := 0 }.number 3 shown.negative "" whole tail
  let body :=
    if spec.kind.isSome then part spec.sign re ++ part (some '+') im ++ "j"
    else if Double.ofFloat re = .finite false 0 (-1074) then part spec.sign im ++ "j"
    else "(" ++ part spec.sign re ++ part (some '+') im ++ "j)"
  return spec.place '>' "" body

def Spec.text (spec : Spec) (s : String) : Except Cause String := do
  if spec.kind.getD 's' ≠ 's' || spec.sign.isSome || spec.alternate || spec.noNegativeZero
      || spec.grouping.isSome || spec.align = some '=' then throw .value
  let s := match spec.precision with
    | some n => String.ofList (s.toList.take n)
    | none => s
  return spec.place '<' "" s

def formatted (format : List Char) (v : Value) : Except Cause String := do
  if format.isEmpty then
    if v.fits then return v.display else throw .value
  let read (numeric : Bool) : Except Cause Spec :=
    match Spec.read numeric format with
    | some spec => .ok spec
    | none => .error .value
  match v with
  | .text s => (← read false).text s
  | .float x => (← read true).float x
  | .complex re im => (← read true).complex re im
  | .bool _ | .int _ =>
    let spec ← read true
    match spec.kind with
    | some k =>
      if "eEfFgG%".toList.contains k then spec.float (← toFloat v)
      else if "bcdnoxX".toList.contains k then spec.integer (← toInteger false v)
      else throw .value
    | none => spec.integer (← toInteger false v)
  | _ => throw .type

end Flowline.Condition.Format

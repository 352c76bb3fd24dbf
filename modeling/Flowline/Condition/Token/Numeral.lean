import Flowline.Decimal.Reading
import Flowline.Value

/-!
# Numerals

How numbers are written: integers of base ten, sixteen, eight and two, decimal numbers and imaginary
ones. Single underscores may stand between digits. Each reader takes a numeral off the front of a
text.
-/

namespace Flowline.Condition.Token

/-- Digits in groups that single underscores join, without the underscores. The first character
must be a digit. -/
def groupedDigits (isDigit : Char → Bool) :
    (fuel : Nat) → List Char → Option (List Char × List Char)
  | 0, _ => none
  | fuel + 1, cs =>
    let run := cs.takeWhile isDigit
    if run.isEmpty then none
    else match cs.dropWhile isDigit with
      | '_' :: rest => (groupedDigits isDigit fuel rest).map fun (more, left) => (run ++ more, left)
      | rest => some (run, rest)

def digits (cs : List Char) : Option (List Char × List Char) :=
  groupedDigits Text.isDigit (cs.length + 1) cs

def afterNumber : List String := ["and", "else", "for", "if", "in", "is", "not", "or"]

/-- Nothing that continues a name follows, except for a word that can follow a value. -/
def endsNumber (rest : List Char) : Bool :=
  let run := rest.takeWhile fun c => Text.isAsciiWord c || 128 ≤ c.toNat
  run.isEmpty || afterNumber.contains (String.ofList run)

def radixNumber (base : Nat) (cs : List Char) : Option (Value × List Char) :=
  let isDigit (c : Char) := match Text.hexValue? c with
    | some d => d < base
    | none => false
  let cs := match cs with
    | '_' :: rest => rest
    | _ => cs
  match groupedDigits isDigit (cs.length + 1) cs with
  | none => none
  | some (ds, rest) =>
    if !endsNumber rest then none
    else
      let n := ds.foldl (fun acc c => base * acc + (Text.hexValue? c).getD 0) 0
      some (.int n, rest)

/-- The exponent of a number; an `e` without digits belongs to what follows. -/
def exponent (cs : List Char) : Option (List Char × List Char) :=
  match cs with
  | e :: rest =>
    if e = 'e' ∨ e = 'E' then
      match rest with
      | '+' :: after => (digits after).map fun (ds, left) => ('e' :: '+' :: ds, left)
      | '-' :: after => (digits after).map fun (ds, left) => ('e' :: '-' :: ds, left)
      | c :: _ =>
        if Text.isDigit c then (digits rest).map fun (ds, left) => ('e' :: ds, left)
        else some ([], cs)
      | [] => some ([], cs)
    else some ([], cs)
  | [] => some ([], [])

def decimalNumber (whole : List Char) (cs : List Char) : Option (Value × List Char) := do
  let (fraction, rest) ← match cs with
    | '.' :: rest =>
      if (rest.head?.map Text.isDigit).getD false then
        (digits rest).map fun (ds, left) => ('.' :: ds, left)
      else some (['.'], rest)
    | _ => some ([], cs)
  let (power, rest) ← exponent rest
  let written := whole ++ fraction ++ power
  match rest with
  | j :: after =>
    if j = 'j' ∨ j = 'J' then
      if endsNumber after then
        return (.complex 0.0 ((Decimal.unsigned? false written).getD 0.0), after)
      else none
    else if !endsNumber rest then none
    else finish whole fraction power written rest
  | [] => finish whole fraction power written rest
where
  finish (whole fraction power written rest : List Char) : Option (Value × List Char) :=
    if fraction.isEmpty && power.isEmpty then
      if 4300 < whole.length || (whole.head? == some '0' && whole.any (· != '0')) then none
      else some (.int (Text.ofDigits whole), rest)
    else (Decimal.unsigned? false written).map fun x => (.float x, rest)

def numeral (cs : List Char) : Option (Value × List Char) :=
  match cs with
  | '.' :: _ => decimalNumber [] cs
  | '0' :: c :: rest =>
    if c = 'x' ∨ c = 'X' then radixNumber 16 rest
    else if c = 'o' ∨ c = 'O' then radixNumber 8 rest
    else if c = 'b' ∨ c = 'B' then radixNumber 2 rest
    else do
      let (whole, rest) ← digits cs
      decimalNumber whole rest
  | _ => do
    let (whole, rest) ← digits cs
    decimalNumber whole rest

end Flowline.Condition.Token

import Flowline.Text.Case
import Flowline.Text.Compose
import Flowline.Text.Identifier

/-!
# Host names beyond ASCII

A label of a host name with characters beyond ASCII is sent as `xn--` and ASCII: first its ASCII
characters, then, for each other character in the order of their code points, how far to count to
reach its code point and place, as a number of digits of growing weight.
-/

namespace Flowline.Web.Punycode

def digit (n : Nat) : Char := if n < 26 then Char.ofNat (97 + n) else Char.ofNat (22 + n)

def adapt (delta points : Nat) (first : Bool) : Nat :=
  let delta := if first then delta / 700 else delta / 2
  shrink delta.log2 (delta + delta / points) 0
where
  shrink : Nat → Nat → Nat → Nat
    | 0, delta, k => k + 36 * delta / (delta + 38)
    | fuel + 1, delta, k =>
      if 455 < delta then shrink fuel (delta / 35) (k + 36) else shrink 0 delta k

def threshold (k bias : Nat) : Nat := if k ≤ bias then 1 else min 26 (k - bias)

theorem threshold_pos (k bias : Nat) : 0 < threshold k bias := by
  unfold threshold
  split <;> omega

def digits (q k bias : Nat) : List Char :=
  if q < threshold k bias then [digit q]
  else
    let t := threshold k bias
    digit (t + (q - t) % (36 - t)) :: digits ((q - t) / (36 - t)) (k + 36) bias
termination_by q
decreasing_by
  have := threshold_pos k bias
  have := Nat.div_le_self (q - threshold k bias) (36 - threshold k bias)
  omega

structure State where
  delta : Nat := 0
  bias : Nat := 72
  written : Nat
  output : List Char := []

/-- Passes over the label once to write all occurrences of the character `n`. -/
def pass (n basic : Nat) (state : State) (label : List Nat) : State :=
  label.foldl (fun state m =>
    if m < n then { state with delta := state.delta + 1 }
    else if m = n then
      { delta := 0
        bias := adapt state.delta (state.written + 1) (state.written = basic)
        written := state.written + 1
        output := state.output ++ digits state.delta 36 state.bias }
    else state) state

def insertSorted (n : Nat) : List Nat → List Nat
  | [] => [n]
  | m :: rest =>
    if n < m then n :: m :: rest
    else if n = m then m :: rest
    else m :: insertSorted n rest

def encode (label : List Char) : List Char :=
  let codes := label.map Char.toNat
  let basic := label.filter (·.toNat < 128)
  let others := (codes.filter (128 ≤ ·)).foldr insertSorted []
  let start : State := { written := basic.length }
  let (state, _) := others.foldl (fun (state, n) m =>
    -- counting on to the next code point passes every place once for each step
    let state := { state with delta := state.delta + (m - n) * (state.written + 1) }
    let state := pass m basic.length state codes
    ({ state with delta := state.delta + 1 }, m + 1)) (start, 128)
  (if basic.isEmpty then [] else basic ++ ['-']) ++ state.output

/-- A character that a label may hold: a small ASCII letter, a digit, a hyphen, or a letter, digit
or mark beyond ASCII that has no other spelling. -/
def isLabelChar (c : Char) : Bool :=
  if c.toNat < 128 then ('a' ≤ c && c ≤ 'z') || Text.isDigit c || c == '-'
  else Text.isNameRest c && Text.lowerChar c == [c] && Text.compose [c] == [c]

def isLabel (label : List Char) : Bool :=
  !label.isEmpty && label.all isLabelChar && label.head? != some '-' && label.getLast? != some '-'
    && (label.drop 2).take 2 != ['-', '-'] && Text.compose label == label

def label? (label : List Char) : Option (List Char) :=
  let ascii := if label.all (·.toNat < 128) then label else "xn--".toList ++ encode label
  if isLabel label && ascii.length ≤ 63 then some ascii else none

def isPoint (c : Char) : Bool :=
  c == '.' || c.toNat == 0x3002 || c.toNat == 0xFF0E || c.toNat == 0xFF61

def host? (host : List Char) : Option (List Char) := do
  let labels := host.splitOnP isPoint
  let dotted := labels.getLast? == some []
  let labels ← (if dotted then labels.dropLast else labels).mapM label?
  let name := (labels.intersperse ['.']).flatten ++ if dotted then ['.'] else []
  if labels.isEmpty || (if dotted then 254 else 253) < name.length then none else some name

end Flowline.Web.Punycode

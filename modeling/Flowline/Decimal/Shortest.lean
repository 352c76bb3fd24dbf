import Flowline.Decimal.Double

/-!
# Shortest decimal text

The text of a double is the shortest decimal that reads back as it, and of those the nearest. The
search works on the interval of reals that round to the double: on each decimal grid, from one
digit upward, only the two neighbours of the exact value can lie in it.
-/

namespace Flowline.Decimal

def digitCount (n : Nat) : Nat := (Nat.toDigits 10 n).length

/-- A decimal `digits · 10^(point - length)`: the point stands after the first `point` digits. -/
structure Scientific where
  digits : List Char
  point : Int
  deriving DecidableEq, Repr

/-- The position of the decimal point of a positive quotient: the least `k` with value below
`10^k`. -/
def decimalPoint (num den : Nat) : Int :=
  let k : Int := (digitCount num : Int) - digitCount den
  let (n, d) :=
    if 0 ≤ k then (num, den * Nat.pow 10 k.toNat) else (num * Nat.pow 10 (-k).toNat, den)
  if d ≤ n then k + 1 else k

def overPower (num den : Nat) (k : Int) : Nat × Nat :=
  if 0 ≤ k then (num, den * Nat.pow 10 k.toNat) else (num * Nat.pow 10 (-k).toNat, den)

/-- The grid point of `count` digits that lies in the closed (or open) interval of numbers that
round to the value; of two, the nearer. All three bounds share a denominator. -/
def onGrid (low value high den : Nat) (closed : Bool) (point : Int) (count : Nat) :
    Option Nat :=
  let k := point - count
  let (n, d) := overPower value den k
  let (l, _) := overPower low den k
  let (h, _) := overPower high den k
  let inside (c : Nat) : Bool :=
    if closed then l ≤ c * d && c * d ≤ h else l < c * d && c * d < h
  let below := n / d
  let above := below + 1
  match inside below, inside above with
  | true, true => some (if 2 * (n % d) < d then below
      else if d < 2 * (n % d) then above else if below % 2 = 0 then below else above)
  | true, false => some below
  | false, true => some above
  | false, false => none

def trimZeros (digits : List Char) : List Char :=
  (digits.reverse.dropWhile (· == '0')).reverse

def search (low value high den : Nat) (closed : Bool) (point : Int) :
    (tries count : Nat) → Nat × Nat
  | 0, count => (value / den, count)
  | tries + 1, count =>
    match onGrid low value high den closed point count with
    | some (c + 1) => (c + 1, count)
    | _ => search low value high den closed point tries (count + 1)

/-- The shortest decimal of `m · 2^e` for a positive `m`. -/
def shortest (m : Nat) (e : Int) : Scientific :=
  -- a fourth of a unit below the least number of a binade, half a unit elsewhere
  let lowStep := if m = Nat.pow 2 52 ∧ e ≠ -1074 then 1 else 2
  let up := if 0 ≤ e then Nat.pow 2 e.toNat else 1
  let den := 4 * (if 0 ≤ e then 1 else Nat.pow 2 (-e).toNat)
  let value := 4 * m * up
  let low := (4 * m - lowStep) * up
  let high := (4 * m + 2) * up
  let point := decimalPoint value den
  let (c, count) := search low value high den (m % 2 == 0) point 17 1
  let text := Nat.toDigits 10 c
  ⟨trimZeros text, point + (text.length : Int) - count⟩

/-- How a decimal is laid out: positional up to `10^largest`, and down to `10^-smallest`. -/
structure Layout where
  largest : Int
  smallest : Int
  exponentMark : String
  exponentWidth : Nat
  fraction : Bool

def Layout.float : Layout := ⟨16, -4, "e", 2, true⟩

def padLeft (width : Nat) (fill : Char) (digits : List Char) : List Char :=
  List.replicate (width - digits.length) fill ++ digits

def exponentText (width : Nat) (e : Int) : String :=
  (if e < 0 then "-" else "+") ++ String.ofList (padLeft width '0' (Nat.toDigits 10 e.natAbs))

def Layout.render (layout : Layout) (s : Scientific) : String :=
  let count := (s.digits.length : Int)
  if s.point ≤ layout.smallest ∨ layout.largest < s.point then
    let tail := s.digits.drop 1
    String.ofList (s.digits.take 1) ++ (if tail.isEmpty then "" else "." ++ String.ofList tail)
      ++ layout.exponentMark ++ exponentText layout.exponentWidth (s.point - 1)
  else if s.point ≤ 0 then
    "0." ++ String.ofList (List.replicate (-s.point).toNat '0' ++ s.digits)
  else if count ≤ s.point then
    String.ofList (s.digits ++ List.replicate (s.point - count).toNat '0')
      ++ (if layout.fraction then ".0" else "")
  else
    let places := s.point.toNat
    String.ofList (s.digits.take places) ++ "." ++ String.ofList (s.digits.drop places)

def sign (negative : Bool) : String := if negative then "-" else ""

def text (x : Float) : String :=
  match Double.ofFloat x with
  | .nan => "nan"
  | .infinite negative => sign negative ++ "inf"
  | .finite negative m e =>
    sign negative ++ if m = 0 then "0.0" else Layout.float.render (shortest m e)

end Flowline.Decimal

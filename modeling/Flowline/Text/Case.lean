import Flowline.Text.CaseTable
import Flowline.Text.Word

/-!
# Letter case

Full case images: a letter can become several characters, and a capital sigma that ends a word
becomes the final form.
-/

namespace Flowline.Text

def CaseRun.image? (run : CaseRun) (n : Nat) : Option Nat :=
  if run.first ≤ n && n ≤ run.last && (n - run.first) % run.step == 0 then
    some ((n : Int) + run.offset).toNat
  else none

def imageIn (runs : List CaseRun) (special : List (Nat × List Nat)) (c : Char) : List Char :=
  match special.lookup c.toNat with
  | some image => image.map Char.ofNat
  | none =>
    match runs.findSome? (·.image? c.toNat) with
    | some n => [Char.ofNat n]
    | none => [c]

def lowerChar (c : Char) : List Char :=
  if c.toNat < 128 then [if 'A' ≤ c && c ≤ 'Z' then Char.ofNat (c.toNat + 32) else c]
  else imageIn lowerRuns lowerSpecial c

def upperChar (c : Char) : List Char :=
  if c.toNat < 128 then [if 'a' ≤ c && c ≤ 'z' then Char.ofNat (c.toNat - 32) else c]
  else imageIn upperRuns upperSpecial c

def isCaseIgnorable (c : Char) : Bool :=
  if c.toNat < 128 then c == '\'' || c == '.' || c == ':' || c == '^' || c == '\x60'
  else caseIgnorableRanges.contains c.toNat

def isCased (c : Char) : Bool :=
  if c.toNat < 128 then isAsciiLetter c else casedRanges.contains c.toNat

/-- The nearest character that is not looked past is a letter with a case. -/
def meetsCased (cs : List Char) : Bool :=
  match cs.find? (!isCaseIgnorable ·) with
  | some c => isCased c
  | none => false

/-- Lower case of the rest of a text; `before` is what precedes it, nearest first. -/
def lowerFrom : (before rest : List Char) → List Char
  | _, [] => []
  | before, c :: rest =>
    let image :=
      if c = 'Σ' then [if meetsCased before && !meetsCased rest then 'ς' else 'σ']
      else lowerChar c
    image ++ lowerFrom (c :: before) rest

def lower (s : String) : String := String.ofList (lowerFrom [] s.toList)

def upper (s : String) : String := String.ofList (s.toList.flatMap upperChar)

/-- An ASCII letter and a character that differ only in case. The dotted and dotless `i`, the long
`s` and the Kelvin sign are cases of `i`, `s` and `k`. -/
def sameLetter (letter c : Char) : Bool :=
  let base := if 'A' ≤ letter && letter ≤ 'Z' then Char.ofNat (letter.toNat + 32) else letter
  let folded := if 'A' ≤ c && c ≤ 'Z' then Char.ofNat (c.toNat + 32) else c
  folded == base || (base == 'i' && (c.toNat == 0x130 || c.toNat == 0x131))
    || (base == 's' && c.toNat == 0x17F) || (base == 'k' && c.toNat == 0x212A)

end Flowline.Text

import Flowline.Text.ComposeTable

/-!
# Compatibility composition

Names that look alike can be spelled with different characters. `compose` brings a name to one
spelling: every character is taken apart as far as possible, marks are put into the order of their
classes, and letters and marks are put together again.
-/

namespace Flowline.Text

/-! ## Syllables made of a leading consonant, a vowel and perhaps a trailing consonant -/

def syllableBase : Nat := 0xAC00
def leadBase : Nat := 0x1100
def vowelBase : Nat := 0x1161
def tailBase : Nat := 0x11A7

def syllableParts? (n : Nat) : Option (List Nat) :=
  let k := n - syllableBase
  if n < syllableBase ∨ 11172 ≤ k then none
  else
    let parts := [leadBase + k / 588, vowelBase + k % 588 / 28]
    some (if k % 28 = 0 then parts else parts ++ [tailBase + k % 28])

def joinSyllable? (a b : Nat) : Option Nat :=
  if leadBase ≤ a && a < leadBase + 19 && vowelBase ≤ b && b < vowelBase + 21 then
    some (syllableBase + (a - leadBase) * 588 + (b - vowelBase) * 28)
  else if syllableBase ≤ a && a < syllableBase + 11172 && (a - syllableBase) % 28 == 0
      && tailBase < b && b < tailBase + 28 then some (a + (b - tailBase))
  else none

/-! ## Taking apart, ordering, putting together -/

def imageIn? (runs : List ImageRun) (n : Nat) : Option (List Nat) :=
  (runs.find? fun run => run.first ≤ n && n ≤ run.last).map fun run =>
    match run.image with
    | [image] => [image + (n - run.first)]
    | image => image

/-- All parts of a character. A part of a pair may be a pair itself, at most `depth` times. -/
def partsOf (depth : Nat) (n : Nat) : List Nat :=
  match depth with
  | 0 => [n]
  | depth + 1 =>
    if n < 128 then [n]
    else match syllableParts? n, imageIn? pairRuns n with
      | some parts, _ => parts
      | none, some parts => parts.flatMap (partsOf depth)
      | none, none => (imageIn? otherRuns n).getD [n]

def markClass (n : Nat) : Nat :=
  if n < 128 then 0
  else match classRuns.find? fun run => run.first ≤ n && n ≤ run.last with
    | some run => run.image.headD 0
    | none => 0

/-- Puts a mark behind the earlier marks that are not of a higher class; `before` is nearest
first. -/
def insertMark (n mark : Nat) : List (Nat × Nat) → List (Nat × Nat)
  | [] => [(n, mark)]
  | (m, other) :: rest =>
    if mark < other then (m, other) :: insertMark n mark rest else (n, mark) :: (m, other) :: rest

def orderMarks (ns : List Nat) : List (Nat × Nat) :=
  (ns.foldl (fun before n =>
    let mark := markClass n
    if mark = 0 then (n, 0) :: before else insertMark n mark before) []).reverse

def join? (a b : Nat) : Option Nat :=
  (joinSyllable? a b).or ((pairRuns.find? fun run => run.image == [a, b]).map (·.first))

/-- Joins a letter with the marks and letters behind it. `skipped` holds, nearest first, what did
not join; a mark joins only past marks of a lower class, and a letter only if nothing was
skipped. -/
def joinMarks (letter : Nat) (skipped : List (Nat × Nat)) : List (Nat × Nat) → List Nat
  | [] => letter :: (skipped.map (·.1)).reverse
  | (n, mark) :: rest =>
    let free := match skipped with
      | [] => true
      | (_, last) :: _ => last < mark
    match if free then join? letter n else none with
    | some joined => joinMarks joined skipped rest
    | none =>
      if mark = 0 then (letter :: (skipped.map (·.1)).reverse) ++ joinMarks n [] rest
      else joinMarks letter ((n, mark) :: skipped) rest

def compose (cs : List Char) : List Char :=
  if cs.all (·.toNat < 128) then cs
  else
    let marked := orderMarks (cs.flatMap fun c => partsOf 4 c.toNat)
    let lead := marked.takeWhile fun entry => entry.2 != 0
    let joined := match marked.dropWhile fun entry => entry.2 != 0 with
      | [] => []
      | (n, _) :: rest => joinMarks n [] rest
    (lead.map (·.1) ++ joined).map Char.ofNat

end Flowline.Text

import Flowline.Text.Digit

/-!
# Character ranges

A property of characters beyond ASCII is a list of code point ranges. It can be written as
hexadecimal words such as `aa b5 c0-d6`.
-/

namespace Flowline.Text

/-- Code point ranges with both ends included. -/
abbrev Ranges := List (Nat × Nat)

namespace Ranges

/-- Reads the words of a range text, which may be broken into lines; a word that is not
hexadecimal is left out. -/
def ofText (s : String) : Ranges :=
  let words := s.toList.splitBy fun a b => !a.isWhitespace && !b.isWhitespace
  words.filterMap fun word =>
    match word.splitOn '-' with
    | [one] => (ofHex? one).map fun n => (n, n)
    | [low, high] => do return (← ofHex? low, ← ofHex? high)
    | _ => none

def contains (ranges : Ranges) (n : Nat) : Bool :=
  ranges.any fun (low, high) => low ≤ n && n ≤ high

end Ranges

end Flowline.Text

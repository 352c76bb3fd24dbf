/-!
# Blanks and line breaks

The characters that trimming removes, and those that end a line. Trimming leaves a piece of the
text whose ends, if there are any, are not blank.
-/

namespace Flowline.Text

/-- White space, the four separators of the control range and the next-line character. -/
def isBlank (c : Char) : Bool :=
  let n := c.toNat
  (9 ≤ n && n ≤ 13) || (28 ≤ n && n ≤ 32) || n == 0x85 || n == 0xA0 || n == 0x1680
    || (0x2000 ≤ n && n ≤ 0x200A) || n == 0x2028 || n == 0x2029 || n == 0x202F || n == 0x205F
    || n == 0x3000

/-- Ends a line; a carriage return and a line feed together end one line. -/
def isLineBreak (c : Char) : Bool :=
  let n := c.toNat
  (10 ≤ n && n ≤ 13) || (28 ≤ n && n ≤ 30) || n == 0x85 || n == 0x2028 || n == 0x2029

def trimLeft (cs : List Char) : List Char := cs.dropWhile isBlank

def trimRight (cs : List Char) : List Char := (cs.reverse.dropWhile isBlank).reverse

def trimBoth (cs : List Char) : List Char := trimRight (trimLeft cs)

def trim (s : String) : String := String.ofList (trimBoth s.toList)

def isBlankText (s : String) : Bool := s.toList.all isBlank

/-- The lines of a text, without their ends. A line end at the very end opens no further line. -/
def linesFrom : List Char → List Char → List (List Char)
  | [], [] => []
  | current, [] => [current.reverse]
  | current, '\r' :: '\n' :: rest => current.reverse :: linesFrom [] rest
  | current, c :: rest =>
    if isLineBreak c then current.reverse :: linesFrom [] rest else linesFrom (c :: current) rest

def lines (s : String) : List (List Char) := linesFrom [] s.toList

end Flowline.Text

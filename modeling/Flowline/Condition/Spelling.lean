import Flowline.Text.Blank
import Flowline.Text.Case
import Flowline.Text.Word

/-!
# Spellings

A condition may be written with `&&`, `||`, `!`, `=`, `<>`, `true`, `false` in any case, function
names in any case and `if(…)`. `Spelling.normalize` turns these into the one spelling that the
grammar knows. It works on the code between string literals and leaves the literals alone.
-/

namespace Flowline.Condition.Spelling

/-- The length of what follows an opening quote, up to and with the closing one, if it closes: a
backslash takes the next character along, unless that ends the line. -/
def literalTail? (quote : Char) : List Char → Option Nat
  | [] => none
  | '\\' :: [] => none
  | '\\' :: c :: rest => if c = '\n' then none else (literalTail? quote rest).map (· + 2)
  | c :: rest => if c = quote then some 1 else (literalTail? quote rest).map (· + 1)

def literalLength? : List Char → Option Nat
  | '\'' :: rest => (literalTail? '\'' rest).map (· + 1)
  | '"' :: rest => (literalTail? '"' rest).map (· + 1)
  | _ => none

/-- A stretch of an expression: code, or one string literal with its quotes. -/
inductive Segment where
  | code (cs : List Char)
  | literal (cs : List Char)
  deriving DecidableEq, Repr

def Segment.source : Segment → List Char
  | .code cs => cs
  | .literal cs => cs

/-- Code and literals in turn; `before` is the code read so far, backwards. -/
def segmentsFrom (before : List Char) (cs : List Char) : List Segment :=
  match cs with
  | [] => [.code before.reverse]
  | c :: rest =>
    match literalLength? (c :: rest) with
    | some (n + 1) =>
      .code before.reverse :: .literal ((c :: rest).take (n + 1)) :: segmentsFrom [] (rest.drop n)
    | _ => segmentsFrom (c :: before) rest
termination_by cs.length

def segments (cs : List Char) : List Segment := segmentsFrom [] cs

theorem source_segmentsFrom (before cs : List Char) :
    (segmentsFrom before cs).flatMap Segment.source = before.reverse ++ cs := by
  fun_induction segmentsFrom before cs with
  | case1 => simp [Segment.source]
  | case2 before c rest n h ih => simp [Segment.source, ih]
  | case3 before c rest h ih => simp [ih]

/-- Nothing of an expression is lost in its segments. -/
theorem source_segments (cs : List Char) : (segments cs).flatMap Segment.source = cs := by
  simp [segments, source_segmentsFrom]

def literals (cs : List Char) : List (List Char) :=
  (segments cs).filterMap fun
    | .code _ => none
    | .literal cs => some cs

/-- Replaces a two-character operator, leftmost first. -/
def replacePair (a b : Char) (image : List Char) : List Char → List Char
  | [] => []
  | [c] => [c]
  | c :: d :: rest =>
    if c = a ∧ d = b then image ++ replacePair a b image rest
    else c :: replacePair a b image (d :: rest)

/-- A lone `=` becomes `==`; `previous` is the character before. -/
def doubleEquals (previous : Option Char) : List Char → List Char
  | [] => []
  | c :: rest =>
    if c = '=' ∧ previous ∉ [some '=', some '!', some '<', some '>'] ∧ rest.head? ≠ some '=' then
      '=' :: '=' :: doubleEquals (some c) rest
    else c :: doubleEquals (some c) rest

def spellNot : List Char → List Char
  | [] => []
  | c :: rest =>
    if c = '!' ∧ rest.head? ≠ some '=' then " not ".toList ++ spellNot rest else c :: spellNot rest

/-- Replaces every maximal run of word characters, given what follows it. -/
def mapWords (f : (word following : List Char) → List Char) (cs : List Char) : List Char :=
  match cs with
  | [] => []
  | c :: rest =>
    if Text.isWord c then
      let word := c :: rest.takeWhile Text.isWord
      let following := rest.dropWhile Text.isWord
      f word following ++ mapWords f following
    else c :: mapWords f rest
termination_by cs.length
decreasing_by
  · have := (List.dropWhile_sublist (l := rest) Text.isWord).length_le
    simp only [List.length_cons]; omega
  · simp

def isSpelling (word : List Char) (cs : List Char) : Bool :=
  word.length == cs.length && (word.zip cs).all fun (letter, c) => Text.sameLetter letter c

def spellTruth (word _following : List Char) : List Char :=
  if isSpelling "true".toList word then "True".toList
  else if isSpelling "false".toList word then "False".toList
  else word

def opensCall (cs : List Char) : Bool := (cs.dropWhile Text.isBlank).head? == some '('

def spellCall (word following : List Char) : List Char :=
  match word with
  | c :: _ =>
    if (Text.isAsciiLetter c || c == '_') && opensCall following then Text.lowerFrom [] word
    else word
  | [] => []

/-- The characters after which `if(` is a call. -/
def precedesIf (c : Char) : Bool := Text.isBlank c || "(,=!<>&|+-*/%".toList.contains c

def ifCallLength? : List Char → Option Nat
  | 'i' :: 'f' :: rest =>
    let blanks := rest.takeWhile Text.isBlank
    if opensCall rest then some (blanks.length + 3) else none
  | _ => none

def choiceCall : List Char := "iif(".toList

/-- A call of `if` at the front, or after one of the characters that may precede it. The scan goes
on behind the parenthesis, so that one cannot precede the next call. -/
def spellIf (atStart : Bool) (cs : List Char) : List Char :=
  match cs with
  | [] => []
  | c :: rest =>
    match (if atStart then ifCallLength? (c :: rest) else none) with
    | some (n + 1) => choiceCall ++ spellIf false (rest.drop n)
    | _ =>
      match (if precedesIf c then ifCallLength? rest else none) with
      | some n => c :: choiceCall ++ spellIf false (rest.drop n)
      | none => c :: spellIf false rest
termination_by cs.length

def normalizeCode (cs : List Char) : List Char :=
  let cs := replacePair '&' '&' " and ".toList cs
  let cs := replacePair '|' '|' " or ".toList cs
  let cs := replacePair '<' '>' "!=".toList cs
  let cs := doubleEquals none cs
  let cs := spellNot cs
  let cs := mapWords spellTruth cs
  let cs := mapWords spellCall cs
  spellIf true cs

def Segment.normalize : Segment → List Char
  | .code cs => normalizeCode cs
  | .literal cs => cs

def normalizeChars (cs : List Char) : List Char := (segments cs).flatMap Segment.normalize

/-- The expression in the one spelling that the grammar knows. -/
def normalize (expression : String) : String := String.ofList (normalizeChars expression.toList)

end Flowline.Condition.Spelling

import Flowline.Value
import Flowline.Decimal.Reading
import Flowline.Text.Utf16

/-!
# Reading JSON

The reader takes one value off the front of a text and says what is left. A failure carries how
many characters were left where the text stopped being JSON, which is all that is needed to name
the position. Beyond the standard it accepts `NaN` and `Infinity`, and of fields with one key the
last value counts.
-/

namespace Flowline.Json

inductive ReadError where
  /-- The text is not JSON; `left` characters remain at the fault. -/
  | malformed (left : Nat)
  | integerTooLong
  deriving DecidableEq, Repr

abbrev Read (α : Type) := Except ReadError (α × List Char)

def fault (rest : List Char) : Except ReadError α := .error (.malformed rest.length)

def isSpace (c : Char) : Bool := c == ' ' || c == '\t' || c == '\n' || c == '\r'

def skipSpace (cs : List Char) : List Char := cs.dropWhile isSpace

def simpleEscape? (c : Char) : Option Char :=
  match c with
  | '"' => some '"'
  | '\\' => some '\\'
  | '/' => some '/'
  | 'b' => some '\x08'
  | 'f' => some '\x0c'
  | 'n' => some '\n'
  | 'r' => some '\r'
  | 't' => some '\t'
  | _ => none

def unit? (a b c d : Char) : Option Nat := Text.ofHex? [a, b, c, d]

/-- The rest of a text literal, up to and including its closing quote. A text that is never closed
is a fault at its opening quote, behind which `opening` follows. -/
def chars (opening : List Char) : List Char → Read (List Char)
  | [] => .error (.malformed (opening.length + 1))
  | '"' :: rest => .ok ([], rest)
  | ['\\'] => .error (.malformed (opening.length + 1))
  -- two escapes may spell the halves of one pair
  | '\\' :: 'u' :: a :: b :: c :: d :: '\\' :: 'u' :: e :: f :: g :: h :: i :: rest =>
    match unit? a b c d with
    | none => .error (.malformed (rest.length + 12))
    | some high =>
      if Text.Utf16.isHigh high then
        match unit? e f g h with
        | none => .error (.malformed (rest.length + 6))
        | some low =>
          if Text.Utf16.isLow low then
            (chars opening (i :: rest)).map fun (text, left) =>
              (Char.ofNat (Text.joinHalves high low) :: text, left)
          else
            (chars opening ('\\' :: 'u' :: e :: f :: g :: h :: i :: rest)).map fun (text, left) =>
              (Text.ofUnit high :: text, left)
      else
        (chars opening ('\\' :: 'u' :: e :: f :: g :: h :: i :: rest)).map fun (text, left) =>
          (Text.ofUnit high :: text, left)
  | '\\' :: 'u' :: a :: b :: c :: d :: e :: rest =>
    match unit? a b c d with
    | none => .error (.malformed (rest.length + 6))
    | some unit => (chars opening (e :: rest)).map fun (text, left) =>
        (Text.ofUnit unit :: text, left)
  | '\\' :: 'u' :: rest => .error (.malformed (rest.length + 1))
  | '\\' :: c :: rest =>
    match simpleEscape? c with
    | none => .error (.malformed (rest.length + 2))
    | some c => (chars opening rest).map fun (text, left) => (c :: text, left)
  | c :: rest =>
    if c.toNat < 0x20 then .error (.malformed (rest.length + 1))
    else (chars opening rest).map fun (text, left) => (c :: text, left)

def text (rest : List Char) : Read String :=
  (chars rest rest).map fun (cs, left) => (String.ofList cs, left)

/-- The digits before the point: a zero, or digits that start with another one. -/
def wholeDigits : List Char → Option (List Char × List Char)
  | '0' :: rest => some (['0'], rest)
  | c :: rest =>
    if Text.isDigit c then
      some (c :: rest.takeWhile Text.isDigit, rest.dropWhile Text.isDigit)
    else none
  | [] => none

def fractionDigits : List Char → List Char × List Char
  | '.' :: c :: rest =>
    if Text.isDigit c then
      ('.' :: c :: rest.takeWhile Text.isDigit, rest.dropWhile Text.isDigit)
    else ([], '.' :: c :: rest)
  | rest => ([], rest)

def exponentDigits (cs : List Char) : List Char × List Char :=
  match cs with
  | e :: rest =>
    if e = 'e' ∨ e = 'E' then
      let (mark, rest) := match rest with
        | '-' :: after => (['-'], after)
        | '+' :: after => (['+'], after)
        | _ => ([], rest)
      let digits := rest.takeWhile Text.isDigit
      if digits.isEmpty then ([], cs) else (e :: mark ++ digits, rest.dropWhile Text.isDigit)
    else ([], cs)
  | [] => ([], [])

def number (cs : List Char) : Read Value :=
  let (negative, body) := match cs with
    | '-' :: rest => (true, rest)
    | _ => (false, cs)
  match wholeDigits body with
  | none => fault cs
  | some (whole, rest) =>
    let (fraction, rest) := fractionDigits rest
    let (exponent, rest) := exponentDigits rest
    if fraction.isEmpty && exponent.isEmpty then
      if 4300 < whole.length then .error .integerTooLong
      else .ok (.int (Double.signed negative (Text.ofDigits whole)), rest)
    else
      match Decimal.unsigned? negative (whole ++ fraction ++ exponent) with
      | some x => .ok (.float x, rest)
      | none => fault cs

def words : List (List Char × Value) :=
  [("null".toList, .null), ("true".toList, .bool true), ("false".toList, .bool false),
   ("NaN".toList, .float Double.notANumber), ("Infinity".toList, .float (Double.infinity false)),
   ("-Infinity".toList, .float (Double.infinity true))]

def scalar (cs : List Char) : Read Value :=
  match words.find? fun (word, _) => word.isPrefixOf cs with
  | some (word, v) => .ok (v, cs.drop word.length)
  | none => number cs

def key (cs : List Char) : Except ReadError (String × List Char) :=
  match cs with
  | '"' :: rest => do
    let (name, rest) ← text rest
    match skipSpace rest with
    | ':' :: rest => return (name, skipSpace rest)
    | rest => fault rest
  | _ => fault cs

mutual
/-- One value. Each call spends one unit of fuel and takes at least one character. -/
def value : Nat → List Char → Except ReadError (Value × List Char)
  | 0, cs => fault cs
  | fuel + 1, cs =>
    match cs with
    | '"' :: rest => (text rest).map fun (s, left) => (.text s, left)
    | '[' :: rest =>
      match skipSpace rest with
      | ']' :: rest => .ok (.list [], rest)
      | rest => (items fuel rest).map fun (vs, left) => (.list vs, left)
    | '\x7b' :: rest =>
      match skipSpace rest with
      | '\x7d' :: rest => .ok (.record [], rest)
      | rest => (fields fuel [] rest).map fun (vs, left) => (.record vs, left)
    | _ => scalar cs
def items : Nat → List Char → Except ReadError (List Value × List Char)
  | 0, cs => fault cs
  | fuel + 1, cs => do
    let (item, rest) ← value fuel cs
    match skipSpace rest with
    | ']' :: rest => return ([item], rest)
    | ',' :: rest =>
      let (more, rest) ← items fuel (skipSpace rest)
      return (item :: more, rest)
    | rest => fault rest
def fields : Nat → Fields Value → List Char → Except ReadError (Fields Value × List Char)
  | 0, _, cs => fault cs
  | fuel + 1, before, cs => do
    let (name, rest) ← key cs
    let (item, rest) ← value fuel rest
    let before := before.put name item
    match skipSpace rest with
    | '\x7d' :: rest => return (before, rest)
    | ',' :: rest => fields fuel before (skipSpace rest)
    | rest => fault rest
end

def read (s : String) : Except ReadError Value := do
  let cs := s.toList
  let (v, rest) ← value (2 * cs.length + 2) (skipSpace cs)
  match skipSpace rest with
  | [] => return v
  | rest => fault rest

end Flowline.Json

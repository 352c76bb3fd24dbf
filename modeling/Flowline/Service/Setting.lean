import Flowline.Decimal.Reading
import Flowline.Graph.Problem
import Flowline.Json.Reader
import Flowline.Text.Case
import Flowline.Text.Part

/-!
# Single settings

Settings are texts by name. A text is read as the kind of value that its setting holds; names are
compared without regard to letter case.
-/

namespace Flowline.Service

abbrev Environment := Fields String

/-- An environment from names and texts in order; of two names that differ only in case the later
counts. -/
def Environment.ofEntries (entries : List (String × String)) : Environment :=
  Fields.merge [] (entries.map fun entry => (Text.lower entry.1, entry.2))

namespace Setting

/-- White space, without the separators of the control range. -/
def isSpace (c : Char) : Bool := Text.isBlank c && !(28 ≤ c.toNat && c.toNat < 32)

def trim (cs : List Char) : List Char := Text.dropEnd isSpace (cs.dropWhile isSpace)

def ungroup? (cs : List Char) : Option (List Char) :=
  if cs.head? == some '_' || cs.getLast? == some '_' || Text.isInside ['_', '_'] cs then none
  else some (cs.filter (· != '_'))

def isLeading (c : Char) : Bool := Text.isDigit c && c != '0'

/-- Drops what follows a leading zero up to another digit; underscores there do not matter, and the
last character before a point or the end is kept. -/
def dropZeros? (last : Char) : List Char → Option (List Char)
  | [] => some [last]
  | c :: rest =>
    if c == '0' || c == '_' then dropZeros? c rest
    else if c == '.' then some (last :: c :: rest)
    else if isLeading c then some (c :: rest)
    else none

def plainFront? : List Char → Option (List Char)
  | '0' :: rest => dropZeros? '0' rest
  | c :: rest => if isLeading c || c == '-' then some (c :: rest) else none
  | [] => none

/-- A plus sign is dropped unless a minus sign follows it. -/
def dropPlus? : List Char → Option (List Char)
  | '+' :: '-' :: _ => none
  | '+' :: rest => some rest
  | cs => some cs

def dropFraction? (cs : List Char) : Option (List Char) :=
  match Text.cut? '.' cs with
  | some (whole, fraction) => if fraction.all (· == '0') then some whole else none
  | none => some cs

/-- An integer with a minus sign or none, at most 4300 characters and no needless zero. -/
def plainInteger? (cs : List Char) : Option Int :=
  let (negative, digits) := match cs with
    | '-' :: rest => (true, rest)
    | _ => (false, cs)
  if digits.isEmpty || !digits.all Text.isDigit || 4300 < cs.length
      || (digits.head? == some '0' && digits != ['0']) then none
  else some (Double.signed negative (Text.ofDigits digits))

def integer? (s : String) : Option Int :=
  ((((dropPlus? (trim s.toList)).bind plainFront?).bind dropFraction?).bind ungroup?).bind
    plainInteger?

def decimal? (cs : List Char) : Option Float := (Decimal.special? cs).or (Decimal.signed? cs)

def number? (s : String) : Option Float :=
  let cs := trim s.toList
  (decimal? cs).or ((ungroup? cs).bind decimal?)

def yesWords : List String := ["1", "t", "y", "on", "yes", "true"]

def noWords : List String := ["0", "f", "n", "no", "off", "false"]

def truth? (s : String) : Option Bool :=
  let word := String.ofList (s.toList.map Text.lowerAscii)
  if yesWords.contains word then some true
  else if noWords.contains word then some false
  else none

def readAs (parse? : String → Option α) (cause : ProblemCause) (s : String) : Loaded α :=
  match parse? s with
  | some a => .accepted a
  | none => Loaded.problem cause (.text s)

def readInteger : String → Loaded Int := readAs integer? .notInteger

def readNumber : String → Loaded Float := readAs number? .notNumber

def readTruth : String → Loaded Bool := readAs truth? .notTruth

def readText (s : String) : Loaded String := .accepted s

/-- A list of texts, written as JSON; null leaves the default. -/
def readTexts (default : List String) (s : String) : Loaded (List String) :=
  match Json.read s with
  | .error _ => .broken .listNotJson
  | .ok .null => .accepted default
  | .ok (.list items) => Loaded.items (fun
    | .text item => .accepted item
    | v => Loaded.problem .notText v) 0 items
  | .ok v => Loaded.problem .notList v

def read (environment : Environment) (name : String) (default : α) (parse : String → Loaded α) :
    Loaded α :=
  match Fields.find? environment name with
  | some s => (parse s).under (.key name)
  | none => .accepted default

end Setting

end Flowline.Service

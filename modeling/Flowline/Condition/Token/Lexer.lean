import Flowline.Condition.Token.Literal
import Flowline.Condition.Token.Numeral
import Flowline.Text.Compose
import Flowline.Text.Identifier

/-!
# Cutting a condition into tokens

A text is cut from the left, and at each place the longest token counts. A text that cannot be cut
this way has a syntax error, and nothing more is said about it.
-/

namespace Flowline.Condition.Token

/-! ## Names and symbols -/

def isNameUnit (c : Char) : Bool := Text.isAsciiWord c || 128 ≤ c.toNat

def isName (cs : List Char) : Bool :=
  match cs with
  | c :: rest => Text.isNameStart c && rest.all Text.isNameRest
  | [] => false

def nameOrLiteral (cs : List Char) : Option (Token × List Char) :=
  -- every character beyond ASCII is taken along, and then the whole run must be a name
  let run := cs.takeWhile isNameUnit
  let rest := cs.dropWhile isNameUnit
  let plain : Option (Token × List Char) :=
    if run.all (·.toNat < 128) then
      let s := String.ofList run
      some (if reservedWords.contains s then .word s else .name s, rest)
    else if isName run then some (.name (String.ofList (Text.compose run)), rest)
    else none
  match rest with
  | q :: after =>
    if q = '\'' ∨ q = '"' then
      match mark? run with
      | some mark => literalWith mark q after
      | none => plain
    else plain
  | [] => plain

/-- A token that is not bound to lines: the one at the front of a text that starts neither with a
space nor with a line end. -/
def inLine (cs : List Char) : Option (Token × List Char) :=
  match cs with
  | [] => none
  | c :: rest =>
    if Text.isDigit c || (c == '.' && (rest.head?.map Text.isDigit).getD false) then
      (numeral cs).map fun (v, left) => (.number v, left)
    else if c = '\'' ∨ c = '"' then literalWith ⟨false, false, false⟩ c rest
    else if Text.isAsciiLetter c || c == '_' || 128 ≤ c.toNat then nameOrLiteral cs
    else
      (symbols.find? fun s => s.toList.isPrefixOf cs).map fun s => (.symbol s, cs.drop s.length)

/-! ## Lines -/

/-- The columns of the open blocks, innermost first; the second number counts a tab as one. -/
abbrev Indents := List (Nat × Nat)

def column (held : Nat) : (col alt : Nat) → List Char → Nat × Nat × List Char
  | col, alt, ' ' :: rest => column held (col + 1) (alt + 1) rest
  | col, alt, '\t' :: rest => column held ((col / 8 + 1) * 8) (alt + 1) rest
  | _, _, '\x0c' :: rest => column held 0 0 rest
  | col, alt, '\\' :: '\n' :: c :: rest =>
    column (if held = 0 then col else held) col alt (c :: rest)
  | col, alt, rest => if held = 0 then (col, alt, rest) else (held, held, rest)

/-- The blocks that a line at the given columns opens or closes, and those open after it. A line
closes blocks back to one at exactly its column, by either way of counting tabs. -/
def enter (col alt : Nat) : Indents → Option (List Token × Indents)
  | [] => if col = 0 ∧ alt = 0 then some ([], []) else
      if 0 < col ∧ 0 < alt then some ([.indent], [(col, alt)]) else none
  | (c, a) :: outer =>
    if col = c then (if alt = a then some ([], (c, a) :: outer) else none)
    else if c < col then
      if a < alt then some ([.indent], (col, alt) :: (c, a) :: outer) else none
    else leave ((c, a) :: outer)
where
  leave : Indents → Option (List Token × Indents)
    | [] => if col = 0 ∧ alt = 0 then some ([], []) else none
    | (c, a) :: outer =>
      if col < c then (leave outer).map fun (tokens, left) => (.dedent :: tokens, left)
      else if col = c ∧ alt = a then some ([], (c, a) :: outer)
      else none

def skipComment (cs : List Char) : List Char :=
  match cs with
  | '#' :: _ => cs.dropWhile (· != '\n')
  | _ => cs

def closing? : String → Option String
  | "(" => some ")"
  | "[" => some "]"
  | "\x7b" => some "\x7d"
  | _ => none

/-- The closing brackets still owed after a token. Brackets nest at most 200 deep. -/
def owe (owed : List String) (token : Token) : Option (List String) :=
  match token with
  | .symbol s =>
    match closing? s with
    | some close => if 200 ≤ owed.length then none else some (close :: owed)
    | none =>
      if s = ")" ∨ s = "]" ∨ s = "\x7d" then
        match owed with
        | close :: rest => if close = s then some rest else none
        | [] => none
      else some owed
  | _ => some owed

/-- The tokens of a text; `start` says that a line begins here. Each round takes a character. -/
def scan : (fuel : Nat) → (start : Bool) → List String → Indents → List Char → Option (List Token)
  | 0, _, _, _, _ => none
  | fuel + 1, true, owed, indents, cs =>
    let (col, alt, rest) := column 0 0 0 cs
    match skipComment rest with
    | [] => some (indents.map fun _ => .dedent)
    | '\n' :: rest => scan fuel true owed indents rest
    | rest => do
      let (tokens, indents) ← enter col alt indents
      return tokens ++ (← scan fuel false owed indents rest)
  | fuel + 1, false, owed, indents, cs =>
    match skipComment cs with
    -- the last line needs no end of its own
    | [] => if owed.isEmpty then some (.newline :: indents.map fun _ => .dedent) else none
    | '\n' :: rest =>
      if owed.isEmpty then (scan fuel true owed indents rest).map (.newline :: ·)
      else scan fuel false owed indents rest
    | '\\' :: '\n' :: rest => if rest.isEmpty then none else scan fuel false owed indents rest
    | c :: rest =>
      if c = ' ' ∨ c = '\t' ∨ c = '\x0c' then scan fuel false owed indents rest
      else do
        let (token, left) ← inLine (c :: rest)
        let owed ← owe owed token
        return token :: (← scan fuel false owed indents left)

def unifyLineEnds : List Char → List Char
  | [] => []
  | '\r' :: '\n' :: rest => '\n' :: unifyLineEnds rest
  | '\r' :: rest => '\n' :: unifyLineEnds rest
  | c :: rest => c :: unifyLineEnds rest

def ofChars (cs : List Char) : Option (List Token) :=
  let cs := unifyLineEnds cs
  scan (2 * cs.length + 2) true [] [] cs

end Flowline.Condition.Token

/-!
# Fields of a formatted text

Where the fields of a formatted text begin and end. Here a field is only cut out; its expression is
parsed like any other.
-/

namespace Flowline.Condition.Parser

/-- The literal text before the next field or the end, its escapes not yet replaced. A brace that
is written twice stands for itself at the outermost level. -/
def formatLiteral (raw : Bool) (outermost : Bool) : List Char → Option (List Char × List Char)
  | [] => some ([], [])
  | '\\' :: c :: rest =>
    if raw then
      (formatLiteral raw outermost (c :: rest)).map fun (text, left) => ('\\' :: text, left)
    else if c = '\x7b' ∨ c = '\x7d' then
      (formatLiteral raw outermost (c :: rest)).map fun (text, left) => ('\\' :: text, left)
    else (formatLiteral raw outermost rest).map fun (text, left) => ('\\' :: c :: text, left)
  | c :: d :: rest =>
    if c = '\x7b' ∨ c = '\x7d' then
      if outermost ∧ d = c then
        (formatLiteral raw outermost rest).map fun (text, left) => (c :: text, left)
      else if outermost ∧ c = '\x7d' then none
      else some ([], c :: d :: rest)
    else (formatLiteral raw outermost (d :: rest)).map fun (text, left) => (c :: text, left)
  | [c] =>
    if c = '\x7b' ∨ c = '\x7d' then (if outermost ∧ c = '\x7d' then none else some ([], [c]))
    else some ([c], [])

/-- Where the scan of a field's expression stands: inside a literal with this quote, once or three
times, or outside. -/
abbrev Quoting := Option (Char × Bool)

/-- The expression of a field, up to the mark that ends it: a conversion, a format, an equals sign
or the closing brace, none of them in brackets or quotes. -/
def fieldExpression : (fuel : Nat) → Quoting → (owed : List Char) → List Char →
    Option (List Char × List Char)
  | 0, _, _, _ => none
  | _, _, _, [] => none
  | fuel + 1, quoting, owed, c :: rest =>
    let take (n : Nat) (quoting : Quoting) (owed : List Char) :=
      (fieldExpression fuel quoting owed ((c :: rest).drop n)).map fun (text, left) =>
        ((c :: rest).take n ++ text, left)
    if c = '\\' then none
    else match quoting with
      | some (quote, triple) =>
        if c = quote then
          if triple then (if rest.take 2 = [c, c] then take 3 none owed else take 1 quoting owed)
          else take 1 none owed
        else take 1 quoting owed
      | none =>
        if c = '\'' ∨ c = '"' then
          if rest.take 2 = [c, c] then take 3 (some (c, true)) owed
          else take 1 (some (c, false)) owed
        else if c = '(' then take 1 none (')' :: owed)
        else if c = '[' then take 1 none (']' :: owed)
        else if c = '\x7b' then take 1 none ('\x7d' :: owed)
        else if c = '#' then none
        else if owed.isEmpty && "!:\x7d=><".toList.contains c then
          if rest.head? = some '=' ∧ "!=<>".toList.contains c then take 2 none owed
          else if c = '>' ∨ c = '<' then take 1 none owed
          else some ([], c :: rest)
        else if c = ')' ∨ c = ']' ∨ c = '\x7d' then
          match owed with
          | close :: outer => if close = c then take 1 none outer else none
          | [] => none
        else take 1 none owed

def skipConversion : List Char → Option (List Char)
  | '!' :: c :: rest => if c = 's' ∨ c = 'r' ∨ c = 'a' then some rest else none
  | ['!'] => none
  | rest => some rest

end Flowline.Condition.Parser

import Flowline.Condition.Parser.Basic
import Flowline.Condition.Parser.Field
import Flowline.Condition.Token.Lexer

/-!
# Parsing an expression

A recursive descent over the tokens, one function a grammar level. Every call spends one unit of
fuel, and the fuel that `Statement.ofChars` starts with covers any nesting a text of its length
can have. Nothing is said about where a syntax error lies.
-/

namespace Flowline.Condition.Parser

/-! ## Parameters of a lambda or a definition -/

/-- What parameters may still come: all, none without a default, only named ones, or none. -/
inductive ParameterStage where
  | free
  | defaulted
  | named
  | closed
  deriving DecidableEq

/-- Whether the mark `/` may come: not before the first parameter, and only once. -/
inductive SlashStage where
  | early
  | possible
  | used
  deriving DecidableEq

def augmented : List String :=
  ["+=", "-=", "*=", "/=", "//=", "%=", "@=", "&=", "|=", "^=", "<<=", ">>=", "**="]

def endsAugmented (ts : List Token) : Bool := seesAny augmented ts

/-! ## Expressions -/

mutual

def expression : Nat → List Token → Option (Term × List Token)
  | 0, _ => none
  | fuel + 1, ts =>
    match eatWord "lambda" ts with
    | some ts => do
      let ts ← parameters fuel false .free .early ts
      let ts ← eat ":" ts
      let (body, ts) ← expression fuel ts
      return (.refused "Lambda" [body], ts)
    | none => do
      let (yes, ts) ← disjunction fuel ts
      match eatWord "if" ts with
      | none => return (yes, ts)
      | some ts =>
        let (test, ts) ← disjunction fuel ts
        let ts ← eatWord "else" ts
        let (no, ts) ← expression fuel ts
        return (.choose test yes no, ts)

def parameters : Nat → (typed : Bool) → ParameterStage → SlashStage → List Token →
    Option (List Token)
  | 0, _, _, _, _ => none
  | fuel + 1, typed, stage, slash, ts =>
    if sees ":" ts || sees ")" ts then some ts
    else do
      -- the mark `/` closes the group before it, so one parameter must have come
      let next := if sees "/" ts then .used else if slash = .early then .possible else slash
      let (stage, ts) ← parameter fuel typed stage slash ts
      match eat "," ts with
      | some ts => parameters fuel typed stage next ts
      | none => if sees ":" ts || sees ")" ts then some ts else none

def parameter : Nat → (typed : Bool) → ParameterStage → SlashStage → List Token →
    Option (ParameterStage × List Token)
  | 0, _, _, _, _ => none
  | fuel + 1, typed, stage, slash, ts =>
    let annotation (ts : List Token) : Option (List Token) :=
      if typed then
        match eat ":" ts with
        | some ts => (expression fuel ts).map (·.2)
        | none => some ts
      else some ts
    match ts with
    | .name _ :: ts => do
      if stage = .closed then none
      let ts ← annotation ts
      match eat "=" ts with
      | some ts => do
        let (_, ts) ← expression fuel ts
        return (if stage = .free then .defaulted else stage, ts)
      | none => if stage = .defaulted then none else return (stage, ts)
    | .symbol "/" :: ts =>
      if slash = .possible && (stage = .free || stage = .defaulted) then some (stage, ts) else none
    | .symbol "*" :: .name _ :: ts => do
      if stage = .named || stage = .closed then none
      let ts ← annotation ts
      return (.named, ts)
    -- a lone star must be followed by a named parameter
    | .symbol "*" :: .symbol "," :: .name s :: ts =>
      if stage = .named || stage = .closed then none
      else some (.named, .symbol "," :: .name s :: ts)
    | .symbol "**" :: .name _ :: ts => do
      if stage = .closed then none
      let ts ← annotation ts
      return (.closed, ts)
    | _ => none

def disjunction : Nat → List Token → Option (Term × List Token)
  | 0, _ => none
  | fuel + 1, ts => do
    let (first, ts) ← conjunction fuel ts
    let (more, ts) ← orTail fuel ts
    return (if more.isEmpty then first else .any (first :: more), ts)

def orTail : Nat → List Token → Option ((List Term) × List Token)
  | 0, _ => none
  | fuel + 1, ts =>
    match eatWord "or" ts with
    | none => some ([], ts)
    | some ts => do
      let (t, ts) ← conjunction fuel ts
      let (more, ts) ← orTail fuel ts
      return (t :: more, ts)

def conjunction : Nat → List Token → Option (Term × List Token)
  | 0, _ => none
  | fuel + 1, ts => do
    let (first, ts) ← inversion fuel ts
    let (more, ts) ← andTail fuel ts
    return (if more.isEmpty then first else .all (first :: more), ts)

def andTail : Nat → List Token → Option ((List Term) × List Token)
  | 0, _ => none
  | fuel + 1, ts =>
    match eatWord "and" ts with
    | none => some ([], ts)
    | some ts => do
      let (t, ts) ← inversion fuel ts
      let (more, ts) ← andTail fuel ts
      return (t :: more, ts)

def inversion : Nat → List Token → Option (Term × List Token)
  | 0, _ => none
  | fuel + 1, ts =>
    match eatWord "not" ts with
    -- `not` binds looser than comparisons and may be repeated
    | some ts => (inversion fuel ts).map fun (t, ts) => (.unary .not t, ts)
    | none => do
      let (first, ts) ← binary fuel levels ts
      let (more, ts) ← comparisonTail fuel ts
      return (if more.isEmpty then first else .compare first more, ts)

def comparisonTail : Nat → List Token → Option ((List (Comparison × Term)) × List Token)
  | 0, _ => none
  | fuel + 1, ts =>
    match comparison? ts with
    | none => some ([], ts)
    | some (op, ts) => do
      let (t, ts) ← binary fuel levels ts
      let (more, ts) ← comparisonTail fuel ts
      return ((op, t) :: more, ts)

def binary : Nat → List (List (String × BinaryOp)) → List Token → Option (Term × List Token)
  | 0, _, _ => none
  | fuel + 1, [], ts => factor fuel ts
  | fuel + 1, ops :: tighter, ts => do
    let (first, ts) ← binary fuel tighter ts
    binaryTail fuel ops tighter first ts

def binaryTail : Nat → List (String × BinaryOp) → List (List (String × BinaryOp)) → Term →
    List Token → Option (Term × List Token)
  | 0, _, _, _, _ => none
  | fuel + 1, ops, tighter, left, ts =>
    match eatOne ops ts with
    | none => some (left, ts)
    | some (op, ts) => do
      let (right, ts) ← binary fuel tighter ts
      binaryTail fuel ops tighter (.binary op left right) ts

/-- A signed operand; a power binds tighter than the sign before it. -/
def factor : Nat → List Token → Option (Term × List Token)
  | 0, _ => none
  | fuel + 1, ts =>
    match eatOne unaryOps ts with
    | some (op, ts) => (factor fuel ts).map fun (t, ts) => (.unary op t, ts)
    | none => do
      let (base, ts) ← match eatWord "await" ts with
        | some ts => (primary fuel ts).map fun (t, ts) => (Term.refused "Await" [t], ts)
        | none => primary fuel ts
      match eat "**" ts with
      | none => return (base, ts)
      -- the exponent may have a sign, and powers group to the right
      | some ts =>
        let (power, ts) ← factor fuel ts
        return (.binary .pow base power, ts)

def primary : Nat → List Token → Option (Term × List Token)
  | 0, _ => none
  | fuel + 1, ts => do
    let (t, ts) ← atom fuel ts
    trailers fuel t ts

def trailers : Nat → Term → List Token → Option (Term × List Token)
  | 0, _, _ => none
  | fuel + 1, t, ts =>
    match ts with
    | .symbol "." :: .name _ :: ts => trailers fuel (.refused "Attribute" [t]) ts
    | .symbol "(" :: ts => do
      let ((args, named), ts) ← arguments fuel true false false ts
      trailers fuel (.call t args named) ts
    | .symbol "[" :: ts => do
      let (index, ts) ← subscripts fuel ts
      trailers fuel (.refused "Subscript" (t :: index)) ts
    -- a point must be followed by a name
    | .symbol "." :: _ => none
    | _ => some (t, ts)

/-- Arguments up to and with the closing parenthesis. Positional ones come before named ones, and
a generator without parentheses is alone. -/
def arguments : Nat → (first named spread : Bool) → List Token →
    Option ((List Term × List (Option String × Term)) × List Token)
  | 0, _, _, _, _ => none
  | fuel + 1, first, named, spread, ts =>
    let next (named spread : Bool) (ts : List Token) :
        Option ((List Term × List (Option String × Term)) × List Token) :=
      match ts with
      | .symbol ")" :: ts => some (([], []), ts)
      | .symbol "," :: ts => arguments fuel false named spread ts
      | _ => none
    match ts with
    | .symbol ")" :: ts => some (([], []), ts)
    | .symbol "*" :: ts => do
      if spread then none
      let (t, ts) ← expression fuel ts
      let ((args, more), ts) ← next named spread ts
      return ((.refused "Starred" [t] :: args, more), ts)
    | .symbol "**" :: ts => do
      let (t, ts) ← expression fuel ts
      let ((args, more), ts) ← next named true ts
      return ((args, (none, t) :: more), ts)
    | .name key :: .symbol "=" :: ts => do
      let (t, ts) ← expression fuel ts
      let ((args, more), ts) ← next true spread ts
      return ((args, (some key, t) :: more), ts)
    | _ => do
      if named || spread then none
      let (t, ts) ← namedExpression fuel ts
      if first && (seesWord "for" ts || seesWord "async" ts) then
        let (parts, ts) ← clauses fuel ts
        let ts ← eat ")" ts
        return (([.refused "GeneratorExp" (t :: parts)], []), ts)
      let ((args, more), ts) ← next named spread ts
      return ((t :: args, more), ts)

def subscripts : Nat → List Token → Option ((List Term) × List Token)
  | 0, _ => none
  | fuel + 1, ts => do
    let (t, ts) ← slice fuel ts
    match ts with
    | .symbol "]" :: ts => return ([t], ts)
    | .symbol "," :: .symbol "]" :: ts => return ([t], ts)
    | .symbol "," :: ts =>
      let (more, ts) ← subscripts fuel ts
      return (t :: more, ts)
    | _ => none

def slice : Nat → List Token → Option (Term × List Token)
  | 0, _ => none
  | fuel + 1, ts =>
    match ts with
    | .symbol "*" :: ts => (expression fuel ts).map fun (t, ts) => (.refused "Starred" [t], ts)
    | .symbol ":" :: ts => (bounds fuel true ts).map fun (more, ts) => (.refused "Slice" more, ts)
    | _ => do
      let (t, ts) ← namedExpression fuel ts
      match eat ":" ts with
      | none => return (t, ts)
      | some ts =>
        if t.isNamed then none
        let (more, ts) ← bounds fuel true ts
        return (.refused "Slice" (t :: more), ts)

def bounds : Nat → (more : Bool) → List Token → Option ((List Term) × List Token)
  | 0, _, _ => none
  | fuel + 1, more, ts =>
    if seesAny ["]", ","] ts then some ([], ts)
    else match ts with
      | .symbol ":" :: ts => if more then bounds fuel false ts else none
      | _ => do
        let (t, ts) ← expression fuel ts
        match eat ":" ts with
        | none => return ([t], ts)
        | some ts =>
          if !more then none
          let (rest, ts) ← bounds fuel false ts
          return (t :: rest, ts)

def namedExpression : Nat → List Token → Option (Term × List Token)
  | 0, _ => none
  | fuel + 1, ts =>
    match ts with
    | .name _ :: .symbol ":=" :: ts =>
      (expression fuel ts).map fun (t, ts) => (.refused "NamedExpr" [t], ts)
    | _ => expression fuel ts

def element : Nat → List Token → Option (Term × List Token)
  | 0, _ => none
  | fuel + 1, ts =>
    match ts with
    | .symbol "*" :: ts => (binary fuel levels ts).map fun (t, ts) => (.refused "Starred" [t], ts)
    | _ => namedExpression fuel ts

def elements : Nat → (close : String) → List Token → Option ((List Term) × List Token)
  | 0, _, _ => none
  | fuel + 1, close, ts =>
    match eat close ts with
    | some ts => some ([], ts)
    | none => do
      let (t, ts) ← element fuel ts
      match eat close ts with
      | some ts => return ([t], ts)
      | none =>
        let ts ← eat "," ts
        let (more, ts) ← elements fuel close ts
        return (t :: more, ts)

def clauses : Nat → List Token → Option ((List Term) × List Token)
  | 0, _ => none
  | fuel + 1, ts => do
    let ts := (eatWord "async" ts).getD ts
    let ts ← eatWord "for" ts
    let (targets, ts) ← targetList fuel ts
    if !Term.areTargets targets then none
    let ts ← eatWord "in" ts
    let (source, ts) ← disjunction fuel ts
    let (tests, ts) ← clauseTests fuel ts
    if seesWord "for" ts || seesWord "async" ts then
      let (more, ts) ← clauses fuel ts
      return (source :: tests ++ more, ts)
    else return (source :: tests, ts)

def clauseTests : Nat → List Token → Option ((List Term) × List Token)
  | 0, _ => none
  | fuel + 1, ts =>
    match eatWord "if" ts with
    | none => some ([], ts)
    | some ts => do
      let (t, ts) ← disjunction fuel ts
      let (more, ts) ← clauseTests fuel ts
      return (t :: more, ts)

def targetList : Nat → List Token → Option ((List Term) × List Token)
  | 0, _ => none
  | fuel + 1, ts => do
    let (t, ts) ← match eat "*" ts with
      | some ts => (binary fuel levels ts).map fun (t, ts) => (Term.refused "Starred" [t], ts)
      | none => binary fuel levels ts
    match eat "," ts with
    | none => return ([t], ts)
    | some ts =>
      if seesWord "in" ts then return ([t], ts)
      let (more, ts) ← targetList fuel ts
      return (t :: more, ts)

def yieldRest : Nat → List Token → Option (Term × List Token)
  | 0, _ => none
  | fuel + 1, ts =>
    match eatWord "from" ts with
    | some ts => (expression fuel ts).map fun (t, ts) => (.refused "YieldFrom" [t], ts)
    | none =>
      match ts with
      | [] | .newline :: _ => some (.refused "Yield" [], ts)
      | _ =>
        if seesAny [")", "]", "\x7d", ";", "="] ts then some (.refused "Yield" [], ts)
        else (expressions fuel ts).map fun (t, ts) => (.refused "Yield" [t], ts)

def expressions : Nat → List Token → Option (Term × List Token)
  | 0, _ => none
  | fuel + 1, ts => do
    let (t, ts) ← starExpression fuel ts
    match eat "," ts with
    | none => return (t, ts)
    | some ts =>
      let (more, ts) ← expressionsTail fuel ts
      return (.refused "Tuple" (t :: more), ts)

def expressionsTail : Nat → List Token → Option ((List Term) × List Token)
  | 0, _ => none
  | fuel + 1, ts =>
    match ts with
    | [] | .newline :: _ => some ([], ts)
    | _ =>
      if seesAny [")", "]", "\x7d", ";", "=", ":"] ts || endsAugmented ts then some ([], ts)
      else do
        let (t, ts) ← starExpression fuel ts
        match eat "," ts with
        | none => return ([t], ts)
        | some ts =>
          let (more, ts) ← expressionsTail fuel ts
          return (t :: more, ts)

def starExpression : Nat → List Token → Option (Term × List Token)
  | 0, _ => none
  | fuel + 1, ts =>
    match ts with
    | .symbol "*" :: ts => (binary fuel levels ts).map fun (t, ts) => (.refused "Starred" [t], ts)
    | _ => expression fuel ts

def atom : Nat → List Token → Option (Term × List Token)
  | 0, _ => none
  | fuel + 1, ts =>
    match ts with
    | .name id :: ts => some (.name id, ts)
    | .word "True" :: ts => some (.constant (.bool true), ts)
    | .word "False" :: ts => some (.constant (.bool false), ts)
    | .word "None" :: ts => some (.constant .null, ts)
    | .number v :: ts => some (.constant v, ts)
    | .symbol "..." :: ts => some (.constant .ellipsis, ts)
    | .octets _ :: _ => octetLiterals fuel ts
    | .text _ :: _ => textLiterals fuel ts
    | .format .. :: _ => textLiterals fuel ts
    | .symbol "(" :: ts => group fuel ts
    | .symbol "[" :: ts => do
      match eat "]" ts with
      | some ts => return (.refused "List" [], ts)
      | none =>
        let (t, ts) ← element fuel ts
        if seesWord "for" ts || seesWord "async" ts then
          if t.isStarred then none
          let (parts, ts) ← clauses fuel ts
          let ts ← eat "]" ts
          return (.refused "ListComp" (t :: parts), ts)
        else
          let (more, ts) ← restOf fuel "]" ts
          return (.refused "List" (t :: more), ts)
    | .symbol "\x7b" :: ts => braces fuel ts
    | _ => none

def restOf : Nat → (close : String) → List Token → Option ((List Term) × List Token)
  | 0, _, _ => none
  | fuel + 1, close, ts =>
    match eat close ts with
    | some ts => some ([], ts)
    | none => do
      let ts ← eat "," ts
      elements fuel close ts

def group : Nat → List Token → Option (Term × List Token)
  | 0, _ => none
  | fuel + 1, ts =>
    match ts with
    | .symbol ")" :: ts => some (.refused "Tuple" [], ts)
    | .word "yield" :: ts => do
      let (t, ts) ← yieldRest fuel ts
      let ts ← eat ")" ts
      return (t, ts)
    | _ => do
      let (t, ts) ← element fuel ts
      if seesWord "for" ts || seesWord "async" ts then
        if t.isStarred then none
        let (parts, ts) ← clauses fuel ts
        let ts ← eat ")" ts
        return (.refused "GeneratorExp" (t :: parts), ts)
      match eat ")" ts with
      | some ts => if t.isStarred then none else return (t, ts)
      | none =>
        let (more, ts) ← restOf fuel ")" ts
        return (.refused "Tuple" (t :: more), ts)

def braces : Nat → List Token → Option (Term × List Token)
  | 0, _ => none
  | fuel + 1, ts =>
    match ts with
    | .symbol "\x7d" :: ts => some (.refused "Dict" [], ts)
    | .symbol "**" :: _ => do
      let (parts, ts) ← entries fuel ts
      return (.refused "Dict" parts, ts)
    | _ => do
      let (t, after) ← element fuel ts
      if sees ":" after then
        if t.isStarred || t.isNamed then none
        let ts ← eat ":" after
        let (v, ts) ← expression fuel ts
        if seesWord "for" ts || seesWord "async" ts then
          let (parts, ts) ← clauses fuel ts
          let ts ← eat "\x7d" ts
          return (.refused "DictComp" (t :: v :: parts), ts)
        else match eat "\x7d" ts with
          | some ts => return (.refused "Dict" [t, v], ts)
          | none =>
            let ts ← eat "," ts
            let (parts, ts) ← entries fuel ts
            return (.refused "Dict" (t :: v :: parts), ts)
      else if seesWord "for" after || seesWord "async" after then
        if t.isStarred then none
        let (parts, ts) ← clauses fuel after
        let ts ← eat "\x7d" ts
        return (.refused "SetComp" (t :: parts), ts)
      else
        let (more, ts) ← restOf fuel "\x7d" after
        return (.refused "Set" (t :: more), ts)

def entries : Nat → List Token → Option ((List Term) × List Token)
  | 0, _ => none
  | fuel + 1, ts =>
    match ts with
    | .symbol "\x7d" :: ts => some ([], ts)
    | _ => do
      let (parts, ts) ← match eat "**" ts with
        | some ts => (binary fuel levels ts).map fun (t, ts) => ([t], ts)
        | none => do
          let (k, ts) ← expression fuel ts
          let ts ← eat ":" ts
          let (v, ts) ← expression fuel ts
          pure ([k, v], ts)
      match eat "\x7d" ts with
      | some ts => return (parts, ts)
      | none =>
        let ts ← eat "," ts
        let (more, ts) ← entries fuel ts
        return (parts ++ more, ts)

def octetLiterals : Nat → List Token → Option (Term × List Token)
  | 0, _ => none
  | fuel + 1, ts =>
    match ts with
    | .octets a :: .octets b :: ts => octetLiterals fuel (.octets (a ++ b) :: ts)
    | .octets _ :: .text _ :: _ => none
    | .octets _ :: .format .. :: _ => none
    | .octets a :: ts => some (.constant (.bytes a), ts)
    | _ => none

/-- Text literals next to each other are one; with a formatted one among them it is put together
when it is evaluated. -/
def textLiterals : Nat → List Token → Option (Term × List Token)
  | 0, _ => none
  | fuel + 1, ts =>
    match ts with
    | .text a :: .text b :: ts => textLiterals fuel (.text (a ++ b) :: ts)
    | .text _ :: .octets _ :: _ => none
    | .format .. :: .octets _ :: _ => none
    | .text a :: .format raw body :: ts => do
      let (parts, ts) ← joinedParts fuel (.format raw body :: ts)
      return (.joined (.constant (.text a) :: parts), ts)
    | .text a :: ts => some (.constant (.text a), ts)
    | .format .. :: _ => do
      let (parts, ts) ← joinedParts fuel ts
      return (.joined parts, ts)
    | _ => none

def joinedParts : Nat → List Token → Option ((List Term) × List Token)
  | 0, _ => none
  | fuel + 1, ts =>
    match ts with
    | .text a :: ts => do
      let (parts, ts) ← joinedParts fuel ts
      return (.constant (.text a) :: parts, ts)
    | .format raw body :: ts => do
      let (first, left) ← formatParts fuel raw 0 body
      if !left.isEmpty then none
      let (parts, ts) ← joinedParts fuel ts
      return (first ++ parts, ts)
    | .octets _ :: _ => none
    | _ => some ([], ts)

def formatParts : Nat → (raw : Bool) → (depth : Nat) → List Char → Option (List Term × List Char)
  | 0, _, _, _ => none
  | fuel + 1, raw, depth, cs => do
    let (literal, rest) ← formatLiteral raw (depth == 0) cs
    let text ← Token.decodeText raw literal
    let parts : List Term := if literal.isEmpty then [] else [.constant (.text text)]
    match rest with
    | '\x7b' :: rest => do
      if 2 ≤ depth then none
      let (fields, rest) ← formatField fuel raw depth rest
      let (more, rest) ← formatParts fuel raw depth rest
      return (parts ++ fields ++ more, rest)
    | rest => return (parts, rest)

def formatField : Nat → (raw : Bool) → (depth : Nat) → List Char → Option (List Term × List Char)
  | 0, _, _, _ => none
  | fuel + 1, raw, depth, cs => do
    let (source, rest) ← fieldExpression (cs.length + 1) none [] cs
    if source.all fun c => c == ' ' || c == '\t' || c == '\n' || c == '\x0c' || c == '\r' then none
    let ts ← Token.ofChars ('(' :: source ++ [')'])
    let (t, ts) ← expressions fuel ts
    -- nothing but the line end may follow inside the parentheses that were put around
    match ts with
    | [.newline] => pure ()
    | _ => none
    -- an equals sign shows the expression itself in front of its value
    let (label, rest) := match rest with
      | '=' :: after =>
        let blanks := after.takeWhile fun c => c == ' ' || c == '\t' || c == '\n' || c == '\x0c'
        let shown := source ++ '=' :: blanks
        ([Term.constant (.text (String.ofList shown))], after.drop blanks.length)
      | _ => ([], rest)
    let rest ← skipConversion rest
    match rest with
    | ':' :: rest => do
      let (spec, rest) ← formatParts fuel raw (depth + 1) rest
      match rest with
      | '\x7d' :: rest => return (label ++ [.field t (some (.joined spec))], rest)
      | _ => none
    | '\x7d' :: rest => return (label ++ [.field t none], rest)
    | _ => none

end

end Flowline.Condition.Parser

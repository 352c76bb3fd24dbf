import Flowline.Condition.Parser.Pattern

/-!
# The statements of a condition

A condition is read as a whole program, of which the first statement counts. The other statements
only have to be well formed, and of most statements only the name matters.
-/

namespace Flowline.Condition

namespace Parser

def dottedName : List Token → Option (List Token)
  | .name _ :: .symbol "." :: ts => dottedName ts
  | .name _ :: ts => some ts
  | _ => none

def alias? : List Token → Option (List Token)
  | .word "as" :: .name _ :: ts => some ts
  | .word "as" :: _ => none
  | ts => some ts

def separated (item : List Token → Option (List Token)) : (fuel : Nat) → List Token →
    Option (List Token)
  | 0, _ => none
  | fuel + 1, ts => do
    let ts ← item ts
    match eat "," ts with
    | some ts => separated item fuel ts
    | none => return ts

def plainName : List Token → Option (List Token)
  | .name _ :: ts => some ts
  | _ => none

def importedName (ts : List Token) : Option (List Token) := plainName ts >>= alias?

def importedModule (ts : List Token) : Option (List Token) := dottedName ts >>= alias?

def skipPoints : List Token → Bool × List Token
  | .symbol "." :: ts => (true, (skipPoints ts).2)
  | .symbol "..." :: ts => (true, (skipPoints ts).2)
  | ts => (false, ts)

def importTargets (ts : List Token) : Option (List Token) :=
  match ts with
  | .symbol "*" :: ts => some ts
  | .symbol "(" :: ts => do
    let ts ← inParentheses ts.length ts
    return ts
  | _ => separated importedName ts.length ts
where
  inParentheses : Nat → List Token → Option (List Token)
    | 0, _ => none
    | fuel + 1, ts => do
      let ts ← importedName ts
      match ts with
      | .symbol ")" :: ts => return ts
      | .symbol "," :: .symbol ")" :: ts => return ts
      | .symbol "," :: ts => inParentheses fuel ts
      | _ => none

def assigned (fuel : Nat) (ts : List Token) : Option (Term × List Token) :=
  match eatWord "yield" ts with
  | some ts => yieldRest fuel ts
  | none => expressions fuel ts

/-- The values of a chain of assignments; the last one is assigned to all the targets. -/
def assignments (fuel : Nat) : (rounds : Nat) → Term → List Token → Option (Term × List Token)
  | 0, _, _ => none
  | rounds + 1, target, ts =>
    match eat "=" ts with
    | none => some (target, ts)
    | some ts => do
      if !target.isTarget then none
      let (value, ts) ← assigned fuel ts
      assignments fuel rounds value ts

def expressionStatement (fuel : Nat) (ts : List Token) : Option (Statement × List Token) := do
  let (t, ts) ← assigned fuel ts
  match ts with
  | .symbol ":" :: ts =>
    if !t.isSingleTarget then none
    let (_, ts) ← expression fuel ts
    match eat "=" ts with
    | none => return (.refused "AnnAssign", ts)
    | some ts =>
      let (_, ts) ← assigned fuel ts
      return (.refused "AnnAssign", ts)
  | .symbol "=" :: _ =>
    let (value, ts) ← assignments fuel ts.length t ts
    return (.assignment value, ts)
  | .symbol s :: after =>
    if augmented.contains s then
      if !t.isSingleTarget then none
      let (value, ts) ← assigned fuel after
      return (.assignment value, ts)
    else return (.expression t, ts)
  | _ => return (.expression t, ts)

def endsStatement (ts : List Token) : Bool :=
  match ts with
  | .newline :: _ | [] => true
  | _ => sees ";" ts

def simple (fuel : Nat) (ts : List Token) : Option (Statement × List Token) :=
  match ts with
  | .word "pass" :: ts => some (.refused "Pass", ts)
  | .word "break" :: ts => some (.refused "Break", ts)
  | .word "continue" :: ts => some (.refused "Continue", ts)
  | .word "return" :: ts =>
    if endsStatement ts then some (.refused "Return", ts)
    else (expressions fuel ts).map fun (_, ts) => (.refused "Return", ts)
  | .word "raise" :: ts =>
    if endsStatement ts then some (.refused "Raise", ts)
    else do
      let (_, ts) ← expression fuel ts
      match eatWord "from" ts with
      | none => return (.refused "Raise", ts)
      | some ts =>
        let (_, ts) ← expression fuel ts
        return (.refused "Raise", ts)
  | .word "global" :: ts => (separated plainName ts.length ts).map fun ts => (.refused "Global", ts)
  | .word "nonlocal" :: ts =>
    (separated plainName ts.length ts).map fun ts => (.refused "Nonlocal", ts)
  | .word "assert" :: ts => do
    let (_, ts) ← expression fuel ts
    match eat "," ts with
    | none => return (.refused "Assert", ts)
    | some ts =>
      let (_, ts) ← expression fuel ts
      return (.refused "Assert", ts)
  | .word "del" :: ts => do
    let (t, ts) ← expressions fuel ts
    if t.isRemovable then return (.refused "Delete", ts) else none
  | .word "import" :: ts => (separated importedModule ts.length ts).map fun ts => (.importing, ts)
  | .word "from" :: ts => do
    let (relative, ts) := skipPoints ts
    let ts ← if relative && seesWord "import" ts then some ts else dottedName ts
    let ts ← eatWord "import" ts
    let ts ← importTargets ts
    return (.refused "ImportFrom", ts)
  | _ => expressionStatement fuel ts

def simples (fuel : Nat) : (rounds : Nat) → List Token → Option (List Statement × List Token)
  | 0, _ => none
  | rounds + 1, ts => do
    let (s, ts) ← simple fuel ts
    match ts with
    | .newline :: ts => return ([s], ts)
    | .symbol ";" :: .newline :: ts => return ([s], ts)
    | .symbol ";" :: ts =>
      let (more, ts) ← simples fuel rounds ts
      return (s :: more, ts)
    | _ => none

mutual

def statement : Nat → List Token → Option (List Statement × List Token)
  | 0, _ => none
  | fuel + 1, ts =>
    let compound (name : String) (rest : Option (List Token)) :=
      rest.map fun ts => ([Statement.refused name], ts)
    match ts with
    | .word "if" :: ts => compound "If" (branches fuel ts)
    | .word "while" :: ts => compound "While" (do
        let (_, ts) ← namedExpression fuel ts
        let ts ← block fuel ts
        elseBlock fuel ts)
    | .word "for" :: ts => compound "For" (loop fuel ts)
    | .word "with" :: ts => compound "With" (withItems fuel ts)
    | .word "try" :: ts => do
      let ts ← block fuel ts
      let (name, ts) ← handlers fuel false ts
      return ([.refused name], ts)
    | .word "def" :: ts => compound "FunctionDef" (definition fuel ts)
    | .word "class" :: ts => compound "ClassDef" (classRest fuel ts)
    | .word "async" :: .word "def" :: ts => compound "AsyncFunctionDef" (definition fuel ts)
    | .word "async" :: .word "for" :: ts => compound "AsyncFor" (loop fuel ts)
    | .word "async" :: .word "with" :: ts => compound "AsyncWith" (withItems fuel ts)
    | .symbol "@" :: ts => do
      let (_, ts) ← namedExpression fuel ts
      match ts with
      | .newline :: ts =>
        let decorated := match ts with
          | .symbol "@" :: _ => true
          | .word w :: _ => w == "def" || w == "class" || w == "async"
          | _ => false
        if decorated then statement fuel ts else none
      | _ => none
    -- `match` is a name unless cases follow
    | .name "match" :: rest =>
      match comparison fuel rest with
      | some ts => some ([.refused "Match"], ts)
      | none => simples fuel (ts.length + 1) ts
    | _ => simples fuel (ts.length + 1) ts

def comparison : Nat → List Token → Option (List Token)
  | 0, _ => none
  | fuel + 1, ts => do
    let ts ← subject fuel ts
    let ts ← eat ":" ts
    match ts with
    | .newline :: .indent :: ts => caseBlocks fuel ts
    | _ => none

def caseBlocks : Nat → List Token → Option (List Token)
  | 0, _ => none
  | fuel + 1, ts =>
    match ts with
    | .name "case" :: ts => do
      let ts ← casePatterns fuel ts
      let ts ← match eatWord "if" ts with
        | some ts => (namedExpression fuel ts).map (·.2)
        | none => some ts
      let ts ← block fuel ts
      match ts with
      | .dedent :: ts => return ts
      | _ => caseBlocks fuel ts
    | _ => none

def block : Nat → List Token → Option (List Token)
  | 0, _ => none
  | fuel + 1, ts => do
    let ts ← eat ":" ts
    match ts with
    | .newline :: .indent :: ts => blockRest fuel ts
    | .newline :: _ => none
    | _ => (simples fuel (ts.length + 1) ts).map (·.2)

def blockRest : Nat → List Token → Option (List Token)
  | 0, _ => none
  | fuel + 1, ts => do
    let (_, ts) ← statement fuel ts
    match ts with
    | .dedent :: ts => return ts
    | _ => blockRest fuel ts

def elseBlock : Nat → List Token → Option (List Token)
  | 0, _ => none
  | fuel + 1, ts =>
    match eatWord "else" ts with
    | some ts => block fuel ts
    | none => some ts

def branches : Nat → List Token → Option (List Token)
  | 0, _ => none
  | fuel + 1, ts => do
    let (_, ts) ← namedExpression fuel ts
    let ts ← block fuel ts
    match eatWord "elif" ts with
    | some ts => branches fuel ts
    | none => elseBlock fuel ts

def loop : Nat → List Token → Option (List Token)
  | 0, _ => none
  | fuel + 1, ts => do
    let (targets, ts) ← targetList fuel ts
    if !Term.areTargets targets then none
    let ts ← eatWord "in" ts
    let (_, ts) ← expressions fuel ts
    let ts ← block fuel ts
    elseBlock fuel ts

def withItems : Nat → List Token → Option (List Token)
  | 0, _ => none
  | fuel + 1, ts => do
    let (_, ts) ← expression fuel ts
    let ts ← match eatWord "as" ts with
      | some ts => do
        let (target, ts) ← binary fuel levels ts
        if target.isTarget then some ts else none
      | none => some ts
    match eat "," ts with
    | some ts => withItems fuel ts
    | none => block fuel ts

def handlers : Nat → (any : Bool) → List Token → Option (String × List Token)
  | 0, _, _ => none
  | fuel + 1, any, ts =>
    match ts with
    | .word "except" :: ts => do
      let (group, ts) := match eat "*" ts with
        | some ts => (true, ts)
        | none => (false, ts)
      let ts ← if sees ":" ts && !group then some ts
        else do
          let (_, ts) ← expression fuel ts
          alias? ts
      let ts ← block fuel ts
      let (_, ts) ← handlers fuel true ts
      return (if group then "TryStar" else "Try", ts)
    | .word "else" :: ts => do
      if !any then none
      let ts ← block fuel ts
      match eatWord "finally" ts with
      | some ts => (block fuel ts).map fun ts => ("Try", ts)
      | none => return ("Try", ts)
    | .word "finally" :: ts => (block fuel ts).map fun ts => ("Try", ts)
    | _ => if any then some ("Try", ts) else none

def definition : Nat → List Token → Option (List Token)
  | 0, _ => none
  | fuel + 1, ts => do
    let ts ← plainName ts
    let ts ← eat "(" ts
    let ts ← parameters fuel true .free .early ts
    let ts ← eat ")" ts
    let ts ← match eat "->" ts with
      | some ts => (expression fuel ts).map (·.2)
      | none => some ts
    block fuel ts

def classRest : Nat → List Token → Option (List Token)
  | 0, _ => none
  | fuel + 1, ts => do
    let ts ← plainName ts
    let ts ← match eat "(" ts with
      | some ts => (arguments fuel false false false ts).map (·.2)
      | none => some ts
    block fuel ts

end

def statements (fuel : Nat) : (rounds : Nat) → List Token → Option (List Statement)
  | _, [] => some []
  | 0, _ => none
  | rounds + 1, ts => do
    let (first, ts) ← statement fuel ts
    return first ++ (← statements fuel rounds ts)

end Parser

def Statement.ofChars (cs : List Char) : Option (List Statement) := do
  let ts ← Token.ofChars cs
  Parser.statements (64 * cs.length + 64) (ts.length + 1) ts

end Flowline.Condition

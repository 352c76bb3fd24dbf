import Flowline.Condition.Parser.Expression

/-!
# Patterns

The cases of a statement that compares a subject with patterns. Such a statement is always refused,
so a pattern only has to be well formed.
-/

namespace Flowline.Condition

namespace Parser

def startsMore (ts : List Token) : Bool := seesAny [".", "(", "="] ts

def captureName : List Token → Option (List Token)
  | .name n :: ts => if n = "_" || startsMore ts then none else some ts
  | _ => none

def nameTail : List Token → Bool × List Token
  | .symbol "." :: .name _ :: ts => (true, (nameTail ts).2)
  | ts => (false, ts)

def isImaginary : Value → Bool
  | .complex .. => true
  | _ => false

def numberPattern : List Token → Option (List Token)
  | .number v :: ts =>
    match ts with
    | .symbol "+" :: .number w :: ts => if isImaginary v || !isImaginary w then none else some ts
    | .symbol "-" :: .number w :: ts => if isImaginary v || !isImaginary w then none else some ts
    | _ => if seesAny ["+", "-"] ts then none else some ts
  | _ => none

def literalPattern (fuel : Nat) (ts : List Token) : Option (List Token) :=
  match ts with
  | .symbol "-" :: ts => numberPattern ts
  | .number _ :: _ => numberPattern ts
  | .word "None" :: ts | .word "True" :: ts | .word "False" :: ts => some ts
  | .octets _ :: _ => (octetLiterals fuel ts).map (·.2)
  | .text _ :: _ | .format .. :: _ => (textLiterals fuel ts).map (·.2)
  | _ => none

mutual

def pattern : Nat → List Token → Option (List Token)
  | 0, _ => none
  | fuel + 1, ts => do
    let ts ← alternatives fuel ts
    match eatWord "as" ts with
    | some ts => captureName ts
    | none => return ts

def alternatives : Nat → List Token → Option (List Token)
  | 0, _ => none
  | fuel + 1, ts => do
    let ts ← closedPattern fuel ts
    match eat "|" ts with
    | some ts => alternatives fuel ts
    | none => return ts

def closedPattern : Nat → List Token → Option (List Token)
  | 0, _ => none
  | fuel + 1, ts =>
    match ts with
    | .name n :: ts =>
      let (dotted, rest) := nameTail ts
      if n == "_" then some ts
      else if sees "(" rest then classPattern fuel false (rest.drop 1)
      else if sees "." rest || sees "=" rest then none
      else if dotted then some rest
      else some ts
    | .symbol "(" :: ts =>
      if sees ")" ts then some (ts.drop 1)
      else do
        let (starred, ts) ← itemPattern fuel ts
        match eat ")" ts with
        | some ts => if starred then none else return ts
        | none =>
          let ts ← eat "," ts
          let ts ← itemPatterns fuel ts
          eat ")" ts
    | .symbol "[" :: ts => do
      let ts ← itemPatterns fuel ts
      eat "]" ts
    | .symbol "\x7b" :: ts => mappingPattern fuel ts
    | _ => literalPattern fuel ts

/-- A pattern, or a starred name; says which. -/
def itemPattern : Nat → List Token → Option (Bool × List Token)
  | 0, _ => none
  | fuel + 1, ts =>
    match ts with
    | .symbol "*" :: .name "_" :: ts => some (true, ts)
    | .symbol "*" :: ts => (captureName ts).map fun ts => (true, ts)
    | _ => (pattern fuel ts).map fun ts => (false, ts)

def itemPatterns : Nat → List Token → Option (List Token)
  | 0, _ => none
  | fuel + 1, ts =>
    if seesAny [")", "]", ":"] ts || seesWord "if" ts then some ts
    else do
      let (_, ts) ← itemPattern fuel ts
      match eat "," ts with
      | some ts => itemPatterns fuel ts
      | none => return ts

def classPattern : Nat → (named : Bool) → List Token → Option (List Token)
  | 0, _, _ => none
  | fuel + 1, named, ts =>
    match ts with
    | .symbol ")" :: ts => some ts
    | .name _ :: .symbol "=" :: ts => do
      let ts ← pattern fuel ts
      classPatternTail fuel true ts
    | _ => do
      if named then none
      let ts ← pattern fuel ts
      classPatternTail fuel false ts

def classPatternTail : Nat → (named : Bool) → List Token → Option (List Token)
  | 0, _, _ => none
  | fuel + 1, named, ts =>
    match eat ")" ts with
    | some ts => some ts
    | none => do
      let ts ← eat "," ts
      classPattern fuel named ts

def mappingPattern : Nat → List Token → Option (List Token)
  | 0, _ => none
  | fuel + 1, ts =>
    match ts with
    | .symbol "\x7d" :: ts => some ts
    | .symbol "**" :: ts => do
      let ts ← captureName ts
      eat "\x7d" ((eat "," ts).getD ts)
    | _ => do
      let ts ← mappingKey fuel ts
      let ts ← eat ":" ts
      let ts ← pattern fuel ts
      match eat "," ts with
      | some ts => mappingPattern fuel ts
      | none => eat "\x7d" ts

def mappingKey : Nat → List Token → Option (List Token)
  | 0, _ => none
  | fuel + 1, ts =>
    match ts with
    | .name _ :: ts =>
      let (dotted, rest) := nameTail ts
      if dotted then some rest else none
    | _ => literalPattern fuel ts

end

def casePatterns (fuel : Nat) (ts : List Token) : Option (List Token) := do
  let (starred, ts) ← itemPattern fuel ts
  match eat "," ts with
  | some ts => itemPatterns fuel ts
  | none => if starred then none else return ts

def subject (fuel : Nat) (ts : List Token) : Option (List Token) := do
  let (first, ts) ← element fuel ts
  match eat "," ts with
  | some ts => more ts.length ts
  | none => if first.isStarred then none else return ts
where
  more : Nat → List Token → Option (List Token)
    | 0, _ => none
    | rounds + 1, ts =>
      if sees ":" ts then some ts
      else do
        let (_, ts) ← element fuel ts
        match eat "," ts with
        | some ts => more rounds ts
        | none => return ts

end Parser

end Flowline.Condition

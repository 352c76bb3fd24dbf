import Flowline.Condition.Parser.Program

/-!
# Operands on their way through the grammar

An expression passes through all the levels of the grammar, and each level that finds no operator of
its own hands it on as it is. Every level spends fuel, so what is read is said of all fuel beyond a
bound, which adds up level by level.
-/

namespace Flowline.Condition.Parser

/-- What is read with all fuel beyond a bound. -/
def Reads (bound : Nat) (parse : Nat → Option α) (a : α) : Prop :=
  ∀ fuel, bound ≤ fuel → parse (fuel + 1) = some a

theorem reads_succ {parse : Nat → Option α} (step : ∀ fuel, k ≤ fuel → parse (fuel + 2) = some a) :
    Reads (k + 1) parse a
  | fuel + 1, enough => step fuel (Nat.le_of_succ_le_succ enough)

-- ---------------------------------------------------------------------------
-- Operands
-- ---------------------------------------------------------------------------

inductive Operand : Token → Term → Prop
  | name : Operand (.name s) (.name s)
  | yes : Operand (.word "True") (.constant (.bool true))
  | no : Operand (.word "False") (.constant (.bool false))
  | null : Operand (.word "None") (.constant .null)
  | number : Operand (.number v) (.constant v)
  | text : Operand (.text s) (.constant (.text s))

def continuing : List String := [".", "(", "[", "**"] ++ levels.flatten.map Prod.fst

/-- What can stand behind an operand and does not belong to it. -/
inductive EndsOperand : List Token → Prop
  | newline : EndsOperand (.newline :: rest)
  | word : EndsOperand (.word s :: rest)
  | symbol (apart : s ∉ continuing) : EndsOperand (.symbol s :: rest)

variable {token : Token} {t : Term} {ts rest : List Token}

theorem atom_reads (operand : Operand token t) (ends : EndsOperand rest) :
    Reads 1 (atom · (token :: rest)) (t, rest) := by
  refine reads_succ fun fuel _ => ?_
  cases operand with
  | text => cases ends <;> simp [atom, textLiterals]
  | _ => simp [atom]

theorem eat_of_ne {s other : String} (apart : other ≠ s) (rest : List Token) :
    eat s (.symbol other :: rest) = none := by
  simp [eat, apart]

theorem EndsOperand.eat_eq_none (ends : EndsOperand rest) {s : String} (goesOn : s ∈ continuing) :
    eat s rest = none := by
  cases ends with
  | newline | word => rfl
  | symbol apart =>
    refine eat_of_ne (fun same => ?_) _
    rw [same] at apart
    exact apart goesOn

theorem EndsOperand.eatOne_eq_none (ends : EndsOperand rest) {ops : List (String × BinaryOp)}
    (level : ops ∈ levels) : eatOne ops rest = none := by
  refine List.findSome?_eq_none_iff.mpr fun entry listed => ?_
  have goesOn : entry.1 ∈ continuing := List.mem_append_right _
    (List.mem_map_of_mem (List.mem_flatten_of_mem level listed))
  simp [ends.eat_eq_none goesOn]

theorem EndsOperand.trailers_eq (ends : EndsOperand rest) (fuel : Nat) (t : Term) :
    trailers (fuel + 1) t rest = some (t, rest) := by
  cases ends with
  | newline | word => simp [trailers]
  | @symbol s rest apart =>
    have noPoint : s ≠ "." := fun same => apart (same ▸ by decide)
    have noCall : s ≠ "(" := fun same => apart (same ▸ by decide)
    have noIndex : s ≠ "[" := fun same => apart (same ▸ by decide)
    simp [trailers, noPoint, noCall, noIndex]

theorem primary_reads (inner : Reads k (atom · ts) (t, rest)) (ends : EndsOperand rest) :
    Reads (k + 1) (primary · ts) (t, rest) :=
  reads_succ fun fuel enough => by simp [primary, inner fuel enough, ends.trailers_eq]

theorem factor_reads (noSign : eatOne unaryOps ts = none) (noAwait : eatWord "await" ts = none)
    (inner : Reads k (primary · ts) (t, rest)) (ends : EndsOperand rest) :
    Reads (k + 1) (factor · ts) (t, rest) :=
  reads_succ fun fuel enough => by
    simp [factor, noSign, noAwait, inner fuel enough, ends.eat_eq_none (s := "**") (by decide)]

/-- Each level of operators takes a unit of fuel. -/
theorem binary_reads (inner : Reads k (factor · ts) (t, rest)) (ends : EndsOperand rest)
    {ops : List (List (String × BinaryOp))} (some : ∀ level ∈ ops, level ∈ levels) :
    Reads (k + 1 + ops.length) (binary · ops ts) (t, rest) := by
  induction ops with
  | nil => exact reads_succ fun fuel enough => by simp [binary, inner fuel enough]
  | cons level ops ih =>
    obtain ⟨here, further⟩ := List.forall_mem_cons.mp some
    exact reads_succ fun fuel enough => by
      simp [binary, ih further fuel enough, binaryTail, ends.eatOne_eq_none here]

theorem operand_reads (operand : Operand token t) (ends : EndsOperand rest) :
    Reads 10 (binary · levels (token :: rest)) (t, rest) := by
  have noSign : eatOne unaryOps (token :: rest) = none := by cases operand <;> rfl
  have noAwait : eatWord "await" (token :: rest) = none := by cases operand <;> rfl
  have primary := primary_reads (atom_reads operand ends) ends
  exact binary_reads (factor_reads noSign noAwait primary ends) ends fun _ => id

-- ---------------------------------------------------------------------------
-- Comparisons and connectives
-- ---------------------------------------------------------------------------

theorem comparisonTail_reads (sign : comparison? ts = some (op, behind))
    (right : Reads k (binary · levels behind) (t, rest)) (last : comparison? rest = none) :
    Reads (k + 1) (comparisonTail · ts) ([(op, t)], rest) :=
  reads_succ fun fuel enough => by simp [comparisonTail, sign, right fuel enough, last]

theorem inversion_reads (noNot : eatWord "not" ts = none)
    (left : Reads k (binary · levels ts) (t, middle))
    (tail : Reads l (comparisonTail · middle) (more, rest)) :
    Reads (max k l + 1) (inversion · ts) (if more.isEmpty then t else .compare t more, rest) :=
  reads_succ fun fuel enough => by
    simp [inversion, noNot, left fuel (by omega), tail fuel (by omega)]

theorem conjunction_reads (inner : Reads k (inversion · ts) (t, rest))
    (last : eatWord "and" rest = none) : Reads (k + 1) (conjunction · ts) (t, rest) :=
  reads_succ fun fuel enough => by simp [conjunction, inner fuel enough, andTail, last]

theorem disjunction_reads (inner : Reads k (conjunction · ts) (t, rest))
    (last : eatWord "or" rest = none) : Reads (k + 1) (disjunction · ts) (t, rest) :=
  reads_succ fun fuel enough => by simp [disjunction, inner fuel enough, orTail, last]

theorem expression_reads (noLambda : eatWord "lambda" ts = none)
    (inner : Reads k (disjunction · ts) (t, rest)) (last : eatWord "if" rest = none) :
    Reads (k + 1) (expression · ts) (t, rest) :=
  reads_succ fun fuel enough => by simp [expression, noLambda, inner fuel enough, last]

theorem comparison_reads {x y : Term} (left : Operand token x) (sign : s ∉ continuing)
    (right : Operand other y)
    (compares : comparison? (.symbol s :: other :: .newline :: rest) =
      some (op, other :: .newline :: rest)) :
    Reads 15 (expression · (token :: .symbol s :: other :: .newline :: rest))
      (.compare x [(op, y)], .newline :: rest) := by
  have noNot : eatWord "not" (token :: .symbol s :: other :: .newline :: rest) = none := by
    cases left <;> rfl
  have noLambda : eatWord "lambda" (token :: .symbol s :: other :: .newline :: rest) = none := by
    cases left <;> rfl
  have tail := comparisonTail_reads compares (operand_reads right .newline) rfl
  have whole := inversion_reads noNot (operand_reads left (.symbol sign)) tail
  exact expression_reads noLambda (disjunction_reads (conjunction_reads whole rfl) rfl) rfl

-- ---------------------------------------------------------------------------
-- Where no expression begins
-- ---------------------------------------------------------------------------

def opening : List String := ["(", "[", "\x7b", "...", "*"] ++ unaryOps.map Prod.fst

variable {s : String}

theorem atom_eq_none (apart : s ∉ opening) (fuel : Nat) : atom fuel (.symbol s :: ts) = none := by
  cases fuel with
  | zero => rfl
  | succ fuel =>
    have noGroup : s ≠ "(" := fun same => apart (same ▸ by decide)
    have noList : s ≠ "[" := fun same => apart (same ▸ by decide)
    have noBrace : s ≠ "\x7b" := fun same => apart (same ▸ by decide)
    have noEllipsis : s ≠ "..." := fun same => apart (same ▸ by decide)
    simp [atom, noGroup, noList, noBrace, noEllipsis]

theorem factor_eq_none (apart : s ∉ opening) (fuel : Nat) :
    factor fuel (.symbol s :: ts) = none := by
  have noSign : eatOne unaryOps (.symbol s :: ts) = none := by
    refine List.findSome?_eq_none_iff.mpr fun entry listed => ?_
    have sign : entry.1 ∈ opening := List.mem_append_right _ (List.mem_map_of_mem listed)
    have other : s ≠ entry.1 := fun same => apart (same ▸ sign)
    simp [eat_of_ne other]
  have noPrimary (fuel : Nat) : primary fuel (.symbol s :: ts) = none := by
    cases fuel <;> simp [primary, atom_eq_none apart]
  cases fuel <;> simp [factor, noSign, eatWord, noPrimary]

theorem binary_eq_none (apart : s ∉ opening) (ops : List (List (String × BinaryOp))) (fuel : Nat) :
    binary fuel ops (.symbol s :: ts) = none := by
  induction ops generalizing fuel with
  | nil => cases fuel <;> simp [binary, factor_eq_none apart]
  | cons level ops ih => cases fuel <;> simp [binary, ih]

theorem expression_eq_none (apart : s ∉ opening) (fuel : Nat) :
    expression fuel (.symbol s :: ts) = none := by
  have noInversion (fuel : Nat) : inversion fuel (.symbol s :: ts) = none := by
    cases fuel <;> simp [inversion, eatWord, binary_eq_none apart]
  have noConjunction (fuel : Nat) : conjunction fuel (.symbol s :: ts) = none := by
    cases fuel <;> simp [conjunction, noInversion]
  have noDisjunction (fuel : Nat) : disjunction fuel (.symbol s :: ts) = none := by
    cases fuel <;> simp [disjunction, noConjunction]
  cases fuel <;> simp [expression, eatWord, noDisjunction]

theorem subject_eq_none (apart : s ∉ opening) (fuel : Nat) :
    subject fuel (.symbol s :: ts) = none := by
  have noNamed (fuel : Nat) : namedExpression fuel (.symbol s :: ts) = none := by
    cases fuel <;> simp [namedExpression, expression_eq_none apart]
  have noStar : s ≠ "*" := fun same => apart (same ▸ by decide)
  have noElement : element fuel (.symbol s :: ts) = none := by
    cases fuel <;> simp [element, noStar, noNamed]
  simp [subject, noElement]

-- ---------------------------------------------------------------------------
-- Statements
-- ---------------------------------------------------------------------------

theorem simple_reads {x : Term} (operand : Operand token x)
    (inner : Reads k (expression · (token :: ts)) (t, .newline :: rest)) :
    Reads (k + 2) (simple · (token :: ts)) (.expression t, .newline :: rest) := by
  have star : Reads (k + 1) (starExpression · (token :: ts)) (t, .newline :: rest) :=
    reads_succ fun fuel enough => by cases operand <;> simp [starExpression, inner fuel enough]
  have whole : Reads (k + 2) (expressions · (token :: ts)) (t, .newline :: rest) :=
    reads_succ fun fuel enough => by simp [expressions, star fuel enough, eat]
  intro fuel enough
  have noYield : eatWord "yield" (token :: ts) = none := by cases operand <;> rfl
  have value : expressionStatement (fuel + 1) (token :: ts) =
      some (.expression t, .newline :: rest) := by
    simp [expressionStatement, assigned, noYield, whole fuel enough]
  cases operand <;> simp [simple, value]

/-- The line is a statement of its own. The name `match` is an operand if no subject follows. -/
theorem statement_reads {x : Term} (operand : Operand token x)
    (inner : Reads k (expression · (token :: ts)) (t, .newline :: rest))
    (noSubject : token = .name "match" → ∀ fuel, subject fuel ts = none) :
    Reads (k + 3) (statement · (token :: ts)) ([.expression t], rest) := by
  refine reads_succ fun fuel enough => ?_
  have line : simples (fuel + 1) ((token :: ts).length + 1) (token :: ts) =
      some ([.expression t], rest) := by
    simp [simples, simple_reads operand inner fuel enough]
  cases operand with
  | @name s =>
    by_cases isMatch : s = "match"
    · subst isMatch
      have noCases : comparison (fuel + 1) ts = none := by simp [comparison, noSubject rfl]
      simpa [statement, noCases] using line
    · simpa [statement, isMatch] using line
  | _ => simpa [statement] using line

theorem statements_line (reads : Reads k (statement · (token :: ts)) ([first], [])) (fuel : Nat)
    (enough : k ≤ fuel) (rounds : Nat) :
    statements (fuel + 1) (rounds + 1) (token :: ts) = some [first] := by
  simp [statements, reads fuel enough]

end Flowline.Condition.Parser

import Flowline.Proofs.Choice.Token
import Flowline.Proofs.Condition.Parser

/-!
# Reading a choice

The tokens of a choice are read as one expression: a value as the operand that it is, a call as an
operand with its arguments behind it, each of which is read like a whole choice. How much fuel that
takes depends on how deep the calls stand within each other.
-/

namespace Flowline.Condition

def Leaf.term (l : Leaf) : Term := .constant l.value

def Choice.term : Choice → Term
  | .leaf l => l.term
  | .call _ test yes no => .call (.name "iif") [test.term, yes.term, no.term] []

namespace Parser

inductive EndsArgument : List Token → Prop
  | newline : EndsArgument (.newline :: rest)
  | comma : EndsArgument (.symbol "," :: rest)
  | closing : EndsArgument (.symbol ")" :: rest)

/-- What an argument without a name begins with: an operand, with neither `=` nor `:=` behind it. -/
inductive BeginsArgument : List Token → Prop
  | intro (operand : Operand token x)
      (unnamed : ∀ s behind, ts = .symbol s :: behind → s ≠ "=" ∧ s ≠ ":=") :
    BeginsArgument (token :: ts)

variable {token : Token} {x t : Term} {args : List Term} {ts rest left : List Token} {k l : Nat}

theorem EndsArgument.endsOperand (ends : EndsArgument rest) : EndsOperand rest := by
  cases ends with
  | newline => exact .newline
  | comma => exact .symbol (by decide)
  | closing => exact .symbol (by decide)

theorem Reads.mono {parse : Nat → Option α} {a : α} (reads : Reads k parse a) (more : k ≤ l) :
    Reads l parse a := fun fuel enough => reads fuel (Nat.le_trans more enough)

theorem expression_of_binary (operand : Operand token x)
    (inner : Reads k (binary · levels (token :: ts)) (t, rest)) (ends : EndsArgument rest) :
    Reads (k + 4) (expression · (token :: ts)) (t, rest) := by
  have noNot : eatWord "not" (token :: ts) = none := by cases operand <;> rfl
  have noLambda : eatWord "lambda" (token :: ts) = none := by cases operand <;> rfl
  have tail : Reads 0 (comparisonTail · rest) ([], rest) := fun fuel _ => by
    cases ends <;> simp [comparisonTail, comparison?, eatOne, eat]
  have whole := inversion_reads noNot inner tail
  rw [Nat.max_eq_left (Nat.zero_le k)] at whole
  have noAnd : eatWord "and" rest = none := by cases ends <;> rfl
  have noOr : eatWord "or" rest = none := by cases ends <;> rfl
  have noIf : eatWord "if" rest = none := by cases ends <;> rfl
  exact expression_reads noLambda (disjunction_reads (conjunction_reads whole noAnd) noOr) noIf

-- ---------------------------------------------------------------------------
-- Calls
-- ---------------------------------------------------------------------------

theorem primary_call {s : String}
    (inner : Reads k (arguments · true false false ts) ((args, []), rest))
    (ends : EndsOperand rest) :
    Reads (k + 2) (primary · (.name s :: .symbol "(" :: ts)) (.call (.name s) args [], rest) := by
  intro fuel enough
  obtain ⟨fuel, rfl⟩ := Nat.exists_eq_add_of_le' (Nat.le_trans (Nat.le_add_left 2 k) enough)
  have given := inner fuel (by omega)
  simp only at given
  have call : trailers (fuel + 2) (.name s) (.symbol "(" :: ts) =
      some (.call (.name s) args [], rest) := by
    rw [trailers]
    simp [given, ends.trailers_eq]
  simp [primary, atom, call]

theorem namedExpression_reads (begins : BeginsArgument ts)
    (inner : Reads k (expression · ts) (t, rest)) :
    Reads (k + 1) (namedExpression · ts) (t, rest) := by
  refine reads_succ fun fuel enough => ?_
  have given := inner fuel enough
  obtain ⟨operand, unnamed⟩ := begins
  simp only at given
  unfold namedExpression
  split
  · rename_i behind split
    exact absurd rfl (unnamed ":=" behind (List.cons.inj split).2).2
  · exact given

theorem arguments_operand {fuel : Nat} {first : Bool} (begins : BeginsArgument ts)
    (inner : namedExpression fuel ts = some (t, left)) (ends : EndsArgument left) :
    arguments (fuel + 1) first false false ts = (match left with
      | .symbol ")" :: ts => some (([], []), ts)
      | .symbol "," :: ts => arguments fuel false false false ts
      | _ => none).map fun ((args, more), ts) => ((t :: args, more), ts) := by
  obtain @⟨token, x, ts, operand, unnamed⟩ := begins
  have noFor : seesWord "for" left = false := by cases ends <;> rfl
  have noAsync : seesWord "async" left = false := by cases ends <;> rfl
  have noSymbol (s : String) (behind : List Token) : token :: ts ≠ .symbol s :: behind := by
    cases operand <;> exact nofun
  rw [arguments]
  · simp only [inner, noFor, noAsync, Option.bind_eq_bind, Option.bind_some, Bool.or_self,
      Bool.and_false, Bool.false_eq_true, if_false]
    exact Option.map_eq_bind.symm
  · exact noSymbol ")"
  · exact noSymbol "*"
  · exact noSymbol "**"
  · intro key behind same
    exact (unnamed "=" behind (List.cons.inj same).2).1 rfl

theorem arguments_last (begins : BeginsArgument ts)
    (inner : Reads k (expression · ts) (t, .symbol ")" :: rest)) (first : Bool) :
    Reads (k + 2) (arguments · first false false ts) (([t], []), rest) :=
  reads_succ fun fuel enough => by
    have given := namedExpression_reads begins inner fuel enough
    exact arguments_operand begins given .closing

theorem arguments_next (begins : BeginsArgument ts)
    (inner : Reads k (expression · ts) (t, .symbol "," :: left))
    (others : Reads l (arguments · false false false left) ((args, []), rest)) (first : Bool) :
    Reads (max (k + 1) l + 1) (arguments · first false false ts) ((t :: args, []), rest) :=
  reads_succ fun fuel enough => by
    have given := namedExpression_reads begins inner fuel (by omega)
    have further := others fuel (by omega)
    simp only at further
    simp only [arguments_operand begins given .comma, further, Option.map_some]

end Parser

-- ---------------------------------------------------------------------------
-- Choices
-- ---------------------------------------------------------------------------

open Condition.Parser

variable {rest : List Token}

theorem Leaf.operand (l : Leaf) : Operand l.token l.term := by
  cases l with
  | number n => exact .number
  | truth b => cases b <;> constructor
  | text q => exact .text

namespace Choice

theorem beginsArgument_tokens (t : Choice) (ends : EndsArgument rest) :
    BeginsArgument (t.tokens rest) := by
  cases t with
  | leaf l =>
    refine ⟨l.operand, ?_⟩
    cases ends <;> rintro _ _ ⟨⟩ <;> decide
  | call gaps test yes no =>
    refine ⟨.name, ?_⟩
    rintro _ _ ⟨⟩
    decide

/-- Each level of calls takes fuel for the arguments and for the levels of the grammar. -/
theorem expression_tokens (t : Choice) (ends : EndsArgument rest) :
    Reads (18 * t.depth + 14) (expression · (t.tokens rest)) (t.term, rest) := by
  induction t generalizing rest with
  | leaf l => exact expression_of_binary l.operand (operand_reads l.operand ends.endsOperand) ends
  | call gaps test yes no ihTest ihYes ihNo =>
    let deepest := max test.depth (max yes.depth no.depth)
    have argument {t : Choice} {rest : List Token} (within : t.depth ≤ deepest)
        (reads : Reads (18 * t.depth + 14) (expression · (t.tokens rest)) (t.term, rest)) :
        Reads (18 * deepest + 14) (expression · (t.tokens rest)) (t.term, rest) :=
      reads.mono (by omega)
    -- the arguments are read from the last one to the first
    have ends₃ : EndsArgument (.symbol ")" :: rest) := .closing
    have third := arguments_last (no.beginsArgument_tokens ends₃)
      (argument (by omega) (ihNo ends₃)) false
    have ends₂ : EndsArgument (.symbol "," :: no.tokens (.symbol ")" :: rest)) := .comma
    have second := arguments_next (yes.beginsArgument_tokens ends₂)
      (argument (by omega) (ihYes ends₂)) third false
    have ends₁ : EndsArgument (.symbol "," :: yes.tokens (.symbol "," ::
      no.tokens (.symbol ")" :: rest))) := .comma
    have first := arguments_next (test.beginsArgument_tokens ends₁)
      (argument (by omega) (ihTest ends₁)) second true
    have call := primary_call (s := "iif") first ends.endsOperand
    have operand := binary_reads (factor_reads rfl rfl call ends.endsOperand) ends.endsOperand
      fun _ => id
    exact (expression_of_binary .name operand ends).mono (by simp [depth, levels]; omega)

theorem depth_le_length_pieces (t : Choice) (rest : List Piece) :
    t.depth + rest.length ≤ (t.pieces rest).length := by
  induction t generalizing rest with
  | leaf l => simp [depth, pieces]
  | call gaps test yes no ihTest ihYes ihNo =>
    have third := ihNo (Piece.spaces gaps.afterNo (.closing :: rest))
    have second := ihYes (Piece.spaces gaps.afterYes (.comma :: Piece.spaces gaps.beforeNo
      (no.pieces (Piece.spaces gaps.afterNo (.closing :: rest)))))
    have first := ihTest (Piece.spaces gaps.afterTest (.comma :: Piece.spaces gaps.beforeYes
      (yes.pieces (Piece.spaces gaps.afterYes (.comma :: Piece.spaces gaps.beforeNo
        (no.pieces (Piece.spaces gaps.afterNo (.closing :: rest))))))))
    simp only [depth, pieces, Piece.spaces, List.length_append, List.length_replicate,
      List.length_cons] at first second third ⊢
    omega

theorem statement_tokens (t : Choice) :
    Reads (18 * t.depth + 17) (statement · (t.tokens [.newline])) ([.expression t.term], []) := by
  have line := t.expression_tokens (EndsArgument.newline : EndsArgument [.newline])
  cases t with
  | leaf l =>
    refine statement_reads l.operand line fun isMatch => ?_
    cases l <;> cases isMatch
  | call gaps test yes no =>
    exact statement_reads .name line fun isMatch => absurd (Token.name.inj isMatch) (by decide)

theorem ofChars_program (t : Choice) (spaced : t.IsSpaced) (shallow : t.depth ≤ 200) :
    Statement.ofChars t.spelled = some [.expression t.term] := by
  have enough : 18 * t.depth + 17 ≤ 64 * t.spelled.length + 63 := by
    have deep := t.depth_le_length_pieces []
    have long := t.length_pieces_le
    simp only [List.length_nil] at deep
    omega
  have line := t.statement_tokens
  rw [Statement.ofChars, t.ofChars_spelled spaced shallow, Option.bind_eq_bind, Option.bind_some]
  cases t with
  | leaf l => exact statements_line line _ enough _
  | call gaps test yes no => exact statements_line line _ enough _

end Choice

end Flowline.Condition

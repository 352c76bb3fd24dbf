import Flowline.Proofs.Condition.Origin
import Flowline.Proofs.Condition.Position

/-!
# What a condition can be

The value of a condition is a truth value, a number or a text, as it should be, unless another kind
of value is written into the condition or a power in it is complex. Lists and records cannot come of
it at all.
-/

namespace Flowline

/-- The kinds that a condition is meant to have. -/
def Value.Kind.IsOrdinary (k : Value.Kind) : Prop := k = .bool ∨ k = .int ∨ k = .float ∨ k = .text

instance (k : Value.Kind) : Decidable k.IsOrdinary := inferInstanceAs (Decidable (_ ∨ _))

namespace Condition

-- ---------------------------------------------------------------------------
-- Numerals
-- ---------------------------------------------------------------------------

open Condition.Parser (Finds)

namespace Token

def IsNumeral : Token → Prop
  | .number v => v.kind = .int ∨ v.kind = .float ∨ v.kind = .complex
  | _ => True

theorem radixNumber_isNumeral (base : Nat) (cs : List Char) :
    Finds (fun r => IsNumeral (.number r.1)) (radixNumber base cs) := by
  unfold radixNumber
  dsimp only
  split
  · exact .none
  · exact .ite .none (.some (.inl rfl))

theorem finish_isNumeral (whole fraction power written rest : List Char) :
    Finds (fun r => IsNumeral (.number r.1))
      (decimalNumber.finish whole fraction power written rest) :=
  .ite (.ite .none (.some (.inl rfl))) (.map_any fun _ => .inr (.inl rfl))

theorem afterFraction_isNumeral (whole fraction rest : List Char) :
    Finds (fun r => IsNumeral (.number r.1))
      (exponent rest >>= fun (power, rest) =>
        match rest with
        | j :: after =>
          if j = 'j' ∨ j = 'J' then
            if endsNumber after then
              some (.complex 0.0
                ((Decimal.unsigned? false (whole ++ fraction ++ power)).getD 0.0), after)
            else none
          else if !endsNumber rest then none
          else decimalNumber.finish whole fraction power (whole ++ fraction ++ power) rest
        | [] => decimalNumber.finish whole fraction power (whole ++ fraction ++ power) rest) := by
  refine .bind_any fun (power, rest) => ?_
  dsimp only
  split
  · exact .ite (.ite (.some (.inr (.inr rfl))) .none) (.ite .none (finish_isNumeral _ _ _ _ _))
  · exact finish_isNumeral _ _ _ _ _

theorem decimalNumber_isNumeral (whole cs : List Char) :
    Finds (fun r => IsNumeral (.number r.1)) (decimalNumber whole cs) := by
  unfold decimalNumber
  dsimp only
  split
  · split
    · exact .bind_any fun _ => afterFraction_isNumeral _ _ _
    · exact afterFraction_isNumeral _ _ _
  · exact afterFraction_isNumeral _ _ _

theorem numeral_isNumeral (cs : List Char) :
    Finds (fun r => IsNumeral (.number r.1)) (numeral cs) := by
  unfold numeral
  split
  · exact decimalNumber_isNumeral _ _
  · refine .ite (radixNumber_isNumeral _ _) (.ite (radixNumber_isNumeral _ _)
      (.ite (radixNumber_isNumeral _ _) (.bind_any fun _ => decimalNumber_isNumeral _ _)))
  · exact .bind_any fun _ => decimalNumber_isNumeral _ _

theorem literalWith_isNumeral (mark : Mark) (quote : Char) (cs : List Char) :
    Finds (fun r => r.1.IsNumeral) (literalWith mark quote cs) :=
  .bind_any fun _ => .ite (.some trivial)
    (.ite (.bind_any fun _ => .some trivial) (.bind_any fun _ => .some trivial))

theorem nameOrLiteral_isNumeral (cs : List Char) :
    Finds (fun r => r.1.IsNumeral) (nameOrLiteral cs) := by
  have plain (run rest : List Char) : Finds (fun r => r.1.IsNumeral)
      (if run.all (·.toNat < 128) then
        some (if reservedWords.contains (String.ofList run) then Token.word (String.ofList run)
          else .name (String.ofList run), rest)
      else if isName run then some (.name (String.ofList (Text.compose run)), rest)
      else none) := by
    refine .ite (.some ?_) (.ite (.some trivial) .none)
    split
    · trivial
    · trivial
  unfold nameOrLiteral
  dsimp only
  split
  · refine .ite ?_ (plain _ _)
    split
    · exact literalWith_isNumeral _ _ _
    · exact plain _ _
  · exact plain _ _

theorem inLine_isNumeral (cs : List Char) : Finds (fun r => r.1.IsNumeral) (inLine cs) := by
  unfold inLine
  split
  · exact .none
  · refine .ite ((numeral_isNumeral _).map fun _ => id)
      (.ite (literalWith_isNumeral _ _ _) (.ite (nameOrLiteral_isNumeral _) ?_))
    exact .map_any fun _ => trivial

theorem leave_isNumeral (col alt : Nat) (indents : Indents) :
    Finds (fun r => ∀ token ∈ r.1, token.IsNumeral) (enter.leave col alt indents) := by
  induction indents with
  | nil => exact .ite (.some nofun) .none
  | cons block outer ih =>
    refine .ite (ih.map fun r blocks => ?_) (.ite (.some nofun) .none)
    exact List.forall_mem_cons.mpr ⟨trivial, blocks⟩

theorem enter_isNumeral (col alt : Nat) (indents : Indents) :
    Finds (fun r => ∀ token ∈ r.1, token.IsNumeral) (enter col alt indents) := by
  have opens : ∀ token ∈ [Token.indent], token.IsNumeral := by simp [IsNumeral]
  unfold enter
  split
  · exact .ite (.some nofun) (.ite (.some opens) .none)
  · exact .ite (.ite (.some nofun) .none) (.ite (.ite (.some opens) .none) (leave_isNumeral _ _ _))

theorem scan_isNumeral (fuel : Nat) (start : Bool) (owed : List String) (indents : Indents)
    (cs : List Char) : Finds (fun ts => ∀ token ∈ ts, token.IsNumeral)
      (scan fuel start owed indents cs) := by
  induction fuel generalizing start owed indents cs with
  | zero => exact .none
  | succ fuel ih =>
    cases start with
    | true =>
      unfold scan
      dsimp only
      split
      · exact .some (List.forall_mem_map.mpr fun _ _ => trivial)
      · exact ih _ _ _ _
      · refine Finds.bind (enter_isNumeral _ _ _) fun (tokens, indents) blocks => ?_
        refine (ih _ _ _ _).bind fun more further => ?_
        exact .some (List.forall_mem_append.mpr ⟨blocks, further⟩)
    | false =>
      unfold scan
      dsimp only
      split
      · refine .ite (.some ?_) .none
        exact List.forall_mem_cons.mpr ⟨trivial, List.forall_mem_map.mpr fun _ _ => trivial⟩
      · refine .ite ((ih _ _ _ _).map fun more further => ?_) (ih _ _ _ _)
        exact List.forall_mem_cons.mpr ⟨trivial, further⟩
      · exact .ite .none (ih _ _ _ _)
      · refine .ite (ih _ _ _ _) ((inLine_isNumeral _).bind fun (token, left) here => ?_)
        refine .bind_any fun owed => (ih _ _ _ _).bind fun more further => ?_
        exact .some (List.forall_mem_cons.mpr ⟨here, further⟩)

theorem ofChars_isNumeral (cs : List Char) :
    Finds (fun ts => ∀ token ∈ ts, token.IsNumeral) (ofChars cs) := by
  unfold ofChars
  exact scan_isNumeral _ _ _ _ _

theorem within_of_brings {K : Value.Kind → Prop} {token : Token} (scope : Value.Kind.IsScope K)
    (isNumeral : token.IsNumeral) (brings : ∀ k, token.Brings k → K k) : token.Within K := by
  cases token with
  | word s =>
    rintro rfl
    exact brings _ .null
  | symbol s =>
    refine ⟨?_, ?_⟩
    · rintro rfl
      exact brings _ .ellipsis
    · rintro rfl
      exact brings _ .power
  | octets => exact brings _ .bytes
  | number v =>
    cases v with
    | int => exact scope.int
    | float => exact scope.float
    | complex => exact brings _ .imaginary
    | _ => simp [IsNumeral, Value.kind] at isNumeral
  | _ => trivial

end Token

-- ---------------------------------------------------------------------------
-- Conditions
-- ---------------------------------------------------------------------------

/-- The ordinary kinds, and those that one of some tokens brings. -/
def Written (ts : List Token) (k : Value.Kind) : Prop := k.IsOrdinary ∨ ∃ token ∈ ts, token.Brings k

theorem isScope_written (ts : List Token) : Value.Kind.IsScope (Written ts) where
  bool := .inl (by decide)
  int := .inl (by decide)
  float := .inl (by decide)
  text := .inl (by decide)
  noList := by
    rintro (ordinary | ⟨token, -, brings⟩)
    · exact absurd ordinary (by decide)
    · cases brings

theorem Statement.gives_evaluate {K : Value.Kind → Prop} (scope : Value.Kind.IsScope K)
    {s : Statement} (within : s.Within K) (source : String) :
    Gives (K ·.kind) (s.evaluate source) := by
  cases s with
  | expression t => exact Term.gives_evaluate scope source t within
  | assignment t => exact Term.gives_evaluate scope source t within
  | importing => exact .error _
  | refused construct => exact .error _

end Condition

end Flowline

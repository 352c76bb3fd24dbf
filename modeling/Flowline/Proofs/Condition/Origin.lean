import Flowline.Proofs.Condition.Kind

/-!
# Where the kinds of a condition come from

A value that is no truth value, number or text has been written into the condition: as `None`, as
`...`, as a byte string or as an imaginary number, or a power has become complex. So whatever the
grammar makes of a line of tokens, the constants and powers of its terms are among those tokens. The
parser is followed function by function, by induction on its fuel.
-/

namespace Flowline.Condition

/-- A token from which values of a kind come that is not ordinary. -/
inductive Token.Brings : Token → Value.Kind → Prop
  | null : Brings (.word "None") .null
  | ellipsis : Brings (.symbol "...") .ellipsis
  | bytes : Brings (.octets content) .bytes
  | imaginary : Brings (.number (.complex re im)) .complex
  | power : Brings (.symbol "**") .complex

def Token.Within (K : Value.Kind → Prop) : Token → Prop
  | .word s => s = "None" → K .null
  | .symbol s => (s = "..." → K .ellipsis) ∧ (s = "**" → K .complex)
  | .number v => K v.kind
  | .octets _ => K .bytes
  | _ => True

def Statement.Within (K : Value.Kind → Prop) : Statement → Prop
  | .expression t | .assignment t => t.Within K
  | .importing | .refused _ => True

namespace Parser

-- ---------------------------------------------------------------------------
-- Results of parsers
-- ---------------------------------------------------------------------------

def Finds (P : α → Prop) (r : Option α) : Prop := ∀ a, r = some a → P a

namespace Finds

variable {P : α → Prop} {Q : β → Prop} {r : Option α} {a : α}

theorem some (holds : P a) : Finds P (some a) := by
  rintro _ ⟨⟩
  exact holds

theorem none : Finds P none := nofun

theorem bind {f : α → Option β} (first : Finds P r) (next : ∀ a, P a → Finds Q (f a)) :
    Finds Q (r >>= f) := by
  cases r with
  | none => exact none
  | some a => exact next a (first a rfl)

theorem map {f : α → β} (first : Finds P r) (next : ∀ a, P a → Q (f a)) :
    Finds Q (r.map f) := by
  cases r with
  | none => exact none
  | some a => exact some (next a (first a rfl))

theorem bind_any {f : α → Option β} (next : ∀ a, Finds Q (f a)) : Finds Q (r >>= f) :=
  bind (P := fun _ => True) (fun _ _ => trivial) fun a _ => next a

theorem map_any {f : α → β} (next : ∀ a, Q (f a)) : Finds Q (r.map f) :=
  map (P := fun _ => True) (fun _ _ => trivial) fun a _ => next a

theorem ite {c : Prop} [Decidable c] {s : Option α} (yes : Finds P r) (no : Finds P s) :
    Finds P (if c then r else s) := by
  split
  · exact yes
  · exact no

theorem guard {c : Prop} [Decidable c] {f : PUnit → Option α} (rest : Finds P r) :
    Finds P (if c then (Option.none >>= f) else r) := ite none rest

end Finds

section

variable {K : Value.Kind → Prop} {token : Token} {ts rest : List Token}

def Fine (K : Value.Kind → Prop) (ts : List Token) : Prop := ∀ token ∈ ts, token.Within K

namespace Fine

theorem head (fine : Fine K (token :: ts)) : token.Within K := fine token List.mem_cons_self

theorem tail (fine : Fine K (token :: ts)) : Fine K ts :=
  fun other listed => fine other (List.mem_cons_of_mem _ listed)

theorem cons (here : token.Within K) (fine : Fine K ts) : Fine K (token :: ts) :=
  List.forall_mem_cons.mpr ⟨here, fine⟩

end Fine

theorem eq_cons_of_eat {s : String} (found : eat s ts = some rest) :
    ts = .symbol s :: rest := by
  unfold eat at found
  split at found
  · split at found
    · cases found
      simp [*]
    · cases found
  · cases found

theorem eq_cons_of_eatWord {s : String} (found : eatWord s ts = some rest) :
    ts = .word s :: rest := by
  unfold eatWord at found
  split at found
  · split at found
    · cases found
      simp [*]
    · cases found
  · cases found

theorem Fine.eat (fine : Fine K ts) {s : String} (found : eat s ts = some rest) : Fine K rest :=
  (eq_cons_of_eat found ▸ fine).tail

theorem Fine.eatWord (fine : Fine K ts) {s : String} (found : eatWord s ts = some rest) :
    Fine K rest := (eq_cons_of_eatWord found ▸ fine).tail

theorem finds_eat (fine : Fine K ts) (s : String) : Finds (Fine K) (eat s ts) :=
  fun _ => fine.eat

theorem finds_eatWord (fine : Fine K ts) (s : String) : Finds (Fine K) (eatWord s ts) :=
  fun _ => fine.eatWord

theorem Fine.eatOne (fine : Fine K ts) {ops : List (String × α)} {op : α}
    (found : eatOne ops ts = some (op, rest)) : Fine K rest ∧ ∃ s, (s, op) ∈ ops := by
  obtain ⟨⟨s, other⟩, listed, taken⟩ := List.exists_of_findSome?_eq_some found
  obtain ⟨left, here, same⟩ := Option.map_eq_some_iff.mp taken
  cases same
  exact ⟨fine.eat here, s, listed⟩

theorem Fine.comparison? (fine : Fine K ts) {op : Comparison}
    (found : comparison? ts = some (op, rest)) : Fine K rest := by
  unfold Parser.comparison? at found
  split at found
  · cases found
    exact fine.tail
  · cases found
    exact fine.tail.tail
  · cases found
    exact fine.tail.tail
  · cases found
    exact fine.tail
  · exact (fine.eatOne found).1

end

-- ---------------------------------------------------------------------------
-- One step of each parser
-- ---------------------------------------------------------------------------

/-- What is read satisfies a condition, and the tokens behind it are still fine. -/
def Read (K : Value.Kind → Prop) (Q : α → Prop) (r : α × List Token) : Prop := Q r.1 ∧ Fine K r.2

/-- A term is read whose kinds are those of its tokens. -/
abbrev Tells (K : Value.Kind → Prop) (r : Option (Term × List Token)) : Prop :=
  Finds (Read K (Term.Within K)) r

abbrev Leaves (K : Value.Kind → Prop) (r : Option (α × List Token)) : Prop :=
  Finds (Read K fun _ => True) r

/-- With the given fuel all parsers stay within the kinds of their tokens. -/
structure Stays (K : Value.Kind → Prop) (fuel : Nat) : Prop where
  expression : Fine K ts → Tells K (expression fuel ts)
  parameters : Fine K ts → Finds (Fine K) (parameters fuel typed stage slash ts)
  parameter : Fine K ts → Leaves K (parameter fuel typed stage slash ts)
  disjunction : Fine K ts → Tells K (disjunction fuel ts)
  orTail : Fine K ts → Finds (Read K (Term.AllWithin K)) (orTail fuel ts)
  conjunction : Fine K ts → Tells K (conjunction fuel ts)
  andTail : Fine K ts → Finds (Read K (Term.AllWithin K)) (andTail fuel ts)
  inversion : Fine K ts → Tells K (inversion fuel ts)
  comparisonTail : Fine K ts → Leaves K (comparisonTail fuel ts)
  binary : (∀ level ∈ ops, level ∈ levels) → Fine K ts → Tells K (binary fuel ops ts)
  binaryTail : (∀ level ∈ ops :: tighter, level ∈ levels) → Term.Within K left → Fine K ts →
    Tells K (binaryTail fuel ops tighter left ts)
  factor : Fine K ts → Tells K (factor fuel ts)
  primary : Fine K ts → Tells K (primary fuel ts)
  trailers : Term.Within K t → Fine K ts → Tells K (trailers fuel t ts)
  arguments : Fine K ts → Finds (Read K fun r => Term.AllWithin K r.1 ∧ Term.NamedWithin K r.2)
    (arguments fuel first named spread ts)
  subscripts : Fine K ts → Leaves K (subscripts fuel ts)
  slice : Fine K ts → Leaves K (slice fuel ts)
  bounds : Fine K ts → Leaves K (bounds fuel more ts)
  namedExpression : Fine K ts → Tells K (namedExpression fuel ts)
  element : Fine K ts → Tells K (element fuel ts)
  elements : Fine K ts → Leaves K (elements fuel close ts)
  clauses : Fine K ts → Leaves K (clauses fuel ts)
  clauseTests : Fine K ts → Leaves K (clauseTests fuel ts)
  targetList : Fine K ts → Leaves K (targetList fuel ts)
  yieldRest : Fine K ts → Tells K (yieldRest fuel ts)
  expressions : Fine K ts → Tells K (expressions fuel ts)
  expressionsTail : Fine K ts → Leaves K (expressionsTail fuel ts)
  starExpression : Fine K ts → Tells K (starExpression fuel ts)
  atom : Fine K ts → Tells K (atom fuel ts)
  restOf : Fine K ts → Leaves K (restOf fuel close ts)
  group : Fine K ts → Tells K (group fuel ts)
  braces : Fine K ts → Tells K (braces fuel ts)
  entries : Fine K ts → Leaves K (entries fuel ts)
  octetLiterals : Fine K ts → Tells K (octetLiterals fuel ts)
  textLiterals : Fine K ts → Tells K (textLiterals fuel ts)
  joinedParts : Fine K ts → Leaves K (joinedParts fuel ts)

section

variable {K : Value.Kind → Prop} {fuel : Nat} {ts : List Token} (stays : Stays K fuel)

include stays

theorem expression_tells (fine : Fine K ts) : Tells K (expression (fuel + 1) ts) := by
  unfold expression
  split
  · rename_i ts opens
    refine (stays.parameters (fine.eatWord opens)).bind fun ts fine => ?_
    refine (finds_eat fine ":").bind fun ts fine => ?_
    refine (stays.expression fine).bind fun (body, ts) ⟨_, fine⟩ => ?_
    exact .some ⟨trivial, fine⟩
  · refine (stays.disjunction fine).bind fun (yes, ts) ⟨here, fine⟩ => ?_
    dsimp only at fine ⊢
    split
    · exact .some ⟨here, fine⟩
    · rename_i ts goesOn
      refine (stays.disjunction (fine.eatWord goesOn)).bind fun (test, ts) ⟨_, fine⟩ => ?_
      refine (finds_eatWord fine "else").bind fun ts fine => ?_
      refine (stays.expression fine).bind fun (no, ts) ⟨there, fine⟩ => ?_
      exact .some ⟨⟨here, there⟩, fine⟩

theorem parameters_fine (typed : Bool) (stage : ParameterStage) (slash : SlashStage)
    (fine : Fine K ts) : Finds (Fine K) (parameters (fuel + 1) typed stage slash ts) := by
  unfold parameters
  split
  · exact .some fine
  · refine (stays.parameter fine).bind fun (stage, ts) ⟨_, fine⟩ => ?_
    dsimp only at fine ⊢
    split
    · rename_i ts comma
      exact stays.parameters (fine.eat comma)
    · split
      · exact .some fine
      · exact .none

theorem typing_finds {typed : Bool} (fine : Fine K ts) : Finds (Fine K)
    (if typed = true then
      match eat ":" ts with
      | some ts => (expression fuel ts).map (·.2)
      | none => some ts
    else some ts) := by
  split
  · split
    · rename_i ts colon
      exact (stays.expression (fine.eat colon)).map fun _ => And.right
    · exact .some fine
  · exact .some fine

theorem parameter_leaves (typed : Bool) (stage : ParameterStage) (slash : SlashStage)
    (fine : Fine K ts) : Leaves K (parameter (fuel + 1) typed stage slash ts) := by
  unfold parameter
  dsimp only
  split
  · refine .guard ((typing_finds stays fine.tail).bind fun ts fine => ?_)
    split
    · rename_i ts equals
      refine (stays.expression (fine.eat equals)).bind fun (_, ts) ⟨_, fine⟩ => ?_
      exact .some ⟨trivial, fine⟩
    · split
      · exact .none
      · exact .some ⟨trivial, fine⟩
  · split
    · exact .some ⟨trivial, fine.tail⟩
    · exact .none
  · refine .guard ((typing_finds stays fine.tail.tail).bind fun ts fine => ?_)
    exact .some ⟨trivial, fine⟩
  · split
    · exact .none
    · exact .some ⟨trivial, fine.tail⟩
  · refine .guard ((typing_finds stays fine.tail.tail).bind fun ts fine => ?_)
    exact .some ⟨trivial, fine⟩
  · exact .none

theorem disjunction_tells (fine : Fine K ts) : Tells K (disjunction (fuel + 1) ts) := by
  refine (stays.conjunction fine).bind fun (first, ts) ⟨here, fine⟩ => ?_
  refine (stays.orTail fine).bind fun (more, ts) ⟨further, fine⟩ => ?_
  refine .some ⟨?_, fine⟩
  dsimp only
  split
  · exact here
  · exact ⟨List.cons_ne_nil _ _, here, further⟩

theorem orTail_finds (fine : Fine K ts) :
    Finds (Read K (Term.AllWithin K)) (orTail (fuel + 1) ts) := by
  unfold orTail
  split
  · exact .some ⟨trivial, fine⟩
  · rename_i ts word
    refine (stays.conjunction (fine.eatWord word)).bind fun (t, ts) ⟨here, fine⟩ => ?_
    refine (stays.orTail fine).bind fun (more, ts) ⟨further, fine⟩ => ?_
    exact .some ⟨⟨here, further⟩, fine⟩

theorem conjunction_tells (fine : Fine K ts) : Tells K (conjunction (fuel + 1) ts) := by
  refine (stays.inversion fine).bind fun (first, ts) ⟨here, fine⟩ => ?_
  refine (stays.andTail fine).bind fun (more, ts) ⟨further, fine⟩ => ?_
  refine .some ⟨?_, fine⟩
  dsimp only
  split
  · exact here
  · exact ⟨List.cons_ne_nil _ _, here, further⟩

theorem andTail_finds (fine : Fine K ts) :
    Finds (Read K (Term.AllWithin K)) (andTail (fuel + 1) ts) := by
  unfold andTail
  split
  · exact .some ⟨trivial, fine⟩
  · rename_i ts word
    refine (stays.inversion (fine.eatWord word)).bind fun (t, ts) ⟨here, fine⟩ => ?_
    refine (stays.andTail fine).bind fun (more, ts) ⟨further, fine⟩ => ?_
    exact .some ⟨⟨here, further⟩, fine⟩

theorem inversion_tells (fine : Fine K ts) : Tells K (inversion (fuel + 1) ts) := by
  unfold inversion
  split
  · rename_i ts word
    exact (stays.inversion (fine.eatWord word)).map fun _ => id
  · refine (stays.binary (fun _ => id) fine).bind fun (first, ts) ⟨here, fine⟩ => ?_
    refine (stays.comparisonTail fine).bind fun (more, ts) ⟨_, fine⟩ => ?_
    refine .some ⟨?_, fine⟩
    dsimp only
    split
    · exact here
    · trivial

theorem comparisonTail_leaves (fine : Fine K ts) : Leaves K (comparisonTail (fuel + 1) ts) := by
  unfold comparisonTail
  split
  · exact .some ⟨trivial, fine⟩
  · rename_i op ts sign
    refine (stays.binary (fun _ => id) (fine.comparison? sign)).bind fun (t, ts) ⟨_, fine⟩ => ?_
    refine (stays.comparisonTail fine).bind fun (more, ts) ⟨_, fine⟩ => ?_
    exact .some ⟨trivial, fine⟩

theorem binary_tells {ops : List (List (String × BinaryOp))}
    (known : ∀ level ∈ ops, level ∈ levels) (fine : Fine K ts) :
    Tells K (binary (fuel + 1) ops ts) := by
  cases ops with
  | nil => exact stays.factor fine
  | cons level tighter =>
    refine (stays.binary (List.forall_mem_cons.mp known).2 fine).bind
      fun (first, ts) ⟨here, fine⟩ => ?_
    exact stays.binaryTail known here fine

omit stays in
theorem ne_pow_of_mem_levels : ∀ level ∈ levels, ∀ entry ∈ level, entry.2 ≠ .pow := by
  decide

theorem binaryTail_tells {ops : List (String × BinaryOp)}
    {tighter : List (List (String × BinaryOp))} {left : Term}
    (known : ∀ level ∈ ops :: tighter, level ∈ levels) (here : left.Within K)
    (fine : Fine K ts) : Tells K (binaryTail (fuel + 1) ops tighter left ts) := by
  unfold binaryTail
  split
  · exact .some ⟨here, fine⟩
  · rename_i op ts sign
    obtain ⟨fine, s, listed⟩ := fine.eatOne sign
    obtain ⟨level, further⟩ := List.forall_mem_cons.mp known
    have noPower : op ≠ .pow := ne_pow_of_mem_levels ops level (s, op) listed
    refine (stays.binary further fine).bind fun (right, ts) ⟨there, fine⟩ => ?_
    exact stays.binaryTail known ⟨fun same => absurd same noPower, here, there⟩ fine

theorem power_tells {base : Term} (here : base.Within K) (fine : Fine K ts) :
    Tells K (match eat "**" ts with
      | none => some (base, ts)
      | some ts => factor fuel ts >>= fun (power, ts) => some (.binary .pow base power, ts)) := by
  split
  · exact .some ⟨here, fine⟩
  · rename_i ts power
    have complex : K .complex := (eq_cons_of_eat power ▸ fine).head.2 rfl
    refine (stays.factor (fine.eat power)).bind fun (power, ts) ⟨there, fine⟩ => ?_
    exact .some ⟨⟨fun _ => complex, here, there⟩, fine⟩

theorem factor_tells (fine : Fine K ts) : Tells K (factor (fuel + 1) ts) := by
  unfold factor
  dsimp only
  split
  · rename_i op ts sign
    exact (stays.factor (fine.eatOne sign).1).map fun _ => id
  · split
    · rename_i ts word
      refine Finds.bind (P := Read K (Term.Within K)) ?_ fun (base, ts) ⟨here, fine⟩ =>
        power_tells stays here fine
      exact (stays.primary (fine.eatWord word)).map fun _ ⟨_, fine⟩ => ⟨trivial, fine⟩
    · refine (stays.primary fine).bind fun (base, ts) ⟨here, fine⟩ => ?_
      exact power_tells stays here fine

theorem primary_tells (fine : Fine K ts) : Tells K (primary (fuel + 1) ts) :=
  (stays.atom fine).bind fun (_, _) ⟨here, fine⟩ => stays.trailers here fine

theorem trailers_tells {t : Term} (here : t.Within K) (fine : Fine K ts) :
    Tells K (trailers (fuel + 1) t ts) := by
  unfold trailers
  split
  · exact stays.trailers trivial fine.tail.tail
  · refine (stays.arguments fine.tail).bind fun ((args, named), ts) ⟨given, fine⟩ => ?_
    exact stays.trailers given fine
  · refine (stays.subscripts fine.tail).bind fun (index, ts) ⟨_, fine⟩ => ?_
    exact stays.trailers trivial fine
  · exact .none
  · exact .some ⟨here, fine⟩

theorem nextArguments_finds {named spread : Bool} (fine : Fine K ts) :
    Finds (Read K fun r => Term.AllWithin K r.1 ∧ Term.NamedWithin K r.2) (match ts with
      | .symbol ")" :: ts => some (([], []), ts)
      | .symbol "," :: ts => arguments fuel false named spread ts
      | _ => none) := by
  split
  · exact .some ⟨⟨trivial, trivial⟩, fine.tail⟩
  · exact stays.arguments fine.tail
  · exact .none

theorem arguments_finds (first named spread : Bool) (fine : Fine K ts) :
    Finds (Read K fun r => Term.AllWithin K r.1 ∧ Term.NamedWithin K r.2)
      (arguments (fuel + 1) first named spread ts) := by
  unfold arguments
  dsimp only
  split
  · exact .some ⟨⟨trivial, trivial⟩, fine.tail⟩
  · refine .guard ?_
    refine (stays.expression fine.tail).bind fun (t, ts) ⟨here, fine⟩ => ?_
    refine (nextArguments_finds stays fine).bind fun ((args, more), ts) ⟨⟨all, others⟩, fine⟩ => ?_
    exact .some ⟨⟨⟨trivial, all⟩, others⟩, fine⟩
  · refine (stays.expression fine.tail).bind fun (t, ts) ⟨here, fine⟩ => ?_
    refine (nextArguments_finds stays fine).bind fun ((args, more), ts) ⟨⟨all, others⟩, fine⟩ => ?_
    exact .some ⟨⟨all, here, others⟩, fine⟩
  · refine (stays.expression fine.tail.tail).bind fun (t, ts) ⟨here, fine⟩ => ?_
    refine (nextArguments_finds stays fine).bind fun ((args, more), ts) ⟨⟨all, others⟩, fine⟩ => ?_
    exact .some ⟨⟨all, here, others⟩, fine⟩
  · refine .guard ?_
    refine (stays.namedExpression fine).bind fun (t, ts) ⟨here, fine⟩ => ?_
    dsimp only at fine ⊢
    split
    · refine (stays.clauses fine).bind fun (parts, ts) ⟨_, fine⟩ => ?_
      refine (finds_eat fine ")").bind fun ts fine => ?_
      exact .some ⟨⟨⟨trivial, trivial⟩, trivial⟩, fine⟩
    · refine (nextArguments_finds stays fine).bind fun ((args, more), ts) ⟨⟨all, others⟩, fine⟩ => ?_
      exact .some ⟨⟨⟨here, all⟩, others⟩, fine⟩

theorem subscripts_leaves (fine : Fine K ts) : Leaves K (subscripts (fuel + 1) ts) := by
  refine (stays.slice fine).bind fun (t, ts) ⟨_, fine⟩ => ?_
  dsimp only at fine ⊢
  split
  · exact .some ⟨trivial, fine.tail⟩
  · exact .some ⟨trivial, fine.tail.tail⟩
  · refine (stays.subscripts fine.tail).bind fun (more, ts) ⟨_, fine⟩ => ?_
    exact .some ⟨trivial, fine⟩
  · exact .none

theorem slice_leaves (fine : Fine K ts) : Leaves K (slice (fuel + 1) ts) := by
  unfold slice
  split
  · exact (stays.expression fine.tail).map fun _ ⟨_, fine⟩ => ⟨trivial, fine⟩
  · exact (stays.bounds fine.tail).map fun _ ⟨_, fine⟩ => ⟨trivial, fine⟩
  · refine (stays.namedExpression fine).bind fun (t, ts) ⟨_, fine⟩ => ?_
    dsimp only at fine ⊢
    split
    · exact .some ⟨trivial, fine⟩
    · rename_i ts colon
      refine .guard ?_
      refine (stays.bounds (fine.eat colon)).bind fun (more, ts) ⟨_, fine⟩ => ?_
      exact .some ⟨trivial, fine⟩

theorem bounds_leaves (more : Bool) (fine : Fine K ts) : Leaves K (bounds (fuel + 1) more ts) := by
  unfold bounds
  split
  · exact .some ⟨trivial, fine⟩
  · split
    · split
      · exact stays.bounds fine.tail
      · exact .none
    · refine (stays.expression fine).bind fun (t, ts) ⟨_, fine⟩ => ?_
      dsimp only at fine ⊢
      split
      · exact .some ⟨trivial, fine⟩
      · rename_i ts colon
        refine .guard ?_
        refine (stays.bounds (fine.eat colon)).bind fun (rest, ts) ⟨_, fine⟩ => ?_
        exact .some ⟨trivial, fine⟩

theorem namedExpression_tells (fine : Fine K ts) : Tells K (namedExpression (fuel + 1) ts) := by
  unfold namedExpression
  split
  · exact (stays.expression fine.tail.tail).map fun _ ⟨_, fine⟩ => ⟨trivial, fine⟩
  · exact stays.expression fine

theorem element_tells (fine : Fine K ts) : Tells K (element (fuel + 1) ts) := by
  unfold element
  split
  · exact (stays.binary (fun _ => id) fine.tail).map fun _ ⟨_, fine⟩ => ⟨trivial, fine⟩
  · exact stays.namedExpression fine

theorem elements_leaves (close : String) (fine : Fine K ts) :
    Leaves K (elements (fuel + 1) close ts) := by
  unfold elements
  split
  · rename_i ts closes
    exact .some ⟨trivial, fine.eat closes⟩
  · refine (stays.element fine).bind fun (t, ts) ⟨_, fine⟩ => ?_
    dsimp only at fine ⊢
    split
    · rename_i ts closes
      exact .some ⟨trivial, fine.eat closes⟩
    · refine (finds_eat fine ",").bind fun ts fine => ?_
      refine (stays.elements fine).bind fun (more, ts) ⟨_, fine⟩ => ?_
      exact .some ⟨trivial, fine⟩

theorem clauseTests_leaves (fine : Fine K ts) : Leaves K (clauseTests (fuel + 1) ts) := by
  unfold clauseTests
  split
  · exact .some ⟨trivial, fine⟩
  · rename_i ts word
    refine (stays.disjunction (fine.eatWord word)).bind fun (t, ts) ⟨_, fine⟩ => ?_
    refine (stays.clauseTests fine).bind fun (more, ts) ⟨_, fine⟩ => ?_
    exact .some ⟨trivial, fine⟩

theorem nextTargets_leaves {t : Term} (fine : Fine K ts) :
    Leaves K (match eat "," ts with
      | none => some ([t], ts)
      | some ts =>
        if seesWord "in" ts then some ([t], ts)
        else targetList fuel ts >>= fun (more, ts) => some (t :: more, ts)) := by
  split
  · exact .some ⟨trivial, fine⟩
  · rename_i ts comma
    split
    · exact .some ⟨trivial, fine.eat comma⟩
    · refine (stays.targetList (fine.eat comma)).bind fun (more, ts) ⟨_, fine⟩ => ?_
      exact .some ⟨trivial, fine⟩

theorem targetList_leaves (fine : Fine K ts) : Leaves K (targetList (fuel + 1) ts) := by
  unfold targetList
  dsimp only
  split
  · rename_i ts star
    refine Finds.bind (P := Read K (Term.Within K)) ?_ fun (t, ts) ⟨_, fine⟩ =>
      nextTargets_leaves stays fine
    exact (stays.binary (fun _ => id) (fine.eat star)).map fun _ ⟨_, fine⟩ => ⟨trivial, fine⟩
  · refine (stays.binary (fun _ => id) fine).bind fun (t, ts) ⟨_, fine⟩ => ?_
    exact nextTargets_leaves stays fine

theorem clauses_leaves (fine : Fine K ts) : Leaves K (clauses (fuel + 1) ts) := by
  have plain : Fine K ((eatWord "async" ts).getD ts) := by
    cases word : eatWord "async" ts with
    | none => exact fine
    | some ts => exact fine.eatWord word
  refine (finds_eatWord plain "for").bind fun ts fine => ?_
  refine (stays.targetList fine).bind fun (targets, ts) ⟨_, fine⟩ => ?_
  refine .guard ?_
  refine (finds_eatWord fine "in").bind fun ts fine => ?_
  refine (stays.disjunction fine).bind fun (source, ts) ⟨_, fine⟩ => ?_
  refine (stays.clauseTests fine).bind fun (tests, ts) ⟨_, fine⟩ => ?_
  dsimp only at fine ⊢
  split
  · refine (stays.clauses fine).bind fun (more, ts) ⟨_, fine⟩ => ?_
    exact .some ⟨trivial, fine⟩
  · exact .some ⟨trivial, fine⟩

theorem yieldRest_tells (fine : Fine K ts) : Tells K (yieldRest (fuel + 1) ts) := by
  unfold yieldRest
  split
  · rename_i ts word
    exact (stays.expression (fine.eatWord word)).map fun _ ⟨_, fine⟩ => ⟨trivial, fine⟩
  · split
    · exact .some ⟨trivial, fine⟩
    · exact .some ⟨trivial, fine⟩
    · split
      · exact .some ⟨trivial, fine⟩
      · exact (stays.expressions fine).map fun _ ⟨_, fine⟩ => ⟨trivial, fine⟩

theorem expressions_tells (fine : Fine K ts) : Tells K (expressions (fuel + 1) ts) := by
  refine (stays.starExpression fine).bind fun (t, ts) ⟨here, fine⟩ => ?_
  dsimp only at fine ⊢
  split
  · exact .some ⟨here, fine⟩
  · rename_i ts comma
    refine (stays.expressionsTail (fine.eat comma)).bind fun (more, ts) ⟨_, fine⟩ => ?_
    exact .some ⟨trivial, fine⟩

theorem expressionsTail_leaves (fine : Fine K ts) :
    Leaves K (expressionsTail (fuel + 1) ts) := by
  unfold expressionsTail
  split
  · exact .some ⟨trivial, fine⟩
  · exact .some ⟨trivial, fine⟩
  · split
    · exact .some ⟨trivial, fine⟩
    · refine (stays.starExpression fine).bind fun (t, ts) ⟨_, fine⟩ => ?_
      dsimp only at fine ⊢
      split
      · exact .some ⟨trivial, fine⟩
      · rename_i ts comma
        refine (stays.expressionsTail (fine.eat comma)).bind fun (more, ts) ⟨_, fine⟩ => ?_
        exact .some ⟨trivial, fine⟩

theorem starExpression_tells (fine : Fine K ts) : Tells K (starExpression (fuel + 1) ts) := by
  unfold starExpression
  split
  · exact (stays.binary (fun _ => id) fine.tail).map fun _ ⟨_, fine⟩ => ⟨trivial, fine⟩
  · exact stays.expression fine

theorem restOf_leaves (close : String) (fine : Fine K ts) :
    Leaves K (restOf (fuel + 1) close ts) := by
  unfold restOf
  split
  · rename_i ts closes
    exact .some ⟨trivial, fine.eat closes⟩
  · exact (finds_eat fine ",").bind fun ts fine => stays.elements fine

theorem group_tells (fine : Fine K ts) : Tells K (group (fuel + 1) ts) := by
  unfold group
  split
  · exact .some ⟨trivial, fine.tail⟩
  · refine (stays.yieldRest fine.tail).bind fun (t, ts) ⟨here, fine⟩ => ?_
    refine (finds_eat fine ")").bind fun ts fine => ?_
    exact .some ⟨here, fine⟩
  · refine (stays.element fine).bind fun (t, ts) ⟨here, fine⟩ => ?_
    dsimp only at fine ⊢
    split
    · refine .guard ?_
      refine (stays.clauses fine).bind fun (parts, ts) ⟨_, fine⟩ => ?_
      refine (finds_eat fine ")").bind fun ts fine => ?_
      exact .some ⟨trivial, fine⟩
    · split
      · rename_i ts closes
        split
        · exact .none
        · exact .some ⟨here, fine.eat closes⟩
      · refine (stays.restOf fine).bind fun (more, ts) ⟨_, fine⟩ => ?_
        exact .some ⟨trivial, fine⟩

theorem braces_tells (fine : Fine K ts) : Tells K (braces (fuel + 1) ts) := by
  unfold braces
  split
  · exact .some ⟨trivial, fine.tail⟩
  · refine (stays.entries fine).bind fun (parts, ts) ⟨_, fine⟩ => ?_
    exact .some ⟨trivial, fine⟩
  · refine (stays.element fine).bind fun (t, after) ⟨_, fine⟩ => ?_
    dsimp only at fine ⊢
    split
    · refine .guard ?_
      refine (finds_eat fine ":").bind fun ts fine => ?_
      refine (stays.expression fine).bind fun (v, ts) ⟨_, fine⟩ => ?_
      dsimp only at fine ⊢
      split
      · refine (stays.clauses fine).bind fun (parts, ts) ⟨_, fine⟩ => ?_
        refine (finds_eat fine "\x7d").bind fun ts fine => ?_
        exact .some ⟨trivial, fine⟩
      · split
        · rename_i ts closes
          exact .some ⟨trivial, fine.eat closes⟩
        · refine (finds_eat fine ",").bind fun ts fine => ?_
          refine (stays.entries fine).bind fun (parts, ts) ⟨_, fine⟩ => ?_
          exact .some ⟨trivial, fine⟩
    · split
      · refine .guard ?_
        refine (stays.clauses fine).bind fun (parts, ts) ⟨_, fine⟩ => ?_
        refine (finds_eat fine "\x7d").bind fun ts fine => ?_
        exact .some ⟨trivial, fine⟩
      · refine (stays.restOf fine).bind fun (more, ts) ⟨_, fine⟩ => ?_
        exact .some ⟨trivial, fine⟩

theorem nextEntries_leaves {parts : List Term} (fine : Fine K ts) :
    Leaves K (match eat "\x7d" ts with
      | some ts => some (parts, ts)
      | none => eat "," ts >>= fun ts => entries fuel ts >>= fun (more, ts) =>
          some (parts ++ more, ts)) := by
  split
  · rename_i ts closes
    exact .some ⟨trivial, fine.eat closes⟩
  · refine (finds_eat fine ",").bind fun ts fine => ?_
    refine (stays.entries fine).bind fun (more, ts) ⟨_, fine⟩ => ?_
    exact .some ⟨trivial, fine⟩

theorem entries_leaves (fine : Fine K ts) : Leaves K (entries (fuel + 1) ts) := by
  unfold entries
  dsimp only
  split
  · exact .some ⟨trivial, fine.tail⟩
  · split
    · rename_i ts stars
      refine Finds.bind (P := Read K fun _ => True) ?_ fun (parts, ts) ⟨_, fine⟩ =>
        nextEntries_leaves stays fine
      exact (stays.binary (fun _ => id) (fine.eat stars)).map fun _ ⟨_, fine⟩ => ⟨trivial, fine⟩
    · refine (stays.expression fine).bind fun (k, ts) ⟨_, fine⟩ => ?_
      refine (finds_eat fine ":").bind fun ts fine => ?_
      refine (stays.expression fine).bind fun (v, ts) ⟨_, fine⟩ => ?_
      exact nextEntries_leaves stays fine

theorem octetLiterals_tells (fine : Fine K ts) : Tells K (octetLiterals (fuel + 1) ts) := by
  unfold octetLiterals
  split
  · exact stays.octetLiterals (.cons fine.head fine.tail.tail)
  · exact .none
  · exact .none
  · exact .some ⟨fine.head, fine.tail⟩
  · exact .none

theorem joinedParts_leaves (fine : Fine K ts) : Leaves K (joinedParts (fuel + 1) ts) := by
  unfold joinedParts
  split
  · refine (stays.joinedParts fine.tail).bind fun (parts, ts) ⟨_, fine⟩ => ?_
    exact .some ⟨trivial, fine⟩
  · refine .bind_any fun (first, left) => .guard ?_
    refine (stays.joinedParts fine.tail).bind fun (parts, ts) ⟨_, fine⟩ => ?_
    exact .some ⟨trivial, fine⟩
  · exact .none
  · exact .some ⟨trivial, fine⟩

variable (scope : Value.Kind.IsScope K)

include scope

theorem textLiterals_tells (fine : Fine K ts) : Tells K (textLiterals (fuel + 1) ts) := by
  unfold textLiterals
  split
  · exact stays.textLiterals (.cons fine.head fine.tail.tail)
  · exact .none
  · exact .none
  · refine (stays.joinedParts fine.tail).bind fun (parts, ts) ⟨_, fine⟩ => ?_
    exact .some ⟨trivial, fine⟩
  · exact .some ⟨scope.text, fine.tail⟩
  · refine (stays.joinedParts fine).bind fun (parts, ts) ⟨_, fine⟩ => ?_
    exact .some ⟨trivial, fine⟩
  · exact .none

theorem atom_tells (fine : Fine K ts) : Tells K (atom (fuel + 1) ts) := by
  unfold atom
  split
  · exact .some ⟨trivial, fine.tail⟩
  · exact .some ⟨scope.bool, fine.tail⟩
  · exact .some ⟨scope.bool, fine.tail⟩
  · exact .some ⟨fine.head rfl, fine.tail⟩
  · exact .some ⟨fine.head, fine.tail⟩
  · exact .some ⟨fine.head.1 rfl, fine.tail⟩
  · exact stays.octetLiterals fine
  · exact stays.textLiterals fine
  · exact stays.textLiterals fine
  · exact stays.group fine.tail
  · split
    · rename_i ts closes
      exact .some ⟨trivial, fine.tail.eat closes⟩
    · refine (stays.element fine.tail).bind fun (t, ts) ⟨_, fine⟩ => ?_
      dsimp only at fine ⊢
      split
      · refine .guard ?_
        refine (stays.clauses fine).bind fun (parts, ts) ⟨_, fine⟩ => ?_
        refine (finds_eat fine "]").bind fun ts fine => ?_
        exact .some ⟨trivial, fine⟩
      · refine (stays.restOf fine).bind fun (more, ts) ⟨_, fine⟩ => ?_
        exact .some ⟨trivial, fine⟩
  · exact stays.braces fine.tail
  · exact .none

end

-- ---------------------------------------------------------------------------
-- All fuel
-- ---------------------------------------------------------------------------

section

variable {K : Value.Kind → Prop} (scope : Value.Kind.IsScope K)

theorem stays_zero : Stays K 0 := by
  constructor <;> (intros; exact .none)

include scope

theorem Stays.succ (stays : Stays K fuel) : Stays K (fuel + 1) where
  expression := expression_tells stays
  parameters := parameters_fine stays _ _ _
  parameter := parameter_leaves stays _ _ _
  disjunction := disjunction_tells stays
  orTail := orTail_finds stays
  conjunction := conjunction_tells stays
  andTail := andTail_finds stays
  inversion := inversion_tells stays
  comparisonTail := comparisonTail_leaves stays
  binary := binary_tells stays
  binaryTail := binaryTail_tells stays
  factor := factor_tells stays
  primary := primary_tells stays
  trailers := trailers_tells stays
  arguments := arguments_finds stays _ _ _
  subscripts := subscripts_leaves stays
  slice := slice_leaves stays
  bounds := bounds_leaves stays _
  namedExpression := namedExpression_tells stays
  element := element_tells stays
  elements := elements_leaves stays _
  clauses := clauses_leaves stays
  clauseTests := clauseTests_leaves stays
  targetList := targetList_leaves stays
  yieldRest := yieldRest_tells stays
  expressions := expressions_tells stays
  expressionsTail := expressionsTail_leaves stays
  starExpression := starExpression_tells stays
  atom := atom_tells stays scope
  restOf := restOf_leaves stays _
  group := group_tells stays
  braces := braces_tells stays
  entries := entries_leaves stays
  octetLiterals := octetLiterals_tells stays
  textLiterals := textLiterals_tells stays scope
  joinedParts := joinedParts_leaves stays

theorem stays (fuel : Nat) : Stays K fuel := by
  induction fuel with
  | zero => exact stays_zero
  | succ fuel ih => exact ih.succ scope

end

-- ---------------------------------------------------------------------------
-- Statements
-- ---------------------------------------------------------------------------

section

variable {K : Value.Kind → Prop} (scope : Value.Kind.IsScope K) {ts : List Token}

def OpensWithin (K : Value.Kind → Prop) (ss : List Statement) : Prop :=
  ∃ first more, ss = first :: more ∧ first.Within K

include scope

theorem assigned_tells (fuel : Nat) (fine : Fine K ts) : Tells K (assigned fuel ts) := by
  unfold assigned
  split
  · rename_i ts word
    exact (stays scope fuel).yieldRest (fine.eatWord word)
  · exact (stays scope fuel).expressions fine

theorem assignments_tells (fuel rounds : Nat) {target : Term} (here : target.Within K)
    (fine : Fine K ts) : Tells K (assignments fuel rounds target ts) := by
  induction rounds generalizing target ts with
  | zero => exact .none
  | succ rounds ih =>
    unfold assignments
    split
    · exact .some ⟨here, fine⟩
    · rename_i ts equals
      refine .guard ?_
      exact (assigned_tells scope fuel (fine.eat equals)).bind fun (_, _) ⟨there, fine⟩ =>
        ih there fine

theorem expressionStatement_within (fuel : Nat) (fine : Fine K ts) :
    Finds (fun r => r.1.Within K) (expressionStatement fuel ts) := by
  refine (assigned_tells scope fuel fine).bind fun (t, ts) ⟨here, fine⟩ => ?_
  dsimp only at fine ⊢
  split
  · refine .guard (.bind_any fun (_, ts) => ?_)
    dsimp only
    split
    · exact .some trivial
    · exact .bind_any fun _ => .some trivial
  · exact (assignments_tells scope fuel _ here fine).bind fun (_, _) ⟨there, _⟩ => .some there
  · split
    · refine .guard ?_
      exact (assigned_tells scope fuel fine.tail).bind fun (_, _) ⟨there, _⟩ => .some there
    · exact .some here
  · exact .some here

theorem simple_within (fuel : Nat) (fine : Fine K ts) :
    Finds (fun r => r.1.Within K) (simple fuel ts) := by
  unfold simple
  split
  · exact .some trivial
  · exact .some trivial
  · exact .some trivial
  · split
    · exact .some trivial
    · exact .map_any fun _ => trivial
  · split
    · exact .some trivial
    · refine .bind_any fun (_, ts) => ?_
      dsimp only
      split
      · exact .some trivial
      · exact .bind_any fun _ => .some trivial
  · exact .map_any fun _ => trivial
  · exact .map_any fun _ => trivial
  · refine .bind_any fun (_, ts) => ?_
    dsimp only
    split
    · exact .some trivial
    · exact .bind_any fun _ => .some trivial
  · refine .bind_any fun (_, ts) => ?_
    dsimp only
    split
    · exact .some trivial
    · exact .none
  · exact .map_any fun _ => trivial
  · exact .ite (.bind_any fun _ => .bind_any fun _ => .bind_any fun _ => .some trivial)
      (.bind_any fun _ => .bind_any fun _ => .bind_any fun _ => .some trivial)
  · exact expressionStatement_within scope fuel fine

theorem simples_opens (fuel rounds : Nat) (fine : Fine K ts) :
    Finds (fun r => OpensWithin K r.1) (simples fuel rounds ts) := by
  cases rounds with
  | zero => exact .none
  | succ rounds =>
    refine (simple_within scope fuel fine).bind fun (s, ts) here => ?_
    dsimp only
    split
    · exact .some ⟨s, [], rfl, here⟩
    · exact .some ⟨s, [], rfl, here⟩
    · exact .bind_any fun (more, _) => .some ⟨s, more, rfl, here⟩
    · exact .none

theorem statement_opens (fuel : Nat) (fine : Fine K ts) :
    Finds (fun r => OpensWithin K r.1) (statement fuel ts) := by
  induction fuel generalizing ts with
  | zero => exact .none
  | succ fuel ih =>
    have refused (name : String) (rest : List Token) :
        OpensWithin K ([Statement.refused name], rest).1 := ⟨_, [], rfl, trivial⟩
    unfold statement
    dsimp only
    split
    · exact .map_any fun _ => refused _ _
    · exact .map_any fun _ => refused _ _
    · exact .map_any fun _ => refused _ _
    · exact .map_any fun _ => refused _ _
    · exact .bind_any fun _ => .bind_any fun _ => .some (refused _ _)
    · exact .map_any fun _ => refused _ _
    · exact .map_any fun _ => refused _ _
    · exact .map_any fun _ => refused _ _
    · exact .map_any fun _ => refused _ _
    · exact .map_any fun _ => refused _ _
    · refine ((stays scope fuel).namedExpression fine.tail).bind fun (_, ts) ⟨_, fine⟩ => ?_
      dsimp only at fine ⊢
      split
      · exact .ite (ih fine.tail) .none
      · exact .none
    · split
      · exact .some (refused _ _)
      · exact simples_opens scope fuel _ fine
    · exact simples_opens scope fuel _ fine

end

end Parser

/-- The statement that counts has the kinds of the tokens. -/
theorem Statement.exists_tokens {cs : List Char} {first : Statement} {more : List Statement}
    (read : ofChars cs = some (first :: more)) : ∃ ts, Token.ofChars cs = some ts ∧
      ∀ K, Value.Kind.IsScope K → (∀ token ∈ ts, token.Within K) → first.Within K := by
  obtain ⟨ts, cut, read⟩ := Option.bind_eq_some_iff.mp read
  refine ⟨ts, cut, fun K scope fine => ?_⟩
  cases ts with
  | nil => cases read
  | cons token ts =>
    obtain ⟨⟨ss, rest⟩, parsed, read⟩ := Option.bind_eq_some_iff.mp read
    obtain ⟨others, -, same⟩ := Option.bind_eq_some_iff.mp read
    obtain ⟨s, further, rfl, within⟩ := Parser.statement_opens scope _ fine _ parsed
    cases same
    exact within

end Flowline.Condition

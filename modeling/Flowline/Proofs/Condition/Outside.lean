import Flowline.Proofs.Condition.Position

/-!
# Forms outside the grammar

Of the grammar of conditions only a part is evaluated. A form outside that part - an access to an
attribute or an item, an anonymous function, a call of an unknown function and the like - is refused
when evaluation comes to it, however deep it stands. Evaluation does not come to an operand that is
skipped: one behind the operand that decides a connective, one behind a comparison that fails, and
the alternative of a choice that is not taken. What stands there does not count at all.
-/

namespace Flowline.Condition

-- ---------------------------------------------------------------------------
-- Steps that fail
-- ---------------------------------------------------------------------------

def Fails (r : Except ε α) : Prop := ∃ e, r = .error e

namespace Fails

variable {r : Except ε α} {f : α → Except ε β}

theorem error (e : ε) : Fails (.error e : Except ε α) := ⟨e, rfl⟩

theorem bind (fails : Fails r) : Fails (r >>= f) := by
  obtain ⟨e, rfl⟩ := fails
  exact error e

theorem bind_of_ok (next : ∀ a, r = .ok a → Fails (f a)) : Fails (r >>= f) := by
  cases r with
  | error e => exact error e
  | ok a => exact next a rfl

end Fails

namespace Term

/-- A form that is known to the grammar only. Accesses to attributes and items, and anonymous
functions, are among those that are kept as refused. -/
def IsOutside : Term → Prop
  | .refused .. => True
  | .call (.name id) _ _ => Function.ofName? id = none
  | .call .. => True
  | .binary .matMul _ _ => True
  | _ => False

/-- Some of the operands decides on the value of a connective. -/
def Decided (source : String) (decides : Value → Bool) (operands : List Term) : Prop :=
  ∃ t ∈ operands, ∃ v, t.evaluate source = .ok v ∧ decides v = true

/-- Evaluation is over before it comes to the part that is left out. -/
def Frame.Skips (source : String) : Frame → Prop
  | .all before _ => Decided source (!·.truthy) before
  | .any before _ => Decided source (·.truthy) before
  | .compared first before _ _ => (Term.compare first before).evaluate source = .ok (.bool false)
  | .chosen test _ => ∃ v, test.evaluate source = .ok v ∧ v.truthy = false
  | .otherwise test _ => ∃ v, test.evaluate source = .ok v ∧ v.truthy = true
  | _ => False

section

variable {source : String} {x y t : Term}

-- ---------------------------------------------------------------------------
-- Connectives
-- ---------------------------------------------------------------------------

variable {decides : Value → Bool} {before : List Term}

theorem fails_connect (after : List Term) (fails : Fails (x.evaluate source))
    (undecided : ¬ Decided source decides before) :
    Fails (connect source decides (before ++ x :: after)) := by
  induction before with
  | nil =>
    cases after with
    | nil => exact fails
    | cons => exact fails.bind
  | cons t before ih =>
    rw [List.cons_append, connect_cons (by simp)]
    refine .bind_of_ok fun v found => ?_
    split
    · rename_i decided
      exact absurd ⟨t, List.mem_cons_self, v, found, decided⟩ undecided
    · exact ih fun ⟨u, listed, more⟩ => undecided ⟨u, List.mem_cons_of_mem t listed, more⟩

theorem connect_append (rest : List Term) (decided : Decided source decides before) :
    connect source decides (before ++ rest) = connect source decides before := by
  induction before with
  | nil => simp [Decided] at decided
  | cons t before ih =>
    obtain ⟨u, listed, v, found, decided⟩ := decided
    rcases List.mem_cons.mp listed with rfl | listed
    · have stops (more : List Term) : connect source decides (u :: more) = .ok v := by
        cases more with
        | nil => exact found
        | cons => rw [connect_cons (List.cons_ne_nil _ _), found]; exact if_pos decided
      rw [List.cons_append, stops, stops]
    · have more : before ≠ [] := List.ne_nil_of_mem listed
      rw [List.cons_append, connect_cons (by simp [more]), connect_cons more,
        ih ⟨u, listed, v, found, decided⟩]

-- ---------------------------------------------------------------------------
-- Comparisons
-- ---------------------------------------------------------------------------

variable {chain : List (Comparison × Term)}

theorem evaluateChain_cons {op : Comparison} {word : Bool} {left right : Value}
    (found : t.evaluate source = .ok right) :
    evaluateChain source word left ((op, t) :: chain) = (do
      if ← refusing (compareResults op (word && t.isName) left right) then
        evaluateChain source t.isName right chain
      else return .bool false) := by
  rw [evaluateChain, found]
  rfl

theorem fails_evaluateChain {op : Comparison} (after : List (Comparison × Term))
    (fails : Fails (x.evaluate source)) {word : Bool} {left : Value}
    (holds : evaluateChain source word left chain ≠ .ok (.bool false)) :
    Fails (evaluateChain source word left (chain ++ (op, x) :: after)) := by
  induction chain generalizing word left with
  | nil => exact fails.bind
  | cons operand chain ih =>
    refine .bind_of_ok fun right found => .bind_of_ok fun same compared => ?_
    rw [evaluateChain_cons found, compared] at holds
    cases same with
    | true => exact ih holds
    | false => exact absurd rfl holds

theorem evaluateChain_append (rest : List (Comparison × Term)) {word : Bool} {left : Value}
    (failed : evaluateChain source word left chain = .ok (.bool false)) :
    evaluateChain source word left (chain ++ rest) = .ok (.bool false) := by
  induction chain generalizing word left with
  | nil => cases failed
  | cons operand chain ih =>
    obtain ⟨op, t⟩ := operand
    cases found : t.evaluate source with
    | error e =>
      rw [evaluateChain, found] at failed
      cases failed
    | ok right =>
      rw [evaluateChain_cons found] at failed
      rw [List.cons_append, evaluateChain_cons found]
      cases compared : refusing (compareResults op (word && t.isName) left right) with
      | error e =>
        rw [compared] at failed
        cases failed
      | ok same =>
        rw [compared] at failed
        cases same with
        | true => exact ih failed
        | false => rfl

-- ---------------------------------------------------------------------------
-- Calls and formatted texts
-- ---------------------------------------------------------------------------

variable {args : List Term} {named : List (Option String × Term)}

theorem fails_evaluateArgs (before after : List Term) (fails : Fails (x.evaluate source)) :
    Fails (evaluateArgs source (before ++ x :: after)) := by
  induction before with
  | nil => exact fails.bind
  | cons t before ih => exact .bind_of_ok fun v _ => ih.bind

theorem fails_evaluateNamed (before : List (Option String × Term)) (parameter : Option String)
    (after : List (Option String × Term)) (fails : Fails (x.evaluate source)) :
    Fails (evaluateNamed source (before ++ (parameter, x) :: after)) := by
  induction before with
  | nil => exact fails.bind
  | cons entry before ih => exact .bind_of_ok fun v _ => ih.bind

theorem fails_evaluateParts (before after : List Term) (fails : Fails (x.evaluate source)) :
    Fails (evaluateParts source (before ++ x :: after)) := by
  induction before with
  | nil => exact fails.bind
  | cons t before ih =>
    refine .bind_of_ok fun v _ => .bind_of_ok fun text _ => ?_
    split
    · exact .error _
    · exact ih.bind

theorem fails_call {callee : Term} (other : callee.isName = false) :
    Fails ((Term.call callee args named).evaluate source) := by
  cases callee with
  | name id => cases other
  | refused construct parts =>
    by_cases access : construct = "Attribute"
    · subst access
      exact .error _
    · have notCallable : evaluate source (.call (.refused construct parts) args named) =
          .error (.refused .notCallable) := by simp [evaluate, access]
      exact notCallable ▸ .error _
  | _ => exact .error _

theorem fails_call_name {id : String} (fails : ∀ f, Function.ofName? id = some f →
      Fails (evaluateArgs source args) ∨ Fails (evaluateNamed source named)) :
    Fails ((Term.call (.name id) args named).evaluate source) := by
  unfold evaluate
  split
  · exact .error _
  · rename_i f known
    rcases fails f known with fails | fails
    · exact fails.bind
    · exact .bind_of_ok fun _ _ => fails.bind

-- ---------------------------------------------------------------------------
-- Positions
-- ---------------------------------------------------------------------------

theorem IsOutside.fails (outside : t.IsOutside) : Fails (t.evaluate source) := by
  cases t with
  | refused => exact .error _
  | binary op x y =>
    cases op with
    | matMul => exact .error _
    | _ => cases outside
  | call callee args named =>
    cases callee with
    | name id =>
      have unknown : Function.ofName? id = none := outside
      exact fails_call_name fun f known => by simp [unknown] at known
    | _ => exact fails_call rfl
  | _ => cases outside

theorem Frame.fails_fill {frame : Frame} (fails : Fails (t.evaluate source))
    (reached : ¬ frame.Skips source) : Fails ((frame.fill t).evaluate source) := by
  cases frame with
  | unary op => exact fails.bind
  | left op y =>
    cases op with
    | matMul => exact .error _
    | _ => exact fails.bind
  | right op x =>
    cases op with
    | matMul => exact .error _
    | _ => exact .bind_of_ok fun _ _ => fails.bind
  | all before after =>
    show Fails (evaluateAll source _)
    rw [evaluateAll_eq_connect]
    exact fails_connect after fails reached
  | any before after =>
    show Fails (evaluateAny source _)
    rw [evaluateAny_eq_connect]
    exact fails_connect after fails reached
  | opening rest => exact fails.bind
  | compared first before op after =>
    refine .bind_of_ok fun v found => fails_evaluateChain after fails fun failed => reached ?_
    show evaluate source first >>= _ = _
    rw [found]
    exact failed
  | decision yes no => exact fails.bind
  | chosen test no =>
    refine .bind_of_ok fun v found => ?_
    split
    · exact fails
    · rename_i taken
      exact absurd ⟨v, found, by simpa using taken⟩ reached
  | otherwise test yes =>
    refine .bind_of_ok fun v found => ?_
    split
    · rename_i taken
      exact absurd ⟨v, found, taken⟩ reached
    · exact fails
  | called args named =>
    cases t with
    | name id =>
      obtain ⟨e, impossible⟩ := fails
      cases impossible
    | _ => exact fails_call rfl
  | given callee before after named =>
    cases callee with
    | name id => exact fails_call_name fun _ _ => .inl (fails_evaluateArgs before after fails)
    | _ => exact fails_call rfl
  | givenByName callee args before parameter after =>
    cases callee with
    | name id =>
      exact fails_call_name fun _ _ => .inr (fails_evaluateNamed before parameter after fails)
    | _ => exact fails_call rfl
  | joined before after => exact (fails_evaluateParts before after fails).bind
  | field spec =>
    cases spec with
    | none => exact fails
    | some spec => exact .bind_of_ok fun _ _ => fails.bind
  | format x => exact fails.bind
  | refused construct before after => exact .error _

theorem evaluate_choose {test yes no : Term} {v : Value} (found : test.evaluate source = .ok v) :
    (Term.choose test yes no).evaluate source =
      if v.truthy then yes.evaluate source else no.evaluate source := by
  rw [evaluate, found]
  rfl

theorem evaluate_compare {first : Term} {v : Value} (found : first.evaluate source = .ok v)
    (rest : List (Comparison × Term)) : (Term.compare first rest).evaluate source =
      evaluateChain source first.isName v rest := by
  rw [evaluate, found]
  rfl

/-- What stands in a place that is skipped does not count. -/
theorem Frame.evaluate_fill {frame : Frame} (skips : frame.Skips source) (x y : Term) :
    (frame.fill x).evaluate source = (frame.fill y).evaluate source := by
  cases frame with
  | all before after =>
    show evaluateAll source _ = evaluateAll source _
    simp only [evaluateAll_eq_connect, connect_append _ skips]
  | any before after =>
    show evaluateAny source _ = evaluateAny source _
    simp only [evaluateAny_eq_connect, connect_append _ skips]
  | compared first before op after =>
    have failed : (Term.compare first before).evaluate source = .ok (.bool false) := skips
    simp only [fill]
    cases found : first.evaluate source with
    | error e =>
      rw [evaluate, found] at failed
      cases failed
    | ok v =>
      rw [evaluate_compare found] at failed
      simp only [evaluate_compare found, evaluateChain_append _ failed]
  | chosen test no =>
    obtain ⟨v, found, taken⟩ := skips
    simp only [fill, evaluate_choose found, taken, Bool.false_eq_true, if_false]
  | otherwise test yes =>
    obtain ⟨v, found, taken⟩ := skips
    simp only [fill, evaluate_choose found, taken, if_true]
  | _ => cases skips

theorem IsOutside.fails_plug (outside : t.IsOutside) {frames : List Frame}
    (reached : ∀ frame ∈ frames, ¬ frame.Skips source) :
    Fails ((plug frames t).evaluate source) := by
  induction frames with
  | nil => exact outside.fails
  | cons frame frames ih =>
    obtain ⟨here, further⟩ := List.forall_mem_cons.mp reached
    exact Frame.fails_fill (ih further) here

end

end Term

-- ---------------------------------------------------------------------------
-- Conditions
-- ---------------------------------------------------------------------------

theorem fails_evaluate {condition : String} {first : Statement} {more : List Statement}
    (read : Statement.ofChars (readable condition).toList = some (first :: more))
    (fails : Fails (first.evaluate (readable condition))) : Fails (evaluate condition) := by
  rcases evaluate_cases condition with ⟨refusal, refused⟩ | ⟨other, others, here, same⟩
  · rw [refused]
    exact .error _
  · cases read.symm.trans here
    rw [same]
    exact fails

/-- A form outside the grammar is refused wherever it stands in a condition, unless a field that is
evaluated before it ends the evaluation with a lookup, or it stands in an operand that is skipped,
where it counts as little as anything else would. -/
theorem evaluate_outside {condition : String} {frames : List Term.Frame} {t : Term}
    {more : List Statement} (read : Statement.ofChars (readable condition).toList =
      some (.expression (Term.plug frames t) :: more)) (outside : t.IsOutside) :
    (∃ refusal, evaluate condition = .error (.refused refusal)) ∨
      (∃ missing, evaluate condition = .error (.lookup missing) ∧
        (Term.plug frames t).Looks (readable condition) missing) ∨
      ∃ outer frame inner, frames = outer ++ frame :: inner ∧
        frame.Skips (readable condition) ∧ ∀ u, (frame.fill u).evaluate (readable condition) =
          (frame.fill (Term.plug inner t)).evaluate (readable condition) := by
  by_cases skipped : ∃ frame ∈ frames, frame.Skips (readable condition)
  · obtain ⟨frame, listed, skips⟩ := skipped
    obtain ⟨outer, inner, split⟩ := List.append_of_mem listed
    exact .inr (.inr ⟨outer, frame, inner, split, skips,
      fun u => Term.Frame.evaluate_fill skips _ _⟩)
  have reached : ∀ frame ∈ frames, ¬ frame.Skips (readable condition) :=
    fun frame listed skips => skipped ⟨frame, listed, skips⟩
  obtain ⟨error, failed⟩ := fails_evaluate read (outside.fails_plug reached)
  cases error with
  | refused refusal => exact .inl ⟨refusal, failed⟩
  | lookup missing =>
    obtain ⟨first, others, first_read, looks⟩ := exists_looks failed
    cases read.symm.trans first_read
    exact .inr (.inl ⟨missing, failed, looks⟩)

/-- What stands around the attribute in `if(true || x.y, 1, 2)`, or in the same with `false`. -/
def aroundAttribute (holds : Bool) : List Term.Frame :=
  [.given (.name "iif") [] [.constant (.int 1), .constant (.int 2)] [],
    .any [.constant (.bool holds)] []]

def isAlternative (holds : Bool) : Option (List Statement) → Bool
  | some [.expression (.call (.name "iif") [.any [.constant (.bool b), .refused "Attribute"
      [.name "x"]], .constant (.int 1), .constant (.int 2)] [])] => b == holds
  | _ => false

theorem eq_of_isAlternative (holds : Bool) {read : Option (List Statement)}
    (same : isAlternative holds read = true) : read = some [.expression
      (Term.plug (aroundAttribute holds) (.refused "Attribute" [.name "x"]))] := by
  unfold isAlternative at same
  split at same
  · rw [← eq_of_beq same]
    rfl
  · cases same

theorem evaluate_outside_reached :
    Statement.ofChars (readable "if(false || x.y, 1, 2)").toList = some [.expression (Term.plug
        (aroundAttribute false) (.refused "Attribute" [.name "x"]))] ∧
      (Term.refused "Attribute" [.name "x"]).IsOutside ∧
      ∃ refusal, evaluate "if(false || x.y, 1, 2)" = .error (.refused refusal) := by
  have same : isAlternative false
      (Statement.ofChars (readable "if(false || x.y, 1, 2)").toList) = true := by decide +kernel
  have read := eq_of_isAlternative false same
  refine ⟨read, trivial, ?_⟩
  rcases evaluate_outside read trivial with
    refused | ⟨missing, missed, -⟩ | ⟨outer, frame, inner, split, skips, -⟩
  · exact refused
  · have refused : evaluate "if(false || x.y, 1, 2)" =
        .error (.refused (.unavailable "Attribute")) := eq_error_of_error? (by decide +kernel)
    cases missed.symm.trans refused
  · have listed : frame ∈ aroundAttribute false := by simp [split]
    simp only [aroundAttribute, List.mem_cons, List.not_mem_nil, or_false] at listed
    rcases listed with rfl | rfl
    · cases skips
    · obtain ⟨t, operand, v, found, decides⟩ := skips
      obtain rfl := List.mem_singleton.mp operand
      cases found
      cases decides

/-- An access to an attribute is passed over behind an operand that holds. -/
theorem evaluate_outside_skipped : ¬ ∀ (condition : String) (frames : List Term.Frame) (t : Term),
    Statement.ofChars (readable condition).toList = some [.expression (Term.plug frames t)] →
      t.IsOutside → Fails (evaluate condition) := by
  intro refused
  have same : isAlternative true
      (Statement.ofChars (readable "if(true || x.y, 1, 2)").toList) = true := by decide +kernel
  obtain ⟨error, fails⟩ := refused _ _ _ (eq_of_isAlternative true same) trivial
  have value : (evaluate "if(true || x.y, 1, 2)").toOption.isSome = true := by decide +kernel
  rw [fails] at value
  cases value

end Flowline.Condition

import Flowline.Condition.Evaluation

/-!
# Positions in a term

A position in a term is the row of frames around it, from the outside in.

Evaluation ends in a refusal wherever an operation fails, but it ends in a lookup at one kind of
position only: at a field that has a format in which another field asks for a value of its own.
-/

namespace Flowline.Condition

namespace Term

/-- A form with one of its parts left out. -/
inductive Frame where
  | unary (op : UnaryOp)
  | left (op : BinaryOp) (y : Term)
  | right (op : BinaryOp) (x : Term)
  | all (before after : List Term)
  | any (before after : List Term)
  | opening (rest : List (Comparison × Term))
  | compared (first : Term) (before : List (Comparison × Term)) (op : Comparison)
      (after : List (Comparison × Term))
  | decision (yes no : Term)
  | chosen (test no : Term)
  | otherwise (test yes : Term)
  | called (args : List Term) (named : List (Option String × Term))
  | given (callee : Term) (before after : List Term) (named : List (Option String × Term))
  | givenByName (callee : Term) (args : List Term) (before : List (Option String × Term))
      (parameter : Option String) (after : List (Option String × Term))
  | joined (before after : List Term)
  | field (spec : Option Term)
  | format (x : Term)
  | refused (construct : String) (before after : List Term)

def Frame.fill (frame : Frame) (t : Term) : Term :=
  match frame with
  | .unary op => .unary op t
  | .left op y => .binary op t y
  | .right op x => .binary op x t
  | .all before after => .all (before ++ t :: after)
  | .any before after => .any (before ++ t :: after)
  | .opening rest => .compare t rest
  | .compared first before op after => .compare first (before ++ (op, t) :: after)
  | .decision yes no => .choose t yes no
  | .chosen test no => .choose test t no
  | .otherwise test yes => .choose test yes t
  | .called args named => .call t args named
  | .given callee before after named => .call callee (before ++ t :: after) named
  | .givenByName callee args before parameter after =>
    .call callee args (before ++ (parameter, t) :: after)
  | .joined before after => .joined (before ++ t :: after)
  | .field spec => .field t spec
  | .format x => .field x (some t)
  | .refused construct before after => .refused construct (before ++ t :: after)

def plug (frames : List Frame) (t : Term) : Term := frames.foldr Frame.fill t

section

variable {source : String} {t : Term}

-- ---------------------------------------------------------------------------
-- Connectives
-- ---------------------------------------------------------------------------

def connect (source : String) (decides : Value → Bool) : List Term → Except Error Value
  | [] => .ok .null
  | [t] => t.evaluate source
  | t :: rest => do
    let v ← t.evaluate source
    if decides v then return v else connect source decides rest

theorem connect_cons {decides : Value → Bool} {rest : List Term} (more : rest ≠ []) :
    connect source decides (t :: rest) = (do
      let v ← t.evaluate source
      if decides v then return v else connect source decides rest) := by
  cases rest with
  | nil => contradiction
  | cons => rfl

theorem evaluateAll_eq_connect (terms : List Term) :
    evaluateAll source terms = connect source (!·.truthy) terms := by
  induction terms with
  | nil => rfl
  | cons t rest ih =>
    cases rest with
    | nil => rfl
    | cons u rest =>
      rw [connect_cons (List.cons_ne_nil u rest), ← ih, evaluateAll]
      simp only [Bool.not_eq_true', ← Bool.not_eq_true, ite_not]
      exact List.cons_ne_nil u rest

theorem evaluateAny_eq_connect (terms : List Term) :
    evaluateAny source terms = connect source (·.truthy) terms := by
  induction terms with
  | nil => rfl
  | cons t rest ih =>
    cases rest with
    | nil => rfl
    | cons u rest =>
      rw [connect_cons (List.cons_ne_nil u rest), ← ih, evaluateAny]
      exact List.cons_ne_nil u rest

end

end Term

-- ---------------------------------------------------------------------------
-- Lookups
-- ---------------------------------------------------------------------------

/-- A step that ends because a field asks for what is not given. -/
def Misses (missing : Lookup) (r : Except Error α) : Prop := r = .error (.lookup missing)

namespace Misses

variable {missing : Lookup}

theorem bind_iff {r : Except Error α} {f : α → Except Error β} :
    Misses missing (r >>= f) ↔ Misses missing r ∨ ∃ a, r = .ok a ∧ Misses missing (f a) := by
  cases r with
  | error e => simp [Misses, bind, Except.bind]
  | ok a => simp [Misses, bind, Except.bind]

theorem not_ok (a : α) : ¬ Misses missing (.ok a) := nofun

theorem not_refused (refusal : Refusal) :
    ¬ Misses missing (.error (.refused refusal) : Except Error α) := nofun

theorem not_refusing (r : Except Refusal α) : ¬ Misses missing (refusing r) := by
  cases r with
  | error refusal => exact not_refused refusal
  | ok a => exact not_ok a

end Misses

namespace Format

variable {missing : Lookup} {cs inner after : List Char}

theorem mem_of_misses_literalText (missed : Misses missing (literalText cs)) : '\x7b' ∈ cs := by
  have further {c : Char} {rest : List Char}
      (missed : Misses missing ((literalText rest).map (c :: ·))) :
      Misses missing (literalText rest) := by
    cases read : literalText rest with
    | error e => simpa [read, Misses, Except.map] using missed
    | ok text => simp [read, Misses, Except.map] at missed
  fun_induction literalText cs with
  | case1 => cases missed
  | case2 rest ih => exact List.mem_cons_self
  | case3 rest single => exact List.mem_cons_self
  | case4 rest ih => exact List.mem_cons_of_mem _ (List.mem_cons_of_mem _ (ih (further missed)))
  | case5 rest single => cases missed
  | case6 c rest _ _ _ _ ih => exact List.mem_cons_of_mem c (ih (further missed))

theorem subset_of_cutAtBrace {depth : Nat} (cut : cutAtBrace depth cs = some (inner, after)) :
    inner ⊆ cs ∧ after ⊆ cs := by
  fun_induction cutAtBrace depth cs generalizing inner with
  | case1 => cases cut
  | case3 rest =>
    cases cut
    exact ⟨List.nil_subset _, List.subset_cons_self _ _⟩
  | _ =>
    rename_i ih
    simp only [Option.map_eq_some_iff, Prod.mk.injEq] at cut
    obtain ⟨⟨front, behind⟩, cut, rfl, rfl⟩ := cut
    obtain ⟨within, beyond⟩ := ih cut
    exact ⟨List.cons_subset_cons _ within, List.subset_cons_of_subset _ beyond⟩

/-- Only a format with a field in it can ask for what is not given. -/
theorem mem_of_misses_field {format : String} {v : Value}
    (missed : Misses missing (field format v)) : '\x7b' ∈ format.toList := by
  have inside {text : List Char} (part : text ⊆ format.toList ++ ['\x7d'])
      (missed : Misses missing (literalText text)) : '\x7b' ∈ format.toList := by
    simpa using part (mem_of_misses_literalText missed)
  unfold field at missed
  split at missed
  · cases missed
  · rename_i inner after cut
    obtain ⟨within, beyond⟩ := subset_of_cutAtBrace cut
    rcases Misses.bind_iff.mp missed with here | ⟨spec, -, missed⟩
    · exact inside within here
    rcases Misses.bind_iff.mp missed with shown | ⟨text, -, missed⟩
    · exact absurd shown (Misses.not_refusing _)
    rcases Misses.bind_iff.mp missed with there | ⟨more, -, missed⟩
    · exact inside beyond there
    · cases missed

end Format

namespace Term

section

variable {source : String} {missing : Lookup} {t : Term}

/-- A field with a format that seeks a value for a field of its own. -/
def Seeks (source : String) (missing : Lookup) (t : Term) : Prop :=
  ∃ x spec format v, t = .field x (some spec) ∧ spec.evaluate source = .ok (.text format) ∧
    x.evaluate source = .ok v ∧ Misses missing (Format.field format v)

def Looks (source : String) (missing : Lookup) (t : Term) : Prop :=
  ∃ frames u, t = plug frames u ∧ u.Seeks source missing

theorem exists_misses_connect {decides : Value → Bool} {terms : List Term}
    (missed : Misses missing (connect source decides terms)) :
    ∃ t ∈ terms, Misses missing (t.evaluate source) := by
  induction terms with
  | nil => cases missed
  | cons t rest ih =>
    cases rest with
    | nil => exact ⟨t, List.mem_cons_self, missed⟩
    | cons u rest =>
      rw [connect_cons (List.cons_ne_nil u rest), Misses.bind_iff] at missed
      rcases missed with here | ⟨v, -, missed⟩
      · exact ⟨t, List.mem_cons_self, here⟩
      · split at missed
        · cases missed
        · obtain ⟨u, listed, there⟩ := ih missed
          exact ⟨u, List.mem_cons_of_mem t listed, there⟩

theorem exists_misses_evaluateChain {word : Bool} {left : Value} {chain : List (Comparison × Term)}
    (missed : Misses missing (evaluateChain source word left chain)) :
    ∃ operand ∈ chain, Misses missing (operand.2.evaluate source) := by
  induction chain generalizing word left with
  | nil => cases missed
  | cons operand chain ih =>
    rcases Misses.bind_iff.mp missed with here | ⟨right, -, missed⟩
    · exact ⟨operand, List.mem_cons_self, here⟩
    rcases Misses.bind_iff.mp missed with compared | ⟨same, -, missed⟩
    · exact absurd compared (Misses.not_refusing _)
    · split at missed
      · obtain ⟨other, listed, there⟩ := ih missed
        exact ⟨other, List.mem_cons_of_mem operand listed, there⟩
      · cases missed

theorem exists_misses_evaluateArgs {args : List Term}
    (missed : Misses missing (evaluateArgs source args)) :
    ∃ t ∈ args, Misses missing (t.evaluate source) := by
  induction args with
  | nil => cases missed
  | cons t args ih =>
    rcases Misses.bind_iff.mp missed with here | ⟨v, -, missed⟩
    · exact ⟨t, List.mem_cons_self, here⟩
    rcases Misses.bind_iff.mp missed with further | ⟨values, -, missed⟩
    · obtain ⟨u, listed, there⟩ := ih further
      exact ⟨u, List.mem_cons_of_mem t listed, there⟩
    · cases missed

theorem exists_misses_evaluateNamed {named : List (Option String × Term)}
    (missed : Misses missing (evaluateNamed source named)) :
    ∃ entry ∈ named, Misses missing (entry.2.evaluate source) := by
  induction named with
  | nil => cases missed
  | cons entry named ih =>
    rcases Misses.bind_iff.mp missed with here | ⟨v, -, missed⟩
    · exact ⟨entry, List.mem_cons_self, here⟩
    rcases Misses.bind_iff.mp missed with further | ⟨values, -, missed⟩
    · obtain ⟨other, listed, there⟩ := ih further
      exact ⟨other, List.mem_cons_of_mem entry listed, there⟩
    · cases missed

theorem exists_misses_evaluateParts {parts : List Term}
    (missed : Misses missing (evaluateParts source parts)) :
    ∃ t ∈ parts, Misses missing (t.evaluate source) := by
  induction parts with
  | nil => cases missed
  | cons t parts ih =>
    rcases Misses.bind_iff.mp missed with here | ⟨v, -, missed⟩
    · exact ⟨t, List.mem_cons_self, here⟩
    rcases Misses.bind_iff.mp missed with shown | ⟨text, -, missed⟩
    · exact absurd shown (Misses.not_refusing _)
    split at missed
    · cases missed
    rcases Misses.bind_iff.mp missed with further | ⟨texts, -, missed⟩
    · obtain ⟨u, listed, there⟩ := ih further
      exact ⟨u, List.mem_cons_of_mem t listed, there⟩
    · cases missed

/-- A lookup comes from a part of the term, unless the term is the field itself. -/
theorem seeks_or_exists_part (missed : Misses missing (t.evaluate source)) :
    t.Seeks source missing ∨
      ∃ frame u, t = Frame.fill frame u ∧ Misses missing (u.evaluate source) := by
  cases t with
  | constant v => exact absurd missed (Misses.not_refusing _)
  | name id => cases missed
  | unary op x =>
    rcases Misses.bind_iff.mp missed with here | ⟨v, -, missed⟩
    · exact .inr ⟨.unary op, x, rfl, here⟩
    · exact absurd missed (Misses.not_refusing _)
  | binary op x y =>
    have operands : Misses missing (x.evaluate source) ∨ Misses missing (y.evaluate source) := by
      cases op with
      | matMul => cases missed
      | _ =>
        rcases Misses.bind_iff.mp missed with left | ⟨a, -, missed⟩
        · exact .inl left
        rcases Misses.bind_iff.mp missed with right | ⟨b, -, missed⟩
        · exact .inr right
        · exact absurd missed (Misses.not_refusing _)
    rcases operands with left | right
    · exact .inr ⟨.left op y, x, rfl, left⟩
    · exact .inr ⟨.right op x, y, rfl, right⟩
  | all terms =>
    replace missed : Misses missing (evaluateAll source terms) := missed
    rw [evaluateAll_eq_connect] at missed
    obtain ⟨u, listed, here⟩ := exists_misses_connect missed
    obtain ⟨before, after, rfl⟩ := List.append_of_mem listed
    exact .inr ⟨.all before after, u, rfl, here⟩
  | any terms =>
    replace missed : Misses missing (evaluateAny source terms) := missed
    rw [evaluateAny_eq_connect] at missed
    obtain ⟨u, listed, here⟩ := exists_misses_connect missed
    obtain ⟨before, after, rfl⟩ := List.append_of_mem listed
    exact .inr ⟨.any before after, u, rfl, here⟩
  | compare first rest =>
    rcases Misses.bind_iff.mp missed with here | ⟨v, -, missed⟩
    · exact .inr ⟨.opening rest, first, rfl, here⟩
    · obtain ⟨⟨op, u⟩, listed, there⟩ := exists_misses_evaluateChain missed
      obtain ⟨before, after, rfl⟩ := List.append_of_mem listed
      exact .inr ⟨.compared first before op after, u, rfl, there⟩
  | choose test yes no =>
    rcases Misses.bind_iff.mp missed with here | ⟨decision, -, missed⟩
    · exact .inr ⟨.decision yes no, test, rfl, here⟩
    split at missed
    · exact .inr ⟨.chosen test no, yes, rfl, missed⟩
    · exact .inr ⟨.otherwise test yes, no, rfl, missed⟩
  | call callee args named =>
    cases callee with
    | name id =>
      unfold evaluate at missed
      split at missed
      · cases missed
      rcases Misses.bind_iff.mp missed with positional | ⟨values, -, missed⟩
      · obtain ⟨u, listed, here⟩ := exists_misses_evaluateArgs positional
        obtain ⟨before, after, rfl⟩ := List.append_of_mem listed
        exact .inr ⟨.given (.name id) before after named, u, rfl, here⟩
      rcases Misses.bind_iff.mp missed with byName | ⟨entries, -, missed⟩
      · obtain ⟨⟨parameter, u⟩, listed, here⟩ := exists_misses_evaluateNamed byName
        obtain ⟨before, after, rfl⟩ := List.append_of_mem listed
        exact .inr ⟨.givenByName (.name id) args before parameter after, u, rfl, here⟩
      · split at missed
        · exact absurd missed (Misses.not_refusing _)
        · exact absurd missed (Misses.not_refusing _)
    | refused construct parts =>
      by_cases access : construct = "Attribute"
      · simp [evaluate, access, Misses] at missed
      · simp [evaluate, access, Misses] at missed
    | _ => cases missed
  | joined parts =>
    rcases Misses.bind_iff.mp missed with here | ⟨texts, -, missed⟩
    · obtain ⟨u, listed, there⟩ := exists_misses_evaluateParts here
      obtain ⟨before, after, rfl⟩ := List.append_of_mem listed
      exact .inr ⟨.joined before after, u, rfl, there⟩
    · cases missed
  | field x spec =>
    cases spec with
    | none => exact .inr ⟨.field none, x, rfl, missed⟩
    | some spec =>
      rcases Misses.bind_iff.mp missed with here | ⟨format, evaluated, missed⟩
      · exact .inr ⟨.format x, spec, rfl, here⟩
      rcases Misses.bind_iff.mp missed with here | ⟨v, valued, missed⟩
      · exact .inr ⟨.field (some spec), x, rfl, here⟩
      cases format with
      | text format =>
        refine .inl ⟨x, spec, format, v, rfl, evaluated, valued, ?_⟩
        cases shown : Format.field format v with
        | ok s => simp [shown, Misses, Except.map] at missed
        | error e => simpa [shown, Misses, Except.map] using missed
      | _ => exact absurd missed (Misses.not_refusing _)
  | refused construct parts => cases missed

theorem sizeOf_lt_fill (frame : Frame) (t : Term) : sizeOf t < sizeOf (frame.fill t) := by
  cases frame with
  | all before after | any before after | joined before after | refused _ before after
  | given _ before after _ =>
    have inside := List.sizeOf_lt_of_mem (List.mem_append_cons_self : t ∈ before ++ t :: after)
    simp only [Frame.fill, all.sizeOf_spec, any.sizeOf_spec, joined.sizeOf_spec,
      refused.sizeOf_spec, call.sizeOf_spec]
    omega
  | compared first before op after =>
    have inside := List.sizeOf_lt_of_mem
      (List.mem_append_cons_self : (op, t) ∈ before ++ (op, t) :: after)
    simp only [Frame.fill, compare.sizeOf_spec, Prod.mk.sizeOf_spec] at inside ⊢
    omega
  | givenByName callee args before parameter after =>
    have inside := List.sizeOf_lt_of_mem
      (List.mem_append_cons_self : (parameter, t) ∈ before ++ (parameter, t) :: after)
    simp only [Frame.fill, call.sizeOf_spec, Prod.mk.sizeOf_spec] at inside ⊢
    omega
  | _ =>
    simp only [Frame.fill, unary.sizeOf_spec, binary.sizeOf_spec, compare.sizeOf_spec,
      choose.sizeOf_spec, call.sizeOf_spec, field.sizeOf_spec, Option.some.sizeOf_spec]
    omega

theorem looks_of_misses (t : Term) (missed : Misses missing (t.evaluate source)) :
    t.Looks source missing := by
  rcases seeks_or_exists_part missed with seeks | ⟨frame, u, rfl, here⟩
  · exact ⟨[], t, rfl, seeks⟩
  · have smaller := sizeOf_lt_fill frame u
    obtain ⟨frames, v, rfl, seeks⟩ := looks_of_misses u here
    exact ⟨frame :: frames, v, rfl, seeks⟩
termination_by sizeOf t

end

end Term

-- ---------------------------------------------------------------------------
-- Conditions
-- ---------------------------------------------------------------------------

/-- A condition is refused before its statements count, or it is what its first statement is. -/
theorem evaluate_cases (condition : String) :
    (∃ refusal, evaluate condition = .error (.refused refusal)) ∨
      ∃ first more, Statement.ofChars (readable condition).toList = some (first :: more) ∧
        evaluate condition = first.evaluate (readable condition) := by
  unfold evaluate
  dsimp only
  split
  · exact .inl ⟨_, rfl⟩
  split
  · exact .inl ⟨_, rfl⟩
  split
  · exact .inl ⟨_, rfl⟩
  · exact .inl ⟨_, rfl⟩
  · rename_i first more read
    exact .inr ⟨first, more, read, rfl⟩

def Statement.Looks (source : String) (missing : Lookup) : Statement → Prop
  | .expression t | .assignment t => t.Looks source missing
  | .importing | .refused _ => False

/-- A condition ends in a lookup only if its first statement has a field that seeks a value. -/
theorem exists_looks {condition : String} {missing : Lookup}
    (missed : Misses missing (evaluate condition)) :
    ∃ first more, Statement.ofChars (readable condition).toList = some (first :: more) ∧
      first.Looks (readable condition) missing := by
  rcases evaluate_cases condition with ⟨refusal, refused⟩ | ⟨first, more, read, same⟩
  · cases missed.symm.trans refused
  · rw [same] at missed
    refine ⟨first, more, read, ?_⟩
    cases first with
    | expression t => exact t.looks_of_misses missed
    | assignment t => exact t.looks_of_misses missed
    | importing => cases missed
    | refused construct => cases missed

end Flowline.Condition

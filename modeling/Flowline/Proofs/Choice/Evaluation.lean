import Flowline.Proofs.Choice.Parser

/-!
# The value of a choice

A choice is spelled, cut and read as the tree that it is, and its calls choose by the truth of their
tests. All arguments of a call are evaluated, also those that are not chosen: so a text beyond the
limit fails the whole choice wherever it stands.
-/

namespace Flowline.Condition

-- ---------------------------------------------------------------------------
-- The ends of a choice
-- ---------------------------------------------------------------------------

structure IsTrim (cs : List Char) : Prop where
  front : ∃ c rest, cs = c :: rest ∧ Text.isBlank c = false
  back : ∃ before c, cs = before ++ [c] ∧ Text.isBlank c = false

namespace IsTrim

variable {cs ds : List Char}

theorem trimBoth_eq (ends : IsTrim cs) : Text.trimBoth cs = cs := by
  obtain ⟨c, rest, front, shown⟩ := ends.front
  obtain ⟨before, d, back, shownToo⟩ := ends.back
  refine Text.trimBoth_eq (fun e first => ?_) (fun e last => ?_)
  · rw [front] at first
    cases first
    exact shown
  · rw [back, List.getLast?_concat] at last
    cases last
    exact shownToo

theorem append (left : IsTrim cs) (right : IsTrim ds) (middle : List Char) :
    IsTrim (cs ++ (middle ++ ds)) := by
  obtain ⟨c, rest, front, shown⟩ := left.front
  obtain ⟨before, d, back, shownToo⟩ := right.back
  exact ⟨⟨c, _, by rw [front, List.cons_append], shown⟩,
    ⟨cs ++ (middle ++ before), d, by simp [back], shownToo⟩⟩

theorem word (given : cs ≠ []) (letters : ∀ c ∈ cs, Text.isAsciiWord c = true) : IsTrim cs := by
  constructor
  · obtain ⟨c, rest, rfl⟩ := List.exists_cons_of_ne_nil given
    exact ⟨c, rest, rfl, Text.isBlank_of_isAsciiWord (letters c List.mem_cons_self)⟩
  · refine ⟨cs.dropLast, cs.getLast given, (List.dropLast_concat_getLast given).symm, ?_⟩
    exact Text.isBlank_of_isAsciiWord (letters _ (List.getLast_mem given))

theorem quotation (q : Quotation) : IsTrim q.source := by
  have shown : Text.isBlank q.quote = false := by
    rcases q.quoted with quote | quote <;> rw [quote] <;> decide
  exact ⟨⟨q.quote, _, rfl, shown⟩, ⟨q.quote :: q.body, q.quote, rfl, shown⟩⟩

end IsTrim

namespace Piece

variable {write : Piece → List Char}

theorem isTrim_leaf (row : IsRow write) (text : ∀ q, write (.leaf (.text q)) = q.source)
    (l : Leaf) : IsTrim (write (.leaf l)) := by
  cases l with
  | text q => exact text q ▸ .quotation q
  | number n => exact .word (row.given _ id) (row.word _ id)
  | truth b => exact .word (row.given _ id) (row.word _ id)

theorem isTrim_source_opening : IsTrim (source opening) :=
  ⟨⟨'i', _, rfl, by decide⟩, "if".toList, '(', rfl, by decide⟩

theorem isTrim_spelled_opening : IsTrim (spelled opening) :=
  ⟨⟨'i', _, rfl, by decide⟩, "iif".toList, '(', rfl, by decide⟩

theorem isTrim_closing : IsTrim (source closing) :=
  ⟨⟨')', [], rfl, by decide⟩, [], ')', rfl, by decide⟩

end Piece

namespace Choice

theorem exists_middle (gaps : Gaps) {test yes no : Choice}
    (hTest : ∃ own, ∀ rest, test.pieces rest = own ++ rest)
    (hYes : ∃ own, ∀ rest, yes.pieces rest = own ++ rest)
    (hNo : ∃ own, ∀ rest, no.pieces rest = own ++ rest) :
    ∃ middle, ∀ rest, (call gaps test yes no).pieces rest =
      .opening :: (middle ++ .closing :: rest) := by
  obtain ⟨first, hTest⟩ := hTest
  obtain ⟨second, hYes⟩ := hYes
  obtain ⟨third, hNo⟩ := hNo
  exact ⟨Piece.spaces gaps.beforeTest (first ++ Piece.spaces gaps.afterTest (.comma ::
    Piece.spaces gaps.beforeYes (second ++ Piece.spaces gaps.afterYes (.comma ::
      Piece.spaces gaps.beforeNo (third ++ Piece.spaces gaps.afterNo []))))),
    fun rest => by simp [pieces, Piece.spaces, hTest, hYes, hNo]⟩

theorem exists_own (t : Choice) : ∃ own, ∀ rest, t.pieces rest = own ++ rest := by
  induction t with
  | leaf l => exact ⟨[.leaf l], fun rest => rfl⟩
  | call gaps test yes no ihTest ihYes ihNo =>
    obtain ⟨middle, whole⟩ := exists_middle gaps ihTest ihYes ihNo
    exact ⟨.opening :: (middle ++ [.closing]), fun rest => by simp [whole]⟩

variable {write : Piece → List Char}

theorem isTrim_pieces (opening : IsTrim (write .opening)) (closing : IsTrim (write .closing))
    (leaf : ∀ l, IsTrim (write (.leaf l))) (t : Choice) :
    IsTrim ((t.pieces []).flatMap write) := by
  cases t with
  | leaf l => simpa [pieces] using leaf l
  | call gaps test yes no =>
    obtain ⟨middle, whole⟩ := exists_middle gaps test.exists_own yes.exists_own no.exists_own
    simpa [whole] using opening.append closing (middle.flatMap write)

theorem isTrim_source (t : Choice) : IsTrim t.source :=
  t.isTrim_pieces Piece.isTrim_source_opening Piece.isTrim_closing
    (Piece.isTrim_leaf Piece.isRow_source fun _ => rfl)

theorem isTrim_spelled (t : Choice) : IsTrim t.spelled :=
  t.isTrim_pieces Piece.isTrim_spelled_opening Piece.isTrim_closing
    fun l => Piece.isTrim_leaf Piece.isRow_halfway (fun _ => rfl) l

-- ---------------------------------------------------------------------------
-- Evaluation
-- ---------------------------------------------------------------------------

end Choice

-- ---------------------------------------------------------------------------
-- Evaluation
-- ---------------------------------------------------------------------------

theorem Leaf.evaluate_term (l : Leaf) (source : String) :
    l.term.evaluate source = refusing (Term.checkLength l.value) := by
  simp [term, Term.evaluate]

theorem Leaf.checkLength_value (l : Leaf) (short : (Choice.leaf l).IsShort) :
    Term.checkLength l.value = .ok l.value := by
  cases l with
  | number n => rfl
  | truth b => rfl
  | text q =>
    have within : ¬ maxLength < q.body.length := Nat.not_lt.mpr short
    simp [value, Term.checkLength, Operation.length?, within]

theorem Term.evaluate_iif {source : String} {test yes no : Term} {a b c : Value}
    (hTest : test.evaluate source = .ok a) (hYes : yes.evaluate source = .ok b)
    (hNo : no.evaluate source = .ok c) :
    (call (.name "iif") [test, yes, no] []).evaluate source =
      .ok (if a.truthy then b else c) := by
  have known : Function.ofName? "iif" = some .iif := rfl
  have chosen : Function.iif.apply [a, b, c] [] = .ok (if a.truthy then b else c) := rfl
  simp [evaluate, known, evaluateArgs, evaluateNamed, hTest, hYes, hNo, chosen, bind, Except.bind,
    pure, Except.pure]

namespace Choice

/-- A choice is evaluated as the tree that it is. -/
theorem evaluate_eq (t : Choice) (spaced : t.IsSpaced) (shallow : t.depth ≤ 200) :
    evaluate (String.ofList t.source) = t.term.evaluate (String.ofList t.spelled) := by
  have given : Text.isBlankText (String.ofList t.source) = false := by
    obtain ⟨c, rest, front, shown⟩ := t.isTrim_source.front
    rw [Text.isBlankText, String.toList_ofList]
    exact List.all_eq_false.mpr ⟨c, by simp [front], by simp [shown]⟩
  have read : readable (String.ofList t.source) = String.ofList t.spelled := by
    simp [readable, Text.trim, Spelling.normalize, t.isTrim_source.trimBoth_eq,
      t.isTrim_spelled.trimBoth_eq, t.normalizeChars_source spaced]
  have noNull : t.spelled.contains '\x00' = false := by
    simpa using t.notMem_spelled (c := '\x00') (by decide)
  have wellFormed := Text.isWellFormed_of_printable t.printable_spelled
  simp only [evaluate, given, read, String.toList_ofList, noNull, wellFormed,
    t.ofChars_program spaced shallow, Bool.not_true, Bool.or_self, Bool.false_eq_true, if_false,
    Statement.evaluate]

theorem evaluate_term (t : Choice) (short : t.IsShort) (source : String) :
    t.term.evaluate source = .ok t.value := by
  induction t with
  | leaf l => rw [term, l.evaluate_term, l.checkLength_value short, refusing, value]
  | call gaps test yes no ihTest ihYes ihNo =>
    obtain ⟨shortTest, shortYes, shortNo⟩ := short
    exact Term.evaluate_iif (ihTest shortTest) (ihYes shortYes) (ihNo shortNo)

/-- A choice evaluates to the value that it chooses, whatever calls stand in its calls, unless calls
stand deeper than the grammar lets them, a text in it is beyond the limit, or a call stands right
behind the parenthesis of another one. -/
theorem evaluate_source (t : Choice) (spaced : t.IsSpaced) (short : t.IsShort)
    (shallow : t.depth ≤ 200) : evaluate (String.ofList t.source) = .ok t.value :=
  (t.evaluate_eq spaced shallow).trans (t.evaluate_term short _)

def nested : Choice :=
  .call ⟨1, 0, 0, 1, 1, 0⟩
    (.call ⟨0, 0, 0, 0, 0, 0⟩ (.leaf (.truth true)) (.leaf (.number zero)) (.leaf (.truth false)))
    (.call ⟨0, 0, 0, 0, 0, 0⟩ (.leaf (.truth true)) (.leaf (.number zero)) (.leaf (.truth false)))
    (.call ⟨0, 1, 0, 0, 0, 0⟩ (.leaf (.number thousand)) (.leaf (.text answer))
      (.leaf (.truth false)))
where
  zero : Numeral := ⟨['0'], [], by decide, by decide, by decide, by decide, by decide⟩
  thousand : Numeral :=
    ⟨['1'], [['0', '0', '0']], by decide, by decide, by decide, by decide, by decide⟩
  answer : Quotation := ⟨'"', "yes, no".toList, .inr rfl, by decide, by simp [Spelling.IsQuote]⟩

theorem evaluate_source_nested :
    (nested.IsSpaced ∧ nested.IsShort ∧ nested.depth ≤ 200) ∧
      evaluate "if( if(true,0,false),if(true,0,false) , if(1_000 ,\"yes, no\",false))" =
        .ok (.text "yes, no") := by
  have spaced : nested.IsSpaced := by simp [nested, IsSpaced, IsCall]
  have short : nested.IsShort := by simp [nested, IsShort, nested.answer, maxLength]
  have shallow : nested.depth ≤ 200 := by decide
  have written : String.ofList nested.source =
    "if( if(true,0,false),if(true,0,false) , if(1_000 ,\"yes, no\",false))" := by decide
  exact ⟨⟨spaced, short, shallow⟩, written ▸ evaluate_source nested spaced short shallow⟩

def direct : Choice :=
  .call ⟨0, 0, 0, 0, 0, 0⟩
    (.call ⟨0, 0, 0, 0, 0, 0⟩ (.leaf (.truth true)) (.leaf (.truth true)) (.leaf (.truth false)))
    (.leaf (.number one)) (.leaf (.number two))
where
  one : Numeral := ⟨['1'], [], by decide, by decide, by decide, by decide, by decide⟩
  two : Numeral := ⟨['2'], [], by decide, by decide, by decide, by decide, by decide⟩

def longText : Quotation where
  quote := '"'
  body := .replicate (maxLength + 1) 'a'
  quoted := .inr rfl
  printable c listed := by
    rw [List.eq_of_mem_replicate listed]
    decide
  plain c listed := by
    rw [List.eq_of_mem_replicate listed]
    simp [Spelling.IsQuote]

/-- Without a space a call is not found there, and a text beyond the limit fails even alone. -/
theorem evaluate_source_fails :
    (direct.value = .int 1 ∧ String.ofList direct.source = "if(if(true,true,false),1,2)" ∧
      evaluate "if(if(true,true,false),1,2)" = .error (.refused .malformed)) ∧
    evaluate (String.ofList (leaf (.text longText)).source) =
      .error (.refused (.literalTooLong (maxLength + 1))) := by
  have malformed : evaluate "if(if(true,true,false),1,2)" = .error (.refused .malformed) :=
    eq_error_of_error? (by decide +kernel)
  refine ⟨⟨rfl, by decide, malformed⟩, ?_⟩
  have length : longText.body.length = maxLength + 1 := List.length_replicate
  have beyond : Term.checkLength (Leaf.text longText).value =
      .error (.literalTooLong (maxLength + 1)) := by
    simp [Leaf.value, Term.checkLength, Operation.length?, length]
  have alone := (leaf (.text longText)).evaluate_eq trivial (Nat.zero_le _)
  rw [alone, term, Leaf.evaluate_term, beyond, refusing]

end Choice

end Flowline.Condition

import Flowline.Proofs.Condition.Spelling
import Flowline.Proofs.Text.Case

/-!
# Literals are left alone

The rewrites of a condition's spelling work on the code between string literals. A quote that opens
no literal stands in that code, and it must not come to open one when the code around it is
rewritten, neither there nor across the literals behind it. That it does not rests on what all
rewrites have in common: they put a stretch without quotes and backslashes in the place of another
one, and neither of the two begins with a line feed. So whatever a backslash hides stays hidden.
-/

namespace Flowline.Condition.Spelling

-- ---------------------------------------------------------------------------
-- Stretches that may be rewritten
-- ---------------------------------------------------------------------------

def IsPlain (c : Char) : Prop := ¬ IsQuote c ∧ c ≠ '\\'

/-- Not empty, without quotes and backslashes, and without a line feed in front. -/
def IsLoose : List Char → Prop
  | [] => False
  | c :: rest => c ≠ '\n' ∧ ∀ d ∈ c :: rest, IsPlain d

instance (c : Char) : Decidable (IsPlain c) := inferInstanceAs (Decidable (¬ (_ ∨ _) ∧ _))

instance : DecidablePred IsLoose
  | [] => inferInstanceAs (Decidable False)
  | c :: rest => inferInstanceAs (Decidable (c ≠ '\n' ∧ ∀ d ∈ c :: rest, IsPlain d))

/-- The second text is the first one with loose stretches in the place of loose ones. -/
inductive Respells : List Char → List Char → Prop
  | nil : Respells [] []
  | keep (c : Char) : Respells cs ds → Respells (c :: cs) (c :: ds)
  | change : IsLoose left → IsLoose right → Respells cs ds → Respells (left ++ cs) (right ++ ds)

section

variable {c quote : Char} {cs ds rest left : List Char}

theorem IsLoose.plain (loose : IsLoose cs) : ∀ c ∈ cs, IsPlain c := by
  cases cs with
  | nil => exact loose.elim
  | cons c rest => exact loose.2

namespace Respells

theorem refl (cs : List Char) : Respells cs cs := by
  induction cs with
  | nil => exact .nil
  | cons c cs ih => exact .keep c ih

theorem append (first : Respells cs ds) (second : Respells rest left) :
    Respells (cs ++ rest) (ds ++ left) := by
  induction first with
  | nil => exact second
  | keep c _ ih => exact .keep c ih
  | change loose other _ ih =>
    rw [List.append_assoc, List.append_assoc]
    exact .change loose other ih

end Respells

-- ---------------------------------------------------------------------------
-- Quotes that open no literal
-- ---------------------------------------------------------------------------

def escapedTail? (quote : Char) : List Char → Option Nat
  | [] => none
  | c :: rest => if c = '\n' then none else literalTail? quote rest

theorem isSome_literalTail?_backslash (quote : Char) (cs : List Char) :
    (literalTail? quote ('\\' :: cs)).isSome = (escapedTail? quote cs).isSome := by
  cases cs with
  | nil => rfl
  | cons c rest => by_cases line : c = '\n' <;> simp [literalTail?, escapedTail?, line]

theorem isSome_literalTail?_plain (quoted : IsQuote quote) (plain : ∀ c ∈ cs, IsPlain c)
    (rest : List Char) :
    (literalTail? quote (cs ++ rest)).isSome = (literalTail? quote rest).isSome := by
  induction cs with
  | nil => rfl
  | cons c cs ih =>
    obtain ⟨⟨noQuote, unescaped⟩, further⟩ := List.forall_mem_cons.mp plain
    have other : c ≠ quote := fun same => noQuote (same ▸ quoted)
    simp [literalTail?, other, unescaped, ih further]

theorem isSome_escapedTail?_loose (quoted : IsQuote quote) (loose : IsLoose cs)
    (rest : List Char) :
    (escapedTail? quote (cs ++ rest)).isSome = (literalTail? quote rest).isSome := by
  cases cs with
  | nil => exact loose.elim
  | cons c cs =>
    rw [List.cons_append, escapedTail?, if_neg loose.1]
    exact isSome_literalTail?_plain quoted (List.forall_mem_cons.mp loose.2).2 rest

theorem Respells.isSome_tails (respells : Respells cs ds) (quoted : IsQuote quote) :
    (literalTail? quote cs).isSome = (literalTail? quote ds).isSome ∧
      (escapedTail? quote cs).isSome = (escapedTail? quote ds).isSome := by
  induction respells with
  | nil => exact ⟨rfl, rfl⟩
  | keep c _ ih =>
    obtain ⟨unescaped, escaped⟩ := ih
    refine ⟨?_, by by_cases line : c = '\n' <;> simp [escapedTail?, line, unescaped]⟩
    by_cases back : c = '\\'
    · rw [back, isSome_literalTail?_backslash, isSome_literalTail?_backslash, escaped]
    · by_cases closes : c = quote
      · subst closes
        simp [literalTail?, back]
      · simp [literalTail?, back, closes, unescaped]
  | change loose other _ ih =>
    constructor
    · rw [isSome_literalTail?_plain quoted loose.plain,
        isSome_literalTail?_plain quoted other.plain, ih.1]
    · rw [isSome_escapedTail?_loose quoted loose, isSome_escapedTail?_loose quoted other, ih.1]

theorem literalLength?_quote (quoted : IsQuote quote) (rest : List Char) :
    literalLength? (quote :: rest) = (literalTail? quote rest).map (· + 1) := by
  rcases quoted with rfl | rfl <;> rfl

theorem Respells.literalLength?_eq_none (respells : Respells cs ds) (c : Char)
    (none : literalLength? (c :: cs) = none) : literalLength? (c :: ds) = .none := by
  by_cases quoted : IsQuote c
  · rw [literalLength?_quote quoted, Option.map_eq_none_iff,
      ← Option.not_isSome_iff_eq_none] at none ⊢
    rwa [← (respells.isSome_tails quoted).1]
  · exact literalLength?_code quoted

-- ---------------------------------------------------------------------------
-- Rewriting the code
-- ---------------------------------------------------------------------------

/-- No character of the first text opens a literal, when the second one stands behind it. -/
def IsCode : List Char → List Char → Prop
  | [], _ => True
  | c :: cs, rest => literalLength? (c :: (cs ++ rest)) = none ∧ IsCode cs rest

theorem IsCode.of_append (code : IsCode (cs ++ ds) rest) : IsCode ds rest := by
  induction cs with
  | nil => exact code
  | cons c cs ih => exact ih code.2

theorem IsCode.plain_append (plain : ∀ c ∈ cs, IsPlain c) (code : IsCode ds rest) :
    IsCode (cs ++ ds) rest := by
  induction cs with
  | nil => exact code
  | cons c cs ih =>
    obtain ⟨here, further⟩ := List.forall_mem_cons.mp plain
    exact ⟨literalLength?_code here.1, ih further⟩

theorem IsCode.respell (respells : Respells cs ds) (behind : Respells rest left)
    (code : IsCode cs rest) : IsCode ds left := by
  induction respells with
  | nil => trivial
  | keep c further ih =>
    exact ⟨(further.append behind).literalLength?_eq_none c code.1, ih code.2⟩
  | change _ other _ ih => exact .plain_append other.plain (ih code.of_append)

theorem segmentsFrom_isCode (code : IsCode cs rest) (before : List Char) :
    segmentsFrom before (cs ++ rest) = segmentsFrom (cs.reverse ++ before) rest := by
  induction cs generalizing before with
  | nil => rfl
  | cons c cs ih =>
    rw [List.cons_append, segmentsFrom, code.1]
    simp [ih code.2]

end

-- ---------------------------------------------------------------------------
-- Cutting a text
-- ---------------------------------------------------------------------------

/-- The segments of a text, said without a search: no character of the code opens a literal, and
each literal closes where it ends. -/
inductive IsCut : List Segment → List Char → Prop
  | last : IsCode cs [] → IsCut [.code cs] cs
  | next : IsCode cs (c :: (body ++ rest)) →
      literalLength? (c :: (body ++ rest)) = some (body.length + 1) → IsCut segs rest →
      IsCut (.code cs :: .literal (c :: body) :: segs) (cs ++ c :: (body ++ rest))

section

variable {c quote : Char} {cs body rest : List Char} {segs : List Segment}

theorem IsCut.segments_eq (cut : IsCut segs cs) : segments cs = segs := by
  induction cut with
  | last code =>
    have whole := segmentsFrom_isCode code []
    rw [List.append_nil, List.append_nil] at whole
    rw [segments, whole, segmentsFrom, List.reverse_reverse]
  | next code closes _ ih =>
    rw [segments, segmentsFrom_isCode code, List.append_nil, segmentsFrom, closes]
    simp [← ih, segments]

theorem IsCode.concat (code : IsCode cs (c :: rest)) (none : literalLength? (c :: rest) = none) :
    IsCode (cs ++ [c]) rest := by
  induction cs with
  | nil => exact ⟨none, trivial⟩
  | cons d cs ih =>
    refine ⟨?_, ih code.2⟩
    have here := code.1
    rwa [List.append_cons] at here

theorem literalTail?_le (found : literalTail? quote cs = some n) : 0 < n ∧ n ≤ cs.length := by
  fun_induction literalTail? quote cs generalizing n with
  | case1 => cases found
  | case2 => cases found
  | case3 => cases found
  | case4 d rest _ ih =>
    obtain ⟨m, tail, rfl⟩ := Option.map_eq_some_iff.mp found
    have further := ih tail
    simp only [List.length_cons]
    omega
  | case5 => cases found; simp
  | case6 d rest _ _ _ ih =>
    obtain ⟨m, tail, rfl⟩ := Option.map_eq_some_iff.mp found
    have further := ih tail
    simp only [List.length_cons]
    omega

theorem exists_of_literalLength? (found : literalLength? (c :: cs) = some n) :
    IsQuote c ∧ ∃ m, n = m + 1 ∧ literalTail? c cs = some m := by
  by_cases quoted : IsQuote c
  · rw [literalLength?_quote quoted] at found
    obtain ⟨m, tail, rfl⟩ := Option.map_eq_some_iff.mp found
    exact ⟨quoted, m, rfl, tail⟩
  · rw [literalLength?_code quoted] at found
    cases found

theorem isCut_segmentsFrom (before cs : List Char) (code : IsCode before.reverse cs) :
    IsCut (segmentsFrom before cs) (before.reverse ++ cs) := by
  fun_induction segmentsFrom before cs with
  | case1 before =>
    rw [List.append_nil]
    exact .last code
  | case2 before c rest n found ih =>
    obtain ⟨-, m, same, tail⟩ := exists_of_literalLength? found
    obtain rfl : n = m := Nat.succ.inj same
    have length : (rest.take n).length = n := List.length_take_of_le (literalTail?_le tail).2
    have whole : rest = rest.take n ++ rest.drop n := (List.take_append_drop n rest).symm
    have closes : literalLength? (c :: (rest.take n ++ rest.drop n)) =
        some ((rest.take n).length + 1) := by rw [length, ← whole, found]
    rw [whole] at code
    have cut := IsCut.next code closes (ih trivial)
    rwa [← whole] at cut
  | case3 before c rest absent ih =>
    have none : literalLength? (c :: rest) = none := by
      cases found : literalLength? (c :: rest) with
      | none => rfl
      | some n =>
        obtain ⟨-, m, rfl, -⟩ := exists_of_literalLength? found
        exact absurd found (absent m)
    have further := ih (by simpa using code.concat none)
    simpa using further

theorem isCut_segments (cs : List Char) : IsCut (segments cs) cs :=
  isCut_segmentsFrom [] cs trivial

theorem literalTail?_cons (unescaped : c ≠ '\\') (rest : List Char) :
    literalTail? quote (c :: rest) =
      if c = quote then some 1 else (literalTail? quote rest).map (· + 1) := by
  simp [literalTail?, unescaped]

theorem literalTail?_append_congr (body : List Char) {rest : List Char}
    (closes : literalTail? quote (body ++ rest) = some body.length) (left : List Char) :
    literalTail? quote (body ++ left) = some body.length := by
  induction h : body.length using Nat.strongRecOn generalizing body with
  | ind length ih =>
    subst h
    cases body with
    | nil => exact absurd (literalTail?_le closes).1 (Nat.lt_irrefl 0)
    | cons c body =>
      by_cases back : c = '\\'
      · subst back
        cases body with
        | nil =>
          cases rest with
          | nil => cases closes
          | cons d rest => simp [literalTail?, Option.ite_none_left_eq_some] at closes
        | cons d body =>
          simp only [List.cons_append, literalTail?, Option.ite_none_left_eq_some,
            Option.map_eq_some_iff] at closes ⊢
          obtain ⟨line, m, tail, same⟩ := closes
          obtain rfl : m = body.length := Nat.add_right_cancel same
          exact ⟨line, _, ih _ (Nat.lt_succ_of_lt (Nat.lt_succ_self _)) body tail rfl, rfl⟩
      · rw [List.cons_append, literalTail?_cons back] at closes ⊢
        split at closes
        · simp [*]
        · rename_i other
          obtain ⟨m, tail, same⟩ := Option.map_eq_some_iff.mp closes
          obtain rfl := Nat.succ.inj same
          rw [if_neg other, ih _ (Nat.lt_succ_self _) body tail rfl]
          rfl

-- ---------------------------------------------------------------------------
-- Rewriting all the code of a text
-- ---------------------------------------------------------------------------

def Segment.respell (f : List Char → List Char) : Segment → Segment
  | .code cs => .code (f cs)
  | .literal cs => .literal cs

def respelled (f : List Char → List Char) (segs : List Segment) : List Char :=
  (segs.map (·.respell f)).flatMap Segment.source

/-- Rewriting the code of a text leaves it cut where it was. -/
def KeepsCuts (f : List Char → List Char) : Prop :=
  ∀ segs cs, IsCut segs cs → IsCut (segs.map (·.respell f)) (respelled f segs)

theorem KeepsCuts.comp {f g : List Char → List Char} (first : KeepsCuts f) (then_ : KeepsCuts g) :
    KeepsCuts (g ∘ f) := by
  intro segs cs cut
  have both : segs.map (·.respell (g ∘ f)) = (segs.map (·.respell f)).map (·.respell g) := by
    rw [List.map_map]
    refine List.map_congr_left fun seg _ => ?_
    cases seg <;> rfl
  rw [respelled, both]
  exact then_ _ _ (first segs cs cut)

theorem keepsCuts_of_respells {f : List Char → List Char}
    (respells : ∀ cs, Respells cs (f cs)) : KeepsCuts f := by
  -- what stands behind the code has to be known as respelled when the code is looked at
  have both : ∀ segs cs, IsCut segs cs →
      Respells cs (respelled f segs) ∧ IsCut (segs.map (·.respell f)) (respelled f segs) := by
    intro segs cs cut
    induction cut with
    | @last cs code =>
      have whole : respelled f [.code cs] = f cs := by
        simp [respelled, Segment.respell, Segment.source]
      rw [whole]
      exact ⟨respells cs, .last (code.respell (respells cs) .nil)⟩
    | @next cs c body rest segs code closes _ ih =>
      obtain ⟨further, cut⟩ := ih
      have whole : respelled f (.code cs :: .literal (c :: body) :: segs) =
          f cs ++ c :: (body ++ respelled f segs) := by
        simp [respelled, Segment.respell, Segment.source]
      have behind : Respells (c :: (body ++ rest)) (c :: (body ++ respelled f segs)) :=
        .keep c ((Respells.refl body).append further)
      obtain ⟨quoted, m, same, tail⟩ := exists_of_literalLength? closes
      obtain rfl := Nat.succ.inj same
      have closed : literalLength? (c :: (body ++ respelled f segs)) = some (body.length + 1) := by
        rw [literalLength?_quote quoted, literalTail?_append_congr body tail]
        rfl
      rw [whole]
      exact ⟨(respells cs).append behind, .next (code.respell (respells cs) behind) closed cut⟩
  exact fun segs cs cut => (both segs cs cut).2

end

-- ---------------------------------------------------------------------------
-- The rewrites
-- ---------------------------------------------------------------------------

section

variable {c : Char} {cs word rest : List Char}

theorem respells_replacePair {a b : Char} {image : List Char} (loose : IsLoose [a, b])
    (other : IsLoose image) (cs : List Char) : Respells cs (replacePair a b image cs) := by
  fun_induction replacePair a b image cs with
  | case1 => exact .nil
  | case2 c => exact .refl [c]
  | case3 c d rest found ih =>
    obtain ⟨rfl, rfl⟩ := found
    exact .change loose other ih
  | case4 c d rest _ ih => exact .keep c ih

theorem respells_doubleEquals (previous : Option Char) (cs : List Char) :
    Respells cs (doubleEquals previous cs) := by
  fun_induction doubleEquals previous cs with
  | case1 => exact .nil
  | case2 previous c rest found ih =>
    obtain ⟨rfl, -⟩ := found
    exact @Respells.change ['='] ['=', '='] _ _ (by decide) (by decide) ih
  | case3 previous c rest _ ih => exact .keep c ih

theorem respells_spellNot (cs : List Char) : Respells cs (spellNot cs) := by
  fun_induction spellNot cs with
  | case1 => exact .nil
  | case2 c rest found ih =>
    obtain ⟨rfl, -⟩ := found
    exact @Respells.change ['!'] " not ".toList _ _ (by decide) (by decide) ih
  | case3 c rest _ ih => exact .keep c ih

def IsInner (c : Char) : Prop := c ≠ '\n' ∧ IsPlain c

instance : Decidable (IsInner c) := inferInstanceAs (Decidable (_ ∧ _))

theorem isLoose_of_isInner (given : cs ≠ []) (inner : ∀ c ∈ cs, IsInner c) : IsLoose cs := by
  cases cs with
  | nil => exact absurd rfl given
  | cons c cs => exact ⟨(inner c List.mem_cons_self).1, fun d listed => (inner d listed).2⟩

theorem isInner_of_isWord (word : Text.isWord c = true) : IsInner c := by
  have other (d : Char) (apart : Text.isWord d = false) : c ≠ d := by
    rintro rfl
    rw [apart] at word
    cases word
  exact ⟨other _ (by decide), not_or.mpr ⟨other _ (by decide), other _ (by decide)⟩,
    other _ (by decide)⟩

theorem isLoose_word (given : word ≠ []) (run : ∀ c ∈ word, Text.isWord c = true) :
    IsLoose word :=
  isLoose_of_isInner given fun c listed => isInner_of_isWord (run c listed)

theorem respells_mapWords {f : (word following : List Char) → List Char}
    (loose : ∀ word following, word ≠ [] → (∀ c ∈ word, Text.isWord c = true) →
      IsLoose (f word following)) (cs : List Char) : Respells cs (mapWords f cs) := by
  fun_induction mapWords f cs with
  | case1 => exact .nil
  | case2 c rest isWord word following ih =>
    have run : ∀ d ∈ word, Text.isWord d = true := by
      refine List.forall_mem_cons.mpr ⟨isWord, fun d listed => List.mem_takeWhile_imp listed⟩
    have whole : c :: rest = word ++ following := by
      simp [word, following, List.takeWhile_append_dropWhile]
    rw [whole]
    exact .change (isLoose_word (List.cons_ne_nil _ _) run)
      (loose word following (List.cons_ne_nil _ _) run) ih
  | case3 c rest _ ih => exact .keep c ih

theorem isLoose_spellTruth (following : List Char) (given : word ≠ [])
    (run : ∀ c ∈ word, Text.isWord c = true) : IsLoose (spellTruth word following) := by
  unfold spellTruth
  split
  · decide
  split
  · decide
  · exact isLoose_word given run

theorem isInner_of_lt (beyond : 92 < c.toNat) : IsInner c := by
  have other (d : Char) (small : d.toNat ≤ 92) : c ≠ d := by
    rintro rfl
    omega
  exact ⟨other _ (by decide), not_or.mpr ⟨other _ (by decide), other _ (by decide)⟩,
    other _ (by decide)⟩

theorem isInner_lowerFrom (before : List Char) (inner : ∀ c ∈ cs, IsInner c) :
    ∀ d ∈ Text.lowerFrom before cs, IsInner d :=
  Text.forall_lowerFrom ⟨by decide, fun _ => isInner_of_lt⟩ before inner

theorem isLoose_spellCall (following : List Char) (given : word ≠ [])
    (run : ∀ c ∈ word, Text.isWord c = true) : IsLoose (spellCall word following) := by
  have loose := isLoose_word given run
  have inner := isInner_lowerFrom [] fun c listed => isInner_of_isWord (run c listed)
  unfold spellCall
  split
  · split
    · exact isLoose_of_isInner (Text.lowerFrom_cons_ne_nil _ _ _) inner
    · exact loose
  · exact loose

theorem respells_ifCall (found : ifCallLength? cs = some n)
    (further : Respells (cs.drop n) rest) : Respells cs (choiceCall ++ rest) := by
  obtain ⟨blanks, behind, rfl, rfl, blank⟩ := exists_of_ifCallLength? found
  have whole : 'i' :: 'f' :: (blanks ++ '(' :: behind) =
      ('i' :: 'f' :: (blanks ++ ['('])) ++ behind := by simp
  have left : (('i' :: 'f' :: (blanks ++ ['('])) ++ behind).drop (blanks.length + 3) = behind :=
    List.drop_left' (by simp)
  rw [whole, left] at further
  rw [whole]
  refine .change ⟨by decide, ?_⟩ (by decide) further
  have inside : ∀ c ∈ blanks, IsPlain c := by
    intro c listed
    have other (d : Char) (apart : Text.isBlank d = false) : c ≠ d := by
      rintro rfl
      rw [blank _ listed] at apart
      cases apart
    exact ⟨not_or.mpr ⟨other _ (by decide), other _ (by decide)⟩, other _ (by decide)⟩
  intro c listed
  simp only [List.mem_cons, List.mem_append, List.not_mem_nil, or_false] at listed
  rcases listed with rfl | rfl | listed | rfl
  · decide
  · decide
  · exact inside c listed
  · decide

theorem respells_spellIf (atStart : Bool) (cs : List Char) : Respells cs (spellIf atStart cs) := by
  fun_induction spellIf atStart cs with
  | case1 => exact .nil
  | case2 atStart c rest n found ih =>
    have call : ifCallLength? (c :: rest) = some (n + 1) := by
      split at found
      · exact found
      · cases found
    exact respells_ifCall call ih
  | case3 atStart c rest n found _ ih =>
    have call : ifCallLength? rest = some n := by
      split at found
      · exact found
      · cases found
    exact .keep c (respells_ifCall call ih)
  | case4 atStart c rest _ _ ih => exact .keep c ih

theorem keepsCuts_normalizeCode : KeepsCuts normalizeCode := by
  have pair (a b : Char) (image : List Char) (loose : IsLoose [a, b]) (other : IsLoose image) :
      KeepsCuts (replacePair a b image) :=
    keepsCuts_of_respells (respells_replacePair loose other)
  have and_ := pair '&' '&' " and ".toList (by decide) (by decide)
  have or_ := pair '|' '|' " or ".toList (by decide) (by decide)
  have differs := pair '<' '>' "!=".toList (by decide) (by decide)
  have equals := keepsCuts_of_respells (respells_doubleEquals none)
  have not_ := keepsCuts_of_respells respells_spellNot
  have truths := keepsCuts_of_respells (respells_mapWords fun _ => isLoose_spellTruth)
  have calls := keepsCuts_of_respells (respells_mapWords fun _ => isLoose_spellCall)
  have choices := keepsCuts_of_respells (respells_spellIf true)
  exact (((((((and_.comp or_).comp differs).comp equals).comp not_).comp truths).comp calls).comp
    choices)

theorem normalizeChars_eq (cs : List Char) :
    normalizeChars cs = respelled normalizeCode (segments cs) := by
  have same : Segment.normalize = fun seg => (seg.respell normalizeCode).source := by
    funext seg
    cases seg <;> rfl
  rw [normalizeChars, respelled, List.flatMap_map, same]

end

/-- Normalising an expression rewrites the code between its literals and nothing else: the text
that comes of it is cut where the given one was, so it has the same literals, in the same order. -/
theorem segments_normalize (expression : String) :
    segments (normalize expression).toList =
        (segments expression.toList).map (·.respell normalizeCode) ∧
      literals (normalize expression).toList = literals expression.toList := by
  have cut := keepsCuts_normalizeCode _ _ (isCut_segments expression.toList)
  have same : segments (normalize expression).toList =
      (segments expression.toList).map (·.respell normalizeCode) := by
    rw [normalize, String.toList_ofList, normalizeChars_eq, cut.segments_eq]
  refine ⟨same, ?_⟩
  rw [literals, literals, same, List.filterMap_map]
  congr 1
  funext seg
  cases seg <;> rfl

end Flowline.Condition.Spelling

import Flowline.Condition.Spelling
import Flowline.Proofs.Text.Word
import Mathlib.Data.List.TakeWhile

/-!
# Spellings that are left alone

Each rewrite of a condition's spelling looks for a mark of its own and leaves a text alone in which
the mark does not occur. What stands between quotes is never looked at.
-/

namespace Flowline.Condition.Spelling

variable {c quote : Char} {cs body rest : List Char}

-- ---------------------------------------------------------------------------
-- Code and literals
-- ---------------------------------------------------------------------------

def IsQuote (c : Char) : Prop := c = '\'' ∨ c = '"'

theorem literalTail?_body (quoted : IsQuote quote) (plain : ∀ c ∈ body, c ≠ quote ∧ c ≠ '\\')
    (rest : List Char) : literalTail? quote (body ++ quote :: rest) = some (body.length + 1) := by
  have unescaped : quote ≠ '\\' := by rcases quoted with rfl | rfl <;> decide
  induction body with
  | nil => simp [literalTail?, unescaped]
  | cons c body ih =>
    obtain ⟨⟨other, simple⟩, further⟩ := List.forall_mem_cons.mp plain
    simp [literalTail?, other, simple, ih further]

theorem literalLength?_literal (quoted : IsQuote quote)
    (plain : ∀ c ∈ body, c ≠ quote ∧ c ≠ '\\') (rest : List Char) :
    literalLength? (quote :: (body ++ quote :: rest)) = some (body.length + 2) := by
  have tail := literalTail?_body quoted plain rest
  rcases quoted with rfl | rfl <;> simp [literalLength?, tail]

theorem literalLength?_code (code : ¬ IsQuote c) : literalLength? (c :: cs) = none := by
  simp only [IsQuote, not_or] at code
  simp [literalLength?, code.1, code.2]

theorem segmentsFrom_code (code : ∀ c ∈ cs, ¬ IsQuote c) (before rest : List Char) :
    segmentsFrom before (cs ++ rest) = segmentsFrom (cs.reverse ++ before) rest := by
  induction cs generalizing before with
  | nil => rfl
  | cons c cs ih =>
    obtain ⟨here, further⟩ := List.forall_mem_cons.mp code
    rw [List.cons_append, segmentsFrom, literalLength?_code here]
    simp [ih further]

theorem segmentsFrom_literal (quoted : IsQuote quote)
    (plain : ∀ c ∈ body, c ≠ quote ∧ c ≠ '\\') (before rest : List Char) :
    segmentsFrom before (quote :: (body ++ quote :: rest)) =
      .code before.reverse :: .literal (quote :: (body ++ [quote])) :: segmentsFrom [] rest := by
  have literal : (body ++ quote :: rest).take (body.length + 1) = body ++ [quote] := by
    rw [List.take_length_add_append, List.take_succ_cons, List.take_zero]
  rw [segmentsFrom, literalLength?_literal quoted plain]
  simp [literal]

theorem normalizeChars_code (code : ∀ c ∈ cs, ¬ IsQuote c) :
    normalizeChars cs = normalizeCode cs := by
  have whole := segmentsFrom_code code [] []
  rw [List.append_nil] at whole
  simp [normalizeChars, segments, whole, segmentsFrom, Segment.normalize]

theorem normalizeChars_literal (code : ∀ c ∈ cs, ¬ IsQuote c) (quoted : IsQuote quote)
    (plain : ∀ c ∈ body, c ≠ quote ∧ c ≠ '\\') (rest : List Char) :
    normalizeChars (cs ++ quote :: (body ++ quote :: rest)) =
      normalizeCode cs ++ (quote :: (body ++ [quote])) ++ normalizeChars rest := by
  simp [normalizeChars, segments, segmentsFrom_code code, segmentsFrom_literal quoted plain,
    Segment.normalize]

-- ---------------------------------------------------------------------------
-- The rewrites
-- ---------------------------------------------------------------------------

theorem replacePair_of_notMem {a b : Char} (absent : a ∉ cs) (image : List Char) :
    replacePair a b image cs = cs := by
  induction cs with
  | nil => rfl
  | cons c cs ih =>
    obtain ⟨other, further⟩ := not_or.mp (mt List.mem_cons.mpr absent)
    cases cs with
    | nil => rfl
    | cons d cs => simp [replacePair, Ne.symm other, ih further]

theorem doubleEquals_append (absent : '=' ∉ cs) (previous : Option Char) (rest : List Char) :
    doubleEquals previous (cs ++ rest) = cs ++ doubleEquals (cs.getLast?.or previous) rest := by
  induction cs generalizing previous with
  | nil => rfl
  | cons c cs ih =>
    obtain ⟨other, further⟩ := not_or.mp (mt List.mem_cons.mpr absent)
    simp [doubleEquals, Ne.symm other, ih further, List.getLast?_cons]

theorem spellNot_of_notMem (absent : '!' ∉ cs) : spellNot cs = cs := by
  induction cs with
  | nil => rfl
  | cons c cs ih =>
    obtain ⟨other, further⟩ := not_or.mp (mt List.mem_cons.mpr absent)
    simp [spellNot, Ne.symm other, ih further]

theorem mapWords_of_forall (f : (word following : List Char) → List Char)
    (gap : ∀ c ∈ cs, Text.isWord c = false) : mapWords f cs = cs := by
  induction cs with
  | nil => simp [mapWords]
  | cons c cs ih =>
    obtain ⟨here, further⟩ := List.forall_mem_cons.mp gap
    rw [mapWords, here, ih further]
    simp

theorem mapWords_append (f : (word following : List Char) → List Char) {word : List Char}
    (given : word ≠ []) (run : ∀ c ∈ word, Text.isWord c = true)
    (ends : ∀ c, rest.head? = some c → Text.isWord c = false) :
    mapWords f (word ++ rest) = f word rest ++ mapWords f rest := by
  cases word with
  | nil => exact absurd rfl given
  | cons c word =>
    obtain ⟨here, further⟩ := List.forall_mem_cons.mp run
    rw [List.cons_append, mapWords, here]
    simp [Text.takeWhile_run further ends, Text.dropWhile_run further ends]

theorem opensCall_of_notMem (absent : '(' ∉ cs) : opensCall cs = false := by
  have left : '(' ∉ cs.dropWhile Text.isBlank :=
    fun h => absent ((List.dropWhile_sublist _).mem h)
  unfold opensCall
  cases blank : cs.dropWhile Text.isBlank with
  | nil => rfl
  | cons c rest => grind

theorem ifCallLength?_of_notMem (absent : '(' ∉ cs) : ifCallLength? cs = none := by
  unfold ifCallLength?
  split
  · rename_i rest
    simp [opensCall_of_notMem (fun h => absent (by simp [h]) : '(' ∉ rest)]
  · rfl

theorem ifCallLength?_of_ne (other : c ≠ 'i') (rest : List Char) :
    ifCallLength? (c :: rest) = none := by
  simp [ifCallLength?, other]

theorem exists_of_ifCallLength? (found : ifCallLength? cs = some n) :
    ∃ blanks rest, cs = 'i' :: 'f' :: (blanks ++ '(' :: rest) ∧ n = blanks.length + 3 ∧
      ∀ c ∈ blanks, Text.isBlank c = true := by
  unfold ifCallLength? at found
  split at found
  · rename_i rest
    simp only [opensCall, Option.ite_none_right_eq_some, beq_iff_eq, Option.some.injEq] at found
    obtain ⟨opens, rfl⟩ := found
    obtain ⟨behind, split⟩ := List.head?_eq_some_iff.mp opens
    refine ⟨rest.takeWhile Text.isBlank, behind, ?_, rfl, fun _ => List.mem_takeWhile_imp⟩
    rw [← split, List.takeWhile_append_dropWhile]
  · cases found

theorem ifCallLength?_call {blanks : List Char} (blank : ∀ c ∈ blanks, Text.isBlank c = true)
    (rest : List Char) :
    ifCallLength? ('i' :: 'f' :: (blanks ++ '(' :: rest)) = some (blanks.length + 3) := by
  have ends : ∀ c, ('(' :: rest).head? = some c → Text.isBlank c = false := by
    rintro c ⟨⟩
    decide
  simp [ifCallLength?, opensCall, Text.takeWhile_run blank ends, Text.dropWhile_run blank ends]

theorem spellIf_call (found : ifCallLength? cs = some n) :
    spellIf true cs = choiceCall ++ spellIf false (cs.drop n) := by
  obtain ⟨blanks, rest, rfl, rfl, -⟩ := exists_of_ifCallLength? found
  rw [spellIf]
  simp [found]

/-- Where no call begins, the scan goes on as at the start behind a character that may precede a
call. -/
theorem spellIf_cons {atStart : Bool}
    (noCall : atStart = true → ifCallLength? (c :: rest) = none) :
    spellIf atStart (c :: rest) = c :: spellIf (precedesIf c) rest := by
  have here : (if atStart = true then ifCallLength? (c :: rest) else none) = none := by
    split
    · exact noCall ‹_›
    · rfl
  rw [spellIf, here]
  cases precedes : precedesIf c with
  | false => rfl
  | true =>
    cases found : ifCallLength? rest with
    | some n => simp [spellIf_call found]
    | none =>
      cases rest with
      | nil => simp [spellIf]
      | cons d rest =>
        rw [spellIf.eq_def false, spellIf.eq_def true]
        simp [found]

theorem spellIf_of_notMem (absent : '(' ∉ cs) (atStart : Bool) : spellIf atStart cs = cs := by
  induction cs generalizing atStart with
  | nil => simp [spellIf]
  | cons c cs ih =>
    have further : '(' ∉ cs := fun h => absent (List.mem_cons_of_mem _ h)
    rw [spellIf, ifCallLength?_of_notMem absent, ifCallLength?_of_notMem further, ih further]
    simp

-- ---------------------------------------------------------------------------
-- Names
-- ---------------------------------------------------------------------------

theorem isSpelling_iff {word : List Char} (small : ∀ c ∈ cs, c.toNat < 128) :
    isSpelling word cs = true ↔ cs.map Text.lowerAscii = word.map Text.lowerAscii := by
  unfold isSpelling
  induction cs generalizing word with
  | nil => cases word <;> simp
  | cons c cs ih =>
    obtain ⟨here, further⟩ := List.forall_mem_cons.mp small
    cases word with
    | nil => simp
    | cons d word =>
      have tail := @ih word further
      simp [Text.sameLetter_eq here] at tail ⊢
      grind

def IsNoTruth (cs : List Char) : Prop :=
  cs.map Text.lowerAscii ≠ "true".toList ∧ cs.map Text.lowerAscii ≠ "false".toList

instance : Decidable (IsNoTruth cs) := inferInstanceAs (Decidable (_ ∧ _))

theorem spellTruth_of_isNoTruth (small : ∀ c ∈ cs, c.toNat < 128) (other : IsNoTruth cs)
    (following : List Char) : spellTruth cs following = cs := by
  have noTrue : ¬ isSpelling "true".toList cs = true := fun h =>
    other.1 ((isSpelling_iff small).mp h)
  have noFalse : ¬ isSpelling "false".toList cs = true := fun h =>
    other.2 ((isSpelling_iff small).mp h)
  rw [spellTruth, if_neg noTrue, if_neg noFalse]

theorem normalizeCode_name {name gap : List Char} (isName : Text.isAsciiName name = true)
    (noTruth : IsNoTruth name)
    (quiet : ∀ c ∈ gap, Text.isWord c = false ∧ c ∉ ['&', '|', '<', '!', '('])
    (paired : ∀ previous, doubleEquals previous gap = gap) :
    normalizeCode (name ++ gap) = name ++ gap := by
  have word := Text.isAsciiWord_of_isAsciiName isName
  have absent (mark : Char) (other : Text.isAsciiWord mark = false)
      (listed : mark ∈ ['&', '|', '<', '!', '(']) : mark ∉ name ++ gap := by
    intro found
    rcases List.mem_append.mp found with inName | inGap
    · exact Text.ne_of_isAsciiWord (word mark inName) other rfl
    · exact (quiet mark inGap).2 listed
  have small : ∀ c ∈ name, c.toNat < 128 := by
    intro c h
    have range := Text.isAsciiWord_range (word c h)
    omega
  have equals : '=' ∉ name := fun found => Text.ne_of_isAsciiWord (word _ found) (by decide) rfl
  have run : ∀ c ∈ name, Text.isWord c = true :=
    fun c h => Text.isWord_of_isAsciiWord (word c h)
  have ends : ∀ c, gap.head? = some c → Text.isWord c = false :=
    fun c h => (quiet c (List.mem_of_head? h)).1
  have kept (f : (word following : List Char) → List Char) (same : f name gap = name) :
      mapWords f (name ++ gap) = name ++ gap := by
    rw [mapWords_append f (Text.ne_nil_of_isAsciiName isName) run ends, same,
      mapWords_of_forall f fun c h => (quiet c h).1]
  have call : spellCall name gap = name := by
    unfold spellCall
    split
    · rw [opensCall_of_notMem fun h => absent '(' rfl (by simp) (List.mem_append_right _ h)]
      simp
    · rfl
  unfold normalizeCode
  simp only [replacePair_of_notMem (absent '&' rfl (by simp)),
    replacePair_of_notMem (absent '|' rfl (by simp)),
    replacePair_of_notMem (absent '<' rfl (by simp)), doubleEquals_append equals, paired,
    spellNot_of_notMem (absent '!' rfl (by simp))]
  rw [kept spellTruth (spellTruth_of_isNoTruth small noTruth gap), kept spellCall call,
    spellIf_of_notMem (absent '(' rfl (by simp))]

end Flowline.Condition.Spelling

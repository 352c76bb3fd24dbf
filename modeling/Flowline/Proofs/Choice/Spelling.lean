import Flowline.Proofs.Choice.Piece

/-!
# Spelling a choice

What normalising makes of a row of pieces: truth values get a capital and every call gets the name
that the grammar knows. Each rewrite is followed along the row; between two texts the row is code,
and no other rewrite finds anything to do there.
-/

namespace Flowline.Condition

open Spelling

def Leaf.spelled : Leaf → List Char
  | .truth b => if b then "True".toList else "False".toList
  | l => l.source

namespace Piece

/-- A piece in which the truth values are spelled, but not yet the calls. -/
def halfway : Piece → List Char
  | .leaf l => l.spelled
  | p => p.source

def spelled : Piece → List Char
  | .opening => choiceCall
  | p => p.halfway

def IsCode : Piece → Prop
  | .leaf l => ¬ l.IsText
  | _ => True

end Piece

def Choice.spelled (t : Choice) : List Char := (t.pieces []).flatMap Piece.spelled

-- ---------------------------------------------------------------------------
-- Plain values
-- ---------------------------------------------------------------------------

theorem isDigit_range {c : Char} (digit : Text.isDigit c = true) : 48 ≤ c.toNat ∧ c.toNat ≤ 57 := by
  simp only [Text.isDigit, Bool.and_eq_true, decide_eq_true_eq, Char.le_def,
    UInt32.le_iff_toNat_le] at digit
  exact digit

theorem lowerAscii_of_isDigit {c : Char} (digit : Text.isDigit c = true) :
    Text.lowerAscii c = c := by
  have range := isDigit_range digit
  refine if_neg fun upper => ?_
  simp only [Bool.and_eq_true, decide_eq_true_eq, Char.le_def, UInt32.le_iff_toNat_le] at upper
  have low : 65 ≤ c.toNat := upper.1
  omega

theorem isAsciiWord_of_isDigit {c : Char} (digit : Text.isDigit c = true) :
    Text.isAsciiWord c = true := by
  simp [Text.isAsciiWord, digit]

namespace Numeral

theorem exists_digit (n : Numeral) : ∃ c rest, n.source = c :: rest ∧ Text.isDigit c = true := by
  obtain ⟨first, more, given, digits, -⟩ := n
  cases first with
  | nil => exact absurd rfl given
  | cons c first => exact ⟨c, _, rfl, digits _ List.mem_cons_self c List.mem_cons_self⟩

theorem digit_or_join (n : Numeral) : ∀ c ∈ n.source, Text.isDigit c = true ∨ c = '_' := by
  obtain ⟨digits, further⟩ := List.forall_mem_cons.mp n.digits
  refine List.forall_mem_append.mpr ⟨fun c listed => .inl (digits c listed), ?_⟩
  intro c listed
  obtain ⟨group, inMore, here⟩ := List.mem_flatMap.mp listed
  rcases List.mem_cons.mp here with join | inGroup
  · exact .inr join
  · exact .inl (further group inMore c inGroup)

theorem isAsciiWord_source (n : Numeral) : ∀ c ∈ n.source, Text.isAsciiWord c = true := by
  intro c listed
  rcases n.digit_or_join c listed with digit | rfl
  · exact isAsciiWord_of_isDigit digit
  · decide

end Numeral

namespace Leaf

variable {l : Leaf}

theorem isAsciiWord_source (code : ¬ l.IsText) : ∀ c ∈ l.source, Text.isAsciiWord c = true := by
  cases l with
  | number n => exact n.isAsciiWord_source
  | truth b => cases b <;> decide
  | text q => exact absurd trivial code

theorem isAsciiWord_spelled (code : ¬ l.IsText) : ∀ c ∈ l.spelled, Text.isAsciiWord c = true := by
  cases l with
  | number n => exact n.isAsciiWord_source
  | truth b => cases b <;> decide
  | text q => exact absurd trivial code

theorem source_ne_nil (code : ¬ l.IsText) : l.source ≠ [] := by
  cases l with
  | number n =>
    obtain ⟨c, rest, cons, -⟩ := n.exists_digit
    simp [source, cons]
  | truth b => cases b <;> decide
  | text q => exact absurd trivial code

theorem exists_spelled (code : ¬ l.IsText) : ∃ c rest, l.spelled = c :: rest ∧ c ≠ 'i' := by
  cases l with
  | number n =>
    obtain ⟨c, rest, cons, digit⟩ := n.exists_digit
    refine ⟨c, rest, cons, ?_⟩
    rintro rfl
    exact absurd digit (by decide)
  | truth b => cases b <;> exact ⟨_, _, rfl, by decide⟩
  | text q => exact absurd trivial code

theorem spellTruth_source (code : ¬ l.IsText) (following : List Char) :
    spellTruth l.source following = l.spelled := by
  cases l with
  | number n =>
    have small : ∀ d ∈ n.source, d.toNat < 128 := fun d listed => by
      have wordRange := Text.isAsciiWord_range (n.isAsciiWord_source d listed)
      omega
    refine spellTruth_of_isNoTruth small ?_ following
    obtain ⟨c, rest, cons, digit⟩ := n.exists_digit
    have other (d : Char) (apart : Text.isDigit d = false) : c ≠ d := by
      rintro rfl
      rw [digit] at apart
      cases apart
    simp [IsNoTruth, cons, lowerAscii_of_isDigit digit, other 't' rfl, other 'f' rfl]
  | truth b => cases b <;> rfl
  | text q => exact absurd trivial code

end Leaf

-- ---------------------------------------------------------------------------
-- Words
-- ---------------------------------------------------------------------------

namespace Piece

/-- A way to write pieces down in which every value of the code is a word. -/
structure IsRow (write : Piece → List Char) : Prop where
  opening : write .opening = "if(".toList
  space : write .space = [' ']
  comma : write .comma = [',']
  closing : write .closing = [')']
  given : ∀ l : Leaf, ¬ l.IsText → write (.leaf l) ≠ []
  word : ∀ l : Leaf, ¬ l.IsText → ∀ c ∈ write (.leaf l), Text.isAsciiWord c = true

theorem isRow_source : IsRow source where
  opening := rfl
  space := rfl
  comma := rfl
  closing := rfl
  given _ := Leaf.source_ne_nil
  word _ := Leaf.isAsciiWord_source

theorem isRow_halfway : IsRow halfway where
  opening := rfl
  space := rfl
  comma := rfl
  closing := rfl
  given l code := by
    obtain ⟨c, rest, cons, -⟩ := Leaf.exists_spelled code
    simp [halfway, cons]
  word _ := Leaf.isAsciiWord_spelled

variable {write : Piece → List Char} {last : Last} {ps : List Piece}

theorem opensCall_row (row : IsRow write) (code : ∀ p ∈ ps, p.IsCode) :
    opensCall (ps.flatMap write) = false := by
  induction ps with
  | nil => rfl
  | cons p ps ih =>
    obtain ⟨here, further⟩ := List.forall_mem_cons.mp code
    cases p with
    | space =>
      have blank : Text.isBlank ' ' = true := by decide
      have closed := ih further
      simp only [opensCall] at closed ⊢
      simpa [row.space, List.dropWhile_cons, blank] using closed
    | opening => simp [row.opening, opensCall, Text.isBlank]
    | comma => simp [row.comma, opensCall, Text.isBlank]
    | closing => simp [row.closing, opensCall, Text.isBlank]
    | leaf l =>
      cases cons : write (.leaf l) with
      | nil => exact absurd cons (row.given l here)
      | cons c rest =>
        have word : Text.isAsciiWord c = true := row.word l here c (cons ▸ List.mem_cons_self)
        have other : c ≠ '(' := Text.ne_of_isAsciiWord word (by decide)
        simp [opensCall, cons, Text.isBlank_of_isAsciiWord word, other]

theorem notWord_row (row : IsRow write) (follow : Follow .value ps) :
    ∀ c, (ps.flatMap write).head? = some c → Text.isWord c = false := by
  intro c head
  cases ps with
  | nil => cases head
  | cons p ps =>
    cases p with
    | opening => exact absurd follow.1 nofun
    | leaf l => exact absurd rfl follow.1
    | space =>
      obtain rfl : ' ' = c := by simpa [row.space] using head
      decide
    | comma =>
      obtain rfl : ',' = c := by simpa [row.comma] using head
      decide
    | closing =>
      obtain rfl : ')' = c := by simpa [row.closing] using head
      decide

/-- Along a row a rewrite of words goes from word to word. -/
theorem mapWords_row {f : (word following : List Char) → List Char} {image : Piece → List Char}
    (row : IsRow write) (image_row : IsRow image)
    (call : ∀ following, f "if".toList ('(' :: following) = "if".toList)
    (value : ∀ l : Leaf, ¬ l.IsText → ∀ following, opensCall following = false →
      f (write (.leaf l)) following = image (.leaf l))
    (code : ∀ p ∈ ps, p.IsCode) (follow : Follow last ps) :
    mapWords f (ps.flatMap write) = ps.flatMap image := by
  have skip (c : Char) (gap : Text.isWord c = false) (rest : List Char) :
      mapWords f (c :: rest) = c :: mapWords f rest := by
    rw [mapWords, gap]
    simp
  induction ps generalizing last with
  | nil => simp [mapWords]
  | cons p ps ih =>
    obtain ⟨here, further⟩ := List.forall_mem_cons.mp code
    rw [List.flatMap_cons, List.flatMap_cons]
    cases p with
    | opening =>
      have name : mapWords f ("if".toList ++ '(' :: ps.flatMap write) =
          "if".toList ++ '(' :: mapWords f (ps.flatMap write) := by
        rw [mapWords_append f (by decide) (by decide) (by rintro _ ⟨⟩; decide), call,
          skip '(' (by decide)]
      rw [row.opening, image_row.opening, ← ih further follow.2]
      exact name
    | leaf l =>
      have run (c : Char) (listed : c ∈ write (.leaf l)) : Text.isWord c = true :=
        Text.isWord_of_isAsciiWord (row.word l here c listed)
      rw [mapWords_append f (row.given l here) run (notWord_row row follow.2),
        value l here _ (opensCall_row row further), ih further follow.2]
    | space =>
      rw [row.space, image_row.space, List.singleton_append, skip ' ' (by decide),
        ih further follow]
      rfl
    | comma =>
      rw [row.comma, image_row.comma, List.singleton_append, skip ',' (by decide),
        ih further follow]
      rfl
    | closing =>
      rw [row.closing, image_row.closing, List.singleton_append, skip ')' (by decide),
        ih further follow]
      rfl

-- ---------------------------------------------------------------------------
-- Calls
-- ---------------------------------------------------------------------------

theorem spellIf_cons {c : Char} (precedes : precedesIf c = true) (other : c ≠ 'i')
    (atStart : Bool) (rest : List Char) :
    spellIf atStart (c :: rest) = c :: spellIf true rest := by
  rw [Spelling.spellIf_cons fun _ => ifCallLength?_of_ne other rest, precedes]

theorem spellIf_call (rest : List Char) :
    spellIf true ("if(".toList ++ rest) = choiceCall ++ spellIf false rest :=
  Spelling.spellIf_call (@ifCallLength?_call [] (by simp) rest)

theorem spellIf_quiet {c : Char} (quiet : precedesIf c = false) (other : c ≠ 'i')
    (atStart : Bool) (rest : List Char) :
    spellIf atStart (c :: rest) = c :: spellIf false rest := by
  rw [Spelling.spellIf_cons fun _ => ifCallLength?_of_ne other rest, quiet]

theorem precedesIf_of_isAsciiWord {c : Char} (word : Text.isAsciiWord c = true) :
    precedesIf c = false := by
  have blank := Text.isBlank_of_isAsciiWord word
  have absent : ("(,=!<>&|+-*/%".toList.contains c) = false := by
    refine List.contains_eq_mem .. |>.trans (decide_eq_false fun listed => ?_)
    have none : ∀ d ∈ "(,=!<>&|+-*/%".toList, Text.isAsciiWord d = false := by decide
    rw [none c listed] at word
    cases word
  rw [precedesIf, blank, absent]
  rfl

theorem spellIf_word {c : Char} {word : List Char} (other : c ≠ 'i')
    (run : ∀ d ∈ c :: word, Text.isAsciiWord d = true) (atStart : Bool) (rest : List Char) :
    spellIf atStart (c :: word ++ rest) = c :: word ++ spellIf false rest := by
  obtain ⟨here, further⟩ := List.forall_mem_cons.mp run
  rw [List.cons_append, spellIf_quiet (precedesIf_of_isAsciiWord here) other, List.cons_append]
  congr 1
  clear other run here
  induction word with
  | nil => rfl
  | cons d word ih =>
    obtain ⟨here, further⟩ := List.forall_mem_cons.mp further
    rw [List.cons_append, spellIf, precedesIf_of_isAsciiWord here]
    simpa using ih further

theorem spellIf_halfway {atStart : Bool} (code : ∀ p ∈ ps, p.IsCode) (follow : Follow last ps)
    (free : ps.head? = some .opening → atStart = true) :
    spellIf atStart (ps.flatMap halfway) = ps.flatMap spelled := by
  -- right behind a call or a value there is no call, so that the scan may go on inside
  have inside {last : Last} (ps : List Piece) (apart : last ≠ .gap) (follow : Follow last ps) :
      ps.head? = some .opening → false = true := fun opens =>
    absurd opens (head?_ne_opening apart follow)
  induction ps generalizing last atStart with
  | nil => simp [spellIf]
  | cons p ps ih =>
    obtain ⟨here, further⟩ := List.forall_mem_cons.mp code
    rw [List.flatMap_cons, List.flatMap_cons]
    cases p with
    | opening =>
      obtain rfl := free rfl
      rw [← ih further follow.2 (inside ps (by decide) follow.2)]
      exact spellIf_call _
    | leaf l =>
      obtain ⟨c, word, cons, other⟩ := Leaf.exists_spelled here
      have run := cons ▸ Leaf.isAsciiWord_spelled here
      rw [← ih further follow.2 (inside ps (by decide) follow.2)]
      show spellIf atStart (l.spelled ++ _) = l.spelled ++ _
      rw [cons, spellIf_word other run]
    | space =>
      exact (spellIf_cons rfl (by decide) atStart _).trans
        (congrArg _ (ih further follow fun _ => rfl))
    | comma =>
      exact (spellIf_cons rfl (by decide) atStart _).trans
        (congrArg _ (ih further follow fun _ => rfl))
    | closing =>
      exact (spellIf_quiet rfl (by decide) atStart _).trans
        (congrArg _ (ih further follow (@inside .value ps (by decide) follow)))

end Piece

-- ---------------------------------------------------------------------------
-- Whole rows
-- ---------------------------------------------------------------------------

namespace Piece

variable {last : Last} {ps : List Piece}

theorem notMem_source {c : Char} (other : Text.isAsciiWord c = false)
    (absent : c ∉ ['(', ' ', ',', ')']) (code : ∀ p ∈ ps, p.IsCode) :
    c ∉ ps.flatMap source := by
  intro listed
  obtain ⟨p, inRow, here⟩ := List.mem_flatMap.mp listed
  simp only [List.mem_cons, List.not_mem_nil, or_false, not_or] at absent
  obtain ⟨opens, space, comma, closes⟩ := absent
  cases p with
  | leaf l =>
    exact absurd (Leaf.isAsciiWord_source (code _ inRow) c here) (by simp [other])
  | opening =>
    have listed : ∀ d ∈ "if(".toList, Text.isAsciiWord d = true ∨ d = '(' := by decide
    rcases listed c here with word | same
    · exact absurd word (by simp [other])
    · exact opens same
  | space => exact space (List.mem_singleton.mp here)
  | comma => exact comma (List.mem_singleton.mp here)
  | closing => exact closes (List.mem_singleton.mp here)

theorem doubleEquals_of_notMem {cs : List Char} (absent : '=' ∉ cs) (previous : Option Char) :
    doubleEquals previous cs = cs := by
  have whole := doubleEquals_append absent previous []
  simpa [doubleEquals] using whole

theorem exists_text {p : Piece} (other : ¬ p.IsCode) : ∃ q, p = .leaf (.text q) := by
  cases p with
  | leaf l =>
    cases l with
    | text q => exact ⟨q, rfl⟩
    | _ => exact absurd id other
  | _ => exact absurd trivial other

theorem spellCall_if (rest : List Char) : spellCall "if".toList ('(' :: rest) = "if".toList := by
  have opens : opensCall ('(' :: rest) = true := by simp [opensCall, Text.isBlank]
  simp only [spellCall, opens]
  decide

theorem spellCall_of_not_opensCall (word : List Char) {following : List Char}
    (closed : opensCall following = false) : spellCall word following = word := by
  unfold spellCall
  split
  · rw [closed, Bool.and_false]
    rfl
  · rfl

theorem normalizeCode_row (code : ∀ p ∈ ps, p.IsCode) (follow : Follow last ps) :
    normalizeCode (ps.flatMap source) = ps.flatMap spelled := by
  have absent {c : Char} (other : Text.isAsciiWord c = false)
      (apart : c ∉ ['(', ' ', ',', ')']) := notMem_source other apart code
  have truths : mapWords spellTruth (ps.flatMap source) = ps.flatMap halfway :=
    mapWords_row isRow_source isRow_halfway (fun _ => rfl)
      (fun l plain following _ => Leaf.spellTruth_source plain following) code follow
  have calls : mapWords spellCall (ps.flatMap halfway) = ps.flatMap halfway :=
    mapWords_row isRow_halfway isRow_halfway (fun _ => spellCall_if _)
      (fun l plain following closed => spellCall_of_not_opensCall _ closed) code follow
  unfold normalizeCode
  simp only [replacePair_of_notMem (absent (c := '&') rfl (by decide)),
    replacePair_of_notMem (absent (c := '|') rfl (by decide)),
    replacePair_of_notMem (absent (c := '<') rfl (by decide)),
    doubleEquals_of_notMem (absent (c := '=') rfl (by decide)),
    spellNot_of_notMem (absent (c := '!') rfl (by decide)), truths, calls]
  exact spellIf_halfway code follow fun _ => rfl

theorem normalizeChars_row {before : List Piece} (code : ∀ p ∈ before, p.IsCode)
    (follow : Follow last (before ++ ps)) :
    normalizeChars ((before ++ ps).flatMap source) = (before ++ ps).flatMap spelled := by
  have isCode {ps : List Piece} (code : ∀ p ∈ ps, p.IsCode) :
      ∀ c ∈ ps.flatMap source, ¬ IsQuote c := by
    rintro c listed (rfl | rfl)
    · exact notMem_source rfl (by decide) code listed
    · exact notMem_source rfl (by decide) code listed
  induction ps generalizing last before with
  | nil =>
    rw [List.append_nil] at follow ⊢
    rw [normalizeChars_code (isCode code), normalizeCode_row code follow]
  | cons p ps ih =>
    by_cases plain : p.IsCode
    · rw [List.append_cons] at follow ⊢
      exact ih (List.forall_mem_append.mpr ⟨code, by simpa using plain⟩) follow
    · obtain ⟨q, rfl⟩ := exists_text plain
      obtain ⟨_, behind⟩ := follow.right
      have noQuote (c : Char) (listed : c ∈ q.body) : c ≠ q.quote ∧ c ≠ '\\' := by
        obtain ⟨other, unescaped⟩ := q.plain c listed
        exact ⟨fun same => other (same ▸ q.quoted), unescaped⟩
      have further := @ih .value [] nofun behind.2
      have literal := normalizeChars_literal (isCode code) q.quoted noQuote (ps.flatMap source)
      rw [normalizeCode_row code follow.left] at literal
      rw [List.nil_append] at further
      rw [further] at literal
      simpa [source, spelled, halfway, Leaf.source, Leaf.spelled, Quotation.source] using literal

end Piece

theorem Choice.normalizeChars_source (t : Choice) (spaced : t.IsSpaced) :
    normalizeChars t.source = t.spelled := by
  have follow : Piece.Follow .gap ([] ++ t.pieces []) :=
    t.follow_pieces spaced (by decide) (fun _ => rfl) fun _ => trivial
  have code : ∀ p ∈ ([] : List Piece), p.IsCode := nofun
  exact Piece.normalizeChars_row code follow

end Flowline.Condition

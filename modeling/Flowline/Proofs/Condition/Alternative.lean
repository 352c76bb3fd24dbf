import Flowline.Proofs.Condition.Spacing

/-!
# Alternative spellings

An operator may be written in one of two spellings, and truth values and the names of functions in
any letter case. A condition whose tokens stand apart is normalised to the same text whichever
spelling each token has, up to the number of blanks between tokens.
-/

namespace Flowline.Condition.Spelling

-- ---------------------------------------------------------------------------
-- Tidy texts
-- ---------------------------------------------------------------------------

/-- One space for each run of blanks; `behind` says whether a blank comes before. -/
def squeeze (behind : Bool) : List Char → List Char
  | [] => []
  | c :: rest =>
    if Text.isBlank c then if behind then squeeze true rest else ' ' :: squeeze true rest
    else c :: squeeze false rest

/-- A text without blanks at its ends, and with one space for each run of blanks between its ends
that is not in a literal. -/
def tidy (cs : List Char) : List Char := Text.trimBoth (respelled (squeeze false) (segments cs))

section

variable {loose : Bool} {cs ds gap : List Char}

theorem squeeze_gap (given : gap ≠ []) (blank : IsGap gap) (behind : Bool) (rest : List Char) :
    squeeze behind (gap ++ rest) = (if behind then [] else [' ']) ++ squeeze true rest := by
  induction gap generalizing behind with
  | nil => exact absurd rfl given
  | cons c gap ih =>
    obtain ⟨here, further⟩ := List.forall_mem_cons.mp blank
    by_cases last : gap = []
    · cases behind <;> simp [squeeze, here, last]
    · cases behind <;> simp [squeeze, here, ih last further]

theorem isGap_squeeze (blank : IsGap gap) (behind : Bool) : IsGap (squeeze behind gap) := by
  cases gap with
  | nil => exact blank
  | cons c gap =>
    have whole := squeeze_gap (List.cons_ne_nil c gap) blank behind []
    rw [List.append_nil] at whole
    rw [whole]
    cases behind <;> simp [squeeze, IsGap, Text.isBlank]

theorem Spaced.squeeze (spaced : Spaced loose cs ds) (behind : Bool) :
    ∃ front gap gap', squeeze behind cs = front ++ gap ∧ squeeze behind ds = front ++ gap' ∧
      IsGap gap ∧ IsGap gap' ∧ (loose = false → gap = [] ∧ gap' = []) := by
  induction spaced generalizing behind with
  | @last gap gap' blank blank' tight =>
    refine ⟨[], _, _, rfl, rfl, isGap_squeeze blank behind, isGap_squeeze blank' behind, ?_⟩
    intro h
    obtain ⟨rfl, rfl⟩ := tight h
    exact ⟨rfl, rfl⟩
  | keep c _ ih =>
    simp only [Spelling.squeeze]
    split
    · split
      · exact ih true
      · obtain ⟨front, gap, gap', left, right, ends⟩ := ih true
        exact ⟨' ' :: front, gap, gap', by rw [left]; rfl, by rw [right]; rfl, ends⟩
    · obtain ⟨front, gap, gap', left, right, ends⟩ := ih false
      exact ⟨c :: front, gap, gap', by rw [left]; rfl, by rw [right]; rfl, ends⟩
  | blanks given given' blank blank' _ ih =>
    obtain ⟨front, gap, gap', left, right, ends⟩ := ih true
    refine ⟨(if behind then [] else [' ']) ++ front, gap, gap', ?_, ?_, ends⟩
    · rw [squeeze_gap given blank, left, List.append_assoc]
    · rw [squeeze_gap given' blank', right, List.append_assoc]

theorem trimBoth_append_gap (blank : IsGap gap) (cs : List Char) :
    Text.trimBoth (cs ++ gap) = Text.trimBoth cs := by
  have gone : gap.dropWhile Text.isBlank = [] := List.dropWhile_eq_nil_iff.mpr blank
  have back : ∀ c ∈ gap.reverse, Text.isBlank c = true :=
    fun c h => blank c (List.mem_reverse.mp h)
  rw [Text.trimBoth, Text.trimBoth, Text.trimLeft, Text.trimLeft, List.dropWhile_append]
  split
  · rename_i empty
    rw [gone, List.isEmpty_iff.mp empty]
  · rw [Text.trimRight, Text.trimRight, List.reverse_append, List.dropWhile_append_of_pos back]

theorem respelled_literal (f : List Char → List Char) (code literal : List Char)
    (segs : List Segment) :
    respelled f (.code code :: .literal literal :: segs) =
      f code ++ (literal ++ respelled f segs) := by
  simp [respelled, Segment.respell, Segment.source]

theorem respelled_code (f : List Char → List Char) (code : List Char) (segs : List Segment) :
    respelled f (.code code :: segs) = f code ++ respelled f segs := by
  simp [respelled, Segment.respell, Segment.source]

/-- A text that is normalised is cut where the text is, so that it can be tidied piece by piece. -/
theorem tidy_normalizeChars (cs : List Char) :
    tidy (normalizeChars cs) =
      Text.trimBoth (respelled (squeeze false ∘ normalizeCode) (segments cs)) := by
  have cut := keepsCuts_normalizeCode _ _ (isCut_segments cs)
  have both : (segments cs).map (·.respell (squeeze false ∘ normalizeCode)) =
      ((segments cs).map (·.respell normalizeCode)).map (·.respell (squeeze false)) := by
    rw [List.map_map]
    refine List.map_congr_left fun seg _ => ?_
    cases seg <;> rfl
  rw [tidy, normalizeChars_eq, cut.segments_eq, respelled, respelled, both]

-- ---------------------------------------------------------------------------
-- Operators
-- ---------------------------------------------------------------------------

def spellMarks (cs : List Char) : List Char :=
  spellNot <| doubleEquals none <| replacePair '<' '>' "!=".toList <|
    replacePair '|' '|' " or ".toList <| replacePair '&' '&' " and ".toList cs

theorem normalizeCode_eq (cs : List Char) :
    normalizeCode cs = spellIf true (mapWords spellWord (spellMarks cs)) := by
  rw [← mapWords_spellCall_spellTruth]
  rfl

theorem replacePair_space {a b : Char} (first : ' ' ≠ a) (second : ' ' ≠ b)
    (image cs rest : List Char) :
    replacePair a b image (cs ++ ' ' :: rest) =
      replacePair a b image cs ++ ' ' :: replacePair a b image rest := by
  have space : replacePair a b image (' ' :: rest) = ' ' :: replacePair a b image rest := by
    cases rest <;> simp [replacePair, first]
  fun_induction replacePair a b image cs with
  | case1 => exact space
  | case2 c =>
    rw [List.singleton_append, replacePair, if_neg fun found => second found.2, space]
    rfl
  | case3 c d cs found ih =>
    rw [List.cons_append, List.cons_append, replacePair, if_pos found, ih, List.append_assoc]
  | case4 c d cs other ih =>
    rw [List.cons_append] at ih
    rw [List.cons_append, List.cons_append, replacePair, if_neg other, ih]
    rfl

theorem doubleEquals_space (previous : Option Char) (cs rest : List Char) :
    doubleEquals previous (cs ++ ' ' :: rest) =
      doubleEquals previous cs ++ ' ' :: doubleEquals none rest := by
  induction cs generalizing previous with
  | nil =>
    cases rest with
    | nil => simp [doubleEquals]
    | cons d rest => simp [doubleEquals]
  | cons c cs ih =>
    have next : (cs ++ ' ' :: rest).head? = some '=' ↔ cs.head? = some '=' := by
      cases cs <;> simp
    simp only [List.cons_append, doubleEquals, ne_eq, next, ih]
    split <;> rfl

theorem spellNot_space (cs rest : List Char) :
    spellNot (cs ++ ' ' :: rest) = spellNot cs ++ ' ' :: spellNot rest := by
  induction cs with
  | nil => simp [spellNot]
  | cons c cs ih =>
    have next : (cs ++ ' ' :: rest).head? = some '=' ↔ cs.head? = some '=' := by
      cases cs <;> simp
    simp only [List.cons_append, spellNot, ne_eq, next, ih]
    split <;> simp

theorem spellMarks_space (cs rest : List Char) :
    spellMarks (cs ++ ' ' :: rest) = spellMarks cs ++ ' ' :: spellMarks rest := by
  simp only [spellMarks, replacePair_space (by decide : ' ' ≠ '&') (by decide : ' ' ≠ '&'),
    replacePair_space (by decide : ' ' ≠ '|') (by decide : ' ' ≠ '|'),
    replacePair_space (by decide : ' ' ≠ '<') (by decide : ' ' ≠ '>'), doubleEquals_space,
    spellNot_space]

def marks : List Char := ['&', '|', '!', '=', '<', '>']

theorem spellMarks_of_forall (quiet : ∀ c ∈ cs, c ∉ marks) : spellMarks cs = cs := by
  have absent (mark : Char) (listed : mark ∈ marks) : mark ∉ cs :=
    fun found => quiet mark found listed
  have equals := doubleEquals_append (absent '=' (by decide)) none []
  rw [List.append_nil] at equals
  simp only [spellMarks, replacePair_of_notMem (absent '&' (by decide)),
    replacePair_of_notMem (absent '|' (by decide)),
    replacePair_of_notMem (absent '<' (by decide)), equals, doubleEquals, List.append_nil,
    spellNot_of_notMem (absent '!' (by decide))]

-- ---------------------------------------------------------------------------
-- Words
-- ---------------------------------------------------------------------------

structure SameCase (word word' : List Char) : Prop where
  name : Text.isAsciiName word = true
  name' : Text.isAsciiName word' = true
  lower : word.map Text.lowerAscii = word'.map Text.lowerAscii

def truthWords : List (List Char) := ["true".toList, "false".toList]

theorem toNat_lt_of_isAsciiName (name : Text.isAsciiName cs = true) : ∀ c ∈ cs, c.toNat < 128 := by
  intro c h
  have range := Text.isAsciiWord_range (Text.isAsciiWord_of_isAsciiName name c h)
  omega

theorem spellTruth_of_isAsciiName (name : Text.isAsciiName cs = true) (following : List Char) :
    spellTruth cs following =
      if cs.map Text.lowerAscii = "true".toList then "True".toList
      else if cs.map Text.lowerAscii = "false".toList then "False".toList
      else cs := by
  have small := toNat_lt_of_isAsciiName name
  simp only [spellTruth, isSpelling_iff small]
  rfl

theorem SameCase.spellTruth {word word' : List Char} (same : SameCase word word')
    (truth : word.map Text.lowerAscii ∈ truthWords) (following following' : List Char) :
    spellTruth word following = spellTruth word' following' := by
  rw [spellTruth_of_isAsciiName same.name, spellTruth_of_isAsciiName same.name', ← same.lower]
  simp only [truthWords, List.mem_cons, List.not_mem_nil, or_false] at truth
  rcases truth with truth | truth <;> simp only [truth] <;> rfl

theorem spellCall_of_isAsciiName (name : Text.isAsciiName cs = true) {following : List Char}
    (opens : opensCall following = true) :
    spellCall cs following = cs.map Text.lowerAscii := by
  cases cs with
  | nil => cases name
  | cons c cs =>
    have first : (Text.isAsciiLetter c || c == '_') = true := by
      simp only [Text.isAsciiName, Bool.and_eq_true] at name
      exact name.1
    simp only [spellCall, first, opens, Bool.and_self, if_true]
    exact Text.lowerFrom_ascii (toNat_lt_of_isAsciiName name) []

theorem SameCase.spellWord {word word' following following' : List Char}
    (same : SameCase word word') (opens : opensCall following = true)
    (opens' : opensCall following' = true) :
    spellWord word following = spellWord word' following' := by
  by_cases truth : word.map Text.lowerAscii ∈ truthWords
  · rw [Spelling.spellWord, Spelling.spellWord, same.spellTruth truth following following',
      spellCall_congr _ (opens.trans opens'.symm)]
  · simp only [truthWords, List.mem_cons, List.not_mem_nil, or_false, not_or] at truth
    have other (cs following : List Char) (name : Text.isAsciiName cs = true)
        (lower : word.map Text.lowerAscii = cs.map Text.lowerAscii) :
        Spelling.spellTruth cs following = cs := by
      rw [spellTruth_of_isAsciiName name, ← lower, if_neg truth.1, if_neg truth.2]
    rw [Spelling.spellWord, Spelling.spellWord, other word following same.name rfl,
      other word' following' same.name' same.lower, spellCall_of_isAsciiName same.name opens,
      spellCall_of_isAsciiName same.name' opens', same.lower]

end

-- ---------------------------------------------------------------------------
-- Tokens
-- ---------------------------------------------------------------------------

inductive IsBody (quote : Char) : List Char → Prop
  | nil : IsBody quote []
  | plain (other : c ≠ quote) (unescaped : c ≠ '\\') (rest : IsBody quote cs) :
      IsBody quote (c :: cs)
  | escaped (noLine : c ≠ '\n') (rest : IsBody quote cs) : IsBody quote ('\\' :: c :: cs)

theorem literalTail?_of_isBody {quote : Char} (quoted : IsQuote quote) (body : IsBody quote cs)
    (rest : List Char) : literalTail? quote (cs ++ quote :: rest) = some (cs.length + 1) := by
  have unescaped : quote ≠ '\\' := by rcases quoted with rfl | rfl <;> decide
  induction body with
  | nil => simp [literalTail?, unescaped]
  | plain other simple _ ih => simp [literalTail?, other, simple, ih]
  | escaped noLine _ ih => simp [literalTail?, noLine, ih]

def operators : List (List Char) :=
  [['<'], ['>'], ['<', '='], ['>', '='], ['=', '='], ['!', '='], ['&', '&'], ['|', '|'], ['!'],
    ['='], ['<', '>'], ['&'], ['|'], ['<', '<'], ['>', '>']]

/-- A token that is written without blanks around it: a number, a name, a parenthesis or another
text without operators that are rewritten; an operator; a string literal. -/
inductive IsToken : List Char → Prop
  | plain (given : token ≠ [])
      (quiet : ∀ c ∈ token, Text.isBlank c = false ∧ IsPlain c ∧ c ∉ marks) : IsToken token
  | operator (listed : token ∈ operators) : IsToken token
  | literal (quoted : IsQuote quote) (body : IsBody quote cs) :
      IsToken (quote :: (cs ++ [quote]))

def spellings : List (List Char × List Char) :=
  [("and".toList, "&&".toList), ("or".toList, "||".toList), ("not".toList, "!".toList),
    ("==".toList, "=".toList), ("!=".toList, "<>".toList)]

/-- Some operators of the first row have their alternative spelling in the second one, and some
truth values, and some names before a parenthesis, have their letters in another case. -/
inductive Respelling : List (List Char) → List (List Char) → Prop
  | nil : Respelling [] []
  | keep (token : IsToken t) (rest : Respelling ts us) : Respelling (t :: ts) (t :: us)
  | operator (listed : (t, u) ∈ spellings) (rest : Respelling ts us) :
      Respelling (t :: ts) (u :: us)
  | truth (same : SameCase t u) (truth : t.map Text.lowerAscii ∈ truthWords)
      (rest : Respelling ts us) : Respelling (t :: ts) (u :: us)
  | call (same : SameCase t u) (rest : Respelling ts us) :
      Respelling (t :: ['('] :: ts) (u :: ['('] :: us)

def written (tokens : List (List Char)) : String := String.ofList ([' '].intercalate tokens)

-- ---------------------------------------------------------------------------
-- Code between literals
-- ---------------------------------------------------------------------------

/-- The code of two rows up to the next literal, from the space before a token on. The end of a
condition needs no space. -/
inductive IsRow (loose : Bool) : List Char → List Char → Prop
  | last (allowed : loose = true) : IsRow loose [] []
  | space (alike : ∀ gap gap', gap ≠ [] → gap' ≠ [] → IsGap gap → IsGap gap' →
      Alike loose (gap ++ spellMarks cs) (gap' ++ spellMarks ds)) :
      IsRow loose (' ' :: cs) (' ' :: ds)

section

variable {quote : Char} {loose : Bool} {cs ds gap gap' left right rest : List Char}

theorem isGap_nil : IsGap [] := List.forall_mem_nil _

theorem isGap_space : IsGap [' '] := by decide

theorem spellMarks_cons_space (cs : List Char) : spellMarks (' ' :: cs) = ' ' :: spellMarks cs :=
  spellMarks_space [] cs

namespace IsRow

theorem literal : IsRow false [' '] [' '] :=
  .space fun _ _ given given' blank blank' =>
    .blanks given given' blank blank' (.last isGap_nil isGap_nil fun _ => ⟨rfl, rfl⟩)

theorem alike (row : IsRow loose cs ds) (blank : IsGap gap) (blank' : IsGap gap') :
    Alike loose (gap ++ spellMarks cs) (gap' ++ spellMarks ds) := by
  cases row with
  | last allowed =>
    refine .last ?_ ?_ fun tight => absurd (allowed.symm.trans tight) Bool.noConfusion
    · exact blank.append isGap_nil
    · exact blank'.append isGap_nil
  | @space cs ds alike =>
    rw [spellMarks_cons_space, spellMarks_cons_space, List.append_cons, List.append_cons gap']
    exact alike _ _ (by simp) (by simp) (blank.append isGap_space) (blank'.append isGap_space)

theorem append (row : IsRow loose cs ds) (left right : List Char) :
    spellMarks (left ++ cs) = spellMarks left ++ spellMarks cs ∧
      spellMarks (right ++ ds) = spellMarks right ++ spellMarks ds := by
  cases row with
  | last => simp [spellMarks, replacePair, doubleEquals, spellNot]
  | space =>
    simp only [spellMarks_space, spellMarks_cons_space, and_self]

theorem ends (row : IsRow loose cs ds) (blank : IsGap gap) :
    (∀ c, (gap ++ spellMarks cs).head? = some c → Text.isWord c = false) ∧
      ∀ c, (gap ++ spellMarks ds).head? = some c → Text.isWord c = false := by
  have space {c : Char} (blank : Text.isBlank c = true) : Text.isWord c = false := by
    cases word : Text.isWord c with
    | false => rfl
    | true => exact blank.symm.trans (Text.isBlank_of_isWord word)
  cases gap with
  | cons c gap =>
    have here := space (blank c List.mem_cons_self)
    constructor <;> (rintro d ⟨⟩; exact here)
  | nil =>
    cases row with
    | last => constructor <;> (rintro d ⟨⟩)
    | space =>
      rw [spellMarks_cons_space, spellMarks_cons_space]
      constructor <;> (rintro d ⟨⟩; decide)

theorem token (row : IsRow loose cs ds) (blank : IsGap gap) (blank' : IsGap gap')
    (spelled : spellMarks right = gap ++ spellMarks left ++ gap') :
    IsRow loose (' ' :: (left ++ cs)) (' ' :: (right ++ ds)) := by
  refine .space fun before before' given given' gap₁ gap₂ => ?_
  obtain ⟨first, second⟩ := row.append left right
  have behind := row.alike isGap_nil blank'
  have same := behind.append_same (row.ends isGap_nil).1 (row.ends blank').2 (spellMarks left)
  have whole : before' ++ (gap ++ spellMarks left ++ gap' ++ spellMarks ds) =
      (before' ++ gap) ++ (spellMarks left ++ (gap' ++ spellMarks ds)) := by
    simp only [List.append_assoc]
  rw [first, second, spelled, whole]
  exact .blanks given (List.append_ne_nil_of_left_ne_nil given' _) gap₁ (gap₂.append blank) same

theorem word (row : IsRow loose cs ds) (same : SameCase left right)
    (spelled : spellWord left (spellMarks cs) = spellWord right (spellMarks ds)) :
    IsRow loose (' ' :: (left ++ cs)) (' ' :: (right ++ ds)) := by
  have run {word : List Char} (name : Text.isAsciiName word = true) :
      ∀ c ∈ word, Text.isWord c = true := fun c h =>
    Text.isWord_of_isAsciiWord (Text.isAsciiWord_of_isAsciiName name c h)
  have kept {word : List Char} (name : Text.isAsciiName word = true) :
      spellMarks word = word := by
    refine spellMarks_of_forall fun c h listed => ?_
    have word := Text.isAsciiWord_of_isAsciiName name c h
    revert word
    exact (by decide : ∀ c ∈ marks, ¬ Text.isAsciiWord c = true) c listed
  refine .space fun before before' given given' gap₁ gap₂ => ?_
  obtain ⟨first, second⟩ := row.append left right
  rw [first, second, kept same.name, kept same.name']
  exact .blanks given given' gap₁ gap₂ <|
    .word (Text.ne_nil_of_isAsciiName same.name) (Text.ne_nil_of_isAsciiName same.name')
      (run same.name) (run same.name') (row.ends isGap_nil).1 (row.ends isGap_nil).2 spelled
      (row.alike isGap_nil isGap_nil)

theorem spaced (row : IsRow loose cs ds) :
    Spaced loose (normalizeCode cs) (normalizeCode ds) := by
  rw [normalizeCode_eq, normalizeCode_eq]
  exact (row.alike isGap_nil isGap_nil).mapWords.spellIf true

end IsRow

end

-- ---------------------------------------------------------------------------
-- Conditions
-- ---------------------------------------------------------------------------

/-- Two conditions cut at the same literals, with code between that differs in spelling only. -/
inductive Parallel : List Segment → List Segment → Prop
  | last (row : IsRow true cs ds) : Parallel [.code cs] [.code ds]
  | next (row : IsRow false cs ds) (rest : Parallel segs segs') :
      Parallel (.code cs :: .literal literal :: segs) (.code ds :: .literal literal :: segs')

def CutAlike (cs ds : List Char) : Prop :=
  ∃ code code' segs segs', IsCut (.code code :: segs) cs ∧ IsCut (.code code' :: segs') ds ∧
    Parallel (.code code :: segs) (.code code' :: segs')

def padded (tokens : List (List Char)) : List Char := tokens.flatMap (' ' :: ·)

section

variable {quote : Char} {cs ds front front' body code : List Char} {segs segs' : List Segment}

theorem IsCut.plain_append (plain : ∀ c ∈ front, IsPlain c) (cut : IsCut (.code code :: segs) cs) :
    IsCut (.code (front ++ code) :: segs) (front ++ cs) := by
  cases cut with
  | last free => exact .last (.plain_append plain free)
  | next free closes rest =>
    rw [← List.append_assoc]
    exact .next (.plain_append plain free) closes rest

theorem CutAlike.append (alike : CutAlike cs ds) (plain : ∀ c ∈ front, IsPlain c)
    (plain' : ∀ c ∈ front', IsPlain c)
    (step : ∀ {loose code code'}, IsRow loose code code' →
      IsRow loose (front ++ code) (front' ++ code')) :
    CutAlike (front ++ cs) (front' ++ ds) := by
  obtain ⟨code, code', segs, segs', cut, cut', parallel⟩ := alike
  refine ⟨_, _, segs, segs', cut.plain_append plain, cut'.plain_append plain', ?_⟩
  cases parallel with
  | last row => exact .last (step row)
  | next row rest => exact .next (step row) rest

theorem CutAlike.literal (alike : CutAlike cs ds) (quoted : IsQuote quote)
    (inside : IsBody quote body) :
    CutAlike (' ' :: quote :: (body ++ [quote] ++ cs))
      (' ' :: quote :: (body ++ [quote] ++ ds)) := by
  obtain ⟨code, code', segs, segs', cut, cut', parallel⟩ := alike
  have apart {cs : List Char} {segs : List Segment} (cut : IsCut segs cs) :
      IsCut (.code [' '] :: .literal (quote :: (body ++ [quote])) :: segs)
        (' ' :: quote :: (body ++ [quote] ++ cs)) := by
    have closes := literalTail?_of_isBody quoted inside cs
    have free : IsCode [' '] (quote :: (body ++ [quote] ++ cs)) :=
      ⟨literalLength?_code (by simp [IsQuote]), trivial⟩
    refine .next free ?_ cut
    rw [literalLength?_quote quoted, List.append_assoc, List.singleton_append, closes]
    simp
  exact ⟨_, _, _, _, apart cut, apart cut', .next .literal parallel⟩

theorem plain_operators : ∀ token ∈ operators, ∀ c ∈ token, IsPlain c := by decide

theorem plain_spellings : ∀ pair ∈ spellings,
    (∀ c ∈ pair.1, IsPlain c) ∧ ∀ c ∈ pair.2, IsPlain c := by
  decide

theorem spellMarks_spellings : ∀ pair ∈ spellings,
    spellMarks pair.2 = [] ++ spellMarks pair.1 ++ [] ∨
      spellMarks pair.2 = [' '] ++ spellMarks pair.1 ++ [' '] := by
  decide

theorem plain_of_isAsciiName (name : Text.isAsciiName cs = true) : ∀ c ∈ cs, IsPlain c :=
  fun c h => (isInner_of_isWord
    (Text.isWord_of_isAsciiWord (Text.isAsciiWord_of_isAsciiName name c h))).2

theorem plain_cons_space (plain : ∀ c ∈ cs, IsPlain c) : ∀ c ∈ ' ' :: cs, IsPlain c :=
  List.forall_mem_cons.mpr ⟨by decide, plain⟩

theorem Respelling.cutAlike (same : Respelling ts us) : CutAlike (padded ts) (padded us) := by
  induction same with
  | nil => exact ⟨[], [], [], [], .last trivial, .last trivial, .last (.last rfl)⟩
  | keep token _ ih =>
    cases token with
    | plain _ quiet =>
      have plain := plain_cons_space fun c h => (quiet c h).2.1
      exact ih.append plain plain fun row => row.token isGap_nil isGap_nil (by simp)
    | operator listed =>
      have plain := plain_cons_space (plain_operators _ listed)
      exact ih.append plain plain fun row => row.token isGap_nil isGap_nil (by simp)
    | literal quoted inside => exact ih.literal quoted inside
  | operator listed _ ih =>
    obtain ⟨plain, plain'⟩ := plain_spellings _ listed
    refine ih.append (plain_cons_space plain) (plain_cons_space plain') fun row => ?_
    rcases spellMarks_spellings _ listed with spelled | spelled
    · exact row.token isGap_nil isGap_nil spelled
    · exact row.token isGap_space isGap_space spelled
  | truth same truth _ ih =>
    refine ih.append (plain_cons_space (plain_of_isAsciiName same.name))
      (plain_cons_space (plain_of_isAsciiName same.name')) fun row => row.word same ?_
    rw [spellWord, spellWord, same.spellTruth truth]
    exact spellCall_congr _ (row.alike isGap_nil isGap_nil).opensCall
  | @call left right ts us same _ ih =>
    have plain {cs : List Char} (name : Text.isAsciiName cs = true) :
        ∀ c ∈ ' ' :: (cs ++ " (".toList), IsPlain c :=
      plain_cons_space (List.forall_mem_append.mpr ⟨plain_of_isAsciiName name, by decide⟩)
    have split (cs : List Char) (tokens : List (List Char)) :
        padded (cs :: ['('] :: tokens) = (' ' :: (cs ++ " (".toList)) ++ padded tokens := by
      simp [padded]
    rw [split, split]
    refine ih.append (plain same.name) (plain same.name') fun {loose code code'} row => ?_
    have opening : IsRow loose (' ' :: (['('] ++ code)) (' ' :: (['('] ++ code')) :=
      row.token isGap_nil isGap_nil (by simp)
    obtain ⟨first, second⟩ := row.append ['('] ['(']
    have opens (code : List Char) (split : spellMarks (['('] ++ code) = ['('] ++ spellMarks code) :
        opensCall (spellMarks (' ' :: (['('] ++ code))) = true := by
      rw [spellMarks_cons_space, split]
      rfl
    have called := opening.word same (same.spellWord (opens code first) (opens code' second))
    simpa using called

theorem Parallel.squeezed (parallel : Parallel segs segs') :
    ∃ front gap gap', respelled (squeeze false ∘ normalizeCode) segs = front ++ gap ∧
      respelled (squeeze false ∘ normalizeCode) segs' = front ++ gap' ∧ IsGap gap ∧ IsGap gap' := by
  induction parallel with
  | last row =>
    obtain ⟨front, gap, gap', left, right, blank, blank', -⟩ := row.spaced.squeeze false
    refine ⟨front, gap, gap', ?_, ?_, blank, blank'⟩
    · rw [respelled_code, Function.comp_apply, left]
      exact List.append_nil _
    · rw [respelled_code, Function.comp_apply, right]
      exact List.append_nil _
  | @next cs ds segs segs' literal row _ ih =>
    obtain ⟨front, gap, gap', left, right, blank⟩ := ih
    obtain ⟨code, _, _, first, second, -, -, tight⟩ := row.spaced.squeeze false
    obtain ⟨rfl, rfl⟩ := tight rfl
    refine ⟨code ++ (literal ++ front), gap, gap', ?_, ?_, blank⟩
    · rw [respelled_literal, Function.comp_apply, first, left]
      simp only [List.append_nil, List.append_assoc]
    · rw [respelled_literal, Function.comp_apply, second, right]
      simp only [List.append_nil, List.append_assoc]

theorem CutAlike.tidy_eq (alike : CutAlike cs ds) :
    tidy (normalizeChars cs) = tidy (normalizeChars ds) := by
  obtain ⟨code, code', segs, segs', cut, cut', parallel⟩ := alike
  obtain ⟨front, gap, gap', left, right, blank, blank'⟩ := parallel.squeezed
  rw [tidy_normalizeChars, tidy_normalizeChars, cut.segments_eq, cut'.segments_eq, left, right,
    trimBoth_append_gap blank, trimBoth_append_gap blank']

-- ---------------------------------------------------------------------------
-- The space in front
-- ---------------------------------------------------------------------------

theorem trimLeft_squeeze (behind : Bool) (cs rest : List Char) :
    Text.trimLeft (squeeze behind cs ++ rest) = Text.trimLeft (squeeze true cs ++ rest) := by
  cases behind with
  | true => rfl
  | false =>
    cases cs with
    | nil => rfl
    | cons c cs =>
      have space : Text.isBlank ' ' = true := rfl
      cases blank : Text.isBlank c <;> simp [squeeze, blank, Text.trimLeft, space]

theorem normalizeCode_cons_space (cs : List Char) :
    normalizeCode (' ' :: cs) = ' ' :: normalizeCode cs := by
  have space (rest : List Char) :
      mapWords spellWord (' ' :: rest) = ' ' :: mapWords spellWord rest :=
    mapWords_gap isGap_space rest
  rw [normalizeCode_eq, normalizeCode_eq, spellMarks_cons_space, space]
  exact spellIf_gap (List.cons_ne_nil _ _) isGap_space true _

theorem tidy_cons_space (cs : List Char) :
    tidy (normalizeChars (' ' :: cs)) = tidy (normalizeChars cs) := by
  have cut := isCut_segments cs
  obtain ⟨code, segs, whole⟩ : ∃ code segs, segments cs = .code code :: segs := by
    generalize segments cs = segs at cut
    cases cut with
    | last => exact ⟨_, _, rfl⟩
    | next => exact ⟨_, _, rfl⟩
  rw [whole] at cut
  have pushed : segments (' ' :: cs) = .code (' ' :: code) :: segs :=
    (cut.plain_append (plain_cons_space (List.forall_mem_nil _))).segments_eq
  have blank : Text.isBlank ' ' = true := rfl
  have dropped : Text.trimLeft (squeeze false (' ' :: normalizeCode code) ++
      respelled (squeeze false ∘ normalizeCode) segs) =
        Text.trimLeft (squeeze true (normalizeCode code) ++
          respelled (squeeze false ∘ normalizeCode) segs) := by
    simp [squeeze, blank, Text.trimLeft]
  rw [tidy_normalizeChars, tidy_normalizeChars, pushed, whole, respelled_code, respelled_code,
    Function.comp_apply, Function.comp_apply, normalizeCode_cons_space, Text.trimBoth,
    Text.trimBoth, dropped, trimLeft_squeeze false]

theorem padded_eq (given : tokens ≠ []) : padded tokens = ' ' :: [' '].intercalate tokens := by
  induction tokens with
  | nil => exact absurd rfl given
  | cons token rest ih =>
    cases rest with
    | nil => simp [padded]
    | cons next rest =>
      have further := ih (List.cons_ne_nil _ _)
      rw [padded] at further ⊢
      rw [List.flatMap_cons, further, List.intercalate_cons_cons]
      simp

theorem Respelling.eq_nil_iff (same : Respelling ts us) : ts = [] ↔ us = [] := by
  cases same <;> simp

end

/-- The spelling of its tokens does not count in a condition: what is normalised is the same text
once blanks at the ends are dropped and all others are shortened to one space, literals apart. -/
theorem normalize_respelling (same : Respelling ts us) :
    tidy (normalize (written ts)).toList = tidy (normalize (written us)).toList := by
  simp only [normalize, written, String.toList_ofList]
  by_cases none : ts = []
  · rw [none, same.eq_nil_iff.mp none]
  · have padding := same.cutAlike.tidy_eq
    rwa [padded_eq none, padded_eq (mt same.eq_nil_iff.mpr none), tidy_cons_space,
      tidy_cons_space] at padding

def plainTokens : List (List Char) :=
  ["not", "(", "x", "==", "'\\'&&'", ")", "and", "if", "(", "true", ",", "1", "!=", "2", ")"].map
    String.toList

def otherTokens : List (List Char) :=
  ["!", "(", "x", "=", "'\\'&&'", ")", "&&", "IF", "(", "tRUE", ",", "1", "<>", "2", ")"].map
    String.toList

theorem respelling_otherTokens : Respelling plainTokens otherTokens := by
  have plain (c : Char) (quiet : Text.isBlank c = false ∧ IsPlain c ∧ c ∉ marks) : IsToken [c] :=
    .plain (List.cons_ne_nil _ _) (List.forall_mem_singleton.mpr quiet)
  have quoted : IsToken "'\\'&&'".toList := by
    have body : IsBody '\'' ['\\', '\'', '&', '&'] := .escaped (by decide) <|
      .plain (by decide) (by decide) <| .plain (by decide) (by decide) .nil
    exact .literal (.inl rfl) body
  refine .operator (by decide) <| .keep (plain '(' (by decide)) <|
    .keep (plain 'x' (by decide)) <| .operator (by decide) <| .keep quoted <|
    .keep (plain ')' (by decide)) <| .operator (by decide) <| .call ⟨rfl, rfl, rfl⟩ ?_
  exact .truth ⟨rfl, rfl, rfl⟩ (by decide) <| .keep (plain ',' (by decide)) <|
    .keep (plain '1' (by decide)) <| .operator (by decide) <| .keep (plain '2' (by decide)) <|
    .keep (plain ')' (by decide)) .nil

/-- Operators in a literal are left alone, and the blanks that spellings bring along do not
count. -/
theorem normalize_respelling_otherTokens :
    tidy (normalize (written plainTokens)).toList =
        tidy (normalize (written otherTokens)).toList ∧
      tidy (normalize (written otherTokens)).toList =
        "not ( x == '\\'&&' ) and iif( True , 1 != 2 )".toList :=
  ⟨normalize_respelling respelling_otherTokens, by decide +kernel⟩

/-- A quoted text with a backslash before a line feed is no literal to the rewrites: the quote that
ends it opens a literal instead, and the operator behind it is left alone. -/
theorem normalize_continued :
    let quoted := "'a\\\nb'".toList
    tidy (normalize (written [quoted, "==".toList, "'c'".toList])).toList ≠
      tidy (normalize (written [quoted, "=".toList, "'c'".toList])).toList := by
  decide +kernel

end Flowline.Condition.Spelling

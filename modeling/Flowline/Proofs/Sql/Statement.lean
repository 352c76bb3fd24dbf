import Flowline.Sql.Statement
import Mathlib.Data.List.Forall2

/-!
# Statements that only read

A statement that a reading node may run is not blank, and none of the forbidden words stands alone
in it. The check of statements is exactly this, wherever in the text the word is and whatever the
case of its letters.
-/

namespace Flowline.Sql

-- ---------------------------------------------------------------------------
-- Words that stand alone
-- ---------------------------------------------------------------------------

abbrev SameWord (word piece : List Char) : Prop :=
  List.Forall₂ (fun letter c => Text.sameLetter letter c = true) word piece

/-- A word stands alone in a text: no word character is next to it. -/
def StandsIn (word text : String) : Prop :=
  ∃ before piece after, text.toList = before ++ piece ++ after ∧ SameWord word.toList piece ∧
    (∀ c ∈ before.getLast?, Text.isWord c = false) ∧ ∀ c ∈ after.head?, Text.isWord c = false

theorem afterWord?_eq_some_iff {word text rest : List Char} :
    afterWord? word text = some rest ↔ ∃ piece, text = piece ++ rest ∧ SameWord word piece := by
  fun_induction afterWord? word text with
  | case1 text => simp [eq_comm]
  | case2 letter word => simp [List.forall₂_cons_left_iff]
  | case3 letter word c text same ih =>
    rw [ih]
    constructor
    · rintro ⟨piece, rfl, alike⟩
      exact ⟨c :: piece, rfl, .cons same alike⟩
    · rintro ⟨piece, split, alike⟩
      cases alike with
      | cons _ alike =>
        obtain ⟨rfl, rfl⟩ := List.cons.inj split
        exact ⟨_, rfl, alike⟩
  | case4 letter word c text other =>
    simp only [reduceCtorEq, false_iff, not_exists, not_and]
    rintro piece split alike
    cases alike with
    | cons same _ =>
      obtain ⟨rfl, -⟩ := List.cons.inj split
      exact other same

theorem startsWithWordChar_eq_false_iff {text : List Char} :
    startsWithWordChar text = false ↔ ∀ c ∈ text.head?, Text.isWord c = false := by
  cases text <;> simp [startsWithWordChar]

def StandsFirst (word text : List Char) : Prop :=
  ∃ piece after, text = piece ++ after ∧ SameWord word piece ∧
    ∀ c ∈ after.head?, Text.isWord c = false

theorem standsFirst_iff {word text : List Char} :
    (match afterWord? word text with
      | some rest => !startsWithWordChar rest
      | none => false) = true ↔ StandsFirst word text := by
  cases found : afterWord? word text with
  | none =>
    simp only [Bool.false_eq_true, false_iff]
    rintro ⟨piece, after, split, alike, -⟩
    simp [afterWord?_eq_some_iff.mpr ⟨piece, split, alike⟩] at found
  | some rest =>
    obtain ⟨piece, split, alike⟩ := afterWord?_eq_some_iff.mp found
    rw [Bool.not_eq_true', startsWithWordChar_eq_false_iff]
    constructor
    · exact fun free => ⟨piece, rest, split, alike, free⟩
    · rintro ⟨piece', after, split', alike', free⟩
      have other := afterWord?_eq_some_iff.mpr ⟨piece', split', alike'⟩
      rw [found, Option.some.injEq] at other
      exact other ▸ free

theorem elim_getLast?_cons (c : Char) (before : List Char) (inside : Bool) :
    (c :: before).getLast?.elim inside Text.isWord =
      before.getLast?.elim (Text.isWord c) Text.isWord := by
  cases before with
  | nil => rfl
  | cons d before => simp [List.getLast?_cons]

/-- The search finds a word wherever it stands alone; whether a word character precedes the text
counts for its front. -/
theorem holdsWordFrom_iff {word text : List Char} {inside : Bool} :
    holdsWordFrom word inside text = true ↔
      ∃ before rest, text = before ++ rest ∧ StandsFirst word rest ∧
        before.getLast?.elim inside Text.isWord = false := by
  induction text generalizing inside with
  | nil =>
    simp only [holdsWordFrom, Bool.and_eq_true, Bool.not_eq_true']
    constructor
    · rintro ⟨outside, first⟩
      exact ⟨[], [], rfl, standsFirst_iff.mp first, outside⟩
    · rintro ⟨before, rest, split, first, outside⟩
      obtain ⟨rfl, rfl⟩ := List.append_eq_nil_iff.mp split.symm
      exact ⟨outside, standsFirst_iff.mpr first⟩
  | cons c text ih =>
    simp only [holdsWordFrom, Bool.or_eq_true, Bool.and_eq_true, Bool.not_eq_true', ih]
    constructor
    · rintro (⟨outside, first⟩ | ⟨before, rest, rfl, first, outside⟩)
      · exact ⟨[], c :: text, rfl, standsFirst_iff.mp first, outside⟩
      · exact ⟨c :: before, rest, rfl, first, (elim_getLast?_cons ..).trans outside⟩
    · rintro ⟨before, rest, split, first, outside⟩
      cases before with
      | nil =>
        left
        exact ⟨outside, standsFirst_iff.mpr (split ▸ first)⟩
      | cons d before =>
        right
        obtain ⟨rfl, rfl⟩ := List.cons.inj split
        exact ⟨before, rest, rfl, first, (elim_getLast?_cons ..).symm.trans outside⟩

theorem holdsWord_iff {word text : String} : holdsWord word text = true ↔ StandsIn word text := by
  rw [holdsWord, holdsWordFrom_iff]
  constructor
  · rintro ⟨before, rest, split, ⟨piece, after, rfl, alike, free⟩, outside⟩
    refine ⟨before, piece, after, by simp [split], alike, ?_, free⟩
    intro c last
    simpa [Option.mem_def.mp last] using outside
  · rintro ⟨before, piece, after, split, alike, outside, free⟩
    refine ⟨before, piece ++ after, by simp [split], ⟨piece, after, rfl, alike, free⟩, ?_⟩
    cases last : before.getLast? with
    | none => rfl
    | some c => exact outside c last

-- ---------------------------------------------------------------------------
-- The check
-- ---------------------------------------------------------------------------

/-- What a statement must be to only read. -/
structure IsSafe (sql : String) : Prop where
  notBlank : ∃ c ∈ sql.toList, Text.isBlank c = false
  noWord : ∀ word ∈ forbiddenWords, ¬ StandsIn word sql

/-- Exactly the safe statements pass the check. -/
theorem refusal?_eq_none_iff {sql : String} : refusal? true sql = none ↔ IsSafe sql := by
  have blank : Text.isBlankText sql = false ↔ ∃ c ∈ sql.toList, Text.isBlank c = false := by
    simp [Text.isBlankText]
  have word : forbiddenWords.find? (holdsWord · sql) = none ↔
      ∀ word ∈ forbiddenWords, ¬ StandsIn word sql := by
    simp only [List.find?_eq_none, holdsWord_iff]
  unfold refusal?
  constructor
  · intro passed
    split at passed
    · cases passed
    · rename_i some
      exact ⟨blank.mp (by simpa using some), word.mp (by simpa using passed)⟩
  · rintro ⟨some, noWord⟩
    simp [blank.mpr some, word.mpr noWord]

example : refusal? true "SELECT updated FROM t; dElete FROM t" = some (.forbidden "DELETE") := by
  decide +kernel

end Flowline.Sql

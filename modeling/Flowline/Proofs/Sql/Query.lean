import Flowline.Proofs.Text.Case
import Flowline.Sql.Statement
import Mathlib.Data.List.TakeWhile

/-!
# The word that tells a query

A statement produces rows if its first word, the run of word characters at the front of its body, is
a query word in any case. It is taken for such a statement only if a blank or the end of the text
follows that word: `SELECT*` counts as one word that is no query word.

That only word characters make up a query word is read off the table of capitals: what becomes an
ASCII letter in upper case is a letter itself.
-/

namespace Flowline.Sql

def firstWord (sql : String) : String :=
  String.ofList ((stripComments sql.toList).takeWhile Text.isWord)

def behindWord (sql : String) : List Char := (stripComments sql.toList).dropWhile Text.isWord

variable {cs : List Char}

-- ---------------------------------------------------------------------------
-- Runs of word characters and runs without blanks
-- ---------------------------------------------------------------------------

theorem takeWhile_notBlank (ends : ∀ c ∈ (cs.dropWhile Text.isWord).head?, Text.isBlank c = true) :
    cs.takeWhile (!Text.isBlank ·) = cs.takeWhile Text.isWord := by
  have inside : ∀ c ∈ cs.takeWhile Text.isWord, (!Text.isBlank c) = true := fun c listed => by
    simp [Text.isBlank_of_isWord (List.mem_takeWhile_imp listed)]
  have behind : ∀ c, (cs.dropWhile Text.isWord).head? = some c → (!Text.isBlank c) = false :=
    fun c next => by simp [ends c next]
  have run := Text.takeWhile_run inside behind
  rwa [List.takeWhile_append_dropWhile] at run

theorem head?_dropWhile_notBlank {c : Char}
    (next : (cs.dropWhile (!Text.isBlank ·)).head? = some c) : Text.isBlank c = true := by
  simpa using Text.eq_false_of_head?_dropWhile next

theorem span_isWord (word : ∀ c ∈ cs.takeWhile (!Text.isBlank ·), Text.isWord c = true) :
    cs.takeWhile Text.isWord = cs.takeWhile (!Text.isBlank ·) ∧
      cs.dropWhile Text.isWord = cs.dropWhile (!Text.isBlank ·) := by
  have behind : ∀ c, (cs.dropWhile (!Text.isBlank ·)).head? = some c → Text.isWord c = false :=
    fun c next => Bool.eq_false_iff.mpr fun inside => by
      simpa [Text.isBlank_of_isWord inside] using head?_dropWhile_notBlank next
  have taken := Text.takeWhile_run word behind
  have dropped := Text.dropWhile_run word behind
  rw [List.takeWhile_append_dropWhile] at taken dropped
  exact ⟨taken, dropped⟩

-- ---------------------------------------------------------------------------
-- Query words
-- ---------------------------------------------------------------------------

theorem queryWords_letters :
    ∀ word ∈ queryWords, ∀ c ∈ word.toList, Text.isAsciiLetter c = true := by
  decide

theorem isWord_of_upper (query : Text.upper (String.ofList cs) ∈ queryWords) :
    ∀ c ∈ cs, Text.isWord c = true := by
  intro c listed
  refine Text.isWord_of_upperChar fun d image => queryWords_letters _ query d ?_
  simp only [Text.upper, String.toList_ofList, List.mem_flatMap]
  exact ⟨c, listed, image⟩

theorem isQuery_eq_true_iff {sql : String} : isQuery sql = true ↔
    Text.upper (String.ofList ((stripComments sql.toList).takeWhile (!Text.isBlank ·)))
      ∈ queryWords := by
  simp only [isQuery, Bool.and_eq_true, List.contains_iff_mem, and_iff_right_iff_imp]
  intro query
  cases run : (stripComments sql.toList).takeWhile (!Text.isBlank ·) with
  | nil =>
    rw [run] at query
    exact absurd query (by decide)
  | cons => rfl

/-- Exactly the statements are taken for queries whose first word is a query word, in any case, with
a blank or nothing behind it. -/
theorem isQuery_iff (sql : String) : isQuery sql = true ↔
    Text.upper (firstWord sql) ∈ queryWords ∧
      ∀ c ∈ (behindWord sql).head?, Text.isBlank c = true := by
  rw [isQuery_eq_true_iff, firstWord, behindWord]
  constructor
  · intro query
    obtain ⟨taken, dropped⟩ := span_isWord (isWord_of_upper query)
    rw [taken, dropped]
    exact ⟨query, fun c next => head?_dropWhile_notBlank next⟩
  · rintro ⟨query, ends⟩
    rwa [takeWhile_notBlank ends]

example : isQuery "-- note\nexplaın\tt" = true ∧ isQuery "SELECT;" = false := by decide +kernel

/-- A query word is not seen in front of a character that no word has. -/
theorem isQuery_starred : ¬ ∀ sql : String, isQuery sql = true ↔
    Text.upper (firstWord sql) ∈ queryWords := by
  intro reads
  have word : Text.upper (firstWord "SELECT*FROM t") = "SELECT" := by decide +kernel
  have query := (reads "SELECT*FROM t").mpr (word ▸ List.mem_cons_self)
  have counted : isQuery "SELECT*FROM t" = false := by decide +kernel
  rw [counted] at query
  cases query

end Flowline.Sql
